import Chainmail.JsonCanonical
import Chainmail.RecordHops
import Chainmail.RelayExpiry
import Chainmail.RoutingKeys

/-!
Whatever bytes its peers send, everything that a relay of `src/network/relay-node.js` has in
its store came out of a JSON text. So its answers to fetch requests arrive as they were made.
-/

namespace Chainmail.RelayNode

open Json DhtStorage
open RecordHops (Kept created_canonical withProof_kept)

variable {P : Packages} {signer : Option Signer} {record : MessageRecord} {now : Moment}

/-- All that is stored of a message is printed and read back as it is. -/
structure Printable (record : MessageRecord) : Prop where
  id : Canonical record.id
  recipient : ∀ value, record.recipient = some value → Canonical value
  data : ∀ value, record.data = some value → Canonical value
  timestamp : Canonical record.timestamp
  expires : Canonical record.expires
  storageProofs : ∀ proof ∈ record.storageProofs, Canonical proof.toJSON
  replicationCount : Canonical record.replicationCount

theorem Printable.toJSON_canonical (printable : Printable record) : Canonical record.toJSON := by
  rw [MessageRecord.toJSON]
  apply canonical_ofFields ["id", "recipient", "data", "timestamp", "expires", "storageProofs",
    "replicationCount"] rfl (by decide)
  · simp only [List.mem_cons, List.not_mem_nil, or_false, forall_eq_or_imp, forall_eq,
      Option.some.injEq, forall_eq']
    exact ⟨printable.id, printable.recipient, printable.data, printable.timestamp,
      printable.expires, canonicalItems_map printable.storageProofs, printable.replicationCount⟩

theorem orElse_canonical {value : Option Json} {fallback : Json} (canonical : Canonical fallback)
    (given : ∀ found, value = some found → Canonical found) :
    Canonical (orElse value fallback) := by
  cases value with
  | none => exact canonical
  | some found =>
      rw [orElse]
      split
      · exact given found rfl
      · exact canonical

theorem construct_printable {options : Json} {storageProofs : List StorageProof}
    (canonical : Canonical options) (proofs : ∀ proof ∈ storageProofs, Canonical proof.toJSON)
    (draw : RandomId) (now : Moment) :
    Printable (.construct options storageProofs draw now) where
  id := orElse_canonical trivial fun _ => field_canonical canonical
  recipient _ := field_canonical canonical
  data _ := field_canonical canonical
  timestamp := orElse_canonical (canonical_natural now.ms) fun _ => field_canonical canonical
  expires := orElse_canonical (canonical_natural (now.ms + MESSAGE_TTL_MS))
    fun _ => field_canonical canonical
  storageProofs := proofs
  replicationCount := orElse_canonical (canonical_natural 0) fun _ => field_canonical canonical

theorem proof_canonical {json : Json} {proof : StorageProof} (canonical : Canonical json)
    (read : StorageProof.fromJSON json = .ok proof) : Canonical proof.toJSON := by
  obtain ⟨nodeId, known, made⟩ := bind_ok_iff.mp read
  cases made
  have own : ∀ value, nodeId = some value → Canonical value := by
    rintro value rfl
    cases json with
    | object fields => exact field_canonical canonical (Except.ok.inj known)
    | null => cases known
    | _ => cases Except.ok.inj known
  apply canonical_ofFields ["nodeId", "messageHash", "timestamp", "signature"] rfl (by decide)
  · simp only [List.mem_cons, List.not_mem_nil, or_false, forall_eq_or_imp, forall_eq]
    exact ⟨own, fun _ => field_canonical canonical, fun _ => field_canonical canonical,
      fun _ => field_canonical canonical⟩

theorem proofsOf_canonical {json : Json} {proofs : List StorageProof} (canonical : Canonical json)
    (read : MessageRecord.proofsOf json = .ok proofs) :
    ∀ proof ∈ proofs, Canonical proof.toJSON := by
  obtain ⟨listed, known, made⟩ := bind_ok_iff.mp read
  split at made
  · cases made
    exact fun proof member => absurd member List.not_mem_nil
  · rename_i items given
    intro proof member
    have results := mapM_ok_map made
    have inside : (Except.ok proof : Except Failure StorageProof) ∈
        items.map StorageProof.fromJSON := results ▸ List.mem_map_of_mem member
    obtain ⟨item, itemInside, same⟩ := List.mem_map.mp inside
    have array : Canonical (.array items) := by
      have held : listed = some (.array items) := (Option.filter_eq_some_iff.mp given).1
      cases json with
      | object fields =>
          exact field_canonical canonical ((Except.ok.inj known).trans held)
      | null => cases known
      | _ => cases (Except.ok.inj known).trans held
    exact proof_canonical (canonicalItems_iff.mp array item itemInside) same
  · cases made

theorem withProof_printable {kept : MessageRecord} (printable : Printable record)
    (proved : withProof P signer record now = .ok kept) : Printable kept := by
  cases signer with
  | none =>
      obtain rfl := Except.ok.inj proved
      exact printable
  | some signer =>
      simp only [withProof, bind_ok_iff] at proved
      obtain ⟨_, _, proof, created, made⟩ := proved
      obtain rfl := Except.ok.inj made
      refine { printable with storageProofs := ?_, replicationCount := canonical_natural _ }
      intro other member
      rcases List.mem_append.mp member with earlier | own
      · exact printable.storageProofs other earlier
      · obtain rfl := List.mem_singleton.mp own
        exact created_canonical created

theorem entryOf_printable {entry : String × MessageRecord} (printable : Printable record)
    (entered : entryOf P signer record now = .ok entry) : Printable entry.2 := by
  obtain ⟨kept, proved, rest⟩ := bind_ok_iff.mp entered
  obtain ⟨key, _, made⟩ := bind_ok_iff.mp rest
  cases made
  exact withProof_printable printable proved

theorem storageKey_canonical {envelope key : Json} (canonical : Canonical envelope)
    (stored : storageKey envelope = .ok (some key)) : Canonical key := by
  rw [DMailNode.relay_storageKey] at stored
  split at stored
  · rename_i found given
    split at stored
    · cases stored
      have routed := (Option.filter_eq_some_iff.mp given).1
      rw [DMailNode.routeOf] at routed
      split at routed
      · exact field_canonical canonical routed
      · exact field_canonical canonical routed
    · cases stored
  · cases stored

/-- What a peer sends is JSON before anything of it is stored. -/
theorem written_printable {event : Event} {entry : String × MessageRecord}
    (wrote : entry ∈ written P signer event now) : Printable entry.2 := by
  cases event with
  | gossip data allowed draw coordinator =>
      obtain ⟨key, drawn, accepted, entered⟩ := gossip_entry wrote
      obtain ⟨envelope, parsed, checked⟩ := bind_ok_iff.mp accepted
      obtain ⟨_, _, keyed⟩ := bind_ok_iff.mp checked
      split at keyed
      · have canonical := storageKey_canonical (parseOrThrow_canonical parsed) keyed
        have options : Canonical (.object [("recipient", key), ("data", .string (toBase64 data)),
            ("timestamp", ofInt now.ms)]) :=
          canonical_object ["recipient", "data", "timestamp"] rfl (by decide)
            ⟨canonical, trivial, canonical_natural now.ms, trivial⟩
        exact entryOf_printable (construct_printable options
          (fun proof member => absurd member List.not_mem_nil) drawn now) entered
      · cases keyed
  | storeRequest data draw =>
      obtain ⟨record, requested, entered⟩ := request_entry wrote
      obtain ⟨request, parsed, asked⟩ := bind_ok_iff.mp requested
      obtain ⟨action, _, rest⟩ := bind_ok_iff.mp asked
      dsimp only at rest
      split at rest
      · cases rest
      · rename_i json given
        obtain ⟨made, read, done⟩ := bind_ok_iff.mp rest
        cases done
        obtain ⟨proofs, listed, constructed⟩ := bind_ok_iff.mp read
        cases constructed
        have held : present (request.field "record") = some json := by
          split at given
          · exact given
          · cases given
        have canonical := field_canonical (parseOrThrow_canonical parsed)
          (Option.filter_eq_some_iff.mp held).1
        exact entryOf_printable (construct_printable canonical (proofsOf_canonical canonical listed)
          draw now) entered
  | cleanup => cases wrote
  | delete recipient messageId => cases wrote

theorem held_written {past : List (Event × Moment)} {key : String}
    (held : (replay P signer past).db.get key = some record) :
    ∃ input ∈ past, (key, record) ∈ written P signer input.1 input.2 := by
  induction past with
  | nil => cases held
  | cons input earlier ih =>
      rcases step_held _ _ _ held with wrote | ⟨before, _⟩
      · exact ⟨input, List.mem_cons_self, wrote⟩
      · obtain ⟨other, member, wrote⟩ := ih before
        exact ⟨other, List.mem_cons_of_mem _ member, wrote⟩

theorem collect_subset (seenIds : List Json) (records : List MessageRecord) :
    ∀ record ∈ collect seenIds records, record ∈ records := by
  induction records generalizing seenIds with
  | nil => exact fun _ member => member
  | cons first rest ih =>
      intro record member
      rw [collect] at member
      split at member
      · exact List.mem_cons_of_mem _ (ih _ record member)
      · rcases List.mem_cons.mp member with rfl | inside
        · exact List.mem_cons_self
        · exact List.mem_cons_of_mem _ (ih _ record inside)

/-- A fetch hands out what is held. -/
theorem fetched_held {asked : List Json} {db : Database} {records : List MessageRecord}
    (fetched : fetchRecords asked now db = .ok records) :
    ∀ record ∈ records, ∃ key, db.get key = some record := by
  obtain ⟨ranges, got, made⟩ := bind_ok_iff.mp fetched
  cases made
  intro record member
  obtain ⟨range, listed, inside⟩ := List.mem_flatten.mp (collect_subset [] _ record member)
  have results := mapM_ok_map got
  have one : (Except.ok range : Except Failure (List MessageRecord)) ∈
      asked.map fun recipient => getMessages recipient now db :=
    results ▸ List.mem_map_of_mem listed
  obtain ⟨recipient, _, found⟩ := List.mem_map.mp one
  obtain ⟨text, _, rest⟩ := bind_ok_iff.mp found
  obtain ⟨live, unexpired, sorted⟩ := bind_ok_iff.mp rest
  have held := (unexpired_sublist unexpired).subset ((sortByTimestamp_perm sorted).subset inside)
  exact rangeOf_held held

/-- Whatever was sent to a relay, its answer to any fetch is read as it was made. -/
theorem answer_canonical {past : List (Event × Moment)} {data : Bytes} {now : Moment}
    {answer : Json}
    (answered : handleDHTFetchRequest data now (replay P signer past) = answer) :
    Canonical answer := by
  subst answered
  have failed : Canonical (.object [("error", .string "Fetch failed")]) :=
    canonical_object ["error"] rfl (by decide) ⟨trivial, trivial⟩
  have invalid : Canonical invalidRequest :=
    canonical_object ["error"] rfl (by decide) ⟨trivial, trivial⟩
  delta handleDHTFetchRequest
  cases asks : askedFor data with
  | error failure => exact failed
  | ok asked =>
      cases asked with
      | nil => exact invalid
      | cons first rest =>
          dsimp only
          cases fetched : fetchRecords (first :: rest) now (replay P signer past).db with
          | error failure => exact failed
          | ok records =>
              refine canonical_object ["messages"] rfl (by decide) ⟨?_, trivial⟩
              apply canonicalItems_map
              intro record member
              obtain ⟨key, held⟩ := fetched_held fetched record member
              obtain ⟨input, _, wrote⟩ := held_written held
              exact (written_printable wrote).toJSON_canonical

end Chainmail.RelayNode
