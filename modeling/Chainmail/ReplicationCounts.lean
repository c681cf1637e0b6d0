import Chainmail.PackageAssumptions
import Chainmail.RelaySteps
import Chainmail.Runs
import Mathlib.Data.List.Dedup

/-!
What a record's replication count says about its proofs. A node that signs counts
the proofs, whoever they are by and whatever they are of; a node that does not
keeps the count that a record comes with.
-/

namespace Chainmail

section Showing
variable {α β : Type} {shows : α → Option β} {items : List α}

theorem map_some_filterMap (each : ∀ item ∈ items, shows item ≠ none) :
    (items.filterMap shows).map some = items.map shows := by
  induction items with
  | nil => rfl
  | cons item rest ih =>
      obtain ⟨shown, known⟩ := Option.ne_none_iff_exists'.mp (each item List.mem_cons_self)
      rw [List.filterMap_cons_some known, List.map_cons, List.map_cons, known,
        ih fun other member => each other (List.mem_cons_of_mem _ member)]

/-- As many different things are shown as there are items exactly when every item is wanted and shows
    something, and no two show the same. -/
theorem shown_length_iff [DecidableEq β] (wanted : α → Bool) (shows : α → Option β)
    (items : List α) :
    ((items.filter wanted).filterMap shows).dedup.length = items.length ↔
      (∀ item ∈ items, wanted item = true ∧ shows item ≠ none) ∧ (items.map shows).Nodup := by
  have distinct := (List.dedup_sublist ((items.filter wanted).filterMap shows)).length_le
  have shown : ((items.filter wanted).filterMap shows).length ≤ (items.filter wanted).length :=
    List.length_filterMap_le _ _
  have kept : (items.filter wanted).length ≤ items.length := List.length_filter_le _ _
  constructor
  -- Each of the three steps only shortens the list, so none of them does.
  · intro whole
    have all : ∀ item ∈ items, wanted item = true :=
      List.filter_eq_self.mp (List.filter_sublist.eq_of_length (by omega))
    rw [List.filter_eq_self.mpr all] at whole distinct shown
    have each : ∀ item ∈ items, shows item ≠ none := by
      have counted : (items.filterMap shows).length = items.length := by omega
      rw [List.length_filterMap_eq_countP, List.countP_eq_length] at counted
      intro item member none
      simpa [none] using counted item member
    have apart : (items.filterMap shows).Nodup :=
      List.dedup_eq_self.mp ((List.dedup_sublist _).eq_of_length (by omega))
    rw [← map_some_filterMap each]
    exact ⟨fun item member => ⟨all item member, each item member⟩,
      apart.map (Option.some_injective _)⟩
  · rintro ⟨each, apart⟩
    have listed := map_some_filterMap fun item member => (each item member).2
    rw [← listed] at apart
    rw [List.filter_eq_self.mpr fun item member => (each item member).1,
      List.dedup_eq_self.mpr apart.of_map]
    simpa using congrArg List.length listed

end Showing

namespace DhtStorage.ReplicationCounts

open Json RelayNode

variable (P : Packages)

/-- A node is known by a text. -/
def nodeIdOf (proof : StorageProof) : Option String :=
  match proof.nodeId with
  | some (.string nodeId) => some nodeId
  | _ => none

/-- The proof is of this data. -/
def provesData (messageData : Bytes) (proof : StorageProof) : Bool :=
  isText (toHex (P.sha256 messageData)) proof.messageHash

/-- The different nodes that a record has a proof of its data from. -/
def provenBy (record : MessageRecord) : List String :=
  match bufferFrom P record.data with
  | .error _ => []
  | .ok messageData =>
      ((record.storageProofs.filter (provesData P messageData)).filterMap nodeIdOf).dedup

/-- The count is the number of nodes that have proven the data. -/
def Believable (record : MessageRecord) : Prop :=
  record.replicationCount = ofInt (provenBy P record).length

/-- A record that can be put as it comes: without a signer its count is right; with one, each of its
    proofs is of its data and by another node, and none is by this node. -/
def Honest (signer : Option Signer) (record : MessageRecord) : Prop :=
  match signer with
  | none => Believable P record
  | some signer => ∀ messageData, bufferFrom P record.data = .ok messageData →
      (∀ proof ∈ record.storageProofs,
        provesData P messageData proof = true ∧ nodeIdOf proof ≠ none) ∧
      (record.storageProofs.map nodeIdOf).Nodup ∧
      some signer.nodeId ∉ record.storageProofs.map nodeIdOf

/-- What a node is asked to store: mail of its own, a record to replicate, or what a peer sends. -/
inductive Call where
  | store (recipient : Json) (data : String) (draw : RandomId)
  | storeRecord (record : MessageRecord)
  | storeRequest (data : Bytes) (draw : RandomId)

def step (signer : Option Signer) (call : Call) (now : Moment) (relay : Relay) : Relay :=
  match call with
  | .store recipient data draw =>
      { relay with db := (DhtStorage.store P signer recipient data draw now relay.db).state }
  | .storeRecord record =>
      { relay with db := (DhtStorage.storeRecord P signer record now relay.db).state }
  | .storeRequest data draw => (handleStoreRequest P signer data draw now relay).1

def replay (signer : Option Signer) : List (Call × Moment) → Relay
  | [] => RelayNode.start
  | (call, now) :: earlier => step P signer call now (replay signer earlier)

/-- The record that a call comes with, if it comes with one. -/
def broughtIn (call : Call) (now : Moment) : Option MessageRecord :=
  match call with
  | .store _ _ _ => none
  | .storeRecord record => some record
  | .storeRequest data draw => ((requestedRecord data draw now).toOption).join

/-- A record that comes in and is put is honest. -/
def BringsHonest (signer : Option Signer) (call : Call) (now : Moment) : Prop :=
  ∀ record, broughtIn call now = some record → ∀ entry, entryOf P signer record now = .ok entry →
    Honest P signer record

/-- Every count in the database can be believed. -/
def AllBelievable (db : Database) : Prop :=
  ∀ key record, db.get key = some record → Believable P record

section Counts
variable {P} {signer : Option Signer} {record : MessageRecord} {now : Moment}

theorem ofInt_natCast_inj {left right : Nat} : ofInt left = ofInt right ↔ left = right := by
  constructor
  · intro same
    rw [ofInt_natCast, ofInt_natCast] at same
    obtain ⟨_, first⟩ := Decimal.make_natural left
    obtain ⟨_, second⟩ := Decimal.make_natural right
    rw [Json.number.inj same, second] at first
    exact_mod_cast first.symm
  · rintro rfl
    rfl

theorem create_proof {signer : Signer} {messageData : Bytes} {proof : StorageProof}
    (made : StorageProof.create P signer messageData now = .ok proof) :
    provesData P messageData proof = true ∧ nodeIdOf proof = some signer.nodeId := by
  obtain ⟨timestamp, _, rest⟩ := bind_ok_iff.mp made
  obtain ⟨signature, _, done⟩ := bind_ok_iff.mp rest
  cases done
  exact ⟨by simp [provesData, isText], rfl⟩

/-- A count that a signing node sets is right exactly where the record came in honest. -/
theorem addProof_believable {signer : Signer} {messageData : Bytes} {proof : StorageProof}
    (read : bufferFrom P record.data = .ok messageData)
    (made : StorageProof.create P signer messageData now = .ok proof) :
    Believable P (record.addProof proof) ↔ Honest P (some signer) record := by
  obtain ⟨own, named⟩ := create_proof made
  have listed : provenBy P (record.addProof proof) =
      (((record.storageProofs ++ [proof]).filter (provesData P messageData)).filterMap
        nodeIdOf).dedup := by
    have same : (record.addProof proof).data = record.data := rfl
    rw [provenBy, same, read]
    rfl
  have counted : (record.addProof proof).replicationCount =
      ofInt (record.storageProofs ++ [proof]).length := rfl
  have last : (record.storageProofs.map nodeIdOf ++ [some signer.nodeId]).Nodup ↔
      some signer.nodeId ∉ record.storageProofs.map nodeIdOf ∧
        (record.storageProofs.map nodeIdOf).Nodup := by
    rw [List.nodup_append_comm, List.singleton_append, List.nodup_cons]
  rw [Believable, counted, listed, ofInt_natCast_inj, eq_comm, shown_length_iff, Honest]
  simp only [read, Except.ok.injEq, forall_eq', List.forall_mem_append, List.map_append,
    List.map_singleton, List.forall_mem_singleton, own, named, last]
  constructor
  · rintro ⟨⟨each, _⟩, apart, distinct⟩
    exact ⟨each, distinct, apart⟩
  · rintro ⟨each, distinct, apart⟩
    exact ⟨⟨each, trivial, Option.some_ne_none _⟩, apart, distinct⟩

/-- What is put can be believed exactly where the record came in honest. -/
theorem entry_believable {entry : String × MessageRecord}
    (made : entryOf P signer record now = .ok entry) :
    Believable P entry.2 ↔ Honest P signer record := by
  rcases (entryOf_cases made).2 with ⟨rfl, same⟩ | ⟨node, messageData, proof, rfl, read, created, same⟩
  · rw [same]
    exact Iff.rfl
  · rw [same]
    exact addProof_believable read created

theorem newRecord_honest (signer : Option Signer) (recipient : Json) (data : String)
    (draw : RandomId) (now : Moment) : Honest P signer (newRecord recipient data draw now) := by
  have unproven : (newRecord recipient data draw now).storageProofs = [] := rfl
  cases signer with
  | none =>
      have none : provenBy P (newRecord recipient data draw now) = [] := by
        rw [provenBy, unproven]
        split <;> rfl
      rw [Honest, Believable, none]
      rfl
  | some signer =>
      intro messageData _
      rw [unproven]
      exact ⟨fun proof member => (by cases member), List.nodup_nil, List.not_mem_nil⟩

theorem allBelievable_set {db : Database} {key : String} (held : AllBelievable P db) :
    AllBelievable P (db.set key record) ↔ Believable P record := by
  constructor
  · exact fun all => all key record (OrderedMap.get_set_self _ _ _)
  · intro believable other found stored
    rw [OrderedMap.get_set] at stored
    split at stored
    · cases stored
      exact believable
    · exact held other found stored

theorem allBelievable_putAll {db : Database} (held : AllBelievable P db) :
    AllBelievable P (putAll (entryOf P signer record now).toOption.toList db) ↔
      ∀ entry, entryOf P signer record now = .ok entry → Honest P signer record := by
  cases made : entryOf P signer record now with
  | error failure =>
      refine iff_of_true held fun entry found => ?_
      cases found
  | ok entry =>
      have put : putAll (Except.ok entry : Except Failure _).toOption.toList db =
          db.set entry.1 entry.2 := rfl
      rw [put, allBelievable_set held, entry_believable made]
      exact ⟨fun honest _ _ => honest, fun honest => honest entry rfl⟩

theorem written_unrequested {data : Bytes} {draw : RandomId}
    (nothing : ((requestedRecord data draw now).toOption).join = none) :
    written P signer (.storeRequest data draw) now = [] := by
  delta written
  dsimp only
  cases requested : requestedRecord data draw now with
  | error failure => rfl
  | ok found =>
      cases found with
      | none => rfl
      | some record =>
          rw [requested] at nothing
          cases nothing

/-- What a call brings in is all that it writes, apart from mail of the node's own. -/
theorem step_believable {relay : Relay} (call : Call) (held : AllBelievable P relay.db) :
    AllBelievable P (step P signer call now relay).db ↔ BringsHonest P signer call now := by
  cases call with
  | store recipient data draw =>
      rw [step, store_state, allBelievable_putAll held]
      refine iff_of_true (fun _ _ => newRecord_honest signer recipient data draw now) ?_
      intro record brought
      cases brought
  | storeRecord record =>
      rw [step, storeRecord_state, allBelievable_putAll held]
      simp only [BringsHonest, broughtIn, Option.some.injEq, forall_eq']
  | storeRequest data draw =>
      have same : (step P signer (.storeRequest data draw) now relay).db =
          putAll (written P signer (.storeRequest data draw) now) relay.db :=
        step_storeRequest data draw
      rw [same, BringsHonest, broughtIn]
      cases brought : ((requestedRecord data draw now).toOption).join with
      | none =>
          rw [written_unrequested brought]
          refine iff_of_true held fun record found => ?_
          cases found
      | some record =>
          have requested : requestedRecord data draw now = .ok (some record) := by
            cases found : requestedRecord data draw now with
            | error failure =>
                rw [found] at brought
                cases brought
            | ok asked =>
                rw [found] at brought
                exact congrArg Except.ok brought
          rw [written_storeRequest requested, allBelievable_putAll held]
          simp only [Option.some.injEq, forall_eq']

end Counts

/-- In every run every count can be believed at every moment exactly when every record that comes in
    and is put is honest. -/
theorem counts_believable_iff (signer : Option Signer) (past : List (Call × Moment)) :
    Always (fun past => AllBelievable P (replay P signer past).db) past ↔
      EachInput (fun input _ => BringsHonest P signer input.1 input.2) past := by
  have base : AllBelievable P (replay P signer []).db := fun key record stored => (by cases stored)
  have free : EachInput (fun _ _ => True) past := fun _ _ _ => trivial
  exact always_iff_each free base fun input earlier _ held => step_believable input.1 held

/-! A record comes back to a node that has proven it already. -/

def node : Signer := ⟨"node", fun bytes => some bytes⟩

def noon : Moment := ⟨12, by decide⟩

def note : MessageRecord :=
  newRecord (.string "alice") "bWFpbA==" ⟨List.replicate 16 2, List.length_replicate⟩ noon

def noteProof : StorageProof :=
  ⟨some (.string "node"), some (.string (toHex (samplePackages.sha256 (fromBase64 "bWFpbA==")))),
    some (ofInt 12), some (.string "")⟩

theorem replicated_twice : ¬ ∀ (P : Packages) (signer : Option Signer) (past : List (Call × Moment)),
    Always (fun past => AllBelievable P (replay P signer past).db) past := by
  intro claimed
  have all := claimed samplePackages (some node) [(.storeRecord (note.addProof noteProof), noon)] _
    (List.suffix_refl _)
  have empty : AllBelievable samplePackages RelayNode.start.db :=
    fun key record stored => (by cases stored)
  have honest := (step_believable (.storeRecord (note.addProof noteProof)) empty).mp all
  obtain ⟨entry, made⟩ : ∃ entry, entryOf samplePackages (some node) (note.addProof noteProof) noon =
      .ok entry := by
    cases made : entryOf samplePackages (some node) (note.addProof noteProof) noon with
    | ok entry => exact ⟨entry, rfl⟩
    | error failure =>
        have put : (entryOf samplePackages (some node) (note.addProof noteProof) noon).isOk = true := by
          decide +kernel
        rw [made] at put
        cases put
  obtain ⟨_, _, apart⟩ := honest _ rfl entry made (fromBase64 "bWFpbA==") rfl
  exact apart List.mem_cons_self

end DhtStorage.ReplicationCounts
end Chainmail
