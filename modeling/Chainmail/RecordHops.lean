import Chainmail.RelayReplication
import Chainmail.RelayRetention
import Chainmail.Senders

/-!
A record that goes from node to node: it is sent as JSON, rebuilt, stored with a proof
of the node or without one, and read back. The constructor puts a default in the place
of every field that is missing, at each end of each hop.
-/

namespace Chainmail.RecordHops

open Json DhtStorage RelayNode

variable (P : Packages)

/-- The request of `replicateTo`. -/
def storeRequest (record : MessageRecord) : Bytes :=
  utf8Encode (stringify (.object [("action", .string "store"), ("record", record.toJSON)]))

/-- The database has its values printed. -/
def readBack (record : MessageRecord) (draw : RandomId) (now : Moment) :
    Except Failure MessageRecord := do
  let value ← parseOrThrow (stringify record.toJSON)
  MessageRecord.fromJSON value draw now

/-- The node that stores a record: its signer and its database, and the clock and the ids
    drawn as the record is received, stored and read back. -/
structure Hop where
  receivedDraw : RandomId
  receivedAt : Moment
  signer : Option Signer
  storedAt : Moment
  db : Database
  readDraw : RandomId
  readAt : Moment

/-- The record after a hop, where the node stores it. -/
def pass (record : MessageRecord) (hop : Hop) : Option MessageRecord := do
  let requested ← (requestedRecord (storeRequest record) hop.receivedDraw hop.receivedAt).toOption
  let received ← requested
  let stored := storeRecord P hop.signer received hop.storedAt hop.db
  let _ ← stored.result.toOption
  let key ← (messageKey received.recipient (some received.id)).toOption
  let held ← stored.state.get key
  (readBack held hop.readDraw hop.readAt).toOption

/-- The record after a chain of hops. -/
def chain (record : MessageRecord) (hops : List Hop) : Option MessageRecord :=
  hops.foldlM (pass P) record

/-- The same message with the same lifetime, and with the proofs it had in their order. -/
structure Kept (before after : MessageRecord) : Prop where
  id : after.id = before.id
  recipient : after.recipient = before.recipient
  data : after.data = before.data
  timestamp : after.timestamp = before.timestamp
  expires : after.expires = before.expires
  storageProofs : before.storageProofs <+: after.storageProofs

/-- A node without a signer adds no proof; a signer that accepts whatever it is given adds one. -/
def Willing (hop : Hop) : Prop :=
  ∀ signer ∈ hop.signer, ∀ bytes, (signer.signFn bytes).isSome

namespace Kept

theorem refl (record : MessageRecord) : Kept record record :=
  ⟨rfl, rfl, rfl, rfl, rfl, List.prefix_rfl⟩

theorem trans {first second third : MessageRecord} (before : Kept first second)
    (after : Kept second third) : Kept first third where
  id := after.id.trans before.id
  recipient := after.recipient.trans before.recipient
  data := after.data.trans before.data
  timestamp := after.timestamp.trans before.timestamp
  expires := after.expires.trans before.expires
  storageProofs := before.storageProofs.trans after.storageProofs

end Kept

/-- What JSON carries, with a text for its key and bytes to prove. -/
structure Sendable (record : MessageRecord) : Prop where
  id : ∃ text, record.id = .string text
  recipient : ∃ value, record.recipient = some value ∧ Canonical value ∧
    ∃ text, toText value = .ok text
  data : ∃ text, record.data = some (.string text)
  timestamp : Canonical record.timestamp
  expires : Canonical record.expires
  storageProofs : ∀ proof ∈ record.storageProofs, Canonical proof.toJSON
  replicationCount : ∃ count : Nat, record.replicationCount = ofInt count

variable {P} {record : MessageRecord}

theorem Sendable.toJSON_canonical (sendable : Sendable record) :
    ∃ fields, record.toJSON = .object fields ∧ Canonical (.object fields) := by
  obtain ⟨id, hasId⟩ := sendable.id
  obtain ⟨recipient, given, canonical, _⟩ := sendable.recipient
  obtain ⟨data, held⟩ := sendable.data
  obtain ⟨count, counted⟩ := sendable.replicationCount
  refine ⟨[("id", .string id), ("recipient", recipient), ("data", .string data),
    ("timestamp", record.timestamp), ("expires", record.expires),
    ("storageProofs", .array (record.storageProofs.map StorageProof.toJSON)),
    ("replicationCount", record.replicationCount)], ?_, ?_⟩
  · simp [MessageRecord.toJSON, ofFields, hasId, given, held]
  · refine canonical_object ["id", "recipient", "data", "timestamp", "expires", "storageProofs",
      "replicationCount"] rfl (by decide) ⟨trivial, canonical, trivial, sendable.timestamp,
      sendable.expires, canonicalItems_map sendable.storageProofs, ?_, trivial⟩
    rw [counted]
    exact canonical_natural count

/-- No default is put in a record that was sent. -/
theorem Sendable.requested (sendable : Sendable record) (draw : RandomId) (now : Moment) :
    requestedRecord (storeRequest record) draw now = .ok (some record) := by
  obtain ⟨fields, printed, canonical⟩ := sendable.toJSON_canonical
  have request : Canonical (.object [("action", .string "store"), ("record", record.toJSON)]) := by
    rw [printed]
    exact canonical_object ["action", "record"] rfl (by decide) ⟨trivial, canonical, trivial⟩
  have given : present (some record.toJSON) = some record.toJSON := by
    rw [printed]
    rfl
  rw [requestedRecord, storeRequest, parse_transmitted request]
  simp [lookup, isText, field, given, MessageRecord.fromJSON_toJSON]

/-- Nor in one that is read from the database. -/
theorem Sendable.readBack (sendable : Sendable record) (draw : RandomId) (now : Moment) :
    readBack record draw now = .ok record := by
  obtain ⟨fields, printed, canonical⟩ := sendable.toJSON_canonical
  rw [RecordHops.readBack, printed, parseOrThrow_stringify canonical, ok_bind, ← printed,
    MessageRecord.fromJSON_toJSON]

theorem created_canonical {signer : Signer} {messageData : Bytes} {now : Moment}
    {proof : StorageProof} (created : StorageProof.create P signer messageData now = .ok proof) :
    Canonical proof.toJSON := by
  simp only [StorageProof.create, bind_ok_iff, accepted_ok] at created
  obtain ⟨timestamp, _, signature, _, made⟩ := created
  obtain rfl := Except.ok.inj made
  exact canonical_object ["nodeId", "messageHash", "timestamp", "signature"] rfl (by decide)
    ⟨trivial, trivial, canonical_natural now.ms, trivial, trivial⟩

/-- The node's own proof comes behind the others, and everything else is left as it is. -/
theorem withProof_kept {signer : Option Signer} {now : Moment} {kept : MessageRecord}
    (proved : withProof P signer record now = .ok kept) : Kept record kept := by
  cases signer with
  | none =>
      obtain rfl := Except.ok.inj proved
      exact .refl record
  | some signer =>
      simp only [withProof, bind_ok_iff] at proved
      obtain ⟨_, _, proof, _, made⟩ := proved
      obtain rfl := Except.ok.inj made
      exact ⟨rfl, rfl, rfl, rfl, rfl, List.prefix_append _ _⟩

theorem withProof_sendable {signer : Option Signer} {now : Moment} {kept : MessageRecord}
    (sendable : Sendable record) (proved : withProof P signer record now = .ok kept) :
    Sendable kept := by
  cases signer with
  | none =>
      obtain rfl := Except.ok.inj proved
      exact sendable
  | some signer =>
      simp only [withProof, bind_ok_iff] at proved
      obtain ⟨_, _, proof, created, made⟩ := proved
      obtain rfl := Except.ok.inj made
      refine { sendable with storageProofs := ?_, replicationCount := ⟨_, rfl⟩ }
      intro other member
      rcases List.mem_append.mp member with earlier | own
      · exact sendable.storageProofs other earlier
      · obtain rfl := List.mem_singleton.mp own
        exact created_canonical created

theorem withProof_willing {signer : Option Signer} (sendable : Sendable record) (now : Moment)
    (willing : ∀ one ∈ signer, ∀ bytes, (one.signFn bytes).isSome) :
    ∃ kept, withProof P signer record now = .ok kept := by
  cases signer with
  | none => exact ⟨record, rfl⟩
  | some signer =>
      obtain ⟨text, held⟩ := sendable.data
      obtain ⟨timestamp, shown⟩ : ∃ timestamp, toText (ofInt now.ms) = .ok timestamp := by
        rw [ofInt_natCast]
        exact ⟨_, rfl⟩
      have messageData : bufferFrom P record.data = .ok (fromBase64 text) := by
        rw [held]
        rfl
      obtain ⟨signature, signed⟩ := Option.isSome_iff_exists.mp (willing signer rfl (utf8Encode
        (signer.nodeId ++ ":" ++ toHex (P.sha256 (fromBase64 text)) ++ ":" ++ timestamp)))
      refine ⟨record.addProof ⟨some (.string signer.nodeId),
        some (.string (toHex (P.sha256 (fromBase64 text)))), some (ofInt now.ms),
        some (.string (toHex signature))⟩, ?_⟩
      simp only [withProof, messageData, ok_bind, StorageProof.create, shown, signed, accepted_some]
      rfl

theorem Sendable.messageKey (sendable : Sendable record) :
    ∃ key, messageKey record.recipient (some record.id) = .ok key := by
  obtain ⟨id, hasId⟩ := sendable.id
  obtain ⟨recipient, given, _, text, shown⟩ := sendable.recipient
  refine ⟨text ++ ":" ++ id, ?_⟩
  simp [DhtStorage.messageKey, given, hasId, spliced, shown, toText]

/-- The line about the record that is stored can be printed. -/
theorem Sendable.logged (sendable : Sendable record) : logReplicated record = .ok () := by
  obtain ⟨id, hasId⟩ := sendable.id
  obtain ⟨count, counted⟩ := sendable.replicationCount
  simp [logReplicated, hasId, counted, ofInt_natCast, canSlice, toText]

theorem storeRecord_proved {signer : Option Signer} {now : Moment} {kept : MessageRecord}
    (sendable : Sendable record) (proved : withProof P signer record now = .ok kept)
    (db : Database) : ∃ key, messageKey record.recipient (some record.id) = .ok key ∧
      storeRecord P signer record now db = .returns (db.set key kept) kept := by
  have keptSendable := withProof_sendable sendable proved
  have same := withProof_kept proved
  obtain ⟨key, keyed⟩ := keptSendable.messageKey
  have entry : entryOf P signer record now = .ok (key, kept) := by
    rw [entryOf, proved, ok_bind, keyed]
    rfl
  refine ⟨key, ?_, ?_⟩
  · rw [← same.recipient, ← same.id, keyed]
  · simp [storeRecord, entry, keptSendable.logged]

/-- A hop adds the proof of the node and does nothing else. -/
theorem pass_eq (sendable : Sendable record) (hop : Hop) :
    pass P record hop = (withProof P hop.signer record hop.storedAt).toOption := by
  have requested : (requestedRecord (storeRequest record) hop.receivedDraw
      hop.receivedAt).toOption = some (some record) := by
    rw [sendable.requested]
    rfl
  cases proved : withProof P hop.signer record hop.storedAt with
  | error failure =>
      have stored : (storeRecord P hop.signer record hop.storedAt hop.db).result.toOption = none := by
        rw [storeRecord, entryOf, proved]
        rfl
      simp only [pass, requested, Option.bind_eq_bind, Option.bind_some, stored, Option.bind_none]
      rfl
  | ok kept =>
      obtain ⟨key, keyed, stored⟩ := storeRecord_proved sendable proved hop.db
      have read : (readBack kept hop.readDraw hop.readAt).toOption = some kept := by
        rw [(withProof_sendable sendable proved).readBack]
        rfl
      have returned : (Except.ok kept : Except Failure MessageRecord).toOption = some kept := rfl
      have found : (Except.ok key : Except Failure String).toOption = some key := rfl
      simp only [pass, requested, Option.bind_eq_bind, Option.bind_some, stored,
        Outcome.returns_result, Outcome.returns_state, returned, keyed, found,
        OrderedMap.get_set_self, read]

theorem pass_keeps (sendable : Sendable record) {hop : Hop} {after : MessageRecord}
    (passed : pass P record hop = some after) : Sendable after ∧ Kept record after := by
  rw [pass_eq sendable] at passed
  cases proved : withProof P hop.signer record hop.storedAt with
  | error failure => simp [proved, Except.toOption] at passed
  | ok kept =>
      obtain rfl : kept = after := by simpa [proved, Except.toOption] using passed
      exact ⟨withProof_sendable sendable proved, withProof_kept proved⟩

theorem chain_keeps (hops : List Hop) : ∀ {record after : MessageRecord}, Sendable record →
    chain P record hops = some after → Sendable after ∧ Kept record after := by
  induction hops with
  | nil =>
      rintro record after sendable ⟨⟩
      exact ⟨sendable, .refl record⟩
  | cons hop rest ih =>
      intro record after sendable passed
      rw [chain, List.foldlM_cons] at passed
      obtain ⟨middle, first, later⟩ := Option.bind_eq_some_iff.mp passed
      obtain ⟨middleSendable, one⟩ := pass_keeps sendable first
      obtain ⟨afterSendable, others⟩ := ih middleSendable later
      exact ⟨afterSendable, one.trans others⟩

theorem chain_willing (hops : List Hop) : ∀ {record : MessageRecord}, Sendable record →
    (∀ hop ∈ hops, Willing hop) → ∃ after, chain P record hops = some after := by
  induction hops with
  | nil => exact fun _ _ => ⟨_, rfl⟩
  | cons hop rest ih =>
      intro record sendable willing
      obtain ⟨kept, proved⟩ := withProof_willing (P := P) sendable hop.storedAt
        (willing hop List.mem_cons_self)
      have passed : pass P record hop = some kept := by
        rw [pass_eq sendable, proved]
        rfl
      obtain ⟨after, later⟩ := ih (pass_keeps sendable passed).1
        fun other member => willing other (List.mem_cons_of_mem _ member)
      refine ⟨after, ?_⟩
      rw [chain, List.foldlM_cons, passed]
      exact later

/-- What `store` makes of a recipient whose key has a text. -/
theorem newRecord_sendable {recipient : Senders.Value} {text : String}
    (shown : toText recipient.val = .ok text) (data : String) (draw : RandomId) (now : Moment) :
    Sendable (newRecord recipient.val data draw now) where
  id := ⟨_, newRecord_id recipient.val data draw now⟩
  recipient := ⟨_, newRecord_recipient recipient.val data draw now, recipient.property, text, shown⟩
  data := ⟨data, by simp [newRecord, MessageRecord.construct, field, lookup]⟩
  timestamp := by
    simpa [newRecord, MessageRecord.construct, field, lookup,
      orElse_of_truthy _ (truthy_ofInt now.positive)] using canonical_natural now.ms
  expires := by
    simpa [newRecord, MessageRecord.construct, field, lookup, orElse] using
      canonical_natural (now.ms + MESSAGE_TTL_MS)
  storageProofs := by
    intro proof member
    cases member
  replicationCount := ⟨0, by simp [newRecord, MessageRecord.construct, field, lookup, orElse]⟩

theorem store_sendable {signer : Option Signer} {recipient : Senders.Value} {data : String}
    {draw : RandomId} {now : Moment} {db : Database}
    (stored : (store P signer recipient.val data draw now db).result = .ok record) :
    Sendable record ∧ Kept (newRecord recipient.val data draw now) record := by
  cases proved : withProof P signer (newRecord recipient.val data draw now) now with
  | error failure => simp [store, entryOf, proved] at stored
  | ok kept =>
      cases shown : toText recipient.val with
      | error failure =>
          have unkeyed : spliced kept.recipient = .error failure := by
            rw [(withProof_kept proved).recipient, newRecord_recipient, spliced, shown]
          simp [store, entryOf, proved, messageKey, unkeyed] at stored
      | ok text =>
          have sendable := withProof_sendable (newRecord_sendable shown data draw now) proved
          obtain ⟨key, keyed⟩ := sendable.messageKey
          have entry : entryOf P signer (newRecord recipient.val data draw now) now =
              .ok (key, kept) := by
            rw [entryOf, proved, ok_bind, keyed]
            rfl
          rw [store, entry] at stored
          by_cases sliced : canSlice (some recipient.val)
          · obtain rfl : kept = record := by simpa [sliced] using stored
            exact ⟨sendable, withProof_kept proved⟩
          · simp [sliced] at stored

/-- Whatever a chain of hops does to a record that `store` made, it is the same message with the
    same lifetime, and the proofs it had at any hop stand first at every later one. A chain over
    nodes that are willing goes through. -/
theorem hops_keep_record (P : Packages) (signer : Option Signer) (recipient : Senders.Value)
    (data : String) (draw : RandomId) (now : Moment) (db : Database) {record : MessageRecord}
    (stored : (store P signer recipient.val data draw now db).result = .ok record) :
    Kept (newRecord recipient.val data draw now) record ∧
    (∀ (hops later : List Hop) (middle final : MessageRecord),
      chain P record hops = some middle → chain P middle later = some final →
      Kept record middle ∧ Kept middle final ∧ Kept record final) ∧
    ∀ hops : List Hop, (∀ hop ∈ hops, Willing hop) → ∃ final, chain P record hops = some final := by
  obtain ⟨sendable, made⟩ := store_sendable stored
  refine ⟨made, fun hops later middle final first second => ?_,
    fun hops willing => chain_willing hops sendable willing⟩
  obtain ⟨middleSendable, before⟩ := chain_keeps hops sendable first
  have after := (chain_keeps later middleSendable second).2
  exact ⟨before, after, before.trans after⟩

def alice : Senders.Value := ⟨.string "alice", trivial⟩

def signingHop : Hop where
  receivedDraw := sampleDraw
  receivedAt := sampleMoment
  signer := some ⟨"relay", some⟩
  storedAt := sampleMoment
  db := .empty
  readDraw := sampleDraw
  readAt := sampleMoment

theorem signed_hops_kept : ∃ final, chain samplePackages
    (newRecord (.string "alice") "bWFpbA==" sampleDraw sampleMoment) [signingHop, signingHop] =
      some final ∧ final.id = .string sampleDraw.text ∧ final.expires = ofInt (1 + 604800000 : Nat) := by
  have stored : (store samplePackages none alice.val "bWFpbA==" sampleDraw sampleMoment .empty).result =
      .ok (newRecord (.string "alice") "bWFpbA==" sampleDraw sampleMoment) := rfl
  obtain ⟨_, kept, reached⟩ := hops_keep_record samplePackages none alice "bWFpbA==" sampleDraw
    sampleMoment .empty stored
  obtain ⟨final, passed⟩ := reached [signingHop, signingHop] (by
    simp only [List.mem_cons, List.not_mem_nil, or_false, or_self, forall_eq]
    rintro signer ⟨⟩ bytes
    rfl)
  have same := (kept [signingHop, signingHop] [] final final passed rfl).1
  refine ⟨final, passed, ?_, ?_⟩
  · rw [same.id, newRecord_id]
  · rw [same.expires]
    rfl

end Chainmail.RecordHops
