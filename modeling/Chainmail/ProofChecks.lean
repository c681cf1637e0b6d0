import Chainmail.HexBuffers
import Chainmail.RecordHops
import Chainmail.ReplicationCounts

/-!
What checking the storage proofs of a record tells: `StorageProof.verify` and `verifyProofs` of
`src/storage/dht-storage.js`, and the proof requests that `src/network/relay-node.js` answers.
A record goes from node to node, and on its way somebody may put other data into it.
-/

namespace Chainmail.DhtStorage

open Json RelayNode ReplicationCounts

variable (P : Packages)

namespace StorageProof

/-- `verifyFn` takes the text that was signed and the signature. -/
def verify (proof : StorageProof) (messageData : Bytes) (verifyFn : Bytes → Bytes → Bool) :
    Except Failure Bool :=
  if provesData P messageData proof = false then .ok false
  else do
    let nodeId ← spliced proof.nodeId
    let messageHash ← spliced proof.messageHash
    let timestamp ← spliced proof.timestamp
    let signature ← bufferFromHex P proof.signature
    return verifyFn (utf8Encode (nodeId ++ ":" ++ messageHash ++ ":" ++ timestamp)) signature

end StorageProof

structure ProofCounts where
  valid : Nat
  invalid : Nat
deriving DecidableEq

/-- The hash of the data is computed for each proof, and where that throws the proof is invalid. -/
def countProof (record : MessageRecord) (counts : ProofCounts) (proof : StorageProof) :
    ProofCounts :=
  match bufferFrom P record.data with
  | .error _ => { counts with invalid := counts.invalid + 1 }
  | .ok messageData =>
      if provesData P messageData proof then { counts with valid := counts.valid + 1 }
      else { counts with invalid := counts.invalid + 1 }

def verifyProofs (record : MessageRecord) : ProofCounts :=
  record.storageProofs.foldl (countProof P record) ⟨0, 0⟩

/-- Whatever goes wrong once the key is there is as if nothing was stored. -/
def getMessage (recipient messageId : Option Json) (now : Moment) (db : Database) :
    Except Failure (Option MessageRecord) := do
  let key ← messageKey recipient messageId
  match db.get key with
  | none => return none
  | some record =>
      match record.isExpired now with
      | .ok false => return some record
      | _ => return none

/-- The recipient and the id that a proof request asks about, if it is one. -/
def askedAbout (data : Bytes) : Except Failure (Option (Json × Json)) := do
  let request ← parseOrThrow (textDecode data)
  let action ← member "action" (some request)
  let asked := do
    let recipient ← present (request.field "recipient")
    let messageId ← present (request.field "messageId")
    return (recipient, messageId)
  return if isText "verify" action then asked else none

def proofReply (record : MessageRecord) (proofs : ProofCounts) : Json :=
  .object [("exists", .bool true), ("replicationCount", record.replicationCount),
    ("proofs", .object [("valid", ofInt proofs.valid), ("invalid", ofInt proofs.invalid)])]

def handleProofRequest (data : Bytes) (now : Moment) (relay : Relay) : Json :=
  let failed : Json := .object [("error", .string "Proof failed")]
  match askedAbout data with
  | .error _ => failed
  | .ok none => invalidRequest
  | .ok (some (recipient, messageId)) =>
      match getMessage (some recipient) (some messageId) now relay.db with
      | .error _ => failed
      | .ok none => .object [("exists", .bool false)]
      | .ok (some record) =>
          proofReply record (verifyProofs P record)

/-! The loop counts. -/

theorem verifyProofs_eq {record : MessageRecord} {messageData : Bytes}
    (read : bufferFrom P record.data = .ok messageData) :
    verifyProofs P record =
      ⟨record.storageProofs.countP (provesData P messageData),
        record.storageProofs.countP fun proof => !provesData P messageData proof⟩ := by
  have counted : ∀ (proofs : List StorageProof) (counts : ProofCounts),
      proofs.foldl (countProof P record) counts =
        ⟨counts.valid + proofs.countP (provesData P messageData),
          counts.invalid + proofs.countP fun proof => !provesData P messageData proof⟩ := by
    intro proofs
    induction proofs with
    | nil => exact fun counts => rfl
    | cons proof rest ih =>
        intro counts
        rw [List.foldl_cons, ih, countProof, read]
        cases proves : provesData P messageData proof with
        | true => simp [proves, Nat.add_assoc, Nat.add_comm]
        | false => simp [proves, Nat.add_assoc, Nat.add_comm]
  rw [verifyProofs, counted, Nat.zero_add, Nat.zero_add]

/-- What a client asks. -/
def proofRequest (recipient messageId : String) : Bytes :=
  utf8Encode (stringify (.object [("action", .string "verify"), ("recipient", .string recipient),
    ("messageId", .string messageId)]))

theorem askedAbout_proofRequest {recipient messageId : String} (named : recipient ≠ "")
    (identified : messageId ≠ "") :
    askedAbout (proofRequest recipient messageId) =
      .ok (some (.string recipient, .string messageId)) := by
  have request : Canonical (.object [("action", .string "verify"), ("recipient", .string recipient),
      ("messageId", .string messageId)]) :=
    canonical_object ["action", "recipient", "messageId"] rfl (by decide)
      ⟨trivial, trivial, trivial, trivial⟩
  have given (text : String) (named : text ≠ "") :
      present (some (.string text)) = some (.string text) := by
    rw [present, Option.filter_some, if_pos (by simpa [truthy] using named)]
  rw [askedAbout, proofRequest, parse_transmitted request]
  simp [member, lookup, isText, field, given recipient named, given messageId identified]

/-- A relay answers for a record that it holds, as long as that has not expired. -/
theorem proof_answered {recipient messageId : String} (named : recipient ≠ "")
    (identified : messageId ≠ "") {record : MessageRecord} {now : Moment} {relay : Relay}
    (held : relay.db.get (recipient ++ ":" ++ messageId) = some record)
    (alive : record.isExpired now = .ok false) :
    handleProofRequest P (proofRequest recipient messageId) now relay =
      proofReply record (verifyProofs P record) := by
  have found : getMessage (some (.string recipient)) (some (.string messageId)) now relay.db =
      .ok (some record) := by
    have keyed : messageKey (some (.string recipient)) (some (.string messageId)) =
        .ok (recipient ++ ":" ++ messageId) := rfl
    rw [getMessage, keyed, ok_bind, held]
    simp only [alive]
    rfl
  simp only [handleProofRequest, askedAbout_proofRequest named identified, found]

end Chainmail.DhtStorage

namespace Chainmail.RecordHops

open Json DhtStorage RelayNode ReplicationCounts

variable (P : Packages)

/-- A record goes to the next node, or somebody on its way gives it other data. -/
inductive Leg where
  | hop (hop : Hop)
  | alter (data : String)

def travel (record : MessageRecord) : List Leg → Option MessageRecord
  | [] => some record
  | .hop hop :: rest => (pass P record hop).bind fun after => travel after rest
  | .alter data :: rest => travel { record with data := some (.string data) } rest

/-- A node signed a proof of some data. -/
structure Signing where
  signer : Signer
  data : String
  signedAt : Moment

def signedBy (signer : Option Signer) (data : String) (now : Moment) : List Signing :=
  signer.toList.map fun signer => ⟨signer, data, now⟩

/-- What is signed on the way of a record that sets out with some data. -/
def signings (data : String) : List Leg → List Signing
  | [] => []
  | .hop hop :: rest => signedBy hop.signer data hop.storedAt ++ signings data rest
  | .alter other :: rest => signings other rest

/-- The data that it arrives with. -/
def finalData (data : String) : List Leg → String
  | [] => data
  | .hop _ :: rest => finalData data rest
  | .alter other :: rest => finalData other rest

def digest (data : String) : String := toHex (P.sha256 (fromBase64 data))

/-- The proof is the one that was made in the signing. -/
def Made (signing : Signing) (proof : StorageProof) : Prop :=
  StorageProof.create P signing.signer (fromBase64 signing.data) signing.signedAt = .ok proof

variable {P} {record after final : MessageRecord} {data : String}

theorem withProof_made {signer : Option Signer} {now : Moment}
    (held : record.data = some (.string data))
    (proved : withProof P signer record now = .ok after) :
    ∃ made, after.storageProofs = record.storageProofs ++ made ∧
      List.Forall₂ (Made P) (signedBy signer data now) made := by
  cases signer with
  | none =>
      obtain rfl := Except.ok.inj proved
      exact ⟨[], (List.append_nil _).symm, .nil⟩
  | some signer =>
      simp only [withProof, bind_ok_iff] at proved
      obtain ⟨messageData, read, proof, created, made⟩ := proved
      obtain rfl := Except.ok.inj made
      rw [held] at read
      obtain rfl := Except.ok.inj read
      exact ⟨[proof], rfl, .cons created .nil⟩

/-- On its way a record gets the proofs of the nodes that sign, in their order, and nothing else
    of it changes but its data. -/
theorem travel_made (legs : List Leg) : ∀ {record : MessageRecord} {data : String},
    Sendable record → record.data = some (.string data) → travel P record legs = some final →
      final.data = some (.string (finalData data legs)) ∧
      ∃ made, final.storageProofs = record.storageProofs ++ made ∧
        List.Forall₂ (Made P) (signings data legs) made := by
  induction legs with
  | nil =>
      rintro record data _ held ⟨⟩
      exact ⟨held, [], (List.append_nil _).symm, .nil⟩
  | cons leg rest ih =>
      intro record data sendable held travelled
      cases leg with
      | alter other =>
          have altered : Sendable { record with data := some (.string other) } :=
            { sendable with data := ⟨other, rfl⟩ }
          have arrived := ih altered rfl travelled
          exact arrived
      | hop hop =>
          obtain ⟨middle, passed, later⟩ := Option.bind_eq_some_iff.mp travelled
          obtain ⟨onward, kept⟩ := pass_keeps sendable passed
          obtain ⟨arrived, others, collected, theirs⟩ := ih onward (kept.data.trans held) later
          rw [pass_eq sendable] at passed
          cases proved : withProof P hop.signer record hop.storedAt with
          | error failure => simp [proved, Except.toOption] at passed
          | ok after =>
              obtain rfl : after = middle := by simpa [proved, Except.toOption] using passed
              obtain ⟨own, first, mine⟩ := withProof_made held proved
              refine ⟨arrived, own ++ others, ?_, ?_⟩
              · rw [collected, first, List.append_assoc]
              · exact List.rel_append mine theirs

theorem provesData_made {signing : Signing} {proof : StorageProof} (made : Made P signing proof)
    (other : String) : provesData P (fromBase64 other) proof =
      decide (digest P signing.data = digest P other) := by
  simp only [Made, StorageProof.create, bind_ok_iff] at made
  obtain ⟨timestamp, _, signature, _, made⟩ := made
  obtain rfl := Except.ok.inj made
  rw [provesData, isText]
  exact beq_eq_decide _ _

/-- A proof verifies for data with the hash that it was made of, by whoever accepts what the
    node signs, and for no other data. -/
theorem verify_made {signing : Signing} {proof : StorageProof} (made : Made P signing proof)
    (other : String) {verifyFn : Bytes → Bytes → Bool}
    (accepts : ∀ bytes signature, signing.signer.signFn bytes = some signature →
      verifyFn bytes signature = true) :
    proof.verify P (fromBase64 other) verifyFn =
      .ok (decide (digest P signing.data = digest P other)) := by
  have proves := provesData_made made other
  rw [StorageProof.verify, proves]
  by_cases same : digest P signing.data = digest P other
  · simp only [Made, StorageProof.create, bind_ok_iff, accepted_ok] at made
    obtain ⟨timestamp, shown, signature, signed, made⟩ := made
    obtain rfl := Except.ok.inj made
    have read := bufferFromHex_toHex P signature
    have verified := accepts _ _ signed
    simp [same, spliced, toText, shown, read, verified]
  · simp [same]

theorem store_proved {signer : Option Signer} {recipient : Json} {draw : RandomId} {now : Moment}
    {db : Database} (stored : (store P signer recipient data draw now db).result = .ok record) :
    withProof P signer (newRecord recipient data draw now) now = .ok record := by
  cases proved : withProof P signer (newRecord recipient data draw now) now with
  | error failure => simp [store, entryOf, proved] at stored
  | ok kept =>
      cases keyed : messageKey kept.recipient (some kept.id) with
      | error failure => simp [store, entryOf, proved, keyed] at stored
      | ok key =>
          have entry : entryOf P signer (newRecord recipient data draw now) now =
              .ok (key, kept) := by
            rw [entryOf, proved, ok_bind, keyed]
            rfl
          rw [store, entry] at stored
          by_cases sliced : canSlice (some recipient)
          · obtain rfl : kept = record := by simpa [sliced] using stored
            rfl
          · simp [sliced] at stored

theorem forall₂_countP {α β : Type} {relates : α → β → Prop} {left : α → Bool} {right : β → Bool}
    (same : ∀ item other, relates item other → right other = left item) {items : List α}
    {others : List β} (all : List.Forall₂ relates items others) :
    others.countP right = items.countP left := by
  induction all with
  | nil => rfl
  | cons one _ ih => rw [List.countP_cons, List.countP_cons, ih, same _ _ one]

/-- Wherever a record goes that was stored at first, and whatever data anybody puts into it on
    its way: of its proofs those count as valid that were signed over data with the hash of what
    it arrives with, and all others as invalid; by `verify` each is told apart the same way; and
    a relay that holds it answers with these counts. -/
theorem proofs_tell (P : Packages) (signer : Option Signer) (recipient : Senders.Value)
    (data : String) (draw : RandomId) (now : Moment) (db : Database) {record final : MessageRecord}
    (stored : (store P signer recipient.val data draw now db).result = .ok record)
    (legs : List Leg) (travelled : travel P record legs = some final) :
    let made := signedBy signer data now ++ signings data legs
    let agrees signing := decide (digest P signing.data = digest P (finalData data legs))
    verifyProofs P final = ⟨made.countP agrees, made.countP fun signing => !agrees signing⟩ ∧
      List.Forall₂ (fun signing proof => ∀ verifyFn : Bytes → Bytes → Bool,
        (∀ bytes signature, signing.signer.signFn bytes = some signature →
          verifyFn bytes signature = true) →
        proof.verify P (fromBase64 (finalData data legs)) verifyFn = .ok (agrees signing))
        made final.storageProofs ∧
      ∀ (address messageId : String) (asked : Moment) (relay : Relay), address ≠ "" →
        messageId ≠ "" → relay.db.get (address ++ ":" ++ messageId) = some final →
        final.isExpired asked = .ok false →
        handleProofRequest P (proofRequest address messageId) asked relay = proofReply final
          ⟨made.countP agrees, made.countP fun signing => !agrees signing⟩ := by
  intro made agrees
  obtain ⟨sendable, kept⟩ := store_sendable stored
  have fresh : (newRecord recipient.val data draw now).data = some (.string data) := by
    simp [newRecord, MessageRecord.construct, field, lookup]
  obtain ⟨own, first, mine⟩ := withProof_made fresh (store_proved stored)
  obtain ⟨arrived, others, collected, theirs⟩ :=
    travel_made legs sendable (kept.data.trans fresh) travelled
  have all : List.Forall₂ (Made P) made final.storageProofs := by
    rw [collected, first]
    exact List.rel_append mine theirs
  have read : bufferFrom P final.data = .ok (fromBase64 (finalData data legs)) := by
    rw [arrived]
    rfl
  have tells : ∀ signing proof, Made P signing proof →
      provesData P (fromBase64 (finalData data legs)) proof = agrees signing :=
    fun signing proof one => provesData_made one (finalData data legs)
  have valid : final.storageProofs.countP (provesData P (fromBase64 (finalData data legs))) =
      made.countP agrees := forall₂_countP tells all
  have invalid : final.storageProofs.countP
        (fun proof => !provesData P (fromBase64 (finalData data legs)) proof) =
      made.countP fun signing => !agrees signing :=
    forall₂_countP (fun signing proof one => by rw [tells signing proof one]) all
  have counted : verifyProofs P final =
      ⟨made.countP agrees, made.countP fun signing => !agrees signing⟩ := by
    rw [verifyProofs_eq P read, valid, invalid]
  refine ⟨counted, all.imp fun signing proof one verifyFn accepts => verify_made one _ accepts, ?_⟩
  intro address messageId asked relay named identified held alive
  rw [proof_answered P named identified held alive, counted]

/-- A proof that was signed before the data was exchanged counts as invalid. -/
def sampleLegs : List Leg := [.hop signingHop, .alter "b3RoZXI="]

theorem sample_proofs_tell : ∃ final, travel samplePackages
    (newRecord (.string "alice") "bWFpbA==" sampleDraw sampleMoment) sampleLegs = some final ∧
      verifyProofs samplePackages final = ⟨0, 1⟩ := by
  have stored : (store samplePackages none alice.val "bWFpbA==" sampleDraw sampleMoment .empty).result =
      .ok (newRecord (.string "alice") "bWFpbA==" sampleDraw sampleMoment) := rfl
  have willing : ∀ one ∈ signingHop.signer, ∀ bytes, (one.signFn bytes).isSome := by
    rintro signer ⟨⟩ bytes
    rfl
  obtain ⟨middle, proved⟩ := withProof_willing (P := samplePackages) (store_sendable stored).1
    signingHop.storedAt willing
  have passed : pass samplePackages (newRecord (.string "alice") "bWFpbA==" sampleDraw
      sampleMoment) signingHop = some middle := by
    rw [pass_eq (store_sendable stored).1, proved]
    rfl
  have travelled : travel samplePackages (newRecord (.string "alice") "bWFpbA==" sampleDraw
      sampleMoment) sampleLegs = some { middle with data := some (.string "b3RoZXI=") } := by
    rw [sampleLegs, travel, passed]
    rfl
  refine ⟨_, travelled, (proofs_tell samplePackages none alice "bWFpbA==" sampleDraw sampleMoment
    .empty stored sampleLegs travelled).1.trans ?_⟩
  decide +kernel

end Chainmail.RecordHops
