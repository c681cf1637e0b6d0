import Chainmail.EnvelopeRoundTrips
import Chainmail.RegistryClient
import Chainmail.TimestampProofs

/-!
Mail that its sender anchors on the chain. The hash is over the printed `encrypted` of the
envelope, so it has to survive the way into somebody else's inbox before anybody finds the proof
from there.
-/

namespace Chainmail.BlockchainRegistry

open Json DMailRegistry MessageEnvelope
open Senders (Value)

variable {P : Packages}

/-- The call anchors the envelope, with the CID of what is stored of it, if there is one. -/
def Anchors (P : Packages) (envelope : Json) (ipfsCid : Option String) (call : Call) : Prop :=
  ipfsCid = none ∧ timestampMessage P envelope = some call ∨
    ∃ given, ipfsCid = (if given = "" then none else some given) ∧
      timestampAndStore P envelope given = some call

theorem messageHash_sized (sized : Sha256Length P) (envelope : Json) :
    ∃ hash, messageHash P envelope = some hash :=
  ⟨_, dif_pos (sized (messageData envelope))⟩

section Calls
variable {envelope : Json} {ipfsCid : Option String} {sender recipient : String}

/-- What is written of an anchored envelope: its hash, its addresses, and the wallet and the time
    of the transaction. -/
theorem anchors_proof {tx : Transaction} (anchors : Anchors P envelope ipfsCid tx.call)
    (writer : envelope.field "from" = some (.string sender))
    (addressee : envelope.field "to" = some (.string recipient)) :
    ∃ hash cid, messageHash P envelope = some hash ∧
      proofOf tx = some ⟨hash, tx.sender, utf8Encode sender, utf8Encode recipient,
        utf8Encode cid, tx.now⟩ ∧
      ipfsCid = if cid = "" then none else some cid := by
  rcases anchors with ⟨none, called⟩ | ⟨given, same, called⟩
  · simp only [timestampMessage, writer, addressee, stringArgument, Option.bind_eq_bind,
      Option.bind_eq_some_iff, Option.some.injEq, exists_eq_left'] at called
    obtain ⟨hash, hashed, made⟩ := called
    refine ⟨hash, "", hashed, ?_, none⟩
    rw [proofOf, ← Option.some.inj made]
    rfl
  · simp only [timestampAndStore, writer, addressee, stringArgument, Option.bind_eq_bind,
      Option.bind_eq_some_iff, Option.some.injEq, exists_eq_left'] at called
    obtain ⟨hash, hashed, made⟩ := called
    refine ⟨hash, given, hashed, ?_, same⟩
    rw [proofOf, ← Option.some.inj made]

end Calls

section Proofs
variable {past : List Transaction} {hash : Solidity.Bytes32} {wallet : Solidity.Address}
  {sender recipient cid : String} {now : Nat}

/-- The client reads a proof back as it was written. -/
theorem getMessageProof_written (positive : 0 < now)
    (held : (replay past).messageProofs hash =
      ⟨hash, wallet, utf8Encode sender, utf8Encode recipient, utf8Encode cid, now⟩) :
    getMessageProof (some (replay past)) hash = some ⟨hash, wallet, sender, recipient,
      if cid = "" then none else some cid, now⟩ := by
  have stamped : now ≠ 0 := Nat.ne_of_gt positive
  simp [getMessageProof, DMailRegistry.getMessageProof, held, stamped, utf8Decode_encode]

theorem verifyMessageTime_written (positive : 0 < now)
    (held : (replay past).messageProofs hash =
      ⟨hash, wallet, utf8Encode sender, utf8Encode recipient, utf8Encode cid, now⟩)
    (beforeTime : Nat) :
    verifyMessageTime (some (replay past)) hash beforeTime = some (decide (now ≤ beforeTime)) := by
  have stamped : now ≠ 0 := Nat.ne_of_gt positive
  simp [verifyMessageTime, DMailRegistry.verifyMessageTime, held, stamped]

end Proofs

section Delivered

/-- What the inbox shows of a message has the hash of the message. -/
theorem messageHash_shown (builder : MessageBuilder P) (address : String) (encrypted : Encrypted)
    (pow : ProofOfWork.Proof) (count : Option Value) (receivedAt : Nat) (read : Bool)
    (listedAs : Option String) : ∃ shown,
    DMailNode.InboxEntry.shown listedAs ⟨builtEnvelope builder address encrypted pow,
        count.map Subtype.val, receivedAt, read⟩ = .ok shown ∧
      messageHash P shown = messageHash P (builtEnvelope builder address encrypted pow) := by
  obtain ⟨listed, shown, same⟩ := DMailNode.shown_fields
    ⟨_, count.map Subtype.val, receivedAt, read⟩
    (builtFields_storable builder address encrypted pow) rfl
    (SealedEnvelope.value_canonical count) listedAs
  have content : Json.lookup "encrypted" listed =
      Json.lookup "encrypted" (builtFields builder address encrypted pow) := by
    apply same
    have named : "encrypted" ∈ ["version", "from", "fromEncryptionKey", "to", "timestamp",
      "encrypted", "signature", "pow"] := by decide
    exact named
  refine ⟨_, shown, ?_⟩
  simp only [messageHash, messageData, field]
  rw [content]
  rfl

/-- From what is in the inbox the recipient finds the proof of the transaction that anchored the
    message, and that it was there at its time, whatever has been done on the chain since. -/
theorem anchored_mail_proven (builder : MessageBuilder P) (address : String)
    (addressed : builder.to = some address) (key : Bytes) (draws : CipherDraws) (envelope : Json)
    (built : builder.build (some key) draws = .ok envelope) (later earlier : List Transaction)
    (tx : Transaction) (ipfsCid : Option String) (anchors : Anchors P envelope ipfsCid tx.call)
    (succeeds : ∃ after, execute (replay earlier) tx = .ok after) (positive : 0 < tx.now)
    (count : Option Value) (receivedAt : Nat) (read : Bool) (listedAs : Option String) :
    ∃ shown hash,
      DMailNode.InboxEntry.shown listedAs ⟨envelope, count.map Subtype.val, receivedAt, read⟩ =
          .ok shown ∧
        messageHash P shown = some hash ∧
        getMessageProof (some (replay (later ++ tx :: earlier))) hash =
          some ⟨hash, tx.sender, builder.identity.address, address, ipfsCid, tx.now⟩ ∧
        ∀ beforeTime, verifyMessageTime (some (replay (later ++ tx :: earlier))) hash beforeTime =
          some (decide (tx.now ≤ beforeTime)) := by
  obtain ⟨encrypted, pow, _, _, rfl⟩ := build_ok addressed built
  obtain ⟨shown, listed, same⟩ := messageHash_shown builder address encrypted pow count receivedAt
    read listedAs
  obtain ⟨hash, cid, hashed, written, cidGiven⟩ := anchors_proof anchors rfl rfl
  have first := proof_written ⟨written, succeeds⟩
  have held : (replay (later ++ tx :: earlier)).messageProofs hash =
      ⟨hash, tx.sender, utf8Encode builder.identity.address, utf8Encode address,
        utf8Encode cid, tx.now⟩ := by
    rw [proof_stays later (tx :: earlier) (by rw [first]; exact Nat.ne_of_gt positive), first]
  refine ⟨shown, hash, listed, same.trans hashed, ?_, verifyMessageTime_written positive held⟩
  rw [getMessageProof_written positive held, cidGiven]

end Delivered

/-! Alice anchors her note to Bob, and a stranger then anchors it as a note of theirs. -/

section Sample
open Senders (greeting message_built address_nonempty)

def note : MessageBuilder samplePackages :=
  written (sampleIdentity 1) (sampleIdentity 2) 1000 greeting greeting [] greeting greeting

theorem note_anchored : ∃ (envelope : Json) (anchoring : Call),
    note.build (some (sampleIdentity 2).encryptionPublicKey) sampleCipherDraws = .ok envelope ∧
      timestampMessage samplePackages envelope = some anchoring ∧
      ∃ shown hash,
        DMailNode.InboxEntry.shown none ⟨envelope, none, 1, false⟩ = .ok shown ∧
          messageHash samplePackages shown = some hash ∧
          getMessageProof (some (replay [⟨9, 5, anchoring⟩, ⟨7, 3, anchoring⟩])) hash =
            some ⟨hash, 7, (sampleIdentity 1).address, (sampleIdentity 2).address, none, 3⟩ ∧
          verifyMessageTime (some (replay [⟨9, 5, anchoring⟩, ⟨7, 3, anchoring⟩])) hash 4 =
            some true := by
  obtain ⟨envelope, built⟩ := message_built (show note.to = _ from rfl)
    (address_nonempty (sampleIdentity 2)) (sampleIdentity 2).encryptionPublicKey sampleCipherDraws
  obtain ⟨encrypted, pow, _, _, rfl⟩ := build_ok rfl built
  obtain ⟨hash, hashed⟩ := messageHash_sized sample_reliable.sized
    (builtEnvelope note (sampleIdentity 2).address encrypted pow)
  let anchoring : Call := .timestampMessage hash (utf8Encode (sampleIdentity 1).address)
    (utf8Encode (sampleIdentity 2).address)
  have called : timestampMessage samplePackages
      (builtEnvelope note (sampleIdentity 2).address encrypted pow) = some anchoring := by
    rw [timestampMessage, hashed]
    rfl
  have succeeds : ∃ after, execute (replay []) ⟨7, 3, anchoring⟩ = .ok after := ⟨_, rfl⟩
  obtain ⟨shown, own, listed, hashed, proven, verified⟩ := anchored_mail_proven note _ rfl _ _
    _ built [⟨9, 5, anchoring⟩] [] ⟨7, 3, anchoring⟩ none (.inl ⟨rfl, called⟩) succeeds
    (show 0 < 3 by decide) none 1 false none
  exact ⟨_, anchoring, built, called, shown, own, listed, hashed, proven, verified 4⟩

end Sample

end Chainmail.BlockchainRegistry
