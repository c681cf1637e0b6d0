import Chainmail.JsonRoundTrip
import Chainmail.SealedEnvelope

/-!
Opening what was sealed. A recipient reads the inner envelope exactly when the
key it agrees on with the ephemeral key is the key the sender sealed under.
-/

namespace Chainmail.SealedEnvelope

open Json

variable {P : Packages}

theorem openInner_outerEnvelope (identity : Identity P) (recipient : String) (draws : Draws)
    (encrypted : Encrypted) :
    openInner identity (outerEnvelope P recipient draws encrypted) = (do
      let decrypted ← decryptWith P INFO_INNER identity.encryptionPrivateKey encrypted
      parseOrThrow (textDecode decrypted)) := by
  simp [openInner, outerEnvelope, decryptPayload, field, lookup]

variable {identity : Identity P} {draws : Draws} {fields : List (String × Json)}
  {recipientKey : Bytes} {encrypted : Encrypted} (recipient : String)

theorem openInner_ok_iff (identity : Identity P) (commutes : AgreementCommutes P) (roundTrips : ChachaRoundTrips P)
    (commits : ChachaCommits P) (sized : Sha256Length P) (canonical : Canonical (.object fields))
    (encryption : encryptForRecipient P draws.toCipherDraws
      (utf8Encode (stringify (.object fields))) recipientKey = .ok encrypted) (inner : Json) :
    openInner identity (outerEnvelope P recipient draws encrypted) = .ok inner ↔
      inner = .object fields ∧
        KeysAgree P INFO_INNER draws.toCipherDraws recipientKey identity.encryptionPublicKey := by
  have length := encryptionPrivateKey_length sized identity
  rw [openInner_outerEnvelope]
  exact read_decrypted_iff canonical
    (decryptWith_ok_iff commutes roundTrips commits length encryption) inner

/-- What is sealed for an identity's own encryption key, that identity opens. -/
theorem openInner_own (commutes : AgreementCommutes P) (roundTrips : ChachaRoundTrips P)
    (sized : Sha256Length P) (canonical : Canonical (.object fields))
    (encryption : encryptForRecipient P draws.toCipherDraws
      (utf8Encode (stringify (.object fields))) identity.encryptionPublicKey = .ok encrypted) :
    openInner identity (outerEnvelope P recipient draws encrypted) = .ok (.object fields) := by
  have opened := decryptWith_own commutes roundTrips
    (encryptionPrivateKey_length sized identity) encryption
  rw [openInner_outerEnvelope, opened, ok_bind, parse_transmitted canonical]

/-- Contents that keep their values when they are printed and read. -/
structure Content.Printable (content : Content) : Prop where
  subject : Canonical content.subject
  body : Canonical content.body
  attachments : CanonicalItems content.attachments
  replyTo : Canonical content.replyTo
  threadId : Canonical content.threadId

theorem inner_canonical (sender : Identity P) (address : String) {content : Content}
    (printable : content.Printable) (now : Nat) :
    Canonical (.object (withSignature sender (innerPlaintext sender address content now))) := by
  apply canonical_object ["version", "from", "fromPublicKey", "fromEncryptionKey", "to",
    "timestamp", "subject", "body", "attachments", "replyTo", "threadId", "signature"] rfl
  · decide +kernel
  · exact ⟨trivial, trivial, trivial, trivial, trivial, trivial, printable.subject, printable.body,
      printable.attachments, printable.replyTo, printable.threadId, trivial, trivial⟩

theorem inner_accepted (verifies : SignaturesVerify P) (sender recipient : Identity P)
    (content : Content) (now : Nat) : ∃ signature,
    Accepts recipient (.object (withSignature sender
      (innerPlaintext sender recipient.address content now))) signature sender.publicKey := by
  refine ⟨_, accepts_withSignature verifies ?_ ?_ ?_⟩
  · simp [innerPlaintext]
  · simp [innerPlaintext, lookup]
  · simp [innerPlaintext, lookup]

def sampleDraws : Draws :=
  ⟨sampleCipherDraws, 1000, 1000, 300000, [], by decide, by decide⟩

end Chainmail.SealedEnvelope
