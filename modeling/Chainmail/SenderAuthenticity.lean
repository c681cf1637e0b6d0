import Chainmail.SealedOpening

/-!
Which sealed envelopes prove their sender. The parser checks the signature under
the public key that the inner envelope brings along, and never compares that key
with the one the sender's address encodes.
-/

namespace Chainmail.SealedEnvelope

open Json

variable {P : Packages}

/-- The signing key that the address in a message encodes. -/
def encodedKey (P : Packages) : Option Json → Option Bytes
  | some (.string address) =>
      match addressToPublicKey P address with
      | .ok publicKey => some publicKey
      | .error _ => none
  | _ => none

/-- A message reported as verified carries a signature that verifies under the
    key its sender's address encodes. -/
def SenderAuthentic (identity : Identity P) (envelope : Json) : Prop :=
  ∀ message, parse identity envelope = .ok message → message.verified = true →
    ∃ inner signature publicKey, openInner identity envelope = .ok inner ∧
      bufferFrom P (inner.field "signature") = .ok signature ∧
      encodedKey P message.from = some publicKey ∧
      P.ed25519Verify signature (innerHash P inner) publicKey = some true

/-- A message reported as verified was signed by the holder of the signing key
    that its sender's address encodes. -/
def SignedBySender (identity : Identity P) (envelope : Json) : Prop :=
  ∀ message, parse identity envelope = .ok message → message.verified = true →
    ∃ inner privateKey, openInner identity envelope = .ok inner ∧ privateKey.length = 32 ∧
      encodedKey P message.from = some (P.ed25519PublicKey privateKey) ∧
      bufferFrom P (inner.field "signature") = .ok (P.ed25519Sign (innerHash P inner) privateKey)

/-- The public key in an inner envelope that passes the parser's checks is the
    one its `from` encodes. -/
def KeyMatchesAddress (identity : Identity P) (envelope : Json) : Prop :=
  ∀ inner signature publicKey, openInner identity envelope = .ok inner →
    Accepts identity inner signature publicKey →
    encodedKey P (inner.field "from") = some publicKey

theorem authentic_of_matches {identity : Identity P} {envelope : Json}
    (matching : KeyMatchesAddress identity envelope) : SenderAuthentic identity envelope := by
  intro message parsed _
  obtain ⟨inner, signature, publicKey, opened, accepts, rfl⟩ := parse_ok_iff.mp parsed
  have encoded := matching inner signature publicKey opened accepts
  exact ⟨inner, signature, publicKey, opened, accepts.signature_read, encoded, accepts.verifies⟩

theorem matches_of_authentic (unforgeable : SignaturesUnforgeable P)
    (distinct : SignaturesDistinct P) {identity : Identity P} {envelope : Json}
    (authentic : SenderAuthentic identity envelope) : KeyMatchesAddress identity envelope := by
  intro inner signature publicKey opened accepts
  have parsed := parse_ok_iff.mpr ⟨inner, signature, publicKey, opened, accepts, rfl⟩
  obtain ⟨other, otherSignature, key, sameOpened, signed, encoded, verified⟩ :=
    authentic _ parsed rfl
  have sameInner : inner = other := Except.ok.inj (opened.symm.trans sameOpened)
  subst sameInner
  have sameSignature : signature = otherSignature :=
    Except.ok.inj (accepts.signature_read.symm.trans signed)
  subst sameSignature
  rw [verify_unique unforgeable distinct accepts.verifies verified]
  exact encoded

theorem signed_iff_authentic (verifies : SignaturesVerify P)
    (unforgeable : SignaturesUnforgeable P) (identity : Identity P) (envelope : Json) :
    SignedBySender identity envelope ↔ SenderAuthentic identity envelope := by
  constructor
  · intro signedBy message parsed verified
    obtain ⟨inner, privateKey, opened, length, encoded, signed⟩ := signedBy message parsed verified
    exact ⟨inner, _, _, opened, signed, encoded, verifies privateKey _ length⟩
  · intro authentic message parsed verified
    obtain ⟨inner, signature, publicKey, opened, signed, encoded, valid⟩ :=
      authentic message parsed verified
    obtain ⟨privateKey, length, rfl, rfl⟩ := unforgeable _ _ _ valid
    exact ⟨inner, privateKey, opened, length, encoded, signed⟩

theorem encodedKey_address (base58 : Base58RoundTrips P) (identity : Identity P) :
    encodedKey P (some (.string identity.address)) = some identity.publicKey := by
  simp [encodedKey, addressToPublicKey_address base58 identity]

/-! What anybody can send: an inner envelope under someone else's address, with
the author's own public key and signature, for a recipient whose encryption key
the author knows. -/

section Forgery

def forgedPlaintext (address : String) (author recipient : Identity P) : List (String × Json) :=
  [("from", .string address),
    ("fromPublicKey", .string (toBase64 author.publicKey)),
    ("to", .string recipient.address),
    ("body", .string "send money")]

def forgedEnvelope (address : String) (author recipient : Identity P) (draws : Draws) :
    Except Failure Json := do
  let inner := utf8Encode (stringify (.object (withSignature author (forgedPlaintext address author recipient))))
  let encrypted ← encryptForRecipient P draws.toCipherDraws inner recipient.encryptionPublicKey
  return outerEnvelope P recipient.address draws encrypted

variable {address : String} {author recipient : Identity P} {draws : Draws} {envelope : Json}

theorem forgedPlaintext_canonical :
    Canonical (.object (withSignature author (forgedPlaintext address author recipient))) := by
  apply canonical_object ["from", "fromPublicKey", "to", "body", "signature"] rfl
  · decide +kernel
  · exact ⟨trivial, trivial, trivial, trivial, trivial, trivial⟩

theorem openInner_forged (commutes : AgreementCommutes P) (roundTrips : ChachaRoundTrips P)
    (sized : Sha256Length P) (built : forgedEnvelope address author recipient draws = .ok envelope) :
    openInner recipient envelope = .ok (.object (withSignature author (forgedPlaintext address author recipient))) := by
  obtain ⟨encrypted, sealing, made⟩ := bind_ok_iff.mp built
  cases made
  exact openInner_own _ commutes roundTrips sized forgedPlaintext_canonical sealing

theorem accepts_forged (verifies : SignaturesVerify P) (address : String)
    (author recipient : Identity P) : ∃ signature,
    Accepts recipient (.object (withSignature author (forgedPlaintext address author recipient)))
      signature author.publicKey := by
  refine ⟨_, accepts_withSignature verifies ?_ ?_ ?_⟩
  · simp [forgedPlaintext]
  · simp [forgedPlaintext, lookup]
  · simp [forgedPlaintext, lookup]

/-- Whoever writes the envelope, it is reported as verified mail from that address. -/
theorem parse_forged (verifies : SignaturesVerify P) (commutes : AgreementCommutes P)
    (roundTrips : ChachaRoundTrips P) (sized : Sha256Length P)
    (built : forgedEnvelope address author recipient draws = .ok envelope) :
    ∃ message, parse recipient envelope = .ok message ∧
      message.from = some (.string address) ∧ message.verified = true := by
  have opened := openInner_forged commutes roundTrips sized built
  obtain ⟨signature, accepts⟩ := accepts_forged verifies address author recipient
  exact ⟨_, parse_ok_iff.mpr ⟨_, _, _, opened, accepts, rfl⟩, rfl, rfl⟩

theorem forged_not_matching (base58 : Base58RoundTrips P) (verifies : SignaturesVerify P)
    (commutes : AgreementCommutes P) (roundTrips : ChachaRoundTrips P)
    (sized : Sha256Length P) (victim : Identity P) (other : victim.publicKey ≠ author.publicKey)
    (built : forgedEnvelope victim.address author recipient draws = .ok envelope) :
    ¬ KeyMatchesAddress recipient envelope := by
  intro matching
  obtain ⟨signature, accepts⟩ := accepts_forged verifies victim.address author recipient
  have opened := openInner_forged commutes roundTrips sized built
  have encoded := matching _ _ _ opened accepts
  have own : encodedKey P (some (.string victim.address)) = some author.publicKey := encoded
  rw [encodedKey_address base58] at own
  exact other (Option.some.inj own)

end Forgery

/-- A verified sender is the one who signed exactly for the envelopes whose
    public key is the one the sender's address encodes. -/
theorem verified_sender_iff_key_matches (verifies : SignaturesVerify P)
    (unforgeable : SignaturesUnforgeable P) (distinct : SignaturesDistinct P)
    (identity : Identity P) (envelope : Json) :
    (SenderAuthentic identity envelope ↔ KeyMatchesAddress identity envelope) ∧
      (SignedBySender identity envelope ↔ KeyMatchesAddress identity envelope) := by
  have authentic : SenderAuthentic identity envelope ↔ KeyMatchesAddress identity envelope :=
    ⟨matches_of_authentic unforgeable distinct, authentic_of_matches⟩
  exact ⟨authentic, (signed_iff_authentic verifies unforgeable identity envelope).trans authentic⟩

/-! Mallory writes to Bob under Alice's address. -/

def alice : Identity samplePackages := sampleIdentity 1
def bob : Identity samplePackages := sampleIdentity 2
def mallory : Identity samplePackages := sampleIdentity 3

def malloryEnvelope : Json :=
  match forgedEnvelope alice.address mallory bob sampleDraws with
  | .ok envelope => envelope
  | .error _ => .null

theorem malloryEnvelope_built :
    forgedEnvelope alice.address mallory bob sampleDraws = .ok malloryEnvelope := rfl

theorem mallory_writes_as_alice :
    (∃ message, parse bob malloryEnvelope = .ok message ∧
      message.from = some (.string alice.address) ∧ message.verified = true) ∧
      ¬ SenderAuthentic bob malloryEnvelope ∧ ¬ SignedBySender bob malloryEnvelope := by
  have reported := parse_forged sample_verifies sample_commutes sample_roundtrips
    sample_sha256 malloryEnvelope_built
  have broken := forged_not_matching sample_base58 sample_verifies sample_commutes
    sample_roundtrips sample_sha256 alice (by decide) malloryEnvelope_built
  have unauthentic : ¬ SenderAuthentic bob malloryEnvelope := by
    intro authentic
    exact broken (matches_of_authentic sample_unforgeable sample_distinct authentic)
  refine ⟨reported, unauthentic, ?_⟩
  rw [signed_iff_authentic sample_verifies sample_unforgeable]
  exact unauthentic

theorem sample_sender_iff_key_matches :
    (SenderAuthentic bob malloryEnvelope ↔ KeyMatchesAddress bob malloryEnvelope) ∧
      (SignedBySender bob malloryEnvelope ↔ KeyMatchesAddress bob malloryEnvelope) :=
  verified_sender_iff_key_matches sample_verifies sample_unforgeable sample_distinct bob
    malloryEnvelope

end Chainmail.SealedEnvelope
