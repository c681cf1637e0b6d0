import Chainmail.PackageAssumptions

/-!
The encryption that both envelope formats share: a fresh key pair agrees with
the recipient's key on a secret, and a cipher key derived from the secret seals
the plaintext. The formats differ in the label of the derivation.
-/

namespace Chainmail

/-- What one encryption draws. -/
structure CipherDraws where
  ephemeralPrivate : Bytes
  nonce : Bytes
  ephemeralPrivate_length : ephemeralPrivate.length = 32
  nonce_length : nonce.length = 12

structure Encrypted where
  ephemeralKey : Bytes
  nonce : Bytes
  ciphertext : Bytes

variable {P : Packages}

def cipherKey (P : Packages) (info sharedSecret : Bytes) : Bytes := P.hkdf sharedSecret none info 32

def encryptFor (P : Packages) (info : Bytes) (draws : CipherDraws)
    (plaintext recipientPublicKey : Bytes) : Except Failure Encrypted := do
  let sharedSecret ← accepted (P.x25519SharedSecret draws.ephemeralPrivate recipientPublicKey)
  return ⟨P.x25519PublicKey draws.ephemeralPrivate, draws.nonce,
    P.chachaEncrypt (cipherKey P info sharedSecret) draws.nonce plaintext⟩

def decryptWith (P : Packages) (info privateKey : Bytes) (encrypted : Encrypted) :
    Except Failure Bytes := do
  let sharedSecret ← accepted (P.x25519SharedSecret privateKey encrypted.ephemeralKey)
  accepted (P.chachaDecrypt (cipherKey P info sharedSecret) encrypted.nonce encrypted.ciphertext)

/-- The drawn key derives one cipher key with either public key. -/
def KeysAgree (P : Packages) (info : Bytes) (draws : CipherDraws) (publicKey other : Bytes) : Prop :=
  ∃ shared otherShared, P.x25519SharedSecret draws.ephemeralPrivate publicKey = some shared ∧
    P.x25519SharedSecret draws.ephemeralPrivate other = some otherShared ∧
    cipherKey P info shared = cipherKey P info otherShared

theorem encryptFor_ok_iff {info plaintext publicKey : Bytes} {draws : CipherDraws}
    {encrypted : Encrypted} :
    encryptFor P info draws plaintext publicKey = .ok encrypted ↔
      ∃ shared, P.x25519SharedSecret draws.ephemeralPrivate publicKey = some shared ∧
        encrypted = ⟨P.x25519PublicKey draws.ephemeralPrivate, draws.nonce,
          P.chachaEncrypt (cipherKey P info shared) draws.nonce plaintext⟩ := by
  simp only [encryptFor, bind_ok_iff, accepted_ok]
  constructor
  · rintro ⟨shared, agreed, made⟩
    cases made
    exact ⟨shared, agreed, rfl⟩
  · rintro ⟨shared, agreed, rfl⟩
    exact ⟨shared, agreed, rfl⟩

/-- For a generated key there is always a text. -/
theorem encryptFor_own (commutes : AgreementCommutes P) {privateKey : Bytes}
    (length : privateKey.length = 32) (info plaintext : Bytes) (draws : CipherDraws) :
    ∃ encrypted, encryptFor P info draws plaintext (P.x25519PublicKey privateKey) =
      .ok encrypted := by
  obtain ⟨shared, agreed, _⟩ :=
    commutes draws.ephemeralPrivate privateKey draws.ephemeralPrivate_length length
  exact ⟨_, encryptFor_ok_iff.mpr ⟨shared, agreed, rfl⟩⟩

/-- The holder of a private key opens what was encrypted for some public key
    exactly when that key serves the sender as well as the holder's own. -/
theorem decryptWith_ok_iff (commutes : AgreementCommutes P) (roundTrips : ChachaRoundTrips P)
    (commits : ChachaCommits P) {info plaintext publicKey privateKey : Bytes} {draws : CipherDraws}
    {encrypted : Encrypted} (length : privateKey.length = 32)
    (encryption : encryptFor P info draws plaintext publicKey = .ok encrypted) (opened : Bytes) :
    decryptWith P info privateKey encrypted = .ok opened ↔
      opened = plaintext ∧ KeysAgree P info draws publicKey (P.x25519PublicKey privateKey) := by
  obtain ⟨shared, agreed, rfl⟩ := encryptFor_ok_iff.mp encryption
  obtain ⟨own, sending, receiving⟩ :=
    commutes draws.ephemeralPrivate privateKey draws.ephemeralPrivate_length length
  have unsealed := roundTrips (cipherKey P info shared) draws.nonce plaintext draws.nonce_length
  simp only [decryptWith, receiving, accepted_some, ok_bind, accepted_ok]
  constructor
  · intro success
    have same : cipherKey P info own = cipherKey P info shared := commits _ _ _ _ _ success
    rw [same, unsealed] at success
    exact ⟨(Option.some.inj success).symm, shared, own, agreed, sending, same.symm⟩
  · rintro ⟨rfl, first, second, agreement, otherAgreement, same⟩
    obtain rfl : first = shared := Option.some.inj (agreement.symm.trans agreed)
    obtain rfl : second = own := Option.some.inj (otherAgreement.symm.trans sending)
    rw [← same]
    exact unsealed

/-- What was encrypted for a key pair, its private key opens. -/
theorem decryptWith_own (commutes : AgreementCommutes P) (roundTrips : ChachaRoundTrips P)
    {info plaintext privateKey : Bytes} {draws : CipherDraws} {encrypted : Encrypted}
    (length : privateKey.length = 32)
    (encryption : encryptFor P info draws plaintext (P.x25519PublicKey privateKey) =
      .ok encrypted) :
    decryptWith P info privateKey encrypted = .ok plaintext := by
  obtain ⟨shared, agreed, rfl⟩ := encryptFor_ok_iff.mp encryption
  obtain ⟨own, sending, receiving⟩ :=
    commutes draws.ephemeralPrivate privateKey draws.ephemeralPrivate_length length
  obtain rfl : own = shared := Option.some.inj (sending.symm.trans agreed)
  simp only [decryptWith, receiving, accepted_some, ok_bind]
  rw [roundTrips _ _ _ draws.nonce_length, accepted_some]

/-- One cipher key serves the holder of one encryption key only. -/
theorem keysAgree_unique (separate : KeysSeparate P) {info privateKey other : Bytes}
    {draws : CipherDraws} (length : privateKey.length = 32) (otherLength : other.length = 32)
    (agree : KeysAgree P info draws (P.x25519PublicKey privateKey) (P.x25519PublicKey other)) :
    P.x25519PublicKey privateKey = P.x25519PublicKey other := by
  obtain ⟨shared, otherShared, agreed, otherAgreed, same⟩ := agree
  have fits := draws.ephemeralPrivate_length
  have secret : shared = otherShared := separate.derivation info _ _
    (separate.secret_length _ _ _ fits length agreed)
    (separate.secret_length _ _ _ fits otherLength otherAgreed) same
  apply separate.agreement draws.ephemeralPrivate _ _ fits length otherLength
  rw [agreed, otherAgreed, secret]

theorem sample_encrypts (info : Bytes) (draws : CipherDraws) (plaintext publicKey : Bytes) :
    ∃ encrypted, encryptFor samplePackages info draws plaintext publicKey = .ok encrypted :=
  ⟨_, rfl⟩

def sampleCipherDraws : CipherDraws :=
  ⟨List.replicate 32 4, List.replicate 12 5, List.length_replicate, List.length_replicate⟩

end Chainmail
