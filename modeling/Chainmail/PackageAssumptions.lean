import Chainmail.Base58
import Chainmail.Framed
import Chainmail.Identity

/-!
What the results on envelopes assume of the packages, each assumption under its
own name, and one choice of the packages in which all of them hold.
-/

namespace Chainmail

/-- A signature verifies under the public key of the key that made it. -/
def SignaturesVerify (P : Packages) : Prop :=
  ∀ privateKey message : Bytes, privateKey.length = 32 →
    P.ed25519Verify (P.ed25519Sign message privateKey) message (P.ed25519PublicKey privateKey) =
      some true

/-- Only the holder of a signing key makes a signature that verifies under it. -/
def SignaturesUnforgeable (P : Packages) : Prop :=
  ∀ signature message publicKey : Bytes, P.ed25519Verify signature message publicKey = some true →
    ∃ privateKey : Bytes, privateKey.length = 32 ∧ P.ed25519PublicKey privateKey = publicKey ∧
      P.ed25519Sign message privateKey = signature

/-- Two signing keys never make the same signature. -/
def SignaturesDistinct (P : Packages) : Prop :=
  ∀ message privateKey other : Bytes, privateKey.length = 32 → other.length = 32 →
    P.ed25519Sign message privateKey = P.ed25519Sign message other →
    P.ed25519PublicKey privateKey = P.ed25519PublicKey other

/-- X25519 agrees on generated keys from both sides. -/
def AgreementCommutes (P : Packages) : Prop :=
  ∀ a b : Bytes, a.length = 32 → b.length = 32 → ∃ shared,
    P.x25519SharedSecret a (P.x25519PublicKey b) = some shared ∧
      P.x25519SharedSecret b (P.x25519PublicKey a) = some shared

/-- The cipher opens what it sealed under the same key and nonce. -/
def ChachaRoundTrips (P : Packages) : Prop :=
  ∀ key nonce plaintext : Bytes, nonce.length = 12 →
    P.chachaDecrypt key nonce (P.chachaEncrypt key nonce plaintext) = some plaintext

/-- A sealed text opens only under the key that sealed it. -/
def ChachaCommits (P : Packages) : Prop :=
  ∀ key other nonce plaintext opened : Bytes,
    P.chachaDecrypt other nonce (P.chachaEncrypt key nonce plaintext) = some opened → other = key

/-- One key agrees on different secrets with different generated keys, and different
    secrets derive different cipher keys. -/
structure KeysSeparate (P : Packages) : Prop where
  agreement : ∀ a b c : Bytes, a.length = 32 → b.length = 32 → c.length = 32 →
    P.x25519SharedSecret a (P.x25519PublicKey b) = P.x25519SharedSecret a (P.x25519PublicKey c) →
    P.x25519PublicKey b = P.x25519PublicKey c
  secret_length : ∀ a b secret : Bytes, a.length = 32 → b.length = 32 →
    P.x25519SharedSecret a (P.x25519PublicKey b) = some secret → secret.length = 32
  derivation : ∀ info secret other : Bytes, secret.length = 32 → other.length = 32 →
    P.hkdf secret none info 32 = P.hkdf other none info 32 → secret = other

def Sha256Length (P : Packages) : Prop := ∀ bytes, (P.sha256 bytes).length = 32

theorem encryptionPrivateKey_length {P : Packages} (sized : Sha256Length P)
    (identity : Identity P) : identity.encryptionPrivateKey.length = 32 := by
  simp [Identity.encryptionPrivateKey, clampedHash, sized identity.privateKey]

/-- A signature that verifies under two keys was made with one key. -/
theorem verify_unique {P : Packages} (unforgeable : SignaturesUnforgeable P)
    (distinct : SignaturesDistinct P) {signature message publicKey other : Bytes}
    (first : P.ed25519Verify signature message publicKey = some true)
    (second : P.ed25519Verify signature message other = some true) : publicKey = other := by
  obtain ⟨privateKey, length, rfl, made⟩ := unforgeable _ _ _ first
  obtain ⟨otherPrivate, otherLength, rfl, otherMade⟩ := unforgeable _ _ _ second
  exact distinct message privateKey otherPrivate length otherLength (made.trans otherMade.symm)

/-- The packages as an honest sender and recipient rely on them. -/
structure Reliable (P : Packages) : Prop where
  base58 : Base58RoundTrips P
  verifies : SignaturesVerify P
  commutes : AgreementCommutes P
  roundTrips : ChachaRoundTrips P
  commits : ChachaCommits P
  sized : Sha256Length P

section Sample

def fit (length : Nat) (bytes : Bytes) : Bytes := (bytes ++ List.replicate length 0).take length

@[simp] theorem fit_length (length : Nat) (bytes : Bytes) : (fit length bytes).length = length := by
  simp [fit]

/-- Hashes cut to length behind zeros that every proof of work accepts, key pairs are their own public keys, a signature shows
    the key and the hash, agreement adds bytewise, and the cipher frames its
    key and nonce in front of the plaintext. Base58 is the real one. -/
def samplePackages : Packages where
  sha256 bytes := 0 :: 0 :: 0 :: fit 29 bytes
  hkdf ikm _ _ length := fit length ikm
  ed25519PublicKey privateKey := privateKey
  ed25519Sign message privateKey := privateKey ++ fit 32 message
  ed25519Verify signature message publicKey :=
    if publicKey.length = 32 ∧ signature.length = 64 then
      some (decide (signature = publicKey ++ fit 32 message))
    else none
  x25519PublicKey privateKey := privateKey
  x25519SharedSecret privateKey publicKey := some (List.zipWith (· + ·) privateKey publicKey)
  chachaEncrypt key nonce plaintext := frame key ++ (frame nonce ++ plaintext)
  chachaDecrypt key nonce ciphertext := strip (frame key ++ frame nonce) ciphertext
  base58btcEncode bytes := String.ofList ('z' :: Base58.encode bytes)
  base58btcDecode text :=
    match text.toList with
    | 'z' :: letters => Base58.decode letters
    | _ => none
  bufferFromOther _ := none
  numberFromOther _ := none

theorem sample_verifies : SignaturesVerify samplePackages := by
  intro privateKey message length
  simp [samplePackages, length]

theorem sample_unforgeable : SignaturesUnforgeable samplePackages := by
  intro signature message publicKey verified
  simp only [samplePackages] at verified
  split at verified
  · rename_i sized
    have same : signature = publicKey ++ fit 32 message := by simpa using verified
    exact ⟨publicKey, sized.1, rfl, same.symm⟩
  · cases verified

theorem sample_distinct : SignaturesDistinct samplePackages := by
  intro message privateKey other _ _ same
  exact List.append_cancel_right same

theorem sample_commutes : AgreementCommutes samplePackages := by
  intro a b _ _
  refine ⟨_, rfl, ?_⟩
  simp only [samplePackages, Option.some.injEq]
  exact List.zipWith_comm_of_comm fun x y => UInt8.add_comm x y

theorem sample_roundtrips : ChachaRoundTrips samplePackages := by
  intro key nonce plaintext _
  have sealed := strip_append (frame key ++ frame nonce) plaintext
  simpa only [samplePackages, List.append_assoc] using sealed

theorem sample_commits : ChachaCommits samplePackages := by
  intro key other nonce plaintext opened success
  have whole := strip_some success
  simp only [samplePackages, List.append_assoc] at whole
  exact (frame_append_inj _ _ _ _ whole).1.symm

theorem sample_separate : KeysSeparate samplePackages where
  agreement a b c first second third same := by
    simp only [samplePackages, Option.some.injEq] at same
    apply List.ext_getElem (second.trans third.symm)
    intro i inside other
    have added := congrArg (fun bytes => bytes[i]?) same
    simp only [List.getElem?_zipWith] at added
    rw [List.getElem?_eq_getElem (show i < a.length by omega), List.getElem?_eq_getElem inside,
      List.getElem?_eq_getElem other] at added
    simpa using added
  secret_length a b secret first second agreed := by
    cases agreed
    have generated : (samplePackages.x25519PublicKey b).length = 32 := second
    simp [first, generated]
  derivation info secret other first second same := by
    simpa [samplePackages, fit, first, second] using same

theorem sample_sha256 : Sha256Length samplePackages := by
  intro bytes
  simp [samplePackages]

theorem sample_base58 : Base58RoundTrips samplePackages where
  decode_encode bytes := by simp [samplePackages, Base58.decode_encode]
  encode_head bytes := by simp [samplePackages]

theorem sample_reliable : Reliable samplePackages where
  base58 := sample_base58
  verifies := sample_verifies
  commutes := sample_commutes
  roundTrips := sample_roundtrips
  commits := sample_commits
  sized := sample_sha256

def sampleIdentity (seed : UInt8) : Identity samplePackages :=
  .fromPrivateKey (List.replicate 32 seed) List.length_replicate

end Sample
end Chainmail
