import Chainmail.Framed
import Chainmail.RatchetSteps

/-!
What the ratchet results assume of the packages, each assumption under its own
name, and one byte-level choice of the packages in which all of them hold.
-/

namespace Chainmail.DoubleRatchet

variable {Secret : Type}

/-- X25519 agrees on generated keys from both sides. -/
def X25519Commutes (P : Primitives Secret) : Prop :=
  ∀ a b : Bytes, a.length = 32 → b.length = 32 → ∃ shared,
    P.getSharedSecret a (P.getPublicKey b) = some shared ∧
      P.getSharedSecret b (P.getPublicKey a) = some shared

/-- The cipher opens what it sealed under the same key, nonce and associated data. -/
def CipherRoundTrips (P : Primitives Secret) : Prop :=
  ∀ (key : Secret) (nonce associatedData plaintext : Bytes), nonce.length = 12 →
    P.cipherDecrypt key nonce associatedData
      (P.cipherEncrypt key nonce associatedData plaintext) = some plaintext

/-- A sealed text opens only under the key that sealed it. -/
def CipherCommits (P : Primitives Secret) : Prop :=
  ∀ (key other : Secret) (nonce otherNonce associatedData otherData plaintext opened : Bytes),
    P.cipherDecrypt other otherNonce otherData
      (P.cipherEncrypt key nonce associatedData plaintext) = some opened → other = key

/-- The KDFs are free constructors: injective, with disjoint outputs for their
    distinct labels, and never rebuilding a root key from its own descendants. -/
structure FreeKdf (P : Primitives Secret) : Prop where
  chainKey_inj : ∀ a b, (kdfCK P a).chainKey = (kdfCK P b).chainKey → a = b
  messageKey_inj : ∀ a b, (kdfCK P a).messageKey = (kdfCK P b).messageKey → a = b
  rootChain_inj : ∀ r s d e, (kdfRK P r d).chainKey = (kdfRK P s e).chainKey → r = s
  chain_ne_rootChain : ∀ a r d, (kdfCK P a).chainKey ≠ (kdfRK P r d).chainKey
  root_acyclic : ∀ r, ¬ Relation.TransGen (fun s t => ∃ d, t = (kdfRK P s d).rootKey) r r

/-- The chain key of a root step is bound to the agreement it was derived from. -/
def AgreementBinds (P : Primitives Secret) : Prop :=
  ∀ r s d e, (kdfRK P r d).chainKey = (kdfRK P s e).chainKey → d = e

/-- Key pairs are their own public keys, agreement adds bytewise, the KDFs tag
    and the cipher frames its key, nonce and data in front of the plaintext. -/
def framedPrimitives : Primitives Bytes where
  getPublicKey privateKey := privateKey
  getSharedSecret privateKey publicKey := some (List.zipWith (· + ·) privateKey publicKey)
  hkdf ikm _ info := (if info = INFO_CHAIN_KEY then 1 else 2) :: ikm
  hkdf64 ikm salt _ :=
    let body := frame (salt.getD []) ++ ikm
    (3 :: body, 4 :: body)
  cipherEncrypt key nonce associatedData plaintext :=
    frame key ++ (frame nonce ++ (frame associatedData ++ plaintext))
  cipherDecrypt key nonce associatedData ciphertext :=
    strip (frame key ++ (frame nonce ++ frame associatedData)) ciphertext

theorem framed_commutes : X25519Commutes framedPrimitives := by
  intro a b _ _
  refine ⟨_, rfl, ?_⟩
  simp only [framedPrimitives, Option.some.injEq]
  exact List.zipWith_comm_of_comm fun x y => UInt8.add_comm x y

theorem framed_roundtrips : CipherRoundTrips framedPrimitives := by
  intro key nonce associatedData plaintext _
  have sealed := strip_append (frame key ++ (frame nonce ++ frame associatedData)) plaintext
  simpa only [framedPrimitives, List.append_assoc] using sealed

theorem framed_commits : CipherCommits framedPrimitives := by
  intro key other nonce otherNonce associatedData otherData plaintext opened success
  have whole := strip_some success
  simp only [framedPrimitives, List.append_assoc] at whole
  exact (frame_append_inj _ _ _ _ whole).1.symm

theorem framed_binds : AgreementBinds framedPrimitives := by
  intro r s d e same
  have framed : frame r ++ d = frame s ++ e := by
    simpa [kdfRK, framedPrimitives] using same
  exact (frame_append_inj _ _ _ _ framed).2

theorem framed_free : FreeKdf framedPrimitives where
  chainKey_inj a b same := by simpa [kdfCK, framedPrimitives] using same
  messageKey_inj a b same := by
    simpa [kdfCK, framedPrimitives, INFO_CHAIN_KEY, INFO_MESSAGE_KEY] using same
  rootChain_inj r s d e same := by
    have framed : frame r ++ d = frame s ++ e := by
      simpa [kdfRK, framedPrimitives] using same
    exact (frame_append_inj _ _ _ _ framed).1
  chain_ne_rootChain a r d same := by
    simp [kdfCK, kdfRK, framedPrimitives] at same
  root_acyclic r cycle := by
    have longer : ∀ s t, Relation.TransGen
        (fun s t => ∃ d, t = (kdfRK framedPrimitives s d).rootKey) s t →
        s.length < t.length := by
      intro s t path
      have one : ∀ s d, s.length < (kdfRK framedPrimitives s d).rootKey.length := by
        intro s d
        have := length_lt_frame s
        simp only [kdfRK, framedPrimitives, Option.getD_some, List.length_cons,
          List.length_append]
        omega
      induction path with
      | single edge =>
          obtain ⟨d, rfl⟩ := edge
          exact one _ d
      | tail _ edge ih =>
          obtain ⟨d, rfl⟩ := edge
          exact ih.trans (one _ d)
    exact absurd (longer r r cycle) (Nat.lt_irrefl _)

end Chainmail.DoubleRatchet
