import Chainmail.Identity

/-!
`src/crypto/wallet-identity.js`: the identity that a wallet's signature is the
seed of. The wallet library is outside the repository; its functions are
parameters too.
-/

namespace Chainmail

/-- What the program uses of `ethers`; a call that throws returns `none`. -/
structure Ethers where
  getBytes : String → Option Bytes
  /-- `verifyMessage(message, signature)`, the address that signed. -/
  verifyMessage : String → String → Option String

def DOMAIN_SEPARATOR : String := "dmail-identity-v1"

structure WalletIdentity (P : Packages) where
  privateKey : Bytes
  publicKey : Bytes
  walletAddress : String
  publicKey_eq : publicKey = P.ed25519PublicKey privateKey

namespace WalletIdentity

variable {P : Packages} (E : Ethers)

/-- The Ed25519 seed that the bytes of a signature give. -/
def seedOf (P : Packages) (signatureBytes : Bytes) : Bytes :=
  P.hkdf signatureBytes (some (utf8Encode DOMAIN_SEPARATOR)) (utf8Encode "ed25519-private-key") 32

def fromSignature (signature walletAddress : String) : Option (WalletIdentity P) := do
  let signatureBytes ← E.getBytes signature
  let privateKey := seedOf P signatureBytes
  some ⟨privateKey, P.ed25519PublicKey privateKey, walletAddress, rfl⟩

def address (identity : WalletIdentity P) : String := addressOf P identity.publicKey

def encryptionPrivateKey (identity : WalletIdentity P) : Bytes := clampedHash P identity.privateKey

def encryptionPublicKey (identity : WalletIdentity P) : Bytes :=
  P.x25519PublicKey identity.encryptionPrivateKey

def sign (identity : WalletIdentity P) (message : Bytes) : Bytes :=
  P.ed25519Sign message identity.privateKey

/-- The same dMail address and the same encryption keys. -/
def Same (left right : WalletIdentity P) : Prop :=
  left.address = right.address ∧ left.encryptionPrivateKey = right.encryptionPrivateKey ∧
    left.encryptionPublicKey = right.encryptionPublicKey

/-- The derivation is a free constructor: different seeds give different keys. -/
structure DerivationInjective (P : Packages) : Prop where
  hkdf_inj : ∀ ikm other salt info length,
    P.hkdf ikm salt info length = P.hkdf other salt info length → ikm = other
  publicKey_inj : Function.Injective P.ed25519PublicKey

variable {E}

theorem fromSignature_some {signature walletAddress : String} {identity : WalletIdentity P}
    (derived : fromSignature E signature walletAddress = some identity) :
    ∃ bytes, E.getBytes signature = some bytes ∧ identity.privateKey = seedOf P bytes := by
  obtain ⟨bytes, read, made⟩ := Option.bind_eq_some_iff.mp derived
  cases made
  exact ⟨bytes, read, rfl⟩

/-- Identities derived from signatures are the same exactly when the bytes are. -/
theorem same_iff_bytes (base58 : Base58RoundTrips P) (injective : DerivationInjective P)
    {signature other walletAddress otherAddress : String} {left right : WalletIdentity P}
    (leftDerived : fromSignature E signature walletAddress = some left)
    (rightDerived : fromSignature E other otherAddress = some right) :
    Same left right ↔ E.getBytes signature = E.getBytes other := by
  obtain ⟨leftBytes, leftRead, leftKey⟩ := fromSignature_some leftDerived
  obtain ⟨rightBytes, rightRead, rightKey⟩ := fromSignature_some rightDerived
  constructor
  · rintro ⟨address, _, _⟩
    have publicKey : left.publicKey = right.publicKey := addressOf_injective base58 address
    rw [left.publicKey_eq, right.publicKey_eq] at publicKey
    have privateKey := injective.publicKey_inj publicKey
    rw [leftKey, rightKey] at privateKey
    rw [leftRead, rightRead, injective.hkdf_inj _ _ _ _ _ privateKey]
  · intro bytes
    rw [leftRead, rightRead] at bytes
    have privateKey : left.privateKey = right.privateKey := by
      rw [leftKey, rightKey, Option.some.inj bytes]
    have publicKey : left.publicKey = right.publicKey := by
      rw [left.publicKey_eq, right.publicKey_eq, privateKey]
    simp [Same, address, encryptionPublicKey, encryptionPrivateKey, privateKey, publicKey]

end WalletIdentity
end Chainmail
