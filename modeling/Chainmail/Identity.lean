import Chainmail.JsonAccess

/-!
`src/crypto/identity.js`, with the packages that every envelope is made with.
The packages are outside the repository and enter as parameters: a failing call
of one returns `none`. The key store on disk is left out.
-/

namespace Chainmail

structure Packages where
  sha256 : Bytes → Bytes
  /-- `hkdf(sha256, ikm, salt, info, length)` -/
  hkdf : Bytes → Option Bytes → Bytes → Nat → Bytes
  ed25519PublicKey : Bytes → Bytes
  /-- `ed25519.sign(message, privateKey)` -/
  ed25519Sign : Bytes → Bytes → Bytes
  /-- `ed25519.verify(signature, message, publicKey)` -/
  ed25519Verify : Bytes → Bytes → Bytes → Option Bool
  x25519PublicKey : Bytes → Bytes
  /-- `x25519.getSharedSecret(privateKey, publicKey)` -/
  x25519SharedSecret : Bytes → Bytes → Option Bytes
  /-- `chacha20poly1305(key, nonce).encrypt(plaintext)` -/
  chachaEncrypt : Bytes → Bytes → Bytes → Bytes
  /-- `chacha20poly1305(key, nonce).decrypt(ciphertext)` -/
  chachaDecrypt : Bytes → Bytes → Bytes → Option Bytes
  base58btcEncode : Bytes → String
  base58btcDecode : String → Option Bytes
  /-- `Buffer.from` of a value that is not a string. -/
  bufferFromOther : Json → Option Bytes
  /-- `Number` of a value that is neither a number, a truth value nor `null`;
      `none` stands for `NaN` and the infinities. -/
  numberFromOther : Json → Option Decimal

/-- What a package call returns, or the error it throws. -/
def accepted {α : Type} : Option α → Except Failure α
  | some value => .ok value
  | none => .error .rejected

@[simp] theorem accepted_ok {α : Type} {result : Option α} {value : α} :
    accepted result = .ok value ↔ result = some value := by
  cases result <;> simp [accepted]

@[simp] theorem accepted_some {α : Type} (value : α) : accepted (some value) = .ok value := rfl

@[simp] theorem accepted_none {α : Type} :
    (accepted none : Except Failure α) = .error .rejected := rfl

/-- `Buffer.from(value, 'base64')` -/
def bufferFrom (P : Packages) : Option Json → Except Failure Bytes
  | some (.string text) => .ok (fromBase64 text)
  | some other =>
      match P.bufferFromOther other with
      | some bytes => .ok bytes
      | none => .error .typeError
  | none => .error .typeError

@[simp] theorem bufferFrom_toBase64 (P : Packages) (bytes : Bytes) :
    bufferFrom P (some (.string (toBase64 bytes))) = .ok bytes := by
  simp [bufferFrom]

def byteHex (byte : UInt8) : List Char :=
  [Nat.digitChar (byte.toNat / 16), Nat.digitChar (byte.toNat % 16)]

/-- `Buffer.from(bytes).toString('hex')` -/
def toHex (bytes : Bytes) : String := String.ofList (bytes.flatMap byteHex)

def ADDRESS_PREFIX : String := "dm1"

/-- The address that encodes a public key, without the letter that names the base. -/
def addressOf (P : Packages) (publicKey : Bytes) : String :=
  ADDRESS_PREFIX ++ String.ofList ((P.base58btcEncode publicKey).toList.drop 1)

/-- The clamped hash that both encryption keys come from. -/
def clampedHash (P : Packages) (privateKey : Bytes) : Bytes :=
  let hash := P.sha256 privateKey
  let hash := hash.modify 0 (· &&& 248)
  let hash := hash.modify 31 (· &&& 127)
  let hash := hash.modify 31 (· ||| 64)
  hash.take 32

/-- A key pair as `generate` and `fromPrivateKey` make it. -/
structure Identity (P : Packages) where
  privateKey : Bytes
  publicKey : Bytes
  privateKey_length : privateKey.length = 32
  publicKey_eq : publicKey = P.ed25519PublicKey privateKey

namespace Identity

variable {P : Packages}

def fromPrivateKey (privateKey : Bytes) (length : privateKey.length = 32) : Identity P :=
  ⟨privateKey, P.ed25519PublicKey privateKey, length, rfl⟩

def address (identity : Identity P) : String := addressOf P identity.publicKey

def encryptionPrivateKey (identity : Identity P) : Bytes := clampedHash P identity.privateKey

def encryptionPublicKey (identity : Identity P) : Bytes :=
  P.x25519PublicKey identity.encryptionPrivateKey

def sign (identity : Identity P) (message : Bytes) : Bytes :=
  P.ed25519Sign message identity.privateKey

end Identity

def invalidAddress : Failure :=
  .error ("Invalid dMail address: must start with " ++ ADDRESS_PREFIX)

def addressToPublicKey (P : Packages) (address : String) : Except Failure Bytes :=
  if ADDRESS_PREFIX.toList.isPrefixOf address.toList then
    accepted (P.base58btcDecode
      ("z" ++ String.ofList (address.toList.drop ADDRESS_PREFIX.toList.length)))
  else .error invalidAddress

def verifySignature (P : Packages) (message signature publicKey : Bytes) : Except Failure Bool :=
  accepted (P.ed25519Verify signature message publicKey)

section Laws

/-- Base58 reads back what it wrote, after the letter that names the base. -/
structure Base58RoundTrips (P : Packages) : Prop where
  decode_encode : ∀ bytes, P.base58btcDecode (P.base58btcEncode bytes) = some bytes
  encode_head : ∀ bytes, (P.base58btcEncode bytes).toList.head? = some 'z'

variable {P : Packages}

theorem encode_letters (base58 : Base58RoundTrips P) (bytes : Bytes) :
    "z" ++ String.ofList ((P.base58btcEncode bytes).toList.drop 1) = P.base58btcEncode bytes := by
  have letters : (P.base58btcEncode bytes).toList =
      'z' :: (P.base58btcEncode bytes).toList.drop 1 := by
    have head := base58.encode_head bytes
    cases shown : (P.base58btcEncode bytes).toList with
    | nil => simp [shown] at head
    | cons first rest =>
        have own : first = 'z' := by simpa [shown] using head
        rw [own]
        rfl
  apply String.toList_injective
  simpa using letters.symm

/-- An address encodes the key it was made from. -/
theorem addressToPublicKey_addressOf (base58 : Base58RoundTrips P) (publicKey : Bytes) :
    addressToPublicKey P (addressOf P publicKey) = .ok publicKey := by
  have own : addressToPublicKey P (addressOf P publicKey) =
      accepted (P.base58btcDecode
        ("z" ++ String.ofList ((P.base58btcEncode publicKey).toList.drop 1))) := by
    simp [addressToPublicKey, addressOf, ADDRESS_PREFIX]
  rw [own, encode_letters base58, base58.decode_encode]
  rfl

theorem addressToPublicKey_address (base58 : Base58RoundTrips P) (identity : Identity P) :
    addressToPublicKey P identity.address = .ok identity.publicKey :=
  addressToPublicKey_addressOf base58 identity.publicKey

theorem addressOf_injective (base58 : Base58RoundTrips P) : Function.Injective (addressOf P) := by
  intro left right same
  have encoded := addressToPublicKey_addressOf base58 left
  rw [same, addressToPublicKey_addressOf base58] at encoded
  exact (Except.ok.inj encoded).symm

end Laws
end Chainmail
