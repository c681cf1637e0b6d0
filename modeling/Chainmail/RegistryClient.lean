import Chainmail.HexBuffers
import Chainmail.LocalRegistry
import Chainmail.Senders

/-!
The client of `src/blockchain/registry.js`, as far as it is more than a call of the contract. It
passes keys and hashes to the chain as words, the hexadecimal texts of 32 bytes; `ethers` refuses
any other length, and texts that are none. Without a contract its answers are empty.
-/

namespace Chainmail.BlockchainRegistry

open Json Solidity DMailRegistry
open RegistryService (fromHex wordHex)

section Words

/-- The number that the bytes are, the first one counting most. -/
def wordValue (bytes : Bytes) : Nat := Nat.ofDigits 256 (bytes.reverse.map UInt8.toNat)

theorem wordValue_lt {bytes : Bytes} (sized : bytes.length = 32) :
    wordValue bytes < 2 ^ 256 := by
  have small : ∀ digit ∈ bytes.reverse.map UInt8.toNat, digit < 256 := by
    intro digit member
    obtain ⟨byte, _, rfl⟩ := List.mem_map.mp member
    exact byte.toNat_lt
  have bounded := Nat.ofDigits_lt_base_pow_length (by decide) small
  simpa [wordValue, sized] using bounded

/-- The word that `ethers` encodes `'0x'` and the hexadecimal text of the bytes as. -/
def bytes32 (bytes : Bytes) : Option Bytes32 :=
  if sized : bytes.length = 32 then some ⟨wordValue bytes, wordValue_lt sized⟩ else none

theorem wordValue_append (bytes : Bytes) (last : UInt8) :
    wordValue (bytes ++ [last]) = last.toNat + 256 * wordValue bytes := by
  simp [wordValue, Nat.ofDigits_cons]

theorem places_wordValue (bytes : Bytes) :
    ((List.range bytes.length).reverse.map fun place =>
      UInt8.ofNat (wordValue bytes / 256 ^ place)) = bytes := by
  induction bytes using List.reverseRecOn with
  | nil => rfl
  | append_singleton rest last ih =>
      have small : last.toNat < 256 := last.toNat_lt
      have onward : ∀ place, wordValue (rest ++ [last]) / 256 ^ (place + 1) =
          wordValue rest / 256 ^ place := by
        intro place
        rw [Nat.pow_succ', ← Nat.div_div_eq_div_mul, wordValue_append]
        congr 1
        omega
      have lowest : UInt8.ofNat (wordValue (rest ++ [last])) = last := by
        apply UInt8.toNat_inj.mp
        rw [wordValue_append, UInt8.toNat_ofNat']
        omega
      rw [List.length_append, List.length_singleton, List.range_succ_eq_map, List.reverse_cons,
        List.map_append, ← List.map_reverse, List.map_map]
      simp only [Function.comp_def, Nat.succ_eq_add_one, onward, ih, List.map_cons, List.map_nil,
        Nat.pow_zero, Nat.div_one, lowest]

/-- What comes back from the chain as a hexadecimal text is read as the bytes that went there. -/
theorem fromHex_wordHex {bytes : Bytes} {word : Bytes32} (encoded : bytes32 bytes = some word) :
    fromHex (wordHex word).toList = bytes := by
  rw [bytes32] at encoded
  split at encoded
  next sized =>
    cases encoded
    rw [wordHex, toHex, String.toList_ofList, fromHex_flatMap]
    have places := places_wordValue bytes
    rwa [sized] at places
  next => cases encoded

end Words

variable {P : Packages}

section Transactions

/-- `registerIdentity`, which registers the identity's own keys and address. -/
def registerIdentity (name : String) (identity : Chainmail.Identity P) : Option Call := do
  let signingKey ← bytes32 identity.publicKey
  let encryptionKey ← bytes32 identity.encryptionPublicKey
  return .register (utf8Encode name) signingKey encryptionKey (utf8Encode identity.address)

/-- What is hashed of an envelope; nothing is what is printed of `undefined`. -/
def messageData (envelope : Json) : Bytes :=
  match envelope.field "encrypted" with
  | some encrypted => utf8Encode (stringify encrypted)
  | none => []

def messageHash (P : Packages) (envelope : Json) : Option Bytes32 :=
  bytes32 (P.sha256 (messageData envelope))

/-- An argument that the contract declares as a string. -/
def stringArgument : Option Json → Option Bytes
  | some (.string text) => some (utf8Encode text)
  | _ => none

def timestampMessage (P : Packages) (messageEnvelope : Json) : Option Call := do
  let hash ← messageHash P messageEnvelope
  let senderDmail ← stringArgument (messageEnvelope.field "from")
  let recipientDmail ← stringArgument (messageEnvelope.field "to")
  return .timestampMessage hash senderDmail recipientDmail

def timestampAndStore (P : Packages) (messageEnvelope : Json) (ipfsCid : String) : Option Call := do
  let hash ← messageHash P messageEnvelope
  let senderDmail ← stringArgument (messageEnvelope.field "from")
  let recipientDmail ← stringArgument (messageEnvelope.field "to")
  return .timestampAndStore hash senderDmail recipientDmail (utf8Encode ipfsCid)

end Transactions

section Answers

/-- `getMessageProof` of the client: no CID is `null`. -/
structure Proof where
  messageHash : Bytes32
  sender : Address
  senderDmail : String
  recipientDmail : String
  ipfsCid : Option String
  timestamp : Nat
deriving DecidableEq

def getMessageProof (contract : Option State) (messageHash : Bytes32) : Option Proof := do
  let state ← contract
  let proof := DMailRegistry.getMessageProof messageHash state
  if proof.timestamp = 0 then none
  else
    let senderDmail ← utf8Decode proof.senderDmail
    let recipientDmail ← utf8Decode proof.recipientDmail
    let ipfsCid ← utf8Decode proof.ipfsCid
    return ⟨proof.messageHash, proof.sender, senderDmail, recipientDmail,
      if ipfsCid = "" then none else some ipfsCid, proof.timestamp⟩

def verifyMessageTime (contract : Option State) (messageHash : Bytes32) (beforeTime : Nat) :
    Option Bool :=
  contract.map (DMailRegistry.verifyMessageTime messageHash beforeTime)

def resolveAddress (contract : Option State) (addressOrName : String) : Except Failure String :=
  if ADDRESS_PREFIX.toList.isPrefixOf addressOrName.toList then .ok addressOrName
  else
    match lookupByName contract addressOrName with
    | some identity => .ok identity.dmailAddress
    | none => .error (.error ("Could not resolve address: " ++ addressOrName))

/-- What the command line makes of the answer. -/
def lookup (contract : Option State) (name : String) : Senders.Lookup :=
  match lookupByName contract name with
  | some resolved => .found resolved.dmailAddress (fromHex (wordHex resolved.encryptionKey).toList)
  | none => .missing

end Answers
end Chainmail.BlockchainRegistry
