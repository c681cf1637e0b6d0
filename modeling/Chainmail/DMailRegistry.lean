import Chainmail.Utf8
import Chainmail.Solidity

/-!
`contracts/DMailRegistry.sol` and the lookups of `src/blockchain/registry.js`
that read it. A Solidity string is its bytes; the client decodes them as UTF-8
and gives up on bytes that are not. Events are not state and are left out.
-/

namespace Chainmail.DMailRegistry

open Chainmail.Solidity

structure Identity where
  signingKey : Bytes32
  encryptionKey : Bytes32
  dmailAddress : Bytes
  registeredAt : Nat
  «exists» : Bool

structure MessageProof where
  messageHash : Bytes32
  sender : Address
  senderDmail : Bytes
  recipientDmail : Bytes
  ipfsCid : Bytes
  timestamp : Nat

structure State where
  identities : Bytes → Identity
  addressToName : Bytes → Bytes
  ownerNames : Address → List Bytes
  nameOwner : Bytes → Address
  messageProofs : Bytes32 → MessageProof

inductive Reverted where
  | NameAlreadyRegistered
  | NameNotRegistered
  | NotOwner
  | InvalidName
  | InvalidDmailAddress
  | MessageAlreadyTimestamped
deriving DecidableEq

def deployed : State where
  identities _ := ⟨0, 0, [], 0, false⟩
  addressToName _ := []
  ownerNames _ := []
  nameOwner _ := 0
  messageProofs _ := ⟨0, 0, [], [], [], 0⟩

/-- `_startsWith`, which compares byte by byte. -/
def startsWith : Bytes → Bytes → Bool
  | _, [] => true
  | [], _ :: _ => false
  | byte :: bytes, wanted :: rest => byte == wanted && startsWith bytes rest

/-- The bytes of `dm1`. -/
def addressStart : Bytes := [100, 109, 49]

def register (name : Bytes) (signingKey encryptionKey : Bytes32) (dmailAddress : Bytes)
    (sender : Address) (now : Nat) (state : State) : Except Reverted State :=
  if name.length = 0 ∨ 32 < name.length then .error .InvalidName
  else if startsWith dmailAddress addressStart = false then .error .InvalidDmailAddress
  else if (state.identities name).exists then .error .NameAlreadyRegistered
  else .ok { state with
    identities := Function.update state.identities name
      ⟨signingKey, encryptionKey, dmailAddress, now, true⟩
    addressToName := Function.update state.addressToName dmailAddress name
    nameOwner := Function.update state.nameOwner name sender
    ownerNames := Function.update state.ownerNames sender (state.ownerNames sender ++ [name]) }

def updateKeys (name : Bytes) (signingKey encryptionKey : Bytes32) (sender : Address)
    (state : State) : Except Reverted State :=
  if state.nameOwner name ≠ sender then .error .NotOwner
  else if (state.identities name).exists = false then .error .NameNotRegistered
  else .ok { state with
    identities := Function.update state.identities name
      { state.identities name with signingKey := signingKey, encryptionKey := encryptionKey } }

def timestampAndStore (messageHash : Bytes32) (senderDmail recipientDmail ipfsCid : Bytes)
    (sender : Address) (now : Nat) (state : State) : Except Reverted State :=
  if (state.messageProofs messageHash).timestamp ≠ 0 then .error .MessageAlreadyTimestamped
  else .ok { state with
    messageProofs := Function.update state.messageProofs messageHash
      ⟨messageHash, sender, senderDmail, recipientDmail, ipfsCid, now⟩ }

/-- `timestampAndStore` without a CID. -/
def timestampMessage (messageHash : Bytes32) (senderDmail recipientDmail : Bytes)
    (sender : Address) (now : Nat) (state : State) : Except Reverted State :=
  timestampAndStore messageHash senderDmail recipientDmail [] sender now state

def getIdentity (name : Bytes) (state : State) : Except Reverted Identity :=
  if (state.identities name).exists = false then .error .NameNotRegistered
  else .ok (state.identities name)

def getName (dmailAddress : Bytes) (state : State) : Bytes := state.addressToName dmailAddress

def getMessageProof (messageHash : Bytes32) (state : State) : MessageProof :=
  state.messageProofs messageHash

def verifyMessageTime (messageHash : Bytes32) (beforeTime : Nat) (state : State) : Bool :=
  let proof := state.messageProofs messageHash
  decide (proof.timestamp ≠ 0) && decide (proof.timestamp ≤ beforeTime)

inductive Call where
  | register (name : Bytes) (signingKey encryptionKey : Bytes32) (dmailAddress : Bytes)
  | updateKeys (name : Bytes) (signingKey encryptionKey : Bytes32)
  | timestampMessage (messageHash : Bytes32) (senderDmail recipientDmail : Bytes)
  | timestampAndStore (messageHash : Bytes32) (senderDmail recipientDmail ipfsCid : Bytes)

structure Transaction where
  sender : Address
  now : Nat
  call : Call

def execute (state : State) (tx : Transaction) : Except Reverted State :=
  match tx.call with
  | .register name signingKey encryptionKey dmailAddress =>
      register name signingKey encryptionKey dmailAddress tx.sender tx.now state
  | .updateKeys name signingKey encryptionKey =>
      updateKeys name signingKey encryptionKey tx.sender state
  | .timestampMessage messageHash senderDmail recipientDmail =>
      timestampMessage messageHash senderDmail recipientDmail tx.sender tx.now state
  | .timestampAndStore messageHash senderDmail recipientDmail ipfsCid =>
      timestampAndStore messageHash senderDmail recipientDmail ipfsCid tx.sender tx.now state

/-- The state after a transaction; a reverted one changes nothing. -/
def apply (state : State) (tx : Transaction) : State :=
  match execute state tx with
  | .ok after => after
  | .error _ => state

section Client

/-- What the client returns; the keys are the hex texts of the two words. -/
structure Found where
  name : String
  signingKey : Bytes32
  encryptionKey : Bytes32
  dmailAddress : String
  registeredAt : Nat
deriving DecidableEq

/-- `lookupByName`; `none` for `contract` is a network without a deployed registry. -/
def lookupByName (contract : Option State) (name : String) : Option Found := do
  let state ← contract
  match getIdentity (utf8Encode name) state with
  | .error _ => none
  | .ok identity =>
      let dmailAddress ← utf8Decode identity.dmailAddress
      some ⟨name, identity.signingKey, identity.encryptionKey, dmailAddress, identity.registeredAt⟩

def lookupByAddress (contract : Option State) (dmailAddress : String) : Option Found := do
  let state ← contract
  let name ← utf8Decode (getName (utf8Encode dmailAddress) state)
  if name = "" then none else lookupByName contract name

end Client
end Chainmail.DMailRegistry
