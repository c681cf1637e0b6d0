import Chainmail.DMailRegistry
import Chainmail.Identity
import Chainmail.OrderedMap

/-!
The registry that `api/src/blockchain/registry.service.ts` keeps in memory when
there is no chain, and the look-up of the recipient's key in
`messages.controller.ts`. A name leads to an identity and an address to a name;
a registration overwrites both, so an address loses its identity to whoever
registers the name again.
-/

namespace Chainmail.RegistryService

open Chainmail.Solidity

structure RegisteredIdentity where
  name : String
  signingKey : String
  encryptionKey : String
  dmailAddress : String
  registeredAt : Nat
deriving DecidableEq

/-- The two maps of the service. -/
structure Registry where
  localRegistry : OrderedMap String RegisteredIdentity
  addressToName : OrderedMap String String

def start : Registry := ⟨OrderedMap.empty, OrderedMap.empty⟩

/-- A call of `registerLocal`, and the time it reads. -/
structure Registration where
  name : String
  dmailAddress : String
  signingKey : String
  encryptionKey : String
  now : Nat

def Registration.identity (call : Registration) : RegisteredIdentity :=
  ⟨call.name, call.signingKey, call.encryptionKey, call.dmailAddress, call.now⟩

def registerLocal (call : Registration) (registry : Registry) : Registry where
  localRegistry := registry.localRegistry.set call.name call.identity
  addressToName := registry.addressToName.set call.dmailAddress call.name

/-- An empty name counts as none. -/
def lookupLocalByAddress (dmailAddress : String) (registry : Registry) :
    Option RegisteredIdentity :=
  match registry.addressToName.get dmailAddress with
  | none => none
  | some name => if name = "" then none else registry.localRegistry.get name

/-- The hex digits of a word, without the `0x`. -/
def wordHex (word : Bytes32) : String :=
  toHex ((List.range 32).reverse.map fun place => UInt8.ofNat (word.val / 256 ^ place))

/-- What the chain knows of an address, as the service hands it on. -/
def ofChain (found : DMailRegistry.Found) : RegisteredIdentity :=
  ⟨found.name, wordHex found.signingKey, wordHex found.encryptionKey, found.dmailAddress,
    found.registeredAt⟩

/-- The local registry answers first. -/
def lookupByAddress (contract : Option DMailRegistry.State) (dmailAddress : String)
    (registry : Registry) : Option RegisteredIdentity :=
  match lookupLocalByAddress dmailAddress registry with
  | some identity => some identity
  | none => (DMailRegistry.lookupByAddress contract dmailAddress).map ofChain

/-- `Buffer.from(text, 'hex')`, which stops at what is no pair of digits. -/
def fromHex : List Char → Bytes
  | high :: low :: rest =>
      match Json.hexValue high, Json.hexValue low with
      | some first, some second => UInt8.ofNat (first * 16 + second) :: fromHex rest
      | _, _ => []
  | _ => []

/-- The key that `MessagesController.sendMessage` encrypts with. -/
def recipientKey (contract : Option DMailRegistry.State) (senderAddress : Option String)
    (recipient : String) (registry : Registry) : Except Failure Bytes :=
  match senderAddress with
  | none | some "" => .error (.error "Sender address required (x-dmail-address header)")
  | some _ =>
      match lookupByAddress contract recipient registry with
      | none => .error (.error "Recipient not found in registry")
      | some recipientInfo => .ok (fromHex recipientInfo.encryptionKey.toList)

/-- The registry after some registrations, the last one first. -/
def replay : List Registration → Registry
  | [] => start
  | call :: earlier => registerLocal call (replay earlier)

/-- The call is the last one for its address, with the calls that came later. -/
structure Latest (past : List Registration) (call : Registration) (later : List Registration) :
    Prop where
  made : ∃ earlier, past = later ++ call :: earlier
  last : ∀ other ∈ later, other.dmailAddress ≠ call.dmailAddress

/-- What a message to the address is encrypted with comes from the call. -/
structure Answers (call : Registration) (registry : Registry) : Prop where
  locally : lookupLocalByAddress call.dmailAddress registry = some call.identity
  anywhere : ∀ contract,
    lookupByAddress contract call.dmailAddress registry = some call.identity
  sends : ∀ contract senderAddress, senderAddress ≠ "" →
    recipientKey contract (some senderAddress) call.dmailAddress registry =
      .ok (fromHex call.encryptionKey.toList)

/-- Every registered address looks up its own keys, those given last. -/
def OwnKeys (past : List Registration) : Prop :=
  ∀ call later, Latest past call later →
    ∃ identity, lookupLocalByAddress call.dmailAddress (replay past) = some identity ∧
      identity.signingKey = call.signingKey ∧ identity.encryptionKey = call.encryptionKey ∧
      identity.dmailAddress = call.dmailAddress

/-- The name of every address is not empty, and nobody registers it again. -/
def NamesKept (past : List Registration) : Prop :=
  ∀ call later, Latest past call later → call.name ≠ "" ∧ ∀ other ∈ later, other.name ≠ call.name

theorem latest_name {past later : List Registration} {call : Registration}
    (latest : Latest past call later) :
    (replay past).addressToName.get call.dmailAddress = some call.name := by
  obtain ⟨⟨earlier, rfl⟩, last⟩ := latest
  induction later with
  | nil => exact OrderedMap.get_set_self _ _ _
  | cons other rest ih =>
      have foreign := last other List.mem_cons_self
      rw [List.cons_append, replay, registerLocal, OrderedMap.get_set_of_ne _ _ (Ne.symm foreign)]
      exact ih fun between member => last between (List.mem_cons_of_mem _ member)

-- Either the name is free since, or its identity is that of a later call.
theorem named_identity (later earlier : List Registration) (call : Registration) :
    (∀ other ∈ later, other.name ≠ call.name) ∧
        (replay (later ++ call :: earlier)).localRegistry.get call.name = some call.identity ∨
      ∃ other ∈ later, other.name = call.name ∧
        (replay (later ++ call :: earlier)).localRegistry.get call.name = some other.identity := by
  induction later with
  | nil => exact .inl ⟨fun _ none => absurd none List.not_mem_nil, OrderedMap.get_set_self _ _ _⟩
  | cons other rest ih =>
      by_cases taken : other.name = call.name
      -- The latest call for the name is the one that counts.
      · right
        refine ⟨other, List.mem_cons_self, taken, ?_⟩
        rw [List.cons_append, replay, registerLocal, taken, OrderedMap.get_set_self]
      · have kept : (replay (other :: rest ++ call :: earlier)).localRegistry.get call.name =
            (replay (rest ++ call :: earlier)).localRegistry.get call.name :=
          OrderedMap.get_set_of_ne _ _ (Ne.symm taken)
        rw [kept]
        rcases ih with ⟨free, held⟩ | ⟨later, member, same, held⟩
        · left
          refine ⟨fun between member => ?_, held⟩
          rcases List.mem_cons.mp member with rfl | inside
          · exact taken
          · exact free between inside
        · exact .inr ⟨later, List.mem_cons_of_mem _ member, same, held⟩

theorem answers_of_local {call : Registration} {registry : Registry}
    (found : lookupLocalByAddress call.dmailAddress registry = some call.identity) :
    Answers call registry where
  locally := found
  anywhere contract := by rw [lookupByAddress, found]
  sends contract senderAddress named := by
    have anywhere : lookupByAddress contract call.dmailAddress registry = some call.identity := by
      rw [lookupByAddress, found]
    unfold recipientKey
    split
    next absent => cases absent
    next empty => exact absurd (Option.some.inj empty) named
    next =>
      rw [anywhere]
      rfl

/-- For every sequence of registrations, every address looks up the keys it was
    registered with last exactly when no name is empty or registered again for
    another address; and then a message to it is encrypted with these keys. -/
theorem own_keys_iff (past : List Registration) :
    (OwnKeys past ↔ NamesKept past) ∧
      (NamesKept past → ∀ call later, Latest past call later → Answers call (replay past)) := by
  have answers : NamesKept past → ∀ call later, Latest past call later →
      lookupLocalByAddress call.dmailAddress (replay past) = some call.identity := by
    intro kept call later latest
    obtain ⟨named, free⟩ := kept call later latest
    rw [lookupLocalByAddress, latest_name latest]
    obtain ⟨earlier, rfl⟩ := latest.made
    rcases named_identity later earlier call with ⟨_, held⟩ | ⟨other, member, same, _⟩
    · simp only [if_neg named, held]
    · exact absurd same (free other member)
  refine ⟨⟨?_, ?_⟩, fun kept call later latest => answers_of_local (answers kept call later latest)⟩
  · intro own call later latest
    obtain ⟨identity, found, _, _, address⟩ := own call later latest
    rw [lookupLocalByAddress, latest_name latest] at found
    by_cases named : call.name = ""
    · simp [named] at found
    · simp only [if_neg named] at found
      obtain ⟨earlier, rfl⟩ := latest.made
      rcases named_identity later earlier call with ⟨free, _⟩ | ⟨other, member, _, held⟩
      · exact ⟨named, free⟩
      · rw [held] at found
        cases found
        exact absurd address (latest.last other member)
  · intro kept call later latest
    exact ⟨call.identity, answers kept call later latest, rfl, rfl, rfl⟩

/-! Two people call themselves alice. -/

def firstAlice : Registration := ⟨"alice", "dm1first", "aa", "ab", 1⟩

def secondAlice : Registration := ⟨"alice", "dm1second", "ba", "bb", 2⟩

theorem first_alice_lost :
    lookupLocalByAddress "dm1first" (replay [secondAlice, firstAlice]) =
        some ⟨"alice", "ba", "bb", "dm1second", 2⟩ ∧
      recipientKey none (some "dm1sender") "dm1first" (replay [secondAlice, firstAlice]) =
        .ok [0xbb] ∧
      ¬ OwnKeys [secondAlice, firstAlice] := by
  have read : lookupLocalByAddress "dm1first" (replay [secondAlice, firstAlice]) =
      some ⟨"alice", "ba", "bb", "dm1second", 2⟩ := by decide +kernel
  refine ⟨read, rfl, ?_⟩
  intro own
  have latest : Latest [secondAlice, firstAlice] firstAlice [secondAlice] :=
    ⟨⟨[], rfl⟩, by simp [firstAlice, secondAlice]⟩
  obtain ⟨identity, found, _, _, address⟩ := own firstAlice [secondAlice] latest
  cases read.symm.trans found
  exact absurd address (by decide +kernel)

end Chainmail.RegistryService
