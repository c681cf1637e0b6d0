import Chainmail.LocalRegistry
import Chainmail.NameOwnership

/-!
`lookupRecipient` of `api/src/messages/identity.controller.ts`. It asks the chain for a name
first, even when it is given an address, so somebody who registers an address as a name could
answer for it. Addresses are longer than names.
-/

namespace Chainmail.RegistryService

open Solidity
open DMailRegistry (getIdentity getName)

structure RecipientInfo where
  address : String
  encryptionPublicKey : String
  name : String
deriving DecidableEq

def infoOf (registered : RegisteredIdentity) : RecipientInfo :=
  ⟨registered.dmailAddress, registered.encryptionKey, registered.name⟩

def lookupRecipient (contract : Option DMailRegistry.State) (addressOrName : String)
    (registry : Registry) : Except Failure RecipientInfo :=
  match DMailRegistry.lookupByName contract addressOrName with
  | some registryInfo => .ok (infoOf (ofChain registryInfo))
  | none =>
      if ADDRESS_PREFIX.toList.isPrefixOf addressOrName.toList then
        match lookupByAddress contract addressOrName registry with
        | some byAddress => .ok (infoOf byAddress)
        | none => .error (.error "Recipient not found")
      else .error (.error "Recipient not found")

section Chain

/-- Every registered name has 1 to 32 bytes. -/
def Sized (state : DMailRegistry.State) : Prop :=
  ∀ name, (state.identities name).exists = true → name.length ≤ 32

theorem register_sized {state after : DMailRegistry.State} {name dmailAddress : Bytes}
    {signingKey encryptionKey : Bytes32} {sender : Address} {now : Nat}
    (done : DMailRegistry.register name signingKey encryptionKey dmailAddress sender now state =
      .ok after) : name.length ≤ 32 := by
  rw [DMailRegistry.register] at done
  split at done
  · cases done
  · rename_i fits
    exact Nat.le_of_not_lt fun longer => fits (.inr longer)

theorem sized_apply {state : DMailRegistry.State} (sized : Sized state)
    (tx : DMailRegistry.Transaction) : Sized (DMailRegistry.apply state tx) := by
  intro name registered
  rcases DMailRegistry.apply_cases state tx with ⟨other, _, _, _, _, done⟩ |
    ⟨other, _, _, _, done⟩ | ⟨_, identities, _⟩
  · by_cases own : name = other
    · exact own ▸ register_sized done
    · rw [(DMailRegistry.register_cases done).2] at registered
      simp only [Function.update_of_ne own] at registered
      exact sized name registered
  · obtain ⟨_, before, after⟩ := DMailRegistry.updateKeys_cases done
    by_cases own : name = other
    · exact sized name (own ▸ before)
    · rw [DMailRegistry.updateKeys_identity done own] at registered
      exact sized name registered
  · exact sized name (identities ▸ registered)

theorem sized_replay (past : List DMailRegistry.Transaction) :
    Sized (DMailRegistry.replay past) := by
  induction past with
  | nil => exact fun name registered => by cases registered
  | cons tx earlier ih => exact sized_apply ih tx

/-- What is longer than every name is none. -/
theorem lookupByName_long {past : List DMailRegistry.Transaction} {name : String}
    (long : 32 < (utf8Encode name).length) :
    DMailRegistry.lookupByName (some (DMailRegistry.replay past)) name = none := by
  have unregistered :
      ((DMailRegistry.replay past).identities (utf8Encode name)).exists = false := by
    cases known : ((DMailRegistry.replay past).identities (utf8Encode name)).exists with
    | false => rfl
    | true => exact absurd (sized_replay past _ known) (Nat.not_le_of_lt long)
  have unknown : getIdentity (utf8Encode name) (DMailRegistry.replay past) =
      .error .NameNotRegistered := by
    rw [getIdentity, if_pos unregistered]
  simp [DMailRegistry.lookupByName, unknown]

theorem utf8Encode_blank : utf8Encode "" = [] := rfl

/-- What the chain finds for an address has this address. -/
theorem lookupByAddress_own {state : DMailRegistry.State} (owned : DMailRegistry.Owned state)
    {dmailAddress : String} {found : DMailRegistry.Found}
    (known : DMailRegistry.lookupByAddress (some state) dmailAddress = some found) :
    found.dmailAddress = dmailAddress := by
  simp only [DMailRegistry.lookupByAddress, Option.bind_eq_bind, Option.bind_some,
    Option.bind_eq_some_iff] at known
  obtain ⟨name, decoded, known⟩ := known
  have named := utf8Encode_decode decoded
  split at known
  · cases known
  · rename_i nonblank
    have leads : state.addressToName (utf8Encode dmailAddress) ≠ [] := by
      intro blank
      rw [getName, blank] at named
      exact nonblank (utf8Encode_injective (named.trans utf8Encode_blank.symm))
    obtain ⟨registered, address, _⟩ := owned.addressed _ leads
    rw [getName] at named
    have identity : getIdentity (state.addressToName (utf8Encode dmailAddress)) state =
        .ok (state.identities (state.addressToName (utf8Encode dmailAddress))) := by
      rw [getIdentity, registered]
      rfl
    simp only [DMailRegistry.lookupByName, Option.bind_eq_bind, Option.bind_some, named, identity,
      address, utf8Decode_encode, Option.some.injEq] at known
    exact (congrArg DMailRegistry.Found.dmailAddress known).symm

end Chain

section Local
variable {past : List Registration} {dmailAddress : String}

/-- An address leads to a name only from its own last registration. -/
theorem latest_of_name {name : String}
    (named : (replay past).addressToName.get dmailAddress = some name) :
    ∃ call later, Latest past call later ∧ call.dmailAddress = dmailAddress ∧ call.name = name := by
  induction past with
  | nil => cases named
  | cons call earlier ih =>
      rw [replay, registerLocal, OrderedMap.get_set] at named
      split at named
      · rename_i own
        exact ⟨call, [], ⟨⟨earlier, rfl⟩, fun _ none => absurd none List.not_mem_nil⟩, own.symm,
          Option.some.inj named⟩
      · rename_i foreign
        obtain ⟨found, later, latest, address, same⟩ := ih named
        obtain ⟨before, split⟩ := latest.made
        refine ⟨found, call :: later, ⟨⟨before, by rw [split, List.cons_append]⟩, ?_⟩, address,
          same⟩
        intro other member
        rcases List.mem_cons.mp member with rfl | inside
        · exact fun own => foreign (own.trans address).symm
        · exact latest.last other inside

/-- Nobody has taken the name of the address since. -/
def NameKept (past : List Registration) (dmailAddress : String) : Prop :=
  ∀ call later, Latest past call later → call.dmailAddress = dmailAddress →
    ∀ other ∈ later, other.name ≠ call.name

/-- What is looked up for an address has this address just when its name was not taken. -/
theorem local_own_iff {identity : RegisteredIdentity}
    (known : lookupLocalByAddress dmailAddress (replay past) = some identity) :
    identity.dmailAddress = dmailAddress ↔ NameKept past dmailAddress := by
  rw [lookupLocalByAddress] at known
  split at known
  · cases known
  · rename_i name named
    split at known
    · cases known
    · obtain ⟨call, later, latest, address, same⟩ := latest_of_name named
      subst same
      obtain ⟨earlier, split⟩ := latest.made
      rw [split] at known
      constructor
      · intro own found since last there
        -- The name of the address is that of its last registration, whichever names it.
        have again := (latest_name last).symm.trans (there ▸ named)
        obtain ⟨before, parted⟩ := last.made
        rw [← split, ← Option.some.inj again, parted] at known
        rcases named_identity since before found with ⟨free, _⟩ | ⟨other, member, _, held⟩
        · exact free
        · cases held.symm.trans known
          exact absurd (own.trans there.symm) (last.last other member)
      · intro kept
        rcases named_identity later earlier call with ⟨_, held⟩ | ⟨other, member, taken, _⟩
        · cases held.symm.trans known
          exact address
        · exact absurd taken (kept call later latest address other member)

end Local

section Lookup
variable {contract : Option DMailRegistry.State} {registry : Registry} {dmailAddress : String}

/-- An address that is nobody's name is looked up as an address. -/
theorem lookupRecipient_address
    (nameless : DMailRegistry.lookupByName contract dmailAddress = none)
    (prefixed : ADDRESS_PREFIX.toList.isPrefixOf dmailAddress.toList = true) :
    lookupRecipient contract dmailAddress registry =
      match lookupByAddress contract dmailAddress registry with
      | some byAddress => .ok (infoOf byAddress)
      | none => .error (.error "Recipient not found") := by
  rw [lookupRecipient, nameless, if_pos prefixed]

theorem recipientKey_named {senderAddress : String} (named : senderAddress ≠ "") :
    recipientKey contract (some senderAddress) dmailAddress registry =
      match lookupByAddress contract dmailAddress registry with
      | none => .error (.error "Recipient not found in registry")
      | some recipientInfo => .ok (fromHex recipientInfo.encryptionKey.toList) := by
  unfold recipientKey
  split
  next absent => cases absent
  next empty => exact absurd (Option.some.inj empty) named
  next => rfl

end Lookup

/-- What the service finds for an address, here or on the chain, has this address. -/
theorem found_own (history : DMailRegistry.History) {past : List Registration}
    {dmailAddress : String} (kept : NameKept past dmailAddress) {identity : RegisteredIdentity}
    (known : lookupByAddress (some (DMailRegistry.replay history.past)) dmailAddress
      (replay past) = some identity) :
    identity.dmailAddress = dmailAddress := by
  rw [lookupByAddress] at known
  split at known
  · rename_i here
    cases known
    exact (local_own_iff here).mpr kept
  · obtain ⟨found, onChain, same⟩ := Option.map_eq_some_iff.mp known
    subst same
    exact lookupByAddress_own (DMailRegistry.tidy_replay history.signed).owned onChain

/-- In every history, what is looked up for an address has the key that a message to it is
    encrypted with, and the address itself where nobody has taken its name; and where nothing is
    found, no message can be sent to it. -/
theorem lookup_matches_sending (history : DMailRegistry.History) (past : List Registration)
    (dmailAddress : String)
    (prefixed : ADDRESS_PREFIX.toList.isPrefixOf dmailAddress.toList = true)
    (long : 32 < (utf8Encode dmailAddress).length) (senderAddress : String)
    (sends : senderAddress ≠ "") :
    (∀ info, lookupRecipient (some (DMailRegistry.replay history.past)) dmailAddress
        (replay past) = .ok info →
      (NameKept past dmailAddress → info.address = dmailAddress) ∧
        recipientKey (some (DMailRegistry.replay history.past)) (some senderAddress) dmailAddress
          (replay past) = .ok (fromHex info.encryptionPublicKey.toList)) ∧
      ∀ failure, lookupRecipient (some (DMailRegistry.replay history.past)) dmailAddress
          (replay past) = .error failure →
        recipientKey (some (DMailRegistry.replay history.past)) (some senderAddress) dmailAddress
          (replay past) = .error (.error "Recipient not found in registry") := by
  rw [lookupRecipient_address (lookupByName_long long) prefixed, recipientKey_named sends]
  cases known : lookupByAddress (some (DMailRegistry.replay history.past)) dmailAddress
      (replay past) with
  | none =>
      refine ⟨fun info found => ?_, fun _ _ => rfl⟩
      cases found
  | some identity =>
      refine ⟨fun info found => ?_, fun _ failed => by cases failed⟩
      cases found
      exact ⟨fun kept => found_own history kept known, rfl⟩

/-! One address is registered on the chain and another with the service, and both are asked
for under themselves. -/

def localBob : Registration :=
  ⟨"bob", "dm1bobbobbobbobbobbobbobbobbobbob", "aa", "bb", 1⟩

def carolsAddress : String := "dm1carolcarolcarolcarolcarolcarol"

def carolOnChain : DMailRegistry.History where
  past := [⟨1, 10, .register (utf8Encode "carol") 1 2 (utf8Encode carolsAddress)⟩]
  signed := eachInput_cons.mpr ⟨by decide, eachInput_nil⟩

theorem both_addresses_found :
    recipientKey (some (DMailRegistry.replay carolOnChain.past)) (some "dm1sender")
        localBob.dmailAddress (replay [localBob]) = .ok [0xbb] ∧
      recipientKey (some (DMailRegistry.replay carolOnChain.past)) (some "dm1sender")
        carolsAddress (replay [localBob]) = .ok (List.replicate 31 0 ++ [2]) := by
  have here : lookupRecipient (some (DMailRegistry.replay carolOnChain.past))
      localBob.dmailAddress (replay [localBob]) =
        .ok ⟨localBob.dmailAddress, "bb", "bob"⟩ := by decide +kernel
  have there : lookupRecipient (some (DMailRegistry.replay carolOnChain.past)) carolsAddress
      (replay [localBob]) = .ok ⟨carolsAddress, wordHex 2, "carol"⟩ := by decide +kernel
  constructor
  · exact ((lookup_matches_sending carolOnChain [localBob] localBob.dmailAddress
      (by decide +kernel) (by decide +kernel) "dm1sender" (by decide)).1 _ here).2
  · have sent := ((lookup_matches_sending carolOnChain [localBob] carolsAddress
      (by decide +kernel) (by decide +kernel) "dm1sender" (by decide)).1 _ there).2
    exact sent.trans (by decide +kernel)

end Chainmail.RegistryService
