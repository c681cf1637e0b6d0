import Chainmail.ReverseLookup
import Chainmail.Runs

/-!
Who owns a name. Four maps say so, each in its way, and only a registration writes
more than one of them, so they agree as long as it writes all four for a fresh name.
-/

namespace Chainmail.DMailRegistry

open Chainmail.Solidity

def replay : List Transaction → State
  | [] => deployed
  | tx :: earlier => apply (replay earlier) tx

/-- All transactions so far, the last one first. No key signs for the address zero. -/
structure History where
  past : List Transaction
  signed : EachInput (fun tx _ => tx.sender ≠ 0) past

structure Owned (state : State) : Prop where
  owner : ∀ name, (state.identities name).exists = true ↔ state.nameOwner name ≠ 0
  listed : ∀ name, state.nameOwner name ≠ 0 ↔
    (state.ownerNames (state.nameOwner name)).count name = 1 ∧
      ∀ other, other ≠ state.nameOwner name → name ∉ state.ownerNames other
  addressed : ∀ dmailAddress, state.addressToName dmailAddress ≠ [] →
    (state.identities (state.addressToName dmailAddress)).exists = true ∧
      (state.identities (state.addressToName dmailAddress)).dmailAddress = dmailAddress ∧
        startsWith dmailAddress addressStart = true

/-- What a name is registered with, its keys apart. -/
structure Kept (before after : State) (name : Bytes) : Prop where
  «exists» : (after.identities name).exists = true
  owner : after.nameOwner name = before.nameOwner name
  dmailAddress : (after.identities name).dmailAddress = (before.identities name).dmailAddress
  registeredAt : (after.identities name).registeredAt = (before.identities name).registeredAt

/-- Other keys come from the owner, who calls `updateKeys` with them. -/
def OwnerSetsKeys (tx : Transaction) (earlier : List Transaction) : Prop :=
  ∀ name, ((replay earlier).identities name).exists = true →
    ((replay (tx :: earlier)).identities name).signingKey =
        ((replay earlier).identities name).signingKey ∧
      ((replay (tx :: earlier)).identities name).encryptionKey =
        ((replay earlier).identities name).encryptionKey ∨
    tx.sender = (replay earlier).nameOwner name ∧ tx.call = .updateKeys name
      ((replay (tx :: earlier)).identities name).signingKey
      ((replay (tx :: earlier)).identities name).encryptionKey

/-- What the maps say of registered names and of all others. -/
structure Tidy (state : State) : Prop where
  owner : ∀ name, (state.identities name).exists = true ↔ state.nameOwner name ≠ 0
  once : ∀ name, (state.identities name).exists = true →
    (state.ownerNames (state.nameOwner name)).count name = 1
  alone : ∀ name, (state.identities name).exists = true →
    ∀ other, other ≠ state.nameOwner name → name ∉ state.ownerNames other
  unlisted : ∀ name, (state.identities name).exists = false →
    ∀ owner, name ∉ state.ownerNames owner
  addressed : ∀ dmailAddress, state.addressToName dmailAddress ≠ [] →
    (state.identities (state.addressToName dmailAddress)).exists = true ∧
      (state.identities (state.addressToName dmailAddress)).dmailAddress = dmailAddress ∧
        startsWith dmailAddress addressStart = true

theorem Tidy.owned {state : State} (tidy : Tidy state) : Owned state where
  owner := tidy.owner
  listed name := by
    constructor
    · intro owned
      have registered := (tidy.owner name).mpr owned
      exact ⟨tidy.once name registered, tidy.alone name registered⟩
    · rintro ⟨once, _⟩
      rw [← tidy.owner name]
      by_contra unregistered
      have absent := tidy.unlisted name (Bool.eq_false_iff.mpr unregistered)
        (state.nameOwner name)
      rw [List.count_eq_zero.mpr absent] at once
      cases once
  addressed := tidy.addressed

theorem tidy_deployed : Tidy deployed where
  owner _ := by simp [deployed]
  once _ registered := by cases registered
  alone _ registered := by cases registered
  unlisted _ _ _ listed := by cases listed
  addressed _ named := absurd rfl named

section Step
variable {state after : State}

theorem not_listed_after {ownerNames : Address → List Bytes} {sender wallet : Address}
    {name other : Bytes} (absent : other ∉ ownerNames wallet) (different : other ≠ name) :
    other ∉ Function.update ownerNames sender (ownerNames sender ++ [name]) wallet := by
  by_cases own : wallet = sender
  · subst own
    simp [absent, different]
  · rw [Function.update_of_ne own]
    exact absent

theorem Tidy.register (tidy : Tidy state) {name dmailAddress : Bytes}
    {signingKey encryptionKey : Bytes32} {sender : Address} {now : Nat} (signed : sender ≠ 0)
    (success : register name signingKey encryptionKey dmailAddress sender now state = .ok after) :
    Tidy after := by
  have started := register_address success
  obtain ⟨fresh, rfl⟩ := register_cases success
  constructor
  case owner =>
    intro other
    by_cases same : other = name
    · rw [same]
      simp [signed]
    · simp only [Function.update_of_ne same]
      exact tidy.owner other
  case once =>
    intro other registered
    by_cases same : other = name
    · subst same
      simp [List.count_eq_zero.mpr (tidy.unlisted other fresh sender)]
    · simp only [Function.update_of_ne same] at registered ⊢
      have once := tidy.once other registered
      -- The list of the sender grows by the new name, which is not this one.
      by_cases own : state.nameOwner other = sender
      · rw [own] at once ⊢
        rw [Function.update_self, List.count_append, once,
          List.count_singleton, if_neg (by simpa using Ne.symm same)]
      · rw [Function.update_of_ne own]
        exact once
  case alone =>
    intro other registered wallet foreign
    by_cases same : other = name
    · subst same
      simp only [Function.update_self] at foreign
      simp only [Function.update_of_ne foreign]
      exact tidy.unlisted other fresh wallet
    · simp only [Function.update_of_ne same] at registered foreign
      have absent := tidy.alone other registered wallet foreign
      exact not_listed_after absent same
  case unlisted =>
    intro other unregistered wallet
    have different : other ≠ name := by
      rintro rfl
      simp at unregistered
    simp only [Function.update_of_ne different] at unregistered
    have absent := tidy.unlisted other unregistered wallet
    exact not_listed_after absent different
  case addressed =>
    intro address named
    by_cases same : address = dmailAddress
    · subst same
      simp [started]
    · simp only [Function.update_of_ne same] at named ⊢
      have addressed := tidy.addressed address named
      -- An address that leads to a registered name does not lead to the new one.
      have different : state.addressToName address ≠ name := by
        intro same
        rw [same, fresh] at addressed
        cases addressed.1
      rw [Function.update_of_ne different]
      exact addressed

theorem Tidy.updateKeys (tidy : Tidy state) {name : Bytes} {signingKey encryptionKey : Bytes32}
    {sender : Address}
    (success : updateKeys name signingKey encryptionKey sender state = .ok after) :
    Tidy after := by
  obtain ⟨_, _, rfl⟩ := updateKeys_cases success
  have same (other : Bytes) : (Function.update state.identities name
      { state.identities name with signingKey := signingKey, encryptionKey := encryptionKey }
        other).exists = (state.identities other).exists ∧
      (Function.update state.identities name
        { state.identities name with signingKey := signingKey, encryptionKey := encryptionKey }
          other).dmailAddress = (state.identities other).dmailAddress := by
    by_cases here : other = name
    · rw [here, Function.update_self]
      exact ⟨rfl, rfl⟩
    · rw [Function.update_of_ne here]
      exact ⟨rfl, rfl⟩
  constructor
  case owner =>
    intro other
    rw [(same other).1]
    exact tidy.owner other
  case once =>
    intro other registered
    rw [(same other).1] at registered
    exact tidy.once other registered
  case alone =>
    intro other registered
    rw [(same other).1] at registered
    exact tidy.alone other registered
  case unlisted =>
    intro other unregistered
    rw [(same other).1] at unregistered
    exact tidy.unlisted other unregistered
  case addressed =>
    intro address named
    rw [(same _).1, (same _).2]
    exact tidy.addressed address named

theorem Tidy.apply (tidy : Tidy state) {tx : Transaction} (signed : tx.sender ≠ 0) :
    Tidy (apply state tx) := by
  rcases apply_cases state tx with ⟨name, signingKey, encryptionKey, dmailAddress, _, done⟩ |
    ⟨name, signingKey, encryptionKey, _, done⟩ | ⟨_, identities, names, owners, lists⟩
  · exact tidy.register signed done
  · exact tidy.updateKeys done
  · constructor
    case owner =>
      rw [identities, owners]
      exact tidy.owner
    case once =>
      rw [identities, owners, lists]
      exact tidy.once
    case alone =>
      rw [identities, owners, lists]
      exact tidy.alone
    case unlisted =>
      rw [identities, lists]
      exact tidy.unlisted
    case addressed =>
      rw [identities, names]
      exact tidy.addressed

theorem kept_apply {name : Bytes} (tx : Transaction)
    (registered : (state.identities name).exists = true) : Kept state (apply state tx) name := by
  rcases apply_cases state tx with ⟨other, signingKey, encryptionKey, dmailAddress, _, done⟩ |
    ⟨other, signingKey, encryptionKey, _, done⟩ | ⟨_, identities, _, owners, _⟩
  · have different := register_other done registered
    rw [(register_cases done).2]
    constructor <;> simp only [Function.update_of_ne different]
    exact registered
  · obtain ⟨_, _, after⟩ := updateKeys_cases done
    rw [after]
    by_cases same : name = other
    · subst same
      constructor <;> simp only [Function.update_self]
      exact registered
    · constructor <;> simp only [Function.update_of_ne same]
      exact registered
  · exact ⟨identities ▸ registered, by rw [owners], by rw [identities], by rw [identities]⟩

theorem ownerSetsKeys_apply (tx : Transaction) (earlier : List Transaction) :
    OwnerSetsKeys tx earlier := by
  intro name registered
  rw [replay]
  by_cases own : (replay earlier).nameOwner name = tx.sender
  · rcases apply_cases (replay earlier) tx with
      ⟨other, signingKey, encryptionKey, dmailAddress, _, done⟩ |
      ⟨other, signingKey, encryptionKey, called, done⟩ | ⟨_, identities, _, _, _⟩
    · rw [register_identity done registered]
      exact Or.inl ⟨rfl, rfl⟩
    · by_cases same : name = other
      · subst same
        rw [(updateKeys_cases done).2.2]
        simp only [Function.update_self]
        exact Or.inr ⟨own.symm, called⟩
      · rw [updateKeys_identity done same]
        exact Or.inl ⟨rfl, rfl⟩
    · rw [identities]
      exact Or.inl ⟨rfl, rfl⟩
  · rw [identity_kept tx registered own]
    exact Or.inl ⟨rfl, rfl⟩

end Step

theorem tidy_replay {past : List Transaction} (signed : EachInput (fun tx _ => tx.sender ≠ 0) past) :
    Tidy (replay past) := by
  induction past with
  | nil => exact tidy_deployed
  | cons tx earlier ih =>
      obtain ⟨now, before⟩ := eachInput_cons.mp signed
      exact (ih before).apply now

theorem kept_replay (later earlier : List Transaction) {name : Bytes}
    (registered : ((replay earlier).identities name).exists = true) :
    Kept (replay earlier) (replay (later ++ earlier)) name := by
  induction later with
  | nil => exact ⟨registered, rfl, rfl, rfl⟩
  | cons tx rest ih =>
      have now := kept_apply tx ih.exists
      exact ⟨now.exists, now.owner.trans ih.owner, now.dmailAddress.trans ih.dmailAddress,
        now.registeredAt.trans ih.registeredAt⟩

/-- In every history, the maps agree at the end, a name once registered has been the
    same ever since, and only its owner has set other keys. -/
theorem names_owned (history : History) :
    Owned (replay history.past) ∧
      (∀ later earlier, history.past = later ++ earlier → ∀ name,
        ((replay earlier).identities name).exists = true →
          Kept (replay earlier) (replay history.past) name) ∧
      EachInput OwnerSetsKeys history.past := by
  refine ⟨(tidy_replay history.signed).owned, ?_, fun tx earlier _ => ownerSetsKeys_apply tx earlier⟩
  intro later earlier split name registered
  rw [split]
  exact kept_replay later earlier registered

section Example

/-- Two wallets register `a` and `b`. The first sets other keys, the second tries it for `a`. -/
def registrations : History where
  past := [⟨2, 40, .updateKeys [97] 9 9⟩, ⟨1, 30, .updateKeys [97] 5 6⟩,
    ⟨2, 20, .register [98] 3 4 (addressStart ++ [98])⟩,
    ⟨1, 10, .register [97] 1 2 (addressStart ++ [97])⟩]
  signed := by
    simp only [eachInput_cons, eachInput_nil]
    decide

theorem registrations_owned : Owned (replay registrations.past) ∧
    Kept (replay (registrations.past.drop 3)) (replay registrations.past) [97] ∧
      (replay registrations.past).nameOwner [97] = 1 ∧
      (replay registrations.past).nameOwner [98] = 2 ∧
      ((replay registrations.past).identities [97]).signingKey = 5 := by
  obtain ⟨owned, kept, _⟩ := names_owned registrations
  exact ⟨owned, kept _ _ (List.take_append_drop 3 _).symm [97] rfl, rfl, rfl, rfl⟩

end Example

end Chainmail.DMailRegistry
