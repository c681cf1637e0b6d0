import Chainmail.DMailRegistry

/-!
Reverse name lookup. `register` guards the name and overwrites the entry of the
address without a guard, so the lookup stays right exactly as long as no
registration that goes through names an address some identity already has.
-/

namespace Chainmail.DMailRegistry

open Chainmail.Solidity

/-! What each transaction does when it does not revert. -/

section Cases
variable {state after : State}

theorem register_cases {name dmailAddress : Bytes} {signingKey encryptionKey : Bytes32}
    {sender : Address} {now : Nat}
    (success : register name signingKey encryptionKey dmailAddress sender now state = .ok after) :
    (state.identities name).exists = false ∧
      after = { state with
        identities := Function.update state.identities name
          ⟨signingKey, encryptionKey, dmailAddress, now, true⟩
        addressToName := Function.update state.addressToName dmailAddress name
        nameOwner := Function.update state.nameOwner name sender
        ownerNames := Function.update state.ownerNames sender
          (state.ownerNames sender ++ [name]) } := by
  unfold register at success
  split at success
  · cases success
  · split at success
    · cases success
    · split at success
      · cases success
      · rename_i unregistered
        exact ⟨Bool.eq_false_iff.mpr unregistered, (Except.ok.inj success).symm⟩

theorem register_address {name dmailAddress : Bytes} {signingKey encryptionKey : Bytes32}
    {sender : Address} {now : Nat}
    (success : register name signingKey encryptionKey dmailAddress sender now state = .ok after) :
    startsWith dmailAddress addressStart = true := by
  unfold register at success
  split at success
  · cases success
  · split at success
    · cases success
    · rename_i started
      exact Bool.of_not_eq_false started

theorem updateKeys_cases {name : Bytes} {signingKey encryptionKey : Bytes32} {sender : Address}
    (success : updateKeys name signingKey encryptionKey sender state = .ok after) :
    state.nameOwner name = sender ∧ (state.identities name).exists = true ∧
      after = { state with
        identities := Function.update state.identities name
          { state.identities name with
            signingKey := signingKey, encryptionKey := encryptionKey } } := by
  unfold updateKeys at success
  split at success
  · cases success
  · rename_i owner
    split at success
    · cases success
    · rename_i registered
      exact ⟨not_not.mp owner, Bool.of_not_eq_false registered, (Except.ok.inj success).symm⟩

/-- A registered name is not registered again. -/
theorem register_other {name other dmailAddress : Bytes} {signingKey encryptionKey : Bytes32}
    {sender : Address} {now : Nat}
    (success : register name signingKey encryptionKey dmailAddress sender now state = .ok after)
    (registered : (state.identities other).exists = true) : other ≠ name := by
  obtain ⟨fresh, _⟩ := register_cases success
  rintro rfl
  rw [fresh] at registered
  cases registered

theorem register_identity {name other dmailAddress : Bytes} {signingKey encryptionKey : Bytes32}
    {sender : Address} {now : Nat}
    (success : register name signingKey encryptionKey dmailAddress sender now state = .ok after)
    (registered : (state.identities other).exists = true) :
    after.identities other = state.identities other := by
  have different := register_other success registered
  rw [(register_cases success).2]
  exact Function.update_of_ne different _ _

theorem updateKeys_identity {name other : Bytes} {signingKey encryptionKey : Bytes32}
    {sender : Address} (success : updateKeys name signingKey encryptionKey sender state = .ok after)
    (different : other ≠ name) : after.identities other = state.identities other := by
  rw [(updateKeys_cases success).2.2]
  exact Function.update_of_ne different _ _

theorem timestampAndStore_cases {messageHash : Bytes32} {senderDmail recipientDmail ipfsCid : Bytes}
    {sender : Address} {now : Nat} (success : timestampAndStore messageHash senderDmail
      recipientDmail ipfsCid sender now state = .ok after) :
    after = { state with
      messageProofs := Function.update state.messageProofs messageHash
        ⟨messageHash, sender, senderDmail, recipientDmail, ipfsCid, now⟩ } := by
  unfold timestampAndStore at success
  split at success
  · cases success
  · exact (Except.ok.inj success).symm

end Cases

/-- Every registered name is the one its address looks up. -/
def ReverseLookup (state : State) : Prop :=
  ∀ name identity, getIdentity name state = .ok identity →
    getName identity.dmailAddress state = name

/-- A registration that goes through names an address no identity has. -/
def Unclaimed (state : State) (tx : Transaction) : Prop :=
  match tx.call with
  | .register name signingKey encryptionKey dmailAddress =>
      (∃ after, register name signingKey encryptionKey dmailAddress tx.sender tx.now state =
        .ok after) →
      ∀ other, (state.identities other).exists = true →
        (state.identities other).dmailAddress ≠ dmailAddress
  | _ => True

/-- What an address looks up is the same after the transaction, unless the
    owner of the name it looks up sent it. -/
def KeepsLookups (state : State) (tx : Transaction) : Prop :=
  ∀ name identity dmailAddress, getIdentity name state = .ok identity →
    utf8Encode dmailAddress = identity.dmailAddress → state.nameOwner name ≠ tx.sender →
    lookupByAddress (some (apply state tx)) dmailAddress =
      lookupByAddress (some state) dmailAddress

/-- `holds` before every transaction of the run and after the last. -/
def Throughout (holds : State → Prop) : State → List Transaction → Prop
  | state, [] => holds state
  | state, tx :: rest => holds state ∧ Throughout holds (apply state tx) rest

/-- `kept` by every transaction of the run. -/
def EveryStep (kept : State → Transaction → Prop) : State → List Transaction → Prop
  | _, [] => True
  | state, tx :: rest => kept state tx ∧ EveryStep kept (apply state tx) rest

theorem getIdentity_ok {name : Bytes} {state : State} {identity : Identity} :
    getIdentity name state = .ok identity ↔
      (state.identities name).exists = true ∧ state.identities name = identity := by
  unfold getIdentity
  cases registered : (state.identities name).exists <;> simp

theorem reverseLookup_iff {state : State} : ReverseLookup state ↔
    ∀ name, (state.identities name).exists = true →
      state.addressToName (state.identities name).dmailAddress = name := by
  constructor
  · intro lookup name registered
    exact lookup name _ (getIdentity_ok.mpr ⟨registered, rfl⟩)
  · intro lookup name identity found
    obtain ⟨registered, rfl⟩ := getIdentity_ok.mp found
    exact lookup name registered

-- A registration writes all four maps, a change of keys one record, and the rest none.
theorem apply_cases (state : State) (tx : Transaction) :
    (∃ name signingKey encryptionKey dmailAddress, tx.call =
        .register name signingKey encryptionKey dmailAddress ∧
      register name signingKey encryptionKey dmailAddress tx.sender tx.now state =
        .ok (apply state tx)) ∨
    (∃ name signingKey encryptionKey, tx.call = .updateKeys name signingKey encryptionKey ∧
      updateKeys name signingKey encryptionKey tx.sender state = .ok (apply state tx)) ∨
    (Unclaimed state tx ∧ (apply state tx).identities = state.identities ∧
      (apply state tx).addressToName = state.addressToName ∧
      (apply state tx).nameOwner = state.nameOwner ∧
      (apply state tx).ownerNames = state.ownerNames) := by
  obtain ⟨sender, now, call⟩ := tx
  unfold apply
  cases done : execute state ⟨sender, now, call⟩ with
  | error reverted =>
      refine Or.inr (Or.inr ⟨?_, rfl, rfl, rfl, rfl⟩)
      cases call with
      | register name signingKey encryptionKey dmailAddress =>
          rintro ⟨after, success⟩
          exact absurd (done.symm.trans success) (by simp)
      | _ => trivial
  | ok after =>
      cases call with
      | register name signingKey encryptionKey dmailAddress =>
          exact Or.inl ⟨name, signingKey, encryptionKey, dmailAddress, rfl, done⟩
      | updateKeys name signingKey encryptionKey =>
          exact Or.inr (Or.inl ⟨name, signingKey, encryptionKey, rfl, done⟩)
      | timestampMessage messageHash senderDmail recipientDmail =>
          rw [timestampAndStore_cases done]
          exact Or.inr (Or.inr ⟨trivial, rfl, rfl, rfl, rfl⟩)
      | timestampAndStore messageHash senderDmail recipientDmail ipfsCid =>
          rw [timestampAndStore_cases done]
          exact Or.inr (Or.inr ⟨trivial, rfl, rfl, rfl, rfl⟩)

theorem register_lookup_iff {state after : State} {name dmailAddress : Bytes}
    {signingKey encryptionKey : Bytes32} {sender : Address} {now : Nat}
    (lookup : ReverseLookup state)
    (success : register name signingKey encryptionKey dmailAddress sender now state = .ok after) :
    ReverseLookup after ↔ ∀ other, (state.identities other).exists = true →
      (state.identities other).dmailAddress ≠ dmailAddress := by
  obtain ⟨fresh, rfl⟩ := register_cases success
  rw [reverseLookup_iff] at lookup ⊢
  constructor
  · intro lookupAfter other registered same
    have different : other ≠ name := by
      rintro rfl
      rw [fresh] at registered
      cases registered
    have found := lookupAfter other
    simp only [Function.update_of_ne different] at found
    rw [same, Function.update_self] at found
    exact different (found registered).symm
  · intro unclaimed other registered
    by_cases same : other = name
    · subst same
      simp
    · simp only [Function.update_of_ne same] at registered ⊢
      rw [Function.update_of_ne (unclaimed other registered)]
      exact lookup other registered

theorem updateKeys_lookup {state after : State} {name : Bytes}
    {signingKey encryptionKey : Bytes32} {sender : Address} (lookup : ReverseLookup state)
    (success : updateKeys name signingKey encryptionKey sender state = .ok after) :
    ReverseLookup after := by
  obtain ⟨_, present, rfl⟩ := updateKeys_cases success
  rw [reverseLookup_iff] at lookup ⊢
  intro other registered
  by_cases same : other = name
  · subst same
    simpa using lookup other present
  · simp only [Function.update_of_ne same] at registered ⊢
    exact lookup other registered

theorem reverseLookup_step_iff {state : State} (lookup : ReverseLookup state) (tx : Transaction) :
    ReverseLookup (apply state tx) ↔ Unclaimed state tx := by
  rcases apply_cases state tx with
    ⟨name, signingKey, encryptionKey, dmailAddress, called, done⟩ |
    ⟨name, signingKey, encryptionKey, called, done⟩ | ⟨unclaimed, sameIdentities, sameNames, _, _⟩
  · rw [register_lookup_iff lookup done, Unclaimed, called]
    exact ⟨fun unclaimed _ => unclaimed, fun unclaimed => unclaimed ⟨_, done⟩⟩
  · rw [Unclaimed, called]
    exact iff_of_true (updateKeys_lookup lookup done) trivial
  · refine iff_of_true ?_ unclaimed
    rw [reverseLookup_iff] at lookup ⊢
    rw [sameIdentities, sameNames]
    exact lookup

-- A lookup reads one entry of each map and nothing else.
theorem lookup_congr {before after : State} {name : Bytes} {dmailAddress : String}
    (here : before.addressToName (utf8Encode dmailAddress) = name)
    (there : after.addressToName (utf8Encode dmailAddress) = name)
    (kept : after.identities name = before.identities name) :
    lookupByAddress (some after) dmailAddress = lookupByAddress (some before) dmailAddress := by
  simp only [lookupByAddress, getName, here, there, Option.bind_eq_bind, Option.bind_some]
  cases decoded : utf8Decode name with
  | none => rfl
  | some text =>
      simp only [Option.bind_some, lookupByName, getIdentity, utf8Encode_decode decoded, kept,
        Option.bind_eq_bind]

/-- Only its owner changes what a name is registered with. -/
theorem identity_kept {state : State} {name : Bytes} (tx : Transaction)
    (registered : (state.identities name).exists = true) (foreign : state.nameOwner name ≠ tx.sender) :
    (apply state tx).identities name = state.identities name := by
  rcases apply_cases state tx with
    ⟨other, signingKey, encryptionKey, dmailAddress, _, done⟩ |
    ⟨other, signingKey, encryptionKey, _, done⟩ | ⟨_, same, _, _, _⟩
  · exact register_identity done registered
  · have different : name ≠ other := by
      rintro rfl
      exact foreign (updateKeys_cases done).1
    exact updateKeys_identity done different
  · rw [same]

theorem keepsLookups_step {state : State} (lookup : ReverseLookup state) (tx : Transaction)
    (unclaimed : Unclaimed state tx) : KeepsLookups state tx := by
  intro name identity dmailAddress found encoded foreign
  obtain ⟨registered, rfl⟩ := getIdentity_ok.mp found
  have kept := identity_kept tx registered foreign
  have lookupAfter := reverseLookup_iff.mp ((reverseLookup_step_iff lookup tx).mpr unclaimed) name
  rw [kept] at lookupAfter
  refine lookup_congr ?_ ?_ kept
  · rw [encoded]
    exact reverseLookup_iff.mp lookup name registered
  · rw [encoded]
    exact lookupAfter registered

theorem reverseLookup_deployed : ReverseLookup deployed := by
  rw [reverseLookup_iff]
  intro name registered
  cases registered

theorem throughout_iff (txs : List Transaction) {state : State} (lookup : ReverseLookup state) :
    Throughout ReverseLookup state txs ↔ EveryStep Unclaimed state txs := by
  induction txs generalizing state with
  | nil => exact iff_of_true lookup trivial
  | cons tx rest ih =>
      constructor
      · rintro ⟨_, later⟩
        have next : ReverseLookup (apply state tx) := by
          cases rest with
          | nil => exact later
          | cons _ _ => exact later.1
        exact ⟨(reverseLookup_step_iff lookup tx).mp next, (ih next).mp later⟩
      · rintro ⟨unclaimed, later⟩
        have next := (reverseLookup_step_iff lookup tx).mpr unclaimed
        exact ⟨lookup, (ih next).mpr later⟩

theorem everyStep_keepsLookups (txs : List Transaction) {state : State}
    (lookup : ReverseLookup state) (unclaimed : EveryStep Unclaimed state txs) :
    EveryStep KeepsLookups state txs := by
  induction txs generalizing state with
  | nil => trivial
  | cons tx rest ih =>
      have next := (reverseLookup_step_iff lookup tx).mpr unclaimed.1
      exact ⟨keepsLookups_step lookup tx unclaimed.1, ih next unclaimed.2⟩

/-- In every run from deployment, every registered name is the one its address
    looks up, throughout, exactly when no registration goes through for an
    address that an identity already has; and then nobody but the owner of a
    name changes what its address looks up. -/
theorem reverse_lookup_iff_unclaimed (txs : List Transaction) :
    (Throughout ReverseLookup deployed txs ↔ EveryStep Unclaimed deployed txs) ∧
      (EveryStep Unclaimed deployed txs → EveryStep KeepsLookups deployed txs) :=
  ⟨throughout_iff txs reverseLookup_deployed, everyStep_keepsLookups txs reverseLookup_deployed⟩

/-! Alice (address 1) registers, then Mallory (address 2) registers a name of
her own with Alice's dMail address. -/

def aliceRegisters : Transaction :=
  ⟨1, 100, .register (utf8Encode "alice") 11 12 (utf8Encode "dm1alice")⟩

def malloryRegisters : Transaction :=
  ⟨2, 200, .register (utf8Encode "mallory") 21 22 (utf8Encode "dm1alice")⟩

theorem mallory_hijacks_alice :
    lookupByAddress (some (apply deployed aliceRegisters)) "dm1alice" =
        some ⟨"alice", 11, 12, "dm1alice", 100⟩ ∧
      lookupByAddress (some (apply (apply deployed aliceRegisters) malloryRegisters)) "dm1alice" =
        some ⟨"mallory", 21, 22, "dm1alice", 200⟩ ∧
      ¬ Throughout ReverseLookup deployed [aliceRegisters, malloryRegisters] := by
  refine ⟨by decide +kernel, by decide +kernel, ?_⟩
  rintro ⟨_, _, lookup⟩
  have alice := reverseLookup_iff.mp lookup (utf8Encode "alice") (by decide +kernel)
  revert alice
  decide +kernel

end Chainmail.DMailRegistry
