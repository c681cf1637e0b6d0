import Chainmail.RatchetAssumptions

/-!
The key schedule both parties follow. Key pairs are numbered in the order in
which they are generated, the responder's own pair being number 0; pair `i + 1`
and pair `i` agree on the secret that starts chain `i + 1`. A session at level
`n` holds pair `n`, sends on chain `n` and receives on chain `n - 1`. Nothing
here is stored by the code: it is what the two states have in common.
-/

namespace Chainmail.DoubleRatchet

variable {Secret : Type}

structure Epochs (Secret : Type) where
  pair : Nat → KeyPair
  root : Nat → Secret
  chain : Nat → Secret
  sent : Nat → Nat

namespace Epochs

def prior (epochs : Epochs Secret) : Nat → Nat
  | 0 => 0
  | 1 => 0
  | level + 2 => epochs.sent level

def slot (epochs : Epochs Secret) (epoch number : Nat) : SkipKey :=
  skipKey (epochs.pair epoch).publicKey (.ofNat number)

def header (epochs : Epochs Secret) (epoch number : Nat) : MessageHeader :=
  ⟨(epochs.pair epoch).publicKey, .ofNat (epochs.prior epoch), .ofNat number⟩

def key (P : Primitives Secret) (epochs : Epochs Secret) (epoch number : Nat) : Secret :=
  messageKeyAt P (epochs.chain epoch) number

end Epochs

/-- Pairs up to `top` are generated, distinct and agree pairwise. -/
structure Wired (P : Primitives Secret) (epochs : Epochs Secret) (top : Nat)
    (generated : List Bytes) : Prop where
  sized : ∀ i ≤ top, (epochs.pair i).privateKey.length = 32
  published : ∀ i ≤ top, (epochs.pair i).publicKey = P.getPublicKey (epochs.pair i).privateKey
  distinct : ∀ i ≤ top, ∀ j ≤ top,
    (epochs.pair i).publicKey = (epochs.pair j).publicKey → i = j
  recorded : ∀ i ≤ top, (epochs.pair i).publicKey ∈ generated
  agreed : ∀ i < top, ∃ shared,
    P.getSharedSecret (epochs.pair i).privateKey (epochs.pair (i + 1)).publicKey = some shared ∧
      epochs.root (i + 1) = (kdfRK P (epochs.root i) shared).rootKey ∧
      epochs.chain (i + 1) = (kdfRK P (epochs.root i) shared).chainKey
  unsent : ∀ i, top < i → epochs.sent i = 0
  silent : epochs.sent 0 = 0

/-- Every stored key sits in the slot of its own epoch and number. -/
def Stored (P : Primitives Secret) (epochs : Epochs Secret) (level : Nat)
    (store : OrderedMap SkipKey Secret) : Prop :=
  ∀ slot stored, store.get slot = some stored →
    ∃ epoch < level, ∃ number, slot = epochs.slot epoch number ∧
      stored = epochs.key P epoch number

def Covers (P : Primitives Secret) (epochs : Epochs Secret)
    (store : OrderedMap SkipKey Secret) (epoch number : Nat) : Prop :=
  store.get (epochs.slot epoch number) = some (epochs.key P epoch number)

def remoteAt (epochs : Epochs Secret) : Nat → Option Bytes
  | 0 => none
  | level + 1 => some (epochs.pair level).publicKey

def sendingAt (P : Primitives Secret) (epochs : Epochs Secret) : Nat → Option Secret
  | 0 => none
  | level + 1 => some (advance P (epochs.sent (level + 1)) (epochs.chain (level + 1)))

def receivingAt (P : Primitives Secret) (epochs : Epochs Secret) (number : Nat) :
    Nat → Option Secret
  | 0 => none
  | 1 => none
  | level + 2 => some (advance P number (epochs.chain (level + 1)))

/-- The session is at `level` of the schedule. -/
structure Follows (P : Primitives Secret) (epochs : Epochs Secret) (level : Nat)
    (state : State Secret) : Prop where
  pair : state.DHs = some (epochs.pair level)
  remote : state.DHr = remoteAt epochs level
  root : state.RK = some (epochs.root level)
  sending : state.CKs = sendingAt P epochs level
  receiving : state.CKr = receivingAt P epochs state.Nr level
  counted : state.Ns = epochs.sent level
  earlier : state.PN = epochs.prior level
  received : state.Nr ≤ epochs.sent (level - 1)
  stored : Stored P epochs level state.MKSKIPPED

/-- Where a session at `level` finds the key of a message it has not received yet. -/
def Awaits (P : Primitives Secret) (epochs : Epochs Secret) (level : Nat) (state : State Secret)
    (epoch number : Nat) : Prop :=
  epoch < level → (epoch + 1 = level → number < state.Nr) →
    Covers P epochs state.MKSKIPPED epoch number

theorem slot_inj {P : Primitives Secret} {epochs : Epochs Secret} {top : Nat}
    {generated : List Bytes} (wired : Wired P epochs top generated) {i j m n : Nat}
    (iTop : i ≤ top) (jTop : j ≤ top) (same : epochs.slot i m = epochs.slot j n) :
    i = j ∧ m = n := by
  obtain ⟨samePair, sameNumber⟩ := (skipKey_inj _ _ _ _).mp same
  exact ⟨wired.distinct i iTop j jTop samePair, (JsNumber.ofNat_inj _ _).mp sameNumber⟩

section Store
variable {P : Primitives Secret} {epochs : Epochs Secret}

-- Skipping along chain `epoch` from `start` writes exactly that chain's own slots.
theorem storeSkipped_cases (epoch start count : Nat) (store : OrderedMap SkipKey Secret)
    (slot : SkipKey) :
    (∃ number, start ≤ number ∧ number < start + count ∧ slot = epochs.slot epoch number ∧
      (storeSkipped P (epochs.pair epoch).publicKey count
        (advance P start (epochs.chain epoch)) start store).get slot =
        some (epochs.key P epoch number)) ∨
    (storeSkipped P (epochs.pair epoch).publicKey count
      (advance P start (epochs.chain epoch)) start store).get slot = store.get slot := by
  by_cases hit : ∃ offset < count,
      slot = skipKey (epochs.pair epoch).publicKey (.ofNat (start + offset))
  · obtain ⟨offset, inside, rfl⟩ := hit
    refine Or.inl ⟨start + offset, by omega, by omega, rfl, ?_⟩
    rw [get_storeSkipped_stored P _ _ _ _ _ _ inside, messageKey_advance, Nat.add_comm]
    rfl
  · refine Or.inr (get_storeSkipped_other P _ _ _ _ _ _ ?_)
    intro offset inside same
    exact hit ⟨offset, inside, same⟩

theorem Stored.skip {level epoch : Nat} (start count : Nat) {store : OrderedMap SkipKey Secret}
    (stored : Stored P epochs level store) (below : epoch < level) :
    Stored P epochs level (storeSkipped P (epochs.pair epoch).publicKey count
      (advance P start (epochs.chain epoch)) start store) := by
  intro slot found held
  rcases storeSkipped_cases epoch start count store slot with
    ⟨number, _, _, place, fresh⟩ | kept
  · rw [held] at fresh
    exact ⟨epoch, below, number, place, Option.some.inj fresh⟩
  · exact stored slot found (kept ▸ held)

theorem Stored.delete {level : Nat} {store : OrderedMap SkipKey Secret}
    (stored : Stored P epochs level store) (gone : SkipKey) :
    Stored P epochs level (store.delete gone) := by
  intro slot found held
  rw [OrderedMap.get_delete] at held
  split at held
  · cases held
  · exact stored slot found held

theorem Stored.mono {low high : Nat} {store : OrderedMap SkipKey Secret}
    (stored : Stored P epochs low store) (le : low ≤ high) : Stored P epochs high store := by
  intro slot found held
  obtain ⟨epoch, below, rest⟩ := stored slot found held
  exact ⟨epoch, by omega, rest⟩

variable {top : Nat} {generated : List Bytes}

theorem Covers.skip {epoch other number : Nat} (start count : Nat)
    {store : OrderedMap SkipKey Secret} (wired : Wired P epochs top generated)
    (epochTop : epoch ≤ top) (otherTop : other ≤ top) (covers : Covers P epochs store other number) :
    Covers P epochs (storeSkipped P (epochs.pair epoch).publicKey count
      (advance P start (epochs.chain epoch)) start store) other number := by
  rcases storeSkipped_cases epoch start count store (epochs.slot other number) with
    ⟨again, _, _, place, fresh⟩ | kept
  · obtain ⟨rfl, rfl⟩ := slot_inj wired otherTop epochTop place
    exact fresh
  · exact kept.trans covers

theorem covers_skipped {epoch number : Nat} (start count : Nat)
    (store : OrderedMap SkipKey Secret) (from_start : start ≤ number)
    (before_end : number < start + count) :
    Covers P epochs (storeSkipped P (epochs.pair epoch).publicKey count
      (advance P start (epochs.chain epoch)) start store) epoch number := by
  obtain ⟨offset, rfl⟩ := Nat.exists_eq_add_of_le from_start
  rw [Covers, Epochs.slot, get_storeSkipped_stored P _ _ _ _ _ _ (by omega), messageKey_advance,
    Nat.add_comm]
  rfl

theorem Covers.delete {epoch number other again : Nat} {store : OrderedMap SkipKey Secret}
    (covers : Covers P epochs store epoch number)
    (apart : epochs.slot epoch number ≠ epochs.slot other again) :
    Covers P epochs (store.delete (epochs.slot other again)) epoch number := by
  rw [Covers, OrderedMap.get_delete_of_ne _ apart]
  exact covers

end Store
end Chainmail.DoubleRatchet
