import Chainmail.DoubleRatchet

/-!
What each operation of a session does to its state, as one equation or one
case list per operation. Later modules use these and never unfold the code.
-/

namespace Chainmail.DoubleRatchet

variable {Secret : Type}

section Chains
variable (P : Primitives Secret)

def advance (steps : Nat) (chain : Secret) : Secret :=
  (fun current => (kdfCK P current).chainKey)^[steps] chain

def messageKeyAt (chain : Secret) (number : Nat) : Secret :=
  (kdfCK P (advance P number chain)).messageKey

def storeSkipped (remote : Bytes) : Nat → Secret → Nat →
    OrderedMap SkipKey Secret → OrderedMap SkipKey Secret
  | 0, _, _, skipped => skipped
  | count + 1, current, number, skipped =>
      storeSkipped remote count (kdfCK P current).chainKey (number + 1)
        (skipped.set (skipKey remote (.ofNat number)) (kdfCK P current).messageKey)

@[simp] theorem advance_zero (chain : Secret) : advance P 0 chain = chain := rfl

theorem advance_succ (steps : Nat) (chain : Secret) :
    advance P (steps + 1) chain = (kdfCK P (advance P steps chain)).chainKey :=
  Function.iterate_succ_apply' _ _ _

theorem advance_next (steps : Nat) (chain : Secret) :
    advance P steps (kdfCK P chain).chainKey = advance P (steps + 1) chain :=
  (Function.iterate_succ_apply _ _ _).symm

theorem advance_add (more steps : Nat) (chain : Secret) :
    advance P more (advance P steps chain) = advance P (more + steps) chain :=
  (Function.iterate_add_apply _ _ _ _).symm

theorem messageKey_advance (number steps : Nat) (chain : Secret) :
    messageKeyAt P (advance P steps chain) number = messageKeyAt P chain (number + steps) := by
  simp only [messageKeyAt, advance_add]

end Chains

theorem skipKey_inj (left right : Bytes) (m n : JsNumber) :
    skipKey left m = skipKey right n ↔ left = right ∧ m = n := by
  simp [skipKey, toBase64_injective.eq_iff]

section Skipping
variable (P : Primitives Secret)

theorem get_storeSkipped_other (remote : Bytes) (count : Nat) (current : Secret) (start : Nat)
    (skipped : OrderedMap SkipKey Secret) (key : SkipKey)
    (other : ∀ offset < count, key ≠ skipKey remote (.ofNat (start + offset))) :
    (storeSkipped P remote count current start skipped).get key = skipped.get key := by
  induction count generalizing current start skipped with
  | zero => rfl
  | succ count ih =>
      have head := other 0 (by omega)
      rw [storeSkipped, ih, OrderedMap.get_set_of_ne _ _ (by simpa using head)]
      intro offset inside
      have later := other (offset + 1) (by omega)
      rwa [Nat.add_assoc, Nat.add_comm 1 offset]

theorem get_storeSkipped_stored (remote : Bytes) (count : Nat) (current : Secret)
    (start offset : Nat) (skipped : OrderedMap SkipKey Secret) (inside : offset < count) :
    (storeSkipped P remote count current start skipped).get
      (skipKey remote (.ofNat (start + offset))) = some (messageKeyAt P current offset) := by
  induction count generalizing current start offset skipped with
  | zero => omega
  | succ count ih =>
      cases offset with
      | zero =>
          have untouched : ∀ later < count, skipKey remote (.ofNat start) ≠
              skipKey remote (.ofNat (start + 1 + later)) := by
            intro later _ same
            have equal := (JsNumber.ofNat_inj _ _).mp ((skipKey_inj _ _ _ _).mp same).2
            omega
          simp only [storeSkipped, Nat.add_zero]
          rw [get_storeSkipped_other P remote _ _ _ _ _ untouched, OrderedMap.get_set_self]
          rfl
      | succ offset =>
          have later := ih (kdfCK P current).chainKey (start + 1) offset
            (skipped.set (skipKey remote (.ofNat start)) (kdfCK P current).messageKey) (by omega)
          simpa only [storeSkipped, messageKeyAt, advance_next, Nat.add_assoc,
            Nat.add_comm 1 offset] using later

-- The receiving chain after `count` turns of the loop.
def skipped (remote : Bytes) (count : Nat) (current : Secret) (state : State Secret) :
    State Secret :=
  { state with
    CKr := some (advance P count current)
    Nr := state.Nr + count
    MKSKIPPED := storeSkipped P remote count current state.Nr state.MKSKIPPED }

theorem skipOne_eq (state : State Secret) (current : Secret) (remote : Bytes)
    (chain : state.CKr = some current) (known : state.DHr = some remote) :
    skipOne P state = .returns (skipped P remote 1 current state) () := by
  simp only [skipOne, chain, known, skipped, storeSkipped, advance_succ, advance_zero]

theorem skipped_skipped (remote : Bytes) (count : Nat) (current : Secret) (state : State Secret) :
    skipped P remote count (kdfCK P current).chainKey (skipped P remote 1 current state) =
      skipped P remote (count + 1) current state := by
  simp only [skipped, advance_next, storeSkipped, Nat.add_assoc, Nat.add_comm 1 count]

theorem skipLoop_eq (bound : JsNumber) (fuel : Nat) (state : State Secret) (current : Secret)
    (remote : Bytes) (chain : state.CKr = some current) (known : state.DHr = some remote)
    (bounded : bound ≠ .posInfinity) (enough : JsNumber.turns state.Nr bound ≤ fuel) :
    skipLoop P bound fuel state =
      .returns (skipped P remote (JsNumber.turns state.Nr bound) current state) () := by
  induction fuel generalizing state current with
  | zero =>
      have none : JsNumber.turns state.Nr bound = 0 := Nat.le_zero.mp enough
      simp [skipLoop, none, skipped, storeSkipped, ← chain]
  | succ fuel ih =>
      by_cases below : (JsNumber.ofNat state.Nr).lt bound = true
      · have positive := (JsNumber.lt_iff_turns_pos bounded).mp below
        have turns : JsNumber.turns (skipped P remote 1 current state).Nr bound =
            JsNumber.turns state.Nr bound - 1 := JsNumber.turns_succ _ _
        rw [skipLoop, if_pos below, skipOne_eq P state current remote chain known,
          Outcome.returns_andThen,
          ih (skipped P remote 1 current state) (kdfCK P current).chainKey rfl known
            (by omega), turns, skipped_skipped]
        congr 3
        omega
      · have none : JsNumber.turns state.Nr bound = 0 := by
          have := mt (JsNumber.lt_iff_turns_pos bounded).mpr below
          omega
        simp [skipLoop, below, none, skipped, storeSkipped, ← chain]

/-- The guard of `skipMessageKeys` is passed. -/
def Near (number : Nat) (bound : JsNumber) : Prop :=
  (JsNumber.ofNat (number + MAX_SKIP)).lt bound = false

instance (number : Nat) (bound : JsNumber) : Decidable (Near number bound) :=
  inferInstanceAs (Decidable (_ = false))

theorem skipMessageKeys_far (bound : JsNumber) (state : State Secret)
    (far : ¬ Near state.Nr bound) :
    skipMessageKeys P bound state = .throws state (.error "Too many skipped messages") := by
  have beyond : (JsNumber.ofNat (state.Nr + MAX_SKIP)).lt bound = true := by
    simpa [Near] using far
  simp [skipMessageKeys, beyond]

theorem skipMessageKeys_unchained (bound : JsNumber) (state : State Secret)
    (near : Near state.Nr bound) (unchained : state.CKr = none) :
    skipMessageKeys P bound state = .returns state () := by
  rw [Near] at near
  simp [skipMessageKeys, near, unchained]

theorem skipMessageKeys_eq (bound : JsNumber) (state : State Secret) (current : Secret)
    (remote : Bytes) (near : Near state.Nr bound) (chain : state.CKr = some current)
    (known : state.DHr = some remote) :
    skipMessageKeys P bound state =
      .returns (skipped P remote (JsNumber.turns state.Nr bound) current state) () := by
  obtain ⟨bounded, enough⟩ := JsNumber.turns_le_of_not_lt near
  rw [Near] at near
  rw [skipMessageKeys, near]
  simp only [Bool.false_eq_true, ↓reduceIte, chain, Option.isSome_some]
  exact skipLoop_eq P bound MAX_SKIP state current remote chain known bounded enough

-- Whatever one turn of the loop keeps, the whole call keeps, however it ends.
theorem skipMessageKeys_keeps (holds : State Secret → Prop)
    (one : ∀ state, holds state → holds (skipOne P state).state)
    (bound : JsNumber) (state : State Secret) (initially : holds state) :
    holds (skipMessageKeys P bound state).state := by
  have loop : ∀ fuel state, holds state → holds (skipLoop P bound fuel state).state := by
    intro fuel
    induction fuel with
    | zero => exact fun _ before => before
    | succ fuel ih =>
        intro state before
        rw [skipLoop]
        split
        · exact Outcome.andThen_keeps holds (one state before) fun _ _ => ih _ (one state before)
        · exact before
  unfold skipMessageKeys
  split
  · exact initially
  · split
    · exact loop _ _ initially
    · exact initially

theorem skipOne_remote (state : State Secret) : (skipOne P state).state.DHr = state.DHr := by
  cases chain : state.CKr <;> cases known : state.DHr <;> simp [skipOne, chain, known]

theorem skipMessageKeys_remote (bound : JsNumber) (state : State Secret) :
    (skipMessageKeys P bound state).state.DHr = state.DHr :=
  skipMessageKeys_keeps P (fun after => after.DHr = state.DHr)
    (fun after same => (skipOne_remote P after).trans same) bound state rfl

end Skipping
section Turning
variable (P : Primitives Secret)

/-- The state after a whole DH ratchet turn. -/
def turned (theirs draw : Bytes) (root shared1 shared2 : Secret) (state : State Secret) :
    State Secret :=
  let first := kdfRK P root shared1
  let second := kdfRK P first.rootKey shared2
  { state with
    DHs := some (generateKeyPair P draw)
    DHr := some theirs
    RK := some second.rootKey
    CKs := some second.chainKey
    CKr := some first.chainKey
    Ns := 0
    Nr := 0
    PN := state.Ns }

/-- Everything a DH ratchet turn needs is present. -/
structure CanTurn (theirs draw : Bytes) (root shared1 shared2 : Secret) (state : State Secret) :
    Prop where
  ours : ∃ pair, state.DHs = some pair ∧ P.getSharedSecret pair.privateKey theirs = some shared1
  rooted : state.RK = some root
  fresh : P.getSharedSecret draw theirs = some shared2

theorem dhRatchet_eq (theirs draw : Bytes) (root shared1 shared2 : Secret) (state : State Secret)
    (ready : CanTurn P theirs draw root shared1 shared2 state) :
    dhRatchet P theirs draw state =
      .returns (turned P theirs draw root shared1 shared2 state) () := by
  obtain ⟨⟨pair, held, agreed⟩, rooted, fresh⟩ := ready
  simp only [dhRatchet, held, agreed, rooted, fresh, turned]

def retargeted (theirs : Bytes) (state : State Secret) : State Secret :=
  { state with PN := state.Ns, Ns := 0, Nr := 0, DHr := some theirs }

def halfTurned (theirs draw : Bytes) (root shared1 : Secret) (state : State Secret) :
    State Secret :=
  let first := kdfRK P root shared1
  { retargeted theirs state with
    DHs := some (generateKeyPair P draw)
    RK := some first.rootKey
    CKr := some first.chainKey }

-- A turn completes, or stops with the remote key written, or stops between its two halves.
theorem dhRatchet_cases (theirs draw : Bytes) (state : State Secret) :
    (∃ root shared1 shared2, CanTurn P theirs draw root shared1 shared2 state ∧
      dhRatchet P theirs draw state =
        .returns (turned P theirs draw root shared1 shared2 state) ()) ∨
    (∃ error, dhRatchet P theirs draw state = .throws (retargeted theirs state) error) ∨
    (∃ root shared1, state.RK = some root ∧
      dhRatchet P theirs draw state =
        .throws (halfTurned P theirs draw root shared1 state) .badPoint) := by
  cases held : state.DHs with
  | none => exact Or.inr (Or.inl ⟨.typeError, by simp [dhRatchet, held, retargeted]⟩)
  | some pair =>
      cases agreed : P.getSharedSecret pair.privateKey theirs with
      | none => exact Or.inr (Or.inl ⟨.badPoint, by simp [dhRatchet, held, agreed, retargeted]⟩)
      | some shared1 =>
          cases rooted : state.RK with
          | none =>
              exact Or.inr (Or.inl
                ⟨.typeError, by simp [dhRatchet, held, agreed, rooted, retargeted]⟩)
          | some root =>
              cases fresh : P.getSharedSecret draw theirs with
              | none =>
                  refine Or.inr (Or.inr ⟨root, shared1, rfl, ?_⟩)
                  simp [dhRatchet, held, agreed, rooted, fresh, halfTurned, retargeted]
              | some shared2 =>
                  have ready : CanTurn P theirs draw root shared1 shared2 state :=
                    ⟨⟨pair, held, agreed⟩, rooted, fresh⟩
                  exact Or.inl ⟨root, shared1, shared2, ready,
                    dhRatchet_eq P theirs draw root shared1 shared2 state ready⟩

-- The remote key is written first, so every exit of the turn leaves it changed.
theorem dhRatchet_remote (theirs draw : Bytes) (state : State Secret) :
    (dhRatchet P theirs draw state).state.DHr = some theirs := by
  rcases dhRatchet_cases P theirs draw state with
    ⟨root, shared1, shared2, _, equal⟩ | ⟨error, equal⟩ | ⟨root, shared1, _, equal⟩ <;>
    rw [equal] <;> rfl

theorem takeChainKey_eq (state : State Secret) (current : Secret)
    (chain : state.CKr = some current) :
    takeChainKey P state = .returns
      { state with CKr := some (kdfCK P current).chainKey, Nr := state.Nr + 1 }
      (kdfCK P current).messageKey := by
  simp only [takeChainKey, chain]

theorem takeChainKey_remote (state : State Secret) :
    (takeChainKey P state).state.DHr = state.DHr := by
  cases chain : state.CKr <;> simp [takeChainKey, chain]

theorem receiveKey_stored (header : MessageHeader) (draw : Bytes) (state : State Secret)
    (messageKey : Secret)
    (found : state.MKSKIPPED.get (skipKey header.dhPublicKey header.messageNumber) =
      some messageKey) :
    receiveKey P header draw state = .returns
      { state with MKSKIPPED :=
          state.MKSKIPPED.delete (skipKey header.dhPublicKey header.messageNumber) }
      messageKey := by
  simp only [receiveKey, found]

theorem receiveKey_missing (header : MessageHeader) (draw : Bytes) (state : State Secret)
    (missing : state.MKSKIPPED.get (skipKey header.dhPublicKey header.messageNumber) = none) :
    receiveKey P header draw state = chainKeyFor P header draw state := by
  simp only [receiveKey, missing]

theorem decrypt_state (header : MessageHeader) (nonceB64 ciphertextB64 : String)
    (associatedData draw : Bytes) (state : State Secret) :
    (decrypt P header nonceB64 ciphertextB64 associatedData draw state).state =
      (receiveKey P header draw state).state := by
  cases selected : (receiveKey P header draw state).result with
  | error error => rw [decrypt, Outcome.andThen_of_error _ selected, Outcome.throws_state]
  | ok messageKey =>
      rw [decrypt, Outcome.andThen_of_ok _ selected]
      cases P.cipherDecrypt messageKey (fromBase64 nonceB64) associatedData
        (fromBase64 ciphertextB64) <;> rfl

section Keeping
variable (holds : State Secret → Prop) (header : MessageHeader) (draw : Bytes)
  (skip : ∀ state, holds state → holds (skipOne P state).state)
  (turn : ∀ state, holds state → holds (dhRatchet P header.dhPublicKey draw state).state)
  (take : ∀ state, holds state → holds (takeChainKey P state).state)
include skip turn take

-- What every single write of a receiving call keeps, the whole call keeps.
theorem chainKeyFor_keeps (state : State Secret) (initially : holds state) :
    holds (chainKeyFor P header draw state).state := by
  have skipped : ∀ bound before, holds before → holds (skipMessageKeys P bound before).state :=
    skipMessageKeys_keeps P holds skip
  have onChain : holds (turnChain P header draw state).state := by
    unfold turnChain
    split
    · exact Outcome.andThen_keeps holds (skipped _ _ initially)
        fun _ _ => turn _ (skipped _ _ initially)
    · exact initially
  refine Outcome.andThen_keeps holds onChain fun _ _ => ?_
  exact Outcome.andThen_keeps holds (skipped _ _ onChain) fun _ _ => take _ (skipped _ _ onChain)

theorem receiveKey_keeps (remove : ∀ state slot, holds state →
      holds { state with MKSKIPPED := state.MKSKIPPED.delete slot })
    (state : State Secret) (initially : holds state) :
    holds (receiveKey P header draw state).state := by
  cases found : state.MKSKIPPED.get (skipKey header.dhPublicKey header.messageNumber) with
  | some stored =>
      rw [receiveKey_stored P header draw state stored found]
      exact remove state _ initially
  | none =>
      rw [receiveKey_missing P header draw state found]
      exact chainKeyFor_keeps P holds header draw skip turn take state initially

end Keeping
end Turning

end Chainmail.DoubleRatchet
