import Chainmail.RatchetEpochs

/-!
One `decrypt` call of a session that follows the schedule, for a message of the
other party: the key it selects is the key the message was sealed with, and the
session follows the schedule afterwards, one turn further if the message opened
a new chain.
-/

namespace Chainmail.DoubleRatchet

variable {Secret : Type} {P : Primitives Secret} {epochs later : Epochs Secret}
  {top : Nat} {generated : List Bytes}

/-- `later` continues `epochs`: the first `top` pairs and what they fix stay. -/
structure Extends (top : Nat) (epochs later : Epochs Secret) : Prop where
  pair : ∀ i ≤ top, later.pair i = epochs.pair i
  root : ∀ i ≤ top, later.root i = epochs.root i
  chain : ∀ i ≤ top, later.chain i = epochs.chain i
  prior : ∀ i ≤ top, later.prior i = epochs.prior i
  sent : ∀ i, epochs.sent i ≤ later.sent i

namespace Extends

theorem refl : Extends top epochs epochs :=
  ⟨fun _ _ => rfl, fun _ _ => rfl, fun _ _ => rfl, fun _ _ => rfl, fun _ => Nat.le_refl _⟩

theorem slot (extended : Extends top epochs later) {epoch : Nat} (inside : epoch ≤ top)
    (number : Nat) : later.slot epoch number = epochs.slot epoch number := by
  rw [Epochs.slot, Epochs.slot, extended.pair epoch inside]

theorem header (extended : Extends top epochs later) {epoch : Nat} (inside : epoch ≤ top)
    (number : Nat) : later.header epoch number = epochs.header epoch number := by
  rw [Epochs.header, Epochs.header, extended.pair epoch inside, extended.prior epoch inside]

theorem key (extended : Extends top epochs later) {epoch : Nat} (inside : epoch ≤ top)
    (number : Nat) : later.key P epoch number = epochs.key P epoch number := by
  rw [Epochs.key, Epochs.key, extended.chain epoch inside]

theorem covers (extended : Extends top epochs later) {epoch number : Nat}
    {store : OrderedMap SkipKey Secret} (inside : epoch ≤ top)
    (covered : Covers P epochs store epoch number) : Covers P later store epoch number := by
  rw [Covers, extended.slot inside, extended.key inside]
  exact covered

theorem stored (extended : Extends top epochs later) {level : Nat}
    {store : OrderedMap SkipKey Secret} (inside : level ≤ top)
    (stored : Stored P epochs level store) : Stored P later level store := by
  intro slot found held
  obtain ⟨epoch, below, number, place, value⟩ := stored slot found held
  refine ⟨epoch, below, number, ?_, ?_⟩
  · rw [place, extended.slot (by omega)]
  · rw [value, extended.key (by omega)]

theorem awaits (extended : Extends top epochs later) {level epoch number : Nat}
    {state : State Secret} (inside : epoch ≤ top)
    (awaits : Awaits P epochs level state epoch number) :
    Awaits P later level state epoch number :=
  fun below early => extended.covers inside (awaits below early)

/-- A session that neither sent nor turned still follows the longer schedule. -/
theorem follows (extended : Extends top epochs later) {level : Nat} {state : State Secret}
    (inside : level ≤ top) (quiet : later.sent level = epochs.sent level)
    (follows : Follows P epochs level state) : Follows P later level state where
  pair := by rw [extended.pair level inside]; exact follows.pair
  remote := by
    rw [follows.remote]
    cases level with
    | zero => rfl
    | succ level => rw [remoteAt, remoteAt, extended.pair level (by omega)]
  root := by rw [extended.root level inside]; exact follows.root
  sending := by
    rw [follows.sending]
    cases level with
    | zero => rfl
    | succ level => rw [sendingAt, sendingAt, extended.chain _ inside, quiet]
  receiving := by
    rw [follows.receiving]
    rcases level with _ | _ | level
    · rfl
    · rfl
    · rw [receivingAt, receivingAt, extended.chain (level + 1) (by omega)]
  counted := by rw [quiet]; exact follows.counted
  earlier := by rw [extended.prior level inside]; exact follows.earlier
  received := follows.received.trans (extended.sent _)
  stored := extended.stored inside follows.stored

end Extends

section Receiving

/-- The rest of a receiving call once the session is on the message's chain. -/
theorem take_on_chain (wired : Wired P epochs top generated) {epoch number : Nat}
    {state : State Secret} (follows : Follows P epochs (epoch + 1) state) (started : 0 < epoch)
    (inside : epoch ≤ top) (ahead : state.Nr ≤ number) (sent : number < epochs.sent epoch)
    (near : Near state.Nr (.ofNat number)) :
    ∃ after, (skipMessageKeys P (.ofNat number) state).andThen
        (fun _ state => takeChainKey P state) = .returns after (epochs.key P epoch number) ∧
      Follows P epochs (epoch + 1) after ∧
      ∀ j m, j ≤ top → epochs.slot j m ≠ epochs.slot epoch number →
        Awaits P epochs (epoch + 1) state j m → Awaits P epochs (epoch + 1) after j m := by
  obtain ⟨epoch, rfl⟩ : ∃ before, epoch = before + 1 := ⟨epoch - 1, by omega⟩
  have chain := follows.receiving
  rw [receivingAt] at chain
  have remote := follows.remote
  rw [remoteAt] at remote
  have turns : JsNumber.turns state.Nr (.ofNat number) = number - state.Nr :=
    JsNumber.turns_ofNat _ _
  have reached : advance P (number - state.Nr) (advance P state.Nr (epochs.chain (epoch + 1))) =
      advance P number (epochs.chain (epoch + 1)) := by
    rw [advance_add, Nat.sub_add_cancel ahead]
  have counted : state.Nr + (number - state.Nr) = number := by omega
  rw [skipMessageKeys_eq P _ state _ _ near chain remote, Outcome.returns_andThen,
    takeChainKey_eq P _ _ rfl]
  simp only [skipped, turns, reached, counted, ← advance_succ]
  refine ⟨_, rfl, ?_, ?_⟩
  · exact {
      pair := follows.pair
      remote := follows.remote
      root := follows.root
      sending := follows.sending
      receiving := rfl
      counted := follows.counted
      earlier := follows.earlier
      received := sent
      stored := follows.stored.skip state.Nr _ (by omega) }
  -- A message still awaited was stored before, or is stored now as one that is skipped.
  · intro j m jTop apart awaits below early
    by_cases current : j = epoch + 1
    · subst current
      have bounded : m < number + 1 := early rfl
      have different : m ≠ number := fun same => apart (by rw [same])
      by_cases old : m < state.Nr
      · exact (awaits below fun _ => old).skip _ _ wired inside jTop
      · exact covers_skipped _ _ _ (by omega) (by omega)
    · exact (awaits below fun same => absurd same (by omega)).skip _ _ wired inside jTop

theorem receive_same_chain (wired : Wired P epochs top generated) {epoch number : Nat}
    {state : State Secret} (draw : Bytes) (follows : Follows P epochs (epoch + 1) state)
    (started : 0 < epoch) (inside : epoch ≤ top) (ahead : state.Nr ≤ number)
    (sent : number < epochs.sent epoch) (near : Near state.Nr (.ofNat number)) :
    ∃ after, chainKeyFor P (epochs.header epoch number) draw state =
        .returns after (epochs.key P epoch number) ∧
      Follows P epochs (epoch + 1) after ∧
      ∀ j m, j ≤ top → epochs.slot j m ≠ epochs.slot epoch number →
        Awaits P epochs (epoch + 1) state j m → Awaits P epochs (epoch + 1) after j m := by
  have known : ratchetNeeded state (epochs.header epoch number) = false := by
    simp [ratchetNeeded, follows.remote, remoteAt, Epochs.header]
  have turned : turnChain P (epochs.header epoch number) draw state = .returns state () := by
    simp [turnChain, known]
  rw [chainKeyFor, turned, Outcome.returns_andThen]
  exact take_on_chain wired follows started inside ahead sent near

/-- Closing the old chain stores every key of it that is still to come. -/
theorem skip_prior (wired : Wired P epochs top generated) {level : Nat} {state : State Secret}
    (follows : Follows P epochs level state) (inside : level ≤ top)
    (near : Near state.Nr (.ofNat (epochs.prior (level + 1)))) :
    ∃ closed, skipMessageKeys P (.ofNat (epochs.prior (level + 1))) state = .returns closed () ∧
      closed.DHs = state.DHs ∧ closed.RK = state.RK ∧ closed.Ns = state.Ns ∧
      Stored P epochs level closed.MKSKIPPED ∧
      ∀ j m, j < level → m < epochs.sent j → (j + level) % 2 = 1 →
        Awaits P epochs level state j m → Covers P epochs closed.MKSKIPPED j m := by
  have chain := follows.receiving
  have remote := follows.remote
  have received := follows.received
  -- A session that has received nothing yet has no chain to close.
  rcases level with _ | _ | level
  · exact ⟨state, skipMessageKeys_unchained P _ state near chain, rfl, rfl, rfl, follows.stored,
      fun j m below => absurd below (by omega)⟩
  · refine ⟨state, skipMessageKeys_unchained P _ state near chain, rfl, rfl, rfl, follows.stored, ?_⟩
    intro j m below sent
    obtain rfl : j = 0 := by omega
    simp [wired.silent] at sent
  · rw [receivingAt] at chain
    rw [remoteAt] at remote
    have ends : state.Nr + (epochs.sent (level + 1) - state.Nr) = epochs.sent (level + 1) :=
      Nat.add_sub_cancel' received
    refine ⟨_, skipMessageKeys_eq P _ state _ _ near chain remote, rfl, rfl, rfl, ?_, ?_⟩
    · exact follows.stored.skip state.Nr _ (by omega)
    · intro j m below sent parity awaits
      simp only [Epochs.prior, skipped, JsNumber.turns_ofNat]
      by_cases current : j = level + 1
      · subst current
        by_cases old : m < state.Nr
        · exact (awaits below fun _ => old).skip _ _ wired (by omega) (by omega)
        · exact covers_skipped _ _ _ (by omega) (by omega)
      · exact (awaits below fun same => absurd same (by omega)).skip _ _ wired
          (by omega) (by omega)

/-- The schedule with one more pair, generated by the reader of chain `top`. -/
def grow (P : Primitives Secret) (epochs : Epochs Secret) (top : Nat) (draw : Bytes)
    (shared : Secret) : Epochs Secret :=
  { epochs with
    pair := Function.update epochs.pair (top + 1) (generateKeyPair P draw)
    root := Function.update epochs.root (top + 1) (kdfRK P (epochs.root top) shared).rootKey
    chain := Function.update epochs.chain (top + 1) (kdfRK P (epochs.root top) shared).chainKey }

theorem grow_extends (P : Primitives Secret) (epochs : Epochs Secret) (top : Nat) (draw : Bytes)
    (shared : Secret) : Extends top epochs (grow P epochs top draw shared) where
  pair i inside := Function.update_of_ne (by omega) _ _
  root i inside := Function.update_of_ne (by omega) _ _
  chain i inside := Function.update_of_ne (by omega) _ _
  prior i _ := by rcases i with _ | _ | i <;> rfl
  sent _ := Nat.le_refl _

theorem grow_wired (wired : Wired P epochs top generated) {draw : Bytes} {shared : Secret}
    (sized : draw.length = 32) (fresh : P.getPublicKey draw ∉ generated)
    (agreed : P.getSharedSecret (epochs.pair top).privateKey (P.getPublicKey draw) = some shared) :
    Wired P (grow P epochs top draw shared) (top + 1) (P.getPublicKey draw :: generated) := by
  have kept := grow_extends P epochs top draw shared
  have new : (grow P epochs top draw shared).pair (top + 1) = generateKeyPair P draw :=
    Function.update_self _ _ _
  -- Every fact about pair `i` is old, or `i` is the new pair.
  have each : ∀ i ≤ top + 1, i ≤ top ∨ i = top + 1 := fun i inside => by omega
  have away : ∀ i ≤ top, (epochs.pair i).publicKey ≠ P.getPublicKey draw :=
    fun i inside same => fresh (same ▸ wired.recorded i inside)
  constructor
  case sized =>
    intro i inside
    rcases each i inside with old | rfl
    · rw [kept.pair i old]
      exact wired.sized i old
    · rw [new]
      exact sized
  case published =>
    intro i inside
    rcases each i inside with old | rfl
    · rw [kept.pair i old]
      exact wired.published i old
    · rw [new]
      rfl
  case distinct =>
    intro i iInside j jInside same
    rcases each i iInside with iOld | rfl <;> rcases each j jInside with jOld | rfl
    · rw [kept.pair i iOld, kept.pair j jOld] at same
      exact wired.distinct i iOld j jOld same
    · rw [kept.pair i iOld, new] at same
      exact absurd same (away i iOld)
    · rw [kept.pair j jOld, new] at same
      exact absurd same.symm (away j jOld)
    · rfl
  case recorded =>
    intro i inside
    rcases each i inside with old | rfl
    · rw [kept.pair i old]
      exact List.mem_cons_of_mem _ (wired.recorded i old)
    · rw [new]
      exact List.mem_cons_self
  case agreed =>
    intro i below
    rcases Nat.lt_succ_iff_lt_or_eq.mp below with old | rfl
    · rw [kept.pair i (by omega), kept.pair (i + 1) (by omega), kept.root i (by omega),
        kept.root (i + 1) (by omega), kept.chain (i + 1) (by omega)]
      exact wired.agreed i old
    · refine ⟨shared, ?_, ?_, ?_⟩
      · rw [kept.pair i (Nat.le_refl _), new]
        exact agreed
      · rw [kept.root i (Nat.le_refl _)]
        exact Function.update_self _ _ _
      · rw [kept.root i (Nat.le_refl _)]
        exact Function.update_self _ _ _
  case unsent => exact fun i above => wired.unsent i (by omega)
  case silent => exact wired.silent

/-- What a receiving call of a message `number` on chain `epoch` achieves. -/
structure Advanced (P : Primitives Secret) (epochs later : Epochs Secret) (top level : Nat)
    (generated : List Bytes) (after : State Secret) (levelAfter : Nat) : Prop where
  extended : Extends top epochs later
  silent : later.sent = epochs.sent
  wired : Wired P later (max top levelAfter) generated
  follows : Follows P later levelAfter after
  moved : levelAfter = level ∨ levelAfter = level + 2 ∧ top = level + 1

/-- The other messages to the same reader are still found where they were. -/
def KeepsOthers (P : Primitives Secret) (epochs later : Epochs Secret) (top level : Nat)
    (before after : State Secret) (levelAfter : Nat) (slot : SkipKey) : Prop :=
  ∀ j m, j ≤ top → m < epochs.sent j → (j + level) % 2 = 1 → epochs.slot j m ≠ slot →
    Awaits P epochs level before j m → Awaits P later levelAfter after j m

theorem header_new_chain {level : Nat} {state : State Secret}
    (wired : Wired P epochs (level + 1) generated) (follows : Follows P epochs level state)
    (number : Nat) : ratchetNeeded state (epochs.header (level + 1) number) = true := by
  rw [ratchetNeeded, follows.remote]
  cases level with
  | zero => rfl
  | succ level =>
      have apart : (epochs.pair (level + 1 + 1)).publicKey ≠ (epochs.pair level).publicKey :=
        fun same => absurd (wired.distinct _ (Nat.le_refl _) level (by omega) same) (by omega)
      exact decide_eq_true apart

theorem receive_new_chain (commutes : X25519Commutes P) {level number : Nat}
    {state : State Secret} {draw : Bytes} (wired : Wired P epochs (level + 1) generated)
    (follows : Follows P epochs level state) (sent : number < epochs.sent (level + 1))
    (nearPrior : Near state.Nr (.ofNat (epochs.prior (level + 1))))
    (near : Near 0 (.ofNat number)) (sized : draw.length = 32)
    (fresh : P.getPublicKey draw ∉ generated) :
    ∃ later after, chainKeyFor P (epochs.header (level + 1) number) draw state =
        .returns after (epochs.key P (level + 1) number) ∧
      Advanced P epochs later (level + 1) level (P.getPublicKey draw :: generated)
        after (level + 2) ∧
      KeepsOthers P epochs later (level + 1) level state after (level + 2)
        (epochs.slot (level + 1) number) := by
  obtain ⟨closed, closing, pair, root, counted, stored, covered⟩ :=
    skip_prior wired follows (Nat.le_succ level) nearPrior
  obtain ⟨shared1, agreed1, nextRoot, nextChain⟩ := wired.agreed level (Nat.lt_succ_self level)
  obtain ⟨shared2, agreed2, agreedBack⟩ := commutes draw (epochs.pair (level + 1)).privateKey
    sized (wired.sized _ (Nat.le_refl _))
  rw [← wired.published _ (Nat.le_refl _)] at agreed2
  have needed := header_new_chain wired follows number
  have ready : CanTurn P (epochs.pair (level + 1)).publicKey draw (epochs.root level)
      shared1 shared2 closed :=
    ⟨⟨epochs.pair level, pair.trans follows.pair, agreed1⟩, root.trans follows.root, agreed2⟩
  have turning : turnChain P (epochs.header (level + 1) number) draw state = .returns
      (turned P (epochs.pair (level + 1)).publicKey draw (epochs.root level) shared1 shared2
        closed) () := by
    rw [turnChain, needed]
    simp only [↓reduceIte, Epochs.header, closing, Outcome.returns_andThen]
    exact dhRatchet_eq P _ _ _ _ _ _ ready
  have extended := grow_extends P epochs (level + 1) draw shared2
  have wiredLater : Wired P (grow P epochs (level + 1) draw shared2) (level + 1 + 1)
      (P.getPublicKey draw :: generated) := grow_wired wired sized fresh agreedBack
  -- The reader's root and chains after the turn are the schedule's at `level + 2`.
  have followsLater : Follows P (grow P epochs (level + 1) draw shared2) (level + 1 + 1)
      (turned P (epochs.pair (level + 1)).publicKey draw (epochs.root level) shared1 shared2
        closed) := {
    pair := by simp [turned, grow]
    remote := by rw [remoteAt, extended.pair _ (Nat.le_refl _)]; rfl
    root := by simp [turned, grow, nextRoot]
    sending := by
      have unsent : epochs.sent (level + 1 + 1) = 0 := wired.unsent _ (Nat.lt_succ_self _)
      simp [turned, grow, sendingAt, unsent, nextRoot]
    receiving := by
      rw [receivingAt, extended.chain _ (Nat.le_refl _), nextChain]
      rfl
    counted := (wired.unsent _ (Nat.lt_succ_self _)).symm
    earlier := counted.trans follows.counted
    received := Nat.zero_le _
    stored := (extended.stored (Nat.le_succ level) stored).mono (by omega) }
  obtain ⟨after, taking, followsAfter, others⟩ := take_on_chain wiredLater followsLater
    (Nat.succ_pos level) (Nat.le_succ _) (Nat.zero_le _) sent near
  refine ⟨_, after, ?_, ⟨extended, rfl, ?_, followsAfter, Or.inr ⟨rfl, rfl⟩⟩, ?_⟩
  · rw [chainKeyFor, turning, Outcome.returns_andThen]
    rw [extended.key (Nat.le_refl _)] at taking
    exact taking
  · rwa [Nat.max_eq_right (by omega)]
  · intro j m inside sentBefore parity apart awaits
    refine others j m (by omega) ?_ ?_
    · rw [extended.slot inside, extended.slot (Nat.le_refl _)]
      exact apart
    · intro below early
      by_cases current : j = level + 1
      · exact absurd (early (by omega)) (Nat.not_lt_zero m)
      · exact extended.covers inside (covered j m (by omega) sentBefore parity awaits)

/-- The call draws a new key pair. -/
def Ratchets (header : MessageHeader) (state : State Secret) : Bool :=
  (state.MKSKIPPED.get (skipKey header.dhPublicKey header.messageNumber)).isNone &&
    ratchetNeeded state header

/-- Both calls of `skipMessageKeys`, where they are made, pass their guard. -/
def InWindow (header : MessageHeader) (state : State Secret) : Prop :=
  state.MKSKIPPED.get (skipKey header.dhPublicKey header.messageNumber) = none →
    if ratchetNeeded state header then
      Near state.Nr header.previousCounter ∧ Near 0 header.messageNumber
    else Near state.Nr header.messageNumber

theorem InWindow.of_stored {header : MessageHeader} {state : State Secret}
    (stored : (state.MKSKIPPED.get
      (skipKey header.dhPublicKey header.messageNumber)).isSome = true) : InWindow header state := by
  intro missing
  simp [missing] at stored

def recordDraw (P : Primitives Secret) (header : MessageHeader) (state : State Secret)
    (draw : Bytes) (generated : List Bytes) : List Bytes :=
  if Ratchets header state then P.getPublicKey draw :: generated else generated

theorem receive_stored (wired : Wired P epochs top generated) {level epoch number : Nat}
    {state : State Secret} {stored : Secret} (draw : Bytes) (follows : Follows P epochs level state)
    (levelTop : level ≤ top) (inside : epoch ≤ top)
    (found : state.MKSKIPPED.get (epochs.slot epoch number) = some stored) :
    ∃ after, receiveKey P (epochs.header epoch number) draw state =
        .returns after (epochs.key P epoch number) ∧
      Follows P epochs level after ∧
      ∀ j m, epochs.slot j m ≠ epochs.slot epoch number →
        Awaits P epochs level state j m → Awaits P epochs level after j m := by
  obtain ⟨again, below, index, place, value⟩ := follows.stored _ _ found
  obtain ⟨rfl, rfl⟩ := slot_inj wired inside (by omega) place
  refine ⟨{ state with MKSKIPPED := state.MKSKIPPED.delete (epochs.slot epoch number) }, ?_, ?_, ?_⟩
  · rw [← value]
    exact receiveKey_stored P _ draw state stored found
  · exact { follows with stored := follows.stored.delete _ }
  · exact fun j m apart awaits older early => (awaits older early).delete apart

/-- One receiving call, whichever way the key is found. -/
theorem receiveKey_advances (commutes : X25519Commutes P) (wired : Wired P epochs top generated)
    {level epoch number : Nat} {state : State Secret} {draw : Bytes}
    (follows : Follows P epochs level state) (levelTop : level ≤ top) (topNext : top ≤ level + 1)
    (inside : epoch ≤ top) (sent : number < epochs.sent epoch) (parity : (epoch + level) % 2 = 1)
    (awaits : Awaits P epochs level state epoch number)
    (window : InWindow (epochs.header epoch number) state)
    (drawn : Ratchets (epochs.header epoch number) state = true →
      draw.length = 32 ∧ P.getPublicKey draw ∉ generated) :
    ∃ later after levelAfter, receiveKey P (epochs.header epoch number) draw state =
        .returns after (epochs.key P epoch number) ∧
      Advanced P epochs later top level
        (recordDraw P (epochs.header epoch number) state draw generated) after levelAfter ∧
      KeepsOthers P epochs later top level state after levelAfter (epochs.slot epoch number) := by
  cases found : state.MKSKIPPED.get (epochs.slot epoch number) with
  | some stored =>
      have quiet : recordDraw P (epochs.header epoch number) state draw generated = generated := by
        have held : Ratchets (epochs.header epoch number) state = false := by
          rw [Ratchets, Epochs.header]
          rw [Epochs.slot] at found
          simp [found]
        simp [recordDraw, held]
      obtain ⟨after, returned, followsAfter, others⟩ :=
        receive_stored wired draw follows levelTop inside found
      rw [quiet]
      refine ⟨epochs, after, level, returned, ⟨Extends.refl, rfl, ?_, followsAfter, Or.inl rfl⟩, ?_⟩
      · rwa [Nat.max_eq_left levelTop]
      · exact fun j m _ _ _ apart => others j m apart
  | none =>
      have missing := receiveKey_missing P (epochs.header epoch number) draw state found
      have near := window found
      by_cases current : epoch + 1 = level
      · subst current
        -- Of its current chain the reader has not passed this number yet.
        have ahead : state.Nr ≤ number := by
          by_contra passed
          have covered := awaits (Nat.lt_succ_self epoch) fun _ => by omega
          exact absurd (found.symm.trans covered) (by simp)
        have started : 0 < epoch := by
          rcases Nat.eq_zero_or_pos epoch with rfl | positive
          · simp [wired.silent] at sent
          · exact positive
        have known : ratchetNeeded state (epochs.header epoch number) = false := by
          simp [ratchetNeeded, follows.remote, remoteAt, Epochs.header]
        have quiet : recordDraw P (epochs.header epoch number) state draw generated =
            generated := by
          simp [recordDraw, Ratchets, known]
        rw [known] at near
        obtain ⟨after, returned, followsAfter, others⟩ :=
          receive_same_chain wired draw follows started inside ahead sent near
        rw [quiet, missing]
        refine ⟨epochs, after, epoch + 1, returned,
          ⟨Extends.refl, rfl, ?_, followsAfter, Or.inl rfl⟩, ?_⟩
        · rwa [Nat.max_eq_left levelTop]
        · exact fun j m jTop _ _ apart => others j m jTop apart
      · have opening : epoch = level + 1 := by
          by_contra older
          have covered := awaits (by omega) fun same => absurd same current
          exact absurd (found.symm.trans covered) (by simp)
        subst opening
        obtain rfl : top = level + 1 := by omega
        have needed := header_new_chain wired follows number
        rw [needed] at near
        have drew : Ratchets (epochs.header (level + 1) number) state = true := by
          rw [Ratchets, needed, Bool.and_true]
          exact Option.isNone_iff_eq_none.mpr found
        obtain ⟨sized, fresh⟩ := drawn drew
        obtain ⟨later, after, returned, advanced, others⟩ :=
          receive_new_chain commutes wired follows sent near.1 near.2 sized fresh
        rw [recordDraw, drew, missing]
        exact ⟨later, after, level + 2, returned, advanced, others⟩

end Receiving
end Chainmail.DoubleRatchet
