import Chainmail.RatchetAtomicity
import Chainmail.RatchetReplay
import Chainmail.Runs

/-!
How many message keys a session stores. The guard of `skipMessageKeys` bounds
the gap of one call; the store keeps what every earlier call left in it, so its
size is bounded only where each call finds room for the keys it has to add.
-/

namespace Chainmail.DoubleRatchet

variable {Secret : Type} (P : Primitives Secret)

def perform : Action → State Secret → State Secret
  | .send plaintext associatedData nonce, state =>
      (encrypt P plaintext associatedData nonce state).state
  | .receive header nonceB64 ciphertextB64 associatedData draw, state =>
      (decrypt P header nonceB64 ciphertextB64 associatedData draw state).state

def sessionAfter (start : State Secret) (past : List Action) : State Secret :=
  past.foldr (perform P) start

/-- The slots of `count` numbers from `start` on under one remote key. -/
def slotsFrom (remote : Bytes) (start count : Nat) : List SkipKey :=
  (List.range' start count).map fun number => skipKey remote (.ofNat number)

/-- The slots `skipMessageKeys` fills on its way to `bound`. -/
def skipSlots (bound : JsNumber) (state : State Secret) : List SkipKey :=
  match state.CKr, state.DHr with
  | some _, some remote =>
      if Near state.Nr bound then slotsFrom remote state.Nr (JsNumber.turns state.Nr bound) else []
  | _, _ => []

/-- Both agreements a DH ratchet turn makes with `theirs` succeed. -/
def turnCompletes (theirs draw : Bytes) (state : State Secret) : Bool :=
  match state.DHs, state.RK with
  | some ours, some _ =>
      (P.getSharedSecret ours.privateKey theirs).isSome && (P.getSharedSecret draw theirs).isSome
  | _, _ => false

/-- The slots a call fills that does not find its key in the store. -/
def dueSlots (header : MessageHeader) (draw : Bytes) (state : State Secret) : List SkipKey :=
  if ratchetNeeded state header then
    skipSlots header.previousCounter state ++
      if Near state.Nr header.previousCounter ∧ turnCompletes P header.dhPublicKey draw state = true ∧
          Near 0 header.messageNumber then
        slotsFrom header.dhPublicKey 0 (JsNumber.turns 0 header.messageNumber)
      else []
  else skipSlots header.messageNumber state

def unheld (store : OrderedMap SkipKey Secret) (slots : List SkipKey) : Nat :=
  slots.countP fun slot => !store.has slot

/-- The store has room for every key the call adds to it. -/
def RoomFor (state : State Secret) : Action → Prop
  | .send _ _ _ => True
  | .receive header _ _ _ draw =>
      state.MKSKIPPED.get (skipKey header.dhPublicKey header.messageNumber) = none →
        state.MKSKIPPED.size + unheld state.MKSKIPPED (dueSlots P header draw state) ≤ MAX_SKIP

/-- A receiving chain belongs to a remote key. -/
def Attributed (state : State Secret) : Prop := state.CKr ≠ none → state.DHr ≠ none

section Attribution
variable {P}

theorem started_attributed {state : State Secret} (started : Started P state) :
    Attributed state := fun chained => absurd (started_blank started).1 chained

theorem Attributed.known {state : State Secret} {current : Secret} (attributed : Attributed state)
    (chain : state.CKr = some current) : ∃ remote, state.DHr = some remote :=
  Option.ne_none_iff_exists'.mp (attributed (by simp [chain]))

theorem Attributed.skipOne {state : State Secret} (attributed : Attributed state) :
    Attributed (skipOne P state).state := by
  cases chain : state.CKr with
  | none => simpa [DoubleRatchet.skipOne, chain] using attributed
  | some current =>
      obtain ⟨remote, known⟩ := attributed.known chain
      intro _
      rw [skipOne_remote, known]
      exact Option.some_ne_none remote

theorem Attributed.takeChainKey {state : State Secret} (attributed : Attributed state) :
    Attributed (takeChainKey P state).state := by
  cases chain : state.CKr with
  | none => simpa [DoubleRatchet.takeChainKey, chain] using attributed
  | some current =>
      rw [takeChainKey_eq P state current chain]
      exact fun _ => attributed (by simp [chain])

theorem dhRatchet_attributed (theirs draw : Bytes) (state : State Secret) :
    Attributed (dhRatchet P theirs draw state).state := by
  intro _
  rw [dhRatchet_remote]
  exact Option.some_ne_none theirs

theorem Attributed.receiveKey {state : State Secret} (attributed : Attributed state)
    (header : MessageHeader) (draw : Bytes) : Attributed (receiveKey P header draw state).state :=
  receiveKey_keeps P Attributed header draw (fun _ kept => kept.skipOne)
    (fun before _ => dhRatchet_attributed header.dhPublicKey draw before)
    (fun _ kept => kept.takeChainKey) (fun _ _ kept => kept) state attributed

theorem Attributed.perform {state : State Secret} (attributed : Attributed state) (action : Action) :
    Attributed (perform P action state) := by
  cases action with
  | send plaintext associatedData nonce =>
      cases sending : state.CKs with
      | none => simpa [DoubleRatchet.perform, encrypt, sending] using attributed
      | some current =>
          cases held : state.DHs <;>
            simpa [DoubleRatchet.perform, encrypt, sending, held, Attributed] using attributed
  | receive header nonceB64 ciphertextB64 associatedData draw =>
      rw [DoubleRatchet.perform, decrypt_state]
      exact attributed.receiveKey header draw

theorem sessionAfter_attributed {start : State Secret} (attributed : Attributed start)
    (past : List Action) : Attributed (sessionAfter P start past) := by
  induction past with
  | nil => exact attributed
  | cons action earlier ih => exact ih.perform action

end Attribution

section Sizes
variable {P}

theorem unheld_append (store : OrderedMap SkipKey Secret) (one other : List SkipKey) :
    unheld store (one ++ other) = unheld store one + unheld store other :=
  List.countP_append

theorem unheld_congr {before after : OrderedMap SkipKey Secret} {slots : List SkipKey}
    (same : ∀ slot ∈ slots, after.get slot = before.get slot) :
    unheld after slots = unheld before slots := by
  refine List.countP_congr fun slot member => ?_
  rw [OrderedMap.has, OrderedMap.has, same slot member]

theorem mem_slotsFrom {remote : Bytes} {start count : Nat} {slot : SkipKey} :
    slot ∈ slotsFrom remote start count ↔
      ∃ offset < count, slot = skipKey remote (.ofNat (start + offset)) := by
  simp only [slotsFrom, List.mem_map, List.mem_range'_1]
  constructor
  · rintro ⟨number, ⟨from_start, before_end⟩, rfl⟩
    exact ⟨number - start, by omega, by rw [Nat.add_sub_cancel' from_start]⟩
  · rintro ⟨offset, inside, rfl⟩
    exact ⟨start + offset, by omega, rfl⟩

theorem slotsFrom_succ (remote : Bytes) (start count : Nat) :
    slotsFrom remote start (count + 1) =
      skipKey remote (.ofNat start) :: slotsFrom remote (start + 1) count := by
  simp [slotsFrom, List.range'_succ]

-- Each slot of the loop adds one entry unless the store already holds it.
theorem storeSkipped_size (remote : Bytes) (count : Nat) (current : Secret) (start : Nat)
    (store : OrderedMap SkipKey Secret) :
    (storeSkipped P remote count current start store).size =
      store.size + unheld store (slotsFrom remote start count) := by
  induction count generalizing current start store with
  | zero => rfl
  | succ count ih =>
      have later : unheld (store.set (skipKey remote (.ofNat start)) (kdfCK P current).messageKey)
          (slotsFrom remote (start + 1) count) =
          unheld store (slotsFrom remote (start + 1) count) := by
        refine unheld_congr fun slot member => OrderedMap.get_set_of_ne _ _ ?_
        obtain ⟨offset, _, rfl⟩ := mem_slotsFrom.mp member
        intro same
        have equal := (JsNumber.ofNat_inj _ _).mp ((skipKey_inj _ _ _ _).mp same).2
        omega
      rw [storeSkipped, ih, later, slotsFrom_succ, unheld, unheld, List.countP_cons]
      cases held : store.get (skipKey remote (.ofNat start)) with
      | none =>
          rw [OrderedMap.size_set_fresh _ held]
          simp only [OrderedMap.has, held, Option.isSome_none, Bool.not_false, ↓reduceIte]
          omega
      | some stored =>
          rw [OrderedMap.size_set_held _ (by simp [held])]
          simp [OrderedMap.has, held]

theorem skipMessageKeys_size (bound : JsNumber) {state : State Secret}
    (attributed : Attributed state) :
    (skipMessageKeys P bound state).state.MKSKIPPED.size =
      state.MKSKIPPED.size + unheld state.MKSKIPPED (skipSlots bound state) := by
  by_cases near : Near state.Nr bound
  · cases chain : state.CKr with
    | none =>
        rw [skipMessageKeys_unchained P bound state near chain]
        simp [skipSlots, chain, unheld]
    | some current =>
        obtain ⟨remote, known⟩ := attributed.known chain
        rw [skipMessageKeys_eq P bound state current remote near chain known]
        simp only [skipped, Outcome.returns_state, storeSkipped_size, skipSlots, chain, known,
          near, ↓reduceIte]
  · rw [skipMessageKeys_far P bound state near]
    cases chain : state.CKr <;> cases known : state.DHr <;>
      simp [skipSlots, chain, known, near, unheld]

-- What skipping for one remote key leaves alone is every slot of another one.
theorem skipMessageKeys_elsewhere (bound : JsNumber) {state : State Secret}
    (attributed : Attributed state) {slot : SkipKey}
    (elsewhere : ∀ remote number, state.DHr = some remote → slot ≠ skipKey remote number) :
    (skipMessageKeys P bound state).state.MKSKIPPED.get slot = state.MKSKIPPED.get slot := by
  by_cases near : Near state.Nr bound
  · cases chain : state.CKr with
    | none => rw [skipMessageKeys_unchained P bound state near chain, Outcome.returns_state]
    | some current =>
        obtain ⟨remote, known⟩ := attributed.known chain
        rw [skipMessageKeys_eq P bound state current remote near chain known]
        exact get_storeSkipped_other P _ _ _ _ _ _ fun _ _ => elsewhere _ _ known
  · rw [skipMessageKeys_far P bound state near, Outcome.throws_state]

theorem takeChainKey_store (state : State Secret) :
    (takeChainKey P state).state.MKSKIPPED = state.MKSKIPPED := by
  cases chain : state.CKr <;> simp [takeChainKey, chain]

theorem dhRatchet_store (theirs draw : Bytes) (state : State Secret) :
    (dhRatchet P theirs draw state).state.MKSKIPPED = state.MKSKIPPED := by
  rcases dhRatchet_cases P theirs draw state with
    ⟨root, shared1, shared2, _, equal⟩ | ⟨error, equal⟩ | ⟨root, shared1, _, equal⟩ <;>
    rw [equal] <;> rfl

-- The rest of a call once the session is on the header's chain.
theorem chainTail_size (bound : JsNumber) {state : State Secret} (attributed : Attributed state) :
    ((skipMessageKeys P bound state).andThen fun _ state =>
      takeChainKey P state).state.MKSKIPPED.size =
      state.MKSKIPPED.size + unheld state.MKSKIPPED (skipSlots bound state) := by
  rw [← skipMessageKeys_size (P := P) bound attributed]
  refine Outcome.andThen_keeps (fun after : State Secret => after.MKSKIPPED.size =
    (skipMessageKeys P bound state).state.MKSKIPPED.size) rfl fun _ _ => ?_
  rw [takeChainKey_store]

theorem canTurn_iff (theirs draw : Bytes) (state : State Secret) :
    turnCompletes P theirs draw state = true ↔
      ∃ root shared1 shared2, CanTurn P theirs draw root shared1 shared2 state := by
  constructor
  · intro completes
    cases held : state.DHs with
    | none => simp [turnCompletes, held] at completes
    | some ours =>
        cases rooted : state.RK with
        | none => simp [turnCompletes, held, rooted] at completes
        | some root =>
            simp only [turnCompletes, held, rooted, Bool.and_eq_true,
              Option.isSome_iff_exists] at completes
            obtain ⟨⟨shared1, agreed⟩, shared2, fresh⟩ := completes
            exact ⟨root, shared1, shared2, ⟨ours, held, agreed⟩, rooted, fresh⟩
  · rintro ⟨root, shared1, shared2, ⟨ours, held, agreed⟩, rooted, fresh⟩
    simp [turnCompletes, held, rooted, agreed, fresh]

theorem turnCompletes_skip (theirs draw : Bytes) (bound : JsNumber) (state : State Secret) :
    turnCompletes P theirs draw (skipMessageKeys P bound state).state =
      turnCompletes P theirs draw state := by
  obtain ⟨sameDHs, sameRK⟩ := skipMessageKeys_keys P bound state
  rw [turnCompletes, turnCompletes, sameDHs, sameRK]

theorem dhRatchet_stops {theirs draw : Bytes} {state after : State Secret} {error : Thrown}
    (equal : dhRatchet P theirs draw state = .throws after error) :
    turnCompletes P theirs draw state = false := by
  refine Bool.eq_false_iff.mpr fun ready => ?_
  obtain ⟨root, shared1, shared2, able⟩ := (canTurn_iff theirs draw state).mp ready
  rw [dhRatchet_eq P _ _ _ _ _ _ able] at equal
  exact absurd (congrArg Outcome.result equal) (by simp)

/-- The rest of a call once the old chain is closed. -/
theorem turnTail_size (header : MessageHeader) (draw : Bytes) (closed : State Secret) :
    ((dhRatchet P header.dhPublicKey draw closed).andThen fun _ state =>
      (skipMessageKeys P header.messageNumber state).andThen fun _ state =>
        takeChainKey P state).state.MKSKIPPED.size =
      closed.MKSKIPPED.size + unheld closed.MKSKIPPED
        (if turnCompletes P header.dhPublicKey draw closed = true ∧ Near 0 header.messageNumber then
          slotsFrom header.dhPublicKey 0 (JsNumber.turns 0 header.messageNumber)
        else []) := by
  have completes := canTurn_iff (P := P) header.dhPublicKey draw closed
  rcases dhRatchet_cases P header.dhPublicKey draw closed with
    ⟨root, shared1, shared2, able, equal⟩ | ⟨error, equal⟩ | ⟨root, shared1, _, equal⟩
  · have attributed : Attributed (turned P header.dhPublicKey draw root shared1 shared2 closed) :=
      fun _ => Option.some_ne_none _
    have slots : skipSlots header.messageNumber
        (turned P header.dhPublicKey draw root shared1 shared2 closed) =
        if Near 0 header.messageNumber then
          slotsFrom header.dhPublicKey 0 (JsNumber.turns 0 header.messageNumber)
        else [] := rfl
    rw [equal, Outcome.returns_andThen, chainTail_size _ attributed, slots]
    simp only [completes.mpr ⟨root, shared1, shared2, able⟩, true_and]
    rfl
  · simp [dhRatchet_stops equal, equal, retargeted, unheld]
  · simp [dhRatchet_stops equal, equal, halfTurned, retargeted, unheld]

theorem turning_size (header : MessageHeader) (draw : Bytes) {state : State Secret}
    (attributed : Attributed state) (needed : ratchetNeeded state header = true) :
    (chainKeyFor P header draw state).state.MKSKIPPED.size =
      state.MKSKIPPED.size + unheld state.MKSKIPPED (dueSlots P header draw state) := by
  have closing := skipMessageKeys_size (P := P) header.previousCounter attributed
  rw [chainKeyFor_turning P header draw state needed, dueSlots, needed, if_pos rfl, unheld_append,
    ← Nat.add_assoc, ← closing]
  by_cases near : Near state.Nr header.previousCounter
  · have returned : (skipMessageKeys P header.previousCounter state).result = .ok () := by
      refine (skipMessageKeys_ok_iff P _ state).mpr ⟨near, fun chained unknown => ?_⟩
      exact absurd unknown (attributed (Option.isSome_iff_ne_none.mp chained))
    -- The two skips write under different remote keys, so neither fills a slot of the other.
    have apart : ∀ slot ∈ slotsFrom header.dhPublicKey 0 (JsNumber.turns 0 header.messageNumber),
        (skipMessageKeys P header.previousCounter state).state.MKSKIPPED.get slot =
          state.MKSKIPPED.get slot := by
      intro slot member
      obtain ⟨offset, _, rfl⟩ := mem_slotsFrom.mp member
      refine skipMessageKeys_elsewhere _ attributed fun remote number known same => ?_
      have sameKey := ((skipKey_inj _ _ _ _).mp same).1
      exact ratchetNeeded_true needed (sameKey ▸ known)
    rw [Outcome.andThen_of_ok _ returned, turnTail_size, turnCompletes_skip]
    simp only [near, true_and]
    split
    · rw [unheld_congr apart]
    · rfl
  · rw [skipMessageKeys_far P _ state near]
    simp [near, unheld]

theorem receiveKey_size (header : MessageHeader) (draw : Bytes) {state : State Secret}
    (attributed : Attributed state)
    (missing : state.MKSKIPPED.get (skipKey header.dhPublicKey header.messageNumber) = none) :
    (receiveKey P header draw state).state.MKSKIPPED.size =
      state.MKSKIPPED.size + unheld state.MKSKIPPED (dueSlots P header draw state) := by
  rw [receiveKey_missing P header draw state missing]
  cases needed : ratchetNeeded state header with
  | true => exact turning_size header draw attributed needed
  | false =>
      rw [chainKeyFor_settled P header draw state needed, dueSlots, needed]
      exact chainTail_size _ attributed

theorem perform_bounded_iff {state : State Secret} (attributed : Attributed state)
    (bounded : state.MKSKIPPED.size ≤ MAX_SKIP) (action : Action) :
    (perform P action state).MKSKIPPED.size ≤ MAX_SKIP ↔ RoomFor P state action := by
  cases action with
  | send plaintext associatedData nonce =>
      have same : (encrypt P plaintext associatedData nonce state).state.MKSKIPPED =
          state.MKSKIPPED := by
        cases sending : state.CKs <;> cases held : state.DHs <;> simp [encrypt, sending, held]
      simp [perform, same, RoomFor, bounded]
  | receive header nonceB64 ciphertextB64 associatedData draw =>
      rw [perform, decrypt_state, RoomFor]
      cases found : state.MKSKIPPED.get (skipKey header.dhPublicKey header.messageNumber) with
      | some stored =>
          have freed := OrderedMap.size_delete_held found
          rw [receiveKey_stored P header draw state stored found, Outcome.returns_state]
          have smaller : (state.MKSKIPPED.delete
              (skipKey header.dhPublicKey header.messageNumber)).size ≤ MAX_SKIP := by omega
          simpa using smaller
      | none => simp [receiveKey_size header draw attributed found]

/-- In every run the store stays within `MAX_SKIP` exactly when every call
    finds room for what it has to add. -/
theorem skipped_storage_bounded_iff (start : State Secret) (started : Started P start)
    (past : List Action) :
    Always (fun past => (sessionAfter P start past).MKSKIPPED.size ≤ MAX_SKIP) past ↔
      EachInput (fun action earlier => RoomFor P (sessionAfter P start earlier) action) past := by
  have base : (sessionAfter P start []).MKSKIPPED.size ≤ MAX_SKIP := by
    simp [sessionAfter, (started_blank started).2, OrderedMap.size, OrderedMap.empty]
  have unordered : EachInput (fun _ _ => True) past := fun _ _ _ => trivial
  refine always_iff_each unordered base fun action earlier _ bounded => ?_
  exact perform_bounded_iff (sessionAfter_attributed (started_attributed started) earlier)
    bounded action

end Sizes

/-! A responder hears of a hundred missing messages on one chain, and then of
one more. -/

def gapHeader (number : Nat) : MessageHeader := ⟨List.replicate 32 7, .ofNat 0, .ofNat number⟩

def gaps : List Action := [102, 100].map fun number =>
  .receive (gapHeader number) "AAAAAAAAAAAAAAAA" "AAAA" [] (List.replicate 32 6)

theorem two_gaps_overfill : Started framedPrimitives freshResponder ∧
    MAX_SKIP < (sessionAfter framedPrimitives freshResponder gaps).MKSKIPPED.size :=
  ⟨.responder [9] _, by decide +kernel⟩

theorem gaps_bounded_iff :
    Always (fun past =>
      (sessionAfter framedPrimitives freshResponder past).MKSKIPPED.size ≤ MAX_SKIP) gaps ↔
    EachInput (fun action earlier => RoomFor framedPrimitives
      (sessionAfter framedPrimitives freshResponder earlier) action) gaps :=
  skipped_storage_bounded_iff freshResponder (.responder [9] _) gaps

end Chainmail.DoubleRatchet
