import Chainmail.RatchetAssumptions

/-!
Which failing calls of `decrypt` leave the session as it was. The state is
written before the cipher checks the tag, so only the calls refused before
their first write do.
-/

namespace Chainmail.DoubleRatchet

variable {Secret : Type} (P : Primitives Secret)

/-- The loop of `skipMessageKeys` does not stumble over a missing remote key. -/
def SkipRuns (state : State Secret) (bound : JsNumber) : Prop :=
  Near state.Nr bound ∧
    (state.CKr.isSome → state.DHr = none → (JsNumber.ofNat state.Nr).lt bound = false)

instance (state : State Secret) (bound : JsNumber) : Decidable (SkipRuns state bound) :=
  inferInstanceAs (Decidable (_ ∧ _))

/-- The message key that `header` names in `state`, as one expression. -/
def selectedKey (header : MessageHeader) (draw : Bytes) (state : State Secret) : Option Secret :=
  match state.MKSKIPPED.get (skipKey header.dhPublicKey header.messageNumber) with
  | some messageKey => some messageKey
  | none =>
      if ratchetNeeded state header then
        if SkipRuns state header.previousCounter ∧ Near 0 header.messageNumber then do
          let ours ← state.DHs
          let shared ← P.getSharedSecret ours.privateKey header.dhPublicKey
          let root ← state.RK
          let _ ← P.getSharedSecret draw header.dhPublicKey
          some (messageKeyAt P (kdfRK P root shared).chainKey
            (JsNumber.turns 0 header.messageNumber))
        else none
      else if Near state.Nr header.messageNumber then do
        let current ← state.CKr
        some (messageKeyAt P current (JsNumber.turns state.Nr header.messageNumber))
      else none

/-- The AEAD opens the message under the key its header names. -/
def Opens (header : MessageHeader) (nonceB64 ciphertextB64 : String)
    (associatedData draw : Bytes) (state : State Secret) : Prop :=
  ∃ messageKey, selectedKey P header draw state = some messageKey ∧
    (P.cipherDecrypt messageKey (fromBase64 nonceB64) associatedData
      (fromBase64 ciphertextB64)).isSome

/-- The first turn of the loop advances the chain to itself and then throws. It
    takes a receiving chain without a remote key, which no operation produces. -/
def StallsInPlace (state : State Secret) (bound : JsNumber) : Prop :=
  state.DHr = none ∧ (JsNumber.ofNat state.Nr).lt bound = true ∧
    ∃ current, state.CKr = some current ∧ (kdfCK P current).chainKey = current

/-- The call is refused before it writes anything. -/
def RefusedUnwritten (header : MessageHeader) (state : State Secret) : Prop :=
  state.MKSKIPPED.get (skipKey header.dhPublicKey header.messageNumber) = none ∧
    if ratchetNeeded state header then
      ¬ Near state.Nr header.previousCounter ∨ StallsInPlace P state header.previousCounter
    else
      ¬ Near state.Nr header.messageNumber ∨ state.CKr = none

theorem ratchetNeeded_false {state : State Secret} {header : MessageHeader}
    (settled : ratchetNeeded state header = false) : state.DHr = some header.dhPublicKey := by
  cases known : state.DHr with
  | none => simp [ratchetNeeded, known] at settled
  | some remote =>
      have same : header.dhPublicKey = remote := by simpa [ratchetNeeded, known] using settled
      rw [same]

theorem ratchetNeeded_true {state : State Secret} {header : MessageHeader}
    (needed : ratchetNeeded state header = true) : state.DHr ≠ some header.dhPublicKey := by
  intro known
  simp [ratchetNeeded, known] at needed

theorem skipLoop_stalls (bound : JsNumber) (fuel : Nat) (state : State Secret) (current : Secret)
    (chain : state.CKr = some current) (unknown : state.DHr = none)
    (below : (JsNumber.ofNat state.Nr).lt bound = true) :
    skipLoop P bound (fuel + 1) state =
      .throws { state with CKr := some (kdfCK P current).chainKey } .typeError := by
  simp only [skipLoop, below, ↓reduceIte, skipOne, chain, unknown, Outcome.throws_andThen]

theorem skipMessageKeys_stalls (bound : JsNumber) (state : State Secret) (current : Secret)
    (near : Near state.Nr bound) (chain : state.CKr = some current) (unknown : state.DHr = none)
    (below : (JsNumber.ofNat state.Nr).lt bound = true) :
    skipMessageKeys P bound state =
      .throws { state with CKr := some (kdfCK P current).chainKey } .typeError := by
  rw [Near] at near
  rw [skipMessageKeys, near]
  simp only [Bool.false_eq_true, ↓reduceIte, chain, Option.isSome_some]
  exact skipLoop_stalls P bound 99 state current chain unknown below

-- The remaining way for the call to return without a remote key: no turn is due.
theorem skipMessageKeys_idle (bound : JsNumber) (state : State Secret)
    (near : Near state.Nr bound) (idle : (JsNumber.ofNat state.Nr).lt bound = false) :
    skipMessageKeys P bound state = .returns state () := by
  have loop : skipLoop P bound (99 + 1) state = .returns state () := by
    simp only [skipLoop, idle, Bool.false_eq_true, ↓reduceIte]
  rw [Near] at near
  rw [skipMessageKeys, near]
  simp only [Bool.false_eq_true, ↓reduceIte]
  split
  · exact loop
  · rfl

theorem skipMessageKeys_ok_iff (bound : JsNumber) (state : State Secret) :
    (skipMessageKeys P bound state).result = .ok () ↔ SkipRuns state bound := by
  by_cases near : Near state.Nr bound
  · cases chain : state.CKr with
    | none => simp [skipMessageKeys_unchained P bound state near chain, SkipRuns, near, chain]
    | some current =>
        cases known : state.DHr with
        | some remote =>
            simp [skipMessageKeys_eq P bound state current remote near chain known,
              SkipRuns, near, known]
        | none =>
            cases below : (JsNumber.ofNat state.Nr).lt bound with
            | true =>
                simp [skipMessageKeys_stalls P bound state current near chain known below,
                  SkipRuns, chain, known, below]
            | false =>
                simp [skipMessageKeys_idle P bound state near below, SkipRuns, near, below]
  · simp [skipMessageKeys_far P bound state near, SkipRuns, near]

theorem skipOne_keys (state : State Secret) :
    (skipOne P state).state.DHs = state.DHs ∧ (skipOne P state).state.RK = state.RK := by
  cases chain : state.CKr <;> cases known : state.DHr <;> simp [skipOne, chain, known]

theorem skipMessageKeys_keys (bound : JsNumber) (state : State Secret) :
    (skipMessageKeys P bound state).state.DHs = state.DHs ∧
      (skipMessageKeys P bound state).state.RK = state.RK :=
  skipMessageKeys_keeps P (fun after => after.DHs = state.DHs ∧ after.RK = state.RK)
    (fun after same => ⟨(skipOne_keys P after).1.trans same.1, (skipOne_keys P after).2.trans same.2⟩)
    bound state ⟨rfl, rfl⟩

-- From a chain that is in place, the key is the one at the header's number.
theorem chainTail_result (bound : JsNumber) (state : State Secret) (current : Secret)
    (remote : Bytes) (chain : state.CKr = some current) (known : state.DHr = some remote) :
    ((skipMessageKeys P bound state).andThen fun _ state => takeChainKey P state).result =
      if Near state.Nr bound then
        .ok (messageKeyAt P current (JsNumber.turns state.Nr bound))
      else .error (.error "Too many skipped messages") := by
  by_cases near : Near state.Nr bound
  · rw [skipMessageKeys_eq P bound state current remote near chain known,
      Outcome.returns_andThen, takeChainKey_eq P _ _ rfl]
    simp [near, messageKeyAt]
  · simp [skipMessageKeys_far P bound state near, near]

theorem chainKeyFor_settled (header : MessageHeader) (draw : Bytes) (state : State Secret)
    (settled : ratchetNeeded state header = false) :
    chainKeyFor P header draw state =
      (skipMessageKeys P header.messageNumber state).andThen fun _ state => takeChainKey P state := by
  simp [chainKeyFor, turnChain, settled]

theorem chainKeyFor_turning (header : MessageHeader) (draw : Bytes) (state : State Secret)
    (needed : ratchetNeeded state header = true) :
    chainKeyFor P header draw state =
      ((skipMessageKeys P header.previousCounter state).andThen fun _ state =>
        dhRatchet P header.dhPublicKey draw state).andThen fun _ state =>
      (skipMessageKeys P header.messageNumber state).andThen fun _ state =>
        takeChainKey P state := by
  simp [chainKeyFor, turnChain, needed]

theorem settled_key_iff (header : MessageHeader) (draw : Bytes) (state : State Secret)
    (messageKey : Secret) (settled : ratchetNeeded state header = false) :
    (chainKeyFor P header draw state).result = .ok messageKey ↔
      Near state.Nr header.messageNumber ∧ ∃ current, state.CKr = some current ∧
        messageKeyAt P current (JsNumber.turns state.Nr header.messageNumber) = messageKey := by
  have known := ratchetNeeded_false settled
  rw [chainKeyFor_settled P header draw state settled]
  cases chain : state.CKr with
  | some current =>
      rw [chainTail_result P _ state current _ chain known]
      by_cases near : Near state.Nr header.messageNumber <;> simp [near]
  | none =>
      by_cases near : Near state.Nr header.messageNumber
      · simp [skipMessageKeys_unchained P _ state near chain, takeChainKey, chain]
      · simp [skipMessageKeys_far P _ state near]

theorem turning_key_iff (header : MessageHeader) (draw : Bytes) (state : State Secret)
    (messageKey : Secret) (needed : ratchetNeeded state header = true) :
    (chainKeyFor P header draw state).result = .ok messageKey ↔
      SkipRuns state header.previousCounter ∧ Near 0 header.messageNumber ∧
        ∃ root shared1 shared2, CanTurn P header.dhPublicKey draw root shared1 shared2 state ∧
          messageKeyAt P (kdfRK P root shared1).chainKey
            (JsNumber.turns 0 header.messageNumber) = messageKey := by
  rw [chainKeyFor_turning P header draw state needed]
  -- Closing the old chain may throw before the ratchet turns.
  by_cases runs : SkipRuns state header.previousCounter
  · have returned := (skipMessageKeys_ok_iff P header.previousCounter state).mpr runs
    obtain ⟨sameDHs, sameRK⟩ := skipMessageKeys_keys P header.previousCounter state
    rw [Outcome.andThen_of_ok _ returned]
    constructor
    · intro selected
      -- The turn goes through, or stops with the remote key written, or between its two halves.
      rcases dhRatchet_cases P header.dhPublicKey draw
        (skipMessageKeys P header.previousCounter state).state with
        ⟨root, shared1, shared2, ready, equal⟩ | ⟨error, equal⟩ | ⟨root, shared1, _, equal⟩
      · rw [equal, Outcome.returns_andThen,
          chainTail_result P _ _ (kdfRK P root shared1).chainKey header.dhPublicKey rfl rfl]
          at selected
        by_cases near : Near 0 header.messageNumber
        · have kept : CanTurn P header.dhPublicKey draw root shared1 shared2 state :=
            ⟨sameDHs ▸ ready.ours, sameRK ▸ ready.rooted, ready.fresh⟩
          have key : messageKeyAt P (kdfRK P root shared1).chainKey
              (JsNumber.turns 0 header.messageNumber) = messageKey := by
            simpa [turned, near] using selected
          exact ⟨runs, near, root, shared1, shared2, kept, key⟩
        · simp [turned, near] at selected
      · simp [equal] at selected
      · simp [equal] at selected
    · rintro ⟨_, near, root, shared1, shared2, ready, key⟩
      have kept : CanTurn P header.dhPublicKey draw root shared1 shared2
          (skipMessageKeys P header.previousCounter state).state :=
        ⟨sameDHs ▸ ready.ours, sameRK ▸ ready.rooted, ready.fresh⟩
      rw [dhRatchet_eq P _ _ _ _ _ _ kept, Outcome.returns_andThen,
        chainTail_result P _ _ (kdfRK P root shared1).chainKey header.dhPublicKey rfl rfl]
      simp [turned, near, key]
  · constructor
    · intro selected
      obtain ⟨_, turnedOk, _⟩ := (Outcome.andThen_ok_iff _ _ _).mp selected
      obtain ⟨_, skippedOk, _⟩ := (Outcome.andThen_ok_iff _ _ _).mp turnedOk
      exact absurd ((skipMessageKeys_ok_iff P _ state).mp skippedOk) runs
    · rintro ⟨wouldRun, _⟩
      exact absurd wouldRun runs

/-- `selectedKey` is the key that `decrypt` hands to the cipher. -/
theorem receiveKey_ok_iff (header : MessageHeader) (draw : Bytes) (state : State Secret)
    (messageKey : Secret) :
    (receiveKey P header draw state).result = .ok messageKey ↔
      selectedKey P header draw state = some messageKey := by
  -- The branches of `decrypt`, in its order.
  cases found : state.MKSKIPPED.get (skipKey header.dhPublicKey header.messageNumber) with
  | some stored => simp [receiveKey, selectedKey, found]
  | none =>
      cases needed : ratchetNeeded state header with
      | false =>
          simp only [receiveKey, selectedKey, found, needed, Bool.false_eq_true, ↓reduceIte]
          rw [settled_key_iff P header draw state messageKey needed]
          by_cases near : Near state.Nr header.messageNumber
          · cases chain : state.CKr <;> simp [near]
          · simp [near]
      | true =>
          simp only [receiveKey, selectedKey, found, needed, ↓reduceIte]
          rw [turning_key_iff P header draw state messageKey needed]
          by_cases due : SkipRuns state header.previousCounter ∧ Near 0 header.messageNumber
          · simp only [due, and_self, true_and, ↓reduceIte, Option.bind_eq_bind,
              Option.bind_eq_some_iff, Option.some.injEq]
            constructor
            · rintro ⟨root, shared1, shared2, ⟨⟨pair, held, agreed⟩, rooted, fresh⟩, key⟩
              exact ⟨pair, held, shared1, agreed, root, rooted, shared2, fresh, key⟩
            · rintro ⟨pair, held, shared1, agreed, root, rooted, shared2, fresh, key⟩
              exact ⟨root, shared1, shared2, ⟨⟨pair, held, agreed⟩, rooted, fresh⟩, key⟩
          · rw [if_neg due]
            constructor
            · rintro ⟨runs, near, _⟩
              exact absurd ⟨runs, near⟩ due
            · intro impossible
              cases impossible

theorem decrypt_throws_iff (header : MessageHeader) (nonceB64 ciphertextB64 : String)
    (associatedData draw : Bytes) (state : State Secret) :
    (decrypt P header nonceB64 ciphertextB64 associatedData draw state).Throws ↔
      ¬ Opens P header nonceB64 ciphertextB64 associatedData draw state := by
  unfold Opens Outcome.Throws
  cases selected : (receiveKey P header draw state).result with
  | error error =>
      have unnamed : ∀ messageKey, selectedKey P header draw state ≠ some messageKey := by
        intro messageKey named
        rw [← receiveKey_ok_iff, selected] at named
        cases named
      simp [decrypt, Outcome.andThen_of_error _ selected, unnamed]
  | ok messageKey =>
      have named := (receiveKey_ok_iff P header draw state messageKey).mp selected
      simp only [decrypt, Outcome.andThen_of_ok _ selected, named, Option.some.injEq,
        exists_eq_left']
      cases P.cipherDecrypt messageKey (fromBase64 nonceB64) associatedData
        (fromBase64 ciphertextB64) <;> simp

-- Once a DH ratchet turn has begun, the remote key differs from the one before the call.
theorem turning_remote (header : MessageHeader) (draw : Bytes) (state : State Secret)
    (needed : ratchetNeeded state header = true) (runs : SkipRuns state header.previousCounter) :
    (chainKeyFor P header draw state).state.DHr = some header.dhPublicKey := by
  have returned := (skipMessageKeys_ok_iff P header.previousCounter state).mpr runs
  rw [chainKeyFor_turning P header draw state needed, Outcome.andThen_of_ok _ returned]
  refine Outcome.andThen_keeps (fun after : State Secret => after.DHr = some header.dhPublicKey)
    (dhRatchet_remote P _ _ _) fun _ _ => ?_
  refine Outcome.andThen_keeps (fun after : State Secret => after.DHr = some header.dhPublicKey)
    ((skipMessageKeys_remote P _ _).trans (dhRatchet_remote P _ _ _)) fun _ _ => ?_
  rw [takeChainKey_remote, skipMessageKeys_remote, dhRatchet_remote]

theorem settled_unchanged_iff (header : MessageHeader) (draw : Bytes) (state : State Secret)
    (settled : ratchetNeeded state header = false) :
    (chainKeyFor P header draw state).state = state ↔
      ¬ Near state.Nr header.messageNumber ∨ state.CKr = none := by
  have known := ratchetNeeded_false settled
  rw [chainKeyFor_settled P header draw state settled]
  by_cases near : Near state.Nr header.messageNumber
  · cases chain : state.CKr with
    | none => simp [skipMessageKeys_unchained P _ state near chain, takeChainKey, chain]
    | some current =>
        rw [skipMessageKeys_eq P _ state current _ near chain known, Outcome.returns_andThen,
          takeChainKey_eq P _ _ rfl]
        simp only [near, not_true_eq_false, reduceCtorEq, or_self, iff_false]
        intro same
        have counted := congrArg State.Nr same
        simp only [skipped, Outcome.returns_state] at counted
        omega
  · simp [skipMessageKeys_far P _ state near, near]

theorem turning_unchanged_iff (header : MessageHeader) (draw : Bytes) (state : State Secret)
    (needed : ratchetNeeded state header = true) :
    (chainKeyFor P header draw state).state = state ↔
      ¬ Near state.Nr header.previousCounter ∨
        StallsInPlace P state header.previousCounter := by
  by_cases near : Near state.Nr header.previousCounter
  · by_cases runs : SkipRuns state header.previousCounter
    -- A turn that begins leaves a mark: the remote key becomes the one of the header.
    · have moved := turning_remote P header draw state needed runs
      constructor
      · intro same
        rw [same] at moved
        exact absurd moved (ratchetNeeded_true needed)
      · rintro (far | ⟨unknown, below, current, chain, _⟩)
        · exact absurd near far
        · have idle := runs.2 (by simp [chain]) unknown
          rw [below] at idle
          cases idle
    -- The old chain cannot be closed, and throws after its first step.
    · have stuck : state.CKr.isSome ∧ state.DHr = none ∧
          (JsNumber.ofNat state.Nr).lt header.previousCounter = true := by
        simpa [SkipRuns, near] using runs
      obtain ⟨chained, unknown, below⟩ := stuck
      obtain ⟨current, chain⟩ := Option.isSome_iff_exists.mp chained
      rw [chainKeyFor_turning P header draw state needed,
        skipMessageKeys_stalls P _ state current near chain unknown below]
      simp only [Outcome.throws_andThen, Outcome.throws_state, near, not_true_eq_false, false_or]
      constructor
      · intro same
        have fixed := congrArg State.CKr same
        rw [chain] at fixed
        exact ⟨unknown, below, current, chain, Option.some.inj fixed⟩
      · rintro ⟨_, _, again, chainAgain, fixed⟩
        have equal : again = current := Option.some.inj (chainAgain.symm.trans chain)
        subst equal
        rw [fixed, ← chain]
  · rw [chainKeyFor_turning P header draw state needed, skipMessageKeys_far P _ state near]
    simp [near]

theorem receiveKey_unchanged_iff (header : MessageHeader) (draw : Bytes) (state : State Secret) :
    (receiveKey P header draw state).state = state ↔ RefusedUnwritten P header state := by
  unfold RefusedUnwritten
  cases found : state.MKSKIPPED.get (skipKey header.dhPublicKey header.messageNumber) with
  | some stored =>
      simp only [receiveKey, found, Outcome.returns_state, reduceCtorEq, false_and, iff_false]
      intro same
      have kept := congrArg (fun after : State Secret =>
        after.MKSKIPPED.get (skipKey header.dhPublicKey header.messageNumber)) same
      simp [found] at kept
  | none =>
      simp only [receiveKey, found, true_and]
      cases needed : ratchetNeeded state header with
      | false => simpa using settled_unchanged_iff P header draw state needed
      | true => simpa using turning_unchanged_iff P header draw state needed

/-- A call that throws leaves every field as it was exactly when it was refused
    before its first write; a call that opens its message throws nothing. -/
theorem failed_decrypt_keeps_state_iff (header : MessageHeader) (nonceB64 ciphertextB64 : String)
    (associatedData draw : Bytes) (state : State Secret) :
    ((decrypt P header nonceB64 ciphertextB64 associatedData draw state).Throws →
      (decrypt P header nonceB64 ciphertextB64 associatedData draw state).state = state) ↔
      Opens P header nonceB64 ciphertextB64 associatedData draw state ∨
        RefusedUnwritten P header state := by
  rw [decrypt_throws_iff, decrypt_state, receiveKey_unchanged_iff]
  exact imp_iff_or_not.trans (by rw [not_not, or_comm])

/-! A responder that has received nothing, its peer's first message, and a
packet whose header names a key nobody holds. -/

def waitingResponder : State Bytes :=
  (initAsResponder [9] ⟨List.replicate 32 2, List.replicate 32 2⟩ newState).state

def firstMessage : Except Thrown Encrypted :=
  (encrypt framedPrimitives [104, 105] [] (List.replicate 12 1)
    (initAsInitiator framedPrimitives [9] (List.replicate 32 2) (List.replicate 32 5)
      newState).state).result

def forgedHeader : MessageHeader := ⟨List.replicate 32 7, .ofNat 0, .ofNat 0⟩

def afterForgery : State Bytes :=
  (decrypt framedPrimitives forgedHeader "AAAAAAAAAAAAAAAA" "AAAA" [] (List.replicate 32 6)
    waitingResponder).state

def receivesFirst (state : State Bytes) : Option (Except Thrown Bytes) :=
  match firstMessage with
  | .error _ => none
  | .ok sent =>
      some (decrypt framedPrimitives sent.header sent.nonce sent.ciphertext []
        (List.replicate 32 6) state).result

theorem forged_packet_desynchronises :
    (decrypt framedPrimitives forgedHeader "AAAAAAAAAAAAAAAA" "AAAA" [] (List.replicate 32 6)
      waitingResponder).result = .error .badTag ∧ afterForgery ≠ waitingResponder ∧
    receivesFirst waitingResponder = some (.ok [104, 105]) ∧
    receivesFirst afterForgery = some (.error .badTag) := by
  refine ⟨by decide +kernel, ?_, by decide +kernel, by decide +kernel⟩
  intro same
  exact absurd (congrArg State.DHr same) (by decide +kernel)

end Chainmail.DoubleRatchet
