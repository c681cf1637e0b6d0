import Chainmail.SenderLimit

/-!
How the events of the limiter move a reputation. A reader takes a score that is
missing for 0 and a writer takes it for 25, and a score of 0 counts as missing; so
the first message of a sender at the bottom is worth 25 points.
-/

namespace Chainmail.ReputationLimiter

open RateLimiter

variable {Sender : Type} [DecidableEq Sender]

/-- The reputation that `check` and `getStats` use. -/
def rep (senderId : Sender) (state : State Sender) : ℚ := reputationOr 0 senderId state

/-- The sender whose reputation an event may move. -/
def Event.subject : Event Sender → Option Sender
  | .checkAndRecord senderId _ | .adjustReputation senderId _ | .reportSpam senderId
  | .markTrusted senderId _ => some senderId
  | .getStats _ | .cleanup => none

/-- Reputations are added up without rounding. -/
def exactly (config : Config) : Config := { config with round := id }

/-- An event moves the reputations as it should. -/
structure Moves (config : Config) (event : Event Sender) (now : Nat) (state : State Sender) :
    Prop where
  slow : ∀ senderId messageSize, event = .checkAndRecord senderId messageSize →
    check config senderId messageSize now state = none →
    rep senderId (step config event now state).2 ≤ rep senderId state + 1 / 10
  reported : ∀ senderId, event = .reportSpam senderId →
    rep senderId (step config event now state).2 =
      rep senderId state - min 25 (rep senderId state)
  bounded : ∀ senderId, 0 ≤ rep senderId (step config event now state).2 ∧
    rep senderId (step config event now state).2 ≤ 100
  others : ∀ senderId, event.subject ≠ some senderId →
    rep senderId (step config event now state).2 = rep senderId state
  bottom : ∀ senderId messageSize, event = .checkAndRecord senderId messageSize →
    rep senderId state = 0 →
    (getAdjustedLimit config senderId state).lt
      (getAdjustedLimit config senderId (step config event now state).2) = false

/-- No request is let through whose sender is at the bottom. -/
def AboveBottom (config : Config) (event : Event Sender) (now : Nat) (state : State Sender) : Prop :=
  ∀ senderId messageSize, event = .checkAndRecord senderId messageSize →
    check config senderId messageSize now state = none → rep senderId state ≠ 0

/-- Every event of a run does so, at its time and in the state that it finds. -/
def EachEvent (config : Config) (holds : Event Sender → Nat → State Sender → Prop)
    (events : List (Event Sender × Nat)) : Prop :=
  ∀ before event now after, events = before ++ (event, now) :: after →
    holds event now (replay config before)

/-- Scores from 0 to 100. -/
def Scored (state : State Sender) : Prop :=
  ∀ senderId score, state.reputations.get senderId = some score → 0 ≤ score ∧ score ≤ 100

section Scores
variable {config : Config} {state : State Sender} {senderId other : Sender} {now : Nat}

theorem rep_eq : rep senderId state = (state.reputations.get senderId).getD 0 := by
  rw [rep, reputationOr]
  cases state.reputations.get senderId with
  | none => rfl
  | some score =>
      dsimp only
      split
      next zero => exact zero.symm
      next => rfl

theorem writer_score : reputationOr 25 senderId state =
    if rep senderId state = 0 then 25 else rep senderId state := by
  rw [rep_eq, reputationOr]
  cases state.reputations.get senderId with
  | none => rfl
  | some score => rfl

theorem Scored.rep (scored : Scored state) (senderId : Sender) :
    0 ≤ rep senderId state ∧ rep senderId state ≤ 100 := by
  rw [rep_eq]
  cases held : state.reputations.get senderId with
  | none => norm_num
  | some score => exact scored senderId score held

theorem Scored.set (scored : Scored state) {score : ℚ} (low : 0 ≤ score) (high : score ≤ 100) :
    Scored { state with reputations := state.reputations.set senderId score } := by
  intro other held found
  rw [OrderedMap.get_set] at found
  split at found
  · cases found
    exact ⟨low, high⟩
  · exact scored other held found

theorem Scored.adjust (scored : Scored state) (delta : ℚ) :
    Scored (adjustReputation config senderId delta state) :=
  scored.set (le_max_left _ _) (max_le (by norm_num) (min_le_left _ _))

theorem rep_adjust (config : Config) (delta : ℚ) :
    rep senderId (adjustReputation (exactly config) senderId delta state) =
    max 0 (min 100 ((if rep senderId state = 0 then 25 else rep senderId state) + delta)) := by
  rw [rep_eq, adjustReputation, ← writer_score]
  simp [exactly]

end Scores

section Steps
variable {config : Config} {state : State Sender} {now : Nat}

theorem record_reputations (senderId : Sender) (messageSize : Nat) :
    (record config senderId messageSize now state).reputations =
      (adjustReputation config senderId (config.round (1 / 10)) state).reputations := by
  rw [record]
  split <;> rfl

/-- What an event does to the scores: one is set, or none. -/
theorem step_reputations (event : Event Sender) :
    (step config event now state).2.reputations = state.reputations ∨
      ∃ senderId score, event.subject = some senderId ∧
        (step config event now state).2.reputations = state.reputations.set senderId score := by
  cases event with
  | checkAndRecord senderId messageSize =>
      rw [step, checkAndRecord]
      cases check config senderId messageSize now state with
      | some refusal => exact .inl rfl
      | none => exact .inr ⟨senderId, _, rfl, record_reputations senderId messageSize⟩
  | adjustReputation senderId delta => exact .inr ⟨senderId, _, rfl, rfl⟩
  | reportSpam senderId => exact .inr ⟨senderId, _, rfl, rfl⟩
  | markTrusted senderId level => exact .inr ⟨senderId, _, rfl, rfl⟩
  | getStats senderId => exact .inl rfl
  | cleanup => exact .inl rfl

theorem rep_congr {before after : State Sender} (same : after.reputations = before.reputations)
    (senderId : Sender) : rep senderId after = rep senderId before := by
  rw [rep_eq, rep_eq, same]

theorem rep_step_other {event : Event Sender} {senderId : Sender}
    (other : event.subject ≠ some senderId) :
    rep senderId (step config event now state).2 = rep senderId state := by
  rcases step_reputations event with same | ⟨subject, score, own, set⟩
  · exact rep_congr same senderId
  · have apart : senderId ≠ subject := by
      rintro rfl
      exact other own
    rw [rep_eq, rep_eq, set, OrderedMap.get_set_of_ne _ _ apart]

theorem Scored.step (scored : Scored state) (event : Event Sender) :
    Scored (step config event now state).2 := by
  cases event with
  | checkAndRecord senderId messageSize =>
      rw [ReputationLimiter.step, checkAndRecord]
      cases check config senderId messageSize now state with
      | some refusal => exact scored
      | none =>
          have adjusted : Scored (adjustReputation config senderId (config.round (1 / 10)) state) :=
            scored.adjust _
          rw [Scored, ← record_reputations senderId messageSize] at adjusted
          exact adjusted
  | adjustReputation senderId delta => exact scored.adjust delta
  | reportSpam senderId => exact scored.adjust (-25)
  | markTrusted senderId level =>
      cases level <;> exact scored.set (by norm_num [TrustLevel.score]) (by norm_num [TrustLevel.score])
  | getStats senderId => exact scored
  | cleanup => exact scored

theorem scored_replay (config : Config) (events : List (Event Sender × Nat)) :
    Scored (replay config events) := by
  induction events using List.reverseRecOn with
  | nil =>
      intro senderId score held
      cases held
  | append_singleton earlier event ih =>
      rw [replay, List.foldl_append]
      exact ih.step event.1

/-- A request that is let through adds a tenth, to 25 where the score was 0. -/
theorem rep_accepted {senderId : Sender} {messageSize : Nat}
    (allowed : check (exactly config) senderId messageSize now state = none) :
    rep senderId (step (exactly config) (.checkAndRecord senderId messageSize) now state).2 =
      max 0 (min 100 ((if rep senderId state = 0 then 25 else rep senderId state) + 1 / 10)) := by
  rw [← rep_adjust config, step, checkAndRecord, allowed]
  exact rep_congr (record_reputations senderId messageSize) senderId

theorem rep_reported (scored : Scored state) (senderId : Sender) :
    rep senderId (step (exactly config) (.reportSpam senderId) now state).2 =
      rep senderId state - min 25 (rep senderId state) := by
  have moved : rep senderId (adjustReputation (exactly config) senderId (-25) state) = _ :=
    rep_adjust config (-25)
  have bounds := scored.rep senderId
  have same : rep senderId (step (exactly config) (.reportSpam senderId) now state).2 =
      rep senderId (adjustReputation (exactly config) senderId (-25) state) := rfl
  rw [same, moved]
  by_cases bottom : rep senderId state = 0
  · rw [if_pos bottom, bottom]
    norm_num
  · rw [if_neg bottom]
    rcases le_total 25 (rep senderId state) with above | below
    · rw [min_eq_left above, min_eq_right (by linarith), max_eq_right (by linarith)]
      ring
    · rw [min_eq_right below, min_eq_right (by linarith), max_eq_left (by linarith)]
      ring

/-- An event moves the reputations as it should unless it lets through a request from the bottom. -/
theorem moves_iff (scored : Scored state) (event : Event Sender) :
    Moves (exactly config) event now state ↔ AboveBottom (exactly config) event now state := by
  constructor
  · intro moves senderId messageSize own allowed bottom
    have slow := moves.slow senderId messageSize own allowed
    rw [own, rep_accepted allowed, if_pos bottom, bottom] at slow
    norm_num at slow
  · intro above
    refine ⟨?_, ?_, ?_, ?_, ?_⟩
    · intro senderId messageSize own allowed
      have bounds := scored.rep senderId
      rw [own, rep_accepted allowed, if_neg (above senderId messageSize own allowed)]
      exact max_le (by linarith) (min_le_right _ _)
    · rintro senderId rfl
      exact rep_reported scored senderId
    · exact (scored.step event).rep
    · intro senderId other
      exact rep_step_other other
    · rintro senderId messageSize rfl bottom
      -- No such request is let through, so the state is as before.
      cases decided : check (exactly config) senderId messageSize now state with
      | none => exact absurd bottom (above senderId messageSize rfl decided)
      | some refusal =>
          have unmoved : (step (exactly config) (.checkAndRecord senderId messageSize) now state).2 =
              state := by
            rw [step, checkAndRecord, decided]
          rw [unmoved]
          cases getAdjustedLimit (exactly config) senderId state <;> simp [JsNumber.lt]

end Steps

/-- In a run every event moves the reputations as it should exactly when no request is let through
    from a sender at the bottom, whether it was reported down to it or has no score yet. -/
theorem reputation_moves_iff (config : Config) (events : List (Event Sender × Nat)) :
    EachEvent (exactly config) (Moves (exactly config)) events ↔
      EachEvent (exactly config) (AboveBottom (exactly config)) events := by
  refine forall_congr' fun before => forall_congr' fun event => forall_congr' fun now =>
    forall_congr' fun after => imp_congr_right fun _ => ?_
  exact moves_iff (scored_replay (exactly config) before) event

/-! One message after a report that takes the last points, and the limit is doubled. -/

def forgiven : List (Event String × Nat) :=
  [(.markTrusted "mallory" .low, 1), (.reportSpam "mallory", 2), (.checkAndRecord "mallory" 0, 3)]

theorem bottom_forgotten : ¬ ∀ (config : Config) (events : List (Event String × Nat)),
    EachEvent (exactly config) (Moves (exactly config)) events := by
  intro claimed
  have moves := claimed oneForAll forgiven (forgiven.take 2) (.checkAndRecord "mallory" 0) 3 [] rfl
  have slow := moves.slow "mallory" 0 rfl (by decide +kernel)
  revert slow
  decide +kernel

end Chainmail.ReputationLimiter
