import Chainmail.ConnectionPool
import Mathlib.Tactic.Linarith
import Mathlib.Tactic.Positivity
import Mathlib.Tactic.FieldSimp
import Mathlib.Tactic.Ring

/-!
What a success and a failure do to the score of a relay in `src/network/connection-pool.js`.
The score starts at a value of its own, a latency replaces it by a formula, and a failure
takes ten off whatever it is, down to zero.
-/

namespace Chainmail.ConnectionPool

namespace RelayNodeInfo

/-- The score by the formula. -/
def computed (averageLatency : ℚ) (successfulRequests failedRequests : Nat) : ℚ :=
  latencyScore averageLatency * (2 / 5) +
    reliabilityScore successfulRequests failedRequests * (3 / 5)

/-- The score is what it started with, or what the formula gave at the last latency, less ten
    for each failure since. Without a latency there was no success. -/
def Earned (relay : RelayNodeInfo) : Prop :=
  match relay.averageLatency with
  | none => relay.successfulRequests = 0 ∧
      relay.score = max 0 (100 - 10 * (relay.failedRequests : ℚ))
  | some averageLatency => ∃ counted since, relay.failedRequests = counted + since ∧
      relay.score =
        max 0 (computed averageLatency relay.successfulRequests counted - 10 * (since : ℚ))

variable {relay : RelayNodeInfo} {averageLatency : ℚ}

theorem earned_discovered : Earned discovered := by
  refine ⟨rfl, ?_⟩
  norm_num [discovered]

theorem latencyScore_nonneg (averageLatency : ℚ) : 0 ≤ latencyScore averageLatency :=
  le_max_left 0 _

theorem reliabilityScore_nonneg (successfulRequests failedRequests : Nat) :
    0 ≤ reliabilityScore successfulRequests failedRequests := by
  rw [reliabilityScore]
  positivity

theorem computed_nonneg (averageLatency : ℚ) (successfulRequests failedRequests : Nat) :
    0 ≤ computed averageLatency successfulRequests failedRequests := by
  have latency := latencyScore_nonneg averageLatency
  have reliability := reliabilityScore_nonneg successfulRequests failedRequests
  rw [computed]
  positivity

theorem earned_updateScore (relay : RelayNodeInfo) (latency : ℚ≥0) :
    Earned (relay.updateScore latency) := by
  refine ⟨relay.failedRequests, 0, rfl, ?_⟩
  rw [Nat.cast_zero, mul_zero, sub_zero, max_eq_right (computed_nonneg _ _ _)]
  rfl

theorem earned_succeed (relay : RelayNodeInfo) (latency : ℚ≥0) : Earned (relay.succeed latency) :=
  earned_updateScore _ latency

/-- Two steps down to zero are one. -/
theorem max_sub_sub (score taken : ℚ) : max 0 (max 0 (score - taken) - 10) =
    max 0 (score - (taken + 10)) := by
  rcases le_total 0 (score - taken) with above | below
  · rw [max_eq_right above, sub_sub]
  · rw [max_eq_left below, max_eq_left (by linarith), max_eq_left (by linarith)]

theorem earned_fail (earned : Earned relay) : Earned relay.fail := by
  obtain ⟨successful, failed, average, score, multiaddr⟩ := relay
  cases average with
  | none =>
      obtain ⟨none, started⟩ := earned
      refine ⟨none, ?_⟩
      dsimp only [fail] at started ⊢
      rw [started, max_sub_sub, Nat.cast_succ]
      congr 1
      ring
  | some averageLatency =>
      obtain ⟨counted, since, failures, given⟩ := earned
      dsimp only at failures given
      refine ⟨counted, since + 1, ?_, ?_⟩
      · dsimp only [fail]
        omega
      · dsimp only [fail]
        rw [given, max_sub_sub, Nat.cast_succ]
        congr 1
        ring

/-- A failure never raises a score. -/
theorem fail_score_le (earned : Earned relay) : relay.fail.score ≤ relay.score := by
  have nonneg : 0 ≤ relay.score := by
    obtain ⟨successful, failed, average, score, multiaddr⟩ := relay
    cases average with
    | none => exact earned.2 ▸ le_max_left _ _
    | some averageLatency =>
        obtain ⟨_, _, _, given⟩ := earned
        exact given ▸ le_max_left _ _
  rw [fail]
  exact max_le nonneg (by linarith)

/-- A lower average scores no less. -/
theorem latencyScore_anti {before after : ℚ} (lower : after ≤ before) :
    latencyScore before ≤ latencyScore after := by
  rw [latencyScore, latencyScore]
  apply max_le_max le_rfl
  linarith

/-- The inequality behind `ratio_succ`, without its denominators. -/
theorem succ_outweighs {successful total : ℚ} (since : Nat) (fewer : successful + 1 ≤ total)
    (some : 1 ≤ total) : 6 * successful * (since + 1) ≤ 6 * total + since * total * (total + since + 1) := by
  have most : 6 * successful * (since + 1 : ℚ) ≤ 6 * (total - 1) * (since + 1) := by
    have growing : (0 : ℚ) ≤ since + 1 := by positivity
    have below : 6 * successful ≤ 6 * (total - 1) := by linarith
    exact mul_le_mul_of_nonneg_right below growing
  rcases Nat.eq_zero_or_pos since with rfl | failed
  · simp only [Nat.cast_zero] at most ⊢
    linarith
  · have least : (1 : ℚ) ≤ since := by exact_mod_cast failed
    nlinarith [mul_nonneg (sub_nonneg.mpr least) (sub_nonneg.mpr some), sq_nonneg (total - 2),
      mul_nonneg (mul_nonneg (sub_nonneg.mpr least) (sub_nonneg.mpr some)) (sub_nonneg.mpr least)]

/-- The share of successes falls by less than the failures took. -/
theorem ratio_succ (successful counted since : Nat) :
    (successful : ℚ) / (successful + counted + 1) ≤
      (successful + 1) / (successful + 1 + (counted + since) + 1) + since / 6 := by
  have total : (0 : ℚ) < successful + counted + 1 := by positivity
  have later : (0 : ℚ) < successful + 1 + (counted + since) + 1 := by positivity
  have fewer : (successful : ℚ) + 1 ≤ successful + counted + 1 := by
    have nonneg : (0 : ℚ) ≤ counted := Nat.cast_nonneg counted
    linarith
  have some : (1 : ℚ) ≤ successful + counted + 1 := by
    have nonneg : (0 : ℚ) ≤ successful + counted := by positivity
    linarith
  have outweighs := succ_outweighs since fewer some
  rw [div_add_div _ _ later.ne' (by norm_num), div_le_div_iff₀ total (by positivity)]
  linarith

/-- One more success outweighs the failures since the last latency, each of which took ten. -/
theorem reliabilityScore_succ (successful counted since : Nat) :
    reliabilityScore successful counted * (3 / 5) - 10 * since ≤
      reliabilityScore (successful + 1) (counted + since) * (3 / 5) := by
  have ratio := ratio_succ successful counted since
  rw [reliabilityScore, reliabilityScore]
  push_cast
  linarith

/-- The average with a latency that is not above it. -/
theorem average_le {before : ℚ} {latency : ℚ≥0} (below : (latency : ℚ) ≤ before) :
    before * (4 / 5) + latency * (1 / 5) ≤ before := by
  linarith

theorem score_le_succeed {latency : ℚ≥0} (earned : Earned relay)
    (average : relay.averageLatency = some averageLatency) (below : (latency : ℚ) ≤ averageLatency) :
    relay.score ≤ (relay.succeed latency).score := by
  obtain ⟨successful, failed, held, score, multiaddr⟩ := relay
  obtain rfl : held = some averageLatency := average
  obtain ⟨counted, since, rfl, given⟩ := earned
  have made : (succeed ⟨successful, counted + since, some averageLatency, score, multiaddr⟩
      latency).score = computed (averageLatency * (4 / 5) + latency * (1 / 5)) (successful + 1)
        (counted + since) := rfl
  have latencies := latencyScore_anti (average_le below)
  have successes := reliabilityScore_succ successful counted since
  rw [made]
  dsimp only at given
  rw [given]
  apply max_le (computed_nonneg _ _ _)
  rw [computed, computed]
  linarith

/-- The first latency replaces the initial score. -/
theorem first_score_le_iff (earned : Earned relay) (first : relay.averageLatency = none)
    (latency : ℚ≥0) : relay.score ≤ (relay.succeed latency).score ↔
      max 0 (100 - 10 * (relay.failedRequests : ℚ)) ≤
        max 0 (100 - (latency : ℚ) / 10) * (2 / 5) + 60 / (relay.failedRequests + 2 : ℚ) := by
  obtain ⟨successful, failed, held, score, multiaddr⟩ := relay
  obtain rfl : held = none := first
  obtain ⟨rfl, started⟩ := earned
  dsimp only at started ⊢
  have made : (succeed ⟨0, failed, none, score, multiaddr⟩ latency).score =
      computed latency (0 + 1) failed := rfl
  have ratio : reliabilityScore (0 + 1) failed * (3 / 5) = 60 / (failed + 2 : ℚ) := by
    rw [reliabilityScore]
    push_cast
    field_simp
    ring
  rw [made, started, computed, latencyScore, ratio]

end RelayNodeInfo

open RelayNodeInfo

section Runs
variable {config : Config} {pool : Pool} {peer : String}

/-- Every known relay has earned its score. -/
def AllEarned (pool : Pool) : Prop :=
  ∀ peer relay, pool.relayNodes.get peer = some relay → Earned relay

theorem kept_earned : Kept Earned where
  discovered := earned_discovered
  addressed _ _ given := given
  updateScore relay latency _ := earned_updateScore relay latency
  succeed relay latency _ := earned_succeed relay latency
  fail _ given := earned_fail given

theorem allEarned_replay (config : Config) (past : List Event) : AllEarned (replay config past) :=
  everyRelay_replay kept_earned config past

theorem relay_after {change : RelayNodeInfo → RelayNodeInfo} {relay : RelayNodeInfo}
    (held : pool.relayNodes.get peer = some relay) :
    (withRelay peer change pool).relayNodes.get peer = some (change relay) := by
  rw [withRelay_get, if_pos rfl, held]
  rfl

/-- In every reachable state, a success with a latency not above the average does not lower a
    score and a failure does not raise it. The first latency replaces the initial score by what
    the formula gives, which is no less exactly when that score has fallen far enough. -/
theorem success_keeps_score (config : Config) (past : List Event) (peer : String)
    (relay : RelayNodeInfo) (held : (replay config past).relayNodes.get peer = some relay) :
    (∀ averageLatency, relay.averageLatency = some averageLatency →
      ∀ latency : ℚ≥0, (latency : ℚ) ≤ averageLatency → ∃ after,
        (replay config (.recordRelaySuccess peer latency :: past)).relayNodes.get peer = some after ∧
          relay.score ≤ after.score) ∧
    (relay.averageLatency = none → ∀ latency : ℚ≥0, ∃ after,
      (replay config (.recordRelaySuccess peer latency :: past)).relayNodes.get peer = some after ∧
        (relay.score ≤ after.score ↔ max 0 (100 - 10 * (relay.failedRequests : ℚ)) ≤
          max 0 (100 - (latency : ℚ) / 10) * (2 / 5) + 60 / (relay.failedRequests + 2 : ℚ))) ∧
    ∃ after, (replay config (.recordRelayFailure peer :: past)).relayNodes.get peer = some after ∧
      after.score ≤ relay.score := by
  have earned : Earned relay := allEarned_replay config past peer relay held
  refine ⟨fun averageLatency average latency below => ?_, fun first latency => ?_, ?_⟩
  · exact ⟨_, relay_after held, score_le_succeed earned average below⟩
  · exact ⟨_, relay_after held, first_score_le_iff earned first latency⟩
  · exact ⟨_, relay_after held, fail_score_le earned⟩

/-- A relay that answered a ping, and then a request as fast. -/
theorem fast_success_keeps_score : ∃ after,
    (replay (construct none none none) [.recordRelaySuccess "relay" 5, .updateRelayScore "relay" 5,
      .markAsRelay "relay"]).relayNodes.get "relay" = some after ∧
      (discovered.updateScore 5).score ≤ after.score := by
  have held : (replay (construct none none none) [.updateRelayScore "relay" 5,
      .markAsRelay "relay"]).relayNodes.get "relay" = some (discovered.updateScore 5) := rfl
  exact (success_keeps_score (construct none none none) _ "relay" _ held).1 5 rfl 5 (by norm_num)

/-- The first success of a relay lowers its initial score, however fast it is. -/
theorem first_success_lowers : ¬ ∀ (config : Config) (past : List Event) (peer : String)
    (relay after : RelayNodeInfo) (latency : ℚ≥0),
    (replay config past).relayNodes.get peer = some relay →
    (∀ averageLatency, relay.averageLatency = some averageLatency →
      (latency : ℚ) ≤ averageLatency) →
    (replay config (.recordRelaySuccess peer latency :: past)).relayNodes.get peer = some after →
    relay.score ≤ after.score := by
  intro claimed
  have kept := claimed (construct none none none) [.markAsRelay "relay"] "relay" discovered
    (discovered.succeed 0) 0 rfl (by simp [discovered]) rfl
  norm_num [discovered, succeed, updateScore, latencyScore, reliabilityScore] at kept

end Runs

end Chainmail.ConnectionPool
