import Chainmail.MovingAverage
import Chainmail.RelayScores
import Chainmail.RelaySelection
import Chainmail.StableOrder

/-!
The relay that `getRelayForRouting` of `src/network/connection-pool.js` draws, and the
range that scores and average latencies never leave. The rounding of their arithmetic is
left out.
-/

namespace Chainmail.ConnectionPool

open OnionRouting (MathRandom)

section Route

/-- The known relays with a connection. -/
def connectedRelays (pool : Pool) : List (String × RelayNodeInfo) :=
  pool.relayNodes.entries.filter fun entry => pool.connections.has entry.1

/-- Best scores first. -/
def byScore (entry : String × RelayNodeInfo) : ℚᵒᵈ := OrderDual.toDual entry.2.score

def getBestRelays (count : Nat) (pool : Pool) : List (String × RelayNodeInfo) :=
  (ordered byScore (connectedRelays pool)).take count

def totalScore (relays : List (String × RelayNodeInfo)) : ℚ :=
  relays.foldl (fun sum entry => sum + entry.2.score) 0

/-- The loop over the relays: the one at which `random` falls to zero. -/
def weighted (random : ℚ) : List (String × RelayNodeInfo) → Option String
  | [] => none
  | (peer, relay) :: rest =>
      let random := random - relay.score
      if random ≤ 0 then some peer else weighted random rest

/-- The first relay is returned when the loop ends without one. -/
def getRelayForRouting (draw : MathRandom) (pool : Pool) : Option String :=
  match getBestRelays 5 pool with
  | [] => none
  | best :: others =>
      let relays := best :: others
      some ((weighted (draw.value * totalScore relays) relays).getD best.1)

end Route

namespace RelayNodeInfo

/-- The score stays below a hundred because the average latency is not negative. -/
structure InRange (relay : RelayNodeInfo) : Prop where
  nonneg : 0 ≤ relay.score
  le_hundred : relay.score ≤ 100
  latency : ∀ averageLatency ∈ relay.averageLatency, 0 ≤ averageLatency

variable {relay : RelayNodeInfo}

theorem latencyScore_le {averageLatency : ℚ} (nonneg : 0 ≤ averageLatency) :
    latencyScore averageLatency ≤ 100 := by
  rw [latencyScore]
  apply max_le
  · norm_num
  · linarith

theorem reliabilityScore_le (successfulRequests failedRequests : Nat) :
    reliabilityScore successfulRequests failedRequests ≤ 100 := by
  have failed : (0 : ℚ) ≤ failedRequests := Nat.cast_nonneg failedRequests
  have requests : (0 : ℚ) < successfulRequests + failedRequests + 1 := by positivity
  have share : (successfulRequests : ℚ) / (successfulRequests + failedRequests + 1) ≤ 1 := by
    apply (div_le_one requests).mpr
    linarith
  rw [reliabilityScore]
  linarith

/-- Two parts of five for the latency and three for the requests. -/
theorem computed_le {averageLatency : ℚ} (nonneg : 0 ≤ averageLatency)
    (successfulRequests failedRequests : Nat) :
    computed averageLatency successfulRequests failedRequests ≤ 100 := by
  have latency := latencyScore_le nonneg
  have reliability := reliabilityScore_le successfulRequests failedRequests
  rw [computed]
  linarith

/-- The average is a moving one, in which a new latency weighs a fifth. -/
theorem updateScore_eq (relay : RelayNodeInfo) (latency : ℚ≥0) : relay.updateScore latency =
    { relay with
      averageLatency := some (blend (1 / 5) relay.averageLatency latency)
      score := computed (blend (1 / 5) relay.averageLatency latency)
        relay.successfulRequests relay.failedRequests } := by
  cases average : relay.averageLatency with
  | none => simp only [updateScore, blend, average, computed]
  | some averageLatency =>
      have rest : (1 : ℚ) - 1 / 5 = 4 / 5 := by norm_num
      simp only [updateScore, blend, average, rest, computed]

theorem inRange_updateScore (inRange : InRange relay) (latency : ℚ≥0) :
    InRange (relay.updateScore latency) := by
  have blended : 0 ≤ blend (1 / 5) relay.averageLatency (latency : ℚ) := by
    cases average : relay.averageLatency with
    | none => exact latency.2
    | some averageLatency =>
        have before := inRange.latency averageLatency average
        have new : (0 : ℚ) ≤ latency := latency.2
        rw [blend]
        linarith
  rw [updateScore_eq]
  refine ⟨computed_nonneg _ _ _, computed_le blended _ _, fun averageLatency held => ?_⟩
  exact Option.some.inj held ▸ blended

theorem inRange_fail (inRange : InRange relay) : InRange relay.fail where
  nonneg := le_max_left 0 _
  le_hundred := by
    have before := inRange.le_hundred
    apply max_le
    · norm_num
    · linarith
  latency := inRange.latency

theorem kept_inRange : Kept InRange where
  discovered := ⟨by norm_num [discovered], le_refl _, fun _ unset => by cases unset⟩
  addressed _ _ inRange := ⟨inRange.nonneg, inRange.le_hundred, inRange.latency⟩
  updateScore _ latency inRange := inRange_updateScore inRange latency
  succeed relay latency inRange := by
    have counted : InRange { relay with successfulRequests := relay.successfulRequests + 1 } :=
      ⟨inRange.nonneg, inRange.le_hundred, inRange.latency⟩
    exact inRange_updateScore counted latency
  fail _ inRange := inRange_fail inRange

end RelayNodeInfo

open RelayNodeInfo

section Averages
variable {config : Config} {pool : Pool} {peer other : String}

/-- The latency that an event brings for a relay, if it is known. -/
def sample (peer : String) (pool : Pool) : Event → Option ℚ
  | .updateRelayScore other latency | .recordRelaySuccess other latency =>
      if other = peer ∧ pool.relayNodes.has peer then some latency else none
  | _ => none

/-- The latencies of a relay, the last one first. -/
def observed (config : Config) (peer : String) : List Event → List ℚ
  | [] => []
  | event :: earlier =>
      (sample peer (replay config earlier) event).toList ++ observed config peer earlier

def averageLatency (peer : String) (pool : Pool) : Option ℚ :=
  (pool.relayNodes.get peer).bind RelayNodeInfo.averageLatency

theorem averageLatency_of_relayNodes {after : Pool} (same : after.relayNodes = pool.relayNodes) :
    averageLatency peer after = averageLatency peer pool := by
  rw [averageLatency, averageLatency, same]

/-- A relay that is discovered has no average, like one that is not known. -/
theorem averageLatency_markAsRelay :
    averageLatency peer (markAsRelay other pool) = averageLatency peer pool := by
  rw [averageLatency, averageLatency, markAsRelay_get]
  split
  · rename_i new
    rw [new.1, new.2]
    rfl
  · rfl

theorem averageLatency_withRelay_same {change : RelayNodeInfo → RelayNodeInfo}
    (same : ∀ relay, (change relay).averageLatency = relay.averageLatency) :
    averageLatency peer (withRelay other change pool) = averageLatency peer pool := by
  rw [averageLatency, averageLatency, withRelay_get]
  split
  · rename_i own
    rw [own]
    cases pool.relayNodes.get other with
    | none => rfl
    | some relay => exact same relay
  · rfl

theorem averageLatency_withRelay {change : RelayNodeInfo → RelayNodeInfo} {latency : ℚ≥0}
    (blends : ∀ relay, (change relay).averageLatency =
      some (blend (1 / 5) relay.averageLatency latency)) :
    averageLatency peer (withRelay other change pool) =
      if other = peer ∧ pool.relayNodes.has peer then
        some (blend (1 / 5) (averageLatency peer pool) latency)
      else averageLatency peer pool := by
  rw [averageLatency, averageLatency, withRelay_get, OrderedMap.has]
  by_cases own : other = peer
  · subst own
    cases pool.relayNodes.get other with
    | none => simp
    | some relay => simpa using blends relay
  · simp [own, Ne.symm own]

theorem averageLatency_step (event : Event) : averageLatency peer (step config pool event) =
    (sample peer pool event).elim (averageLatency peer pool)
      fun latency => some (blend (1 / 5) (averageLatency peer pool) latency) := by
  cases event with
  | start => rfl
  | stop => rfl
  | connect peer => rfl
  | disconnect peer => exact averageLatency_of_relayNodes onPeerDisconnect_relayNodes
  | identified peer protocols =>
      cases protocols with
      | none => rfl
      | some protocols =>
          rw [step, identified]
          split
          · exact averageLatency_markAsRelay
          · rfl
  | markAsRelay peer => exact averageLatency_markAsRelay
  | addressed peer multiaddr => exact averageLatency_withRelay_same fun _ => rfl
  | timerFires turn => exact averageLatency_of_relayNodes (timerFires_relayNodes turn)
  | dialSucceeds turn => rfl
  | dialFails turn => exact averageLatency_of_relayNodes (dialFails_relayNodes turn)
  | ensureMinRelayConnections =>
      exact averageLatency_of_relayNodes ensureMinRelayConnections_relayNodes
  | updateRelayScore other latency =>
      rw [step, updateRelayScore, sample,
        averageLatency_withRelay fun relay => by rw [updateScore_eq]]
      split <;> rfl
  | recordRelaySuccess other latency =>
      rw [step, recordRelaySuccess, sample,
        averageLatency_withRelay fun relay => by rw [succeed, updateScore_eq]]
      split <;> rfl
  | recordRelayFailure peer => exact averageLatency_withRelay_same fun _ => rfl

/-- The average latency of a relay is the moving average of what was observed for it. -/
theorem averageLatency_replay (config : Config) (peer : String) (past : List Event) :
    averageLatency peer (replay config past) =
      movingAverage (1 / 5) (observed config peer past) := by
  induction past with
  | nil => rfl
  | cons event earlier ih =>
      rw [replay, averageLatency_step, observed, ih]
      cases sample peer (replay config earlier) event with
      | none => rfl
      | some latency => rfl

end Averages

section Draws
variable {pool : Pool} {peer : String} {relay : RelayNodeInfo} {draw : MathRandom} {random : ℚ}
  {relays : List (String × RelayNodeInfo)}

theorem mem_connectedRelays : (peer, relay) ∈ connectedRelays pool ↔
    pool.relayNodes.get peer = some relay ∧ pool.connections.has peer := by
  rw [connectedRelays, List.mem_filter, ← OrderedMap.get_iff_mem]

theorem connectedRelays_nil : connectedRelays pool = [] ↔
    ∀ peer, pool.relayNodes.has peer → ¬ pool.connections.has peer := by
  rw [List.eq_nil_iff_forall_not_mem]
  constructor
  · intro none peer known connected
    obtain ⟨relay, held⟩ := Option.isSome_iff_exists.mp known
    exact none (peer, relay) (mem_connectedRelays.mpr ⟨held, connected⟩)
  · intro none entry member
    have held := mem_connectedRelays.mp member
    exact none entry.1 (Option.isSome_of_eq_some held.1) held.2

theorem getBestRelays_nil {count : Nat} (positive : 0 < count) :
    getBestRelays count pool = [] ↔ connectedRelays pool = [] := by
  rw [getBestRelays, List.take_eq_nil_iff]
  constructor
  · intro empty
    have sorted := empty.resolve_left positive.ne'
    exact List.nil_perm.mp (sorted ▸ ordered_perm (connectedRelays pool))
  · intro empty
    exact .inr (List.perm_nil.mp (empty ▸ ordered_perm (connectedRelays pool)))

theorem mem_getBestRelays {count : Nat} (best : (peer, relay) ∈ getBestRelays count pool) :
    (peer, relay) ∈ connectedRelays pool ∧
      rank byScore (connectedRelays pool) (peer, relay) < count :=
  ⟨(ordered_perm _).mem_iff.mp (List.mem_of_mem_take best), rank_lt_of_mem_take best⟩

theorem totalScore_eq (relays : List (String × RelayNodeInfo)) :
    totalScore relays = (relays.map fun entry => entry.2.score).sum := by
  rw [totalScore, List.sum_eq_foldl, List.foldl_map]

theorem totalScore_cons (entry : String × RelayNodeInfo) (rest : List (String × RelayNodeInfo)) :
    totalScore (entry :: rest) = entry.2.score + totalScore rest := by
  rw [totalScore_eq, totalScore_eq, List.map_cons, List.sum_cons]

theorem totalScore_nonneg (nonneg : ∀ entry ∈ relays, 0 ≤ entry.2.score) :
    0 ≤ totalScore relays := by
  rw [totalScore_eq]
  apply List.sum_nonneg
  intro score member
  obtain ⟨entry, inside, rfl⟩ := List.mem_map.mp member
  exact nonneg entry inside

theorem weighted_mem (drawn : weighted random relays = some peer) :
    ∃ relay, (peer, relay) ∈ relays := by
  induction relays generalizing random with
  | nil => cases drawn
  | cons entry rest ih =>
      rw [weighted] at drawn
      split at drawn
      · cases drawn
        exact ⟨entry.2, List.mem_cons_self⟩
      · obtain ⟨relay, later⟩ := ih drawn
        exact ⟨relay, List.mem_cons_of_mem _ later⟩

/-- A number that the scores add up to falls to zero at one of the relays. -/
theorem weighted_isSome (nonempty : relays ≠ []) (within : random ≤ totalScore relays) :
    (weighted random relays).isSome := by
  induction relays generalizing random with
  | nil => exact absurd rfl nonempty
  | cons entry rest ih =>
      rw [weighted]
      split
      · rfl
      · rename_i beyond
        rw [totalScore_cons] at within
        have left : random - entry.2.score ≤ totalScore rest := by linarith
        -- Something is left of the number, so the loop is not at its last relay.
        refine ih (fun last => beyond ?_) left
        rw [last] at left
        exact left

theorem getRelayForRouting_none :
    getRelayForRouting draw pool = none ↔ connectedRelays pool = [] := by
  rw [← getBestRelays_nil (Nat.succ_pos 4), getRelayForRouting]
  cases getBestRelays 5 pool with
  | nil => exact iff_of_true rfl rfl
  | cons best others => exact iff_of_false (Option.some_ne_none _) (List.cons_ne_nil _ _)

theorem getRelayForRouting_some (drawn : getRelayForRouting draw pool = some peer) :
    ∃ relay, (peer, relay) ∈ getBestRelays 5 pool := by
  rw [getRelayForRouting] at drawn
  cases listed : getBestRelays 5 pool with
  | nil =>
      rw [listed] at drawn
      cases drawn
  | cons best others =>
      rw [listed] at drawn
      have chosen := Option.some.inj drawn
      cases looped : weighted (draw.value * totalScore (best :: others)) (best :: others) with
      | none =>
          rw [looped] at chosen
          exact ⟨best.2, chosen ▸ List.mem_cons_self⟩
      | some other =>
          rw [looped] at chosen
          obtain rfl : other = peer := chosen
          exact weighted_mem looped

/-- The loop ends with a relay, since no score is negative. -/
theorem getRelayForRouting_eq (inRange : EveryRelay InRange pool) :
    getRelayForRouting draw pool =
      weighted (draw.value * totalScore (getBestRelays 5 pool)) (getBestRelays 5 pool) := by
  rw [getRelayForRouting]
  cases listed : getBestRelays 5 pool with
  | nil => rfl
  | cons best others =>
      have scores : ∀ entry ∈ best :: others, 0 ≤ entry.2.score := by
        intro entry member
        have connected := (mem_getBestRelays (listed ▸ member)).1
        exact (inRange entry.1 entry.2 (mem_connectedRelays.mp connected).1).nonneg
      have within : draw.value * totalScore (best :: others) ≤ totalScore (best :: others) :=
        mul_le_of_le_one_left (totalScore_nonneg scores) draw.below_one.le
      obtain ⟨peer, looped⟩ :=
        Option.isSome_iff_exists.mp (weighted_isSome (List.cons_ne_nil _ _) within)
      simp only [looped, Option.getD_some]

end Draws

section Runs
variable {config : Config} {past : List Event} {peer : String} {relay : RelayNodeInfo}

/-- In every reachable state the relay is the one of the loop and never the one after it. -/
theorem routing_within_loop (config : Config) (past : List Event) (draw : MathRandom) :
    getRelayForRouting draw (replay config past) =
      weighted (draw.value * totalScore (getBestRelays 5 (replay config past)))
        (getBestRelays 5 (replay config past)) :=
  getRelayForRouting_eq (everyRelay_replay kept_inRange config past)

theorem averageLatency_spanned {averageLatency : ℚ}
    (held : (replay config past).relayNodes.get peer = some relay)
    (average : relay.averageLatency = some averageLatency) :
    Spanned (observed config peer past) averageLatency := by
  have moving := averageLatency_replay config peer past
  rw [ConnectionPool.averageLatency, held, Option.bind_some, average] at moving
  exact movingAverage_spanned (by norm_num) (by norm_num) moving.symm

/-- In every reachable state a score is between zero and a hundred and an average latency
    between the smallest and the largest one observed. No relay is drawn exactly when no known
    relay is connected, and otherwise one that fewer than five connected relays outscore. -/
theorem routing_among_best (config : Config) (past : List Event) :
    (∀ peer relay, (replay config past).relayNodes.get peer = some relay →
      0 ≤ relay.score ∧ relay.score ≤ 100 ∧
        ∀ averageLatency, relay.averageLatency = some averageLatency →
          Spanned (observed config peer past) averageLatency) ∧
    ∀ draw : MathRandom,
      (getRelayForRouting draw (replay config past) = none ↔
        ∀ peer, (replay config past).relayNodes.has peer →
          ¬ (replay config past).connections.has peer) ∧
      ∀ peer, getRelayForRouting draw (replay config past) = some peer →
        ∃ relay, (replay config past).relayNodes.get peer = some relay ∧
          (replay config past).connections.has peer ∧
          rank byScore (connectedRelays (replay config past)) (peer, relay) < 5 := by
  refine ⟨fun peer relay held => ?_, fun draw => ⟨?_, fun peer drawn => ?_⟩⟩
  · have inRange := everyRelay_replay kept_inRange config past peer relay held
    exact ⟨inRange.nonneg, inRange.le_hundred, fun _ average => averageLatency_spanned held average⟩
  · rw [getRelayForRouting_none, connectedRelays_nil]
  · obtain ⟨relay, best⟩ := getRelayForRouting_some drawn
    obtain ⟨connected, outscored⟩ := mem_getBestRelays best
    have held := mem_connectedRelays.mp connected
    exact ⟨relay, held.1, held.2, outscored⟩

end Runs

end Chainmail.ConnectionPool
