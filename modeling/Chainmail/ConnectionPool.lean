import Chainmail.OrderedMap
import Chainmail.Runs
import Mathlib.Data.NNRat.Defs
import Mathlib.Algebra.Order.Ring.Rat
import Mathlib.Tactic.NormNum

/-!
`ConnectionPool` of `src/network/connection-pool.js`: the connections of a node, the
relays it has seen, and the timers that reconnect it to them. One handler runs at a time.
What a handler waits for comes back as an event of its own: the protocols of a peer, a
ping, a dial. The metrics, the log lines and the times of the last activity are left out,
so a ping may come back for any relay.
-/

namespace Chainmail.ConnectionPool

structure Config where
  minRelayConnections : Nat
  reconnectBackoffBase : Nat
  maxReconnectBackoff : Nat

/-- `options.<name> || <default>` -/
def construct (minRelayConnections reconnectBackoffBase maxReconnectBackoff : Option Nat) : Config where
  minRelayConnections := (minRelayConnections.filter (· ≠ 0)).getD 3
  reconnectBackoffBase := (reconnectBackoffBase.filter (· ≠ 0)).getD 1000
  maxReconnectBackoff := (maxReconnectBackoff.filter (· ≠ 0)).getD 60000

structure ConnectionInfo where
  isRelay : Bool
deriving DecidableEq

/-- Nothing in the repository sets an address; whoever holds the pool may. -/
structure RelayNodeInfo where
  successfulRequests : Nat
  failedRequests : Nat
  averageLatency : Option ℚ
  score : ℚ
  multiaddr : Option String

/-- A timer that is to reconnect a peer, with the number of attempts it read when it was set. -/
structure Timer where
  peerId : String
  backoff : Nat
  count : Nat
deriving DecidableEq

/-- A timer's callback that waits for its dial. -/
structure Dial where
  peerId : String
  count : Nat

structure Pool where
  isRunning : Bool
  connections : OrderedMap String ConnectionInfo
  relayNodes : OrderedMap String RelayNodeInfo
  failedAttempts : OrderedMap String Nat
  timers : List Timer
  dials : List Dial

def initial : Pool := ⟨false, .empty, .empty, .empty, [], []⟩

namespace RelayNodeInfo

/-- A relay as it is discovered, with its initial score. -/
def discovered : RelayNodeInfo := ⟨0, 0, none, 100, none⟩

def latencyScore (averageLatency : ℚ) : ℚ := max 0 (100 - averageLatency / 10)

def reliabilityScore (successfulRequests failedRequests : Nat) : ℚ :=
  successfulRequests / (successfulRequests + failedRequests + 1) * 100

/-- `updateRelayScore` of a relay that is known. -/
def updateScore (relay : RelayNodeInfo) (latency : ℚ≥0) : RelayNodeInfo :=
  let averageLatency := match relay.averageLatency with
    | none => (latency : ℚ)
    | some averageLatency => averageLatency * (4 / 5) + latency * (1 / 5)
  { relay with
    averageLatency := some averageLatency
    score := latencyScore averageLatency * (2 / 5) +
      reliabilityScore relay.successfulRequests relay.failedRequests * (3 / 5) }

/-- `recordRelaySuccess` of a relay that is known. -/
def succeed (relay : RelayNodeInfo) (latency : ℚ≥0) : RelayNodeInfo :=
  { relay with successfulRequests := relay.successfulRequests + 1 }.updateScore latency

/-- `recordRelayFailure` of a relay that is known. -/
def fail (relay : RelayNodeInfo) : RelayNodeInfo :=
  { relay with
    failedRequests := relay.failedRequests + 1
    score := max 0 (relay.score - 10) }

end RelayNodeInfo

/-- A change of a relay, if it is known. -/
def withRelay (peer : String) (change : RelayNodeInfo → RelayNodeInfo) (pool : Pool) : Pool :=
  match pool.relayNodes.get peer with
  | none => pool
  | some relay => { pool with relayNodes := pool.relayNodes.set peer (change relay) }

def updateRelayScore (peer : String) (latency : ℚ≥0) : Pool → Pool :=
  withRelay peer fun relay => relay.updateScore latency

def recordRelaySuccess (peer : String) (latency : ℚ≥0) : Pool → Pool :=
  withRelay peer fun relay => relay.succeed latency

def recordRelayFailure (peer : String) : Pool → Pool := withRelay peer RelayNodeInfo.fail

def backoff (config : Config) (count : Nat) : Nat :=
  min (config.reconnectBackoffBase * 2 ^ count) config.maxReconnectBackoff

def attempts (pool : Pool) (peer : String) : Nat := (pool.failedAttempts.get peer).getD 0

/-- The timer that `scheduleReconnect` sets, if the pool is running. -/
def reconnects (config : Config) (pool : Pool) (peer : String) : List Timer :=
  if pool.isRunning then [⟨peer, backoff config (attempts pool peer), attempts pool peer⟩] else []

def scheduleReconnect (config : Config) (peer : String) (pool : Pool) : Pool :=
  { pool with timers := pool.timers ++ reconnects config pool peer }

/-- `checkIfRelay` is called at the end; its answer is an event of its own. -/
def onPeerConnect (peer : String) (pool : Pool) : Pool :=
  { pool with
    failedAttempts := pool.failedAttempts.delete peer
    connections := pool.connections.set peer ⟨false⟩ }

def onPeerDisconnect (config : Config) (peer : String) (pool : Pool) : Pool :=
  let pool := { pool with connections := pool.connections.delete peer }
  if pool.relayNodes.has peer then scheduleReconnect config peer pool else pool

def markAsRelay (peer : String) (pool : Pool) : Pool :=
  { pool with
    connections := match pool.connections.get peer with
      | none => pool.connections
      | some info => pool.connections.set peer { info with isRelay := true }
    relayNodes :=
      if pool.relayNodes.has peer then pool.relayNodes
      else pool.relayNodes.set peer .discovered }

/-- The answer to `checkIfRelay`: the protocols of the peer, if they could be identified. -/
def identified (peer : String) (protocols : Option (List String)) (pool : Pool) : Pool :=
  match protocols with
  | none => pool
  | some protocols =>
      if "/dmail/storage/1.0.0/store" ∈ protocols then markAsRelay peer pool else pool

def activeRelays (pool : Pool) : Nat :=
  (pool.connections.values.filter ConnectionInfo.isRelay).length

/-- The known relays without a connection. -/
def missingRelays (pool : Pool) : List String :=
  (pool.relayNodes.entries.map Prod.fst).filter fun peer => !pool.connections.has peer

def ensureMinRelayConnections (config : Config) (pool : Pool) : Pool :=
  if activeRelays pool < config.minRelayConnections then
    (missingRelays pool).foldl (fun pool peer => scheduleReconnect config peer pool) pool
  else pool

/-- A timer fires: the relay is dialed, if it has an address. -/
def timerFires (turn : Nat) (pool : Pool) : Pool :=
  match pool.timers[turn]? with
  | none => pool
  | some timer =>
      let pool := { pool with timers := pool.timers.eraseIdx turn }
      let multiaddr := (pool.relayNodes.get timer.peerId).bind RelayNodeInfo.multiaddr
      if pool.isRunning ∧ multiaddr.any (· ≠ "") then
        { pool with dials := pool.dials ++ [⟨timer.peerId, timer.count⟩] }
      else pool

/-- A dial rejects: the attempt is counted from the number that its timer had read. -/
def dialFails (config : Config) (turn : Nat) (pool : Pool) : Pool :=
  match pool.dials[turn]? with
  | none => pool
  | some dial =>
      let pool := { pool with
        dials := pool.dials.eraseIdx turn
        failedAttempts := pool.failedAttempts.set dial.peerId (dial.count + 1) }
      if dial.count < 5 then scheduleReconnect config dial.peerId pool else pool

inductive Event where
  | start
  | stop
  | connect (peer : String)
  | disconnect (peer : String)
  | identified (peer : String) (protocols : Option (List String))
  | markAsRelay (peer : String)
  | addressed (peer : String) (multiaddr : Option String)
  | timerFires (turn : Nat)
  | dialSucceeds (turn : Nat)
  | dialFails (turn : Nat)
  | ensureMinRelayConnections
  | updateRelayScore (peer : String) (latency : ℚ≥0)
  | recordRelaySuccess (peer : String) (latency : ℚ≥0)
  | recordRelayFailure (peer : String)

def step (config : Config) (pool : Pool) : Event → Pool
  | .start => { pool with isRunning := true }
  | .stop => { pool with isRunning := false }
  | .connect peer => onPeerConnect peer pool
  | .disconnect peer => onPeerDisconnect config peer pool
  | .identified peer protocols => identified peer protocols pool
  | .markAsRelay peer => markAsRelay peer pool
  | .addressed peer multiaddr => withRelay peer (fun relay => { relay with multiaddr }) pool
  | .timerFires turn => timerFires turn pool
  | .dialSucceeds turn => { pool with dials := pool.dials.eraseIdx turn }
  | .dialFails turn => dialFails config turn pool
  | .ensureMinRelayConnections => ensureMinRelayConnections config pool
  | .updateRelayScore peer latency => updateRelayScore peer latency pool
  | .recordRelaySuccess peer latency => recordRelaySuccess peer latency pool
  | .recordRelayFailure peer => recordRelayFailure peer pool

/-- The last event comes first. -/
def replay (config : Config) : List Event → Pool
  | [] => initial
  | event :: earlier => step config (replay config earlier) event

section Frames
variable {config : Config} {pool : Pool} {peer other : String}

@[simp] theorem scheduleReconnect_connections :
    (scheduleReconnect config peer pool).connections = pool.connections := rfl

@[simp] theorem scheduleReconnect_relayNodes :
    (scheduleReconnect config peer pool).relayNodes = pool.relayNodes := rfl

@[simp] theorem scheduleReconnect_isRunning :
    (scheduleReconnect config peer pool).isRunning = pool.isRunning := rfl

@[simp] theorem scheduleReconnect_failedAttempts :
    (scheduleReconnect config peer pool).failedAttempts = pool.failedAttempts := rfl

@[simp] theorem scheduleReconnect_dials :
    (scheduleReconnect config peer pool).dials = pool.dials := rfl

@[simp] theorem scheduleReconnect_timers :
    (scheduleReconnect config peer pool).timers = pool.timers ++ reconnects config pool peer := rfl

/-- Scheduling for several peers only adds their timers. -/
theorem schedule_all (config : Config) (peers : List String) (pool : Pool) :
    peers.foldl (fun pool peer => scheduleReconnect config peer pool) pool =
      { pool with timers := pool.timers ++ peers.flatMap (reconnects config pool) } := by
  induction peers generalizing pool with
  | nil => simp
  | cons peer rest ih =>
      rw [List.foldl_cons, ih, List.flatMap_cons, ← List.append_assoc]
      rfl

/-- A peer that is lost takes its connection along, and a known relay gets its timer. -/
theorem onPeerDisconnect_eq : onPeerDisconnect config peer pool =
    { pool with
      connections := pool.connections.delete peer
      timers := pool.timers ++
        if pool.relayNodes.has peer then reconnects config pool peer else [] } := by
  rw [onPeerDisconnect]
  dsimp only
  split
  · rfl
  · rw [List.append_nil]

@[simp] theorem onPeerDisconnect_connections :
    (onPeerDisconnect config peer pool).connections = pool.connections.delete peer := by
  rw [onPeerDisconnect_eq]

@[simp] theorem onPeerDisconnect_relayNodes :
    (onPeerDisconnect config peer pool).relayNodes = pool.relayNodes := by
  rw [onPeerDisconnect_eq]

@[simp] theorem onPeerDisconnect_dials :
    (onPeerDisconnect config peer pool).dials = pool.dials := by
  rw [onPeerDisconnect_eq]

@[simp] theorem onPeerDisconnect_failedAttempts :
    (onPeerDisconnect config peer pool).failedAttempts = pool.failedAttempts := by
  rw [onPeerDisconnect_eq]

/-- The health check sets timers and does nothing else. -/
theorem ensureMinRelayConnections_eq : ensureMinRelayConnections config pool =
    { pool with timers := pool.timers ++
        if activeRelays pool < config.minRelayConnections then
          (missingRelays pool).flatMap (reconnects config pool)
        else [] } := by
  rw [ensureMinRelayConnections, schedule_all]
  split
  · rfl
  · rw [List.append_nil]

@[simp] theorem ensureMinRelayConnections_dials :
    (ensureMinRelayConnections config pool).dials = pool.dials := by
  rw [ensureMinRelayConnections_eq]

@[simp] theorem ensureMinRelayConnections_failedAttempts :
    (ensureMinRelayConnections config pool).failedAttempts = pool.failedAttempts := by
  rw [ensureMinRelayConnections_eq]

@[simp] theorem ensureMinRelayConnections_connections :
    (ensureMinRelayConnections config pool).connections = pool.connections := by
  rw [ensureMinRelayConnections_eq]

@[simp] theorem ensureMinRelayConnections_relayNodes :
    (ensureMinRelayConnections config pool).relayNodes = pool.relayNodes := by
  rw [ensureMinRelayConnections_eq]

/-- A timer that fires is gone, and may have begun a dial. -/
theorem timerFires_writes (turn : Nat) (pool : Pool) : ∃ dials,
    timerFires turn pool = { pool with timers := pool.timers.eraseIdx turn, dials := dials } := by
  rw [timerFires]
  split
  · rename_i missing
    have outside : pool.timers.length ≤ turn := List.getElem?_eq_none_iff.mp missing
    exact ⟨pool.dials, by rw [List.eraseIdx_of_length_le outside]⟩
  · dsimp only
    split <;> exact ⟨_, rfl⟩

@[simp] theorem timerFires_timers (turn : Nat) :
    (timerFires turn pool).timers = pool.timers.eraseIdx turn := by
  obtain ⟨_, writes⟩ := timerFires_writes turn pool
  rw [writes]

@[simp] theorem timerFires_failedAttempts (turn : Nat) :
    (timerFires turn pool).failedAttempts = pool.failedAttempts := by
  obtain ⟨_, writes⟩ := timerFires_writes turn pool
  rw [writes]

@[simp] theorem timerFires_connections (turn : Nat) :
    (timerFires turn pool).connections = pool.connections := by
  obtain ⟨_, writes⟩ := timerFires_writes turn pool
  rw [writes]

@[simp] theorem timerFires_relayNodes (turn : Nat) :
    (timerFires turn pool).relayNodes = pool.relayNodes := by
  obtain ⟨_, writes⟩ := timerFires_writes turn pool
  rw [writes]

/-- A dial that rejects is gone, its attempt is counted, and it may set a timer. -/
theorem dialFails_writes (config : Config) (turn : Nat) (pool : Pool) :
    ∃ timers failedAttempts, dialFails config turn pool =
      { pool with
        timers := timers
        dials := pool.dials.eraseIdx turn
        failedAttempts := failedAttempts } := by
  rw [dialFails]
  split
  · rename_i missing
    have outside : pool.dials.length ≤ turn := List.getElem?_eq_none_iff.mp missing
    exact ⟨pool.timers, pool.failedAttempts, by rw [List.eraseIdx_of_length_le outside]⟩
  · dsimp only
    split <;> exact ⟨_, _, rfl⟩

@[simp] theorem dialFails_connections (turn : Nat) :
    (dialFails config turn pool).connections = pool.connections := by
  obtain ⟨_, _, writes⟩ := dialFails_writes config turn pool
  rw [writes]

@[simp] theorem dialFails_relayNodes (turn : Nat) :
    (dialFails config turn pool).relayNodes = pool.relayNodes := by
  obtain ⟨_, _, writes⟩ := dialFails_writes config turn pool
  rw [writes]

theorem markAsRelay_get : (markAsRelay peer pool).relayNodes.get other =
    if other = peer ∧ pool.relayNodes.get peer = none then some .discovered
    else pool.relayNodes.get other := by
  rw [markAsRelay, OrderedMap.has]
  dsimp only
  cases held : pool.relayNodes.get peer with
  | some relay => simp
  | none =>
      by_cases same : other = peer
      · simp [same]
      · simp [same, OrderedMap.get_set_of_ne]

theorem withRelay_get (change : RelayNodeInfo → RelayNodeInfo) :
    (withRelay peer change pool).relayNodes.get other =
      if other = peer then (pool.relayNodes.get peer).map change else pool.relayNodes.get other := by
  rw [withRelay]
  cases held : pool.relayNodes.get peer with
  | none =>
      by_cases same : other = peer
      · simp [same, held]
      · simp [same]
  | some relay =>
      by_cases same : other = peer
      · simp [same]
      · simp [same, OrderedMap.get_set_of_ne]

theorem withRelay_writes (peer : String) (change : RelayNodeInfo → RelayNodeInfo) (pool : Pool) :
    ∃ relayNodes, withRelay peer change pool = { pool with relayNodes := relayNodes } := by
  rw [withRelay]
  cases pool.relayNodes.get peer <;> exact ⟨_, rfl⟩

@[simp] theorem withRelay_connections (change : RelayNodeInfo → RelayNodeInfo) :
    (withRelay peer change pool).connections = pool.connections := by
  obtain ⟨_, writes⟩ := withRelay_writes peer change pool
  rw [writes]

@[simp] theorem withRelay_timers (change : RelayNodeInfo → RelayNodeInfo) :
    (withRelay peer change pool).timers = pool.timers := by
  obtain ⟨_, writes⟩ := withRelay_writes peer change pool
  rw [writes]

@[simp] theorem withRelay_dials (change : RelayNodeInfo → RelayNodeInfo) :
    (withRelay peer change pool).dials = pool.dials := by
  obtain ⟨_, writes⟩ := withRelay_writes peer change pool
  rw [writes]

@[simp] theorem withRelay_failedAttempts (change : RelayNodeInfo → RelayNodeInfo) :
    (withRelay peer change pool).failedAttempts = pool.failedAttempts := by
  obtain ⟨_, writes⟩ := withRelay_writes peer change pool
  rw [writes]

/-- A relay that changes stays known, and no other one becomes known. -/
theorem withRelay_has (change : RelayNodeInfo → RelayNodeInfo) :
    (withRelay peer change pool).relayNodes.has other = pool.relayNodes.has other := by
  rw [OrderedMap.has, OrderedMap.has, withRelay_get]
  by_cases same : other = peer
  · simp [same]
  · simp [same]

end Frames

section Relays
variable {config : Config} {pool : Pool} {peer : String} {holds : RelayNodeInfo → Prop}

def EveryRelay (holds : RelayNodeInfo → Prop) (pool : Pool) : Prop :=
  ∀ peer relay, pool.relayNodes.get peer = some relay → holds relay

/-- A property that relays are discovered with and that nothing takes from them. -/
structure Kept (holds : RelayNodeInfo → Prop) : Prop where
  discovered : holds .discovered
  addressed : ∀ relay multiaddr, holds relay → holds { relay with multiaddr }
  updateScore : ∀ relay latency, holds relay → holds (relay.updateScore latency)
  succeed : ∀ relay latency, holds relay → holds (relay.succeed latency)
  fail : ∀ relay, holds relay → holds relay.fail

theorem EveryRelay.withRelay (every : EveryRelay holds pool)
    {change : RelayNodeInfo → RelayNodeInfo} (keeps : ∀ relay, holds relay → holds (change relay)) :
    EveryRelay holds (withRelay peer change pool) := by
  intro other relay held
  rw [withRelay_get] at held
  split at held
  · obtain ⟨before, found, rfl⟩ := Option.map_eq_some_iff.mp held
    exact keeps before (every peer before found)
  · exact every other relay held

theorem EveryRelay.markAsRelay (every : EveryRelay holds pool) (discovered : holds .discovered) :
    EveryRelay holds (markAsRelay peer pool) := by
  intro other relay held
  rw [markAsRelay_get] at held
  split at held
  · cases held
    exact discovered
  · exact every other relay held

theorem EveryRelay.of_relayNodes {after : Pool} (every : EveryRelay holds pool)
    (same : after.relayNodes = pool.relayNodes) : EveryRelay holds after := by
  intro peer relay held
  rw [same] at held
  exact every peer relay held

theorem EveryRelay.step (kept : Kept holds) (every : EveryRelay holds pool) (event : Event) :
    EveryRelay holds (step config pool event) := by
  cases event with
  | start => exact every
  | stop => exact every
  | connect peer => exact every
  | disconnect peer => exact every.of_relayNodes onPeerDisconnect_relayNodes
  | identified peer protocols =>
      cases protocols with
      | none => exact every
      | some protocols =>
          rw [ConnectionPool.step, identified]
          split
          · exact every.markAsRelay kept.discovered
          · exact every
  | markAsRelay peer => exact every.markAsRelay kept.discovered
  | addressed peer multiaddr =>
      exact every.withRelay fun relay given => kept.addressed relay multiaddr given
  | timerFires turn => exact every.of_relayNodes (timerFires_relayNodes turn)
  | dialSucceeds turn => exact every
  | dialFails turn => exact every.of_relayNodes (dialFails_relayNodes turn)
  | ensureMinRelayConnections => exact every.of_relayNodes ensureMinRelayConnections_relayNodes
  | updateRelayScore peer latency =>
      exact every.withRelay fun relay given => kept.updateScore relay latency given
  | recordRelaySuccess peer latency =>
      exact every.withRelay fun relay given => kept.succeed relay latency given
  | recordRelayFailure peer => exact every.withRelay kept.fail

/-- What is kept holds of every relay in every reachable state. -/
theorem everyRelay_replay (kept : Kept holds) (config : Config) (past : List Event) :
    EveryRelay holds (replay config past) := by
  induction past with
  | nil =>
      intro peer relay held
      cases held
  | cons event earlier ih => exact ih.step kept event

end Relays

end Chainmail.ConnectionPool
