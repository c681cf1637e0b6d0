import Mathlib.Data.List.Nodup

/-!
`DHTCoordinator.findStorageNodes`: the peers a record is replicated to. The query names
peers one event after another. Where it throws, connected peers are added to those it
has named so far. The log lines are left out.
-/

namespace Chainmail.ReplicationTargets

/-- An event of `dht.findPeer`; a response may come without a peer. -/
inductive Event where
  | peerResponse (peer : Option String)
  | other

/-- The events of a query up to where it ends or throws. Leaving the loop closes the
    query, which may throw as well. -/
structure Query where
  events : List Event
  throws : Bool
  closeThrows : Bool

/-- `options.replicationFactor || DEFAULT_REPLICATION_FACTOR` -/
def replicationFactor (option : Option Nat) : Nat := (option.filter (· ≠ 0)).getD 3

/-- The loop over the events, with the peers named so far: those named at its end, and
    whether it ends with an error. -/
def namePeers (query : Query) (factor : Nat) : List Event → List String → List String × Bool
  | [], nodes => (nodes, query.throws)
  | .other :: rest, nodes => namePeers query factor rest nodes
  | .peerResponse none :: _, nodes => (nodes, true)
  | .peerResponse (some peer) :: rest, nodes =>
      let nodes := nodes ++ [peer]
      if factor ≤ nodes.length then (nodes, query.closeThrows)
      else namePeers query factor rest nodes

/-- The peers found for a key. Without a DHT there are none; the connections are only
    asked for where the query has thrown. -/
def findStorageNodes (factor : Nat) (dht : Option Query) (connections : List String) :
    List String :=
  match dht with
  | none => []
  | some query =>
      let named := namePeers query factor query.events []
      if named.2 then named.1 ++ connections.take factor else named.1

/-- At most as many peers as copies are wanted, and no peer twice. -/
def AtMostDistinct (factor : Nat) (nodes : List String) : Prop :=
  nodes.length ≤ factor ∧ nodes.Nodup

section Queries

/-- The peers of the responses, up to one that has none. -/
def answered : List Event → List String
  | [] => []
  | .other :: rest => answered rest
  | .peerResponse none :: _ => []
  | .peerResponse (some peer) :: rest => peer :: answered rest

/-- One response has no peer. -/
def nameless : List Event → Bool
  | [] => false
  | .peerResponse none :: _ => true
  | .peerResponse (some _) :: rest | .other :: rest => nameless rest

/-- The query throws before it has named enough peers, or as it is closed then. -/
def fails (factor : Nat) (query : Query) : Bool :=
  if factor ≤ (answered query.events).length then query.closeThrows
  else query.throws || nameless query.events

variable {query : Query} {factor : Nat}

theorem replicationFactor_pos (option : Option Nat) : 0 < replicationFactor option := by
  cases option with
  | none => decide
  | some factor => cases factor <;> simp [replicationFactor, Option.filter]

variable (query) in
/-- The loop takes the peers that are named until there are enough. -/
theorem namePeers_eq (events : List Event) : ∀ nodes : List String, nodes.length < factor →
    namePeers query factor events nodes =
      (nodes ++ (answered events).take (factor - nodes.length),
        if factor ≤ nodes.length + (answered events).length then query.closeThrows
        else query.throws || nameless events) := by
  induction events with
  | nil =>
      intro nodes room
      simp [namePeers, answered, nameless, Nat.not_le.mpr room]
  | cons event rest ih =>
      intro nodes room
      cases event with
      | other => exact ih nodes room
      | peerResponse peer =>
          cases peer with
          | none => simp [namePeers, answered, nameless, Nat.not_le.mpr room]
          | some peer =>
              by_cases last : factor ≤ nodes.length + 1
              · have one : factor - nodes.length = 1 := by omega
                have enough : factor ≤ nodes.length + ((answered rest).length + 1) := by omega
                simp [namePeers, answered, last, one, enough]
              · have later : namePeers query factor (.peerResponse (some peer) :: rest) nodes =
                    namePeers query factor rest (nodes ++ [peer]) := by simp [namePeers, last]
                have left : factor - nodes.length = factor - (nodes.length + 1) + 1 := by omega
                have order : nodes.length + 1 + (answered rest).length =
                    nodes.length + ((answered rest).length + 1) := by omega
                rw [later, ih (nodes ++ [peer]) (by simpa using Nat.not_le.mp last), left]
                by_cases enough : factor ≤ nodes.length + ((answered rest).length + 1)
                · simp [answered, order, enough]
                · simp [answered, nameless, order, enough]

theorem findStorageNodes_eq (positive : 0 < factor) (query : Query) (connections : List String) :
    findStorageNodes factor (some query) connections =
      (answered query.events).take factor ++
        if fails factor query then connections.take factor else [] := by
  have named := namePeers_eq query query.events [] positive
  simp only [List.length_nil, Nat.zero_add, List.nil_append, Nat.sub_zero] at named
  simp only [findStorageNodes, named]
  cases thrown : fails factor query with
  | false =>
      have ended : (if factor ≤ (answered query.events).length then query.closeThrows
        else query.throws || nameless query.events) = false := thrown
      simp [ended]
  | true =>
      have ended : (if factor ≤ (answered query.events).length then query.closeThrows
        else query.throws || nameless query.events) = true := thrown
      simp [ended]

/-- The first peers that are named are distinct. Where the query throws, so are the peers of the
    first connections, none of which was named, and there are no more than enough of both. -/
def Spared (factor : Nat) (query : Query) (connections : List String) : Prop :=
  ((answered query.events).take factor).Nodup ∧
    (fails factor query = true →
      (connections.take factor).Nodup ∧
      ((answered query.events).take factor).Disjoint (connections.take factor) ∧
      min factor (answered query.events).length + min factor connections.length ≤ factor)

theorem atMostDistinct_iff (positive : 0 < factor) (query : Query) (connections : List String) :
    AtMostDistinct factor (findStorageNodes factor (some query) connections) ↔
      Spared factor query connections := by
  rw [AtMostDistinct, Spared, findStorageNodes_eq positive]
  cases thrown : fails factor query with
  | false =>
      simp only [Bool.false_eq_true, ↓reduceIte, List.append_nil, false_implies, and_true]
      exact and_iff_right (List.length_take_le _ _)
  | true =>
      simp only [↓reduceIte, List.length_append, List.length_take, List.nodup_append', true_implies]
      constructor
      · rintro ⟨few, named, connected, apart⟩
        exact ⟨named, connected, apart, few⟩
      · rintro ⟨named, connected, apart, few⟩
        exact ⟨few, named, connected, apart⟩

end Queries

/-- At most as many distinct peers are found as copies are wanted exactly where there is no DHT,
    or its query names its first peers once and does not throw onto connections that repeat a
    peer or are too many. -/
theorem storage_nodes_iff (option : Option Nat) (dht : Option Query) (connections : List String) :
    AtMostDistinct (replicationFactor option)
        (findStorageNodes (replicationFactor option) dht connections) ↔
      ∀ query ∈ dht, Spared (replicationFactor option) query connections := by
  cases dht with
  | none => simp [AtMostDistinct, findStorageNodes]
  | some query => simp [atMostDistinct_iff (replicationFactor_pos option) query connections]

/-- One peer is named and the query times out; that peer is the first of three connected ones. -/
theorem named_peer_repeated : ¬ ∀ (option : Option Nat) (dht : Option Query)
    (connections : List String), AtMostDistinct (replicationFactor option)
      (findStorageNodes (replicationFactor option) dht connections) := by
  intro claimed
  have bound := (claimed none (some ⟨[.peerResponse (some "relay1")], true, false⟩)
    ["relay1", "relay2", "relay3"]).1
  exact absurd bound (by decide)

end Chainmail.ReplicationTargets
