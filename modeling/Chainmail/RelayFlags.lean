import Chainmail.ConnectionPool

/-!
The two places where the pool of `src/network/connection-pool.js` keeps that a peer is a
relay: the flag of its connection, which is made anew with each connection, and the table
of the relays, which only grows.
-/

namespace Chainmail.ConnectionPool

variable {config : Config} {pool : Pool} {peer : String}

/-- Every connection has the flag of a relay exactly if the peer is a known one. -/
def FlagsMatch (pool : Pool) : Prop :=
  ∀ peer info, pool.connections.get peer = some info →
    (info.isRelay = true ↔ pool.relayNodes.has peer = true)

/-- No peer connects that is already known as a relay. -/
def NewPeer (config : Config) (event : Event) (earlier : List Event) : Prop :=
  match event with
  | .connect peer => (replay config earlier).relayNodes.has peer = false
  | _ => True

theorem FlagsMatch.of_same {after : Pool} (matching : FlagsMatch pool)
    (connections : after.connections = pool.connections)
    (relays : ∀ peer, after.relayNodes.has peer = pool.relayNodes.has peer) : FlagsMatch after := by
  intro peer info held
  rw [connections] at held
  rw [relays]
  exact matching peer info held

theorem FlagsMatch.withRelay (matching : FlagsMatch pool) (change : RelayNodeInfo → RelayNodeInfo) :
    FlagsMatch (withRelay peer change pool) :=
  matching.of_same (withRelay_connections change) fun _ => withRelay_has change

theorem FlagsMatch.disconnect (matching : FlagsMatch pool) :
    FlagsMatch (onPeerDisconnect config peer pool) := by
  intro other info held
  rw [onPeerDisconnect_connections, OrderedMap.get_delete] at held
  rw [onPeerDisconnect_relayNodes]
  split at held
  · cases held
  · exact matching other info held

theorem markAsRelay_has {other : String} : (markAsRelay peer pool).relayNodes.has other = true ↔
    other = peer ∨ pool.relayNodes.has other = true := by
  rw [OrderedMap.has, markAsRelay_get, OrderedMap.has]
  by_cases same : other = peer
  · subst same
    cases pool.relayNodes.get other <;> simp
  · simp [same]

/-- A peer that is marked has its flag set in both places. -/
theorem FlagsMatch.markAsRelay (matching : FlagsMatch pool) : FlagsMatch (markAsRelay peer pool) := by
  intro other info held
  rw [markAsRelay_has]
  rw [ConnectionPool.markAsRelay] at held
  dsimp only at held
  by_cases same : other = peer
  · subst same
    cases found : pool.connections.get other with
    | none => simp [found] at held
    | some before =>
        simp only [found, OrderedMap.get_set_self, Option.some.injEq] at held
        simp [← held]
  · have before : pool.connections.get other = some info := by
      cases found : pool.connections.get peer with
      | none => simpa [found] using held
      | some before => simpa [found, OrderedMap.get_set_of_ne _ _ same] using held
    simpa [same] using matching other info before

theorem flagsMatch_connect (matching : FlagsMatch pool) :
    FlagsMatch (onPeerConnect peer pool) ↔ pool.relayNodes.has peer = false := by
  constructor
  · intro after
    have own := after peer ⟨false⟩ (OrderedMap.get_set_self _ _ _)
    simpa [onPeerConnect] using own
  · intro unknown other info held
    rw [onPeerConnect] at held ⊢
    dsimp only at held ⊢
    rw [OrderedMap.get_set] at held
    split at held
    · rename_i same
      cases held
      simp [same, unknown]
    · exact matching other info held

/-- An event keeps the flags right exactly when it does not connect a known relay. -/
theorem flagsMatch_step {event : Event} {earlier : List Event}
    (matching : FlagsMatch (replay config earlier)) :
    FlagsMatch (replay config (event :: earlier)) ↔ NewPeer config event earlier := by
  rw [replay]
  cases event with
  | connect peer => exact flagsMatch_connect matching
  | start => exact iff_of_true matching trivial
  | stop => exact iff_of_true matching trivial
  | disconnect peer => exact iff_of_true matching.disconnect trivial
  | identified peer protocols =>
      refine iff_of_true ?_ trivial
      cases protocols with
      | none => exact matching
      | some protocols =>
          rw [step, identified]
          split
          · exact matching.markAsRelay
          · exact matching
  | markAsRelay peer => exact iff_of_true matching.markAsRelay trivial
  | addressed peer multiaddr => exact iff_of_true (matching.withRelay _) trivial
  | timerFires turn =>
      exact iff_of_true (matching.of_same (by simp [step]) fun _ => by simp [step]) trivial
  | dialSucceeds turn => exact iff_of_true matching trivial
  | dialFails turn =>
      exact iff_of_true (matching.of_same (by simp [step]) fun _ => by simp [step]) trivial
  | ensureMinRelayConnections =>
      exact iff_of_true (matching.of_same (by simp [step]) fun _ => by simp [step]) trivial
  | updateRelayScore peer latency => exact iff_of_true (matching.withRelay _) trivial
  | recordRelaySuccess peer latency => exact iff_of_true (matching.withRelay _) trivial
  | recordRelayFailure peer => exact iff_of_true (matching.withRelay _) trivial

/-- The flags that are counted are those of the connected known relays. -/
theorem FlagsMatch.activeRelays (matching : FlagsMatch pool) :
    activeRelays pool = pool.connections.countKeys pool.relayNodes.has := by
  rw [ConnectionPool.activeRelays, OrderedMap.values, OrderedMap.countKeys, ← List.countP_eq_length_filter,
    List.countP_map, List.countP_map]
  apply List.countP_congr
  intro entry member
  exact matching entry.1 entry.2 ((OrderedMap.get_iff_mem _ _ _).mpr member)

/-- In every run, the flags match the table at every moment exactly when no known relay connects
    again; and then the relays that are counted are the known ones that are connected. -/
theorem flags_match_iff (config : Config) (past : List Event) :
    (Always (fun past => FlagsMatch (replay config past)) past ↔
      EachInput (NewPeer config) past) ∧
    (EachInput (NewPeer config) past → ∀ earlier, earlier <:+ past →
      activeRelays (replay config earlier) =
        (replay config earlier).connections.countKeys (replay config earlier).relayNodes.has) := by
  have any : EachInput (fun (_ : Event) _ => True) past := fun _ _ _ => trivial
  have always : Always (fun past => FlagsMatch (replay config past)) past ↔
      EachInput (NewPeer config) past := by
    refine always_iff_each any ?_ fun event earlier _ matching => flagsMatch_step matching
    intro peer info held
    cases held
  refine ⟨always, fun each earlier suffix => ?_⟩
  exact (always.mpr each earlier suffix).activeRelays

/-- A relay that connects again, before its protocols are known. -/
theorem reconnected_relay_unflagged : ¬ ∀ (config : Config) (past : List Event),
    FlagsMatch (replay config past) := by
  intro claimed
  have matching := claimed (construct none none none)
    [.connect "relay", .disconnect "relay", .markAsRelay "relay", .connect "relay"] "relay" ⟨false⟩ rfl
  exact absurd (matching.mpr rfl) (by decide)

end Chainmail.ConnectionPool
