import Chainmail.ConnectionPool
import Mathlib.Data.List.Perm.Basic

/-!
The timers of `scheduleReconnect` in `src/network/connection-pool.js`. A disconnect, a
health check and a failed dial each set one, none of them looks whether one is pending,
and a failed dial counts on from the number that its own timer had read.
-/

namespace Chainmail.ConnectionPool

/-- The peers that an event schedules a reconnect for, with the number of attempts it reads. -/
def targets (config : Config) (pool : Pool) : Event → List (String × Nat)
  | .disconnect peer =>
      if pool.isRunning ∧ pool.relayNodes.has peer then [(peer, attempts pool peer)] else []
  | .ensureMinRelayConnections =>
      if pool.isRunning ∧ activeRelays pool < config.minRelayConnections then
        (missingRelays pool).map fun peer => (peer, attempts pool peer)
      else []
  | .dialFails turn =>
      match pool.dials[turn]? with
      | none => []
      | some dial => if pool.isRunning ∧ dial.count < 5 then [(dial.peerId, dial.count + 1)] else []
  | _ => []

/-- The timers that are still pending when an event sets its own. -/
def remaining (pool : Pool) : Event → List Timer
  | .timerFires turn => pool.timers.eraseIdx turn
  | _ => pool.timers

def timerFor (config : Config) (target : String × Nat) : Timer :=
  ⟨target.1, backoff config target.2, target.2⟩

/-- The attempts to reconnect a peer that failed since it connected last. -/
def failures (config : Config) (peer : String) : List Event → Nat
  | [] => 0
  | .connect other :: earlier => if other = peer then 0 else failures config peer earlier
  | .dialFails turn :: earlier =>
      match (replay config earlier).dials[turn]? with
      | none => failures config peer earlier
      | some dial =>
          if dial.peerId = peer then failures config peer earlier + 1
          else failures config peer earlier
  | _ :: earlier => failures config peer earlier

def OneTimer (pool : Pool) : Prop := (pool.timers.map Timer.peerId).Nodup

/-- After the event, one timer at most is pending for each peer, and those that the event set have
    the delay that goes with the attempts that failed. -/
def OneLoop (config : Config) (event : Event) (earlier : List Event) : Prop :=
  OneTimer (replay config (event :: earlier)) ∧
    ∀ timer ∈ (targets config (replay config earlier) event).map (timerFor config), timer.backoff =
      min (config.reconnectBackoffBase * 2 ^ failures config timer.peerId (event :: earlier))
        config.maxReconnectBackoff

/-- No timer is pending for a peer that is scheduled, and the number of attempts that is read for
    it stands for the same delay as the attempts that failed. -/
def Paced (config : Config) (event : Event) (earlier : List Event) : Prop :=
  ∀ target ∈ targets config (replay config earlier) event,
    target.1 ∉ (replay config earlier).timers.map Timer.peerId ∧
      backoff config target.2 = backoff config (failures config target.1 (event :: earlier))

/-- Nothing is scheduled for a peer while a timer is pending for it or its dial is under way, and
    a dial that fails was scheduled after as many failures as there are now. -/
def Orderly (config : Config) (event : Event) (earlier : List Event) : Prop :=
  match event with
  | .dialFails turn => ∀ dial, (replay config earlier).dials[turn]? = some dial →
      dial.count = failures config dial.peerId earlier
  | event => ∀ target ∈ targets config (replay config earlier) event,
      target.1 ∉ (replay config earlier).timers.map Timer.peerId ∧
        target.1 ∉ (replay config earlier).dials.map Dial.peerId

variable {config : Config} {pool : Pool} {event : Event} {earlier past : List Event}

section Steps

theorem reconnects_eq (pool : Pool) (peer : String) : reconnects config pool peer =
    if pool.isRunning then [timerFor config (peer, attempts pool peer)] else [] := rfl

theorem reconnects_all (config : Config) (pool : Pool) (peers : List String) :
    peers.flatMap (reconnects config pool) =
      if pool.isRunning then (peers.map fun peer => (peer, attempts pool peer)).map (timerFor config)
      else [] := by
  induction peers with
  | nil => simp
  | cons peer rest ih =>
      rw [List.flatMap_cons, ih, reconnects_eq]
      cases pool.isRunning <;> simp

theorem ensureMin_timers : (ensureMinRelayConnections config pool).timers =
    pool.timers ++ (targets config pool .ensureMinRelayConnections).map (timerFor config) := by
  rw [ensureMinRelayConnections_eq, reconnects_all, targets]
  by_cases few : activeRelays pool < config.minRelayConnections
  · cases running : pool.isRunning <;> simp [few]
  · simp [few]

/-- What a step does to the timers: they stay but for one that fires, and it sets its own. -/
theorem step_timers (config : Config) (pool : Pool) (event : Event) :
    (step config pool event).timers =
      remaining pool event ++ (targets config pool event).map (timerFor config) := by
  cases event with
  | disconnect peer =>
      simp only [step, onPeerDisconnect_eq, targets, remaining]
      by_cases known : pool.relayNodes.has peer
      · by_cases running : pool.isRunning
        · simp [known, running, reconnects_eq]
        · simp [known, running, reconnects_eq]
      · simp [known]
  | dialFails turn =>
      simp only [step, dialFails, targets, remaining]
      cases found : pool.dials[turn]? with
      | none => simp
      | some dial =>
          by_cases fewer : dial.count < 5
          · by_cases running : pool.isRunning
            · simp [fewer, running, reconnects_eq, attempts]
            · simp [fewer, running, reconnects_eq]
          · simp [fewer]
  | ensureMinRelayConnections => exact ensureMin_timers
  | timerFires turn => simp [step, targets, remaining]
  | identified peer protocols =>
      cases protocols with
      | none => simp [step, identified, targets, remaining]
      | some protocols =>
          rw [step, identified]
          split <;> simp [markAsRelay, targets, remaining]
  | start => simp [step, targets, remaining]
  | stop => simp [step, targets, remaining]
  | connect peer => simp [step, onPeerConnect, targets, remaining]
  | markAsRelay peer => simp [step, markAsRelay, targets, remaining]
  | addressed peer multiaddr => simp [step, targets, remaining]
  | dialSucceeds turn => simp [step, targets, remaining]
  | updateRelayScore peer latency => simp [step, updateRelayScore, targets, remaining]
  | recordRelaySuccess peer latency => simp [step, recordRelaySuccess, targets, remaining]
  | recordRelayFailure peer => simp [step, recordRelayFailure, targets, remaining]

/-- An event schedules each peer once. -/
theorem targets_nodup (config : Config) (pool : Pool) (event : Event) :
    ((targets config pool event).map Prod.fst).Nodup := by
  cases event with
  | disconnect peer =>
      rw [targets]
      split <;> simp
  | ensureMinRelayConnections =>
      rw [targets]
      split
      · rw [List.map_map]
        have names : (Prod.fst ∘ fun peer => (peer, attempts pool peer)) = (id : String → String) := rfl
        rw [names, List.map_id]
        exact pool.relayNodes.unique.filter _
      · simp
  | dialFails turn =>
      rw [targets]
      split
      · simp
      · split <;> simp
  | _ => simp [targets]

/-- Whoever schedules leaves all timers pending. -/
theorem remaining_of_target {target : String × Nat} (member : target ∈ targets config pool event) :
    remaining pool event = pool.timers := by
  cases event with
  | timerFires turn => cases member
  | _ => rfl

theorem remaining_sublist (pool : Pool) (event : Event) :
    (remaining pool event).Sublist pool.timers := by
  cases event with
  | timerFires turn => exact List.eraseIdx_sublist _ _
  | _ => exact .refl _

theorem timer_peers (config : Config) (found : List (String × Nat)) :
    (found.map (timerFor config)).map Timer.peerId = found.map Prod.fst := by
  rw [List.map_map]
  rfl

/-- One timer for each peer is left as one exactly when none was pending for those scheduled. -/
theorem oneTimer_step (one : OneTimer pool) : OneTimer (step config pool event) ↔
    ∀ target ∈ targets config pool event, target.1 ∉ pool.timers.map Timer.peerId := by
  have stays : ((remaining pool event).map Timer.peerId).Nodup :=
    List.Nodup.sublist ((remaining_sublist pool event).map _) one
  rw [OneTimer, step_timers, List.map_append, timer_peers, List.nodup_append]
  constructor
  · rintro ⟨_, _, apart⟩ target member pending
    rw [← remaining_of_target member] at pending
    exact apart _ pending _ (List.mem_map_of_mem member) rfl
  · intro fresh
    refine ⟨stays, targets_nodup config pool event, ?_⟩
    rintro peer pending other scheduled rfl
    obtain ⟨target, member, rfl⟩ := List.mem_map.mp scheduled
    rw [remaining_of_target member] at pending
    exact fresh target member pending

theorem oneLoop_iff (one : OneTimer (replay config earlier)) :
    OneLoop config event earlier ↔ Paced config event earlier := by
  rw [OneLoop, replay, oneTimer_step one, Paced, List.forall_mem_map, ← forall₂_and]
  exact Iff.rfl

theorem OneLoop.oneTimer (each : EachInput (OneLoop config) past) : OneTimer (replay config past) := by
  cases past with
  | nil => exact List.nodup_nil
  | cons event earlier => exact (eachInput_cons.mp each).1.1

theorem each_oneLoop_iff (config : Config) (past : List Event) :
    EachInput (OneLoop config) past ↔ EachInput (Paced config) past := by
  induction past with
  | nil => exact iff_of_true eachInput_nil eachInput_nil
  | cons event earlier ih =>
      rw [eachInput_cons, eachInput_cons, ih]
      exact and_congr_left fun paced => oneLoop_iff (OneLoop.oneTimer (ih.mpr paced))

end Steps

section Orderly
variable {peer : String}

/-- The peers whose reconnect is under way, by a timer or by its dial. -/
def underWay (pool : Pool) : List String :=
  pool.timers.map Timer.peerId ++ pool.dials.map Dial.peerId

/-- There is one loop at most for each peer, and the attempts are counted right. -/
structure Watched (config : Config) (past : List Event) : Prop where
  once : (underWay (replay config past)).Nodup
  counted : ∀ peer, attempts (replay config past) peer = failures config peer past

theorem watched_initial (config : Config) : Watched config [] :=
  ⟨List.nodup_nil, fun _ => rfl⟩

theorem nodup_of_subperm {left right : List String} (part : left.Subperm right)
    (distinct : right.Nodup) : left.Nodup := by
  obtain ⟨kept, order, sublist⟩ := part
  exact order.nodup_iff.mp (distinct.sublist sublist)

/-- An event that leaves the attempts alone and lets no loop begin. -/
theorem Watched.of_subperm (watched : Watched config earlier)
    (fewer : (underWay (step config (replay config earlier) event)).Subperm
      (underWay (replay config earlier)))
    (same : (step config (replay config earlier) event).failedAttempts =
      (replay config earlier).failedAttempts)
    (counts : ∀ peer, failures config peer (event :: earlier) = failures config peer earlier) :
    Watched config (event :: earlier) := by
  refine ⟨nodup_of_subperm fewer watched.once, fun peer => ?_⟩
  rw [counts, attempts, replay, same]
  exact watched.counted peer

theorem Watched.withRelay {peer : String} {change : RelayNodeInfo → RelayNodeInfo}
    (watched : Watched config earlier)
    (changes : step config (replay config earlier) event =
      ConnectionPool.withRelay peer change (replay config earlier))
    (counts : ∀ peer, failures config peer (event :: earlier) = failures config peer earlier) :
    Watched config (event :: earlier) := by
  refine watched.of_subperm ?_ ?_ counts
  · rw [changes, underWay, withRelay_timers, withRelay_dials]
    exact List.Subperm.refl _
  · rw [changes, withRelay_failedAttempts]

/-- An event that schedules peers for which nothing is under way. -/
theorem Watched.of_targets (watched : Watched config earlier)
    (dials : (step config (replay config earlier) event).dials = (replay config earlier).dials)
    (same : (step config (replay config earlier) event).failedAttempts =
      (replay config earlier).failedAttempts)
    (counts : ∀ peer, failures config peer (event :: earlier) = failures config peer earlier)
    (stays : remaining (replay config earlier) event = (replay config earlier).timers)
    (fresh : ∀ target ∈ targets config (replay config earlier) event,
      target.1 ∉ (replay config earlier).timers.map Timer.peerId ∧
        target.1 ∉ (replay config earlier).dials.map Dial.peerId) :
    Watched config (event :: earlier) := by
  refine ⟨?_, fun peer => ?_⟩
  · rw [replay, underWay, step_timers, stays, dials, List.map_append, timer_peers, List.append_assoc,
      (List.perm_append_comm_assoc _ _ _).nodup_iff, List.nodup_append]
    refine ⟨targets_nodup config _ event, watched.once, ?_⟩
    rintro peer scheduled other pending rfl
    obtain ⟨target, member, rfl⟩ := List.mem_map.mp scheduled
    rcases List.mem_append.mp pending with timer | dial
    · exact (fresh target member).1 timer
    · exact (fresh target member).2 dial
  · rw [counts, attempts, replay, same]
    exact watched.counted peer

/-- A timer that fires hands its peer on to its dial, or is done. -/
theorem underWay_timerFires (turn : Nat) (pool : Pool) :
    (underWay (timerFires turn pool)).Subperm (underWay pool) := by
  rw [timerFires]
  cases found : pool.timers[turn]? with
  | none => exact List.Subperm.refl _
  | some timer =>
      obtain ⟨inside, rfl⟩ := List.getElem?_eq_some_iff.mp found
      have taken := (List.getElem_cons_eraseIdx_perm inside).map Timer.peerId
      dsimp only
      split
      · apply List.Perm.subperm
        rw [underWay, underWay, List.map_append, List.map_singleton, ← List.append_assoc]
        exact (List.perm_append_singleton _ _).trans (taken.append_right _)
      · exact (((List.eraseIdx_sublist _ _).map _).append_right _).subperm

theorem underWay_dialSucceeds (turn : Nat) (pool : Pool) :
    (underWay { pool with dials := pool.dials.eraseIdx turn }).Subperm (underWay pool) :=
  (((List.eraseIdx_sublist _ _).map _).append_left _).subperm

/-- A dial that fails hands its peer back to a timer, or gives it up. -/
theorem underWay_dialFails (turn : Nat) (pool : Pool) :
    (underWay (dialFails config turn pool)).Subperm (underWay pool) := by
  rw [dialFails]
  cases found : pool.dials[turn]? with
  | none => exact List.Subperm.refl _
  | some dial =>
      obtain ⟨inside, rfl⟩ := List.getElem?_eq_some_iff.mp found
      have taken := (List.getElem_cons_eraseIdx_perm inside).map Dial.peerId
      have given : (underWay { pool with dials := pool.dials.eraseIdx turn }).Subperm (underWay pool) :=
        underWay_dialSucceeds turn pool
      dsimp only
      split
      · rw [underWay, scheduleReconnect_timers, reconnects_eq]
        split
        · apply List.Perm.subperm
          rw [List.map_append, List.map_singleton, List.append_assoc, List.singleton_append]
          exact taken.append_left _
        · rw [List.append_nil]
          exact given
      · exact given

theorem Watched.dialFails {turn : Nat} (watched : Watched config earlier)
    (orderly : Orderly config (.dialFails turn) earlier) :
    Watched config (.dialFails turn :: earlier) := by
  refine ⟨nodup_of_subperm (underWay_dialFails turn _) watched.once, fun peer => ?_⟩
  have before := watched.counted peer
  rw [replay, step, ConnectionPool.dialFails, failures]
  cases found : (replay config earlier).dials[turn]? with
  | none => exact before
  | some dial =>
      have counted : attempts { replay config earlier with
          dials := (replay config earlier).dials.eraseIdx turn
          failedAttempts := (replay config earlier).failedAttempts.set dial.peerId (dial.count + 1) }
          peer = if dial.peerId = peer then dial.count + 1 else attempts (replay config earlier) peer := by
        rw [attempts]
        by_cases own : dial.peerId = peer
        · simp [own]
        · simp [own, OrderedMap.get_set_of_ne _ _ (Ne.symm own), attempts]
      have scheduled {after : Pool} (same : attempts after peer = if dial.peerId = peer then
          dial.count + 1 else attempts (replay config earlier) peer) : attempts after peer =
            if dial.peerId = peer then failures config peer earlier + 1
            else failures config peer earlier := by
        rw [same, before]
        by_cases own : dial.peerId = peer
        · rw [if_pos own, if_pos own, orderly dial found, own]
        · rw [if_neg own, if_neg own]
      -- Whether another timer is set makes no difference to the count.
      dsimp only
      split
      · exact scheduled counted
      · exact scheduled counted

theorem Watched.connect (watched : Watched config earlier) (peer : String) :
    Watched config (.connect peer :: earlier) := by
  refine ⟨watched.once, fun other => ?_⟩
  rw [replay, step, onPeerConnect, failures, attempts, OrderedMap.get_delete]
  by_cases same : other = peer
  · simp [same]
  · rw [if_neg same, if_neg (Ne.symm same)]
    exact watched.counted other

theorem Watched.step (watched : Watched config earlier) (orderly : Orderly config event earlier) :
    Watched config (event :: earlier) := by
  cases event with
  | connect peer => exact watched.connect peer
  | disconnect peer =>
      exact watched.of_targets (by simp [ConnectionPool.step]) (by simp [ConnectionPool.step])
        (fun _ => rfl) rfl orderly
  | ensureMinRelayConnections =>
      exact watched.of_targets (by simp [ConnectionPool.step]) (by simp [ConnectionPool.step])
        (fun _ => rfl) rfl orderly
  | dialFails turn => exact watched.dialFails orderly
  | timerFires turn =>
      exact watched.of_subperm (underWay_timerFires turn _) (by simp [ConnectionPool.step])
        fun _ => rfl
  | dialSucceeds turn =>
      exact watched.of_subperm (underWay_dialSucceeds turn _) rfl fun _ => rfl
  | identified peer protocols =>
      cases protocols with
      | none => exact watched.of_subperm (List.Subperm.refl _) rfl fun _ => rfl
      | some protocols =>
          refine watched.of_subperm ?_ ?_ fun _ => rfl
          · rw [ConnectionPool.step, identified]
            split <;> exact List.Subperm.refl _
          · rw [ConnectionPool.step, identified]
            split <;> rfl
  | start => exact watched.of_subperm (List.Subperm.refl _) rfl fun _ => rfl
  | stop => exact watched.of_subperm (List.Subperm.refl _) rfl fun _ => rfl
  | markAsRelay peer => exact watched.of_subperm (List.Subperm.refl _) rfl fun _ => rfl
  | addressed peer multiaddr => exact watched.withRelay rfl fun _ => rfl
  | updateRelayScore peer latency => exact watched.withRelay rfl fun _ => rfl
  | recordRelaySuccess peer latency => exact watched.withRelay rfl fun _ => rfl
  | recordRelayFailure peer => exact watched.withRelay rfl fun _ => rfl

theorem each_watched (config : Config) (past : List Event) (orderly : EachInput (Orderly config) past) :
    Watched config past := by
  induction past with
  | nil => exact watched_initial config
  | cons event earlier ih =>
      obtain ⟨own, before⟩ := eachInput_cons.mp orderly
      exact (ih before).step own

/-- What is read from the pool is the number of the failures. -/
theorem Watched.paced_of_read (watched : Watched config earlier)
    (fresh : ∀ target ∈ targets config (replay config earlier) event,
      target.1 ∉ (replay config earlier).timers.map Timer.peerId ∧
        target.1 ∉ (replay config earlier).dials.map Dial.peerId)
    (read : ∀ target ∈ targets config (replay config earlier) event,
      target.2 = attempts (replay config earlier) target.1)
    (counts : ∀ peer, failures config peer (event :: earlier) = failures config peer earlier) :
    Paced config event earlier := by
  intro target member
  refine ⟨(fresh target member).1, ?_⟩
  rw [counts, ← watched.counted, read target member]

theorem Watched.paced (watched : Watched config earlier) (orderly : Orderly config event earlier) :
    Paced config event earlier := by
  cases event with
  | disconnect peer =>
      refine watched.paced_of_read orderly (fun target member => ?_) fun _ => rfl
      rw [targets] at member
      split at member
      · rw [List.mem_singleton.mp member]
      · cases member
  | ensureMinRelayConnections =>
      refine watched.paced_of_read orderly (fun target member => ?_) fun _ => rfl
      rw [targets] at member
      split at member
      · obtain ⟨peer, _, rfl⟩ := List.mem_map.mp member
        rfl
      · cases member
  | dialFails turn =>
      intro target member
      cases found : (replay config earlier).dials[turn]? with
      | none => simp [targets, found] at member
      | some dial =>
          simp only [targets, found] at member
          split at member
          · obtain rfl := List.mem_singleton.mp member
            -- A dial and a timer for one peer are never under way at once.
            have apart := List.disjoint_of_nodup_append watched.once
            have waits : dial.peerId ∈ (replay config earlier).dials.map Dial.peerId :=
              List.mem_map_of_mem (List.mem_of_getElem? found)
            refine ⟨fun pending => apart pending waits, ?_⟩
            simp [failures, found, orderly dial found]
          · cases member
  | _ =>
      intro target member
      cases member

theorem each_paced (orderly : EachInput (Orderly config) past) : EachInput (Paced config) past := by
  intro event earlier suffix
  have before := orderly.suffix ((List.suffix_cons event earlier).trans suffix)
  exact (each_watched config earlier before).paced (orderly event earlier suffix)

end Orderly

/-- In every run there is one timer at most for each peer, and each has the delay that goes with
    the failures before it, exactly when every event that schedules is paced; which it is where no
    reconnect is under way for a peer that is scheduled, and a dial that fails counts on from the
    number of failures. -/
theorem reconnect_loops_iff (config : Config) (past : List Event) :
    (EachInput (OneLoop config) past ↔ EachInput (Paced config) past) ∧
      (EachInput (Orderly config) past → EachInput (OneLoop config) past) := by
  refine ⟨each_oneLoop_iff config past, fun orderly => ?_⟩
  exact (each_oneLoop_iff config past).mpr (each_paced orderly)

/-- A relay is lost, and before its timer fires the health check finds too few relays. -/
theorem health_check_adds_timer : ¬ ∀ (config : Config) (past : List Event),
    EachInput (OneLoop config) past := by
  intro claimed
  have loop := claimed (construct none none none)
    [.ensureMinRelayConnections, .disconnect "relay", .markAsRelay "relay", .connect "relay", .start]
    _ _ (List.suffix_refl _)
  exact absurd loop.1 (by
    rw [OneTimer]
    decide)

end Chainmail.ConnectionPool
