import Chainmail.RateLimiter
import Mathlib.Data.List.Pairwise

/-!
The limiter decides as if it looked at the whole history of allowed requests.
What is pruned, whenever and by whichever function, lies outside every later
window, so the two stores keep the same requests of every window to come.
-/

namespace Chainmail

namespace RateLimiter

variable {Sender : Type} [DecidableEq Sender] {config : Config}

/-- A window that starts later leaves out whatever an earlier one does. -/
theorem recent_mono {now later time : Nat} (order : now ≤ later)
    (inside : recent config later time = true) : recent config now time = true := by
  rw [recent, windowStart] at inside ⊢
  cases width : config.windowMs with
  | finite width =>
      rw [width] at inside
      have moved : (now : ℚ) ≤ later := by exact_mod_cast order
      exact JsNumber.rounded_lt_of_le (by linarith) inside
  | _ =>
      rw [width] at inside
      exact inside

/-- Pruning earlier takes nothing away from a later window. -/
theorem pruned_pruned {now later : Nat} (order : now ≤ later) (timestamps : List Nat) :
    pruned config later (pruned config now timestamps) = pruned config later timestamps := by
  rw [pruned, pruned, List.filter_filter, pruned]
  apply List.filter_congr
  intro time _
  by_cases inside : recent config later time = true
  · simp [inside, recent_mono order inside]
  · simp [inside]

theorem pruned_append (now : Nat) (left right : List Nat) :
    pruned config now (left ++ right) = pruned config now left ++ pruned config now right :=
  List.filter_append ..

inductive Event (Sender : Type) where
  | checkAndRecord (senderId : Sender)
  | cleanup
  | getRate (senderId : Sender)
  | getGlobalRate

/-- What an event decides, if it decides anything, and the limiter after it. -/
def step (config : Config) (event : Event Sender) (now : Nat) (limiter : Limiter Sender) :
    Option Bool × Limiter Sender :=
  match event with
  | .checkAndRecord senderId =>
      let result := checkAndRecord config senderId now limiter
      (some result.1.allowed, result.2)
  | .cleanup => (none, cleanup config now limiter)
  | .getRate _ => (none, limiter)
  | .getGlobalRate => (none, (getGlobalRate config now limiter).2)

def decisions (config : Config) : Limiter Sender → List (Event Sender × Nat) → List Bool
  | _, [] => []
  | limiter, (event, now) :: rest =>
      let stepped := step config event now limiter
      stepped.1.toList ++ decisions config stepped.2 rest

section Reference

/-- Where a window starts when no sum is rounded. -/
def exactStart (config : Config) (now : Nat) : JsNumber := (JsNumber.ofNat now).sub config.windowMs

/-- After the start of the window, and not after its end. -/
def inWindow (windowStart : Nat → JsNumber) (now time : Nat) : Bool :=
  (windowStart now).lt (.ofNat time) && time ≤ now

/-- Fewer than the limit in the window, of all requests and of the sender's own. -/
def allows (config : Config) (windowStart : Nat → JsNumber) (history : List (Sender × Nat))
    (senderId : Sender) (now : Nat) : Bool :=
  let requests := history.filter fun request => inWindow windowStart now request.2
  (JsNumber.ofNat requests.length).lt config.globalMaxRequests &&
    (JsNumber.ofNat (requests.countP fun request => request.1 = senderId)).lt config.maxRequests

/-- What is decided by looking at all requests that were allowed before. -/
def reference (config : Config) (windowStart : Nat → JsNumber) :
    List (Sender × Nat) → List (Event Sender × Nat) → List Bool
  | _, [] => []
  | history, (.checkAndRecord senderId, now) :: rest =>
      let allowed := allows config windowStart history senderId now
      let requests := if allowed then history ++ [(senderId, now)] else history
      allowed :: reference config windowStart requests rest
  | history, _ :: rest => reference config windowStart history rest

/-- Only the windows at the times of the events matter. -/
theorem reference_congr {first second : Nat → JsNumber} (history : List (Sender × Nat))
    (events : List (Event Sender × Nat)) (same : ∀ event ∈ events, first event.2 = second event.2) :
    reference config first history events = reference config second history events := by
  induction events generalizing history with
  | nil => rfl
  | cons event rest ih =>
      have others := fun history => ih history fun event member =>
        same event (List.mem_cons_of_mem _ member)
      have own := same event List.mem_cons_self
      obtain ⟨event, now⟩ := event
      cases event with
      | checkAndRecord senderId =>
          have decided : allows config first history senderId now =
              allows config second history senderId now := by
            simp only [allows, inWindow, own]
          rw [reference, reference, decided]
          simp only [others]
      | cleanup => exact others history
      | getRate senderId => exact others history
      | getGlobalRate => exact others history

end Reference

section Agreement

def timesOf (senderId : Sender) (history : List (Sender × Nat)) : List Nat :=
  (history.filter fun request => request.1 = senderId).map Prod.snd

/-- The limiter and the history hold the same requests of every window from now on. -/
structure Tracks (config : Config) (limiter : Limiter Sender) (history : List (Sender × Nat))
    (now : Nat) : Prop where
  past : ∀ request ∈ history, request.2 ≤ now
  everyone : ∀ later, now ≤ later →
    pruned config later limiter.globalRequests = pruned config later (history.map Prod.snd)
  each : ∀ senderId later, now ≤ later →
    pruned config later (timestampsOf senderId limiter) =
      pruned config later (timesOf senderId history)

variable {limiter : Limiter Sender} {history : List (Sender × Nat)} {now later : Nat}

theorem tracks_start : Tracks config (start : Limiter Sender) [] now where
  past := by simp
  everyone _ _ := rfl
  each _ _ _ := rfl

theorem Tracks.wait (tracks : Tracks config limiter history now) (order : now ≤ later) :
    Tracks config limiter history later where
  past request member := (tracks.past request member).trans order
  everyone last further := tracks.everyone last (order.trans further)
  each senderId last further := tracks.each senderId last (order.trans further)

theorem Tracks.prune (tracks : Tracks config limiter history now) :
    Tracks config { limiter with globalRequests := pruned config now limiter.globalRequests }
      history now where
  past := tracks.past
  everyone later order := by rw [pruned_pruned order, tracks.everyone later order]
  each := tracks.each

theorem timestampsOf_record (senderId other : Sender) :
    timestampsOf other (record senderId now limiter) =
      if other = senderId then timestampsOf senderId limiter ++ [now]
      else timestampsOf other limiter := by
  simp only [timestampsOf, record, OrderedMap.get_set]
  split <;> rfl

theorem timesOf_append (senderId other : Sender) :
    timesOf other (history ++ [(senderId, now)]) =
      if other = senderId then timesOf senderId history ++ [now] else timesOf other history := by
  by_cases same : other = senderId
  · simp [timesOf, same]
  · simp [timesOf, same, Ne.symm same]

theorem Tracks.record (tracks : Tracks config limiter history now) (senderId : Sender) :
    Tracks config (RateLimiter.record senderId now limiter) (history ++ [(senderId, now)]) now where
  past := by
    intro request member
    rcases List.mem_append.mp member with old | new
    · exact tracks.past request old
    · rw [List.mem_singleton.mp new]
  everyone later order := by
    rw [RateLimiter.record, List.map_append, pruned_append, pruned_append,
      tracks.everyone later order]
    rfl
  each other later order := by
    rw [timestampsOf_record, timesOf_append]
    split
    · rw [pruned_append, pruned_append, tracks.each senderId later order]
    · exact tracks.each other later order

theorem cleaned_get (entries : List (Sender × List Nat)) (requests : OrderedMap Sender (List Nat))
    (unique : (entries.map Prod.fst).Nodup) (senderId : Sender) :
    ((entries.foldl (cleanSender config now) requests).get senderId).getD [] =
      match OrderedMap.lookupEntry entries senderId with
      | some timestamps => pruned config now timestamps
      | none => (requests.get senderId).getD [] := by
  induction entries generalizing requests with
  | nil => rfl
  | cons entry rest ih =>
      obtain ⟨absent, distinct⟩ := List.nodup_cons.mp unique
      rw [List.foldl_cons, ih _ distinct, OrderedMap.lookupEntry]
      by_cases own : entry.1 = senderId
      · have last : OrderedMap.lookupEntry rest senderId = none := by
          cases found : OrderedMap.lookupEntry rest senderId with
          | none => rfl
          | some timestamps =>
              have member := List.mem_map_of_mem (f := Prod.fst) (OrderedMap.lookup_mem found)
              rw [← own] at member
              exact absurd member absent
        rw [last, if_pos own, cleanSender]
        by_cases empty : pruned config now entry.2 = []
        · simp [own, empty]
        · simp [own, empty]
      · rw [if_neg own]
        split
        · rfl
        · rw [cleanSender]
          split
          · rw [OrderedMap.get_delete_of_ne _ (Ne.symm own)]
          · rw [OrderedMap.get_set_of_ne _ _ (Ne.symm own)]

theorem timestampsOf_cleanup (senderId : Sender) (now : Nat) (limiter : Limiter Sender) :
    timestampsOf senderId (cleanup config now limiter) =
      pruned config now (timestampsOf senderId limiter) := by
  rw [timestampsOf, cleanup, cleaned_get _ _ limiter.requests.unique, timestampsOf, OrderedMap.get]
  cases OrderedMap.lookupEntry limiter.requests.entries senderId <;> rfl

theorem Tracks.cleanup (tracks : Tracks config limiter history now) :
    Tracks config (RateLimiter.cleanup config now limiter) history now where
  past := tracks.past
  everyone later order := by
    rw [RateLimiter.cleanup, pruned_pruned order, tracks.everyone later order]
  each senderId later order := by
    rw [timestampsOf_cleanup, pruned_pruned order, tracks.each senderId later order]

/-- No time in the history is later than now, so its window has no upper end to check. -/
theorem Tracks.window (tracks : Tracks config limiter history now) :
    (history.filter fun request => inWindow (windowStart config) now request.2) =
      history.filter fun request => recent config now request.2 := by
  apply List.filter_congr
  intro request member
  simp [inWindow, recent, tracks.past request member]

theorem Tracks.allowed_iff (tracks : Tracks config limiter history now) (senderId : Sender) :
    (check config senderId now limiter).1.allowed =
      allows config (windowStart config) history senderId now := by
  have everyone : (pruned config now limiter.globalRequests).length =
      (history.filter fun request => recent config now request.2).length := by
    rw [tracks.everyone now (Nat.le_refl now), pruned, List.filter_map, List.length_map]
    rfl
  have each : (pruned config now (timestampsOf senderId limiter)).length =
      (history.filter fun request => recent config now request.2).countP
        fun request => request.1 = senderId := by
    rw [tracks.each senderId now (Nat.le_refl now), pruned, timesOf, List.filter_map,
      List.length_map, List.countP_eq_length_filter, List.filter_filter, List.filter_filter]
    congr 1
    apply List.filter_congr
    intro request _
    simp [Bool.and_comm]
  have globalLimit := JsNumber.ne_nan_of_truthy config.hasGlobal
  have senderLimit := JsNumber.ne_nan_of_truthy config.hasMax
  rw [allows, tracks.window, check, globalFull, everyone,
    JsNumber.ge_eq_not_lt (JsNumber.ofNat_ne_nan _) globalLimit]
  split
  next full => simp_all
  next room =>
    have same : timestampsOf senderId
        { limiter with globalRequests := pruned config now limiter.globalRequests } =
        timestampsOf senderId limiter := rfl
    simp only [same, each, JsNumber.ge_eq_not_lt (JsNumber.ofNat_ne_nan _) senderLimit]
    split
    next full => simp_all
    next free => simp_all

theorem check_limiter (senderId : Sender) (now : Nat) (limiter : Limiter Sender) :
    (check config senderId now limiter).2 =
      { limiter with globalRequests := pruned config now limiter.globalRequests } := by
  rw [check]
  split
  · rfl
  · simp only
    split <;> rfl

theorem Tracks.request (tracks : Tracks config limiter history now) (senderId : Sender) :
    (checkAndRecord config senderId now limiter).1.allowed =
        allows config (windowStart config) history senderId now ∧
      Tracks config (checkAndRecord config senderId now limiter).2
        (if allows config (windowStart config) history senderId now then
          history ++ [(senderId, now)] else history) now := by
  have decided := tracks.allowed_iff senderId
  rw [checkAndRecord, check_limiter]
  split
  next allowed =>
    rw [decided] at allowed
    rw [if_pos allowed]
    exact ⟨decided, tracks.prune.record senderId⟩
  next refused =>
    rw [decided] at refused
    rw [if_neg refused, check_limiter]
    exact ⟨decided, tracks.prune⟩

theorem decisions_eq_reference (events : List (Event Sender × Nat))
    (tracks : Tracks config limiter history now) (after : ∀ event ∈ events, now ≤ event.2)
    (ordered : events.Pairwise fun earlier later => earlier.2 ≤ later.2) :
    decisions config limiter events = reference config (windowStart config) history events := by
  induction events generalizing limiter history now with
  | nil => rfl
  | cons event rest ih =>
      obtain ⟨later, sorted⟩ := List.pairwise_cons.mp ordered
      have waited := tracks.wait (after event List.mem_cons_self)
      obtain ⟨event, time⟩ := event
      cases event with
      | checkAndRecord senderId =>
          obtain ⟨decided, recorded⟩ := waited.request senderId
          rw [decisions, reference]
          simp only [step, decided, Option.toList_some, List.singleton_append]
          rw [ih recorded later sorted]
      | cleanup => exact ih waited.cleanup later sorted
      | getRate senderId => exact ih waited later sorted
      | getGlobalRate => exact ih waited.prune later sorted

end Agreement

/-- The event asks for a decision. -/
def isRequest : Event Sender × Nat → Bool
  | (.checkAndRecord _, _) => true
  | _ => false

theorem reference_requests (history : List (Sender × Nat)) (events : List (Event Sender × Nat)) :
    reference config (windowStart config) history (events.filter isRequest) =
      reference config (windowStart config) history events := by
  induction events generalizing history with
  | nil => rfl
  | cons event rest ih =>
      obtain ⟨event, time⟩ := event
      cases event with
      | checkAndRecord senderId => simp only [List.filter_cons, isRequest, if_true, reference, ih]
      | cleanup => exact ih history
      | getRate senderId => exact ih history
      | getGlobalRate => exact ih history

section Whole

/-- No window that ends with an event starts at a rounded time. -/
def ExactStarts {Call : Type} (config : Config) (events : List (Call × Nat)) : Prop :=
  ∀ event ∈ events, windowStart config event.2 = exactStart config event.2

/-- The last time that a clock shows. -/
def latestTime : Nat := 8640000000000000

/-- The window has no end, or takes whole milliseconds few enough for their sums with times. -/
def Config.WholeWindow (config : Config) : Prop :=
  ∀ width, config.windowMs = .finite width → ∃ n : ℤ, width = n ∧ |n| ≤ 2 ^ 53 - latestTime

variable {config : Config} {now : Nat}

theorem wholeWindow_of_nat {n : Nat} (width : config.windowMs = .ofNat n)
    (small : n ≤ 2 ^ 53 - latestTime) : config.WholeWindow := by
  intro value known
  rw [width] at known
  cases known
  refine ⟨n, rfl, ?_⟩
  rw [Nat.abs_cast]
  rw [latestTime] at small ⊢
  omega

theorem windowStart_of_whole (whole : config.WholeWindow) (shown : now ≤ latestTime) :
    windowStart config now = exactStart config now := by
  rw [windowStart, exactStart]
  cases width : config.windowMs with
  | finite value =>
      obtain ⟨n, rfl, small⟩ := whole value width
      have size : |(now : ℤ) - n| ≤ 2 ^ 53 := by
        rw [latestTime] at shown small
        rw [abs_le] at small ⊢
        omega
      rw [JsNumber.ofNat_eq_int, JsNumber.minus_int size]
  | _ => rfl

theorem exactStarts_of_whole {Call : Type} {events : List (Call × Nat)}
    (whole : config.WholeWindow) (shown : ∀ event ∈ events, event.2 ≤ latestTime) :
    ExactStarts config events :=
  fun event member => windowStart_of_whole whole (shown event member)

end Whole

/-- Every decision is the reference's over the windows as they are computed, which are the exact
    ones where no start is rounded, and so none depends on a cleanup or a query. -/
theorem sliding_window_exact (config : Config) (events : List (Event Sender × Nat))
    (ordered : events.Pairwise fun earlier later => earlier.2 ≤ later.2) :
    decisions config start events = reference config (windowStart config) [] events ∧
      (ExactStarts config events →
        decisions config start events = reference config (exactStart config) [] events) ∧
      ∀ others : List (Event Sender × Nat),
        (others.Pairwise fun earlier later => earlier.2 ≤ later.2) →
        others.filter isRequest = events.filter isRequest →
        decisions config start others = decisions config start events := by
  have computed (run : List (Event Sender × Nat))
      (sorted : run.Pairwise fun earlier later => earlier.2 ≤ later.2) :
      decisions config start run = reference config (windowStart config) [] run :=
    decisions_eq_reference run (tracks_start : Tracks config start [] 0)
      (fun _ _ => Nat.zero_le _) sorted
  refine ⟨computed events ordered, fun starts => ?_, fun others sorted same => ?_⟩
  · rw [computed events ordered]
    exact reference_congr [] events starts
  · rw [computed others sorted, computed events ordered, ← reference_requests, same,
      reference_requests]

/-- Two requests in ten milliseconds. -/
def twoInTen : Config := configure (.ofNat 2) (.ofNat 10) .nan

theorem twoInTen_whole : twoInTen.WholeWindow :=
  wholeWindow_of_nat (by decide +kernel : twoInTen.windowMs = .ofNat 10) (by decide)

theorem three_requests_decided : decisions twoInTen start
      [(.checkAndRecord "a", 1), (.checkAndRecord "a", 2), (.cleanup, 3), (.checkAndRecord "a", 3)] =
    reference twoInTen (exactStart twoInTen) []
      [(.checkAndRecord "a", 1), (.checkAndRecord "a", 2), (.cleanup, 3), (.checkAndRecord "a", 3)] :=
  (sliding_window_exact _ _ (by decide)).2.1 (exactStarts_of_whole twoInTen_whole (by decide))

/-- One request in a window of far less than a millisecond. -/
def fleeting : Config := configure (.ofNat 1) (.finite (1 / 131072)) .nan

/-- A request that the window holds is forgotten where its start is rounded up to now. -/
theorem fleeting_window_passed : ¬ ∀ (config : Config) (events : List (Event String × Nat)),
    (events.Pairwise fun earlier later => earlier.2 ≤ later.2) →
      decisions config start events = reference config (exactStart config) [] events := by
  intro claimed
  have same := claimed fleeting
    [(.checkAndRecord "a", 1700000000000), (.checkAndRecord "a", 1700000000000)] (by decide)
  revert same
  decide +kernel

end RateLimiter
end Chainmail
