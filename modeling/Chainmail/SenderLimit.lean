import Chainmail.GlobalLimit

/-!
How many requests of one sender are let through in a window. The limit moves with
the sender's reputation, but each request is measured by the limit of its moment,
and no limit is above three times the base.
-/

namespace Chainmail.ReputationLimiter

open RateLimiter

variable {Sender : Type} [DecidableEq Sender]

/-- The state after a run. -/
def replay (config : Config) (events : List (Event Sender × Nat)) : State Sender :=
  events.foldl (fun state event => (step config event.1 event.2 state).2) start

/-- The requests of a sender in the window that ends now. -/
def requestsOf (windowStart : Nat → JsNumber) (senderId : Sender) (now : Nat)
    (requests : List (Sender × Nat)) : Nat :=
  requests.countP fun request => request.1 = senderId && inWindow windowStart now request.2

/-- The limit of a sender with the highest reputation. -/
def topLimit (config : Config) : JsNumber := floorScaled 3 config.base.maxRequests

/-- `Math.floor(limit * multiplier)` when no product is rounded. -/
def exactScaled (multiplier : ℚ) (limit : JsNumber) : JsNumber :=
  (limit.mul (.finite multiplier)).floor

/-- A request that is let through is, with those of its sender in the window before it, within the
    limit of the sender's reputation at that moment; and no window that ends with a request is
    ever above three times the base limit. -/
def WithinLimits (config : Config) (windowStart : Nat → JsNumber)
    (scaled : ℚ → JsNumber → JsNumber) (events : List (Event Sender × Nat)) : Prop :=
  (∀ before senderId messageSize now after,
    events = before ++ (.checkAndRecord senderId messageSize, now) :: after →
    (checkAndRecord config senderId messageSize now (replay config before)).1 = none →
    (scaled (multiplierOf (reputationOr 0 senderId (replay config before)))
      config.base.maxRequests).ge (.ofNat (requestsOf windowStart senderId now
        (accepted config start (before ++ [(.checkAndRecord senderId messageSize, now)])))) = true) ∧
  ∀ request ∈ accepted config start events,
    (scaled 3 config.base.maxRequests).ge (.ofNat (requestsOf windowStart request.1 request.2
      (accepted config start events))) = true

/-- The base limit is infinite, or a whole number of which a double holds six times as much. -/
def WholeLimit (config : Config) : Prop :=
  ∀ limit, config.base.maxRequests = .finite limit → ∃ n : ℤ, limit = n ∧ |n| ≤ 2 ^ 50

/-- One to six halves, as every multiplier is. -/
def Halves (multiplier : ℚ) : Prop := ∃ k : ℤ, 0 < k ∧ k ≤ 6 ∧ multiplier = k / 2

/-- Rounding changes none of the limits that a sender may have. -/
def ExactLimits (config : Config) : Prop :=
  ∀ multiplier, Halves multiplier →
    floorScaled multiplier config.base.maxRequests = exactScaled multiplier config.base.maxRequests

section Limits
variable {multiplier : ℚ} {limit : JsNumber} {count : Nat}

theorem multiplierOf_bounds (reputation : ℚ) :
    1 / 2 ≤ multiplierOf reputation ∧ multiplierOf reputation ≤ 3 := by
  simp only [multiplierOf, thresholds, List.foldl_cons, List.foldl_nil]
  split_ifs <;> norm_num

theorem multiplierOf_halves (reputation : ℚ) : Halves (multiplierOf reputation) := by
  simp only [multiplierOf, thresholds, List.foldl_cons, List.foldl_nil]
  split_ifs
  · exact ⟨6, by norm_num⟩
  · exact ⟨4, by norm_num⟩
  · exact ⟨3, by norm_num⟩
  · exact ⟨2, by norm_num⟩
  all_goals exact ⟨1, by norm_num⟩

theorem floorScaled_ne_nan (full : limit.truthy = true) (positive : 0 < multiplier) :
    floorScaled multiplier limit ≠ .nan := by
  rw [floorScaled, JsNumber.times]
  cases limit with
  | nan => cases full
  | posInfinity =>
      rw [JsNumber.posInfinity_mul positive]
      exact fun same => by cases same
  | negInfinity =>
      rw [JsNumber.negInfinity_mul positive]
      exact fun same => by cases same
  | finite limit =>
      have product := JsNumber.ofRounded_ne_nan (JsNumber.double.nearest (limit * multiplier))
      rw [JsNumber.mul, JsNumber.rounded]
      cases known : JsNumber.ofRounded (JsNumber.double.nearest (limit * multiplier)) with
      | nan => exact absurd known product
      | _ => exact fun same => by cases same

/-- A count below a limit that is rounded down has room for one more. -/
theorem room_below (proper : floorScaled multiplier limit ≠ .nan)
    (below : (JsNumber.ofNat count).ge (floorScaled multiplier limit) = false) :
    (floorScaled multiplier limit).ge (.ofNat (count + 1)) = true := by
  rw [floorScaled] at proper below ⊢
  cases product : limit.times (.finite multiplier) with
  | nan =>
      rw [product] at proper
      exact absurd rfl proper
  | posInfinity => rfl
  | negInfinity =>
      rw [product] at below
      cases below
  | finite value =>
      rw [product] at below
      simp only [JsNumber.floor, JsNumber.ofNat, JsNumber.ge, JsNumber.lt, Bool.not_eq_false',
        Bool.not_eq_true', decide_eq_true_eq, decide_eq_false_iff_not, not_lt] at below ⊢
      have whole : (count : ℤ) < ⌊value⌋ := by exact_mod_cast below
      exact_mod_cast Int.add_one_le_iff.mpr whole

theorem ge_topLimit (positive : 0 < multiplier) (small : multiplier ≤ 3)
    (within : (floorScaled multiplier limit).ge (.ofNat (count + 1)) = true) :
    (floorScaled 3 limit).ge (.ofNat (count + 1)) = true := by
  rw [floorScaled, JsNumber.floor_ge_ofNat, JsNumber.times] at within ⊢
  cases limit with
  | nan => exact within
  | posInfinity =>
      rw [JsNumber.posInfinity_mul (by norm_num)]
      rfl
  | negInfinity =>
      rw [JsNumber.negInfinity_mul positive] at within
      cases within
  | finite limit =>
      rw [JsNumber.mul] at within ⊢
      have proper : JsNumber.ofNat (count + 1) ≠ .nan := JsNumber.ofNat_ne_nan _
      -- A limit that lets a request through is above zero.
      have above : 0 < limit := by
        by_contra negative
        have none : limit * multiplier ≤ ((0 : ℤ) : ℚ) :=
          (mul_nonpos_of_nonpos_of_nonneg (not_lt.mp negative) positive.le).trans (by norm_num)
        have zero := JsNumber.rounded_ge_of_le none proper within
        rw [JsNumber.rounded_int (by decide)] at zero
        simp [JsNumber.ofNat, JsNumber.ge, JsNumber.lt] at zero
        linarith [(Nat.cast_nonneg count : (0 : ℚ) ≤ count)]
      exact JsNumber.rounded_ge_of_le (mul_le_mul_of_nonneg_left small above.le) proper within

/-- No product of a whole limit is rounded. -/
theorem floorScaled_of_whole {n k : ℤ} (size : |n| ≤ 2 ^ 50) (positive : 0 < k) (few : k ≤ 6) :
    floorScaled (k / 2) (.finite n) = exactScaled (k / 2) (.finite n) := by
  have bound : |n * k| ≤ 2 ^ 53 := by
    rw [abs_mul, abs_of_pos positive]
    calc |n| * k ≤ 2 ^ 50 * 6 := by gcongr
      _ ≤ 2 ^ 53 := by norm_num
  have half : (n : ℚ) * (k / 2) = ((n * k : ℤ) : ℚ) * 2 ^ (-1 : ℤ) := by
    rw [zpow_neg_one]
    push_cast
    ring
  have held : JsNumber.double.Holds ((n : ℚ) * (k / 2)) := ⟨n * k, -1, bound, by decide, half⟩
  have small : |(n : ℚ) * (k / 2)| < JsNumber.tooLarge := by
    have cast : |((n * k : ℤ) : ℚ)| ≤ 2 ^ 53 := by exact_mod_cast bound
    have large : (2 : ℚ) ^ 53 < JsNumber.tooLarge := pow_lt_pow_right₀ one_lt_two (by decide)
    rw [half, abs_mul, zpow_neg_one, abs_of_pos (by norm_num : (0 : ℚ) < 2⁻¹)]
    linarith [abs_nonneg ((n * k : ℤ) : ℚ)]
  rw [floorScaled, exactScaled, JsNumber.times, JsNumber.mul, JsNumber.rounded_of_holds held small]

theorem exactLimits_of_whole {config : Config} (whole : WholeLimit config) :
    ExactLimits config := by
  rintro _ ⟨k, positive, few, rfl⟩
  have half : (0 : ℚ) < k / 2 := div_pos (by exact_mod_cast positive) two_pos
  cases limit : config.base.maxRequests with
  | finite value =>
      obtain ⟨n, rfl, size⟩ := whole value limit
      exact floorScaled_of_whole size positive few
  | nan => rfl
  | posInfinity =>
      rw [floorScaled, exactScaled, JsNumber.times, JsNumber.posInfinity_mul half]
      rfl
  | negInfinity =>
      rw [floorScaled, exactScaled, JsNumber.times, JsNumber.negInfinity_mul half]
      rfl

end Limits

section Runs
variable {config : Config} {events : List (Event Sender × Nat)}

theorem accepted_append (state : State Sender) (first second : List (Event Sender × Nat)) :
    accepted config state (first ++ second) = accepted config state first ++
      accepted config (first.foldl (fun state event => (step config event.1 event.2 state).2) state)
        second := by
  induction first generalizing state with
  | nil => rfl
  | cons event rest ih =>
      rw [List.cons_append, accepted, accepted, ih, List.append_assoc, List.foldl_cons]

theorem tracks_replay {now : Nat} (ordered : events.Pairwise fun earlier later => earlier.2 ≤ later.2)
    (before : ∀ event ∈ events, event.2 ≤ now) :
    Tracks config.base (replay config events).base (accepted config start events) now := by
  induction events using List.reverseRecOn generalizing now with
  | nil => exact tracks_start
  | append_singleton earlier event ih =>
      obtain ⟨sorted, _, order⟩ := List.pairwise_append.mp ordered
      have tracks := ih sorted fun other member => order other member event List.mem_cons_self
      have stepped := tracks_step tracks event.1
      rw [replay, List.foldl_append, accepted_append]
      simp only [List.foldl_cons, List.foldl_nil, accepted, List.append_nil]
      exact stepped.wait (before event (List.mem_append_right _ List.mem_cons_self))

theorem check_rate {senderId : Sender} {messageSize now : Nat} {state : State Sender}
    (allowed : check config senderId messageSize now state = none) :
    (JsNumber.ofNat (getRate config.base senderId now state.base).count).ge
      (getAdjustedLimit config senderId state) = false := by
  rw [check] at allowed
  split at allowed
  · cases allowed
  · simpa using allowed

theorem Tracks.rate {state : State Sender} {history : List (Sender × Nat)} {now : Nat}
    (tracks : Tracks config.base state.base history now) (senderId : Sender) :
    (getRate config.base senderId now state.base).count =
      requestsOf (windowStart config.base) senderId now history := by
  have counted : (getRate config.base senderId now state.base).count =
      (pruned config.base now (timestampsOf senderId state.base)).length := rfl
  rw [counted, tracks.each senderId now (Nat.le_refl now), pruned, timesOf, List.filter_map,
    List.length_map, requestsOf, List.countP_eq_length_filter, List.filter_filter]
  congr 1
  apply List.filter_congr
  intro request member
  simp [inWindow, recent, tracks.past request member, Bool.and_comm]

theorem requestsOf_append_le (windowStart : Nat → JsNumber) (senderId : Sender) (now : Nat)
    (requests : List (Sender × Nat)) :
    requestsOf windowStart senderId now (requests ++ [(senderId, now)]) ≤
      requestsOf windowStart senderId now requests + 1 := by
  rw [requestsOf, List.countP_append, List.countP_singleton]
  split
  · exact Nat.le_refl _
  · exact Nat.le_succ _

/-- A request that is let through is within the limit of its sender's reputation. -/
theorem room_replay {before : List (Event Sender × Nat)} {senderId : Sender} {messageSize now : Nat}
    (sorted : before.Pairwise fun earlier later => earlier.2 ≤ later.2)
    (past : ∀ event ∈ before, event.2 ≤ now)
    (allowed : check config senderId messageSize now (replay config before) = none) :
    (getAdjustedLimit config senderId (replay config before)).ge
      (.ofNat (requestsOf (windowStart config.base) senderId now (accepted config start before) + 1)) =
        true := by
  have below := check_rate allowed
  have bounds := multiplierOf_bounds (reputationOr 0 senderId (replay config before))
  rw [Tracks.rate (tracks_replay sorted past)] at below
  exact room_below (floorScaled_ne_nan config.base.hasMax (by linarith [bounds.1])) below

theorem checkAndRecord_none_iff {senderId : Sender} {messageSize now : Nat} {state : State Sender} :
    (checkAndRecord config senderId messageSize now state).1 = none ↔
      check config senderId messageSize now state = none := by
  rw [checkAndRecord]
  cases check config senderId messageSize now state <;> simp

theorem step_through {event : Event Sender} {now : Nat} {state : State Sender} {senderId : Sender}
    (through : (step config event now state).1 = some senderId) :
    ∃ messageSize, event = .checkAndRecord senderId messageSize ∧
      check config senderId messageSize now state = none := by
  cases event with
  | checkAndRecord other messageSize =>
      rw [step] at through
      dsimp only at through
      split at through
      next allowed =>
        cases through
        exact ⟨messageSize, rfl, checkAndRecord_none_iff.mp (Option.isNone_iff_eq_none.mp allowed)⟩
      next => cases through
  | adjustReputation other delta => cases through
  | reportSpam other => cases through
  | markTrusted other level => cases through
  | getStats other => cases through
  | cleanup => cases through

/-- Every request that is let through comes from an event, and those before it from the events
    before. -/
theorem accepted_split {state : State Sender} {earlier later : List (Sender × Nat)}
    {senderId : Sender} {now : Nat}
    (split : accepted config state events = earlier ++ (senderId, now) :: later) :
    ∃ before messageSize after,
      events = before ++ (.checkAndRecord senderId messageSize, now) :: after ∧
      accepted config state before = earlier ∧
      check config senderId messageSize now (before.foldl
        (fun state event => (step config event.1 event.2 state).2) state) = none := by
  -- By induction on the events: each one is let through, or adds nothing to the list.
  induction events generalizing state earlier with
  | nil => simp [accepted] at split
  | cons event rest ih =>
      rw [accepted] at split
      cases through : (step config event.1 event.2 state).1 with
      | none =>
          rw [through] at split
          obtain ⟨before, messageSize, after, same, own, allowed⟩ := ih split
          refine ⟨event :: before, messageSize, after, by rw [same]; rfl, ?_, allowed⟩
          rw [accepted, through, own]
          rfl
      | some sender =>
          rw [through] at split
          cases earlier with
          | nil =>
              obtain ⟨head, _⟩ := List.cons.inj split
              obtain ⟨event, time⟩ := event
              cases head
              obtain ⟨messageSize, rfl, allowed⟩ := step_through through
              exact ⟨[], messageSize, rest, rfl, rfl, allowed⟩
          | cons first others =>
              obtain ⟨head, tail⟩ := List.cons.inj split
              obtain ⟨before, messageSize, after, same, own, allowed⟩ := ih tail
              refine ⟨event :: before, messageSize, after, by rw [same]; rfl, ?_, allowed⟩
              rw [accepted, through, own]
              exact congrArg (· :: others) head

end Runs

section Windows
variable {config : Config} {requests : List (Sender × Nat)}

/-- With each request of a sender the window that ends with it is within the top limit. -/
def EachWithinTop (config : Config) (requests : List (Sender × Nat)) : Prop :=
  ∀ earlier request later, requests = earlier ++ request :: later →
    (topLimit config).ge (.ofNat (requestsOf (windowStart config.base) request.1 request.2
      (earlier ++ [request]))) = true

/-- Requests of the same time that come later are measured by themselves. -/
theorem within_top (sorted : requests.Pairwise fun earlier later => earlier.2 ≤ later.2)
    (each : EachWithinTop config requests) {request : Sender × Nat} (member : request ∈ requests) :
    (topLimit config).ge (.ofNat (requestsOf (windowStart config.base) request.1 request.2 requests)) =
      true := by
  induction requests using List.reverseRecOn with
  | nil => cases member
  | append_singleton earlier last ih =>
      obtain ⟨before, _, order⟩ := List.pairwise_append.mp sorted
      have own := each earlier last [] rfl
      have eachBefore : EachWithinTop config earlier := by
        rintro first other later rfl
        exact each first other (later ++ [last]) (by simp)
      rcases List.mem_append.mp member with old | new
      · by_cases same : request = last
        · rw [same]
          exact own
        · have uncounted : ¬ (last.1 = request.1 && inWindow (windowStart config.base) request.2 last.2) = true := by
            simp only [inWindow, Bool.and_eq_true, decide_eq_true_eq]
            rintro ⟨sender, _, early⟩
            exact same (Prod.ext sender.symm
              (le_antisymm (order request old last List.mem_cons_self) early))
          rw [requestsOf, List.countP_append, List.countP_singleton, if_neg uncounted]
          exact ih before eachBefore old
      · rw [List.mem_singleton.mp new]
        exact own

end Windows

/-- Where windows and limits are computed alike at every event, they bound the same. -/
theorem withinLimits_congr {config : Config} {events : List (Event Sender × Nat)}
    {first second : Nat → JsNumber} {left right : ℚ → JsNumber → JsNumber}
    (windows : ∀ event ∈ events, first event.2 = second event.2)
    (limits : ∀ multiplier, Halves multiplier →
      left multiplier config.base.maxRequests = right multiplier config.base.maxRequests)
    (within : WithinLimits config first left events) : WithinLimits config second right events := by
  have counted {now : Nat} (same : first now = second now) (senderId : Sender)
      (requests : List (Sender × Nat)) :
      requestsOf first senderId now requests = requestsOf second senderId now requests := by
    simp only [requestsOf, inWindow, same]
  constructor
  · intro before senderId messageSize now after split allowed
    have member : (Event.checkAndRecord senderId messageSize, now) ∈ events :=
      split ▸ List.mem_append_right _ List.mem_cons_self
    rw [← limits _ (multiplierOf_halves _), ← counted (windows _ member)]
    exact within.1 before senderId messageSize now after split allowed
  · intro request member
    obtain ⟨event, inside, time⟩ := List.mem_map.mp
      ((accepted_times start events).subset (List.mem_map_of_mem member))
    have same : first request.2 = second request.2 := time ▸ windows event inside
    rw [← limits 3 ⟨6, by norm_num⟩, ← counted same]
    exact within.2 request member

theorem withinLimits_computed (config : Config) (events : List (Event Sender × Nat))
    (ordered : events.Pairwise fun earlier later => earlier.2 ≤ later.2) :
    WithinLimits config (windowStart config.base) floorScaled events := by
  constructor
  · rintro before senderId messageSize now after rfl allowed
    obtain ⟨sorted, _, order⟩ := List.pairwise_append.mp ordered
    have past : ∀ event ∈ before, event.2 ≤ now :=
      fun event member => order event member _ List.mem_cons_self
    have checked := checkAndRecord_none_iff.mp allowed
    have through : accepted config start (before ++ [(.checkAndRecord senderId messageSize, now)]) =
        accepted config start before ++ [(senderId, now)] := by
      have state : before.foldl (fun state event => (step config event.1 event.2 state).2) start =
          replay config before := rfl
      rw [accepted_append, state]
      simp [accepted, step, checkAndRecord, checked]
    rw [through]
    exact JsNumber.ge_ofNat_of_le (requestsOf_append_le _ senderId now _)
      (room_replay sorted past checked)
  -- The limit at that moment is at most three times the base one, so every window is within it.
  · intro request member
    have sorted : (accepted config start events).Pairwise
        fun earlier later => earlier.2 ≤ later.2 := by
      apply List.pairwise_map.mp
      exact (List.pairwise_map.mpr ordered).sublist (accepted_times start events)
    refine within_top sorted ?_ member
    rintro earlier ⟨senderId, now⟩ later split
    obtain ⟨before, messageSize, after, rfl, rfl, checked⟩ := accepted_split split
    obtain ⟨ahead, _, order⟩ := List.pairwise_append.mp ordered
    have room := room_replay ahead (fun event inside => order event inside _ List.mem_cons_self)
      checked
    have bounds := multiplierOf_bounds (reputationOr 0 senderId (replay config before))
    exact JsNumber.ge_ofNat_of_le (requestsOf_append_le _ senderId now _)
      (ge_topLimit (by linarith [bounds.1]) bounds.2 room)

/-- In a run by a clock that does not go back, every request that is let through is within the
    limits as the limiter computes them, which are the exact ones where rounding changes neither
    the limits nor the start of a window. -/
theorem sender_limit_kept (config : Config) (events : List (Event Sender × Nat))
    (ordered : events.Pairwise fun earlier later => earlier.2 ≤ later.2) :
    WithinLimits config (windowStart config.base) floorScaled events ∧
      (ExactStarts config.base events → ExactLimits config →
        WithinLimits config (exactStart config.base) exactScaled events) := by
  have computed := withinLimits_computed config events ordered
  exact ⟨computed, fun starts limits => withinLimits_congr starts limits computed⟩

def twice : List (Event String × Nat) :=
  [(.checkAndRecord "alice" 0, 1), (.checkAndRecord "alice" 0, 2)]

theorem second_request_within :
    requestsOf (exactStart oneForAll.base) "alice" 2 (accepted oneForAll start twice) = 2 ∧
    (exactScaled (multiplierOf (reputationOr 0 "alice" (replay oneForAll (twice.take 1))))
      oneForAll.base.maxRequests).ge
        (.ofNat (requestsOf (exactStart oneForAll.base) "alice" 2
          (accepted oneForAll start twice))) = true := by
  have wholeWindow : oneForAll.base.WholeWindow :=
    wholeWindow_of_nat (by decide +kernel : oneForAll.base.windowMs = .ofNat 60000) (by decide)
  have wholeLimit : WholeLimit oneForAll := by
    intro limit known
    cases known
    exact ⟨4, by norm_num⟩
  have within := (sender_limit_kept oneForAll twice (by decide)).2
    (exactStarts_of_whole wholeWindow (by decide)) (exactLimits_of_whole wholeLimit)
  exact ⟨by decide +kernel, within.1 (twice.take 1) "alice" 0 2 [] rfl (by decide +kernel)⟩

/-- A limit of a little less than a third. -/
def third : Config :=
  configure (.finite (6004799503160661 / 18014398509481984)) .nan .nan .nan .nan id fun _ => "today"

/-- Three times the limit is less than one request, and is rounded to one. -/
theorem third_rounded_up : ¬ ∀ (config : Config) (events : List (Event String × Nat)),
    (events.Pairwise fun earlier later => earlier.2 ≤ later.2) →
      WithinLimits config (exactStart config.base) exactScaled events := by
  intro claimed
  have within := (claimed third [(.markTrusted "alice" .verified, 1), (.checkAndRecord "alice" 0, 2)]
    (by decide)).1 [(.markTrusted "alice" .verified, 1)] "alice" 0 2 [] rfl (by decide +kernel)
  revert within
  decide +kernel

end Chainmail.ReputationLimiter
