import Chainmail.SlidingWindow

/-!
The time that a refusal names. It is right wherever one limit decides alone. Where
the limit for all senders is reached, the sender's own limit is not looked at, and
it may keep the sender out for longer.
-/

namespace Chainmail.RateLimiter

variable {Sender : Type} [DecidableEq Sender]

/-- The limiter after a run of events. -/
def replay (config : Config) (limiter : Limiter Sender) (events : List (Event Sender × Nat)) :
    Limiter Sender :=
  events.foldl (fun limiter event => (step config event.1 event.2 limiter).2) limiter

/-- The wait is within the window; and whatever is asked and refused until then, the same request is
    refused before the wait is over and allowed after it, for as long as the clock runs. -/
structure RetryRight (config : Config) (senderId : Sender) (now : Nat) (wait : JsNumber)
    (limiter : Limiter Sender) : Prop where
  positive : (JsNumber.ofNat 0).lt wait = true
  withinWindow : config.windowMs.ge wait = true
  exact : ∀ (meanwhile : List (Event Sender × Nat)) (later : Nat), now ≤ later →
    later ≤ latestTime → (meanwhile.Pairwise fun first second => first.2 ≤ second.2) →
    (∀ event ∈ meanwhile, now ≤ event.2 ∧ event.2 ≤ later) →
    (∀ decision ∈ decisions config limiter meanwhile, decision = false) →
    (checkAndRecord config senderId later (replay config limiter meanwhile)).1.allowed =
      !(JsNumber.ofNat later).lt ((JsNumber.ofNat now).add wait)

/-- How many of the sender's requests in the window are younger than the oldest of all. -/
def younger (config : Config) (senderId : Sender) (now : Nat) (limiter : Limiter Sender) : Nat :=
  (pruned config now (timestampsOf senderId limiter)).countP fun time =>
    (pruned config now limiter.globalRequests).head?.any (· < time)

/-- The limit that refuses is above zero. If it is the one for all senders, then the oldest request
    of all never leaves the window, or the sender's own limit leaves room as soon as it does. -/
def RetryKnown (config : Config) (senderId : Sender) (now : Nat) (limiter : Limiter Sender) : Prop :=
  if globalFull config now limiter then
    (JsNumber.ofNat 0).lt config.globalMaxRequests = true ∧
      ((pruned config now limiter.globalRequests).head?.any (recent config latestTime) = true ∨
        (JsNumber.ofNat (younger config senderId now limiter)).lt config.maxRequests = true)
  else (JsNumber.ofNat 0).lt config.maxRequests = true

/-- The requests that fill the window of the limit that refuses. -/
def filling (config : Config) (senderId : Sender) (now : Nat) (limiter : Limiter Sender) :
    List Nat :=
  pruned config now
    (if globalFull config now limiter then limiter.globalRequests else timestampsOf senderId limiter)

/-- Doubles hold what is computed with the width of the window until a request has left it: when it
    leaves, how long that is from now, and where the windows start until then. -/
structure Unrounded (width : ℚ) (oldest now : Nat) : Prop where
  leaves : JsNumber.IsDouble (oldest + width)
  left : JsNumber.IsDouble (oldest + width - now)
  starts : ∀ later : Nat, now ≤ later → later ≤ latestTime → (later : ℚ) < oldest + width + 1 →
    JsNumber.IsDouble (later - width)

/-- A window without an end is never rounded. -/
def Config.Unrounded (config : Config) (oldest now : Nat) : Prop :=
  ∀ width, config.windowMs = .finite width → RateLimiter.Unrounded width oldest now

section Numbers
variable {config : Config} {now later time oldest : Nat} {rest : List Nat} {width : ℚ}

theorem unrounded_of_whole (whole : config.WholeWindow) (past : oldest ≤ now)
    (shown : now ≤ latestTime) : config.Unrounded oldest now := by
  intro width finite
  obtain ⟨n, rfl, small⟩ := whole width finite
  rw [latestTime] at shown small
  rw [abs_le] at small
  constructor
  · exact_mod_cast JsNumber.isDouble_int (n := oldest + n) (by omega) (by omega)
  · exact_mod_cast JsNumber.isDouble_int (n := oldest + n - now) (by omega) (by omega)
  · intro later _ last _
    rw [latestTime] at last
    exact_mod_cast JsNumber.isDouble_int (n := later - n) (by omega) (by omega)

/-- Of two requests the later one stays in the window longer. -/
theorem recent_of_le (order : oldest ≤ time) (inside : recent config now oldest = true) :
    recent config now time = true := by
  rw [recent] at inside ⊢
  exact JsNumber.lt_ofNat_mono order inside

theorem recent_of_double (finite : config.windowMs = .finite width)
    (start : JsNumber.IsDouble (now - width)) :
    recent config now time = decide ((now : ℚ) - width < time) := by
  rw [recent, windowStart, finite, JsNumber.ofNat, JsNumber.minus_of_double start, JsNumber.sub,
    JsNumber.neg, JsNumber.add, ← sub_eq_add_neg]
  rfl

/-- However its start is rounded, a window that starts at a request or after it does not hold it. -/
theorem recent_of_gone (finite : config.windowMs = .finite width) (shown : oldest ≤ latestTime)
    (gone : (oldest : ℚ) + width ≤ now) : recent config now oldest = false := by
  rw [Bool.eq_false_iff]
  intro inside
  have order : (oldest : ℚ) ≤ now + -width := by linarith
  have held : JsNumber.rounded (.finite oldest) = .finite oldest := by
    rw [latestTime] at shown
    exact_mod_cast JsNumber.isDouble_int (n := oldest) (by omega) (by omega)
  rw [recent, windowStart, finite] at inside
  have less := JsNumber.rounded_lt_of_le order inside
  rw [held, JsNumber.ofNat, JsNumber.lt_irrefl] at less
  cases less

/-- A request in the window has still to leave it. -/
theorem leaves_later (finite : config.windowMs = .finite width) (shown : oldest ≤ latestTime)
    (inside : recent config now oldest = true) : (now : ℚ) < oldest + width := by
  by_contra gone
  rw [recent_of_gone finite shown (not_lt.mp gone)] at inside
  cases inside

theorem retryAfter_of_unrounded (unrounded : config.Unrounded oldest now) :
    retryAfter config now (oldest :: rest) =
      ((JsNumber.ofNat oldest).add config.windowMs).sub (.ofNat now) := by
  rw [retryAfter]
  cases finite : config.windowMs with
  | finite width =>
      obtain ⟨leaves, left, _⟩ := unrounded width finite
      rw [JsNumber.ofNat, JsNumber.ofNat, JsNumber.plus_of_double leaves, JsNumber.add,
        JsNumber.minus_of_double left]
  | _ => rfl

/-- The wait ends when the oldest request leaves the window. -/
theorem lt_retryAfter (unrounded : config.Unrounded oldest now) (past : oldest ≤ now)
    (order : now ≤ later) (shown : later ≤ latestTime) :
    (JsNumber.ofNat later).lt ((JsNumber.ofNat now).add (retryAfter config now (oldest :: rest))) =
      recent config later oldest := by
  rw [retryAfter_of_unrounded unrounded]
  cases finite : config.windowMs with
  | finite width =>
      simp only [JsNumber.ofNat, JsNumber.add, JsNumber.sub, JsNumber.neg, JsNumber.lt]
      by_cases before : (later : ℚ) < oldest + width
      · have start := (unrounded width finite).starts later order shown (before.trans (lt_add_one _))
        rw [recent_of_double finite start, decide_eq_decide]
        constructor <;> intro <;> linarith
      · have early : oldest ≤ latestTime := past.trans (order.trans shown)
        rw [recent_of_gone finite early (not_lt.mp before), decide_eq_false_iff_not]
        intro waiting
        apply before
        linarith
  | _ => simp [recent, windowStart, finite, JsNumber.ofNat, JsNumber.minus, JsNumber.add,
      JsNumber.sub, JsNumber.neg, JsNumber.lt, JsNumber.rounded]

theorem retryAfter_positive (unrounded : config.Unrounded oldest now) (shown : oldest ≤ latestTime)
    (inside : recent config now oldest = true) :
    (JsNumber.ofNat 0).lt (retryAfter config now (oldest :: rest)) = true := by
  rw [retryAfter_of_unrounded unrounded]
  cases finite : config.windowMs with
  | finite width =>
      have later := leaves_later finite shown inside
      simp only [JsNumber.ofNat, JsNumber.add, JsNumber.sub, JsNumber.neg, JsNumber.lt,
        decide_eq_true_eq]
      push_cast
      linarith
  | posInfinity => rfl
  | _ =>
      rw [recent, windowStart, finite] at inside
      cases inside

theorem retryAfter_within (unrounded : config.Unrounded oldest now) (past : oldest ≤ now) :
    config.windowMs.ge (retryAfter config now (oldest :: rest)) = true := by
  have given := JsNumber.ne_nan_of_truthy config.hasWindow
  rw [retryAfter_of_unrounded unrounded]
  cases finite : config.windowMs with
  | nan => exact absurd finite given
  | finite width =>
      have cast : (oldest : ℚ) ≤ now := by exact_mod_cast past
      simp only [JsNumber.ofNat, JsNumber.add, JsNumber.sub, JsNumber.neg, JsNumber.ge, JsNumber.lt,
        Bool.not_eq_true', decide_eq_false_iff_not, not_lt]
      linarith
  | _ => rfl

/-- A window that ends while the clock runs leaves a request behind at some time, and then no
    younger one. -/
theorem left_behind (unrounded : config.Unrounded oldest now) (past : oldest ≤ now)
    (shown : now ≤ latestTime) (inside : recent config now oldest = true)
    (ends : recent config latestTime oldest = false) :
    ∃ later, now ≤ later ∧ later ≤ latestTime ∧ recent config later oldest = false ∧
      ∀ time, oldest < time → recent config later time = true := by
  cases finite : config.windowMs with
  | finite width =>
      have early : oldest ≤ latestTime := past.trans shown
      have upper := leaves_later finite early inside
      have below := Nat.ceil_lt_add_one ((Nat.cast_nonneg now).trans upper.le)
      have order : now ≤ ⌈(oldest : ℚ) + width⌉₊ := by
        exact_mod_cast upper.le.trans (Nat.le_ceil _)
      have last : ⌈(oldest : ℚ) + width⌉₊ ≤ latestTime := by
        by_contra beyond
        have before : (latestTime : ℚ) < oldest + width := Nat.lt_ceil.mp (not_le.mp beyond)
        have start := (unrounded width finite).starts latestTime shown le_rfl
          (before.trans (lt_add_one _))
        rw [recent_of_double finite start, decide_eq_false_iff_not] at ends
        apply ends
        linarith
      refine ⟨⌈oldest + width⌉₊, order, last, recent_of_gone finite early (Nat.le_ceil _),
        fun time younger => ?_⟩
      rw [recent_of_double finite ((unrounded width finite).starts _ order last below),
        decide_eq_true_eq]
      have next : (oldest : ℚ) + 1 ≤ time := by exact_mod_cast younger
      linarith
  | posInfinity =>
      rw [recent, windowStart, finite] at ends
      cases ends
  | _ =>
      rw [recent, windowStart, finite] at inside
      cases inside

end Numbers

section Spacing
variable {config : Config} {limit : JsNumber} {now later : Nat} {times kept : List Nat}

/-- The requests are in order, and each found the window before it below the limit. -/
structure Spaced (config : Config) (limit : JsNumber) (now : Nat) (times : List Nat) : Prop where
  sorted : times.Pairwise (· ≤ ·)
  past : ∀ time ∈ times, time ≤ now
  below : ∀ before time after, times = before ++ time :: after →
    (JsNumber.ofNat (pruned config time before).length).lt limit = true

theorem spaced_nil : Spaced config limit now [] where
  sorted := List.Pairwise.nil
  past time member := by cases member
  below before time after split := by simp at split

theorem Spaced.wait (spaced : Spaced config limit now times) (order : now ≤ later) :
    Spaced config limit later times where
  sorted := spaced.sorted
  past time member := (spaced.past time member).trans order
  below := spaced.below

/-- What is forgotten only makes more room. -/
theorem Spaced.sublist (spaced : Spaced config limit now times) (fewer : kept.Sublist times) :
    Spaced config limit now kept where
  sorted := spaced.sorted.sublist fewer
  past time member := spaced.past time (fewer.subset member)
  below before time after split := by
    rw [split] at fewer
    obtain ⟨first, second, rfl, left, right⟩ := List.append_sublist_iff.mp fewer
    obtain ⟨middle, last, rfl, member, _⟩ := List.cons_sublist_iff.mp right
    obtain ⟨skipped, others, rfl⟩ := List.append_of_mem member
    have below := spaced.below (first ++ skipped) time (others ++ last) (by simp)
    refine JsNumber.ofNat_lt_of_le ?_ below
    exact ((left.trans (List.sublist_append_left _ _)).filter _).length_le

theorem Spaced.append (spaced : Spaced config limit now times)
    (room : (JsNumber.ofNat (pruned config now times).length).lt limit = true) :
    Spaced config limit now (times ++ [now]) where
  sorted := by
    refine List.pairwise_append.mpr ⟨spaced.sorted, List.pairwise_singleton _ _, ?_⟩
    intro time member last inside
    rw [List.mem_singleton.mp inside]
    exact spaced.past time member
  past time member := by
    rcases List.mem_append.mp member with old | new
    · exact spaced.past time old
    · rw [List.mem_singleton.mp new]
  below before time after split := by
    rcases List.eq_nil_or_concat after with rfl | ⟨others, last, rfl⟩
    · obtain ⟨same, final⟩ := List.append_inj' split rfl
      cases final
      rw [← same]
      exact room
    · have regrouped : times ++ [now] = (before ++ time :: others) ++ [last] := by
        rw [split, List.append_assoc, List.cons_append, List.concat_eq_append]
      obtain ⟨same, _⟩ := List.append_inj' regrouped rfl
      exact spaced.below before time others same

theorem positive_of_spaced {oldest : Nat} {rest : List Nat}
    (spaced : Spaced config limit now (oldest :: rest)) :
    (JsNumber.ofNat 0).lt limit = true :=
  spaced.below [] oldest rest rfl

/-- All but one of the requests of a window are below the limit. -/
theorem Spaced.rest_below {oldest : Nat} {rest : List Nat}
    (spaced : Spaced config limit now (oldest :: rest))
    (inside : ∀ time ∈ oldest :: rest, recent config now time = true) :
    (JsNumber.ofNat rest.length).lt limit = true := by
  obtain ⟨initial, last, split⟩ :=
    (List.eq_nil_or_concat (oldest :: rest)).resolve_left (List.cons_ne_nil _ _)
  rw [List.concat_eq_append] at split
  have whole : pruned config last initial = initial := by
    refine List.filter_eq_self.mpr fun time member => ?_
    have held : time ∈ oldest :: rest := split ▸ List.mem_append_left _ member
    have final : last ∈ oldest :: rest := split ▸ List.mem_append_right _ List.mem_cons_self
    exact recent_mono (spaced.past last final) (inside time held)
  have below := spaced.below initial last [] split
  have count := congrArg List.length split
  simp only [List.length_cons, List.length_append, List.length_nil] at count
  rw [whole, show initial.length = rest.length by omega] at below
  exact below

/-- A full window has room again exactly when its oldest request leaves it. -/
theorem Spaced.reopens {oldest : Nat} {rest : List Nat}
    (spaced : Spaced config limit now (oldest :: rest))
    (inside : ∀ time ∈ oldest :: rest, recent config now time = true)
    (full : (JsNumber.ofNat (oldest :: rest).length).lt limit = false) (later : Nat) :
    (JsNumber.ofNat (pruned config later (oldest :: rest)).length).lt limit =
      !recent config later oldest := by
  cases held : recent config later oldest with
  | true =>
      have whole : pruned config later (oldest :: rest) = oldest :: rest := by
        refine List.filter_eq_self.mpr fun time member => ?_
        rcases List.mem_cons.mp member with rfl | younger
        · exact held
        · exact recent_of_le ((List.pairwise_cons.mp spaced.sorted).1 time younger) held
      rw [whole, full]
      rfl
  | false =>
      have gone : pruned config later (oldest :: rest) = pruned config later rest := by
        rw [pruned, List.filter_cons_of_neg (by simp [held]), pruned]
      rw [gone]
      exact JsNumber.ofNat_lt_of_le (List.length_filter_le _ _) (spaced.rest_below inside)

end Spacing

section Steps
variable {config : Config} {limiter : Limiter Sender} {senderId : Sender} {now later : Nat}

/-- Both limits are kept by the requests that the limiter holds. -/
structure Orderly (config : Config) (now : Nat) (limiter : Limiter Sender) : Prop where
  everyone : Spaced config config.globalMaxRequests now limiter.globalRequests
  each : ∀ senderId, Spaced config config.maxRequests now (timestampsOf senderId limiter)

theorem orderly_start : Orderly config now (start : Limiter Sender) where
  everyone := spaced_nil
  each _ := spaced_nil

/-- What is decided is what `check` decides. -/
theorem checkAndRecord_decision : (checkAndRecord config senderId now limiter).1 =
    (check config senderId now limiter).1 := by
  rw [checkAndRecord]
  split
  next => rfl
  next => rfl

/-- A request is allowed exactly where both windows are below their limits. -/
theorem allowed_eq : (checkAndRecord config senderId now limiter).1.allowed =
    ((JsNumber.ofNat (pruned config now limiter.globalRequests).length).lt
        config.globalMaxRequests &&
      (JsNumber.ofNat (pruned config now (timestampsOf senderId limiter)).length).lt
        config.maxRequests) := by
  have globalLimit := JsNumber.ne_nan_of_truthy config.hasGlobal
  have senderLimit := JsNumber.ne_nan_of_truthy config.hasMax
  have same : timestampsOf senderId
      { limiter with globalRequests := pruned config now limiter.globalRequests } =
      timestampsOf senderId limiter := rfl
  rw [checkAndRecord_decision, check, globalFull, JsNumber.ge_eq_not_lt (JsNumber.ofNat_ne_nan _) globalLimit]
  split
  next full => simp_all
  next room =>
    simp only [same, JsNumber.ge_eq_not_lt (JsNumber.ofNat_ne_nan _) senderLimit]
    split
    next full => simp_all
    next free => simp_all

theorem checkAndRecord_limiter :
    (checkAndRecord config senderId now limiter).2 =
      if (checkAndRecord config senderId now limiter).1.allowed then
        record senderId now { limiter with globalRequests := pruned config now limiter.globalRequests }
      else { limiter with globalRequests := pruned config now limiter.globalRequests } := by
  have checked : (check config senderId now limiter).2 =
      { limiter with globalRequests := pruned config now limiter.globalRequests } :=
    check_limiter senderId now limiter
  rw [checkAndRecord]
  split
  next allowed => rw [checked]
  next refused => rw [checked]

theorem Orderly.step (orderly : Orderly config now limiter) (event : Event Sender) :
    Orderly config now (RateLimiter.step config event now limiter).2 := by
  have pruning : Spaced config config.globalMaxRequests now
      (pruned config now limiter.globalRequests) :=
    orderly.everyone.sublist List.filter_sublist
  cases event with
  | checkAndRecord senderId =>
      rw [RateLimiter.step]
      dsimp only
      rw [checkAndRecord_limiter]
      split
      next allowed =>
        rw [allowed_eq, Bool.and_eq_true] at allowed
        constructor
        · refine pruning.append ?_
          rw [pruned_pruned (Nat.le_refl now)]
          exact allowed.1
        · intro other
          rw [timestampsOf_record]
          split
          · exact (orderly.each senderId).append allowed.2
          · exact orderly.each other
      next refused => exact ⟨pruning, orderly.each⟩
  | cleanup =>
      refine ⟨pruning, fun other => ?_⟩
      rw [RateLimiter.step, timestampsOf_cleanup]
      exact (orderly.each other).sublist List.filter_sublist
  | getRate other => exact orderly
  | getGlobalRate => exact ⟨pruning, orderly.each⟩

theorem orderly_replay {events : List (Event Sender × Nat)} {before : Nat}
    (orderly : Orderly config before limiter)
    (ordered : events.Pairwise fun earlier later => earlier.2 ≤ later.2)
    (within : ∀ event ∈ events, before ≤ event.2 ∧ event.2 ≤ now) (order : before ≤ now) :
    Orderly config now (replay config limiter events) := by
  induction events generalizing limiter before with
  | nil => exact ⟨orderly.everyone.wait order, fun other => (orderly.each other).wait order⟩
  | cons event rest ih =>
      obtain ⟨after, sorted⟩ := List.pairwise_cons.mp ordered
      obtain ⟨reached, early⟩ := within event List.mem_cons_self
      have waited : Orderly config event.2 limiter :=
        ⟨orderly.everyone.wait reached, fun other => (orderly.each other).wait reached⟩
      exact ih (waited.step event.1) sorted (fun other member =>
        ⟨after other member, (within other (List.mem_cons_of_mem _ member)).2⟩) early

/-- Two limiters hold the same requests of the window at a time. -/
structure SameWindow (config : Config) (later : Nat) (first second : Limiter Sender) : Prop where
  everyone : pruned config later first.globalRequests = pruned config later second.globalRequests
  each : ∀ senderId, pruned config later (timestampsOf senderId first) =
    pruned config later (timestampsOf senderId second)

/-- An event that lets nothing through leaves every later window as it is. -/
theorem sameWindow_step {event : Event Sender} (order : now ≤ later)
    (refused : (step config event now limiter).1 ≠ some true) :
    SameWindow config later (step config event now limiter).2 limiter := by
  cases event with
  | checkAndRecord senderId =>
      rw [step] at refused ⊢
      dsimp only at refused ⊢
      rw [checkAndRecord_limiter, if_neg fun allowed => refused (congrArg some allowed)]
      exact ⟨pruned_pruned order _, fun _ => rfl⟩
  | cleanup =>
      refine ⟨pruned_pruned order _, fun other => ?_⟩
      rw [step, timestampsOf_cleanup, pruned_pruned order]
  | getRate other => exact ⟨rfl, fun _ => rfl⟩
  | getGlobalRate => exact ⟨pruned_pruned order _, fun _ => rfl⟩

theorem sameWindow_replay {events : List (Event Sender × Nat)}
    (before : ∀ event ∈ events, event.2 ≤ later)
    (refused : ∀ decision ∈ decisions config limiter events, decision = false) :
    SameWindow config later (replay config limiter events) limiter := by
  induction events generalizing limiter with
  | nil => exact ⟨rfl, fun _ => rfl⟩
  | cons event rest ih =>
      obtain ⟨event, time⟩ := event
      rw [decisions] at refused
      have first : (step config event time limiter).1 ≠ some true := by
        intro allowed
        have decided := refused true (by simp [allowed])
        cases decided
      have stepped := sameWindow_step (before _ List.mem_cons_self) first
      have rested := ih (fun other member => before other (List.mem_cons_of_mem _ member))
        fun decision member => refused decision (List.mem_append_right _ member)
      exact ⟨rested.everyone.trans stepped.everyone,
        fun other => (rested.each other).trans (stepped.each other)⟩

theorem allowed_of_same {first second : Limiter Sender} (same : SameWindow config now first second) :
    (checkAndRecord config senderId now first).1.allowed =
      (checkAndRecord config senderId now second).1.allowed := by
  rw [allowed_eq, allowed_eq, same.everyone, same.each]

/-- Only the state at the refusal and the two times matter to the time that a refusal names. -/
theorem retryRight_iff {wait : JsNumber}
    (refused : (checkAndRecord config senderId now limiter).1.allowed = false) :
    RetryRight config senderId now wait (checkAndRecord config senderId now limiter).2 ↔
      (JsNumber.ofNat 0).lt wait = true ∧ config.windowMs.ge wait = true ∧
        ∀ later, now ≤ later → later ≤ latestTime →
          (checkAndRecord config senderId later limiter).1.allowed =
            !(JsNumber.ofNat later).lt ((JsNumber.ofNat now).add wait) := by
  have unrecorded : (step config (.checkAndRecord senderId) now limiter).1 ≠ some true := by
    simp [step, refused]
  have asked {later : Nat} (order : now ≤ later) :
      SameWindow config later (checkAndRecord config senderId now limiter).2 limiter :=
    sameWindow_step order unrecorded
  constructor
  · rintro ⟨positive, within, exact'⟩
    refine ⟨positive, within, fun later order shown => ?_⟩
    rw [← exact' [] later order shown List.Pairwise.nil (by simp) (by simp [decisions])]
    exact (allowed_of_same (asked order)).symm
  · rintro ⟨positive, within, exact'⟩
    refine ⟨positive, within, fun meanwhile later order shown _ inside quiet => ?_⟩
    rw [← exact' later order shown]
    have still := sameWindow_replay (fun event member => (inside event member).2) quiet
    rw [allowed_of_same still, allowed_of_same (asked order)]

end Steps

section Waiting
variable {config : Config} {limiter : Limiter Sender} {senderId : Sender} {now later : Nat}

theorem fewer_later (order : now ≤ later) (times : List Nat) :
    (pruned config later times).length ≤ (pruned config now times).length := by
  rw [← pruned_pruned order]
  exact List.length_filter_le _ _

theorem recent_of_pruned {times kept : List Nat} (held : pruned config now times = kept) :
    ∀ time ∈ kept, recent config now time = true := by
  intro time member
  rw [← held] at member
  exact List.of_mem_filter member

/-- After the oldest request of all is gone, a sender has room exactly when its younger ones leave
    some. -/
theorem room_after_iff {oldest : Nat} {limit : JsNumber} (unrounded : config.Unrounded oldest now)
    (past : oldest ≤ now) (shown : now ≤ latestTime) (inside : recent config now oldest = true) (times : List Nat) :
    (∀ later, now ≤ later → later ≤ latestTime → recent config later oldest = false →
        (JsNumber.ofNat (pruned config later times).length).lt limit = true) ↔
      recent config latestTime oldest = true ∨
        (JsNumber.ofNat ((pruned config now times).countP fun time => oldest < time)).lt limit =
          true := by
  rw [List.countP_eq_length_filter]
  constructor
  · intro room
    cases ends : recent config latestTime oldest with
    | true => exact .inl rfl
    | false =>
      obtain ⟨later, order, last, gone, held⟩ := left_behind unrounded past shown inside ends
      refine .inr (JsNumber.ofNat_lt_of_le ?_ (room later order last gone))
      rw [← pruned_pruned order, pruned]
      refine (List.monotone_filter_right _ fun time younger => ?_).length_le
      exact held time (of_decide_eq_true younger)
  · rintro (ends | room) later order last gone
    · rw [recent_mono last ends] at gone
      cases gone
    · refine JsNumber.ofNat_lt_of_le ?_ room
      rw [← pruned_pruned order, pruned]
      refine (List.monotone_filter_right _ fun time held => ?_).length_le
      by_contra older
      have kept := recent_of_le (not_lt.mp fun younger => older (decide_eq_true younger)) held
      rw [gone] at kept
      cases kept

omit [DecidableEq Sender] in
theorem globalFull_eq : globalFull config now limiter =
    !(JsNumber.ofNat (pruned config now limiter.globalRequests).length).lt
      config.globalMaxRequests := by
  rw [globalFull, JsNumber.ge_eq_not_lt (JsNumber.ofNat_ne_nan _)
    (JsNumber.ne_nan_of_truthy config.hasGlobal)]

theorem filling_full (full : globalFull config now limiter = true) :
    filling config senderId now limiter = pruned config now limiter.globalRequests := by
  rw [filling, if_pos full]

theorem filling_room (room : globalFull config now limiter = false) :
    filling config senderId now limiter = pruned config now (timestampsOf senderId limiter) := by
  rw [filling, if_neg (by simp [room])]

theorem retryAfterMs_eq (refused : (checkAndRecord config senderId now limiter).1.allowed = false) :
    (checkAndRecord config senderId now limiter).1.retryAfterMs =
      some (retryAfter config now (filling config senderId now limiter)) := by
  rw [checkAndRecord_decision] at refused ⊢
  rw [check, filling] at *
  dsimp only at refused ⊢
  split
  next full => rfl
  next room =>
    rw [if_neg room] at refused
    split at refused
    next full =>
      rw [if_pos full]
      rfl
    next free => cases refused

/-- A refusal by the limit for all senders. -/
theorem retry_global_iff (shown : now ≤ latestTime) (orderly : Orderly config now limiter)
    (doubles : ∀ oldest ∈ (filling config senderId now limiter).head?, config.Unrounded oldest now)
    (refused : (checkAndRecord config senderId now limiter).1.allowed = false)
    (full : globalFull config now limiter = true) :
    RetryRight config senderId now (retryAfter config now (filling config senderId now limiter))
        (checkAndRecord config senderId now limiter).2 ↔
      RetryKnown config senderId now limiter := by
  rw [filling_full full] at doubles ⊢
  rw [retryRight_iff refused, RetryKnown, if_pos full, younger]
  rw [globalFull_eq, Bool.not_eq_true'] at full
  cases held : pruned config now limiter.globalRequests with
  -- A limit of zero refuses without a request to wait for.
  | nil =>
      rw [held] at full
      constructor
      · rintro ⟨positive, _⟩
        cases positive
      · rintro ⟨above, _⟩
        rw [List.length_nil, above] at full
        cases full
  | cons oldest rest =>
      have spaced := orderly.everyone.sublist (List.filter_sublist (p := recent config now))
      have inside := recent_of_pruned held
      rw [← pruned, held] at spaced
      rw [held] at full doubles
      have unrounded := doubles oldest rfl
      have current := inside oldest List.mem_cons_self
      have above := positive_of_spaced spaced
      have past := spaced.past oldest List.mem_cons_self
      have positive : (JsNumber.ofNat 0).lt (retryAfter config now (oldest :: rest)) = true :=
        retryAfter_positive unrounded (past.trans shown) current
      have early : config.windowMs.ge (retryAfter config now (oldest :: rest)) = true :=
        retryAfter_within unrounded past
      have reopening (later : Nat) (order : now ≤ later) :
          (JsNumber.ofNat (pruned config later limiter.globalRequests).length).lt
            config.globalMaxRequests = !recent config later oldest := by
        rw [← pruned_pruned order, held]
        exact spaced.reopens inside full later
      simp only [positive, early, above, true_and, List.head?_cons, Option.any_some]
      rw [← room_after_iff unrounded past shown current]
      refine forall₃_congr fun later order last => ?_
      rw [allowed_eq, reopening later order, lt_retryAfter unrounded past order last]
      cases recent config later oldest <;> simp

/-- A refusal by the sender's own limit. -/
theorem retry_sender_iff (shown : now ≤ latestTime) (orderly : Orderly config now limiter)
    (doubles : ∀ oldest ∈ (filling config senderId now limiter).head?, config.Unrounded oldest now)
    (refused : (checkAndRecord config senderId now limiter).1.allowed = false)
    (room : globalFull config now limiter = false) :
    RetryRight config senderId now (retryAfter config now (filling config senderId now limiter))
        (checkAndRecord config senderId now limiter).2 ↔
      RetryKnown config senderId now limiter := by
  rw [filling_room room] at doubles ⊢
  have full := refused
  rw [retryRight_iff refused, RetryKnown, if_neg (by simp [room])]
  rw [globalFull_eq, Bool.not_eq_false'] at room
  rw [allowed_eq, room, Bool.true_and] at full
  cases held : pruned config now (timestampsOf senderId limiter) with
  | nil =>
      rw [held] at full
      constructor
      · rintro ⟨positive, _⟩
        cases positive
      · intro above
        rw [List.length_nil, above] at full
        cases full
  | cons oldest rest =>
      have spaced := (orderly.each senderId).sublist (List.filter_sublist (p := recent config now))
      have inside := recent_of_pruned held
      rw [← pruned, held] at spaced
      rw [held] at full doubles
      have unrounded := doubles oldest rfl
      have current := inside oldest List.mem_cons_self
      have past := spaced.past oldest List.mem_cons_self
      refine iff_of_true ⟨?_, ?_, fun later order last => ?_⟩ (positive_of_spaced spaced)
      · exact retryAfter_positive unrounded (past.trans shown) current
      · exact retryAfter_within unrounded past
      -- The limit for all senders is not in the way later either: its window only loses requests.
      · have still := JsNumber.ofNat_lt_of_le (fewer_later order limiter.globalRequests) room
        rw [allowed_eq, still, Bool.true_and, lt_retryAfter unrounded past order last,
          ← pruned_pruned order, held]
        exact spaced.reopens inside full later

end Waiting

/-- Where no double is rounded until the oldest request has left the window, the time that a refusal
    names is right exactly when it is known: when the limit that refuses is the only one in the
    way. -/
theorem retry_after_iff (config : Config) (events : List (Event Sender × Nat)) (senderId : Sender)
    (now : Nat) (wait : JsNumber) (shown : now ≤ latestTime)
    (ordered : events.Pairwise fun earlier later => earlier.2 ≤ later.2)
    (before : ∀ event ∈ events, event.2 ≤ now)
    (doubles : ∀ oldest ∈ (filling config senderId now (replay config start events)).head?,
      config.Unrounded oldest now)
    (refused : (checkAndRecord config senderId now (replay config start events)).1.allowed = false)
    (told : (checkAndRecord config senderId now (replay config start events)).1.retryAfterMs =
      some wait) :
    RetryRight config senderId now wait
        (checkAndRecord config senderId now (replay config start events)).2 ↔
      RetryKnown config senderId now (replay config start events) := by
  have orderly : Orderly config now (replay config start events) :=
    orderly_replay orderly_start ordered (fun event member => ⟨Nat.zero_le _, before event member⟩)
      (Nat.zero_le now)
  rw [retryAfterMs_eq refused] at told
  cases told
  cases full : globalFull config now (replay config start events) with
  | true => exact retry_global_iff shown orderly doubles refused full
  | false => exact retry_sender_iff shown orderly doubles refused full

/-! Two requests in ten milliseconds, of which a sender has one. -/

def paired : Config := configure (.ofNat 1) (.ofNat 10) (.ofNat 2)

def once : List (Event String × Nat) := [(.checkAndRecord "alice", 1)]

theorem own_limit_known : RetryRight paired "alice" 4 (.ofNat 7)
    (checkAndRecord paired "alice" 4 (replay paired start once)).2 := by
  have whole : paired.WholeWindow :=
    wholeWindow_of_nat (by decide +kernel : paired.windowMs = .ofNat 10) (by decide)
  have first : (filling paired "alice" 4 (replay paired start once)).head? = some 1 := by
    decide +kernel
  have doubles : ∀ oldest ∈ (filling paired "alice" 4 (replay paired start once)).head?,
      paired.Unrounded oldest 4 := by
    rw [first]
    rintro oldest ⟨⟩
    exact unrounded_of_whole whole (by decide) (by decide)
  refine (retry_after_iff paired once "alice" 4 (.ofNat 7) (by decide) (by decide) (by decide)
    doubles (by decide +kernel) (by decide +kernel)).mpr ?_
  rw [RetryKnown, if_neg (by decide +kernel)]
  decide +kernel

def crowded : List (Event String × Nat) := [(.checkAndRecord "bob", 1), (.checkAndRecord "alice", 2)]

/-- The sender is told to come back when another sender's request has left the window, and is
    refused then for its own. -/
theorem own_limit_overlooked : ¬ ∀ (config : Config) (events : List (Event String × Nat))
    (senderId : String) (now : Nat) (wait : JsNumber),
    (events.Pairwise fun earlier later => earlier.2 ≤ later.2) →
    (∀ event ∈ events, event.2 ≤ now) →
    (checkAndRecord config senderId now (replay config start events)).1.allowed = false →
    (checkAndRecord config senderId now (replay config start events)).1.retryAfterMs = some wait →
    RetryRight config senderId now wait
      (checkAndRecord config senderId now (replay config start events)).2 := by
  intro claimed
  have right := claimed paired crowded "alice" 3 (.ofNat 8) (by decide) (by decide)
    (by decide +kernel) (by decide +kernel)
  have allowed := right.exact [] 11 (by decide) (by decide) List.Pairwise.nil (by simp) (by simp [decisions])
  revert allowed
  decide +kernel

end Chainmail.RateLimiter
