import Chainmail.ReputationLimiter
import Chainmail.Runs

/-!
How many bytes the size limiter records for a sender on one day. The quota is asked
for only where the sender has an entry of the day; so the first message of a day is
held to the size limit alone, which need not be the smaller of the two.
-/

namespace Chainmail.ReputationLimiter

variable {Sender : Type} [DecidableEq Sender]

namespace SizeLimiter

/-- `SizeLimiter.check` -/
def check (config : Config) (senderId : Sender) (size now : Nat) (state : State Sender) :
    Option Refusal :=
  match checkSize config size with
  | some refusal => some refusal
  | none => checkDailyStorage config senderId size now state

/-- The reputation limiter asks this of every message that is not empty. -/
theorem checkSizes_eq (config : Config) (senderId : Sender) {size : Nat} (filled : 0 < size)
    (now : Nat) (state : State Sender) :
    checkSizes config senderId size now state = check config senderId size now state := by
  cases checked : checkSize config size with
  | none => simp only [checkSizes, check, if_pos filled, checked]
  | some refusal => simp only [checkSizes, check, if_pos filled, checked]

structure Request (Sender : Type) where
  senderId : Sender
  size : Nat
  now : Nat

/-- A request is checked and, if it is allowed, recorded. -/
def step (config : Config) (request : Request Sender) (state : State Sender) : State Sender :=
  match check config request.senderId request.size request.now state with
  | some _ => state
  | none => recordStorage config request.senderId request.size request.now state

def replay (config : Config) : List (Request Sender) → State Sender
  | [] => start
  | request :: earlier => step config request (replay config earlier)

def Allowed (config : Config) (request : Request Sender) (earlier : List (Request Sender)) : Prop :=
  check config request.senderId request.size request.now (replay config earlier) = none

instance (config : Config) (request : Request Sender) (earlier : List (Request Sender)) :
    Decidable (Allowed config request earlier) :=
  decidable_of_iff _ Option.isNone_iff_eq_none

/-- The requests of a sender that were recorded, the last of them first. -/
def recorded (config : Config) (senderId : Sender) : List (Request Sender) → List (Request Sender)
  | [] => []
  | request :: earlier =>
      if request.senderId = senderId ∧ Allowed config request earlier then
        request :: recorded config senderId earlier
      else recorded config senderId earlier

/-- The bytes that were recorded for a sender on a day. -/
def bytesOn (config : Config) (senderId : Sender) (date : String) (past : List (Request Sender)) :
    Nat :=
  (((recorded config senderId past).filter fun request => config.dateOf request.now = date).map
    Request.size).sum

/-- No sender has more recorded on any day than it may store. -/
def WithinQuota (config : Config) (past : List (Request Sender)) : Prop :=
  ∀ senderId date, config.sizes.maxDailyStorage.lt (.ofNat (bytesOn config senderId date past)) = false

/-- The sender has an entry of the day of the request. -/
def HasEntry (config : Config) (request : Request Sender) (state : State Sender) : Prop :=
  ∃ usage, state.dailyUsage.get request.senderId = some usage ∧
    usage.date = config.dateOf request.now

/-- A first message of a day that is no larger than a message may be is not larger than what may
    be stored on the day either. -/
def FirstFits (config : Config) (request : Request Sender) (earlier : List (Request Sender)) :
    Prop :=
  checkSize config request.size = none → ¬ HasEntry config request (replay config earlier) →
    config.sizes.maxDailyStorage.lt (.ofNat request.size) = false

/-- A day that has gone does not come back. -/
def DaysPass (config : Config) (request : Request Sender) (earlier : List (Request Sender)) : Prop :=
  ∀ between first before, earlier = between ++ first :: before →
    config.dateOf first.now = config.dateOf request.now →
    ∀ other ∈ between, config.dateOf other.now = config.dateOf request.now

section Days
variable {config : Config} {request : Request Sender} {past earlier : List (Request Sender)}
  {senderId : Sender}

theorem recorded_subset (senderId : Sender) (past : List (Request Sender)) :
    recorded config senderId past ⊆ past := by
  induction past with
  | nil => exact List.Subset.refl _
  | cons request earlier ih =>
      rw [recorded]
      split
      · exact List.cons_subset_cons request ih
      · exact List.subset_cons_of_subset request ih

theorem allowed_sized (allowed : Allowed config request earlier) :
    checkSize config request.size = none := by
  rw [Allowed, check] at allowed
  split at allowed
  next => cases allowed
  next sized => exact sized

/-- The first message of a day is held to the size limit alone. -/
theorem allowed_first (fresh : ¬ HasEntry config request (replay config earlier)) :
    Allowed config request earlier ↔ checkSize config request.size = none := by
  refine ⟨allowed_sized, fun sized => ?_⟩
  rw [Allowed, check, sized]
  dsimp only
  rw [checkDailyStorage]
  split
  next => rfl
  next usage entry => exact if_neg fun both => fresh ⟨usage, entry, both.1⟩

theorem replay_allowed (allowed : Allowed config request earlier) :
    replay config (request :: earlier) =
      recordStorage config request.senderId request.size request.now (replay config earlier) := by
  have checked : check config request.senderId request.size request.now (replay config earlier) =
      none := allowed
  rw [replay, step, checked]

theorem replay_refused (refused : ¬ Allowed config request earlier) :
    replay config (request :: earlier) = replay config earlier := by
  rw [replay, step]
  cases checked : check config request.senderId request.size request.now (replay config earlier) with
  | none => exact absurd checked refused
  | some refusal => rfl

/-- An entry is of the day of the last request that was recorded. -/
theorem entry_date (config : Config) (senderId : Sender) (past : List (Request Sender)) :
    ((replay config past).dailyUsage.get senderId).map Usage.date =
      (recorded config senderId past).head?.map fun request => config.dateOf request.now := by
  induction past with
  | nil => rfl
  | cons request earlier ih =>
      by_cases allowed : Allowed config request earlier
      · rw [replay_allowed allowed, recordStorage, recorded]
        dsimp only
        rw [OrderedMap.get_set]
        by_cases own : request.senderId = senderId
        · simp [own, allowed]
        · simpa [own, Ne.symm own] using ih
      · rw [replay_refused allowed, recorded, if_neg fun both => allowed both.2]
        exact ih

/-- Where the days pass, the last request that was recorded is of a day if any is. -/
theorem last_recorded {date : String} (past : List (Request Sender))
    (passing : ∀ between first before, past = between ++ first :: before →
      config.dateOf first.now = date → ∀ other ∈ between, config.dateOf other.now = date)
    {found : Request Sender} (member : found ∈ recorded config senderId past)
    (same : config.dateOf found.now = date) :
    ∃ last, (recorded config senderId past).head? = some last ∧ config.dateOf last.now = date := by
  induction past with
  | nil => cases member
  | cons request earlier ih =>
      rw [recorded] at member ⊢
      split at member
      next own =>
        rw [if_pos own]
        refine ⟨request, rfl, ?_⟩
        rcases List.mem_cons.mp member with rfl | older
        · exact same
        · obtain ⟨between, before, split⟩ := List.append_of_mem (recorded_subset senderId _ older)
          exact passing (request :: between) found before (by rw [split]; rfl) same request
            List.mem_cons_self
      next other =>
        rw [if_neg other]
        refine ih (fun between first before split day item inside => ?_) member
        exact passing (request :: between) first before (by rw [split]; rfl) day item
          (List.mem_cons_of_mem _ inside)

/-- Without an entry of the day, nothing was recorded on it. -/
theorem bytesOn_new_day (passes : DaysPass config request earlier)
    (fresh : ¬ HasEntry config request (replay config earlier)) :
    bytesOn config request.senderId (config.dateOf request.now) earlier = 0 := by
  have none : (recorded config request.senderId earlier).filter
      (fun other => config.dateOf other.now = config.dateOf request.now) = [] := by
    refine List.filter_eq_nil_iff.mpr fun found member same => fresh ?_
    obtain ⟨last, head, day⟩ := last_recorded earlier passes member (of_decide_eq_true same)
    have dated := entry_date config request.senderId earlier
    rw [head] at dated
    obtain ⟨usage, held, date⟩ := Option.map_eq_some_iff.mp dated
    exact ⟨usage, held, date.trans day⟩
  rw [bytesOn, none]
  rfl

theorem bytesOn_cons (senderId : Sender) (date : String) :
    bytesOn config senderId date (request :: earlier) =
      if request.senderId = senderId ∧ Allowed config request earlier ∧
          config.dateOf request.now = date then
        request.size + bytesOn config senderId date earlier
      else bytesOn config senderId date earlier := by
  rw [bytesOn, recorded]
  by_cases own : request.senderId = senderId ∧ Allowed config request earlier
  · by_cases day : config.dateOf request.now = date
    · simp [own, day, bytesOn]
    · simp [own, day, bytesOn]
  · rw [if_neg own, if_neg fun all => own ⟨all.1, all.2.1⟩, bytesOn]

/-- An entry has all the bytes of its day. -/
def Tallied (config : Config) (past : List (Request Sender)) : Prop :=
  ∀ senderId usage, (replay config past).dailyUsage.get senderId = some usage →
    usage.bytes = bytesOn config senderId usage.date past

theorem Tallied.step (tallied : Tallied config earlier) (passes : DaysPass config request earlier) :
    Tallied config (request :: earlier) := by
  intro senderId usage held
  by_cases allowed : Allowed config request earlier
  · rw [replay_allowed allowed, recordStorage] at held
    dsimp only at held
    rw [OrderedMap.get_set] at held
    split at held
    next own =>
      cases held
      rw [bytesOn_cons, if_pos ⟨own.symm, allowed, rfl⟩, own]
      cases entry : (replay config earlier).dailyUsage.get request.senderId with
      | none =>
          have fresh : ¬ HasEntry config request (replay config earlier) := by
            rintro ⟨usage, found, _⟩
            rw [entry] at found
            cases found
          rw [bytesOn_new_day passes fresh]
          rfl
      | some usage =>
          dsimp only
          -- The entry of the sender is of this day and grows, or of an earlier one and starts over.
          by_cases today : usage.date = config.dateOf request.now
          · rw [if_pos today, tallied _ usage entry, today, Nat.add_comm]
          · have fresh : ¬ HasEntry config request (replay config earlier) := by
              rintro ⟨other, found, same⟩
              rw [entry] at found
              cases found
              exact today same
            rw [if_neg today, bytesOn_new_day passes fresh, Nat.add_zero]
    next other =>
      rw [bytesOn_cons, if_neg fun all => other all.1.symm]
      exact tallied senderId usage held
  · rw [replay_refused allowed] at held
    rw [bytesOn_cons, if_neg fun all => allowed all.2.1]
    exact tallied senderId usage held

theorem tallied_replay (passes : EachInput (DaysPass config) past) : Tallied config past := by
  induction past with
  | nil =>
      intro senderId usage held
      cases held
  | cons request earlier ih =>
      obtain ⟨passing, before⟩ := eachInput_cons.mp passes
      exact (ih before).step passing

end Days

section Quota
variable {config : Config} {request : Request Sender} {past earlier : List (Request Sender)}

theorem allowed_entry {usage : Usage} (allowed : Allowed config request earlier)
    (entry : (replay config earlier).dailyUsage.get request.senderId = some usage)
    (today : usage.date = config.dateOf request.now) :
    config.sizes.maxDailyStorage.lt (.ofNat (usage.bytes + request.size)) = false := by
  rw [Allowed, check] at allowed
  split at allowed
  next => cases allowed
  next =>
    rw [checkDailyStorage, entry] at allowed
    dsimp only at allowed
    split at allowed
    next => cases allowed
    next within => exact Bool.eq_false_iff.mpr fun exceeds => within ⟨today, exceeds⟩

theorem WithinQuota.step (within : WithinQuota config earlier) (tallied : Tallied config earlier)
    (passes : DaysPass config request earlier) (fits : FirstFits config request earlier) :
    WithinQuota config (request :: earlier) := by
  intro senderId date
  rw [bytesOn_cons]
  split
  next own =>
    obtain ⟨rfl, allowed, rfl⟩ := own
    by_cases entered : HasEntry config request (replay config earlier)
    · obtain ⟨usage, entry, today⟩ := entered
      rw [← today, ← tallied _ usage entry, Nat.add_comm]
      exact allowed_entry allowed entry today
    · rw [bytesOn_new_day passes entered, Nat.add_zero]
      exact fits (allowed_sized allowed) entered
  next => exact within senderId date

theorem firstFits_of_within (within : WithinQuota config (request :: earlier)) :
    FirstFits config request earlier := by
  intro sized fresh
  have allowed := (allowed_first fresh).mpr sized
  have total := within request.senderId (config.dateOf request.now)
  rw [bytesOn_cons, if_pos ⟨rfl, allowed, rfl⟩] at total
  refine Bool.eq_false_iff.mpr fun exceeds => Bool.eq_false_iff.mp total ?_
  exact JsNumber.lt_ofNat_mono (Nat.le_add_right _ _) exceeds

/-- Where no message may be larger than what a day has room for, the first of a day fits. -/
theorem firstFits_of_sizes {size : ℚ} (message : config.sizes.maxMessageSize = .finite size)
    (fits : config.sizes.maxDailyStorage.lt (.finite size) = false) :
    FirstFits config request earlier := by
  intro sized _
  rw [checkSize, message] at sized
  split at sized
  next => cases sized
  next unexceeded =>
    have small : ¬ size < request.size := by
      intro large
      simp [JsNumber.lt, JsNumber.ofNat, large] at unexceeded
    cases daily : config.sizes.maxDailyStorage with
    | nan => rfl
    | posInfinity => rfl
    | negInfinity => simp [daily, JsNumber.lt] at fits
    | finite limit =>
        rw [daily] at fits
        simp only [JsNumber.lt, JsNumber.ofNat, decide_eq_false_iff_not, not_lt] at fits ⊢
        exact (not_lt.mp small).trans fits

end Quota

/-- In every run, no sender has more recorded on a day than it may store only if each first message
    of a day fits; and if it does, and no day comes back, no sender ever has. -/
theorem daily_quota_iff (config : Config)
    (positive : (JsNumber.ofNat 0).lt config.sizes.maxDailyStorage = true)
    (past : List (Request Sender)) :
    (Always (WithinQuota config) past → EachInput (FirstFits config) past) ∧
      (EachInput (FirstFits config) past → EachInput (DaysPass config) past →
        Always (WithinQuota config) past) := by
  constructor
  · intro within request earlier suffix
    exact firstFits_of_within (within _ suffix)
  · intro fits passes
    induction past with
    | nil =>
        intro earlier suffix senderId date
        rw [List.suffix_nil.mp suffix]
        cases daily : config.sizes.maxDailyStorage with
        | finite limit =>
            rw [daily] at positive
            simp only [JsNumber.lt, JsNumber.ofNat, decide_eq_true_eq] at positive
            simpa [JsNumber.lt, JsNumber.ofNat, bytesOn, recorded] using positive.le
        | _ => simp_all [JsNumber.lt, JsNumber.ofNat]
    | cons request earlier ih =>
        obtain ⟨fit, fitting⟩ := eachInput_cons.mp fits
        obtain ⟨passing, passed⟩ := eachInput_cons.mp passes
        have before := ih fitting passed
        have within := before earlier (List.suffix_refl _)
        exact always_cons.mpr ⟨within.step (tallied_replay passed) passing fit, before⟩

/-- Ten bytes a day, for messages of up to twenty. -/
def tight : Config :=
  configure .nan .nan .nan (.ofNat 20) (.ofNat 10) id fun _ => "today"

def small : List (Request String) := [⟨"alice", 4, 2⟩, ⟨"alice", 6, 1⟩]

theorem small_within_quota : bytesOn tight "alice" "today" small = 10 ∧
    Always (WithinQuota tight) small := by
  refine ⟨by decide +kernel, (daily_quota_iff tight (by decide +kernel) small).2 ?_ ?_⟩
  · refine eachInput_cons.mpr ⟨?_, eachInput_cons.mpr ⟨?_, eachInput_nil⟩⟩
    · intro _ _
      decide +kernel
    · intro _ _
      decide +kernel
  · intro request earlier _ between first before _ _ other _
    rfl

/-- The first message of the day takes more than all of it. -/
theorem large_exceeds_quota : ¬ ∀ (config : Config) (past : List (Request String)),
    (JsNumber.ofNat 0).lt config.sizes.maxMessageSize = true →
    (JsNumber.ofNat 0).lt config.sizes.maxDailyStorage = true →
    Always (WithinQuota config) past := by
  intro claimed
  have within := claimed tight [⟨"alice", 15, 1⟩] (by decide +kernel) (by decide +kernel) _
    (List.suffix_refl _) "alice" "today"
  revert within
  decide +kernel

end SizeLimiter
end Chainmail.ReputationLimiter
