import Chainmail.ReputationLimiter
import Chainmail.SlidingWindow
import Mathlib.Data.List.Induction

/-!
How many requests the reputation limiter lets through in a window. It asks the
sliding-window limiter for the sender's rate alone, so nothing holds back many
senders together: the limit for all of them is kept just when no request is let
through that would exceed it.
-/

namespace Chainmail

namespace ReputationLimiter

open RateLimiter

variable {Sender : Type} [DecidableEq Sender]

inductive Event (Sender : Type) where
  | checkAndRecord (senderId : Sender) (messageSize : Nat)
  | adjustReputation (senderId : Sender) (delta : ℚ)
  | reportSpam (senderId : Sender)
  | markTrusted (senderId : Sender) (level : TrustLevel)
  | getStats (senderId : Sender)
  | cleanup

/-- The sender whose request is let through, and the state afterwards. -/
def step (config : Config) (event : Event Sender) (now : Nat) (state : State Sender) :
    Option Sender × State Sender :=
  match event with
  | .checkAndRecord senderId messageSize =>
      let result := checkAndRecord config senderId messageSize now state
      (if result.1.isNone then some senderId else none, result.2)
  | .adjustReputation senderId delta => (none, adjustReputation config senderId delta state)
  | .reportSpam senderId => (none, reportSpam config senderId state)
  | .markTrusted senderId level => (none, markTrusted senderId level state)
  | .getStats senderId => (none, (getStats config senderId now state).2)
  | .cleanup => (none, { state with base := RateLimiter.cleanup config.base now state.base })

/-- The requests let through in a run, with their times. -/
def accepted (config : Config) : State Sender → List (Event Sender × Nat) → List (Sender × Nat)
  | _, [] => []
  | state, (event, now) :: rest =>
      let stepped := step config event now state
      stepped.1.toList.map (fun senderId => (senderId, now)) ++ accepted config stepped.2 rest

/-- In the window of the limiter that ends at some time. -/
def within (config : Config) (finish : ℚ) (request : Sender × Nat) : Bool :=
  ((JsNumber.finite finish).sub config.base.windowMs).lt (.ofNat request.2) &&
    decide ((request.2 : ℚ) ≤ finish)

/-- In no window are there more requests than all senders together may make. -/
def KeepsGlobalLimit (config : Config) (requests : List (Sender × Nat)) : Prop :=
  ∀ finish, config.base.globalMaxRequests.lt
    (.ofNat (requests.countP (within config finish))) = false

/-- With a request of now in it, the window exceeds the limit for all senders. -/
def overLimit (config : Config) (now : Nat) (requests : List (Sender × Nat)) : Bool :=
  config.base.globalMaxRequests.lt (.ofNat (requests.countP (within config now)))

/-- No request is let through in a run that the limit for all senders has no room for. -/
def HasRoom (config : Config) : List (Sender × Nat) → State Sender → List (Event Sender × Nat) → Prop
  | _, _, [] => True
  | earlier, state, (event, now) :: rest =>
      let stepped := step config event now state
      let requests := earlier ++ stepped.1.toList.map fun senderId => (senderId, now)
      (stepped.1.isSome → overLimit config now requests = false) ∧
        HasRoom config requests stepped.2 rest

/-- With a request of now in it, the store of all requests exceeds the limit for all senders. -/
def storeOverLimit (config : Config) (now : Nat) (state : State Sender) : Bool :=
  config.base.globalMaxRequests.lt
    (.ofNat (pruned config.base now (state.base.globalRequests ++ [now])).length)

/-- No request is let through that the store of all requests has no room for. -/
def StoreHasRoom (config : Config) : State Sender → List (Event Sender × Nat) → Prop
  | _, [] => True
  | state, (event, now) :: rest =>
      let stepped := step config event now state
      (stepped.1.isSome → storeOverLimit config now state = false) ∧
        StoreHasRoom config stepped.2 rest

section Base

variable {config : Config} {state : State Sender} {history : List (Sender × Nat)} {now : Nat}

theorem record_base (senderId : Sender) (messageSize : Nat) :
    (record config senderId messageSize now state).base =
      RateLimiter.record senderId now state.base := by
  rw [record]
  split <;> rfl

theorem tracks_step (tracks : Tracks config.base state.base history now) (event : Event Sender) :
    Tracks config.base (step config event now state).2.base
      (history ++ (step config event now state).1.toList.map fun senderId => (senderId, now))
      now := by
  cases event with
  | checkAndRecord senderId messageSize =>
      rw [step, checkAndRecord]
      cases checked : check config senderId messageSize now state with
      | some refusal => simpa using tracks
      | none => simpa [record_base] using tracks.record senderId
  | adjustReputation senderId delta => simpa [step, adjustReputation] using tracks
  | reportSpam senderId => simpa [step, reportSpam, adjustReputation] using tracks
  | markTrusted senderId level => simpa [step, markTrusted] using tracks
  | getStats senderId => simpa [step, getStats, getGlobalRate] using tracks.prune
  | cleanup => simpa [step] using tracks.cleanup

omit [DecidableEq Sender] in
/-- Of the requests before, a window that starts when it should holds those that the limiter
    keeps. -/
theorem within_iff (starts : windowStart config.base now = exactStart config.base now)
    {request : Sender × Nat} (before : request.2 ≤ now) :
    within config now request = recent config.base now request.2 := by
  have cast : (request.2 : ℚ) ≤ now := by exact_mod_cast before
  rw [recent, starts]
  simp [within, exactStart, JsNumber.ofNat, cast]

theorem Tracks.overLimit_eq (tracks : Tracks config.base state.base history now)
    (starts : windowStart config.base now = exactStart config.base now) (senderId : Sender) :
    storeOverLimit config now state = overLimit config now (history ++ [(senderId, now)]) := by
  have held : (pruned config.base now (state.base.globalRequests ++ [now])).length =
      (history ++ [(senderId, now)]).countP fun request => recent config.base now request.2 := by
    rw [pruned_append, tracks.everyone now (Nat.le_refl now), ← pruned_append, pruned,
      ← List.countP_eq_length_filter]
    have times : history.map Prod.snd ++ [now] = (history ++ [(senderId, now)]).map Prod.snd := by
      simp
    rw [times, List.countP_map]
    rfl
  have same : (history ++ [(senderId, now)]).countP (within config now) =
      (history ++ [(senderId, now)]).countP fun request => recent config.base now request.2 := by
    apply List.countP_congr
    intro request member
    have order : request.2 ≤ now := by
      rcases List.mem_append.mp member with earlier | own
      · exact tracks.past request earlier
      · rw [List.mem_singleton.mp own]
    rw [within_iff starts order]
  rw [storeOverLimit, overLimit, held, same]

/-- Where no window's start is rounded, the store of all requests tells whether there is room. -/
theorem storeHasRoom_iff (events : List (Event Sender × Nat))
    (starts : ExactStarts config.base events) (tracks : Tracks config.base state.base history now)
    (after : ∀ event ∈ events, now ≤ event.2)
    (ordered : events.Pairwise fun earlier later => earlier.2 ≤ later.2) :
    StoreHasRoom config state events ↔ HasRoom config history state events := by
  induction events generalizing state history now with
  | nil => rfl
  | cons event rest ih =>
      obtain ⟨later, sorted⟩ := List.pairwise_cons.mp ordered
      have waited := tracks.wait (after event List.mem_cons_self)
      have stepped := tracks_step waited event.1
      have others := ih (fun other member => starts other (List.mem_cons_of_mem _ member)) stepped
        later sorted
      rw [StoreHasRoom, HasRoom]
      refine and_congr ?_ others
      cases (step config event.1 event.2 state).1 with
      | none => simp
      | some senderId =>
          have room := Tracks.overLimit_eq waited (starts event List.mem_cons_self) senderId
          simp [room]

end Base

section Windows

variable {config : Config}

/-- Every request comes with room for it in the window that ends with it. -/
def RoomForEach (config : Config) (earlier requests : List (Sender × Nat)) : Prop :=
  ∀ before request after, before ++ request :: after = requests →
    overLimit config request.2 (earlier ++ before ++ [request]) = false

omit [DecidableEq Sender] in
theorem roomForEach_cons (earlier rest : List (Sender × Nat)) (request : Sender × Nat) :
    RoomForEach config earlier (request :: rest) ↔
      overLimit config request.2 (earlier ++ [request]) = false ∧
        RoomForEach config (earlier ++ [request]) rest := by
  constructor
  · intro room
    constructor
    · simpa using room [] request rest rfl
    · intro before other after same
      simpa using room (request :: before) other after (by simp [same])
  · rintro ⟨first, later⟩ before other after same
    cases before with
    | nil =>
        cases same
        simpa using first
    | cons head more =>
        cases same
        simpa using later more other after rfl

theorem hasRoom_iff {state : State Sender} {earlier : List (Sender × Nat)}
    (events : List (Event Sender × Nat)) :
    HasRoom config earlier state events ↔ RoomForEach config earlier (accepted config state events) := by
  induction events generalizing state earlier with
  | nil => simp [HasRoom, RoomForEach, accepted]
  | cons event rest ih =>
      rw [HasRoom, accepted]
      cases (step config event.1 event.2 state).1 with
      | none => simpa using ih
      | some senderId =>
          simp only [Option.toList_some, List.map_cons, List.map_nil, List.singleton_append,
            roomForEach_cons, Option.isSome_some, true_implies]
          exact and_congr_right fun _ => ih

theorem accepted_times (state : State Sender) (events : List (Event Sender × Nat)) :
    ((accepted config state events).map Prod.snd).Sublist (events.map Prod.snd) := by
  induction events generalizing state with
  | nil => exact List.Sublist.slnil
  | cons event rest ih =>
      rw [accepted, List.map_append, List.map_cons]
      cases (step config event.1 event.2 state).1 with
      | none => exact (ih _).cons _
      | some senderId => exact (ih _).cons_cons _

omit [DecidableEq Sender] in
/-- A window that ends later starts later. -/
theorem within_of_later {finish : ℚ} {request other : Sender × Nat}
    (last : within config finish request = true) (inside : within config finish other = true)
    (order : other.2 ≤ request.2) : within config request.2 other = true := by
  have cast : (other.2 : ℚ) ≤ request.2 := by exact_mod_cast order
  simp only [within, Bool.and_eq_true, decide_eq_true_eq] at last inside ⊢
  refine ⟨?_, cast⟩
  cases width : config.base.windowMs with
  | nan => simp [width, JsNumber.sub, JsNumber.neg, JsNumber.add, JsNumber.lt] at inside
  | posInfinity => rfl
  | negInfinity => simp [width, JsNumber.sub, JsNumber.neg, JsNumber.add, JsNumber.lt] at inside
  | finite size =>
      simp only [width, JsNumber.sub, JsNumber.neg, JsNumber.add, JsNumber.ofNat, JsNumber.lt,
        decide_eq_true_eq] at inside ⊢
      linarith

omit [DecidableEq Sender] in
theorem room_of_keeps {requests : List (Sender × Nat)} (keeps : KeepsGlobalLimit config requests) :
    RoomForEach config [] requests := by
  rintro before request after rfl
  apply Bool.eq_false_iff.mpr
  intro exceeded
  apply Bool.eq_false_iff.mp (keeps request.2)
  refine JsNumber.lt_ofNat_mono ?_ exceeded
  have whole : before ++ request :: after = before ++ [request] ++ after := by simp
  rw [List.nil_append, whole]
  exact (List.sublist_append_left _ _).countP_le

omit [DecidableEq Sender] in
theorem keeps_of_room {requests : List (Sender × Nat)}
    (sorted : requests.Pairwise fun earlier later => earlier.2 ≤ later.2)
    (natural : config.base.globalMaxRequests.lt (.ofNat 0) = false)
    (room : RoomForEach config [] requests) : KeepsGlobalLimit config requests := by
  intro finish
  induction requests using List.reverseRecOn with
  | nil => exact natural
  | append_singleton earlier request ih =>
      obtain ⟨sortedBefore, _, order⟩ := List.pairwise_append.mp sorted
      have roomBefore : RoomForEach config [] earlier := by
        rintro before other after rfl
        exact room before other (after ++ [request]) (by simp)
      rw [List.countP_append, List.countP_singleton]
      by_cases last : within config finish request = true
      · have own := room earlier request [] rfl
        apply Bool.eq_false_iff.mpr
        intro exceeded
        apply Bool.eq_false_iff.mp own
        refine JsNumber.lt_ofNat_mono ?_ exceeded
        rw [List.nil_append, ← List.countP_singleton, ← List.countP_append]
        refine List.countP_mono_left fun other member inside => within_of_later last inside ?_
        rcases List.mem_append.mp member with before | same
        · exact order other before request List.mem_cons_self
        · rw [List.mem_singleton.mp same]
      · rw [if_neg last]
        exact ih sortedBefore roomBefore

end Windows

/-- In a run by a clock that does not go back, no window holds more requests than all
    senders may make just when each request that was let through had room: in its window, and
    where no window's start is rounded, in the store that the limiter keeps of all requests. -/
theorem global_limit_iff (config : Config) (events : List (Event Sender × Nat))
    (ordered : events.Pairwise fun earlier later => earlier.2 ≤ later.2) :
    (KeepsGlobalLimit config (accepted config start events) ↔
      config.base.globalMaxRequests.lt (.ofNat 0) = false ∧ HasRoom config [] start events) ∧
    (ExactStarts config.base events →
      (KeepsGlobalLimit config (accepted config start events) ↔
        config.base.globalMaxRequests.lt (.ofNat 0) = false ∧ StoreHasRoom config start events)) := by
  have sorted : (accepted config start events).Pairwise
      fun earlier later => earlier.2 ≤ later.2 := by
    apply List.pairwise_map.mp
    exact (List.pairwise_map.mpr ordered).sublist (accepted_times start events)
  have room : KeepsGlobalLimit config (accepted config start events) ↔
      config.base.globalMaxRequests.lt (.ofNat 0) = false ∧ HasRoom config [] start events := by
    rw [hasRoom_iff]
    constructor
    · intro keeps
      refine ⟨?_, room_of_keeps keeps⟩
      have empty := keeps (-1)
      have none : (accepted config start events).countP (within config (-1)) = 0 := by
        apply List.countP_eq_zero.mpr
        intro request _ inside
        simp only [within, Bool.and_eq_true, decide_eq_true_eq] at inside
        have positive : (0 : ℚ) ≤ request.2 := Nat.cast_nonneg _
        linarith [inside.2]
      rwa [none] at empty
    · rintro ⟨natural, room⟩
      exact keeps_of_room sorted natural room
  refine ⟨room, fun starts => ?_⟩
  have begun : Tracks config.base (start : State Sender).base [] 0 := tracks_start
  rw [storeHasRoom_iff events starts begun (fun _ _ => Nat.zero_le _) ordered]
  exact room

/-- Two requests a minute for a new sender, and one for all senders together. -/
def oneForAll : Config :=
  configure (.ofNat 4) (.ofNat 60000) (.ofNat 1) .nan .nan id fun _ => "today"

/-- The second sender is let through, although the limit for all is reached. -/
theorem two_senders_exceed_limit : ¬ ∀ (config : Config) (events : List (Event String × Nat)),
    (events.Pairwise fun earlier later => earlier.2 ≤ later.2) →
      KeepsGlobalLimit config (accepted config start events) := by
  intro keeps
  have kept := keeps oneForAll [(.checkAndRecord "alice" 0, 1), (.checkAndRecord "bob" 0, 1)]
    (by decide) 1
  have both : accepted oneForAll start
      [(.checkAndRecord "alice" 0, 1), (.checkAndRecord "bob" 0, 1)] =
      [("alice", 1), ("bob", 1)] := by
    decide +kernel
  rw [both] at kept
  revert kept
  decide +kernel

/-- Two requests a minute for a sender of no ill repute, and three for all senders together. -/
def threeForAll : Config :=
  configure (.ofNat 2) (.ofNat 60000) (.ofNat 3) .nan .nan id fun _ => "today"

/-- The first sender's third request is over their own limit; the last one comes when the first
    two have left the window. -/
def crowd : List (Event String × Nat) :=
  [(.checkAndRecord "alice" 0, 1), (.checkAndRecord "alice" 0, 2), (.checkAndRecord "alice" 0, 3),
    (.checkAndRecord "bob" 0, 4), (.checkAndRecord "carol" 0, 60002)]

theorem crowd_within_limit : KeepsGlobalLimit threeForAll (accepted threeForAll start crowd) := by
  have whole : threeForAll.base.WholeWindow :=
    wholeWindow_of_nat (by decide +kernel : threeForAll.base.windowMs = .ofNat 60000) (by decide)
  have starts : ExactStarts threeForAll.base crowd := exactStarts_of_whole whole (by decide)
  refine ((global_limit_iff threeForAll crowd (by decide)).2 starts).mpr ⟨by decide +kernel, ?_⟩
  simp only [crowd, StoreHasRoom, and_true]
  decide +kernel

end ReputationLimiter
end Chainmail
