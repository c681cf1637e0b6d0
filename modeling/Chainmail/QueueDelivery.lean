import Chainmail.MessageQueue

/-!
What the outbound queue hands to its handler. At most one call of `processBatch`
is waiting to run or running, and no message is lost, handed over twice or out of
order. A message is handed over in the end unless more urgent ones keep coming.
-/

namespace Chainmail.MessageQueue

universe u
variable {Message : Type u} {options : Options}

/-- The entries of one priority, in order. -/
def ofPriority (priority : Priority) (entries : List (Entry Message)) : List (Entry Message) :=
  classOf Entry.priority priority entries

/-- What holds of the queue between two callbacks. -/
structure Orderly (options : Options) (trace : Trace Message) : Prop where
  scheduled : trace.state.timers + trace.state.running.length =
    if trace.state.processing then 1 else 0
  busy : trace.state.queue ≠ [] → trace.state.processing = true
  sorted : trace.state.queue.Pairwise fun a b => a.priority ≤ b.priority
  arrival : ∀ priority, ofPriority priority (trace.batches.flatten ++ trace.state.queue) =
    ofPriority priority trace.accepted
  room : trace.state.queue.length ≤ options.maxQueueSize

/-- The handler is called with the first entries of the queue, as many as a batch has. -/
def HandsOver (options : Options) (before after : Trace Message) : Prop :=
  after.batches = before.batches ∨
    ∃ batch, after.batches = before.batches ++ [batch] ∧
      after.state.running = before.state.running ++ [batch.map Entry.message] ∧
      before.state.queue = batch ++ after.state.queue ∧
      batch.length = min options.batchSize before.state.queue.length

section Steps
variable {trace after : Trace Message}

theorem orderly_start : Orderly options (start : Trace Message) where
  scheduled := rfl
  busy nonempty := absurd rfl nonempty
  sorted := List.Pairwise.nil
  arrival _ := rfl
  room := Nat.zero_le _

theorem step_enqueue {message : Message} {priority : Option Priority} {now : Nat}
    (taken : step options trace (.enqueue message priority now) = some after) :
    after = trace ∨
      trace.state.queue.length < options.maxQueueSize ∧
        after = ⟨scheduleBatchProcess { trace.state with
          queue := ordered Entry.priority (trace.state.queue ++ [entryFor message priority now]) },
          trace.accepted ++ [entryFor message priority now], trace.batches⟩ := by
  simp only [step, enqueue] at taken
  by_cases full : options.maxQueueSize ≤ trace.state.queue.length
  · simp only [if_pos full, Option.some.injEq] at taken
    exact .inl taken.symm
  · simp only [if_neg full, Option.some.injEq] at taken
    exact .inr ⟨Nat.lt_of_not_le full, taken.symm⟩

theorem step_timer (handled : options.onBatchReady = true)
    (taken : step options trace .timer = some after) :
    ∃ timers, trace.state.timers = timers + 1 ∧
      (trace.state.queue = [] ∧
          after = { trace with state := { trace.state with timers, processing := false } } ∨
        trace.state.queue ≠ [] ∧
          after = ⟨{ trace.state with
            queue := trace.state.queue.drop options.batchSize
            timers
            running := trace.state.running ++
              [(trace.state.queue.take options.batchSize).map Entry.message] },
            trace.accepted, trace.batches ++ [trace.state.queue.take options.batchSize]⟩) := by
  simp only [step] at taken
  split at taken
  next => cases taken
  next timers due =>
    refine ⟨timers, due, ?_⟩
    simp only [processBatch, handled, Option.some.injEq] at taken
    by_cases empty : trace.state.queue = []
    · refine .inl ⟨empty, ?_⟩
      rw [← taken]
      simp [empty]
    · refine .inr ⟨empty, ?_⟩
      rw [← taken]
      simp [empty]

theorem step_resolve {turn : Nat} (taken : step options trace (.resolve turn) = some after) :
    turn < trace.state.running.length ∧ after = { trace with
      state := continueProcessing
        { trace.state with running := trace.state.running.eraseIdx turn } } := by
  simp only [step] at taken
  split at taken
  next => cases taken
  next batch found =>
    exact ⟨(List.getElem?_eq_some_iff.mp found).1, (Option.some.inj taken).symm⟩

theorem Orderly.enqueue {message : Message} {priority : Option Priority} {now : Nat}
    (orderly : Orderly options trace)
    (taken : step options trace (.enqueue message priority now) = some after) :
    Orderly options after := by
  rcases step_enqueue taken with rfl | ⟨room, rfl⟩
  · exact orderly
  · constructor
    case scheduled =>
      have before := orderly.scheduled
      unfold scheduleBatchProcess
      cases processing : trace.state.processing with
      | true => simpa [processing] using before
      | false =>
          simp only [processing, Bool.false_eq_true, ↓reduceIte] at before ⊢
          omega
    case busy =>
      intro _
      unfold scheduleBatchProcess
      split
      next processing => exact processing
      next => rfl
    case sorted =>
      rw [scheduleBatchProcess_queue]
      exact ordered_sorted _
    case arrival =>
      intro other
      -- The queue is sorted anew, which keeps the order within a priority.
      have before := orderly.arrival other
      rw [scheduleBatchProcess_queue]
      simp only [ofPriority, classOf_append, classOf_ordered] at before ⊢
      rw [← List.append_assoc, before]
    case room =>
      rw [scheduleBatchProcess_queue, (ordered_perm _).length_eq, List.length_append]
      exact room

theorem Orderly.timer (handled : options.onBatchReady = true) (orderly : Orderly options trace)
    (taken : step options trace .timer = some after) : Orderly options after := by
  have before := orderly.scheduled
  obtain ⟨timers, due, ⟨empty, rfl⟩ | ⟨nonempty, rfl⟩⟩ := step_timer handled taken
  -- A timer that finds the queue empty ends the processing.
  · constructor
    case scheduled =>
      rw [due] at before
      cases processing : trace.state.processing with
      | true =>
          simp only [processing, Bool.false_eq_true, ↓reduceIte] at before ⊢
          omega
      | false =>
          simp only [processing, Bool.false_eq_true, ↓reduceIte] at before
          omega
    case busy => exact fun nonempty => absurd empty nonempty
    case sorted => exact orderly.sorted
    case arrival => exact orderly.arrival
    case room => exact orderly.room
  -- The timer becomes a running batch, so their number stays one.
  · have processing := orderly.busy nonempty
    constructor
    case scheduled =>
      simp only [processing, ↓reduceIte, List.length_append, List.length_singleton] at before ⊢
      omega
    case busy => exact fun _ => processing
    case sorted => exact orderly.sorted.sublist (List.drop_sublist _ _)
    case arrival =>
      intro priority
      rw [← orderly.arrival priority, List.flatten_append, List.flatten_singleton,
        List.append_assoc, List.take_append_drop]
    case room => exact (List.drop_sublist _ _).length_le.trans orderly.room

theorem Orderly.resolve {turn : Nat} (orderly : Orderly options trace)
    (taken : step options trace (.resolve turn) = some after) : Orderly options after := by
  obtain ⟨present, rfl⟩ := step_resolve taken
  have before := orderly.scheduled
  -- No batch is running while nothing is processed.
  have processing : trace.state.processing = true := by
    by_contra idle
    rw [if_neg idle] at before
    omega
  have erased := List.length_eraseIdx_of_lt present
  rw [if_pos processing] at before
  by_cases waiting : 0 < trace.state.queue.length
  · have continued : continueProcessing
        { trace.state with running := trace.state.running.eraseIdx turn } =
        { trace.state with
          running := trace.state.running.eraseIdx turn, timers := trace.state.timers + 1 } :=
      if_pos waiting
    rw [continued]
    exact
      { orderly with
        scheduled := by
          simp only [processing, ↓reduceIte, erased]
          omega
        busy := fun _ => processing }
  · have continued : continueProcessing
        { trace.state with running := trace.state.running.eraseIdx turn } =
        { trace.state with
          running := trace.state.running.eraseIdx turn, processing := false } := if_neg waiting
    rw [continued]
    exact
      { orderly with
        scheduled := by
          simp only [Bool.false_eq_true, ↓reduceIte, erased]
          omega
        busy := fun nonempty => absurd (List.length_pos_of_ne_nil nonempty) waiting }

theorem Orderly.step (handled : options.onBatchReady = true) (orderly : Orderly options trace)
    (taken : Step options trace after) : Orderly options after := by
  obtain ⟨event, taken⟩ := taken
  cases event with
  | enqueue message priority now => exact orderly.enqueue taken
  | timer => exact orderly.timer handled taken
  | resolve turn => exact orderly.resolve taken

theorem hands_over (handled : options.onBatchReady = true) (taken : Step options trace after) :
    HandsOver options trace after := by
  obtain ⟨event, taken⟩ := taken
  cases event with
  | enqueue message priority now =>
      rcases step_enqueue taken with rfl | ⟨_, rfl⟩
      · exact .inl rfl
      · exact .inl rfl
  | timer =>
      obtain ⟨timers, _, ⟨_, rfl⟩ | ⟨_, rfl⟩⟩ := step_timer handled taken
      · exact .inl rfl
      · exact .inr ⟨_, rfl, rfl, (List.take_append_drop _ _).symm, List.length_take⟩
  | resolve turn =>
      obtain ⟨_, rfl⟩ := step_resolve taken
      exact .inl rfl

theorem orderly_reachable (handled : options.onBatchReady = true)
    (reached : Reachable (· = start) (Step options) trace) : Orderly options trace :=
  reached.invariant (fun _ initial => initial ▸ orderly_start)
    fun _ _ orderly taken => orderly.step handled taken

theorem step_grows (handled : options.onBatchReady = true) (taken : Step options trace after) :
    trace.accepted <+: after.accepted ∧ trace.batches <+: after.batches := by
  obtain ⟨event, taken⟩ := taken
  cases event with
  | enqueue message priority now =>
      rcases step_enqueue taken with rfl | ⟨_, rfl⟩
      · exact ⟨List.prefix_rfl, List.prefix_rfl⟩
      · exact ⟨List.prefix_append _ _, List.prefix_rfl⟩
  | timer =>
      obtain ⟨timers, _, ⟨_, rfl⟩ | ⟨_, rfl⟩⟩ := step_timer handled taken
      · exact ⟨List.prefix_rfl, List.prefix_rfl⟩
      · exact ⟨List.prefix_rfl, List.prefix_append _ _⟩
  | resolve turn =>
      obtain ⟨_, rfl⟩ := step_resolve taken
      exact ⟨List.prefix_rfl, List.prefix_rfl⟩

end Steps

/-- A run without end, in which nothing may happen for a while, but every timer
    fires and every handler resolves at some time. -/
structure Execution (Message : Type u) (options : Options) where
  trace : Nat → Trace Message
  starts : trace 0 = start
  steps : ∀ n, trace (n + 1) = trace n ∨ Step options (trace n) (trace (n + 1))
  timersFire : ∀ n, 0 < (trace n).state.timers →
    ∃ m, n ≤ m ∧ step options (trace m) .timer = some (trace (m + 1))
  handlersResolve : ∀ n, (trace n).state.running ≠ [] →
    ∃ m, n ≤ m ∧ ∃ turn, step options (trace m) (.resolve turn) = some (trace (m + 1))

/-- The entry that is the `place`-th of its priority to come in is in a batch. -/
def Sent (priority : Priority) (place : Nat) (trace : Trace Message) : Prop :=
  place < (ofPriority priority trace.batches.flatten).length

def Accepted (priority : Priority) (place : Nat) (trace : Trace Message) : Prop :=
  place < (ofPriority priority trace.accepted).length

/-- Every message that comes in is handed over in the end. -/
def EverySent (execution : Execution Message options) : Prop :=
  ∀ n priority place, Accepted priority place (execution.trace n) →
    ∃ m, Sent priority place (execution.trace m)

/-- Only so many messages that are more urgent come in. -/
def Unhurried (priority : Priority) (execution : Execution Message options) : Prop :=
  ∃ bound, ∀ n, ((execution.trace n).accepted.filter fun entry =>
    decide (entry.priority < priority)).length ≤ bound

section Liveness
variable {execution : Execution Message options}

theorem Execution.reachable (execution : Execution Message options) (n : Nat) :
    Reachable (· = start) (Step options) (execution.trace n) := by
  induction n with
  | zero => exact .start execution.starts
  | succ n ih =>
      rcases execution.steps n with same | taken
      · rw [same]
        exact ih
      · exact .next ih taken

theorem Execution.grows (handled : options.onBatchReady = true) {n m : Nat} (before : n ≤ m) :
    (execution.trace n).accepted <+: (execution.trace m).accepted ∧
      (execution.trace n).batches <+: (execution.trace m).batches := by
  induction before with
  | refl => exact ⟨List.prefix_rfl, List.prefix_rfl⟩
  | @step m _ ih =>
      rcases execution.steps m with same | taken
      · rw [same]
        exact ih
      · obtain ⟨accepted, batches⟩ := step_grows handled taken
        exact ⟨ih.1.trans accepted, ih.2.trans batches⟩

/-- How many entries of a priority or a more urgent one were handed over. -/
def sentUpTo (priority : Priority) (trace : Trace Message) : Nat :=
  (trace.batches.flatten.filter fun entry => decide (entry.priority ≤ priority)).length

theorem sentUpTo_mono (priority : Priority) {before after : Trace Message}
    (grown : before.batches <+: after.batches) :
    sentUpTo priority before ≤ sentUpTo priority after := by
  obtain ⟨more, same⟩ := grown
  rw [sentUpTo, sentUpTo, ← same, List.flatten_append, List.filter_append, List.length_append]
  exact Nat.le_add_right _ _

theorem sentUpTo_le {trace : Trace Message} {priority : Priority} {place : Nat}
    (orderly : Orderly options trace) (unsent : ¬ Sent priority place trace) :
    sentUpTo priority trace ≤ place +
      (trace.accepted.filter fun entry => decide (entry.priority < priority)).length := by
  have same : (trace.batches.flatten ++ trace.state.queue).Perm trace.accepted :=
    perm_of_classes orderly.arrival
  have urgent := (same.filter fun entry => decide (entry.priority < priority)).length_eq
  have parts (entries : List (Entry Message)) :
      (entries.filter fun entry => decide (entry.priority ≤ priority)).length =
        (ofPriority priority entries).length +
          (entries.filter fun entry => decide (entry.priority < priority)).length := by
    induction entries with
    | nil => rfl
    | cons entry rest ih =>
        simp only [ofPriority, classOf, List.filter_cons, decide_eq_true_eq] at ih ⊢
        rcases lt_trichotomy entry.priority priority with less | equal | greater
        · simp [less, less.le, less.ne, ih, Nat.add_assoc]
        · simp [equal, ih, Nat.add_right_comm]
        · simp [not_le_of_gt greater, not_lt_of_gt greater, greater.ne', ih]
  rw [List.filter_append, List.length_append] at urgent
  rw [sentUpTo, parts]
  have few := Nat.le_of_not_lt unsent
  omega

/-- An entry that came in and was not handed over is in the queue. -/
theorem waits {trace : Trace Message} {priority : Priority} {place : Nat}
    (orderly : Orderly options trace) (accepted : Accepted priority place trace)
    (unsent : ¬ Sent priority place trace) : ∃ entry ∈ trace.state.queue, entry.priority = priority := by
  have whole := congrArg List.length (orderly.arrival priority)
  rw [ofPriority, classOf_append, List.length_append] at whole
  have few := Nat.le_of_not_lt unsent
  have waiting : 0 < (classOf Entry.priority priority trace.state.queue).length := by
    unfold Accepted at accepted
    unfold ofPriority at accepted few whole
    omega
  obtain ⟨entry, member⟩ := List.exists_mem_of_length_pos waiting
  exact ⟨entry, List.mem_of_mem_filter member, of_decide_eq_true (List.mem_filter.mp member).2⟩

-- The head of a sorted queue is at least as urgent as any entry in it.
theorem timer_sends {trace after : Trace Message} {priority : Priority}
    (handled : options.onBatchReady = true) (orderly : Orderly options trace)
    (waiting : ∃ entry ∈ trace.state.queue, entry.priority = priority)
    (taken : step options trace .timer = some after) :
    sentUpTo priority trace < sentUpTo priority after := by
  obtain ⟨entry, member, rfl⟩ := waiting
  obtain ⟨timers, _, ⟨empty, _⟩ | ⟨_, rfl⟩⟩ := step_timer handled taken
  · rw [empty] at member
    cases member
  · obtain ⟨size, batch⟩ := Nat.exists_eq_add_of_lt options.hasBatch
    cases waiting : trace.state.queue with
    | nil =>
        rw [waiting] at member
        cases member
    | cons first rest =>
        have urgent : first.priority ≤ entry.priority := by
          have sorted := orderly.sorted
          rw [waiting] at member sorted
          rcases List.mem_cons.mp member with rfl | later
          · exact le_refl _
          · exact (List.pairwise_cons.mp sorted).1 entry later
        have taken : (first :: rest).take options.batchSize = first :: rest.take size := by
          rw [batch, Nat.zero_add]
          rfl
        simp only [sentUpTo, List.flatten_append, List.flatten_singleton, List.filter_append,
          List.length_append, taken, List.filter_cons, urgent, decide_true, ↓reduceIte,
          List.length_cons]
        omega

/-- As long as the entry waits, more entries of its priority or a more urgent one leave. -/
theorem Execution.progress (handled : options.onBatchReady = true) {priority : Priority}
    {place first : Nat} (accepted : Accepted priority place (execution.trace first))
    (never : ∀ m, ¬ Sent priority place (execution.trace m)) (n : Nat) (after : first ≤ n) :
    ∃ later, n ≤ later ∧
      sentUpTo priority (execution.trace n) < sentUpTo priority (execution.trace later) := by
  have waiting (m : Nat) (after : first ≤ m) :
      ∃ entry ∈ (execution.trace m).state.queue, entry.priority = priority := by
    apply waits (orderly_reachable handled (execution.reachable m)) _ (never m)
    obtain ⟨more, same⟩ := (execution.grows handled after).1
    rw [Accepted, ← same, ofPriority, classOf_append, List.length_append]
    exact Nat.lt_add_right _ accepted
  have fires (m : Nat) (after : first ≤ m) (due : 0 < (execution.trace m).state.timers) :
      ∃ later, m ≤ later ∧
        sentUpTo priority (execution.trace m) < sentUpTo priority (execution.trace later) := by
    obtain ⟨moment, onward, fired⟩ := execution.timersFire m due
    have sent := timer_sends handled (orderly_reachable handled (execution.reachable moment))
      (waiting moment (after.trans onward)) fired
    have kept := sentUpTo_mono priority (execution.grows handled onward).2
    exact ⟨moment + 1, onward.trans (Nat.le_succ _), Nat.lt_of_le_of_lt kept sent⟩
  have orderly := orderly_reachable handled (execution.reachable n)
  have nonempty : (execution.trace n).state.queue ≠ [] := by
    obtain ⟨entry, member, _⟩ := waiting n after
    exact List.ne_nil_of_mem member
  have scheduled := orderly.scheduled
  rw [if_pos (orderly.busy nonempty)] at scheduled
  by_cases due : 0 < (execution.trace n).state.timers
  · exact fires n after due
  · have running : (execution.trace n).state.running ≠ [] := by
      intro none
      rw [none] at scheduled
      simp only [List.length_nil] at scheduled
      omega
    -- The handler resolves while the entry still waits, which starts the next timer.
    obtain ⟨moment, onward, turn, resolved⟩ := execution.handlersResolve n running
    obtain ⟨entry, member, _⟩ := waiting moment (after.trans onward)
    have started : 0 < (execution.trace (moment + 1)).state.timers := by
      rw [(step_resolve resolved).2, continueProcessing, if_pos (List.length_pos_of_mem member)]
      exact Nat.succ_pos _
    obtain ⟨later, further, sent⟩ :=
      fires (moment + 1) (after.trans (onward.trans (Nat.le_succ _))) started
    have beyond : n ≤ moment + 1 := onward.trans (Nat.le_succ _)
    have kept := sentUpTo_mono priority (execution.grows handled beyond).2
    exact ⟨later, beyond.trans further, Nat.lt_of_le_of_lt kept sent⟩

theorem Execution.sends (handled : options.onBatchReady = true) {priority : Priority}
    (unhurried : Unhurried priority execution) {n place : Nat}
    (accepted : Accepted priority place (execution.trace n)) :
    ∃ m, Sent priority place (execution.trace m) := by
  by_contra none
  -- As long as it waits, others leave before it, more than can have come in before it.
  have never : ∀ m, ¬ Sent priority place (execution.trace m) := fun m sent => none ⟨m, sent⟩
  obtain ⟨bound, few⟩ := unhurried
  obtain ⟨m, _, beyond⟩ :=
    grows_past (execution.progress handled accepted never) (place + bound + 1)
  have limited := sentUpTo_le (orderly_reachable handled (execution.reachable m)) (never m)
  have urgent := few m
  omega

end Liveness

/-- In every run, at every moment: one call of `processBatch` is due or running
    while the queue is not empty, and never more; every message that came in is
    in the queue or in one batch, in order of arrival for each priority; every
    batch is the head of the sorted queue. And in every run without end, a message
    is handed over unless more urgent ones keep coming. -/
theorem queue_delivers (options : Options) (handled : options.onBatchReady = true) :
    (∀ trace : Trace Message, Reachable (· = start) (Step options) trace →
      Orderly options trace ∧
        ∀ after, Step options trace after → HandsOver options trace after) ∧
    ∀ (execution : Execution Message options) (n : Nat) (priority : Priority) (place : Nat),
      Unhurried priority execution → Accepted priority place (execution.trace n) →
        ∃ m, Sent priority place (execution.trace m) :=
  ⟨fun _ reached => ⟨orderly_reachable handled reached, fun _ taken => hands_over handled taken⟩,
    fun _ _ _ _ unhurried accepted => Execution.sends handled unhurried accepted⟩

/-! With batches of one, the first message waits for ever when an urgent one comes
    in before each batch. -/

def narrow : Options := configure none (some 1) true

def patient : Entry String := entryFor "patient" none 0

def urgent : Entry String := entryFor "urgent" (some ((0 : ℚ) : WithTop ℚ)) 0

/-- The three moments of a round: one entry waits, an urgent one comes in, and
    the handler has the urgent one. -/
def moment (round : Nat) : Nat → Trace String
  | 0 => ⟨⟨[patient], true, 1, []⟩, patient :: List.replicate round urgent,
      List.replicate round [urgent]⟩
  | 1 => ⟨⟨[urgent, patient], true, 1, []⟩, patient :: List.replicate (round + 1) urgent,
      List.replicate round [urgent]⟩
  | _ => ⟨⟨[patient], true, 0, [["urgent"]]⟩, patient :: List.replicate (round + 1) urgent,
      List.replicate (round + 1) [urgent]⟩

theorem urgent_first : ¬ patient.priority ≤ urgent.priority := by
  rw [patient, urgent, entryFor, entryFor, Option.getD_none, Option.getD_some,
    WithBot.coe_le_coe, WithTop.coe_le_coe]
  decide

theorem patient_steps_aside : ordered Entry.priority [patient, urgent] = [urgent, patient] := by
  simp [ordered, List.mergeSort, List.MergeSort.Internal.splitInTwo, urgent_first]

theorem patient_waits : step narrow start (.enqueue "patient" none 0) = some (moment 0 0) := by
  have taken : enqueue narrow patient (start : Trace String).state = .ok (moment 0 0).state := by
    simp only [enqueue, start, List.nil_append, ordered, List.mergeSort_singleton]
    rfl
  simp only [step]
  rw [← patient, taken]
  rfl

theorem urgent_comes (round : Nat) :
    step narrow (moment round 0) (.enqueue "urgent" (some ((0 : ℚ) : WithTop ℚ)) 0) =
      some (moment round 1) := by
  have taken : enqueue narrow urgent (moment round 0).state = .ok (moment round 1).state := by
    simp only [enqueue, moment, List.singleton_append, patient_steps_aside]
    rfl
  simp only [step]
  rw [← urgent, taken]
  simp only [moment, List.cons_append, List.replicate_succ']

theorem urgent_leaves (round : Nat) :
    step narrow (moment round 1) .timer = some (moment round 2) := by
  simp only [moment, List.replicate_succ' (n := round) (a := [urgent])]
  rfl

theorem handler_resolves (round : Nat) :
    step narrow (moment round 2) (.resolve 0) = some (moment (round + 1) 0) := rfl

def starving : Nat → Trace String
  | 0 => start
  | n + 1 => moment (n / 3) (n % 3)

theorem starving_moment (round turn : Nat) (early : turn < 3) :
    starving (3 * round + turn + 1) = moment round turn := by
  rw [starving, Nat.mul_add_div (by decide), Nat.mul_add_mod, Nat.div_eq_of_lt early,
    Nat.mod_eq_of_lt early, Nat.add_zero]

theorem starving_next (round : Nat) :
    starving (3 * round + 2 + 1 + 1) = moment (round + 1) 0 :=
  starving_moment (round + 1) 0 (by decide)

theorem at_moment (n : Nat) : ∃ round turn, turn < 3 ∧ n = 3 * round + turn :=
  ⟨n / 3, n % 3, Nat.mod_lt _ (by decide), (Nat.div_add_mod n 3).symm⟩

def starvation : Execution String narrow where
  trace := starving
  starts := rfl
  steps n := by
    refine .inr ?_
    cases n with
    | zero => exact ⟨_, patient_waits⟩
    | succ n =>
        obtain ⟨round, turn, early, rfl⟩ := at_moment n
        match turn, early with
        | 0, _ =>
            rw [starving_moment round 0 (by decide), starving_moment round 1 (by decide)]
            exact ⟨_, urgent_comes round⟩
        | 1, _ =>
            rw [starving_moment round 1 (by decide), starving_moment round 2 (by decide)]
            exact ⟨_, urgent_leaves round⟩
        | 2, _ =>
            rw [starving_moment round 2 (by decide), starving_next]
            exact ⟨_, handler_resolves round⟩
  timersFire n _ := by
    refine ⟨3 * n + 1 + 1, by omega, ?_⟩
    rw [starving_moment n 1 (by decide), starving_moment n 2 (by decide)]
    exact urgent_leaves n
  handlersResolve n _ := by
    refine ⟨3 * n + 2 + 1, by omega, 0, ?_⟩
    rw [starving_moment n 2 (by decide), starving_next]
    exact handler_resolves n

theorem patient_never_sent (n : Nat) : ¬ Sent patient.priority 0 (starving n) := by
  have other : urgent.priority ≠ patient.priority := fun same => urgent_first same.ge
  have none (round : Nat) :
      ofPriority patient.priority (List.replicate round [urgent]).flatten = [] := by
    simp [ofPriority, classOf, other]
  cases n with
  | zero => exact Nat.not_lt_zero _
  | succ n =>
      obtain ⟨round, turn, early, rfl⟩ := at_moment n
      rw [starving_moment round turn early]
      have unsent (turn : Nat) : ¬ Sent patient.priority 0 (moment round turn) := by
        unfold Sent moment
        split <;> simp only [none, List.length_nil, Nat.lt_irrefl, not_false_eq_true]
      exact unsent turn

theorem urgent_messages_starve_others :
    ¬ ∀ (options : Options) (execution : Execution String options),
      options.onBatchReady = true → EverySent execution := by
  intro delivers
  have accepted : Accepted patient.priority 0 (starvation.trace 1) := by
    simp [Accepted, ofPriority, classOf, starvation, starving, moment]
  obtain ⟨m, sent⟩ := delivers narrow starvation rfl 1 patient.priority 0 accepted
  exact patient_never_sent m sent

theorem urgent_unhurried : Unhurried urgent.priority starvation := by
  have none (round : Nat) : (List.replicate round urgent).filter (fun entry =>
      decide (entry.priority < urgent.priority)) = [] := by
    simp
  have first : ¬ patient.priority < urgent.priority := fun less => urgent_first less.le
  refine ⟨0, fun n => ?_⟩
  cases n with
  | zero => exact Nat.le_refl _
  | succ n =>
      obtain ⟨round, turn, early, rfl⟩ := at_moment n
      change ((starving _).accepted.filter _).length ≤ 0
      rw [starving_moment round turn early]
      unfold moment
      split <;> simp only [List.filter_cons, first, none, decide_false, Bool.false_eq_true,
        ↓reduceIte, List.length_nil, Nat.le_refl]

theorem urgent_sent :
    narrow.onBatchReady = true ∧ ∃ m, Sent urgent.priority 0 (starvation.trace m) := by
  have accepted : Accepted urgent.priority 0 (starvation.trace 3) := by
    simp [Accepted, ofPriority, classOf, starvation, starving, moment]
  exact ⟨rfl, (queue_delivers narrow rfl).2 starvation 3 urgent.priority 0 urgent_unhurried accepted⟩

end Chainmail.MessageQueue
