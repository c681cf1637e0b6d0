import Chainmail.QueueDelivery

/-!
The queue with a handler that may reject, or that is not there yet. A batch has
left the queue before the handler is asked, and nothing catches a rejection: the
batch is gone, and with it the timer that the next one would have been taken by.
-/

namespace Chainmail.MessageQueue

universe u
variable {Message : Type u} {options : Options}

/-- What the event loop does next: one of the callbacks of a queue whose handler resolves, a
    rejection of a batch, or the installation of the handler. -/
inductive Action (Message : Type u) where
  | call (event : Event Message)
  | reject (turn : Nat)
  | install

/-- The queue with whether its handler is installed, and the batches that were accepted. -/
structure Attempt (Message : Type u) where
  trace : Trace Message
  handler : Bool
  resolved : List (List Message)

/-- `onBatchReady` is null at first. -/
def untried : Attempt Message := ⟨start, false, []⟩

def withHandler (options : Options) (handler : Bool) : Options :=
  { options with onBatchReady := handler }

/-- The batch that a callback finds accepted. -/
def acceptedBy (trace : Trace Message) : Event Message → List (List Message)
  | .resolve turn => (trace.state.running[turn]?).toList
  | _ => []

/-- After a rejection nothing of `processBatch` is run. What is not there does nothing. -/
def act (options : Options) (action : Action Message) (attempt : Attempt Message) :
    Attempt Message :=
  match action with
  | .call event =>
      match step (withHandler options attempt.handler) attempt.trace event with
      | none => attempt
      | some trace =>
          { attempt with trace, resolved := attempt.resolved ++ acceptedBy attempt.trace event }
  | .reject turn =>
      let running := attempt.trace.state.running.eraseIdx turn
      { attempt with trace := { attempt.trace with state := { attempt.trace.state with running } } }
  | .install => { attempt with handler := true }

def attempts (options : Options) : List (Action Message) → Attempt Message
  | [] => untried
  | action :: earlier => act options action (attempts options earlier)

/-- No message that came in is lost: it is in the queue, with the handler, or accepted by it. And a
    run of `processBatch` is due or in progress whenever the queue is not empty. -/
structure Keeps (attempt : Attempt Message) : Prop where
  lossless : (attempt.trace.state.queue.map Entry.message ++
    (attempt.trace.state.running.flatten ++ attempt.resolved.flatten)).Perm
      (attempt.trace.accepted.map Entry.message)
  pending : attempt.trace.state.queue ≠ [] →
    0 < attempt.trace.state.timers + attempt.trace.state.running.length

/-- No batch is rejected, and none is taken from the queue while there is no handler for it. -/
def Handled (action : Action Message) (attempt : Attempt Message) : Prop :=
  match action with
  | .call .timer => attempt.handler = true ∨ attempt.trace.state.timers = 0 ∨
      attempt.trace.state.queue = []
  | .reject turn => attempt.trace.state.running.length ≤ turn
  | _ => True

section Steps
variable {attempt : Attempt Message} {action : Action Message}

/-- What holds as long as every batch is handled. -/
structure Sound (options : Options) (attempt : Attempt Message) : Prop where
  orderly : Orderly (withHandler options true) attempt.trace
  handed : (attempt.trace.batches.flatten.map Entry.message).Perm
    (attempt.trace.state.running.flatten ++ attempt.resolved.flatten)
  filled : ∀ batch ∈ attempt.trace.state.running, batch ≠ []

theorem sound_untried : Sound options (untried : Attempt Message) where
  orderly := orderly_start
  handed := List.Perm.refl _
  filled batch member := by cases member

theorem Sound.keeps (sound : Sound options attempt) : Keeps attempt where
  lossless := by
    have whole := (perm_of_classes sound.orderly.arrival).map Entry.message
    rw [List.map_append] at whole
    exact ((List.perm_append_comm).trans (sound.handed.symm.append_right _)).trans whole
  pending nonempty := by
    rw [sound.orderly.scheduled, if_pos (sound.orderly.busy nonempty)]
    exact Nat.one_pos

/-- Where a batch is handled, the callback is one of a queue whose handler is there. -/
theorem step_withHandler {event : Event Message} (handled : Handled (.call event) attempt) :
    step (withHandler options attempt.handler) attempt.trace event =
      step (withHandler options true) attempt.trace event := by
  cases event with
  | enqueue message priority now => rfl
  | timer =>
      rcases handled with there | none | empty
      · rw [there]
      · simp only [step, none]
      · simp only [step]
        split
        · rfl
        next timers due => simp only [processBatch, empty, List.length_nil, ↓reduceIte]
  | resolve turn => rfl

/-- Every message that is with the handler comes to it in a batch and leaves it accepted. -/
theorem Sound.call {event : Event Message} (sound : Sound options attempt)
    (handled : Handled (.call event) attempt) :
    Sound options (act options (.call event) attempt) := by
  rw [act, step_withHandler handled]
  split
  next => exact sound
  next after taken =>
    have orderly := sound.orderly.step rfl ⟨event, taken⟩
    cases event with
    | enqueue message priority now =>
        rcases step_enqueue taken with rfl | ⟨_, rfl⟩
        · exact ⟨orderly, by simpa [acceptedBy] using sound.handed, sound.filled⟩
        · refine ⟨orderly, ?_, ?_⟩
          · simpa [acceptedBy] using sound.handed
          · simpa using sound.filled
    -- A batch that is sent goes from the queue to the ones that run; nothing is accepted.
    | timer =>
        obtain ⟨timers, _, ⟨_, rfl⟩ | ⟨nonempty, rfl⟩⟩ := step_timer rfl taken
        · exact ⟨orderly, by simpa [acceptedBy] using sound.handed, sound.filled⟩
        · refine ⟨orderly, ?_, ?_⟩
          · simp only [acceptedBy, List.append_nil, List.flatten_append, List.flatten_singleton,
              List.map_append]
            refine (sound.handed.append_right _).trans ?_
            rw [List.append_assoc, List.append_assoc]
            exact List.perm_append_comm.append_left _
          · intro batch member
            rcases List.mem_append.mp member with old | new
            · exact sound.filled batch old
            · rw [List.mem_singleton.mp new]
              have positive := options.hasBatch
              simp [withHandler, nonempty, Nat.ne_of_gt positive]
    -- A batch that is accepted leaves the ones that run for the accepted ones.
    | resolve turn =>
        obtain ⟨present, rfl⟩ := step_resolve taken
        refine ⟨orderly, ?_, ?_⟩
        · simp only [continueProcessing_running, acceptedBy, List.getElem?_eq_getElem present, Option.toList_some,
            List.flatten_append, List.flatten_singleton]
          refine sound.handed.trans ?_
          have taken := (List.getElem_cons_eraseIdx_perm present).flatten
          rw [List.flatten_cons] at taken
          refine (taken.symm.append_right _).trans ?_
          rw [List.append_assoc]
          exact List.perm_append_comm.trans (by rw [List.append_assoc])
        · intro batch member
          rw [continueProcessing_running] at member
          exact sound.filled batch (List.mem_of_mem_eraseIdx member)

theorem Sound.act (sound : Sound options attempt) (handled : Handled action attempt) :
    Sound options (MessageQueue.act options action attempt) := by
  cases action with
  | call event => exact sound.call handled
  | reject turn =>
      have same : attempt.trace.state.running.eraseIdx turn = attempt.trace.state.running :=
        List.eraseIdx_of_length_le handled
      rw [MessageQueue.act]
      dsimp only
      rw [same]
      exact sound
  | install => exact ⟨sound.orderly, sound.handed, sound.filled⟩

/-- How many messages are in the queue, with the handler, or accepted by it. -/
def present (attempt : Attempt Message) : Nat :=
  attempt.trace.state.queue.length + (attempt.trace.state.running.flatten.length +
    attempt.resolved.flatten.length)

theorem Keeps.present (keeps : Keeps attempt) :
    MessageQueue.present attempt = attempt.trace.accepted.length := by
  have count := keeps.lossless.length_eq
  simpa only [MessageQueue.present, List.length_append, List.length_map] using count

/-- A batch that is rejected, or finds no handler, is missing from then on. -/
theorem present_unhandled (sound : Sound options attempt) (unhandled : ¬ Handled action attempt) :
    (MessageQueue.act options action attempt).trace.accepted = attempt.trace.accepted ∧
      present (MessageQueue.act options action attempt) < present attempt := by
  cases action with
  | call event =>
      cases event with
      | enqueue message priority now => exact absurd trivial unhandled
      | resolve turn => exact absurd trivial unhandled
      | timer =>
          simp only [Handled, not_or, Bool.not_eq_true] at unhandled
          obtain ⟨away, due, nonempty⟩ := unhandled
          have positive := options.hasBatch
          have waiting := List.length_pos_of_ne_nil nonempty
          obtain ⟨timers, count⟩ := Nat.exists_eq_succ_of_ne_zero due
          simp only [MessageQueue.act, step, count, processBatch, withHandler, away,
            Nat.ne_of_gt waiting, ↓reduceIte, Bool.false_eq_true, present, continueProcessing_queue,
            continueProcessing_running, List.length_drop, acceptedBy, List.append_nil, true_and]
          omega
  | reject turn =>
      have inside : turn < attempt.trace.state.running.length := Nat.lt_of_not_le unhandled
      have taken := (List.getElem_cons_eraseIdx_perm inside).flatten.length_eq
      have batch := List.length_pos_of_ne_nil (sound.filled _ (List.getElem_mem inside))
      rw [List.flatten_cons, List.length_append] at taken
      refine ⟨rfl, ?_⟩
      simp only [MessageQueue.act, present]
      omega
  | install => exact absurd trivial unhandled

theorem keeps_act_iff (sound : Sound options attempt) :
    Keeps (MessageQueue.act options action attempt) ↔ Handled action attempt := by
  constructor
  · intro keeps
    by_contra unhandled
    obtain ⟨same, missing⟩ := present_unhandled sound unhandled
    have after := keeps.present
    rw [same, ← sound.keeps.present] at after
    exact absurd after (Nat.ne_of_lt missing)
  · exact fun handled => (sound.act handled).keeps

end Steps

section Stopping
variable {attempt : Attempt Message}

/-- Nothing is due or in progress, and the flag says that something is. -/
structure Stopped (attempt : Attempt Message) : Prop where
  processing : attempt.trace.state.processing = true
  timers : attempt.trace.state.timers = 0
  running : attempt.trace.state.running = []

/-- With one run of `processBatch` at a time, a rejection leaves none. -/
theorem stopped_reject {turn : Nat} (sound : Sound options attempt)
    (rejected : turn < attempt.trace.state.running.length) :
    Stopped (act options (.reject turn) attempt) := by
  have scheduled := sound.orderly.scheduled
  have processing : attempt.trace.state.processing = true := by
    by_contra idle
    rw [if_neg idle] at scheduled
    omega
  rw [if_pos processing] at scheduled
  refine ⟨processing, ?_, ?_⟩
  · simp only [act]
    omega
  · refine List.eq_nil_of_length_eq_zero ?_
    rw [act, List.length_eraseIdx_of_lt rejected]
    omega

/-- A queue that has stopped takes messages in and never hands one over. -/
theorem Stopped.act (stopped : Stopped attempt) (action : Action Message) :
    Stopped (MessageQueue.act options action attempt) ∧
      (MessageQueue.act options action attempt).resolved = attempt.resolved := by
  obtain ⟨processing, timers, running⟩ := stopped
  cases action with
  | call event =>
      cases event with
      | enqueue message priority now =>
          by_cases full : options.maxQueueSize ≤ attempt.trace.state.queue.length
          · simp [MessageQueue.act, step, enqueue, withHandler, full, acceptedBy, processing,
              timers, running, Stopped.mk]
          · simp [MessageQueue.act, step, enqueue, withHandler, full, acceptedBy,
              scheduleBatchProcess, processing, timers, running, Stopped.mk]
      | timer => simp [MessageQueue.act, step, processing, timers, running, Stopped.mk]
      | resolve turn => simp [MessageQueue.act, step, processing, timers, running, Stopped.mk]
  | reject turn => simp [MessageQueue.act, processing, timers, running, Stopped.mk]
  | install => exact ⟨⟨processing, timers, running⟩, rfl⟩

/-- Once a batch has been rejected, no message is accepted by the handler any more. -/
theorem rejection_stops_queue {past : List (Action Message)} {turn : Nat}
    (sound : Sound options (attempts options past))
    (rejected : turn < (attempts options past).trace.state.running.length)
    (later : List (Action Message)) :
    Stopped (attempts options (later ++ .reject turn :: past)) ∧
      (attempts options (later ++ .reject turn :: past)).resolved =
        (attempts options past).resolved := by
  induction later with
  | nil => exact ⟨stopped_reject sound rejected, rfl⟩
  | cons action rest ih =>
      obtain ⟨stopped, same⟩ : Stopped (act options action
            (attempts options (rest ++ .reject turn :: past))) ∧
          (act options action (attempts options (rest ++ .reject turn :: past))).resolved =
            (attempts options (rest ++ .reject turn :: past)).resolved := ih.1.act action
      exact ⟨stopped, same.trans ih.2⟩

end Stopping

theorem sound_attempts {past : List (Action Message)}
    (handled : EachInput (fun action earlier => Handled action (attempts options earlier)) past) :
    Sound options (attempts options past) := by
  induction past with
  | nil => exact sound_untried
  | cons action earlier ih =>
      obtain ⟨now, before⟩ := eachInput_cons.mp handled
      exact (ih before).act now

/-- In every run no message is lost and the queue goes on at every moment exactly when no batch is
    rejected, and none is taken while there is no handler. -/
theorem keeps_iff_handled (options : Options) (past : List (Action Message)) :
    Always (fun past => Keeps (attempts options past)) past ↔
      EachInput (fun action earlier => Handled action (attempts options earlier)) past := by
  have base : Sound options (untried : Attempt Message) := sound_untried
  have free : EachInput (fun _ _ => True) past := fun _ _ _ => trivial
  refine always_iff_each_kept free base.keeps ?_
  intro action earlier _ handled _
  exact keeps_act_iff (sound_attempts handled)

/-! A batch is rejected, and the mail that comes in after it is never looked at. -/

theorem act_enqueue_empty {attempt : Attempt Message} (empty : attempt.trace.state.queue = [])
    (message : Message) (priority : Option Priority) (now : Nat) :
    act options (.call (.enqueue message priority now)) attempt =
      { attempt with
        trace := { attempt.trace with
          state := scheduleBatchProcess
            { attempt.trace.state with queue := [entryFor message priority now] }
          accepted := attempt.trace.accepted ++ [entryFor message priority now] } } := by
  have room : ¬ options.maxQueueSize ≤ 0 := Nat.not_le_of_lt options.hasRoom
  simp [act, step, enqueue, withHandler, empty, room, ordered, acceptedBy]

def failing : List (Action String) :=
  [.call (.enqueue "second" none 2), .reject 0, .call .timer, .call (.enqueue "first" none 1),
    .install]

theorem rejection_loses_mail : ¬ ∀ (options : Options) (past : List (Action String)),
    Keeps (attempts options past) := by
  intro claimed
  have keeps := claimed narrow failing
  rw [failing, attempts, act_enqueue_empty, attempts, attempts, attempts, act_enqueue_empty rfl] at keeps
  · exact absurd (keeps.pending (List.cons_ne_nil _ _)) (by decide)
  · rw [attempts, attempts, attempts, act_enqueue_empty rfl]
    rfl

end Chainmail.MessageQueue
