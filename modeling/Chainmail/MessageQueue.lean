import Chainmail.Runs
import Chainmail.StableOrder
import Mathlib.Data.Rat.Defs
import Mathlib.Algebra.Order.Ring.Unbundled.Rat
import Mathlib.Order.WithBot

/-!
The queue of outbound messages in `src/network/connection-pool.js`, which
`connection-pool.service.ts` repeats. The event loop runs one callback at a time:
a call of `enqueue`, a timer that starts `processBatch`, or what follows the wait
for the handler. How long a timer waits is left open.
-/

namespace Chainmail.MessageQueue

universe u
variable {Message : Type u}

/-- Every number that compares: infinite ones too, but not `NaN`. -/
abbrev Priority := WithBot (WithTop ℚ)

structure Entry (Message : Type u) where
  message : Message
  priority : Priority
  enqueuedAt : Nat
deriving DecidableEq

/-- The sizes that the constructor settled on, and whether a handler is set. -/
structure Options where
  maxQueueSize : Nat
  batchSize : Nat
  onBatchReady : Bool
  hasRoom : 0 < maxQueueSize
  hasBatch : 0 < batchSize

/-- `option || fallback` -/
def orDefault (option : Option Nat) (fallback : Nat) : Nat :=
  match option with
  | none | some 0 => fallback
  | some size => size

theorem orDefault_pos (option : Option Nat) {fallback : Nat} (positive : 0 < fallback) :
    0 < orDefault option fallback := by
  unfold orDefault
  split
  · exact positive
  · exact positive
  next size nonzero => exact Nat.pos_of_ne_zero fun zero => nonzero (by rw [zero])

def configure (maxQueueSize batchSize : Option Nat) (onBatchReady : Bool) : Options where
  maxQueueSize := orDefault maxQueueSize 1000
  batchSize := orDefault batchSize 10
  onBatchReady := onBatchReady
  hasRoom := orDefault_pos _ (by decide)
  hasBatch := orDefault_pos _ (by decide)

/-- The queue with what the event loop holds for it: the timers that will call
    `processBatch`, and the batches whose handler has not resolved. -/
structure Queue (Message : Type u) where
  queue : List (Entry Message)
  processing : Bool
  timers : Nat
  running : List (List Message)

def scheduleBatchProcess (state : Queue Message) : Queue Message :=
  if state.processing then state
  else { state with processing := true, timers := state.timers + 1 }

@[simp] theorem scheduleBatchProcess_queue (state : Queue Message) :
    (scheduleBatchProcess state).queue = state.queue := by
  unfold scheduleBatchProcess
  split <;> rfl

@[simp] theorem scheduleBatchProcess_running (state : Queue Message) :
    (scheduleBatchProcess state).running = state.running := by
  unfold scheduleBatchProcess
  split <;> rfl

/-- A message without a priority gets 5. -/
def entryFor (message : Message) (priority : Option Priority) (now : Nat) : Entry Message :=
  ⟨message, priority.getD ((5 : ℚ) : WithTop ℚ), now⟩

def enqueue (options : Options) (entry : Entry Message) (state : Queue Message) :
    Except String (Queue Message) :=
  if options.maxQueueSize ≤ state.queue.length then .error "Message queue full"
  else .ok (scheduleBatchProcess
    { state with queue := ordered Entry.priority (state.queue ++ [entry]) })

/-- What `processBatch` does after the wait for the handler. -/
def continueProcessing (state : Queue Message) : Queue Message :=
  if 0 < state.queue.length then { state with timers := state.timers + 1 }
  else { state with processing := false }

@[simp] theorem continueProcessing_queue (state : Queue Message) :
    (continueProcessing state).queue = state.queue := by
  unfold continueProcessing
  split <;> rfl

@[simp] theorem continueProcessing_running (state : Queue Message) :
    (continueProcessing state).running = state.running := by
  unfold continueProcessing
  split <;> rfl

/-- `processBatch` up to the wait, and the batch that the handler is called with. -/
def processBatch (options : Options) (state : Queue Message) :
    Queue Message × Option (List (Entry Message)) :=
  if state.queue.length = 0 then ({ state with processing := false }, none)
  else
    let batch := state.queue.take options.batchSize
    let state := { state with queue := state.queue.drop options.batchSize }
    if options.onBatchReady then
      ({ state with running := state.running ++ [batch.map Entry.message] }, some batch)
    else (continueProcessing state, none)

inductive Event (Message : Type u) where
  | enqueue (message : Message) (priority : Option Priority) (now : Nat)
  | timer
  | resolve (turn : Nat)

/-- The queue with what happened so far: the entries it took in, in order, and
    the batches that the handler was called with. -/
structure Trace (Message : Type u) where
  state : Queue Message
  accepted : List (Entry Message)
  batches : List (List (Entry Message))

def start : Trace Message := ⟨⟨[], false, 0, []⟩, [], []⟩

/-- A full queue throws and stays as it is. A timer or a handler that is not
    there does nothing. -/
def step (options : Options) (trace : Trace Message) : Event Message → Option (Trace Message)
  | .enqueue message priority now =>
      let entry := entryFor message priority now
      match enqueue options entry trace.state with
      | .error _ => some trace
      | .ok state => some { trace with state, accepted := trace.accepted ++ [entry] }
  | .timer =>
      match trace.state.timers with
      | 0 => none
      | timers + 1 =>
          let done := processBatch options { trace.state with timers }
          some { trace with state := done.1, batches := trace.batches ++ done.2.toList }
  | .resolve turn =>
      match trace.state.running[turn]? with
      | none => none
      | some _ =>
          let running := trace.state.running.eraseIdx turn
          some { trace with state := continueProcessing { trace.state with running } }

def Step (options : Options) (before after : Trace Message) : Prop :=
  ∃ event, step options before event = some after

end Chainmail.MessageQueue
