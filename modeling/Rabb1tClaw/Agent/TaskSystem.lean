import Rabb1tClaw.Agent.Questions
import Rabb1tClaw.Agent.Tracking
import Rabb1tClaw.Foundations.Views

namespace Rabb1tClaw
namespace Agent

open Foundations

/-!
# The background tasks of all devices

Each completed run goes through the markers of its response.  A dispatch
marker takes the next id, registers a task with the tracker of its kind, logs
the dispatch and spawns the task.  An answer marker takes a question out of
the list of all devices and answers it.  Spawned tasks run beside these loops.
A task of the advanced agent reports its progress and asks questions.  Every
task reports its end to its tracker, logs it, and an advanced task then removes
its questions from the list.

The loops and the tasks of all devices share the trackers, the questions and
the counter of ids.  A step here is what the code does under one lock.  The
calls of `tasklog::append` are kept in the order in which they are made; what
concurrent calls do to the file is the subject of `TaskLog`.

A task is named by its device and its id, and its agent does what the actions
say: what models, tools and users reply is theirs.
-/

/-! ## Kinds and events -/

inductive TaskKind where
  | code
  | search
  | advanced
  deriving DecidableEq, Repr

namespace TaskKind

def name : TaskKind → Text
  | code => "code".toList
  | search => "search".toList
  | advanced => "advanced".toList

/-- The arms of the `match` on the type of a marker. -/
def ofType (taskType : Text) : Option TaskKind :=
  if taskType = "code".toList then some code
  else if taskType = "search".toList then some search
  else if taskType = "advanced".toList then some advanced
  else none

@[reducible] def Status : TaskKind → Type
  | code => CodeTaskStatus
  | search => SearchQueryStatus
  | advanced => AdvancedTaskStatus

instance : (kind : TaskKind) → TaskStatus kind.Status
  | code => inferInstanceAs (TaskStatus CodeTaskStatus)
  | search => inferInstanceAs (TaskStatus SearchQueryStatus)
  | advanced => inferInstanceAs (TaskStatus AdvancedTaskStatus)

/-- The status of a task that has returned. -/
def conclusion : (kind : TaskKind) → Except Text Text → kind.Status
  | code, .ok output => CodeTaskStatus.completed output
  | code, .error error => CodeTaskStatus.failed error
  | search, .ok context => SearchQueryStatus.completed context
  | search, .error error => SearchQueryStatus.failed error
  | advanced, .ok summary => AdvancedTaskStatus.completed summary
  | advanced, .error error => AdvancedTaskStatus.failed error

theorem isRunning_conclusion (kind : TaskKind) (result : Except Text Text) :
    TaskStatus.isRunning (kind.conclusion result) = false := by
  cases kind <;> cases result <;> rfl

/-- The limit on the tasks of a kind. -/
def maxConcurrent (limits : DispatchLimits) : TaskKind → Nat
  | code => limits.codeMax
  | search => limits.searchMax
  | advanced => limits.advancedMax

end TaskKind

inductive TaskEvent where
  | dispatched (kind : TaskKind) (desc : Text)
  | asking (question : Text)
  | answered (answer : Text)
  | completed (output : Text)
  | failed (error : Text)
  deriving DecidableEq, Repr

namespace TaskEvent

/-- The event that a task logs as it returns. -/
def outcome : Except Text Text → TaskEvent
  | .ok output => completed output
  | .error error => failed error

/-- The text of an event in the log. -/
def text (id : UInt32) : TaskEvent → Text
  | dispatched kind desc =>
      "dispatched #".toList ++ (Background.showId id ++ (' ' :: (kind.name ++ (" — ".toList ++ desc))))
  | asking question => "asking #".toList ++ (Background.showId id ++ (" — ".toList ++ question))
  | answered answer => "answered #".toList ++ (Background.showId id ++ (" — ".toList ++ answer))
  | completed output => "completed #".toList ++ (Background.showId id ++ (" — ".toList ++ output))
  | failed error => "failed #".toList ++ (Background.showId id ++ (" — ".toList ++ error))

def isAnswered : TaskEvent → Bool
  | answered _ => true
  | _ => false

end TaskEvent

/-- A call of `tasklog::append`. -/
structure LogCall where
  task : PendingQuestion
  event : TaskEvent
  deriving DecidableEq, Repr

/-! ## The state -/

/-- What a completed run dispatches: the markers of its response, for the
device of its token, under the limits that it has read. -/
structure DispatchRun where
  devicePrefix : Text
  markers : List TaskMarker
  limits : DispatchLimits

/-- Where a loop stands within the arm of a marker. -/
inductive LoopPhase where
  | ready
  /-- The id is taken, and the task is not registered. -/
  | counted (id : UInt32) (kind : TaskKind) (desc : Text)
  /-- The task is registered, and the dispatch is not logged. -/
  | registered (id : UInt32) (kind : TaskKind) (desc : Text)
  /-- The question is out of the list, and the answer is not sent. -/
  | holding (question : OpenQuestion) (answer : Text)
  /-- The answer is sent and not logged. -/
  | sent (id : UInt32) (answer : Text)
  deriving DecidableEq, Repr

structure MarkerLoop where
  remaining : List TaskMarker
  seen : List (Text × Text)
  phase : LoopPhase
  deriving DecidableEq, Repr

/-- The id that a loop has taken for a task that it is dispatching. -/
def MarkerLoop.claimed (loop : MarkerLoop) : Option UInt32 :=
  match loop.phase with
  | .counted id _ _ => some id
  | .registered id _ _ => some id
  | _ => none

/-- Where a task stands. -/
inductive AgentPhase where
  /-- Its dispatch is not logged, and it is not spawned. -/
  | registered
  | working
  /-- The question is reported to the tracker, and not logged. -/
  | asking (question : Text)
  /-- The question is logged, and not in the list. -/
  | posting
  | waiting (answer : Option Text)
  /-- The agent has returned, and the tracker does not know. -/
  | concluded (result : Except Text Text)
  /-- The tracker knows, and the log does not. -/
  | completed (result : Except Text Text)
  /-- The questions of the task are still to be removed. -/
  | logged (result : Except Text Text)
  | finished (result : Except Text Text)

/-- A registered task; `asked` are the questions that it has logged. -/
structure AgentTask where
  address : PendingQuestion
  kind : TaskKind
  description : Text
  asked : List Text
  phase : AgentPhase

/-- The channel of the question that the task has logged last. -/
def AgentTask.channel (task : AgentTask) : Channel := ⟨task.address.taskId.toNat, task.asked.length⟩

/-- The tasks with one exchanged for another of its name. -/
def setTask (changed : AgentTask) (tasks : List AgentTask) : List AgentTask :=
  tasks.map fun task => if task.address = changed.address then changed else task

structure TaskSystem where
  trackers : (kind : TaskKind) → BackgroundTracker kind.Status
  questions : List OpenQuestion
  loops : Nat → MarkerLoop
  tasks : List AgentTask
  calls : List LogCall

namespace TaskSystem

variable (state : TaskSystem)

def setLoop (run : Nat) (loop : MarkerLoop) : TaskSystem :=
  { state with loops := Function.update state.loops run loop }

def add (task : AgentTask) : TaskSystem := { state with tasks := state.tasks ++ [task] }

def set (task : AgentTask) : TaskSystem := { state with tasks := setTask task state.tasks }

def setTracker (kind : TaskKind) (tracker : BackgroundTracker kind.Status) : TaskSystem :=
  { state with trackers := Function.update state.trackers kind tracker }

def append (address : PendingQuestion) (event : TaskEvent) : TaskSystem :=
  { state with calls := state.calls ++ [⟨address, event⟩] }

def setQuestions (questions : List OpenQuestion) : TaskSystem := { state with questions := questions }

def find (address : PendingQuestion) : Option AgentTask :=
  state.tasks.find? fun task => task.address = address

/-- The sending half of a question's channel: the task hears of the answer if
it still waits for it. -/
def deliver (question : OpenQuestion) (answer : Text) : TaskSystem :=
  match state.find question.toPendingQuestion with
  | some task =>
      match task.phase with
      | .waiting _ =>
          if task.channel = question.answerTx then state.set { task with phase := .waiting (some answer) }
          else state
      | _ => state
  | none => state

/-- No task was registered. -/
def start (runs : Nat → DispatchRun) : TaskSystem where
  trackers := fun _ => ⟨fun _ => []⟩
  questions := []
  loops := fun run => ⟨(runs run).markers, [], .ready⟩
  tasks := []
  calls := []

end TaskSystem

/-! ## Steps -/

inductive LoopStep where
  /-- A marker that was seen before, or that has another type. -/
  | skip
  | nextId (id : UInt32)
  | register (now : UInt64)
  | logDispatch
  /-- `answer_pending_question` looks for the question under the lock. -/
  | take
  /-- `answer_pending_question` sends the answer. -/
  | send
  | logAnswer
  deriving DecidableEq, Repr

inductive AgentStep where
  /-- The advanced agent reports its progress. -/
  | report (step : UInt32) (detail : Text)
  | ask (question : Text)
  | logQuestion
  | post
  | receive
  /-- The agent returns; a task that waits returns because of a timeout. -/
  | conclude (result : Except Text Text)
  | complete (now : UInt64)
  | logResult
  /-- The advanced agent removes the questions with its id. -/
  | cleanup

inductive TaskStep where
  | loop (run : Nat) (step : LoopStep)
  | agent (address : PendingQuestion) (step : AgentStep)

/-- A step of the loop of a run over its markers. -/
def TaskSystem.loopStep (state : TaskSystem) (runs : Nat → DispatchRun) (run : Nat) :
    LoopStep → Option TaskSystem
  | .skip =>
      match (state.loops run).phase, (state.loops run).remaining with
      | .ready, .dispatch taskType desc :: rest =>
          if (state.loops run).seen.contains (taskType, desc) then
            some (state.setLoop run ⟨rest, (state.loops run).seen, .ready⟩)
          else if (TaskKind.ofType taskType).isNone then
            some (state.setLoop run ⟨rest, (taskType, desc) :: (state.loops run).seen, .ready⟩)
          else
            none
      | _, _ => none
  | .nextId id =>
      match (state.loops run).phase, (state.loops run).remaining with
      | .ready, .dispatch taskType desc :: rest =>
          if (state.loops run).seen.contains (taskType, desc) then none
          else
            (TaskKind.ofType taskType).map fun kind =>
              state.setLoop run
                ⟨rest, (taskType, desc) :: (state.loops run).seen, .counted id kind desc⟩
      | _, _ => none
  | .register now =>
      match (state.loops run).phase with
      | .counted id kind desc =>
          match (state.trackers kind).register (runs run).devicePrefix id desc
              (kind.maxConcurrent (runs run).limits) (runs run).limits.taskLogMax now with
          | some tracker =>
              some (((state.setTracker kind tracker).add
                ⟨⟨(runs run).devicePrefix, id⟩, kind, desc, [], .registered⟩).setLoop
                  run { state.loops run with phase := .registered id kind desc })
          | none => some (state.setLoop run { state.loops run with phase := .ready })
      | _ => none
  | .logDispatch =>
      match (state.loops run).phase with
      | .registered id kind desc =>
          some (((state.append ⟨(runs run).devicePrefix, id⟩ (.dispatched kind desc)).set
            ⟨⟨(runs run).devicePrefix, id⟩, kind, desc, [], .working⟩).setLoop
              run { state.loops run with phase := .ready })
      | _ => none
  | .take =>
      match (state.loops run).phase, (state.loops run).remaining with
      | .ready, .answer id answer :: rest =>
          match takeQuestion state.questions ⟨(runs run).devicePrefix, id⟩ with
          | some (question, others) =>
              some ((state.setQuestions others).setLoop
                run ⟨rest, (state.loops run).seen, .holding question answer⟩)
          | none => some (state.setLoop run ⟨rest, (state.loops run).seen, .ready⟩)
      | _, _ => none
  | .send =>
      match (state.loops run).phase with
      | .holding question answer =>
          some ((state.deliver question answer).setLoop
            run { state.loops run with phase := .sent question.taskId answer })
      | _ => none
  | .logAnswer =>
      match (state.loops run).phase with
      | .sent id answer =>
          some ((state.append ⟨(runs run).devicePrefix, id⟩ (.answered answer)).setLoop
            run { state.loops run with phase := .ready })
      | _ => none

/-- A step of a task. -/
def TaskSystem.agentStep (state : TaskSystem) (task : AgentTask) : AgentStep → Option TaskSystem
  | .report step detail =>
      match task.kind, task.phase with
      | .advanced, .working =>
          some (state.setTracker .advanced ((state.trackers .advanced).updateStatus
            task.address.devicePrefix task.address.taskId (AdvancedTaskStatus.running step detail)))
      | _, _ => none
  | .ask question =>
      match task.kind, task.phase with
      | .advanced, .working =>
          some ((state.setTracker .advanced ((state.trackers .advanced).updateStatus
            task.address.devicePrefix task.address.taskId (AdvancedTaskStatus.needsInput question))).set
              { task with phase := .asking question })
      | _, _ => none
  | .logQuestion =>
      match task.phase with
      | .asking question =>
          some ((state.append task.address (.asking question)).set
            { task with asked := task.asked ++ [question], phase := .posting })
      | _ => none
  | .post =>
      match task.phase with
      | .posting =>
          some ((state.setQuestions (state.questions ++ [⟨task.address, task.channel⟩])).set
            { task with phase := .waiting none })
      | _ => none
  | .receive =>
      match task.phase with
      | .waiting (some _) => some (state.set { task with phase := .working })
      | _ => none
  | .conclude result =>
      match task.phase, result with
      | .working, result => some (state.set { task with phase := .concluded result })
      | .waiting _, .error error => some (state.set { task with phase := .concluded (.error error) })
      | _, _ => none
  | .complete now =>
      match task.phase with
      | .concluded result =>
          some ((state.setTracker task.kind ((state.trackers task.kind).complete
            task.address.devicePrefix task.address.taskId (task.kind.conclusion result) now)).set
              { task with phase := .completed result })
      | _ => none
  | .logResult =>
      match task.phase with
      | .completed result =>
          some ((state.append task.address (.outcome result)).set
            { task with phase := if task.kind = .advanced then .logged result else .finished result })
      | _ => none
  | .cleanup =>
      match task.phase with
      | .logged result =>
          some ((state.setQuestions (state.questions.filter fun question =>
            question.taskId ≠ task.address.taskId)).set { task with phase := .finished result })
      | _ => none

/-- The steps of the loops and the tasks, whatever ids are handed out. -/
def tasking (runs : Nat → DispatchRun) : Machine TaskSystem TaskStep where
  step state
    | .loop run step => state.loopStep runs run step
    | .agent address step => (state.find address).bind fun task => state.agentStep task step

/-- The system with its counter: `fetch_add` hands out the ids. -/
structure TaskGateway where
  system : TaskSystem
  nextTaskId : UInt32

/-- The id that a step takes from the counter. -/
def TaskStep.handedOut : TaskStep → Option UInt32
  | .loop _ (.nextId id) => some id
  | _ => none

def taskGateway (runs : Nat → DispatchRun) : Machine TaskGateway TaskStep where
  step state action :=
    match action.handedOut with
    | some id =>
        if id = state.nextTaskId then
          ((tasking runs).step state.system action).map fun system => ⟨system, state.nextTaskId + 1⟩
        else
          none
    | none => ((tasking runs).step state.system action).map fun system => ⟨system, state.nextTaskId⟩

def TaskGateway.start (runs : Nat → DispatchRun) : TaskGateway := ⟨.start runs, 1⟩

/-! ## What a step does -/

/-- What a step of a loop does to the loop and to the rest. -/
inductive LoopMoves (response : DispatchRun) (state : TaskSystem) (loop : MarkerLoop) :
    LoopStep → TaskSystem → MarkerLoop → Prop
  | skipped {rest : List TaskMarker} {seen : List (Text × Text)} (ready : loop.phase = .ready) :
      LoopMoves response state loop .skip state ⟨rest, seen, .ready⟩
  | counted {id : UInt32} {kind : TaskKind} {desc : Text} {rest : List TaskMarker}
      {seen : List (Text × Text)} (ready : loop.phase = .ready) :
      LoopMoves response state loop (.nextId id) state ⟨rest, seen, .counted id kind desc⟩
  | registered {id : UInt32} {kind : TaskKind} {desc : Text} {now : UInt64}
      {tracker : BackgroundTracker kind.Status} (phase : loop.phase = .counted id kind desc)
      (registers : (state.trackers kind).register response.devicePrefix id desc
        (kind.maxConcurrent response.limits) response.limits.taskLogMax now = some tracker) :
      LoopMoves response state loop (.register now)
        ((state.setTracker kind tracker).add ⟨⟨response.devicePrefix, id⟩, kind, desc, [], .registered⟩)
        { loop with phase := .registered id kind desc }
  | refused {id : UInt32} {kind : TaskKind} {desc : Text} {now : UInt64}
      (phase : loop.phase = .counted id kind desc) :
      LoopMoves response state loop (.register now) state { loop with phase := .ready }
  | dispatched {id : UInt32} {kind : TaskKind} {desc : Text} (phase : loop.phase = .registered id kind desc) :
      LoopMoves response state loop .logDispatch
        ((state.append ⟨response.devicePrefix, id⟩ (.dispatched kind desc)).set
          ⟨⟨response.devicePrefix, id⟩, kind, desc, [], .working⟩) { loop with phase := .ready }
  | taken {id : UInt32} {answer : Text} {question : OpenQuestion} {others : List OpenQuestion}
      {rest : List TaskMarker} (ready : loop.phase = .ready)
      (marker : loop.remaining = .answer id answer :: rest)
      (takes : takeQuestion state.questions ⟨response.devicePrefix, id⟩ = some (question, others)) :
      LoopMoves response state loop .take (state.setQuestions others)
        ⟨rest, loop.seen, .holding question answer⟩
  | missed {id : UInt32} {answer : Text} {rest : List TaskMarker} (ready : loop.phase = .ready)
      (marker : loop.remaining = .answer id answer :: rest)
      (misses : takeQuestion state.questions ⟨response.devicePrefix, id⟩ = none) :
      LoopMoves response state loop .take state ⟨rest, loop.seen, .ready⟩
  | sent {question : OpenQuestion} {answer : Text} (phase : loop.phase = .holding question answer) :
      LoopMoves response state loop .send (state.deliver question answer)
        { loop with phase := .sent question.taskId answer }
  | answered {id : UInt32} {answer : Text} (phase : loop.phase = .sent id answer) :
      LoopMoves response state loop .logAnswer
        (state.append ⟨response.devicePrefix, id⟩ (.answered answer)) { loop with phase := .ready }

/-- What a step of a task does. -/
inductive AgentMoves (state : TaskSystem) (task : AgentTask) : AgentStep → TaskSystem → Prop
  | reported {step : UInt32} {detail : Text} (kind : task.kind = .advanced) (phase : task.phase = .working) :
      AgentMoves state task (.report step detail)
        (state.setTracker .advanced ((state.trackers .advanced).updateStatus
          task.address.devicePrefix task.address.taskId (AdvancedTaskStatus.running step detail)))
  | asked {question : Text} (kind : task.kind = .advanced) (phase : task.phase = .working) :
      AgentMoves state task (.ask question)
        ((state.setTracker .advanced ((state.trackers .advanced).updateStatus
          task.address.devicePrefix task.address.taskId (AdvancedTaskStatus.needsInput question))).set
            { task with phase := .asking question })
  | questionLogged {question : Text} (phase : task.phase = .asking question) :
      AgentMoves state task .logQuestion
        ((state.append task.address (.asking question)).set
          { task with asked := task.asked ++ [question], phase := .posting })
  | posted (phase : task.phase = .posting) :
      AgentMoves state task .post
        ((state.setQuestions (state.questions ++ [⟨task.address, task.channel⟩])).set
          { task with phase := .waiting none })
  | received {answer : Text} (phase : task.phase = .waiting (some answer)) :
      AgentMoves state task .receive (state.set { task with phase := .working })
  | concluded {result : Except Text Text}
      (phase : task.phase = .working ∨ ∃ answer, task.phase = .waiting answer) :
      AgentMoves state task (.conclude result) (state.set { task with phase := .concluded result })
  | completed {result : Except Text Text} {now : UInt64} (phase : task.phase = .concluded result) :
      AgentMoves state task (.complete now)
        ((state.setTracker task.kind ((state.trackers task.kind).complete
          task.address.devicePrefix task.address.taskId (task.kind.conclusion result) now)).set
            { task with phase := .completed result })
  | resultLogged {result : Except Text Text} (phase : task.phase = .completed result) :
      AgentMoves state task .logResult
        ((state.append task.address (.outcome result)).set
          { task with phase := if task.kind = .advanced then .logged result else .finished result })
  | cleaned {result : Except Text Text} (phase : task.phase = .logged result) :
      AgentMoves state task .cleanup
        ((state.setQuestions (state.questions.filter fun question =>
          question.taskId ≠ task.address.taskId)).set { task with phase := .finished result })

section

variable {runs : Nat → DispatchRun} {state next : TaskSystem} {run : Nat} {task : AgentTask}

/-- Inversion of a step of a loop. -/
theorem loopMoves_of_step {step : LoopStep} (steps : state.loopStep runs run step = some next) :
    ∃ changed loop, LoopMoves (runs run) state (state.loops run) step changed loop ∧
      next = changed.setLoop run loop := by
  cases step with
  | skip =>
      simp only [TaskSystem.loopStep] at steps
      split at steps
      · rename_i ready _
        split at steps
        · exact ⟨_, _, .skipped ready, (Option.some.inj steps).symm⟩
        · split at steps
          · exact ⟨_, _, .skipped ready, (Option.some.inj steps).symm⟩
          · cases steps
      · cases steps
  | nextId id =>
      simp only [TaskSystem.loopStep] at steps
      split at steps
      · rename_i ready _
        split at steps
        · cases steps
        · rcases Option.map_eq_some_iff.mp steps with ⟨kind, _, same⟩
          exact ⟨_, _, .counted ready, same.symm⟩
      · cases steps
  | register now =>
      simp only [TaskSystem.loopStep] at steps
      split at steps
      · rename_i phase
        split at steps
        · rename_i registers
          exact ⟨_, _, .registered phase registers, (Option.some.inj steps).symm⟩
        · exact ⟨_, _, .refused phase, (Option.some.inj steps).symm⟩
      · cases steps
  | logDispatch =>
      simp only [TaskSystem.loopStep] at steps
      split at steps
      · rename_i phase
        exact ⟨_, _, .dispatched phase, (Option.some.inj steps).symm⟩
      · cases steps
  | take =>
      simp only [TaskSystem.loopStep] at steps
      split at steps
      · rename_i ready marker
        split at steps
        · rename_i takes
          exact ⟨_, _, .taken ready marker takes, (Option.some.inj steps).symm⟩
        · rename_i misses
          exact ⟨_, _, .missed ready marker misses, (Option.some.inj steps).symm⟩
      · cases steps
  | send =>
      simp only [TaskSystem.loopStep] at steps
      split at steps
      · rename_i phase
        exact ⟨_, _, .sent phase, (Option.some.inj steps).symm⟩
      · cases steps
  | logAnswer =>
      simp only [TaskSystem.loopStep] at steps
      split at steps
      · rename_i phase
        exact ⟨_, _, .answered phase, (Option.some.inj steps).symm⟩
      · cases steps

/-- Inversion of a step of a task. -/
theorem agentMoves_of_step {step : AgentStep} (steps : state.agentStep task step = some next) :
    AgentMoves state task step next := by
  cases step with
  | report number detail =>
      simp only [TaskSystem.agentStep] at steps
      split at steps
      · rename_i kind phase
        rcases Option.some.inj steps with rfl
        exact .reported kind phase
      · cases steps
  | ask question =>
      simp only [TaskSystem.agentStep] at steps
      split at steps
      · rename_i kind phase
        rcases Option.some.inj steps with rfl
        exact .asked kind phase
      · cases steps
  | logQuestion =>
      simp only [TaskSystem.agentStep] at steps
      split at steps
      · rename_i phase
        rcases Option.some.inj steps with rfl
        exact .questionLogged phase
      · cases steps
  | post =>
      simp only [TaskSystem.agentStep] at steps
      split at steps
      · rename_i phase
        rcases Option.some.inj steps with rfl
        exact .posted phase
      · cases steps
  | receive =>
      simp only [TaskSystem.agentStep] at steps
      split at steps
      · rename_i phase
        rcases Option.some.inj steps with rfl
        exact .received phase
      · cases steps
  | conclude result =>
      simp only [TaskSystem.agentStep] at steps
      split at steps
      · rename_i phase
        rcases Option.some.inj steps with rfl
        exact .concluded (.inl phase)
      · rename_i phase
        rcases Option.some.inj steps with rfl
        exact .concluded (.inr ⟨_, phase⟩)
      · cases steps
  | complete now =>
      simp only [TaskSystem.agentStep] at steps
      split at steps
      · rename_i phase
        rcases Option.some.inj steps with rfl
        exact .completed phase
      · cases steps
  | logResult =>
      simp only [TaskSystem.agentStep] at steps
      split at steps
      · rename_i phase
        rcases Option.some.inj steps with rfl
        exact .resultLogged phase
      · cases steps
  | cleanup =>
      simp only [TaskSystem.agentStep] at steps
      split at steps
      · rename_i phase
        rcases Option.some.inj steps with rfl
        exact .cleaned phase
      · cases steps

theorem find_spec {address : PendingQuestion} (found : state.find address = some task) :
    task ∈ state.tasks ∧ task.address = address := by
  unfold TaskSystem.find at found
  have named := List.find?_some found
  exact ⟨List.mem_of_find?_eq_some found, of_decide_eq_true named⟩

/-- Inversion of a step of the system. -/
theorem tasking_cases {action : TaskStep} (steps : (tasking runs).step state action = some next) :
    (∃ run step changed loop, action = .loop run step ∧
        LoopMoves (runs run) state (state.loops run) step changed loop ∧
        next = changed.setLoop run loop) ∨
      ∃ task step, action = .agent task.address step ∧ task ∈ state.tasks ∧
        AgentMoves state task step next := by
  cases action with
  | loop run step =>
      rcases loopMoves_of_step steps with ⟨changed, loop, moves, same⟩
      exact .inl ⟨run, step, changed, loop, rfl, moves, same⟩
  | agent address step =>
      rcases Option.bind_eq_some_iff.mp steps with ⟨task, found, moves⟩
      rcases find_spec found with ⟨member, rfl⟩
      exact .inr ⟨task, step, rfl, member, agentMoves_of_step moves⟩

theorem trackers_setTracker_self (state : TaskSystem) (kind : TaskKind)
    (tracker : BackgroundTracker kind.Status) : (state.setTracker kind tracker).trackers kind = tracker := by
  unfold TaskSystem.setTracker
  exact Function.update_self ..

theorem trackers_setTracker_of_ne (state : TaskSystem) {kind other : TaskKind} (differs : kind ≠ other)
    (tracker : BackgroundTracker other.Status) :
    (state.setTracker other tracker).trackers kind = state.trackers kind := by
  unfold TaskSystem.setTracker
  exact Function.update_of_ne differs ..

/-! ## Tasks by name -/

theorem map_address_setTask (changed : AgentTask) (tasks : List AgentTask) :
    (setTask changed tasks).map AgentTask.address = tasks.map AgentTask.address := by
  rw [setTask, List.map_map]
  refine List.map_congr_left fun task _ => ?_
  rw [Function.comp_apply]
  split
  · rename_i same
    exact same.symm
  · rfl

theorem mem_setTask {changed other : AgentTask} {tasks : List AgentTask}
    (member : other ∈ setTask changed tasks) :
    other = changed ∨ (other ∈ tasks ∧ other.address ≠ changed.address) := by
  rcases List.mem_map.mp member with ⟨task, before, same⟩
  split at same
  · exact .inl same.symm
  · rename_i differs
    rcases same with rfl
    exact .inr ⟨before, differs⟩

theorem mem_setTask_of_ne {changed other : AgentTask} {tasks : List AgentTask} (member : other ∈ tasks)
    (differs : other.address ≠ changed.address) : other ∈ setTask changed tasks :=
  List.mem_map.mpr ⟨other, member, if_neg differs⟩

theorem mem_setTask_self {changed before : AgentTask} {tasks : List AgentTask} (member : before ∈ tasks)
    (same : before.address = changed.address) : changed ∈ setTask changed tasks :=
  List.mem_map.mpr ⟨before, member, if_pos same⟩

/-- An answer changes nothing but a task that waits. -/
theorem deliver_cases (state : TaskSystem) (question : OpenQuestion) (answer : Text) :
    state.deliver question answer = state ∨
      ∃ task ∈ state.tasks, (∃ prior, task.phase = .waiting prior) ∧
        state.deliver question answer = state.set { task with phase := .waiting (some answer) } := by
  unfold TaskSystem.deliver
  split
  · rename_i task found
    split
    · rename_i prior waits
      split
      · exact .inr ⟨task, List.mem_of_find?_eq_some found, ⟨prior, waits⟩, rfl⟩
      · exact .inl rfl
    · exact .inl rfl
  · exact .inl rfl

end

end Agent
end Rabb1tClaw
