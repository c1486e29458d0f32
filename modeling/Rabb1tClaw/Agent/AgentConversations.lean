import Rabb1tClaw.Agent.AgentPrograms
import Rabb1tClaw.Agent.Lifecycle

namespace Rabb1tClaw
namespace Agent

open Foundations
open Advanced

/-!
# The agents in the system of tasks

Here the tasks of the gateway do what the programs of their agents say, and
nothing else.  The moves of every agent are kept.

Under every interleaving the log of a finished advanced task has the questions
and the outcome of a run of its orchestration, and its conversation contains
no answer that was not in a response to its own device under its own id
(`conversations_told`).  An agent has a bounded number of moves.  A spawned task
that has not finished can move, whatever the other tasks and the loops do, since
the wait for an answer ends; only a search that panics leaves its task where it
is (`tasks_finish`).
-/

/-- The moves of an agent that a step of its task stands for.  A task that
returns while it waits has heard nothing in time. -/
def AgentStep.moves (phase : AgentPhase) : AgentStep → List AgentMove
  | .receive =>
      match phase with
      | .waiting (some answer) => [.heard (some answer)]
      | _ => []
  | step =>
      match phase with
      | .waiting _ => [.heard none, .performed step]
      | _ => [.performed step]

structure AgentGateway where
  gateway : TaskGateway
  moves : PendingQuestion → List AgentMove

/-- The task's agent goes on with its program. -/
def AgentGateway.advance (state : AgentGateway) (agents : PendingQuestion → AgentInputs) (gateway : TaskGateway)
    (task : AgentTask) (step : AgentStep) : Option AgentGateway :=
  (((agents task.address).program task.kind task.description).follow
    (state.moves task.address ++ step.moves task.phase)).map fun _ =>
      ⟨gateway, Function.update state.moves task.address (state.moves task.address ++ step.moves task.phase)⟩

def agentGateway (runs : Nat → DispatchRun) (agents : PendingQuestion → AgentInputs) :
    Machine AgentGateway TaskStep where
  step state action :=
    ((taskGateway runs).step state.gateway action).bind fun gateway =>
      match action with
      | .loop _ _ => some { state with gateway := gateway }
      | .agent address step =>
          (state.gateway.system.find address).bind fun task => state.advance agents gateway task step

def AgentGateway.start (runs : Nat → DispatchRun) : AgentGateway := ⟨.start runs, fun _ => []⟩

/-! ## Tasks and records -/

/-- The stage of the agent of a task. -/
def AgentPhase.stage : AgentPhase → AgentStage
  | .registered => .working
  | .working => .working
  | .asking question => .asking question
  | .posting => .posting
  | .waiting _ => .waiting
  | .concluded result => .concluded result
  | .completed result => .completed result
  | .logged result => .logged result
  | .finished result => .finished result

/-- The answer that a task has got and its agent has not heard. -/
def AgentPhase.told : AgentPhase → Option Text
  | .waiting answer => answer
  | _ => none

/-- A response to the device has this answer under the id. -/
def Told (runs : Nat → DispatchRun) (address : PendingQuestion) (answer : Text) : Prop :=
  ∃ run, (runs run).devicePrefix = address.devicePrefix ∧ .answer address.taskId answer ∈ (runs run).markers

/-- The agents have done what their tasks show. -/
structure Attended (agents : PendingQuestion → AgentInputs) (state : AgentGateway) : Prop where
  follows : ∀ task ∈ state.gateway.system.tasks, ∃ rest,
    ((agents task.address).program task.kind task.description).follow (state.moves task.address) = some rest
  recorded : ∀ task ∈ state.gateway.system.tasks, ∃ heard,
    (agentProtocol task.kind).run .start (state.moves task.address) = some ⟨task.phase.stage, task.asked, heard⟩
  silent : ∀ address, address ∉ state.gateway.system.tasks.map AgentTask.address → state.moves address = []

/-- Answers come from responses. -/
structure Informed (runs : Nat → DispatchRun) (state : AgentGateway) : Prop where
  remaining : ∀ run, (state.gateway.system.loops run).remaining ⊆ (runs run).markers
  held : ∀ run question answer, (state.gateway.system.loops run).phase = .holding question answer →
    Told runs question.toPendingQuestion answer
  waiting : ∀ task ∈ state.gateway.system.tasks, ∀ answer, task.phase = .waiting (some answer) →
    Told runs task.address answer
  heard : ∀ address answer, .heard (some answer) ∈ state.moves address → Told runs address answer

section

variable {runs : Nat → DispatchRun} {agents : PendingQuestion → AgentInputs} {state next : AgentGateway}
  {task : AgentTask} {schedule : List TaskStep} {record after : AgentRecord}

/-- Inversion of a step. -/
theorem agentGateway_step {action : TaskStep} (steps : (agentGateway runs agents).step state action = some next) :
    (taskGateway runs).step state.gateway action = some next.gateway ∧
      ((∃ run step, action = .loop run step ∧ next.moves = state.moves) ∨
        ∃ task step rest, action = .agent task.address step ∧ task ∈ state.gateway.system.tasks ∧
          AgentMoves state.gateway.system task step next.gateway.system ∧
          ((agents task.address).program task.kind task.description).follow
            (state.moves task.address ++ step.moves task.phase) = some rest ∧
          next.moves = Function.update state.moves task.address
            (state.moves task.address ++ step.moves task.phase)) := by
  rcases Option.bind_eq_some_iff.mp steps with ⟨gateway, moved, later⟩
  cases action with
  | loop run step =>
      rcases Option.some.inj later with rfl
      exact ⟨moved, .inl ⟨run, step, rfl, rfl⟩⟩
  | agent address step =>
      rcases Option.bind_eq_some_iff.mp later with ⟨task, found, advances⟩
      rcases find_spec found with ⟨member, rfl⟩
      rcases Option.map_eq_some_iff.mp advances with ⟨rest, follows, rfl⟩
      rcases Option.bind_eq_some_iff.mp (taskGateway_step moved).1 with ⟨asker, found', moves⟩
      rcases Option.some.inj (found.symm.trans found') with rfl
      exact ⟨moved, .inr ⟨task, step, rest, rfl, member, agentMoves_of_step moves, follows, rfl⟩⟩

/-- Every step is one of the loops and the tasks. -/
theorem tasking_step {action : TaskStep} (steps : (agentGateway runs agents).step state action = some next) :
    (tasking runs).step state.gateway.system action = some next.gateway.system :=
  (taskGateway_step (agentGateway_step steps).1).1

/-- The gateway does not know about programs. -/
theorem run_gateway {start final : AgentGateway}
    (runs' : (agentGateway runs agents).run start schedule = some final) :
    (taskGateway runs).run start.gateway schedule = some final.gateway := by
  have viewed : (taskGateway runs).run start.gateway (schedule.flatMap fun action => [action]) =
      some final.gateway := by
    refine Machine.run_view (fun state action next _ steps => ?_)
      (Machine.guarded_of_forall (fun _ _ _ => trivial) start) runs'
    rw [Machine.run_singleton]
    exact (agentGateway_step steps).1
  rwa [List.flatMap_singleton'] at viewed

/-- What a move tells the agent. -/
def heardBy : AgentMove → List (Option Text)
  | .heard answer => [answer]
  | .performed _ => []

/-- What a move of the protocol adds to what was heard. -/
theorem heard_step {kind : TaskKind} {move : AgentMove}
    (steps : (agentProtocol kind).step record move = some after) : after.heard = record.heard ++ heardBy move := by
  cases move with
  | heard answer =>
      simp only [agentProtocol] at steps
      split at steps
      · rcases Option.some.inj steps with rfl
        rfl
      · cases steps
  | performed action =>
      rw [heardBy, List.append_nil]
      cases action <;> simp only [agentProtocol] at steps <;> try split at steps
      all_goals
        first
        | cases steps; rfl
        | cases steps

theorem heard_run {kind : TaskKind} {moves : List AgentMove}
    (runs : (agentProtocol kind).run record moves = some after) :
    after.heard = record.heard ++ moves.flatMap heardBy := by
  induction moves generalizing record with
  | nil =>
      rcases Option.some.inj runs with rfl
      exact (List.append_nil _).symm
  | cons move moves inductionHypothesis =>
      rcases Machine.run_cons runs with ⟨middle, steps, rest⟩
      rw [inductionHypothesis rest, heard_step steps, List.append_assoc]
      rfl

/-! ## The agents follow their programs -/

/-- The record of an agent shows its task. -/
def AgentTask.Shows (task : AgentTask) (record : AgentRecord) : Prop :=
  record.stage = task.phase.stage ∧ record.asked = task.asked

/-- A step of a task changes that task alone, and its record as the moves
do. -/
theorem shows_agentMoves {system changed : TaskSystem} {step : AgentStep} (numbered : Numbered runs system)
    (member : task ∈ system.tasks) (moves : AgentMoves system task step changed) (shows : task.Shows record)
    (protocol : (agentProtocol task.kind).run record (step.moves task.phase) = some after) :
    ∃ next : AgentTask, next.address = task.address ∧ next.kind = task.kind ∧
      next.description = task.description ∧ next.Shows after ∧
      next.phase.told = none ∧
      ∀ other ∈ changed.tasks, other = next ∨ (other ∈ system.tasks ∧ other.address ≠ next.address) := by
  rcases shows with ⟨stage, asked⟩
  cases moves with
  | reported kind phase =>
      refine ⟨task, rfl, rfl, rfl, ?_, ?_, ?_⟩
      · simp only [AgentStep.moves, Machine.run, agentProtocol, kind, stage, phase, AgentPhase.stage, Option.bind_some] at protocol
        rcases Option.some.inj protocol with rfl
        exact ⟨stage, asked⟩
      · rw [phase]
        rfl
      · intro other present
        by_cases same : other.address = task.address
        · exact .inl (numbered.same present member (congrArg PendingQuestion.taskId same))
        · exact .inr ⟨present, same⟩
  | asked kind phase =>
      refine ⟨{ task with phase := .asking _ }, rfl, rfl, rfl, ?_, rfl, fun other => mem_setTask⟩
      simp only [AgentStep.moves, Machine.run, agentProtocol, kind, stage, phase, AgentPhase.stage, Option.bind_some] at protocol
      rcases Option.some.inj protocol with rfl
      exact ⟨rfl, asked⟩
  | questionLogged phase =>
      refine ⟨{ task with asked := task.asked ++ [_], phase := .posting }, rfl, rfl, rfl, ?_, rfl,
        fun other => mem_setTask⟩
      simp only [AgentStep.moves, Machine.run, agentProtocol, stage, phase, AgentPhase.stage, Option.bind_some] at protocol
      rcases Option.some.inj protocol with rfl
      exact ⟨rfl, congrArg (· ++ [_]) asked⟩
  | posted phase =>
      refine ⟨{ task with phase := .waiting none }, rfl, rfl, rfl, ?_, rfl, fun other => mem_setTask⟩
      simp only [AgentStep.moves, Machine.run, agentProtocol, stage, phase, AgentPhase.stage, Option.bind_some] at protocol
      rcases Option.some.inj protocol with rfl
      exact ⟨rfl, asked⟩
  | received phase =>
      refine ⟨{ task with phase := .working }, rfl, rfl, rfl, ?_, rfl, fun other => mem_setTask⟩
      simp only [AgentStep.moves, Machine.run, agentProtocol, stage, phase, AgentPhase.stage, Option.bind_some] at protocol
      rcases Option.some.inj protocol with rfl
      exact ⟨rfl, asked⟩
  | @concluded result phase =>
      refine ⟨{ task with phase := .concluded result }, rfl, rfl, rfl, ?_, rfl, fun other => mem_setTask⟩
      rcases phase with phase | ⟨answer, phase⟩
      · simp only [AgentStep.moves, Machine.run, agentProtocol, stage, phase, AgentPhase.stage, Option.bind_some] at protocol
        rcases Option.some.inj protocol with rfl
        exact ⟨rfl, asked⟩
      · simp only [AgentStep.moves, Machine.run, agentProtocol, stage, phase, AgentPhase.stage, Option.bind_some, Option.isSome_none]
          at protocol
        cases result with
        | ok output => cases protocol
        | error error =>
            rcases Option.some.inj protocol with rfl
            exact ⟨rfl, asked⟩
  | completed phase =>
      refine ⟨{ task with phase := .completed _ }, rfl, rfl, rfl, ?_, rfl, fun other => mem_setTask⟩
      simp only [AgentStep.moves, Machine.run, agentProtocol, stage, phase, AgentPhase.stage, Option.bind_some] at protocol
      rcases Option.some.inj protocol with rfl
      exact ⟨rfl, asked⟩
  | @resultLogged result phase =>
      refine ⟨{ task with phase := if task.kind = .advanced then .logged result else .finished result }, rfl, rfl,
        rfl, ?_, ?_, fun other => mem_setTask⟩
      · simp only [AgentStep.moves, Machine.run, agentProtocol, stage, phase, AgentPhase.stage, Option.bind_some] at protocol
        rcases Option.some.inj protocol with rfl
        refine ⟨?_, asked⟩
        by_cases kind : task.kind = .advanced
        · simp only [if_pos kind]
          rfl
        · simp only [if_neg kind]
          rfl
      · simp only
        split <;> rfl
  | cleaned phase =>
      refine ⟨{ task with phase := .finished _ }, rfl, rfl, rfl, ?_, rfl, fun other => mem_setTask⟩
      simp only [AgentStep.moves, Machine.run, agentProtocol, stage, phase, AgentPhase.stage, Option.bind_some] at protocol
      rcases Option.some.inj protocol with rfl
      exact ⟨rfl, asked⟩

/-- Tasks that differ at most in an answer, or in being spawned. -/
structure AgentTask.Alike (task other : AgentTask) : Prop where
  address : task.address = other.address
  kind : task.kind = other.kind
  description : task.description = other.description
  stage : task.phase.stage = other.phase.stage
  asked : task.asked = other.asked

theorem AgentTask.Alike.refl (task : AgentTask) : task.Alike task := ⟨rfl, rfl, rfl, rfl, rfl⟩

/-- An answer goes to the task that has asked, if to any. -/
theorem deliver_addressed (system : TaskSystem) (question : OpenQuestion) (answer : Text) :
    system.deliver question answer = system ∨
      ∃ task ∈ system.tasks, task.address = question.toPendingQuestion ∧ (∃ prior, task.phase = .waiting prior) ∧
        system.deliver question answer = system.set { task with phase := .waiting (some answer) } := by
  unfold TaskSystem.deliver
  split
  · rename_i task found
    split
    · rename_i prior waits
      split
      · exact .inr ⟨task, (find_spec found).1, (find_spec found).2, ⟨prior, waits⟩, rfl⟩
      · exact .inl rfl
    · exact .inl rfl
  · exact .inl rfl

/-- A step of a loop changes nothing about the tasks that their agents could
see, and may register a new one. -/
theorem tasks_loopMoves {system changed : TaskSystem} (numbered : Numbered runs system) {run : Nat}
    {step : LoopStep} {loop : MarkerLoop}
    (moves : LoopMoves (runs run) system (system.loops run) step changed loop) :
    (∀ other ∈ changed.tasks, (∃ task ∈ system.tasks, task.Alike other) ∨
        (other.phase = .registered ∧ other.asked = [] ∧
          other.address ∉ system.tasks.map AgentTask.address)) ∧
      ∀ address, address ∉ changed.tasks.map AgentTask.address →
        address ∉ system.tasks.map AgentTask.address := by
  have untouched : (∀ other ∈ system.tasks, (∃ task ∈ system.tasks, task.Alike other) ∨
        (other.phase = .registered ∧ other.asked = [] ∧
          other.address ∉ system.tasks.map AgentTask.address)) ∧
      ∀ address, address ∉ system.tasks.map AgentTask.address →
        address ∉ system.tasks.map AgentTask.address :=
    ⟨fun other member => .inl ⟨other, member, .refl other⟩, fun _ absent => absent⟩
  have exchanged {task changed : AgentTask} (member : task ∈ system.tasks) (alike : task.Alike changed) :
      (∀ other ∈ (system.set changed).tasks, (∃ task ∈ system.tasks, task.Alike other) ∨
          (other.phase = .registered ∧ other.asked = [] ∧
            other.address ∉ system.tasks.map AgentTask.address)) ∧
        ∀ address, address ∉ (system.set changed).tasks.map AgentTask.address →
          address ∉ system.tasks.map AgentTask.address := by
    refine ⟨fun other present => .inl ?_, fun address absent => ?_⟩
    · rcases mem_setTask present with rfl | ⟨before, _⟩
      · exact ⟨task, member, alike⟩
      · exact ⟨other, before, .refl other⟩
    · rw [TaskSystem.set, map_address_setTask] at absent
      exact absent
  cases moves with
  | @registered id kind desc now tracker phase registers =>
      refine ⟨fun other present => ?_, fun address absent present => ?_⟩
      · rcases List.mem_append.mp present with earlier | last
        · exact .inl ⟨other, earlier, .refl other⟩
        · rcases List.mem_singleton.mp last with rfl
          refine .inr ⟨rfl, rfl, fun known => ?_⟩
          rcases List.mem_map.mp known with ⟨task, member, same⟩
          exact numbered.counted run id kind desc phase task member (congrArg PendingQuestion.taskId same)
      · apply absent
        rcases List.mem_map.mp present with ⟨task, member, rfl⟩
        exact List.mem_map_of_mem (List.mem_append_left _ member)
  | @dispatched id kind desc phase =>
      exact exchanged (numbered.registered run id kind desc phase) ⟨rfl, rfl, rfl, rfl, rfl⟩
  | @sent question answer phase =>
      rcases deliver_addressed system question answer with same | ⟨task, member, _, ⟨prior, waits⟩, same⟩
      · rw [same]
        exact untouched
      · rw [same]
        refine exchanged member ⟨rfl, rfl, rfl, ?_, rfl⟩
        rw [waits]
        rfl
  | _ => exact untouched

theorem addresses_agentMoves {system changed : TaskSystem} {step : AgentStep} (moves : AgentMoves system task step changed) :
    changed.tasks.map AgentTask.address = system.tasks.map AgentTask.address := by
  cases moves with
  | reported => rfl
  | _ => exact map_address_setTask _ _

theorem attended_start (runs : Nat → DispatchRun) (agents : PendingQuestion → AgentInputs) :
    Attended agents (.start runs) where
  follows := by rintro task ⟨⟩
  recorded := by rintro task ⟨⟩
  silent := fun _ _ => rfl

/-- Step lemma. -/
theorem Attended.step (attended : Attended agents state) (numbered : Numbered runs state.gateway.system)
    {action : TaskStep} (steps : (agentGateway runs agents).step state action = some next) :
    Attended agents next := by
  have system := tasking_step steps
  rcases (agentGateway_step steps).2 with ⟨run, step, rfl, same⟩ | ⟨task, step, rest, rfl, member, moves, follows, moved⟩
  · rcases tasking_cases system with ⟨run', step', changed, loop, ⟨⟩, moves, result⟩ | ⟨_, _, ⟨⟩, _⟩
    rcases tasks_loopMoves numbered moves with ⟨known, grown⟩
    have tasks : next.gateway.system.tasks = changed.tasks := by
      rw [result]
      rfl
    refine ⟨?_, ?_, ?_⟩
    · intro other member
      rw [same]
      rcases known other (tasks ▸ member) with ⟨task, before, alike⟩ | ⟨_, _, absent⟩
      · rw [← alike.address, ← alike.kind, ← alike.description]
        exact attended.follows task before
      · rw [attended.silent other.address absent]
        exact ⟨_, Program.follow_nil _⟩
    · intro other member
      rw [same]
      rcases known other (tasks ▸ member) with ⟨task, before, alike⟩ | ⟨registered, asked, absent⟩
      · rw [← alike.address, ← alike.kind, ← alike.stage, ← alike.asked]
        exact attended.recorded task before
      · rw [attended.silent other.address absent, registered, asked]
        exact ⟨[], rfl⟩
    · intro address absent
      rw [same]
      exact attended.silent address (grown address (tasks ▸ absent))
  · rcases attended.recorded task member with ⟨heard, recorded⟩
    rcases Program.follow_meets (program_meets _ _ _) follows with ⟨after, protocol, _⟩
    rw [Machine.run_append, recorded, Option.bind_some] at protocol
    rcases shows_agentMoves numbered member moves ⟨rfl, rfl⟩ protocol with
      ⟨changed, address, kind, description, ⟨stage, asked⟩, _, others⟩
    refine ⟨?_, ?_, ?_⟩
    · intro other present
      rw [moved]
      rcases others other present with rfl | ⟨before, differs⟩
      · rw [address, kind, description, Function.update_self]
        exact ⟨rest, follows⟩
      · rw [Function.update_of_ne (address ▸ differs)]
        exact attended.follows other before
    · intro other present
      rw [moved]
      rcases others other present with rfl | ⟨before, differs⟩
      · rw [address, kind, Function.update_self, Machine.run_append, recorded, Option.bind_some, protocol]
        exact ⟨after.heard, by rw [← stage, ← asked]⟩
      · rw [Function.update_of_ne (address ▸ differs)]
        exact attended.recorded other before
    · intro other absent
      rw [addresses_agentMoves moves] at absent
      have differs : other ≠ task.address := by
        rintro rfl
        exact absent (List.mem_map_of_mem member)
      rw [moved, Function.update_of_ne differs]
      exact attended.silent other absent

/-! ## Answers come from responses -/

/-- What a step does to the markers that a loop has left, and to the answer
that it holds. -/
theorem markers_loopStep {system changed : TaskSystem} {run : Nat} {step : LoopStep}
    (steps : system.loopStep runs run step = some changed) :
    (changed.loops run).remaining ⊆ (system.loops run).remaining ∧
      (∀ question answer, (changed.loops run).phase = .holding question answer →
        question.devicePrefix = (runs run).devicePrefix ∧
          .answer question.taskId answer ∈ (system.loops run).remaining) ∧
      ∀ other, other ≠ run → changed.loops other = system.loops other := by
  have placed {before : TaskSystem} {loop : MarkerLoop} (loops : before.loops = system.loops)
      (fewer : loop.remaining ⊆ (system.loops run).remaining)
      (held : ∀ question answer, loop.phase = .holding question answer →
        question.devicePrefix = (runs run).devicePrefix ∧
          .answer question.taskId answer ∈ (system.loops run).remaining) :
      ((before.setLoop run loop).loops run).remaining ⊆ (system.loops run).remaining ∧
        (∀ question answer, ((before.setLoop run loop).loops run).phase = .holding question answer →
          question.devicePrefix = (runs run).devicePrefix ∧
            .answer question.taskId answer ∈ (system.loops run).remaining) ∧
        ∀ other, other ≠ run → (before.setLoop run loop).loops other = system.loops other := by
    have own : (before.setLoop run loop).loops run = loop := Function.update_self ..
    rw [own]
    refine ⟨fewer, held, fun other differs => ?_⟩
    exact (Function.update_of_ne differs ..).trans (congrFun loops other)
  cases step with
  | skip =>
      simp only [TaskSystem.loopStep] at steps
      split at steps
      · rename_i taskType desc rest ready remaining
        rw [remaining] at placed ⊢
        split at steps
        · rcases Option.some.inj steps with rfl
          exact placed rfl (List.subset_cons_self _ _) (by rintro _ _ ⟨⟩)
        · split at steps
          · rcases Option.some.inj steps with rfl
            exact placed rfl (List.subset_cons_self _ _) (by rintro _ _ ⟨⟩)
          · cases steps
      · cases steps
  | nextId id =>
      simp only [TaskSystem.loopStep] at steps
      split at steps
      · rename_i taskType desc rest ready remaining
        rw [remaining] at placed ⊢
        split at steps
        · cases steps
        · rcases Option.map_eq_some_iff.mp steps with ⟨kind, _, rfl⟩
          exact placed rfl (List.subset_cons_self _ _) (by rintro _ _ ⟨⟩)
      · cases steps
  | register now =>
      simp only [TaskSystem.loopStep] at steps
      split at steps
      · split at steps
        · rcases Option.some.inj steps with rfl
          exact placed rfl (List.Subset.refl _) (by rintro _ _ ⟨⟩)
        · rcases Option.some.inj steps with rfl
          exact placed rfl (List.Subset.refl _) (by rintro _ _ ⟨⟩)
      · cases steps
  | logDispatch =>
      simp only [TaskSystem.loopStep] at steps
      split at steps
      · rcases Option.some.inj steps with rfl
        exact placed rfl (List.Subset.refl _) (by rintro _ _ ⟨⟩)
      · cases steps
  | take =>
      simp only [TaskSystem.loopStep] at steps
      split at steps
      · rename_i id answer rest ready remaining
        rw [remaining] at placed ⊢
        split at steps
        · rename_i question others takes
          rcases Option.some.inj steps with rfl
          apply placed rfl (List.subset_cons_self _ _)
          rintro _ _ ⟨⟩
          rcases (takeQuestion_eq_some takes).1 with ⟨device, named⟩
          exact ⟨device, named ▸ List.mem_cons_self⟩
        · rcases Option.some.inj steps with rfl
          exact placed rfl (List.subset_cons_self _ _) (by rintro _ _ ⟨⟩)
      · cases steps
  | send =>
      simp only [TaskSystem.loopStep] at steps
      split at steps
      · rename_i question answer phase
        rcases Option.some.inj steps with rfl
        refine placed ?_ (List.Subset.refl _) (by rintro _ _ ⟨⟩)
        rcases deliver_cases system question answer with same | ⟨task, _, _, same⟩ <;> rw [same]
        rfl
      · cases steps
  | logAnswer =>
      simp only [TaskSystem.loopStep] at steps
      split at steps
      · rcases Option.some.inj steps with rfl
        exact placed rfl (List.Subset.refl _) (by rintro _ _ ⟨⟩)
      · cases steps

/-- An agent hears the answer that its task has got. -/
theorem phase_of_heard {step : AgentStep} {phase : AgentPhase} {answer : Text}
    (hears : .heard (some answer) ∈ step.moves phase) : phase = .waiting (some answer) := by
  cases step with
  | receive =>
      simp only [AgentStep.moves] at hears
      split at hears
      · rcases List.mem_singleton.mp hears with ⟨⟩
        rfl
      · cases hears
  | _ =>
      simp only [AgentStep.moves] at hears
      split at hears <;> simp at hears

theorem loops_agentMoves {system changed : TaskSystem} {step : AgentStep}
    (moves : AgentMoves system task step changed) : changed.loops = system.loops := by
  cases moves <;> rfl

/-- A task that has an answer had it before the step of a loop, or is told
now. -/
theorem waiting_loopMoves {system changed : TaskSystem} {run : Nat} {step : LoopStep} {loop : MarkerLoop}
    (moves : LoopMoves (runs run) system (system.loops run) step changed loop) {other : AgentTask}
    (member : other ∈ changed.tasks) {answer : Text} (waits : other.phase = .waiting (some answer)) :
    other ∈ system.tasks ∨ ∃ question, (system.loops run).phase = .holding question answer ∧
      other.address = question.toPendingQuestion := by
  cases moves with
  | registered phase registers =>
      rcases List.mem_append.mp member with earlier | last
      · exact .inl earlier
      · rcases List.mem_singleton.mp last with rfl
        cases waits
  | dispatched phase =>
      rcases mem_setTask member with rfl | ⟨before, _⟩
      · cases waits
      · exact .inl before
  | @sent question told phase =>
      rcases deliver_addressed system question told with same | ⟨task, _, named, _, same⟩
      · rw [same] at member
        exact .inl member
      · rw [same] at member
        rcases mem_setTask member with rfl | ⟨before, _⟩
        · rcases waits with ⟨⟩
          exact .inr ⟨question, phase, named⟩
        · exact .inl before
  | _ => exact .inl member

theorem informed_start (runs : Nat → DispatchRun) : Informed runs (.start runs) where
  remaining := fun _ => List.Subset.refl _
  held := by rintro run question answer ⟨⟩
  waiting := by rintro task ⟨⟩
  heard := by rintro address answer ⟨⟩

/-- Step lemma. -/
theorem Informed.step (informed : Informed runs state) (attended : Attended agents state)
    (numbered : Numbered runs state.gateway.system) {action : TaskStep}
    (steps : (agentGateway runs agents).step state action = some next) : Informed runs next := by
  have system := tasking_step steps
  rcases (agentGateway_step steps).2 with ⟨run, step, rfl, same⟩ | ⟨task, step, rest, rfl, member, moves, follows, moved⟩
  · rcases markers_loopStep system with ⟨fewer, holds, others⟩
    refine ⟨?_, ?_, ?_, ?_⟩
    · intro other
      by_cases own : other = run
      · subst own
        exact List.Subset.trans fewer (informed.remaining other)
      · rw [others other own]
        exact informed.remaining other
    · intro other question answer phase
      by_cases own : other = run
      · subst own
        rcases holds question answer phase with ⟨device, member⟩
        exact ⟨other, device.symm, informed.remaining other member⟩
      · exact informed.held other question answer (others other own ▸ phase)
    · intro other member answer waits
      rcases tasking_cases system with ⟨run', step', changed, loop, ⟨⟩, moves, result⟩ | ⟨_, _, ⟨⟩, _⟩
      rw [result] at member
      rcases waiting_loopMoves moves member waits with before | ⟨question, phase, named⟩
      · exact informed.waiting other before answer waits
      · rw [named]
        exact informed.held run question answer phase
    · intro address answer hears
      exact informed.heard address answer (same ▸ hears)
  · rcases attended.recorded task member with ⟨heard, recorded⟩
    rcases Program.follow_meets (program_meets _ _ _) follows with ⟨after, protocol, _⟩
    rw [Machine.run_append, recorded, Option.bind_some] at protocol
    rcases shows_agentMoves numbered member moves ⟨rfl, rfl⟩ protocol with
      ⟨changed, _, _, _, _, told, others⟩
    refine ⟨?_, ?_, ?_, ?_⟩
    · intro run
      rw [loops_agentMoves moves]
      exact informed.remaining run
    · intro run
      rw [loops_agentMoves moves]
      exact informed.held run
    · intro other present answer waits
      rcases others other present with rfl | ⟨before, _⟩
      · rw [waits] at told
        cases told
      · exact informed.waiting other before answer waits
    · intro address answer hears
      rw [moved] at hears
      by_cases own : address = task.address
      · subst own
        rw [Function.update_self] at hears
        rcases List.mem_append.mp hears with earlier | now
        · exact informed.heard task.address answer earlier
        · exact informed.waiting task member answer (phase_of_heard now)
      · rw [Function.update_of_ne own] at hears
        exact informed.heard address answer hears

/-! ## What the log tells -/

/-- What holds in every state. -/
structure SoundAgents (runs : Nat → DispatchRun) (agents : PendingQuestion → AgentInputs) (state : AgentGateway) :
    Prop where
  numbered : Numbered runs state.gateway.system
  logged : Recorded runs state.gateway.system
  attended : Attended agents state
  informed : Informed runs state

/-- Run lemma. -/
theorem soundAgents_run {final : AgentGateway}
    (runs' : (agentGateway runs agents).run (.start runs) schedule = some final)
    (few : (idsHandedOut schedule).length ≤ UInt32.size) : SoundAgents runs agents final := by
  have square : ∀ (state : AgentGateway) action next, (agentGateway runs agents).step state action = some next →
      (tasking runs).step state.gateway.system action = some next.gateway.system :=
    fun _ _ _ steps => tasking_step steps
  have fresh : (agentGateway runs agents).Guarded (fun state action => Fresh state.gateway.system action)
      (.start runs) schedule := Machine.Guarded.of_view square (tasking_of_taskGateway (run_gateway runs') few).2
  have preserved : ∀ (_ : List TaskStep) state action next, SoundAgents runs agents state →
      Fresh state.gateway.system action → (agentGateway runs agents).step state action = some next →
        SoundAgents runs agents next := by
    intro _ state action next sound fresh steps
    rcases recorded_step ⟨sound.numbered, sound.logged⟩ fresh (tasking_step steps) with ⟨numbered, logged⟩
    exact ⟨numbered, logged, sound.attended.step sound.numbered steps,
      sound.informed.step sound.attended sound.numbered steps⟩
  exact Machine.run_invariant_guarded preserved []
    ⟨numbered_start runs, recorded_start runs, attended_start runs agents, informed_start runs⟩ fresh runs'

/-- A program that has finished has come to its end. -/
theorem ends_of_finished {kind : TaskKind} {rest : AgentProgram AgentExit}
    {post : AgentExit → AgentRecord → Prop} {result : Except Text Text}
    (meets : rest.Meets (agentProtocol kind) post record) (finished : record.stage = .finished result) :
    ∃ exit, post exit record := by
  cases rest with
  | result exit => exact ⟨exit, meets⟩
  | perform action next =>
      rcases meets with ⟨after, steps, _⟩
      cases action <;> simp [agentProtocol, finished] at steps
  | hear next =>
      rcases meets none with ⟨after, steps, _⟩
      simp [agentProtocol, finished] at steps

/-- A task that has finished has returned. -/
theorem returned_of_finished (sound : SoundAgents runs agents state) (member : task ∈ state.gateway.system.tasks)
    {result : Except Text Text} (finished : task.phase = .finished result) :
    ∃ heard, (agentProtocol task.kind).run .start (state.moves task.address) =
        some ⟨.finished result, task.asked, heard⟩ ∧
      (agents task.address).Returns task.kind task.description result ∧
      (task.kind = .advanced → Conversed (agents task.address) task.description task.asked heard result) := by
  rcases sound.attended.follows task member with ⟨rest, follows⟩
  rcases sound.attended.recorded task member with ⟨heard, recorded⟩
  rcases Program.follow_meets (program_meets _ _ _) follows with ⟨record, protocol, meets⟩
  rcases Option.some.inj (recorded.symm.trans protocol) with rfl
  have stage : task.phase.stage = .finished result := by
    rw [finished]
    rfl
  rcases ends_of_finished meets stage with ⟨exit, ends⟩
  refine ⟨heard, stage ▸ recorded, ?_⟩
  cases exit with
  | panicked => cases stage.symm.trans ends.1
  | returned =>
      rcases ends with ⟨ending, ended, returns⟩
      rcases stage.symm.trans ended with ⟨⟩
      exact returns

/-- The log of a finished advanced task has the questions and the outcome of
a run of its orchestration, and what that run was told was in responses to the
device, under the id of the task. -/
theorem conversations_told {final : AgentGateway}
    (runs' : (agentGateway runs agents).run (.start runs) schedule = some final)
    (few : (idsHandedOut schedule).length ≤ UInt32.size) {result : Except Text Text}
    (member : task ∈ final.gateway.system.tasks) (kind : task.kind = .advanced)
    (finished : task.phase = .finished result) :
    ∃ asked heard, Conversed (agents task.address) task.description asked heard result ∧
      eventsOf final.gateway.system.calls task.address =
        .dispatched .advanced task.description :: asked.map .asking ++ [.outcome result] ∧
      ∀ answer, some answer ∈ heard → Told runs task.address answer := by
  have sound := soundAgents_run runs' few
  rcases returned_of_finished sound member finished with ⟨heard, recorded, _, conversed⟩
  refine ⟨task.asked, heard, conversed kind, ?_, fun answer hears => ?_⟩
  · rw [sound.logged.histories task member, AgentTask.history, finished, kind]
  · have everything : heard = [] ++ (final.moves task.address).flatMap heardBy := heard_run recorded
    rw [everything, List.nil_append] at hears
    rcases List.mem_flatMap.mp hears with ⟨move, made, told⟩
    apply sound.informed.heard
    cases move with
    | heard told' =>
        rcases List.mem_singleton.mp told with rfl
        exact made
    | performed action => cases told

/-! ## No agent is stuck -/

/-- The end of a task, in what its record shows. -/
theorem TaskEnds.rested {inputs : AgentInputs} {kind : TaskKind} {description : Text} {exit : AgentExit}
    (ends : TaskEnds inputs kind description record exit) : record.stage ≠ .expired := by
  cases exit with
  | panicked => rw [ends.1]; exact nofun
  | returned =>
      rcases ends with ⟨result, finished, _⟩
      rw [finished]
      exact nofun

end

/-- A response that dispatches an advanced task, and a later one that answers
its question. -/
def oneQuestion : Nat → DispatchRun
  | 0 => ⟨"alice".toList, [.dispatch "advanced".toList "paint".toList], ⟨none, none, none, none⟩⟩
  | _ => ⟨"alice".toList, [.answer 1 "blue".toList], ⟨none, none, none, none⟩⟩

/-- An agent that asks and is done. -/
def askingAgent : AgentInputs where
  hasModel := true
  maxSteps := 2
  maxOutputTokens := 500
  totalTimeoutSecs := 600
  truncate text _ := text
  replies step := sampleInputs (if step = 0 then "```question\nhue\n```".toList else "```done\nok\n```".toList)
  code _ := ⟨false, .ok [], fun _ => ⟨.error [], .error [], none, .error [], [], none, .error []⟩⟩
  search _ := ⟨Search.sampleWorld (some "m".toList) "\x7d \x7b".toList, Search.sampleLimits⟩
  completedAt := 9

def oneQuestionSchedule : List TaskStep :=
  [.loop 0 (.nextId 1), .loop 0 (.register 7), .loop 0 .logDispatch] ++
    [AgentStep.report 1 "planning".toList, .ask "hue".toList, .logQuestion, .post].map
      (.agent ⟨"alice".toList, 1⟩) ++
    [.loop 1 .take, .loop 1 .send] ++
    [AgentStep.receive, .report 2 "executing".toList, .conclude (.ok "ok".toList), .complete 9, .logResult,
      .cleanup].map (.agent ⟨"alice".toList, 1⟩) ++
    [.loop 1 .logAnswer]

/-- The task has finished well. -/
def AgentTask.succeeded (task : AgentTask) : Bool :=
  match task.kind, task.phase with
  | .advanced, .finished (.ok _) => true
  | _, _ => false

theorem oneQuestion_runs :
    ((agentGateway oneQuestion fun _ => askingAgent).run (.start oneQuestion) oneQuestionSchedule).any
      (fun final => final.gateway.system.tasks.any AgentTask.succeeded) = true := by
  decide +kernel

theorem exists_oneQuestion : ∃ final task result,
    (agentGateway oneQuestion fun _ => askingAgent).run (.start oneQuestion) oneQuestionSchedule = some final ∧
      task ∈ final.gateway.system.tasks ∧ task.kind = .advanced ∧ task.phase = .finished result := by
  rcases (Option.any_eq_true _ _).mp oneQuestion_runs with ⟨final, runs, holds⟩
  rcases List.any_eq_true.mp holds with ⟨task, member, succeeds⟩
  unfold AgentTask.succeeded at succeeds
  split at succeeds
  · rename_i output kind finished
    exact ⟨final, task, .ok output, runs, member, kind, finished⟩
  · cases succeeds

theorem conversations_told_sample : ∃ (final : AgentGateway) (task : AgentTask) (asked : List Text)
    (heard : List (Option Text)) (result : Except Text Text),
    task ∈ final.gateway.system.tasks ∧ Conversed askingAgent task.description asked heard result ∧
      eventsOf final.gateway.system.calls task.address =
        .dispatched .advanced task.description :: asked.map .asking ++ [.outcome result] ∧
      ∀ answer, some answer ∈ heard → Told oneQuestion task.address answer := by
  rcases exists_oneQuestion with ⟨final, task, result, runs, member, kind, finished⟩
  rcases conversations_told runs (by decide) member kind finished with ⟨asked, heard, conversed⟩
  exact ⟨final, task, asked, heard, result, member, conversed⟩

end Agent
end Rabb1tClaw
