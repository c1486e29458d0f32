import Rabb1tClaw.Agent.TaskIds

namespace Rabb1tClaw
namespace Agent

open Foundations

/-!
# The life of a task in the log

What the log is told about a task is its life: the dispatch, then the
questions that it asks, then its one outcome.  The loop logs the dispatch
before it spawns the task, and from there on the task logs for itself.  Only
the answers are logged by other loops; they are the subject of `LoggedAnswers`.
-/

/-- What a task has logged, or its loop for it. -/
def AgentTask.history (task : AgentTask) : List TaskEvent :=
  match task.phase with
  | .registered => []
  | .logged result | .finished result =>
      .dispatched task.kind task.description :: task.asked.map .asking ++ [.outcome result]
  | _ => .dispatched task.kind task.description :: task.asked.map .asking

/-- The events that were logged under a name, answers aside. -/
def eventsOf (calls : List LogCall) (address : PendingQuestion) : List TaskEvent :=
  (calls.filter fun call => call.task = address ∧ call.event.isAnswered = false).map LogCall.event

/-- The log calls tell the lives of the tasks.  A loop takes the questions of
its device only. -/
structure Recorded (runs : Nat → DispatchRun) (state : TaskSystem) : Prop where
  histories : ∀ task ∈ state.tasks, eventsOf state.calls task.address = task.history
  named : ∀ call ∈ state.calls, ∃ task ∈ state.tasks, task.address = call.task
  held : ∀ run question answer, (state.loops run).phase = .holding question answer →
    question.devicePrefix = (runs run).devicePrefix ∧
      ∃ task ∈ state.tasks, task.address = question.toPendingQuestion
  sent : ∀ run id answer, (state.loops run).phase = .sent id answer →
    ∃ task ∈ state.tasks, task.address = ⟨(runs run).devicePrefix, id⟩

section

variable {runs : Nat → DispatchRun} {state next : TaskSystem} {run : Nat} {task changed : AgentTask}
  {calls added : List LogCall} {address : PendingQuestion}

theorem recorded_start (runs : Nat → DispatchRun) : Recorded runs (.start runs) where
  histories := by rintro task ⟨⟩
  named := by rintro call ⟨⟩
  held := by rintro run question answer ⟨⟩
  sent := by rintro run id answer ⟨⟩

theorem eventsOf_append (calls added : List LogCall) (address : PendingQuestion) :
    eventsOf (calls ++ added) address = eventsOf calls address ++ eventsOf added address := by
  rw [eventsOf, List.filter_append, List.map_append]
  rfl

theorem eventsOf_own (own : ∀ call ∈ added, call.task = address ∧ call.event.isAnswered = false) :
    eventsOf added address = added.map LogCall.event := by
  rw [eventsOf, List.filter_eq_self.mpr fun call member => decide_eq_true (own call member)]

theorem eventsOf_other (other : ∀ call ∈ added, ¬ (call.task = address ∧ call.event.isAnswered = false)) :
    eventsOf added address = [] := by
  rw [eventsOf, List.filter_eq_nil_iff.mpr fun call member => by simpa using other call member]
  rfl

/-- A task without calls has no events. -/
theorem Recorded.unknown (recorded : Recorded runs state)
    (new : ∀ task ∈ state.tasks, task.address ≠ address) : eventsOf state.calls address = [] := by
  apply eventsOf_other
  rintro call member ⟨rfl, _⟩
  rcases recorded.named call member with ⟨task, known, same⟩
  exact new task known same

/-- A changed task has the name that it had. -/
theorem named_set {before : TaskSystem} (tasks : before.tasks = state.tasks)
    (known : ∃ task ∈ state.tasks, task.address = address) :
    ∃ task ∈ (before.set changed).tasks, task.address = address := by
  rcases known with ⟨teller, here, same⟩
  by_cases changes : teller.address = changed.address
  · exact ⟨changed, mem_setTask_self (tasks ▸ here) changes, changes.symm.trans same⟩
  · exact ⟨teller, mem_setTask_of_ne (tasks ▸ here) changes, same⟩

/-- The life of a task goes on, and it may log an event of its own. -/
theorem Recorded.change (recorded : Recorded runs state) {before : TaskSystem}
    (event : Option TaskEvent) (member : task ∈ state.tasks) (tasks : before.tasks = state.tasks)
    (loops : before.loops = state.loops)
    (grown : before.calls = state.calls ++ (event.map (LogCall.mk task.address)).toList)
    (unanswered : ∀ happened, event = some happened → happened.isAnswered = false)
    (named : changed.address = task.address) (history : changed.history = task.history ++ event.toList) :
    Recorded runs (before.set changed) where
  histories := by
    intro other member'
    change eventsOf before.calls other.address = other.history
    rw [grown, eventsOf_append]
    rcases mem_setTask member' with rfl | ⟨known, differs⟩
    · rw [named, recorded.histories task member, history]
      cases event with
      | none => rfl
      | some happened =>
          rw [eventsOf_own]
          · rfl
          · intro call here
            rw [List.mem_singleton.mp here]
            exact ⟨rfl, unanswered happened rfl⟩
    · rw [tasks] at known
      have none : eventsOf (event.map (LogCall.mk task.address)).toList other.address = [] := by
        apply eventsOf_other
        rintro call here ⟨same, _⟩
        rcases Option.map_eq_some_iff.mp (Option.mem_toList.mp here) with ⟨happened, _, rfl⟩
        exact differs (same.symm.trans named.symm)
      rw [none, List.append_nil]
      exact recorded.histories other known
  named := by
    intro call here
    refine named_set tasks ?_
    rcases List.mem_append.mp (grown ▸ here) with earlier | last
    · exact recorded.named call earlier
    · rcases Option.map_eq_some_iff.mp (Option.mem_toList.mp last) with ⟨happened, _, rfl⟩
      exact ⟨task, member, rfl⟩
  held := fun run question answer phase =>
    (recorded.held run question answer (loops ▸ phase)).imp id (named_set tasks)
  sent := fun run id answer phase => named_set tasks (recorded.sent run id answer (loops ▸ phase))

/-- A loop moves on. -/
theorem Recorded.setLoop (recorded : Recorded runs state) {loop : MarkerLoop}
    (held : ∀ question answer, loop.phase = .holding question answer →
      question.devicePrefix = (runs run).devicePrefix ∧
        ∃ task ∈ state.tasks, task.address = question.toPendingQuestion)
    (sent : ∀ id answer, loop.phase = .sent id answer →
      ∃ task ∈ state.tasks, task.address = ⟨(runs run).devicePrefix, id⟩) :
    Recorded runs (state.setLoop run loop) := by
  refine { recorded with held := ?_, sent := ?_ }
  · intro other question answer phase
    rcases loops_setLoop state run loop other with ⟨rfl, here⟩ | ⟨_, there⟩
    · exact held question answer (here ▸ phase)
    · exact recorded.held other question answer (there ▸ phase)
  · intro other id answer phase
    rcases loops_setLoop state run loop other with ⟨rfl, here⟩ | ⟨_, there⟩
    · exact sent id answer (here ▸ phase)
    · exact recorded.sent other id answer (there ▸ phase)

theorem Recorded.release (recorded : Recorded runs state) {loop : MarkerLoop}
    (phase : loop.phase = .ready) : Recorded runs (state.setLoop run loop) := by
  apply recorded.setLoop
  · intro question answer holds
    cases phase.symm.trans holds
  · intro id answer sends
    cases phase.symm.trans sends

/-- A task that was just registered has no life in the log so far. -/
theorem Recorded.add (recorded : Recorded runs state) (phase : task.phase = .registered)
    (new : ∀ other ∈ state.tasks, other.address ≠ task.address) : Recorded runs (state.add task) where
  histories := by
    intro other member
    rcases List.mem_append.mp member with earlier | last
    · exact recorded.histories other earlier
    · rcases List.mem_singleton.mp last with rfl
      rw [AgentTask.history, phase]
      exact recorded.unknown new
  named := by
    intro call member
    rcases recorded.named call member with ⟨teller, known, same⟩
    exact ⟨teller, List.mem_append_left _ known, same⟩
  held := fun run question answer phase => (recorded.held run question answer phase).imp id fun known =>
    known.imp fun _ here => here.imp_left (List.mem_append_left _)
  sent := fun run id answer phase =>
    (recorded.sent run id answer phase).imp fun _ here => here.imp_left (List.mem_append_left _)

/-- An answer is logged under the name of a task. -/
theorem Recorded.answer (recorded : Recorded runs state)
    (known : ∃ task ∈ state.tasks, task.address = address) (answer : Text) : Recorded runs (state.append address (.answered answer)) where
  histories := by
    intro task member
    have none : eventsOf [⟨address, .answered answer⟩] task.address = [] := by
      apply eventsOf_other
      rintro call here ⟨_, unanswered⟩
      rw [List.mem_singleton.mp here] at unanswered
      cases unanswered
    change eventsOf (state.calls ++ _) _ = _
    rw [eventsOf_append, none, List.append_nil]
    exact recorded.histories task member
  named := by
    intro call member
    rcases List.mem_append.mp member with earlier | last
    · exact recorded.named call earlier
    · rw [List.mem_singleton.mp last]
      exact known
  held := recorded.held
  sent := recorded.sent

/-- Step lemma: the loops. -/
theorem Recorded.loopMoves (recorded : Recorded runs state) (numbered : Numbered runs state)
    {step : LoopStep} {changed : TaskSystem} {loop : MarkerLoop}
    (moves : LoopMoves (runs run) state (state.loops run) step changed loop) :
    Recorded runs (changed.setLoop run loop) := by
  cases moves with
  | skipped => exact recorded.release rfl
  | counted => exact recorded.setLoop (by rintro question answer ⟨⟩) (by rintro id answer ⟨⟩)
  | @registered id kind desc now tracker phase registers =>
      have added : Recorded runs (state.add ⟨⟨(runs run).devicePrefix, id⟩, kind, desc, [], .registered⟩) := by
        apply recorded.add rfl
        intro other member same
        exact numbered.counted run id kind desc phase other member (congrArg PendingQuestion.taskId same)
      have moved : Recorded runs ((state.add
          ⟨⟨(runs run).devicePrefix, id⟩, kind, desc, [], .registered⟩).setLoop run
            { state.loops run with phase := .registered id kind desc }) :=
        added.setLoop (by rintro question answer ⟨⟩) (by rintro id answer ⟨⟩)
      exact { moved with }
  | refused => exact recorded.release rfl
  | @dispatched id kind desc phase =>
      refine Recorded.release ?_ rfl
      refine recorded.change (some (.dispatched kind desc))
        (numbered.registered run id kind desc phase) rfl rfl rfl ?_ rfl rfl
      rintro happened ⟨⟩
      rfl
  | @taken id answer question others rest ready marker takes =>
      rcases takeQuestion_eq_some takes with ⟨⟨device, _⟩, front, back, before, _⟩
      have emptied : Recorded runs (state.setQuestions others) := { recorded with }
      apply emptied.setLoop
      · rintro other answer' ⟨⟩
        refine ⟨device, numbered.questioned question ?_⟩
        rw [before]
        exact List.mem_append_right _ List.mem_cons_self
      · rintro id answer ⟨⟩
  | missed => exact recorded.release rfl
  | @sent question answer phase =>
      rcases recorded.held run question answer phase with ⟨device, known⟩
      have delivered : Recorded runs (state.deliver question answer) ∧
          ∃ task ∈ (state.deliver question answer).tasks, task.address = question.toPendingQuestion := by
        rcases deliver_cases state question answer with same | ⟨task, member, ⟨prior, waits⟩, same⟩
        · rw [same]
          exact ⟨recorded, known⟩
        · rw [same]
          refine ⟨?_, named_set rfl known⟩
          refine recorded.change none member rfl rfl (List.append_nil _).symm nofun rfl ?_
          rw [AgentTask.history, AgentTask.history, waits]
          exact (List.append_nil _).symm
      apply delivered.1.setLoop
      · rintro other answer' ⟨⟩
      · rintro id answer' ⟨⟩
        rw [← device]
        exact delivered.2
  | @answered id answer phase =>
      exact (recorded.answer (recorded.sent run id answer phase) answer).release rfl

/-- Step lemma: the tasks. -/
theorem Recorded.agentMoves (recorded : Recorded runs state) (member : task ∈ state.tasks)
    {step : AgentStep} (moves : AgentMoves state task step next) : Recorded runs next := by
  have quietly {before : TaskSystem} {changed : AgentTask} (tasks : before.tasks = state.tasks)
      (loops : before.loops = state.loops) (calls : before.calls = state.calls)
      (named : changed.address = task.address) (history : changed.history = task.history) :
      Recorded runs (before.set changed) :=
    recorded.change none member tasks loops (calls.trans (List.append_nil _).symm) nofun named
      (history.trans (List.append_nil _).symm)
  cases moves with
  | reported => exact { recorded with }
  | asked kind phase =>
      refine quietly rfl rfl rfl rfl ?_
      rw [AgentTask.history, AgentTask.history, phase]
  | @questionLogged question phase =>
      refine recorded.change (some (.asking question)) member rfl rfl rfl ?_ rfl ?_
      · rintro happened ⟨⟩
        rfl
      · rw [AgentTask.history, AgentTask.history, phase]
        simp
  | posted phase =>
      refine quietly rfl rfl rfl rfl ?_
      rw [AgentTask.history, AgentTask.history, phase]
  | received phase =>
      refine quietly rfl rfl rfl rfl ?_
      rw [AgentTask.history, AgentTask.history, phase]
  | concluded phase =>
      refine quietly rfl rfl rfl rfl ?_
      rcases phase with works | ⟨answer, waits⟩
      · rw [AgentTask.history, AgentTask.history, works]
      · rw [AgentTask.history, AgentTask.history, waits]
  | completed phase =>
      refine quietly rfl rfl rfl rfl ?_
      rw [AgentTask.history, AgentTask.history, phase]
  | @resultLogged result phase =>
      refine recorded.change (some (.outcome result)) member rfl rfl rfl ?_ rfl ?_
      · rintro happened ⟨⟩
        cases result <;> rfl
      · rw [AgentTask.history, AgentTask.history, phase]
        by_cases kind : task.kind = .advanced
        · simp only [if_pos kind]
          rfl
        · simp only [if_neg kind]
          rfl
  | cleaned phase =>
      refine quietly rfl rfl rfl rfl ?_
      rw [AgentTask.history, AgentTask.history, phase]

/-- Step lemma. -/
theorem recorded_step {action : TaskStep} (known : Numbered runs state ∧ Recorded runs state)
    (fresh : Fresh state action) (steps : (tasking runs).step state action = some next) :
    Numbered runs next ∧ Recorded runs next := by
  rcases known with ⟨numbered, recorded⟩
  refine ⟨numbered.step fresh steps, ?_⟩
  rcases tasking_cases steps with ⟨run, step, changed, loop, rfl, moves, rfl⟩ |
    ⟨task, step, rfl, member, moves⟩
  · exact recorded.loopMoves numbered moves
  · exact recorded.agentMoves member moves

end

end Agent
end Rabb1tClaw
