import Rabb1tClaw.Agent.Lifecycle

namespace Rabb1tClaw
namespace Agent

open Foundations

/-!
# One device among others

All devices share the trackers, the list of questions and the counter of ids.
What belongs to a device is still what its own runs and tasks have made of it:
taking the steps of all other devices out of a run leaves a run of the loops
and tasks, and the device finds the same tasks, questions and log in it
(`device_alone`).  Only the ids tell that there were others: the counter would
have handed out smaller ones.  They are fresh all the same, as long as the
counter has not come around.

The one step that looks at other devices is the cleanup of an advanced task,
which removes questions by the id alone.  It is harmless because the ids are
distinct.
-/

/-- The device whose run or task makes a step. -/
def TaskStep.owner (runs : Nat → DispatchRun) : TaskStep → Text
  | .loop run _ => (runs run).devicePrefix
  | .agent address _ => address.devicePrefix

/-- The items of one device. -/
def BackgroundTracker.restrict {S : Type} (tracker : BackgroundTracker S) (devicePrefix : Text) :
    BackgroundTracker S :=
  ⟨fun other => if other = devicePrefix then tracker.items other else []⟩

/-- What belongs to a device, as if no other device had done anything. -/
def TaskSystem.restrict (state : TaskSystem) (runs : Nat → DispatchRun) (devicePrefix : Text) : TaskSystem where
  trackers := fun kind => (state.trackers kind).restrict devicePrefix
  questions := state.questions.filter fun question => question.devicePrefix = devicePrefix
  loops := fun run =>
    if (runs run).devicePrefix = devicePrefix then state.loops run else ⟨(runs run).markers, [], .ready⟩
  tasks := state.tasks.filter fun task => task.address.devicePrefix = devicePrefix
  calls := state.calls.filter fun call => call.task.devicePrefix = devicePrefix

section

variable {S : Type} {devicePrefix : Text}

/-! ## Trackers -/

theorem restrict_update_own (tracker : BackgroundTracker S) (devicePrefix : Text)
    (items : List (TrackedItem S)) :
    (⟨Function.update tracker.items devicePrefix items⟩ : BackgroundTracker S).restrict devicePrefix =
      ⟨Function.update (tracker.restrict devicePrefix).items devicePrefix items⟩ := by
  refine congrArg BackgroundTracker.mk (funext fun other => ?_)
  by_cases own : other = devicePrefix
  · subst own
    simp only [if_true, Function.update_self]
  · simp only [if_neg own, Function.update_of_ne own]
    exact (if_neg own).symm

theorem restrict_update_other (tracker : BackgroundTracker S) {other : Text} (differs : other ≠ devicePrefix)
    (items : List (TrackedItem S)) :
    (⟨Function.update tracker.items other items⟩ : BackgroundTracker S).restrict devicePrefix =
      tracker.restrict devicePrefix := by
  refine congrArg BackgroundTracker.mk (funext fun name => ?_)
  by_cases own : name = devicePrefix
  · rw [own, if_pos rfl, if_pos rfl]
    exact Function.update_of_ne (Ne.symm differs) ..
  · rw [if_neg own, if_neg own]

theorem restrict_items (tracker : BackgroundTracker S) (devicePrefix : Text) :
    (tracker.restrict devicePrefix).items devicePrefix = tracker.items devicePrefix :=
  if_pos rfl

theorem restrict_register [TaskStatus S] (tracker : BackgroundTracker S) (devicePrefix : Text) (id : UInt32)
    (description : Text) (maxConcurrent maxRetained : Nat) (now : UInt64) :
    (tracker.restrict devicePrefix).register devicePrefix id description maxConcurrent maxRetained now =
      (tracker.register devicePrefix id description maxConcurrent maxRetained now).map
        fun tracker => tracker.restrict devicePrefix := by
  unfold BackgroundTracker.register
  simp only [restrict_items]
  split
  · rfl
  · exact congrArg some (restrict_update_own ..).symm

theorem restrict_register_other [TaskStatus S] {tracker after : BackgroundTracker S} {other : Text}
    (differs : other ≠ devicePrefix) {id : UInt32} {description : Text} {maxConcurrent maxRetained : Nat}
    {now : UInt64}
    (registers : tracker.register other id description maxConcurrent maxRetained now = some after) :
    after.restrict devicePrefix = tracker.restrict devicePrefix := by
  unfold BackgroundTracker.register at registers
  simp only at registers
  split at registers
  · cases registers
  · rcases Option.some.inj registers with rfl
    exact restrict_update_other tracker differs _

theorem restrict_updateStatus (tracker : BackgroundTracker S) (devicePrefix : Text) (id : UInt32) (status : S) :
    (tracker.updateStatus devicePrefix id status).restrict devicePrefix =
      (tracker.restrict devicePrefix).updateStatus devicePrefix id status := by
  unfold BackgroundTracker.updateStatus
  rw [restrict_update_own, restrict_items]

theorem restrict_complete (tracker : BackgroundTracker S) (devicePrefix : Text) (id : UInt32) (status : S)
    (now : UInt64) :
    (tracker.complete devicePrefix id status now).restrict devicePrefix =
      (tracker.restrict devicePrefix).complete devicePrefix id status now := by
  unfold BackgroundTracker.complete
  rw [restrict_update_own, restrict_items]

/-! ## Questions -/

theorem takeQuestion_cons (question : OpenQuestion) (questions : List OpenQuestion)
    (addressee : PendingQuestion) :
    takeQuestion (question :: questions) addressee =
      if Matches addressee question then some (question, questions)
      else (takeQuestion questions addressee).map fun taken => (taken.1, question :: taken.2) := by
  unfold takeQuestion
  rw [List.findIdx?_cons]
  split
  · rename_i hit
    rw [if_pos (of_decide_eq_true hit)]
    rfl
  · rename_i miss
    rw [if_neg fun hit => miss (decide_eq_true hit)]
    cases List.findIdx? (fun question => decide (Matches addressee question)) questions with
    | none => rfl
    | some index =>
        simp only [Option.map_some, Option.bind_some, List.getElem?_cons_succ, List.eraseIdx_cons_succ,
          Option.map_map]
        rfl

/-- A question of a device is taken from those of the device. -/
theorem takeQuestion_filter (questions : List OpenQuestion) (devicePrefix : Text) (id : UInt32) :
    takeQuestion (questions.filter fun question => question.devicePrefix = devicePrefix) ⟨devicePrefix, id⟩ =
      (takeQuestion questions ⟨devicePrefix, id⟩).map fun taken =>
        (taken.1, taken.2.filter fun question => question.devicePrefix = devicePrefix) := by
  induction questions with
  | nil => rfl
  | cons question questions inductionHypothesis =>
      rw [takeQuestion_cons]
      by_cases own : question.devicePrefix = devicePrefix
      · simp only [List.filter_cons, own, decide_true, if_true]
        rw [takeQuestion_cons, inductionHypothesis]
        split
        · rfl
        · rw [Option.map_map, Option.map_map]
          refine congrArg (Option.map · _) (funext fun taken => ?_)
          simp only [Function.comp_apply, List.filter_cons, own, decide_true, if_true]
      · simp only [List.filter_cons, own, decide_false, Bool.false_eq_true, if_false]
        rw [inductionHypothesis, if_neg fun hit => own hit.1, Option.map_map]
        refine congrArg (Option.map · _) (funext fun taken => ?_)
        simp only [Function.comp_apply, List.filter_cons, own, decide_false, Bool.false_eq_true, if_false]

end

/-! ## The parts of the state -/

section

variable {runs : Nat → DispatchRun} {state next : TaskSystem} {run : Nat} {task : AgentTask}
  {devicePrefix : Text}

theorem restrict_loops (state : TaskSystem) (own : (runs run).devicePrefix = devicePrefix) :
    (state.restrict runs devicePrefix).loops run = state.loops run :=
  if_pos own

theorem restrict_setLoop (state : TaskSystem) (own : (runs run).devicePrefix = devicePrefix)
    (loop : MarkerLoop) :
    (state.setLoop run loop).restrict runs devicePrefix =
      (state.restrict runs devicePrefix).setLoop run loop := by
  have loops : (fun other => if (runs other).devicePrefix = devicePrefix then
        Function.update state.loops run loop other else ⟨(runs other).markers, [], .ready⟩) =
      Function.update (state.restrict runs devicePrefix).loops run loop := by
    funext other
    by_cases same : other = run
    · subst same
      rw [if_pos own, Function.update_self, Function.update_self]
    · rw [Function.update_of_ne same, Function.update_of_ne same]
      rfl
  exact congrArg (fun loops => TaskSystem.mk _ _ loops _ _) loops

theorem restrict_setLoop_other (state : TaskSystem) (differs : (runs run).devicePrefix ≠ devicePrefix)
    (loop : MarkerLoop) :
    (state.setLoop run loop).restrict runs devicePrefix = state.restrict runs devicePrefix := by
  have loops : (fun other => if (runs other).devicePrefix = devicePrefix then
        Function.update state.loops run loop other else ⟨(runs other).markers, [], .ready⟩) =
      (state.restrict runs devicePrefix).loops := by
    funext other
    by_cases same : other = run
    · subst same
      exact (if_neg differs).trans (if_neg differs).symm
    · rw [Function.update_of_ne same]
      rfl
  exact congrArg (fun loops => TaskSystem.mk _ _ loops _ _) loops

theorem restrict_setTracker (state : TaskSystem) (kind : TaskKind) (tracker : BackgroundTracker kind.Status) :
    (state.setTracker kind tracker).restrict runs devicePrefix =
      (state.restrict runs devicePrefix).setTracker kind (tracker.restrict devicePrefix) := by
  have trackers : (fun other => (Function.update state.trackers kind tracker other).restrict devicePrefix) =
      Function.update (state.restrict runs devicePrefix).trackers kind (tracker.restrict devicePrefix) := by
    funext other
    by_cases same : other = kind
    · subst same
      rw [Function.update_self, Function.update_self]
    · rw [Function.update_of_ne same, Function.update_of_ne same]
      rfl
  exact congrArg (fun trackers => TaskSystem.mk trackers _ _ _ _) trackers

/-- A tracker with the same items of the device. -/
theorem restrict_setTracker_other (state : TaskSystem) {kind : TaskKind}
    {tracker : BackgroundTracker kind.Status}
    (same : tracker.restrict devicePrefix = (state.trackers kind).restrict devicePrefix) :
    (state.setTracker kind tracker).restrict runs devicePrefix = state.restrict runs devicePrefix := by
  rw [restrict_setTracker, same]
  exact congrArg (fun trackers => TaskSystem.mk trackers _ _ _ _) (Function.update_eq_self ..)

theorem restrict_setQuestions (state : TaskSystem) (questions : List OpenQuestion) :
    (state.setQuestions questions).restrict runs devicePrefix =
      (state.restrict runs devicePrefix).setQuestions
        (questions.filter fun question => question.devicePrefix = devicePrefix) :=
  rfl

theorem restrict_add (state : TaskSystem) (own : task.address.devicePrefix = devicePrefix) :
    (state.add task).restrict runs devicePrefix = (state.restrict runs devicePrefix).add task := by
  have tasks : (state.tasks ++ [task]).filter (fun task => task.address.devicePrefix = devicePrefix) =
      (state.restrict runs devicePrefix).tasks ++ [task] := by
    rw [List.filter_append]
    simp only [List.filter_cons, own, decide_true, if_true, List.filter_nil]
    rfl
  exact congrArg (fun tasks => TaskSystem.mk _ _ _ tasks _) tasks

theorem restrict_add_other (state : TaskSystem) (differs : task.address.devicePrefix ≠ devicePrefix) :
    (state.add task).restrict runs devicePrefix = state.restrict runs devicePrefix := by
  have tasks : (state.tasks ++ [task]).filter (fun task => task.address.devicePrefix = devicePrefix) =
      (state.restrict runs devicePrefix).tasks := by
    rw [List.filter_append]
    simp only [List.filter_cons, differs, decide_false, Bool.false_eq_true, if_false, List.filter_nil,
      List.append_nil]
    rfl
  exact congrArg (fun tasks => TaskSystem.mk _ _ _ tasks _) tasks

theorem restrict_append (state : TaskSystem) {address : PendingQuestion} (event : TaskEvent)
    (own : address.devicePrefix = devicePrefix) :
    (state.append address event).restrict runs devicePrefix =
      (state.restrict runs devicePrefix).append address event := by
  have calls : (state.calls ++ [(⟨address, event⟩ : LogCall)]).filter (fun call => call.task.devicePrefix = devicePrefix) =
      (state.restrict runs devicePrefix).calls ++ [⟨address, event⟩] := by
    rw [List.filter_append]
    simp only [List.filter_cons, own, decide_true, if_true, List.filter_nil]
    rfl
  exact congrArg (fun calls => TaskSystem.mk _ _ _ _ calls) calls

theorem restrict_append_other (state : TaskSystem) {address : PendingQuestion} (event : TaskEvent)
    (differs : address.devicePrefix ≠ devicePrefix) :
    (state.append address event).restrict runs devicePrefix = state.restrict runs devicePrefix := by
  have calls : (state.calls ++ [(⟨address, event⟩ : LogCall)]).filter (fun call => call.task.devicePrefix = devicePrefix) =
      (state.restrict runs devicePrefix).calls := by
    rw [List.filter_append]
    simp only [List.filter_cons, differs, decide_false, Bool.false_eq_true, if_false, List.filter_nil,
      List.append_nil]
    rfl
  exact congrArg (fun calls => TaskSystem.mk _ _ _ _ calls) calls

theorem restrict_set (state : TaskSystem) (changed : AgentTask) :
    (state.set changed).restrict runs devicePrefix = (state.restrict runs devicePrefix).set changed := by
  have tasks : (setTask changed state.tasks).filter (fun task => task.address.devicePrefix = devicePrefix) =
      setTask changed (state.restrict runs devicePrefix).tasks := by
    rw [setTask, List.filter_map]
    refine congrArg _ (List.filter_congr fun task _ => ?_)
    rw [Function.comp_apply]
    split
    · rename_i same
      rw [same]
    · rfl
  exact congrArg (fun tasks => TaskSystem.mk _ _ _ tasks _) tasks

theorem restrict_set_other (state : TaskSystem) {changed : AgentTask}
    (differs : changed.address.devicePrefix ≠ devicePrefix) :
    (state.set changed).restrict runs devicePrefix = state.restrict runs devicePrefix := by
  have tasks : setTask changed (state.restrict runs devicePrefix).tasks =
      (state.restrict runs devicePrefix).tasks.map id := by
    refine List.map_congr_left fun task member => if_neg fun same => ?_
    have own := of_decide_eq_true (List.mem_filter.mp member).2
    exact differs ((congrArg PendingQuestion.devicePrefix same).symm.trans own)
  rw [restrict_set]
  exact congrArg (fun tasks => TaskSystem.mk _ _ _ tasks _) (tasks.trans (List.map_id _))

theorem restrict_find (state : TaskSystem) {address : PendingQuestion}
    (own : address.devicePrefix = devicePrefix) :
    (state.restrict runs devicePrefix).find address = state.find address := by
  rw [TaskSystem.find, TaskSystem.restrict, List.find?_filter]
  refine congrArg (List.find? · state.tasks) (funext fun task => ?_)
  by_cases same : task.address = address
  · simp [same, own]
  · simp [same]

theorem restrict_deliver (state : TaskSystem) {question : OpenQuestion}
    (own : question.devicePrefix = devicePrefix) (answer : Text) :
    (state.deliver question answer).restrict runs devicePrefix =
      (state.restrict runs devicePrefix).deliver question answer := by
  unfold TaskSystem.deliver
  rw [restrict_find state own]
  split
  · split
    · split
      · exact restrict_set ..
      · rfl
    · rfl
  · rfl

theorem restrict_deliver_other (state : TaskSystem) {question : OpenQuestion}
    (differs : question.devicePrefix ≠ devicePrefix) (answer : Text) :
    (state.deliver question answer).restrict runs devicePrefix = state.restrict runs devicePrefix := by
  unfold TaskSystem.deliver
  split
  · rename_i task found
    have named := (find_spec found).2
    split
    · split
      · apply restrict_set_other
        rw [named]
        exact differs
      · rfl
    · rfl
  · rfl

/-! ## Own steps -/

/-- The device's runs need nothing but what belongs to the device. -/
theorem restrict_loopStep (recorded : Recorded runs state) (own : (runs run).devicePrefix = devicePrefix)
    (step : LoopStep) :
    (state.restrict runs devicePrefix).loopStep runs run step =
      (state.loopStep runs run step).map fun next => next.restrict runs devicePrefix := by
  have loop := restrict_loops state own
  subst own
  cases step with
  | skip =>
      simp only [TaskSystem.loopStep, loop]
      split
      · split
        · exact congrArg some (restrict_setLoop state rfl _).symm
        · split
          · exact congrArg some (restrict_setLoop state rfl _).symm
          · rfl
      · rfl
  | nextId id =>
      simp only [TaskSystem.loopStep, loop]
      split
      · split
        · rfl
        · rw [Option.map_map]
          refine congrArg (Option.map · _) (funext fun kind => ?_)
          exact (restrict_setLoop state rfl _).symm
      · rfl
  | register now =>
      simp only [TaskSystem.loopStep, loop]
      split
      · rename_i id kind desc phase
        have registers : ((state.restrict runs (runs run).devicePrefix).trackers kind).register
            (runs run).devicePrefix id desc (kind.maxConcurrent (runs run).limits) (runs run).limits.taskLogMax now = _ :=
          restrict_register (state.trackers kind) ..
        rw [registers]
        cases (state.trackers kind).register (runs run).devicePrefix id desc
            (kind.maxConcurrent (runs run).limits) (runs run).limits.taskLogMax now with
        | none => exact congrArg some (restrict_setLoop state rfl _).symm
        | some tracker =>
            refine congrArg some ?_
            dsimp only
            rw [restrict_setLoop _ rfl, restrict_add _ rfl, restrict_setTracker]
      · rfl
  | logDispatch =>
      simp only [TaskSystem.loopStep, loop]
      split
      · rw [Option.map_some, restrict_setLoop _ rfl, restrict_set, restrict_append _ _ rfl]
      · rfl
  | take =>
      simp only [TaskSystem.loopStep, loop]
      split
      · rename_i id answer rest _ _
        have takes : takeQuestion (state.restrict runs (runs run).devicePrefix).questions
            ⟨(runs run).devicePrefix, id⟩ = _ := takeQuestion_filter state.questions ..
        rw [takes]
        cases takeQuestion state.questions ⟨(runs run).devicePrefix, id⟩ with
        | none => exact congrArg some (restrict_setLoop state rfl _).symm
        | some taken =>
            refine congrArg some ?_
            dsimp only
            rw [restrict_setLoop _ rfl, restrict_setQuestions]
      · rfl
  | send =>
      simp only [TaskSystem.loopStep, loop]
      split
      · rename_i question answer phase
        have device := (recorded.held run question answer phase).1
        rw [Option.map_some, restrict_setLoop _ rfl, restrict_deliver _ device]
      · rfl
  | logAnswer =>
      simp only [TaskSystem.loopStep, loop]
      split
      · rw [Option.map_some, restrict_setLoop _ rfl, restrict_append _ _ rfl]
      · rfl

/-- The device's tasks need nothing but what belongs to the device. -/
theorem restrict_agentStep (state : TaskSystem) (own : task.address.devicePrefix = devicePrefix)
    (step : AgentStep) :
    (state.restrict runs devicePrefix).agentStep task step =
      (state.agentStep task step).map fun next => next.restrict runs devicePrefix := by
  subst own
  cases step with
  | report number detail =>
      simp only [TaskSystem.agentStep]
      split
      · rw [Option.map_some, restrict_setTracker, restrict_updateStatus]
        rfl
      · rfl
  | ask question =>
      simp only [TaskSystem.agentStep]
      split
      · rw [Option.map_some, restrict_set, restrict_setTracker, restrict_updateStatus]
        rfl
      · rfl
  | logQuestion =>
      simp only [TaskSystem.agentStep]
      split
      · rw [Option.map_some, restrict_set, restrict_append _ _ rfl]
      · rfl
  | post =>
      simp only [TaskSystem.agentStep]
      split
      · rw [Option.map_some, restrict_set, restrict_setQuestions, List.filter_append]
        simp only [List.filter_cons, decide_true, if_true, List.filter_nil]
        rfl
      · rfl
  | receive =>
      simp only [TaskSystem.agentStep]
      split
      · rw [Option.map_some, restrict_set]
      · rfl
  | conclude result =>
      simp only [TaskSystem.agentStep]
      split
      · rw [Option.map_some, restrict_set]
      · rw [Option.map_some, restrict_set]
      · rfl
  | complete now =>
      simp only [TaskSystem.agentStep]
      split
      · rw [Option.map_some, restrict_set, restrict_setTracker, restrict_complete]
        rfl
      · rfl
  | logResult =>
      simp only [TaskSystem.agentStep]
      split
      · rw [Option.map_some, restrict_set, restrict_append _ _ rfl]
      · rfl
  | cleanup =>
      simp only [TaskSystem.agentStep]
      split
      · rw [Option.map_some, restrict_set, restrict_setQuestions, List.filter_comm]
        rfl
      · rfl

/-! ## Steps of others -/

/-- The runs of other devices leave alone what belongs to the device. -/
theorem restrict_loopMoves (recorded : Recorded runs state) (differs : (runs run).devicePrefix ≠ devicePrefix)
    {step : LoopStep} {changed : TaskSystem} {loop : MarkerLoop}
    (moves : LoopMoves (runs run) state (state.loops run) step changed loop) :
    (changed.setLoop run loop).restrict runs devicePrefix = state.restrict runs devicePrefix := by
  rw [restrict_setLoop_other changed differs]
  cases moves with
  | skipped => rfl
  | counted => rfl
  | registered phase registers =>
      rw [restrict_add_other]
      · exact restrict_setTracker_other state (restrict_register_other differs registers)
      · exact differs
  | refused => rfl
  | dispatched phase =>
      rw [restrict_set_other]
      · exact restrict_append_other state _ differs
      · exact differs
  | @taken id answer question others rest ready marker takes =>
      rcases takeQuestion_eq_some takes with ⟨⟨device, _⟩, front, back, before, after⟩
      have foreign : ¬ (question.devicePrefix = devicePrefix) := by
        rw [device]
        exact differs
      have kept : others.filter (fun question => question.devicePrefix = devicePrefix) =
          state.questions.filter fun question => question.devicePrefix = devicePrefix := by
        rw [before, after, List.filter_append, List.filter_append]
        simp only [List.filter_cons, foreign, decide_false, Bool.false_eq_true, if_false]
      exact congrArg (fun questions => TaskSystem.mk _ questions _ _ _) kept
  | missed => rfl
  | @sent question answer phase =>
      apply restrict_deliver_other
      rw [(recorded.held run question answer phase).1]
      exact differs
  | answered phase => exact restrict_append_other state _ differs

/-- The tasks of other devices do so as well.  A cleanup removes questions by
their id, which is not the id of a task of the device. -/
theorem restrict_agentMoves (numbered : Numbered runs state) (member : task ∈ state.tasks)
    (differs : task.address.devicePrefix ≠ devicePrefix) {step : AgentStep}
    (moves : AgentMoves state task step next) :
    next.restrict runs devicePrefix = state.restrict runs devicePrefix := by
  cases moves with
  | reported =>
      exact restrict_setTracker_other state (restrict_update_other _ differs _)
  | asked =>
      refine (restrict_set_other _ ?_).trans ?_
      · exact differs
      · exact restrict_setTracker_other state (restrict_update_other _ differs _)
  | questionLogged =>
      refine (restrict_set_other _ ?_).trans ?_
      · exact differs
      · exact restrict_append_other state _ differs
  | posted =>
      have kept : (state.questions ++ [(⟨task.address, task.channel⟩ : OpenQuestion)]).filter
          (fun question => question.devicePrefix = devicePrefix) =
            state.questions.filter fun question => question.devicePrefix = devicePrefix := by
        rw [List.filter_append]
        simp only [List.filter_cons, differs, decide_false, Bool.false_eq_true, if_false, List.filter_nil,
          List.append_nil]
      refine (restrict_set_other _ ?_).trans ?_
      · exact differs
      · exact congrArg (fun questions => TaskSystem.mk _ questions _ _ _) kept
  | received =>
      apply restrict_set_other
      exact differs
  | concluded =>
      apply restrict_set_other
      exact differs
  | completed =>
      refine (restrict_set_other _ ?_).trans ?_
      · exact differs
      · exact restrict_setTracker_other state (restrict_update_other _ differs _)
  | resultLogged =>
      refine (restrict_set_other _ ?_).trans ?_
      · exact differs
      · exact restrict_append_other state _ differs
  | cleaned =>
      have kept : (state.questions.filter fun question => question.taskId ≠ task.address.taskId).filter
          (fun question => question.devicePrefix = devicePrefix) =
            state.questions.filter fun question => question.devicePrefix = devicePrefix := by
        rw [List.filter_filter]
        refine List.filter_congr fun question pending => ?_
        rw [Bool.and_eq_left_iff_imp]
        intro own
        apply decide_eq_true
        intro same
        rcases numbered.questioned question pending with ⟨asker, known, named⟩
        have identical := numbered.same known member ((congrArg PendingQuestion.taskId named).trans same)
        rw [identical] at named
        exact differs ((congrArg PendingQuestion.devicePrefix named).trans (of_decide_eq_true own))
      refine (restrict_set_other _ ?_).trans ?_
      · exact differs
      · exact congrArg (fun questions => TaskSystem.mk _ questions _ _ _) kept

theorem restrict_start (runs : Nat → DispatchRun) (devicePrefix : Text) :
    (TaskSystem.start runs).restrict runs devicePrefix = .start runs := by
  have items : (fun kind : TaskKind => (⟨fun _ => []⟩ : BackgroundTracker kind.Status).restrict devicePrefix) =
      fun _ => ⟨fun _ => []⟩ := by
    funext kind
    exact congrArg BackgroundTracker.mk (funext fun other => ite_self _)
  have loops : (fun run => if (runs run).devicePrefix = devicePrefix then
        (⟨(runs run).markers, [], .ready⟩ : MarkerLoop) else ⟨(runs run).markers, [], .ready⟩) =
      fun run => ⟨(runs run).markers, [], .ready⟩ := funext fun run => ite_self _
  exact congr (congrArg (fun trackers loops => TaskSystem.mk trackers [] loops [] []) items) loops

/-- At the end of a run a device has what its own runs and tasks alone lead
to when they are handed the ids that they got, whatever the other devices do
in between. -/
theorem device_alone {final : TaskGateway} {schedule : List TaskStep}
    (runs' : (taskGateway runs).run (.start runs) schedule = some final)
    (few : (idsHandedOut schedule).length ≤ UInt32.size) (devicePrefix : Text) :
    (tasking runs).run (.start runs)
        (schedule.filter fun action => action.owner runs = devicePrefix) =
      some (final.system.restrict runs devicePrefix) ∧
      (tasking runs).Guarded Fresh (.start runs)
        (schedule.filter fun action => action.owner runs = devicePrefix) := by
  rcases tasking_of_taskGateway runs' few with ⟨run, guarded⟩
  have known : (tasking runs).Guarded (fun state _ => Numbered runs state ∧ Recorded runs state)
      (.start runs) schedule :=
    Machine.guarded_of_invariant (fun _ _ _ => recorded_step) (fun _ _ known _ => known)
      ⟨numbered_start runs, recorded_start runs⟩ guarded
  have determined : ∀ state action next, decide (action.owner runs = devicePrefix) = true →
      (Numbered runs state ∧ Recorded runs state) → (tasking runs).step state action = some next →
        (tasking runs).step (state.restrict runs devicePrefix) action =
          some (next.restrict runs devicePrefix) := by
    rintro state action next own ⟨_, recorded⟩ steps
    have mine := of_decide_eq_true own
    cases action with
    | loop run step => exact (restrict_loopStep recorded mine step).trans (congrArg (Option.map _) steps)
    | agent address step =>
        rcases Option.bind_eq_some_iff.mp steps with ⟨task, found, moves⟩
        have named := (find_spec found).2
        have device : task.address.devicePrefix = devicePrefix := by
          rw [named]
          exact mine
        refine (congrArg (Option.bind · _) ((restrict_find state mine).trans found)).trans ?_
        exact (restrict_agentStep state device step).trans (congrArg (Option.map _) moves)
  have undisturbed : ∀ state action next, decide (action.owner runs = devicePrefix) = false →
      (Numbered runs state ∧ Recorded runs state) → (tasking runs).step state action = some next →
        next.restrict runs devicePrefix = state.restrict runs devicePrefix := by
    rintro state action next foreign ⟨numbered, recorded⟩ steps
    have differs := of_decide_eq_false foreign
    rcases tasking_cases steps with ⟨run, step, changed, loop, rfl, moves, rfl⟩ |
      ⟨task, step, rfl, member, moves⟩
    · exact restrict_loopMoves recorded differs moves
    · exact restrict_agentMoves numbered member differs moves
  have alone := Machine.run_own determined undisturbed known run
  rw [restrict_start] at alone
  have distinct : (idsHandedOut (schedule.filter fun action => action.owner runs = devicePrefix)).Nodup :=
    ((ids_distinct_iff runs').mpr few).sublist (List.filter_sublist.filterMap _)
  exact ⟨alone, fresh_of_nodup alone distinct⟩

end

/-- The second device alone: it does not see the id that it gets. -/
theorem device_alone_sample :
    (tasking twoDevices).run (.start twoDevices)
        [.loop 1 (.nextId 2), .loop 1 (.register 7), .loop 1 .logDispatch] =
      some (twoDevicesFinal.system.restrict twoDevices "bob".toList) :=
  (device_alone twoDevices_runs (by decide) "bob".toList).1

end Agent
end Rabb1tClaw
