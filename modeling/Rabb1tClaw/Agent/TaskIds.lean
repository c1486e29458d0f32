import Rabb1tClaw.Agent.TaskSystem

namespace Rabb1tClaw
namespace Agent

open Foundations

/-!
# The ids of tasks

The counter of ids has 32 bits.  It hands out an id for every dispatch marker
of a known type, whether or not the tracker has room.  As long as it has not
come around, no two tasks have the same id, of whatever device and kind.
Removing questions by the id alone, as the advanced agent does, then removes
the questions of one task only (`Numbered`).
-/

/-- No task has the id that a step takes from the counter, and no loop is
dispatching one with it. -/
def Fresh (state : TaskSystem) (action : TaskStep) : Prop :=
  ∀ id, action.handedOut = some id →
    (∀ task ∈ state.tasks, task.address.taskId ≠ id) ∧ ∀ run, (state.loops run).claimed ≠ some id

/-- Ids name tasks, and each is known from its dispatch on. -/
structure Numbered (runs : Nat → DispatchRun) (state : TaskSystem) : Prop where
  distinct : (state.tasks.map fun task => task.address.taskId).Nodup
  counted : ∀ run id kind desc, (state.loops run).phase = .counted id kind desc →
    ∀ task ∈ state.tasks, task.address.taskId ≠ id
  registered : ∀ run id kind desc, (state.loops run).phase = .registered id kind desc →
    (⟨⟨(runs run).devicePrefix, id⟩, kind, desc, [], .registered⟩ : AgentTask) ∈ state.tasks
  exclusive : ∀ run run' id, (state.loops run).claimed = some id → (state.loops run').claimed = some id →
    run = run'
  questioned : ∀ question ∈ state.questions, ∃ task ∈ state.tasks,
    task.address = question.toPendingQuestion

section

variable {runs : Nat → DispatchRun} {state next : TaskSystem} {run : Nat} {task other : AgentTask}

theorem numbered_start (runs : Nat → DispatchRun) : Numbered runs (.start runs) where
  distinct := List.nodup_nil
  counted := by rintro run id kind desc ⟨⟩
  registered := by rintro run id kind desc ⟨⟩
  exclusive := by rintro run run' id ⟨⟩
  questioned := by rintro question ⟨⟩

/-- An id names one task. -/
theorem Numbered.same (numbered : Numbered runs state) (member : task ∈ state.tasks)
    (member' : other ∈ state.tasks) (ids : task.address.taskId = other.address.taskId) : task = other :=
  List.inj_on_of_nodup_map numbered.distinct member member' ids

theorem claimed_of_counted {loop : MarkerLoop} {id : UInt32} {kind : TaskKind} {desc : Text}
    (phase : loop.phase = .counted id kind desc) : loop.claimed = some id := by
  rw [MarkerLoop.claimed, phase]

theorem claimed_of_registered {loop : MarkerLoop} {id : UInt32} {kind : TaskKind} {desc : Text}
    (phase : loop.phase = .registered id kind desc) : loop.claimed = some id := by
  rw [MarkerLoop.claimed, phase]

/-- Trackers and log calls do not matter. -/
theorem Numbered.of_parts (numbered : Numbered runs state) (tasks : next.tasks = state.tasks)
    (loops : next.loops = state.loops) (questions : next.questions = state.questions) :
    Numbered runs next where
  distinct := tasks ▸ numbered.distinct
  counted := tasks ▸ loops ▸ numbered.counted
  registered := tasks ▸ loops ▸ numbered.registered
  exclusive := loops ▸ numbered.exclusive
  questioned := tasks ▸ questions ▸ numbered.questioned

theorem loops_setLoop (state : TaskSystem) (run : Nat) (loop : MarkerLoop) (other : Nat) :
    (other = run ∧ (state.setLoop run loop).loops other = loop) ∨
      (other ≠ run ∧ (state.setLoop run loop).loops other = state.loops other) := by
  by_cases own : other = run
  · subst own
    exact .inl ⟨rfl, Function.update_self _ _ _⟩
  · exact .inr ⟨own, Function.update_of_ne own _ _⟩

/-- A loop may claim an id that no other loop claims. -/
theorem Numbered.setLoop (numbered : Numbered runs state) {loop : MarkerLoop}
    (counted : ∀ id kind desc, loop.phase = .counted id kind desc →
      ∀ task ∈ state.tasks, task.address.taskId ≠ id)
    (registered : ∀ id kind desc, loop.phase = .registered id kind desc →
      (⟨⟨(runs run).devicePrefix, id⟩, kind, desc, [], .registered⟩ : AgentTask) ∈ state.tasks)
    (exclusive : ∀ id, loop.claimed = some id → ∀ other, other ≠ run →
      (state.loops other).claimed ≠ some id) :
    Numbered runs (state.setLoop run loop) := by
  refine { numbered with counted := ?_, registered := ?_, exclusive := ?_ }
  · intro other id kind desc phase
    rcases loops_setLoop state run loop other with ⟨rfl, here⟩ | ⟨_, there⟩
    · exact counted id kind desc (here ▸ phase)
    · exact numbered.counted other id kind desc (there ▸ phase)
  · intro other id kind desc phase
    rcases loops_setLoop state run loop other with ⟨rfl, here⟩ | ⟨_, there⟩
    · exact registered id kind desc (here ▸ phase)
    · exact numbered.registered other id kind desc (there ▸ phase)
  · intro first second id claims claims'
    rcases loops_setLoop state run loop first with ⟨own, here⟩ | ⟨differs, there⟩ <;>
      rcases loops_setLoop state run loop second with ⟨own', here'⟩ | ⟨differs', there'⟩
    · exact own.trans own'.symm
    · exact absurd (there' ▸ claims') (exclusive id (here ▸ claims) second differs')
    · exact absurd (there ▸ claims) (exclusive id (here' ▸ claims') first differs)
    · exact numbered.exclusive first second id (there ▸ claims) (there' ▸ claims')

/-- A loop may give up what it claims. -/
theorem Numbered.release (numbered : Numbered runs state) {loop : MarkerLoop}
    (free : loop.claimed = none) : Numbered runs (state.setLoop run loop) := by
  apply numbered.setLoop
  · intro id kind desc phase
    cases free.symm.trans (claimed_of_counted phase)
  · intro id kind desc phase
    cases free.symm.trans (claimed_of_registered phase)
  · intro id claims
    cases free.symm.trans claims

/-- A task is registered with an id that no loop claims. -/
theorem Numbered.add (numbered : Numbered runs state)
    (new : ∀ other ∈ state.tasks, other.address.taskId ≠ task.address.taskId)
    (unclaimed : ∀ run, (state.loops run).claimed ≠ some task.address.taskId) :
    Numbered runs (state.add task) where
  distinct := by
    have absent : task.address.taskId ∉ state.tasks.map fun task => task.address.taskId := by
      intro present
      rcases List.mem_map.mp present with ⟨other, member, same⟩
      exact new other member same
    rw [TaskSystem.add, List.map_append]
    exact numbered.distinct.append (List.nodup_singleton _) (by simpa using absent)
  counted := by
    intro run id kind desc phase other member
    rcases List.mem_append.mp member with earlier | last
    · exact numbered.counted run id kind desc phase other earlier
    · rcases List.mem_singleton.mp last with rfl
      intro same
      exact unclaimed run (same ▸ claimed_of_counted phase)
  registered := fun run id kind desc phase =>
    List.mem_append_left _ (numbered.registered run id kind desc phase)
  exclusive := numbered.exclusive
  questioned := by
    intro question member
    rcases numbered.questioned question member with ⟨asker, known, named⟩
    exact ⟨asker, List.mem_append_left _ known, named⟩

/-- A task changes, but not one that its loop still has to log. -/
theorem Numbered.set (numbered : Numbered runs state) (member : task ∈ state.tasks)
    (named : other.address = task.address)
    (spared : ∀ run id kind desc, (state.loops run).phase = .registered id kind desc →
      id ≠ task.address.taskId) :
    Numbered runs (state.set other) where
  distinct := by
    have ids := congrArg (List.map PendingQuestion.taskId) (map_address_setTask other state.tasks)
    rw [List.map_map, List.map_map] at ids
    exact ids ▸ numbered.distinct
  counted := by
    intro run id kind desc phase changed here
    rcases mem_setTask here with rfl | ⟨before, _⟩
    · rw [named]
      exact numbered.counted run id kind desc phase task member
    · exact numbered.counted run id kind desc phase changed before
  registered := by
    intro run id kind desc phase
    refine mem_setTask_of_ne (numbered.registered run id kind desc phase) fun same => ?_
    rw [named] at same
    exact spared run id kind desc phase (congrArg PendingQuestion.taskId same)
  exclusive := numbered.exclusive
  questioned := by
    intro question pending
    rcases numbered.questioned question pending with ⟨asker, known, here⟩
    by_cases changes : asker.address = other.address
    · exact ⟨other, mem_setTask_self known changes, changes.symm.trans here⟩
    · exact ⟨asker, mem_setTask_of_ne known changes, here⟩

/-- A task that is spawned is not one that its loop still has to log. -/
theorem Numbered.spawned (numbered : Numbered runs state) (member : task ∈ state.tasks)
    (phase : task.phase ≠ .registered) : ∀ run id kind desc,
      (state.loops run).phase = .registered id kind desc → id ≠ task.address.taskId := by
  rintro run id kind desc registered rfl
  have same := numbered.same member (numbered.registered run _ kind desc registered) rfl
  exact phase (congrArg AgentTask.phase same)

/-- A loop registers the task for which it took an id. -/
theorem Numbered.register (numbered : Numbered runs state) {id : UInt32} {kind : TaskKind} {desc : Text}
    (phase : (state.loops run).phase = .counted id kind desc) :
    Numbered runs ((state.add ⟨⟨(runs run).devicePrefix, id⟩, kind, desc, [], .registered⟩).setLoop run
      { state.loops run with phase := .registered id kind desc }) := by
  have others : ∀ other, other ≠ run → (state.loops other).claimed ≠ some id := by
    intro other differs claims
    exact differs (numbered.exclusive other run id claims (claimed_of_counted phase))
  -- the loop lets go of the id, the task takes it, and the loop takes it back
  have released : Numbered runs (state.setLoop run { state.loops run with phase := .ready }) :=
    numbered.release rfl
  have unclaimed : ∀ other,
      ((state.setLoop run { state.loops run with phase := .ready }).loops other).claimed ≠ some id := by
    intro other claims
    rcases loops_setLoop state run { state.loops run with phase := .ready } other with
      ⟨_, here⟩ | ⟨differs, there⟩
    · cases here ▸ claims
    · exact others other differs (there ▸ claims)
  have added : Numbered runs ((state.setLoop run { state.loops run with phase := .ready }).add
      ⟨⟨(runs run).devicePrefix, id⟩, kind, desc, [], .registered⟩) :=
    released.add (numbered.counted run id kind desc phase) unclaimed
  have registered : Numbered runs (((state.setLoop run { state.loops run with phase := .ready }).add
      ⟨⟨(runs run).devicePrefix, id⟩, kind, desc, [], .registered⟩).setLoop run
        { state.loops run with phase := .registered id kind desc }) := by
    apply added.setLoop
    · rintro id' kind' desc' ⟨⟩
    · rintro id' kind' desc' ⟨⟩
      exact List.mem_append_right _ (List.mem_singleton.mpr rfl)
    · rintro id' ⟨⟩ other _
      exact unclaimed other
  exact registered.of_parts rfl (Function.update_idem ..).symm rfl

/-- A loop logs the dispatch of its task, which is then on its own. -/
theorem Numbered.spawn (numbered : Numbered runs state) {id : UInt32} {kind : TaskKind} {desc : Text}
    (phase : (state.loops run).phase = .registered id kind desc) :
    Numbered runs ((state.set ⟨⟨(runs run).devicePrefix, id⟩, kind, desc, [], .working⟩).setLoop run
      { state.loops run with phase := .ready }) := by
  have released : Numbered runs (state.setLoop run { state.loops run with phase := .ready }) :=
    numbered.release rfl
  have changed : Numbered runs ((state.setLoop run { state.loops run with phase := .ready }).set
      ⟨⟨(runs run).devicePrefix, id⟩, kind, desc, [], .working⟩) := by
    refine released.set (numbered.registered run id kind desc phase) rfl ?_
    rintro other id' kind' desc' registered rfl
    rcases loops_setLoop state run { state.loops run with phase := .ready } other with
      ⟨_, here⟩ | ⟨differs, there⟩
    · cases here ▸ registered
    · exact differs (numbered.exclusive other run _ (claimed_of_registered (there ▸ registered))
        (claimed_of_registered phase))
  exact changed

theorem Numbered.setQuestions (numbered : Numbered runs state) {questions : List OpenQuestion}
    (fewer : ∀ question ∈ questions, question ∈ state.questions) :
    Numbered runs (state.setQuestions questions) :=
  { numbered with questioned := fun question member => numbered.questioned question (fewer question member) }

/-- Step lemma: the loops. -/
theorem Numbered.loopMoves (numbered : Numbered runs state) {step : LoopStep} {changed : TaskSystem}
    {loop : MarkerLoop} (moves : LoopMoves (runs run) state (state.loops run) step changed loop)
    (fresh : Fresh state (.loop run step)) : Numbered runs (changed.setLoop run loop) := by
  cases moves with
  | skipped => exact numbered.release rfl
  | @counted id kind desc rest seen ready =>
      rcases fresh id rfl with ⟨new, unclaimed⟩
      apply numbered.setLoop
      · rintro id' kind' desc' ⟨⟩
        exact new
      · rintro id' kind' desc' ⟨⟩
      · rintro id' ⟨⟩ other _
        exact unclaimed other
  | @registered id kind desc now tracker phase registers =>
      have registered := numbered.register phase
      exact registered.of_parts rfl rfl rfl
  | refused => exact numbered.release rfl
  | @dispatched id kind desc phase =>
      have spawned := numbered.spawn phase
      exact spawned.of_parts rfl rfl rfl
  | taken ready marker takes =>
      rcases takeQuestion_eq_some takes with ⟨_, front, back, before, after⟩
      refine Numbered.release (numbered.setQuestions fun question member => ?_) rfl
      rw [before]
      rw [after] at member
      exact (List.mem_append.mp member).elim (List.mem_append_left _)
        fun later => List.mem_append_right _ (List.mem_cons_of_mem _ later)
  | missed => exact numbered.release rfl
  | @sent question answer phase =>
      apply Numbered.release _ rfl
      rcases deliver_cases state question answer with same | ⟨task, member, ⟨prior, waits⟩, same⟩
      · rw [same]
        exact numbered
      · rw [same]
        exact numbered.set member rfl (numbered.spawned member (by rw [waits]; exact nofun))
  | answered =>
      refine Numbered.release ?_ rfl
      exact numbered.of_parts rfl rfl rfl

/-- Step lemma: the tasks. -/
theorem Numbered.agentMoves (numbered : Numbered runs state) (member : task ∈ state.tasks)
    {step : AgentStep} (moves : AgentMoves state task step next) : Numbered runs next := by
  have changes {before : TaskSystem} {changed : AgentTask} (tasks : before.tasks = state.tasks)
      (loops : before.loops = state.loops)
      (questioned : ∀ question ∈ before.questions, ∃ task ∈ state.tasks,
        task.address = question.toPendingQuestion)
      (named : changed.address = task.address) (phase : task.phase ≠ .registered) :
      Numbered runs (before.set changed) := by
    have kept : Numbered runs before := {
      distinct := tasks ▸ numbered.distinct
      counted := tasks ▸ loops ▸ numbered.counted
      registered := tasks ▸ loops ▸ numbered.registered
      exclusive := loops ▸ numbered.exclusive
      questioned := tasks ▸ questioned }
    exact kept.set (tasks ▸ member) named (loops ▸ numbered.spawned member phase)
  cases moves with
  | reported => exact numbered.of_parts rfl rfl rfl
  | asked kind phase => exact changes rfl rfl numbered.questioned rfl (by rw [phase]; exact nofun)
  | questionLogged phase => exact changes rfl rfl numbered.questioned rfl (by rw [phase]; exact nofun)
  | posted phase =>
      refine changes rfl rfl (fun question pending => ?_) rfl (by rw [phase]; exact nofun)
      rcases List.mem_append.mp pending with earlier | last
      · exact numbered.questioned question earlier
      · rw [List.mem_singleton.mp last]
        exact ⟨task, member, rfl⟩
  | received phase => exact changes rfl rfl numbered.questioned rfl (by rw [phase]; exact nofun)
  | concluded phase =>
      refine changes rfl rfl numbered.questioned rfl ?_
      rcases phase with works | ⟨answer, waits⟩
      · rw [works]
        exact nofun
      · rw [waits]
        exact nofun
  | completed phase => exact changes rfl rfl numbered.questioned rfl (by rw [phase]; exact nofun)
  | resultLogged phase => exact changes rfl rfl numbered.questioned rfl (by rw [phase]; exact nofun)
  | cleaned phase =>
      exact changes rfl rfl (fun question pending => numbered.questioned question (List.mem_filter.mp pending).1)
        rfl (by rw [phase]; exact nofun)

/-- Step lemma. -/
theorem Numbered.step (numbered : Numbered runs state) {action : TaskStep} (fresh : Fresh state action)
    (steps : (tasking runs).step state action = some next) : Numbered runs next := by
  rcases tasking_cases steps with ⟨run, step, changed, loop, rfl, moves, rfl⟩ |
    ⟨task, step, rfl, member, moves⟩
  · exact numbered.loopMoves moves fresh
  · exact numbered.agentMoves member moves

end

/-! ## The counter -/

/-- The ids that the steps of a run took from the counter. -/
def idsHandedOut (schedule : List TaskStep) : List UInt32 := schedule.filterMap TaskStep.handedOut

/-- The first ids of a counter that starts at 1. -/
def counterIds (count : Nat) : List UInt32 := (List.range count).map fun index => UInt32.ofNat (1 + index)

theorem counterIds_succ (count : Nat) :
    counterIds (count + 1) = counterIds count ++ [UInt32.ofNat (1 + count)] := by
  rw [counterIds, List.range_succ, List.map_append]
  rfl

theorem ofNat_eq_ofNat_iff (first second : Nat) :
    UInt32.ofNat first = UInt32.ofNat second ↔ first % UInt32.size = second % UInt32.size := by
  rw [← UInt32.toNat_inj, UInt32.toNat_ofNat', UInt32.toNat_ofNat']

/-- A counter of 32 bits repeats itself after all its values, and not before. -/
theorem counterIds_nodup_iff (count : Nat) : (counterIds count).Nodup ↔ count ≤ UInt32.size := by
  have wrapped (first second : Nat) :
      UInt32.ofNat first = UInt32.ofNat second ↔ first % 4294967296 = second % 4294967296 :=
    ofNat_eq_ofNat_iff first second
  change _ ↔ count ≤ 4294967296
  constructor
  · intro distinct
    apply Nat.le_of_not_lt
    intro many
    have first : 0 ∈ List.range count := List.mem_range.mpr (by omega)
    have again : 4294967296 ∈ List.range count := List.mem_range.mpr many
    have same := List.inj_on_of_nodup_map distinct first again ((wrapped _ _).mpr rfl)
    omega
  · intro few
    refine List.Nodup.map_on (fun first member second member' same => ?_) List.nodup_range
    have below := List.mem_range.mp member
    have below' := List.mem_range.mp member'
    have equal := (wrapped _ _).mp same
    omega

/-- The counter has handed out its first ids. -/
structure Counting (past : List TaskStep) (gateway : TaskGateway) : Prop where
  handed : idsHandedOut past = counterIds (idsHandedOut past).length
  next : gateway.nextTaskId = UInt32.ofNat (1 + (idsHandedOut past).length)

section

variable {runs : Nat → DispatchRun} {gateway next : TaskGateway} {past schedule : List TaskStep}
  {action : TaskStep}

theorem counting_start (runs : Nat → DispatchRun) : Counting [] (.start runs) where
  handed := rfl
  next := rfl

/-- A step of the gateway is one of the system, and the counter moves with
each id that it hands out. -/
theorem taskGateway_step (steps : (taskGateway runs).step gateway action = some next) :
    (tasking runs).step gateway.system action = some next.system ∧
      ((action.handedOut = some gateway.nextTaskId ∧ next.nextTaskId = gateway.nextTaskId + 1) ∨
        (action.handedOut = none ∧ next.nextTaskId = gateway.nextTaskId)) := by
  simp only [taskGateway] at steps
  split at steps
  · rename_i id takes
    rcases Option.ite_none_right_eq_some.mp steps with ⟨rfl, rest⟩
    rcases Option.map_eq_some_iff.mp rest with ⟨system, step, rfl⟩
    exact ⟨step, .inl ⟨takes, rfl⟩⟩
  · rename_i takes
    rcases Option.map_eq_some_iff.mp steps with ⟨system, step, rfl⟩
    exact ⟨step, .inr ⟨takes, rfl⟩⟩

/-- The tasks and loops have no ids but those that they had and the one that
was handed out. -/
theorem ids_of_step {state changed : TaskSystem} {ids : List UInt32}
    (tasks : ∀ task ∈ state.tasks, task.address.taskId ∈ ids)
    (loops : ∀ run id, (state.loops run).claimed = some id → id ∈ ids)
    (steps : (tasking runs).step state action = some changed) :
    (∀ task ∈ changed.tasks, task.address.taskId ∈ ids ++ action.handedOut.toList) ∧
      ∀ run id, (changed.loops run).claimed = some id → id ∈ ids ++ action.handedOut.toList := by
  have renamed {before : List AgentTask} {changed : AgentTask}
      (known : ∀ task ∈ before, task.address.taskId ∈ ids) (same : changed.address.taskId ∈ ids) :
      ∀ task ∈ setTask changed before, task.address.taskId ∈ ids := by
    intro task member
    rcases mem_setTask member with rfl | ⟨earlier, _⟩
    · exact same
    · exact known task earlier
  have kept {id : UInt32} (member : id ∈ ids) : id ∈ ids ++ action.handedOut.toList :=
    List.mem_append_left _ member
  rcases tasking_cases steps with ⟨run, step, changed, loop, rfl, moves, rfl⟩ |
    ⟨task, step, rfl, member, moves⟩
  · have claims (fresh : ∀ id, loop.claimed = some id →
        id ∈ ids ++ (TaskStep.loop run step).handedOut.toList) (same : changed.loops = state.loops) :
        ∀ other id, ((changed.setLoop run loop).loops other).claimed = some id →
          id ∈ ids ++ (TaskStep.loop run step).handedOut.toList := by
      intro other id claimed
      rcases loops_setLoop changed run loop other with ⟨rfl, here⟩ | ⟨_, there⟩
      · exact fresh id (here ▸ claimed)
      · exact kept (loops other id (same ▸ there ▸ claimed))
    cases moves with
    | skipped => exact ⟨fun task member => kept (tasks task member), claims nofun rfl⟩
    | @counted id =>
        refine ⟨fun task member => kept (tasks task member), claims ?_ rfl⟩
        rintro id' ⟨⟩
        exact List.mem_append_right _ (List.mem_singleton.mpr rfl)
    | registered phase =>
        have own := loops run _ (claimed_of_counted phase)
        refine ⟨fun task member => ?_, claims ?_ rfl⟩
        · rcases List.mem_append.mp member with earlier | last
          · exact kept (tasks task earlier)
          · rw [List.mem_singleton.mp last]
            exact kept own
        · rintro id' ⟨⟩
          exact kept own
    | refused => exact ⟨fun task member => kept (tasks task member), claims nofun rfl⟩
    | dispatched phase =>
        have own := loops run _ (claimed_of_registered phase)
        refine ⟨fun task member => kept (renamed tasks ?_ task member), claims nofun rfl⟩
        exact own
    | taken => exact ⟨fun task member => kept (tasks task member), claims nofun rfl⟩
    | missed => exact ⟨fun task member => kept (tasks task member), claims nofun rfl⟩
    | @sent question answer =>
        rcases deliver_cases state question answer with same | ⟨task, member, _, same⟩
        · rw [same] at claims ⊢
          exact ⟨fun task member => kept (tasks task member), claims nofun rfl⟩
        · rw [same] at claims ⊢
          refine ⟨fun other here => kept (renamed tasks ?_ other here), claims nofun rfl⟩
          exact tasks task member
    | answered => exact ⟨fun task member => kept (tasks task member), claims nofun rfl⟩
  · have own := tasks task member
    cases moves <;> refine ⟨?_, fun other id claimed => kept (loops other id claimed)⟩
    case reported => exact fun other here => kept (tasks other here)
    all_goals
      refine fun other here => kept (renamed tasks ?_ other here)
      exact own

theorem idsHandedOut_concat (past : List TaskStep) (action : TaskStep) :
    idsHandedOut (past ++ [action]) = idsHandedOut past ++ action.handedOut.toList := by
  rw [idsHandedOut, List.filterMap_append, List.filterMap_cons]
  cases action.handedOut <;> rfl

/-- Step lemma. -/
theorem Counting.step (counting : Counting past gateway)
    (steps : (taskGateway runs).step gateway action = some next) : Counting (past ++ [action]) next := by
  rcases (taskGateway_step steps).2 with ⟨takes, moved⟩ | ⟨takes, same⟩
  · have grown : idsHandedOut (past ++ [action]) = idsHandedOut past ++ [gateway.nextTaskId] := by
      rw [idsHandedOut_concat, takes]
      rfl
    refine ⟨?_, ?_⟩
    · rw [grown, List.length_append, List.length_singleton, counterIds_succ, ← counting.handed,
        counting.next]
    · have one : (1 : UInt32) = UInt32.ofNat 1 := rfl
      rw [moved, counting.next, grown, List.length_append, List.length_singleton, one,
        ← UInt32.ofNat_add, Nat.add_assoc]
  · have kept : idsHandedOut (past ++ [action]) = idsHandedOut past := by
      rw [idsHandedOut_concat, takes]
      exact List.append_nil _
    refine ⟨?_, ?_⟩
    · rw [kept]
      exact counting.handed
    · rw [same, kept]
      exact counting.next

/-- Run lemma. -/
theorem counting_run {final : TaskGateway} (runs' : (taskGateway runs).run (.start runs) schedule = some final) :
    Counting schedule final :=
  Machine.run_invariant (fun _ _ _ _ counting steps => counting.step steps) [] (counting_start runs) runs'

/-- The ids that a run hands out are distinct as long as the counter has not
come around, and no longer. -/
theorem ids_distinct_iff {final : TaskGateway}
    (runs' : (taskGateway runs).run (.start runs) schedule = some final) :
    (idsHandedOut schedule).Nodup ↔ (idsHandedOut schedule).length ≤ UInt32.size := by
  rw [← counterIds_nodup_iff, ← (counting_run runs').handed]

/-- Two devices whose responses dispatch tasks, and a later response of the
first that answers a question. -/
def twoDevices : Nat → DispatchRun
  | 0 => ⟨"alice".toList, [.dispatch "code".toList "fix".toList, .dispatch "advanced".toList "plan".toList],
      ⟨none, none, none, none⟩⟩
  | 1 => ⟨"bob".toList, [.dispatch "code".toList "fix".toList], ⟨none, none, none, none⟩⟩
  | _ => ⟨"alice".toList, [.answer 3 "blue".toList], ⟨none, none, none, none⟩⟩

def twoDevicesSchedule : List TaskStep :=
  [.loop 0 (.nextId 1), .loop 1 (.nextId 2), .loop 1 (.register 7), .loop 0 (.register 7),
    .loop 0 .logDispatch, .loop 1 .logDispatch, .agent ⟨"alice".toList, 1⟩ (.conclude (.ok "done".toList)),
    .agent ⟨"alice".toList, 1⟩ (.complete 9), .loop 0 (.nextId 3), .loop 0 (.register 9), .loop 0 .logDispatch,
    .agent ⟨"alice".toList, 3⟩ (.ask "which".toList), .agent ⟨"alice".toList, 3⟩ .logQuestion,
    .agent ⟨"alice".toList, 3⟩ .post, .agent ⟨"alice".toList, 1⟩ .logResult, .loop 2 .take, .loop 2 .send,
    .agent ⟨"alice".toList, 3⟩ .receive, .loop 2 .logAnswer]

def twoDevicesFinal : TaskGateway := ((taskGateway twoDevices).run (.start twoDevices) twoDevicesSchedule).get rfl

theorem twoDevices_runs : (taskGateway twoDevices).run (.start twoDevices) twoDevicesSchedule = some twoDevicesFinal :=
  (Option.some_get _).symm

theorem ids_distinct_sample : idsHandedOut twoDevicesSchedule = [1, 2, 3] ∧ (idsHandedOut twoDevicesSchedule).Nodup :=
  ⟨rfl, (ids_distinct_iff twoDevices_runs).mpr (by decide)⟩

/-- Without its counter, a run of the gateway is one of the loops and tasks. -/
theorem run_system {start final : TaskGateway} (runs' : (taskGateway runs).run start schedule = some final) :
    (tasking runs).run start.system schedule = some final.system := by
  have viewed : (tasking runs).run start.system (schedule.flatMap fun action => [action]) =
      some final.system := by
    refine Machine.run_view (fun state action next _ step => ?_)
      (Machine.guarded_of_forall (fun _ _ _ => trivial) start) runs'
    rw [Machine.run_singleton]
    exact (taskGateway_step step).1
  rwa [List.flatMap_singleton'] at viewed

/-- The tasks and loops have the ids that were handed out. -/
theorem ids_known {final : TaskSystem} (runs' : (tasking runs).run (.start runs) schedule = some final) :
    (∀ task ∈ final.tasks, task.address.taskId ∈ idsHandedOut schedule) ∧
      ∀ run id, (final.loops run).claimed = some id → id ∈ idsHandedOut schedule := by
  let known (past : List TaskStep) (state : TaskSystem) : Prop :=
    (∀ task ∈ state.tasks, task.address.taskId ∈ idsHandedOut past) ∧
      ∀ run id, (state.loops run).claimed = some id → id ∈ idsHandedOut past
  have preserved : ∀ past state action next, known past state →
      (tasking runs).step state action = some next → known (past ++ [action]) next := by
    rintro past state action next ⟨tasks, loops⟩ steps
    have later := ids_of_step tasks loops steps
    rwa [← idsHandedOut_concat] at later
  have none : known [] (.start runs) := ⟨by rintro task ⟨⟩, by rintro run id ⟨⟩⟩
  exact Machine.run_invariant preserved [] none runs'

/-- Distinct ids are fresh when they are handed out. -/
theorem fresh_of_nodup {final : TaskSystem} (runs' : (tasking runs).run (.start runs) schedule = some final)
    (distinct : (idsHandedOut schedule).Nodup) : (tasking runs).Guarded Fresh (.start runs) schedule := by
  refine Machine.guarded_of_splits fun before action later middle split reaches => ?_
  subst split
  rcases ids_known reaches with ⟨tasks, loops⟩
  intro id takes
  have handed : idsHandedOut (before ++ action :: later) = idsHandedOut before ++ id :: idsHandedOut later := by
    rw [idsHandedOut, List.filterMap_append, List.filterMap_cons_some takes]
    rfl
  rw [handed] at distinct
  have unused : id ∉ idsHandedOut before := fun used =>
    (List.disjoint_of_nodup_append distinct) used List.mem_cons_self
  constructor
  · rintro task member rfl
    exact unused (tasks task member)
  · intro run claims
    exact unused (loops run id claims)

/-- A run of the gateway that hands out distinct ids is a run of the loops and
tasks, with a fresh id at every dispatch. -/
theorem tasking_of_taskGateway {final : TaskGateway}
    (runs' : (taskGateway runs).run (.start runs) schedule = some final)
    (few : (idsHandedOut schedule).length ≤ UInt32.size) :
    (tasking runs).run (.start runs) schedule = some final.system ∧
      (tasking runs).Guarded Fresh (.start runs) schedule :=
  ⟨run_system runs', fresh_of_nodup (run_system runs') ((ids_distinct_iff runs').mpr few)⟩

end

end Agent
end Rabb1tClaw
