import Rabb1tClaw.Agent.TaskIds
import Rabb1tClaw.Foundations.Views

namespace Rabb1tClaw
namespace Agent

open Foundations

/-!
# What the trackers say of the tasks

Each of the three trackers sees the tasks of its kind only, and sees them as
`tracking` describes a tracker: a task registers with an id that no other task
has, reports progress while it runs, and completes once.  That the ids differ
is not assumed here; the counter sees to it, up to its 32 bits.  The running
items of a device are then the tasks that have not reported their end, and an
item that has ended carries the result that its task logs.

A run reads the limits as it dispatches, and they may have changed since the
run before.  Which items a tracker keeps depends on them; which of its items
run does not.
-/

/-- The result of a task whose tracker knows it. -/
def AgentPhase.reported : AgentPhase → Option (Except Text Text)
  | .completed result | .logged result | .finished result => some result
  | _ => none

/-- The task as its tracker sees it. -/
def AgentTask.tracked (task : AgentTask) : Task :=
  ⟨task.address.devicePrefix, task.address.taskId, task.description, task.phase.reported.isSome⟩

/-- The tracker of a kind and the tasks of this kind. -/
def TaskSystem.trackingOf (state : TaskSystem) (kind : TaskKind) : Tracking kind.Status :=
  ⟨state.trackers kind, (state.tasks.filter fun task => task.kind = kind).map AgentTask.tracked⟩

section

variable {runs : Nat → DispatchRun} {state next : TaskSystem} {run : Nat} {task : AgentTask}
  {kind : TaskKind} {limits : DispatchLimits}

/-- What a changed task does to the tasks of a kind. -/
theorem map_tracked_setTask (numbered : Numbered runs state) (member : task ∈ state.tasks)
    (changed : AgentTask) (named : changed.address = task.address) (sort : changed.kind = task.kind) (kind : TaskKind) :
    ((setTask changed state.tasks).filter fun task => task.kind = kind).map AgentTask.tracked =
      (state.tasks.filter fun task => task.kind = kind).map fun other =>
        if other.address = changed.address then changed.tracked else other.tracked := by
  have kinds : ∀ other ∈ state.tasks,
      decide ((if other.address = changed.address then changed else other).kind = kind) =
        decide (other.kind = kind) := by
    intro other here
    split
    · rename_i same
      rw [numbered.same here member (congrArg PendingQuestion.taskId (same.trans named)), sort]
    · rfl
  rw [setTask, List.filter_map, List.map_map]
  refine (congrArg _ (List.filter_congr kinds)).trans (List.map_congr_left fun other _ => ?_)
  exact apply_ite AgentTask.tracked _ _ _

/-- A change that the tracker does not see. -/
theorem trackingOf_set_quiet (numbered : Numbered runs state) (member : task ∈ state.tasks)
    (changed : AgentTask) (named : changed.address = task.address) (sort : changed.kind = task.kind)
    (quiet : changed.tracked = task.tracked) (kind : TaskKind) :
    (state.set changed).trackingOf kind = state.trackingOf kind := by
  refine congrArg (Tracking.mk _) ((map_tracked_setTask numbered member changed named sort kind).trans ?_)
  refine List.map_congr_left fun other here => ?_
  split
  · rename_i renamed
    rw [numbered.same (List.mem_filter.mp here).1 member
      (congrArg PendingQuestion.taskId (renamed.trans named)), quiet]
  · rfl

theorem isActive_trackingOf (member : task ∈ state.tasks) (running : task.phase.reported = none) :
    (state.trackingOf task.kind).isActive task.address.devicePrefix task.address.taskId = true := by
  refine Tracking.isActive_iff.mpr ⟨task.tracked, ?_, ?_, rfl, rfl⟩
  · exact List.mem_map.mpr ⟨task, List.mem_filter.mpr ⟨member, decide_eq_true rfl⟩, rfl⟩
  · rw [AgentTask.tracked, running]
    rfl

theorem trackingOf_setTracker_self (state : TaskSystem) (kind : TaskKind)
    (tracker : BackgroundTracker kind.Status) :
    (state.setTracker kind tracker).trackingOf kind = ⟨tracker, (state.trackingOf kind).tasks⟩ :=
  congrArg (Tracking.mk · _) (trackers_setTracker_self state kind tracker)

theorem trackingOf_setTracker_of_ne (state : TaskSystem) {kind other : TaskKind} (differs : kind ≠ other)
    (tracker : BackgroundTracker other.Status) :
    (state.setTracker other tracker).trackingOf kind = state.trackingOf kind :=
  congrArg (Tracking.mk · _) (trackers_setTracker_of_ne state differs tracker)

/-- A task of the advanced agent reports a running status. -/
theorem reaches_updateStatus (member : task ∈ state.tasks) (sort : task.kind = .advanced)
    (running : task.phase.reported = none) (status : AdvancedTaskStatus)
    (live : TaskStatus.isRunning status = true) (kind : TaskKind) (maxConcurrent maxRetained : Nat) :
    (tracking maxConcurrent maxRetained).Reaches (state.trackingOf kind)
      ((state.setTracker .advanced ((state.trackers .advanced).updateStatus task.address.devicePrefix
        task.address.taskId status)).trackingOf kind) := by
  by_cases own : kind = .advanced
  · subst own
    have active := isActive_trackingOf member running
    rw [sort] at active
    rw [trackingOf_setTracker_self]
    have step : (tracking maxConcurrent maxRetained).step (state.trackingOf .advanced)
        (.updateStatus task.address.devicePrefix task.address.taskId status) =
          some { state.trackingOf .advanced with
            tracker := (state.trackers .advanced).updateStatus task.address.devicePrefix
              task.address.taskId status } := if_pos (Bool.and_eq_true_iff.mpr ⟨active, live⟩)
    exact .step step
  · rw [trackingOf_setTracker_of_ne state own]
    exact .refl _

/-- A task reports its end. -/
theorem reaches_complete (numbered : Numbered runs state) (member : task ∈ state.tasks)
    {result : Except Text Text} (phase : task.phase = .concluded result) (now : UInt64)
    (kind : TaskKind) (maxConcurrent maxRetained : Nat) :
    (tracking maxConcurrent maxRetained).Reaches (state.trackingOf kind)
      (((state.setTracker task.kind ((state.trackers task.kind).complete task.address.devicePrefix
        task.address.taskId (task.kind.conclusion result) now)).set
          { task with phase := .completed result }).trackingOf kind) := by
  have running : task.phase.reported = none := by rw [phase]; rfl
  have tasks := map_tracked_setTask numbered member { task with phase := .completed result } rfl rfl kind
  by_cases own : kind = task.kind
  · subst own
    have active := isActive_trackingOf member running
    have step : (tracking maxConcurrent maxRetained).step (state.trackingOf task.kind)
        (.complete task.address.devicePrefix task.address.taskId (task.kind.conclusion result) now) =
          some ⟨(state.trackers task.kind).complete task.address.devicePrefix task.address.taskId
            (task.kind.conclusion result) now,
              (state.trackingOf task.kind).tasks.map (Task.complete task.address.taskId)⟩ := by
      refine if_pos (Bool.and_eq_true_iff.mpr ⟨active, ?_⟩)
      rw [TaskKind.isRunning_conclusion]
      rfl
    have same : (state.trackingOf task.kind).tasks.map (Task.complete task.address.taskId) =
        ((setTask { task with phase := .completed result } state.tasks).filter
          fun other => other.kind = task.kind).map AgentTask.tracked := by
      rw [tasks, TaskSystem.trackingOf, List.map_map]
      refine List.map_congr_left fun other here => ?_
      have known := (List.mem_filter.mp here).1
      by_cases same : other.address = task.address
      · rw [if_pos same, numbered.same known member (congrArg PendingQuestion.taskId same)]
        simp [Task.complete, AgentTask.tracked, AgentPhase.reported]
      · have differs : other.address.taskId ≠ task.address.taskId := by
          intro ids
          exact same (congrArg AgentTask.address (numbered.same known member ids))
        rw [if_neg same]
        simp [Task.complete, AgentTask.tracked, differs]
    rw [same] at step
    refine .step (step.trans (congrArg some ?_))
    rw [TaskSystem.trackingOf, TaskSystem.set, TaskSystem.setTracker]
    simp only [Function.update_self]
  · have differs : ∀ other ∈ state.tasks, other.kind = kind → other.address ≠ task.address := by
      rintro other known rfl same
      exact own (congrArg AgentTask.kind (numbered.same known member (congrArg PendingQuestion.taskId same)))
    have kept : (((setTask { task with phase := .completed result } state.tasks).filter
        fun other => other.kind = kind).map AgentTask.tracked) = (state.trackingOf kind).tasks := by
      rw [tasks, TaskSystem.trackingOf]
      refine List.map_congr_left fun other here => if_neg ?_
      rcases List.mem_filter.mp here with ⟨known, sort⟩
      exact differs other known (of_decide_eq_true sort)
    have same : ((state.setTracker task.kind ((state.trackers task.kind).complete task.address.devicePrefix
        task.address.taskId (task.kind.conclusion result) now)).set
          { task with phase := .completed result }).trackingOf kind = state.trackingOf kind := by
      rw [TaskSystem.trackingOf, TaskSystem.set, TaskSystem.setTracker]
      simp only [Function.update_of_ne own]
      rw [kept]
      rfl
    rw [same]
    exact .refl _

/-- A loop registers a task. -/
theorem reaches_register {id : UInt32} {desc : Text} {now : UInt64}
    {tracker : BackgroundTracker kind.Status} {devicePrefix : Text} {maxConcurrent maxRetained : Nat}
    (new : ∀ task ∈ state.tasks, task.address.taskId ≠ id)
    (registers : (state.trackers kind).register devicePrefix id desc maxConcurrent maxRetained now = some tracker) :
    (tracking maxConcurrent maxRetained).Reaches (state.trackingOf kind)
      (((state.setTracker kind tracker).add
        ⟨⟨devicePrefix, id⟩, kind, desc, [], .registered⟩).trackingOf kind) := by
  have fresh : ((state.trackingOf kind).tasks.any fun task => task.id = id) = false := by
    rw [List.any_eq_false]
    intro task member
    rcases List.mem_map.mp member with ⟨other, here, rfl⟩
    exact decide_eq_false (new other (List.mem_filter.mp here).1) ▸ Bool.false_ne_true
  have step : (tracking maxConcurrent maxRetained).step (state.trackingOf kind)
      (.register devicePrefix id desc now) =
        some ⟨tracker, (state.trackingOf kind).tasks ++ [⟨devicePrefix, id, desc, false⟩]⟩ := by
    have here : (state.trackingOf kind).tracker.register devicePrefix id desc maxConcurrent maxRetained now =
        some tracker := registers
    rw [tracking]
    simp only [fresh, Bool.false_eq_true, if_false, here]
  refine .step (step.trans (congrArg some ?_))
  rw [TaskSystem.trackingOf, TaskSystem.add, TaskSystem.setTracker]
  simp [TaskSystem.trackingOf, AgentTask.tracked, AgentPhase.reported]

/-- Step lemma: a step of the system is some calls of each tracker, or none,
under the limits of the run whose step it is. -/
theorem reaches_tracking (numbered : Numbered runs state) {action : TaskStep}
    (same : ∀ run step, action = .loop run step → (runs run).limits = limits)
    (steps : (tasking runs).step state action = some next) (kind : TaskKind) :
    (tracking (kind.maxConcurrent limits) limits.taskLogMax).Reaches (state.trackingOf kind)
      (next.trackingOf kind) := by
  have quietly {task changed : AgentTask} (member : task ∈ state.tasks)
      (named : changed.address = task.address) (sort : changed.kind = task.kind)
      (quiet : changed.tracked = task.tracked) :
      (tracking (kind.maxConcurrent limits) limits.taskLogMax).Reaches (state.trackingOf kind)
        ((state.set changed).trackingOf kind) := by
    rw [trackingOf_set_quiet numbered member changed named sort quiet]
    exact .refl _
  have tracked {changed : AgentTask} {task : AgentTask} (named : changed.address = task.address)
      (described : changed.description = task.description)
      (reported : changed.phase.reported = task.phase.reported) : changed.tracked = task.tracked := by
    rw [AgentTask.tracked, AgentTask.tracked, named, described, reported]
  rcases tasking_cases steps with ⟨run, step, changed, loop, rfl, moves, rfl⟩ |
    ⟨task, step, rfl, member, moves⟩
  · cases moves with
    | skipped => exact .refl _
    | counted => exact .refl _
    | @registered id sort desc now tracker phase registers =>
        rw [same run _ rfl] at registers
        by_cases own : sort = kind
        · subst own
          exact reaches_register (numbered.counted run id sort desc phase) registers
        · have absent : (state.tasks ++ [(⟨⟨(runs run).devicePrefix, id⟩, sort, desc, [], .registered⟩ : AgentTask)]).filter
              (fun task => decide (task.kind = kind)) = state.tasks.filter fun task => task.kind = kind := by
            rw [List.filter_append, List.filter_cons_of_neg (by simpa using own), List.filter_nil, List.append_nil]
          have unseen : (((state.setTracker sort tracker).add ⟨⟨(runs run).devicePrefix, id⟩, sort, desc, [],
              .registered⟩).setLoop run { state.loops run with phase := .registered id sort desc }).trackingOf
                kind = state.trackingOf kind := by
            refine congr (congrArg Tracking.mk ?_) (congrArg (List.map AgentTask.tracked) absent)
            exact trackers_setTracker_of_ne state (Ne.symm own) tracker
          rw [unseen]
          exact .refl _
    | refused => exact .refl _
    | dispatched phase =>
        exact quietly (numbered.registered run _ _ _ phase) rfl rfl rfl
    | taken => exact .refl _
    | missed => exact .refl _
    | @sent question answer =>
        rcases deliver_cases state question answer with same | ⟨task, member, ⟨prior, waits⟩, same⟩
        · rw [same]
          exact .refl _
        · rw [same]
          exact quietly member rfl rfl (tracked rfl rfl (by rw [waits]; rfl))
    | answered => exact .refl _
  · cases moves with
    | reported sort phase =>
        exact reaches_updateStatus member sort (by rw [phase]; rfl) _ rfl kind _ _
    | @asked question sort phase =>
        have running : task.phase.reported = none := by rw [phase]; rfl
        refine (reaches_updateStatus member sort running (.needsInput question) rfl kind _ _).trans ?_
        have quiet : AgentTask.tracked { task with phase := .asking question } = task.tracked :=
          tracked rfl rfl (by rw [phase]; rfl)
        have told : Numbered runs (state.setTracker .advanced ((state.trackers .advanced).updateStatus
            task.address.devicePrefix task.address.taskId (AdvancedTaskStatus.needsInput question))) :=
          numbered.of_parts rfl rfl rfl
        rw [trackingOf_set_quiet told member { task with phase := .asking question } rfl rfl quiet]
        exact .refl _
    | questionLogged phase =>
        exact quietly member rfl rfl (tracked rfl rfl (by rw [phase]; rfl))
    | posted phase => exact quietly member rfl rfl (tracked rfl rfl (by rw [phase]; rfl))
    | received phase => exact quietly member rfl rfl (tracked rfl rfl (by rw [phase]; rfl))
    | concluded phase =>
        refine quietly member rfl rfl (tracked rfl rfl ?_)
        rcases phase with works | ⟨answer, waits⟩
        · rw [works]
          rfl
        · rw [waits]
          rfl
    | completed phase => exact reaches_complete numbered member phase _ kind _ _
    | resultLogged phase =>
        refine quietly member rfl rfl (tracked rfl rfl ?_)
        rw [phase]
        by_cases sort : task.kind = .advanced
        · simp only [if_pos sort]
          rfl
        · simp only [if_neg sort]
          rfl
    | cleaned phase => exact quietly member rfl rfl (tracked rfl rfl (by rw [phase]; rfl))

/-- Items of tasks that have ended carry their results. -/
def Settled (state : TaskSystem) : Prop :=
  ∀ task ∈ state.tasks, ∀ result, task.phase.reported = some result →
    ∀ item ∈ (state.trackers task.kind).items task.address.devicePrefix, item.id = task.address.taskId →
      item.status = task.kind.conclusion result

/-- Results stay as long as a step of other tasks leaves the items with their
ids alone. -/
theorem Settled.keep (settled : Settled state)
    (results : ∀ task ∈ next.tasks, ∀ result, task.phase.reported = some result →
      ∃ before ∈ state.tasks, before.address = task.address ∧ before.kind = task.kind ∧
        before.phase.reported = some result)
    (items : ∀ task ∈ state.tasks, task.phase.reported ≠ none →
      ∀ item ∈ (next.trackers task.kind).items task.address.devicePrefix, item.id = task.address.taskId →
        item ∈ (state.trackers task.kind).items task.address.devicePrefix) :
    Settled next := by
  rintro ⟨address, kind, description, asked, phase⟩ member result reported item here same
  rcases results _ member result reported with ⟨before, known, rfl, rfl, reported'⟩
  have ended : before.phase.reported ≠ none := by rw [reported']; exact nofun
  exact settled before known result reported' item (items before known ended item here same) same

theorem mem_changeItem_of_ne {S : Type} {id : UInt32} {change : TrackedItem S → TrackedItem S}
    (same : ∀ item, (change item).id = item.id) {item : TrackedItem S} (differs : item.id ≠ id)
    {items : List (TrackedItem S)} (member : item ∈ changeItem id change items) : item ∈ items := by
  induction items with
  | nil => exact member
  | cons first items inductionHypothesis =>
      rw [changeItem] at member
      split at member
      · rename_i isFirst
        rcases List.mem_cons.mp member with rfl | later
        · exact absurd ((same first).trans isFirst) differs
        · exact List.mem_cons_of_mem first later
      · rcases List.mem_cons.mp member with rfl | later
        · exact List.mem_cons_self
        · exact List.mem_cons_of_mem first (inductionHypothesis later)

/-- A change of the item with an id leaves the items with other ids alone. -/
theorem mem_update_changeItem {S : Type} {tracker : BackgroundTracker S} {devicePrefix other : Text}
    {id : UInt32} {change : TrackedItem S → TrackedItem S} (same : ∀ item, (change item).id = item.id)
    {item : TrackedItem S} (differs : item.id ≠ id)
    (member : item ∈ Function.update tracker.items devicePrefix
      (changeItem id change (tracker.items devicePrefix)) other) : item ∈ tracker.items other := by
  by_cases own : other = devicePrefix
  · subst own
    rw [Function.update_self] at member
    exact mem_changeItem_of_ne same differs member
  · rwa [Function.update_of_ne own] at member

/-- The items of a tracker after a call for the task of another id. -/
theorem mem_setTracker {sort : TaskKind} {tracker : BackgroundTracker sort.Status} {devicePrefix : Text}
    {item : TrackedItem kind.Status}
    (kept : ∀ item, item ∈ tracker.items devicePrefix → item.id = task.address.taskId →
      item ∈ (state.trackers sort).items devicePrefix)
    (same : item.id = task.address.taskId)
    (member : item ∈ ((state.setTracker sort tracker).trackers kind).items devicePrefix) :
    item ∈ (state.trackers kind).items devicePrefix := by
  by_cases own : kind = sort
  · subst own
    rw [trackers_setTracker_self] at member
    exact kept item member same
  · rwa [trackers_setTracker_of_ne state own] at member

/-- Step lemma. -/
theorem Settled.step (settled : Settled state) (numbered : Numbered runs state)
    (listed : ∀ kind, Tracking.Listed (state.trackingOf kind)) {action : TaskStep} (steps : (tasking runs).step state action = some next) : Settled next := by
  -- a changed task has the result that it had
  have results {changed : AgentTask} {task : AgentTask} (member : task ∈ state.tasks)
      (named : changed.address = task.address) (sort : changed.kind = task.kind)
      (reported : ∀ result, changed.phase.reported = some result → task.phase.reported = some result) :
      ∀ other ∈ setTask changed state.tasks, ∀ result, other.phase.reported = some result →
        ∃ before ∈ state.tasks, before.address = other.address ∧ before.kind = other.kind ∧
          before.phase.reported = some result := by
    intro other here result ended
    rcases mem_setTask here with rfl | ⟨known, _⟩
    · exact ⟨task, member, named.symm, sort.symm, reported result ended⟩
    · exact ⟨other, known, rfl, rfl, ended⟩
  have unchanged : ∀ other ∈ state.tasks, ∀ result, other.phase.reported = some result →
      ∃ before ∈ state.tasks, before.address = other.address ∧ before.kind = other.kind ∧
        before.phase.reported = some result :=
    fun other known result ended => ⟨other, known, rfl, rfl, ended⟩
  -- a task that runs is not one that has ended
  have elsewhere {task other : AgentTask} (member : task ∈ state.tasks) (running : task.phase.reported = none)
      (known : other ∈ state.tasks) (ended : other.phase.reported ≠ none) :
      other.address.taskId ≠ task.address.taskId := by
    intro same
    rw [numbered.same known member same] at ended
    exact ended running
  rcases tasking_cases steps with ⟨run, step, changed, loop, rfl, moves, rfl⟩ |
    ⟨task, step, rfl, member, moves⟩
  · cases moves with
    | skipped => exact settled
    | counted => exact settled
    | @registered id sort desc now tracker phase registers =>
        have new := numbered.counted run id sort desc phase
        apply settled.keep
        · intro other here result ended
          rcases List.mem_append.mp here with earlier | last
          · exact ⟨other, earlier, rfl, rfl, ended⟩
          · rw [List.mem_singleton.mp last] at ended
            cases ended
        · intro other known ended item here same
          refine mem_setTracker (fun item here same => ?_) same here
          rcases register_items registers with ⟨_, others, own⟩
          by_cases device : other.address.devicePrefix = (runs run).devicePrefix
          · rw [device, own] at here
            rw [device]
            rcases List.mem_append.mp here with earlier | last
            · exact (dropFinished_sublist _ _).mem earlier
            · rw [List.mem_singleton.mp last] at same
              exact absurd same.symm (new other known)
          · rwa [others _ device] at here
    | refused => exact settled
    | dispatched phase =>
        exact settled.keep (results (numbered.registered run _ _ _ phase) rfl rfl (by rintro result ⟨⟩))
          fun _ _ _ _ here _ => here
    | taken => exact settled
    | missed => exact settled
    | @sent question answer =>
        rcases deliver_cases state question answer with same | ⟨task, member, _, same⟩
        · rw [same]
          exact settled
        · rw [same]
          exact settled.keep (results member rfl rfl (by rintro result ⟨⟩)) fun _ _ _ _ here _ => here
    | answered => exact settled
  · cases moves with
    | reported sort phase =>
        have running : task.phase.reported = none := by rw [phase]; rfl
        refine settled.keep ?_ fun other known ended item here same => ?_
        · exact unchanged
        have differs := elsewhere member running known ended
        refine mem_setTracker (fun item here same => ?_) same here
        refine mem_update_changeItem ?_ (same ▸ differs) here
        exact fun _ => rfl
    | asked sort phase =>
        have running : task.phase.reported = none := by rw [phase]; rfl
        refine settled.keep (results member rfl rfl ?_) fun other known ended item here same => ?_
        · rintro result ⟨⟩
        have differs := elsewhere member running known ended
        refine mem_setTracker (fun item here same => ?_) same here
        refine mem_update_changeItem ?_ (same ▸ differs) here
        exact fun _ => rfl
    | questionLogged phase =>
        exact settled.keep (results member rfl rfl (by rintro result ⟨⟩)) fun _ _ _ _ here _ => here
    | posted phase =>
        exact settled.keep (results member rfl rfl (by rintro result ⟨⟩)) fun _ _ _ _ here _ => here
    | received phase =>
        exact settled.keep (results member rfl rfl (by rintro result ⟨⟩)) fun _ _ _ _ here _ => here
    | concluded phase =>
        exact settled.keep (results member rfl rfl (by rintro result ⟨⟩)) fun _ _ _ _ here _ => here
    | @completed result now phase =>
        have running : task.phase.reported = none := by rw [phase]; rfl
        have changed := (listed task.kind).changed_complete task.address.devicePrefix task.address.taskId
          (task.kind.conclusion result) now
        intro other here result' ended item there same
        rcases mem_setTask here with rfl | ⟨known, _⟩
        · rcases Option.some.inj ended with rfl
          have items : item ∈ ((state.trackers task.kind).complete task.address.devicePrefix task.address.taskId
              (task.kind.conclusion result) now).items task.address.devicePrefix := by
            rw [← trackers_setTracker_self state task.kind ((state.trackers task.kind).complete
              task.address.devicePrefix task.address.taskId (task.kind.conclusion result) now)]
            exact there
          rcases List.mem_map.mp (changed.own ▸ items) with ⟨old, _, rfl⟩
          split
          · rfl
          · rename_i differs
            rw [if_neg differs] at same
            exact absurd same differs
        · have ended' : other.phase.reported ≠ none := by rw [ended]; exact nofun
          have differs := elsewhere member running known ended'
          refine settled other known result' ended item ?_ same
          refine mem_setTracker (fun item here same => ?_) same there
          refine mem_update_changeItem ?_ (same ▸ differs) here
          exact fun _ => rfl
    | @resultLogged result phase =>
        refine settled.keep (results member rfl rfl fun result' ended => ?_) fun _ _ _ _ here _ => here
        rw [phase]
        by_cases sort : task.kind = .advanced
        · simp only [if_pos sort] at ended
          exact ended
        · simp only [if_neg sort] at ended
          exact ended
    | cleaned phase =>
        refine settled.keep (results member rfl rfl fun result' ended => ?_) fun _ _ _ _ here _ => here
        rw [phase]
        exact ended

/-- A step moves each tracker by calls that keep its items those of tasks. -/
theorem listed_taskStep (numbered : Numbered runs state)
    (listed : ∀ kind, Tracking.Listed (state.trackingOf kind)) {action : TaskStep}
    (steps : (tasking runs).step state action = some next) (kind : TaskKind) :
    Tracking.Listed (next.trackingOf kind) := by
  have limits : ∃ limits, ∀ run step, action = .loop run step → (runs run).limits = limits := by
    cases action with
    | loop run step => exact ⟨(runs run).limits, by rintro other step' ⟨⟩; rfl⟩
    | agent address step => exact ⟨⟨none, none, none, none⟩, by rintro run step' ⟨⟩⟩
  rcases limits with ⟨limits, same⟩
  rcases reaches_tracking numbered same steps kind with ⟨calls, run⟩
  exact Machine.run_keeps (fun _ _ _ here steps => Tracking.Listed.step here steps) (listed kind) run

/-- Invariant of the trackers. -/
structure Tracked (runs : Nat → DispatchRun) (state : TaskSystem) : Prop where
  numbered : Numbered runs state
  listed : ∀ kind, Tracking.Listed (state.trackingOf kind)
  settled : Settled state

theorem tracked_start : Tracked runs (.start runs) where
  numbered := numbered_start runs
  listed := fun _ => Tracking.listed_empty
  settled := by rintro task ⟨⟩

theorem Tracked.step (tracked : Tracked runs state) {action : TaskStep} (fresh : Fresh state action)
    (steps : (tasking runs).step state action = some next) : Tracked runs next where
  numbered := tracked.numbered.step fresh steps
  listed := listed_taskStep tracked.numbered tracked.listed steps
  settled := tracked.settled.step tracked.numbered tracked.listed steps

/-- The tasks of a device and a kind that have not reported their end. -/
def TaskSystem.liveTasks (state : TaskSystem) (kind : TaskKind) (devicePrefix : Text) : List AgentTask :=
  state.tasks.filter fun task =>
    task.kind = kind ∧ task.address.devicePrefix = devicePrefix ∧ task.phase.reported.isNone

theorem activeTasks_trackingOf (state : TaskSystem) (kind : TaskKind) (devicePrefix : Text) :
    (state.trackingOf kind).activeTasks devicePrefix =
      (state.liveTasks kind devicePrefix).map AgentTask.tracked := by
  rw [Tracking.activeTasks, Tracking.tasksOf, TaskSystem.trackingOf, TaskSystem.liveTasks,
    List.filter_map, List.filter_map, List.filter_filter, List.filter_filter]
  refine congrArg _ (List.filter_congr fun task _ => ?_)
  simp only [Function.comp_apply, AgentTask.tracked, Option.not_isSome, Bool.decide_and, Bool.decide_eq_true]
  rw [Bool.and_left_comm, Bool.and_comm task.phase.reported.isNone, ← Bool.and_assoc]
  exact Bool.and_right_comm ..

/-- The running items of a tracker are the tasks that have not reported their
end, and the others carry the results of their tasks.  Where all runs read the
same limits, each tracker sees a run of its kind under these. -/
theorem trackers_know_tasks {final : TaskGateway} {schedule : List TaskStep}
    (runs' : (taskGateway runs).run (.start runs) schedule = some final)
    (few : (idsHandedOut schedule).length ≤ UInt32.size) :
    (∀ kind devicePrefix,
      ((final.system.trackers kind).getRunning devicePrefix).map (fun item => (item.id, item.description)) =
        (final.system.liveTasks kind devicePrefix).map fun task =>
          (task.address.taskId, task.description)) ∧
      (∀ task ∈ final.system.tasks, ∀ result, task.phase.reported = some result →
        ∀ item ∈ (final.system.trackers task.kind).items task.address.devicePrefix,
          item.id = task.address.taskId → item.status = task.kind.conclusion result) ∧
      ∀ limits : DispatchLimits, (∀ run, (runs run).limits = limits) → ∀ kind : TaskKind,
        (tracking (kind.maxConcurrent limits) limits.taskLogMax).Reaches .empty
          (final.system.trackingOf kind) := by
  rcases tasking_of_taskGateway runs' few with ⟨run, guarded⟩
  have preserved : ∀ (_ : List TaskStep) state action next, Tracked runs state → Fresh state action →
      (tasking runs).step state action = some next → Tracked runs next :=
    fun _ state action next here fresh steps => here.step fresh steps
  have tracked := Machine.run_invariant_guarded preserved [] tracked_start guarded run
  refine ⟨fun kind devicePrefix => ?_, tracked.settled, fun limits same kind => ?_⟩
  · refine ((tracked.listed kind).running devicePrefix).trans ?_
    rw [activeTasks_trackingOf, List.map_map]
    rfl
  · have numbered : (tasking runs).Guarded (fun state _ => Numbered runs state) (.start runs) schedule :=
      Machine.guarded_of_invariant (fun _ _ _ numbered fresh steps => numbered.step fresh steps)
        (fun _ _ numbered _ => numbered) (numbered_start runs) guarded
    have square : ∀ state action next, Numbered runs state → (tasking runs).step state action = some next →
        (tracking (kind.maxConcurrent limits) limits.taskLogMax).Reaches (state.trackingOf kind)
          (next.trackingOf kind) := fun state action next numbered steps =>
      reaches_tracking numbered (fun run _ _ => same run) steps kind
    exact Machine.reaches_view square numbered run

end

theorem trackers_know_tasks_sample :
    ((twoDevicesFinal.system.trackers .advanced).getRunning "alice".toList).map
      (fun item => (item.id, item.description)) = [(3, "plan".toList)] :=
  (trackers_know_tasks twoDevices_runs (by decide)).1 .advanced "alice".toList

end Agent
end Rabb1tClaw
