import Rabb1tClaw.Agent.Background
import Rabb1tClaw.Foundations.Machine

namespace Rabb1tClaw
namespace Agent

open Foundations

/-!
# Tracked tasks

A task is registered with the tracker of its kind, may report its progress any
number of times, and is completed.  Tasks of all devices share one tracker and
run side by side, so their calls come in any order.

Finished items go only when another task of the device is registered, and
then down to the number that is retained.  Between registrations a running
item becomes a finished one, which moves it from one limit to the other and
leaves the sum as it is.  That is why the sum of both limits bounds the items
of a device at all times (`Follows`).
-/

section

variable {S : Type} [TaskStatus S]

/-- Change the first item with an id. -/
def changeItem (id : UInt32) (change : TrackedItem S → TrackedItem S) :
    List (TrackedItem S) → List (TrackedItem S)
  | [] => []
  | item :: items => if item.id = id then change item :: items else item :: changeItem id change items

namespace BackgroundTracker

/-- `BackgroundTracker::complete`. -/
def complete (tracker : BackgroundTracker S) (devicePrefix : Text) (id : UInt32) (status : S)
    (now : UInt64) : BackgroundTracker S :=
  ⟨Function.update tracker.items devicePrefix <|
    changeItem id (fun item => { item with status := status, completedAt := some now })
      (tracker.items devicePrefix)⟩

/-- `BackgroundTracker::update_status`. -/
def updateStatus (tracker : BackgroundTracker S) (devicePrefix : Text) (id : UInt32) (status : S) :
    BackgroundTracker S :=
  ⟨Function.update tracker.items devicePrefix <|
    changeItem id (fun item => { item with status := status }) (tracker.items devicePrefix)⟩

/-- `BackgroundTracker::get_running`. -/
def getRunning (tracker : BackgroundTracker S) (devicePrefix : Text) : List (TrackedItem S) :=
  (tracker.items devicePrefix).filter fun item => TaskStatus.isRunning item.status

end BackgroundTracker

end

/-! ## The calls of the tasks -/

structure Task where
  devicePrefix : Text
  id : UInt32
  description : Text
  completed : Bool
  deriving DecidableEq, Repr

/-- What becomes of a task when the one with an id is completed. -/
def Task.complete (id : UInt32) (task : Task) : Task :=
  if task.id = id then { task with completed := true } else task

/-- A tracker, and the tasks that were registered with it, in this order. -/
structure Tracking (S : Type) where
  tracker : BackgroundTracker S
  tasks : List Task

inductive TrackerCall (S : Type) where
  | register (devicePrefix : Text) (id : UInt32) (description : Text) (now : UInt64)
  | updateStatus (devicePrefix : Text) (id : UInt32) (status : S)
  | complete (devicePrefix : Text) (id : UInt32) (status : S) (now : UInt64)

def TrackerCall.devicePrefix {S : Type} : TrackerCall S → Text
  | register devicePrefix _ _ _ => devicePrefix
  | updateStatus devicePrefix _ _ => devicePrefix
  | complete devicePrefix _ _ _ => devicePrefix

namespace Tracking

variable {S : Type}

/-- No task was registered. -/
def empty : Tracking S := ⟨⟨fun _ => []⟩, []⟩

/-- The tasks of a device. -/
def tasksOf (state : Tracking S) (devicePrefix : Text) : List Task :=
  state.tasks.filter fun task => task.devicePrefix = devicePrefix

/-- The tasks of a device that are not completed. -/
def activeTasks (state : Tracking S) (devicePrefix : Text) : List Task :=
  (state.tasksOf devicePrefix).filter fun task => !task.completed

/-- The task is registered and not completed. -/
def isActive (state : Tracking S) (devicePrefix : Text) (id : UInt32) : Bool :=
  (state.activeTasks devicePrefix).any fun task => task.id = id

end Tracking

/-- One call of some task.  A task registers with an id that no other has.
When it is refused it makes no other call.  When it is registered it reports
running statuses, and completes once with one that is not running. -/
def tracking {S : Type} [TaskStatus S] (maxConcurrent maxRetained : Nat) :
    Machine (Tracking S) (TrackerCall S) where
  step state
    | .register devicePrefix id description now =>
        if state.tasks.any fun task => task.id = id then
          none
        else
          match state.tracker.register devicePrefix id description maxConcurrent maxRetained now with
          | some tracker => some ⟨tracker, state.tasks ++ [⟨devicePrefix, id, description, false⟩]⟩
          | none => some state
    | .updateStatus devicePrefix id status =>
        if state.isActive devicePrefix id && TaskStatus.isRunning status then
          some { state with tracker := state.tracker.updateStatus devicePrefix id status }
        else
          none
    | .complete devicePrefix id status now =>
        if state.isActive devicePrefix id && !TaskStatus.isRunning status then
          some ⟨state.tracker.complete devicePrefix id status now, state.tasks.map (Task.complete id)⟩
        else
          none

/-! ## What a call does to the items -/

namespace Task

variable (id : UInt32) (task : Task)

@[simp] theorem complete_id : (task.complete id).id = task.id := by
  unfold complete
  split <;> rfl

@[simp] theorem complete_devicePrefix : (task.complete id).devicePrefix = task.devicePrefix := by
  unfold complete
  split <;> rfl

@[simp] theorem complete_description : (task.complete id).description = task.description := by
  unfold complete
  split <;> rfl

theorem complete_completed : (task.complete id).completed = (task.completed || task.id = id) := by
  unfold complete
  by_cases same : task.id = id <;> simp [same]

end Task

section

variable {S : Type} [TaskStatus S]

/-- A front part of the items loses its finished items, as many as are in
excess or all that there are. -/
theorem dropFinished_split (excess : Nat) (items : List (TrackedItem S)) :
    ∃ early late, items = early ++ late ∧
      dropFinished excess items = (early.filter fun item => TaskStatus.isRunning item.status) ++ late ∧
      (early.filter fun item => !TaskStatus.isRunning item.status).length =
        min excess (items.filter fun item => !TaskStatus.isRunning item.status).length := by
  induction items generalizing excess with
  | nil => exact ⟨[], [], rfl, by cases excess <;> rfl, (Nat.min_zero excess).symm⟩
  | cons item items inductionHypothesis =>
      cases excess with
      | zero => exact ⟨[], item :: items, rfl, rfl, (Nat.zero_min _).symm⟩
      | succ excess =>
          rw [dropFinished]
          cases running : TaskStatus.isRunning item.status with
          | true =>
              rcases inductionHypothesis (excess + 1) with ⟨early, late, split, kept, count⟩
              refine ⟨item :: early, late, by rw [split]; rfl, ?_, ?_⟩
              · simp only [if_true, kept, List.filter_cons, running, List.cons_append]
              · simpa [running] using count
          | false =>
              rcases inductionHypothesis excess with ⟨early, late, split, kept, count⟩
              refine ⟨item :: early, late, by rw [split]; rfl, ?_, ?_⟩
              · simp only [Bool.false_eq_true, if_false, kept, List.filter_cons, running]
              · simp only [List.filter_cons, running, Bool.not_false, if_true, List.length_cons, count]
                omega

theorem filter_running_dropFinished (excess : Nat) (items : List (TrackedItem S)) :
    ((dropFinished excess items).filter fun item => TaskStatus.isRunning item.status) =
      items.filter fun item => TaskStatus.isRunning item.status := by
  rcases dropFinished_split excess items with ⟨early, late, split, kept, _⟩
  rw [kept, split, List.filter_append, List.filter_append, List.filter_filter]
  simp only [Bool.and_self]

theorem dropFinished_sublist (excess : Nat) (items : List (TrackedItem S)) :
    (dropFinished excess items).Sublist items := by
  rcases dropFinished_split excess items with ⟨early, late, split, kept, _⟩
  rw [kept, split]
  exact List.filter_sublist.append_right late

theorem length_dropFinished (excess : Nat) (items : List (TrackedItem S)) :
    (dropFinished excess items).length +
        min excess (items.filter fun item => !TaskStatus.isRunning item.status).length =
      items.length := by
  rcases dropFinished_split excess items with ⟨early, late, split, kept, count⟩
  have halves := List.length_eq_length_filter_add (l := early)
    fun item => TaskStatus.isRunning item.status
  rw [kept, ← count, split, List.length_append, List.length_append]
  omega

omit [TaskStatus S] in
/-- With distinct ids the first item with an id is the only one. -/
theorem changeItem_eq_map (id : UInt32) (change : TrackedItem S → TrackedItem S)
    {items : List (TrackedItem S)} (distinct : (items.map TrackedItem.id).Nodup) :
    changeItem id change items = items.map fun item => if item.id = id then change item else item := by
  induction items with
  | nil => rfl
  | cons item items inductionHypothesis =>
      rcases List.nodup_cons.mp distinct with ⟨absent, rest⟩
      rw [changeItem, List.map_cons]
      split
      · rename_i same
        have others : (items.map fun item => if item.id = id then change item else item) =
            items.map fun item => item := by
          refine List.map_congr_left fun other member => if_neg fun also => ?_
          exact absent (List.mem_map.mpr ⟨other, member, also.trans same.symm⟩)
        rw [others, List.map_id']
      · rw [inductionHypothesis rest]

theorem register_eq (tracker : BackgroundTracker S) (devicePrefix : Text) (id : UInt32)
    (description : Text) (maxConcurrent maxRetained : Nat) (now : UInt64) :
    tracker.register devicePrefix id description maxConcurrent maxRetained now =
      if maxConcurrent ≤ (tracker.getRunning devicePrefix).length then none
      else
        some ⟨Function.update tracker.items devicePrefix
          (dropFinished
            (((tracker.items devicePrefix).filter fun item =>
              !TaskStatus.isRunning item.status).length - maxRetained)
            (tracker.items devicePrefix) ++ [.start id description now])⟩ := by
  have halves := List.length_eq_length_filter_add (l := tracker.items devicePrefix)
    fun item => TaskStatus.isRunning item.status
  have finished : (tracker.items devicePrefix).length -
      ((tracker.items devicePrefix).filter fun item => TaskStatus.isRunning item.status).length =
        ((tracker.items devicePrefix).filter fun item => !TaskStatus.isRunning item.status).length := by
    omega
  unfold BackgroundTracker.register BackgroundTracker.getRunning
  simp only [List.countP_eq_length_filter, finished]

theorem register_items {tracker after : BackgroundTracker S} {devicePrefix : Text} {id : UInt32}
    {description : Text} {maxConcurrent maxRetained : Nat} {now : UInt64}
    (registers : tracker.register devicePrefix id description maxConcurrent maxRetained now = some after) :
    (tracker.getRunning devicePrefix).length < maxConcurrent ∧
      (∀ other, other ≠ devicePrefix → after.items other = tracker.items other) ∧
      after.items devicePrefix =
        dropFinished
          (((tracker.items devicePrefix).filter fun item =>
            !TaskStatus.isRunning item.status).length - maxRetained)
          (tracker.items devicePrefix) ++ [.start id description now] := by
  rw [register_eq] at registers
  split at registers
  · cases registers
  · rename_i room
    rcases Option.some.inj registers with rfl
    exact ⟨Nat.not_le.mp room, fun other differs => Function.update_of_ne differs _ _,
      Function.update_self _ _ _⟩

/-- Pruning spares the running items, and the new one is running. -/
theorem getRunning_register {tracker after : BackgroundTracker S} {devicePrefix : Text} {id : UInt32}
    {description : Text} {maxConcurrent maxRetained : Nat} {now : UInt64}
    (registers : tracker.register devicePrefix id description maxConcurrent maxRetained now = some after) :
    after.getRunning devicePrefix =
      tracker.getRunning devicePrefix ++ [.start id description now] := by
  rw [BackgroundTracker.getRunning, (register_items registers).2.2, List.filter_append,
    filter_running_dropFinished, BackgroundTracker.getRunning]
  simp [TrackedItem.start, TaskStatus.running_default]

/-- Besides the running items no more are left than are to be retained. -/
theorem length_items_register {tracker after : BackgroundTracker S} {devicePrefix : Text} {id : UInt32}
    {description : Text} {maxConcurrent maxRetained : Nat} {now : UInt64}
    (registers : tracker.register devicePrefix id description maxConcurrent maxRetained now = some after) :
    (after.items devicePrefix).length ≤ (tracker.getRunning devicePrefix).length + maxRetained + 1 := by
  have shrunk := length_dropFinished
    (((tracker.items devicePrefix).filter fun item => !TaskStatus.isRunning item.status).length -
      maxRetained) (tracker.items devicePrefix)
  have halves := List.length_eq_length_filter_add (l := tracker.items devicePrefix)
    fun item => TaskStatus.isRunning item.status
  rw [(register_items registers).2.2, List.length_append, List.length_singleton,
    BackgroundTracker.getRunning]
  omega

end

/-! ## What holds of every reachable tracker -/

namespace Tracking

section

variable {S : Type} [TaskStatus S]

/-- The items of a device are some of its tasks in the order of registration,
among them all active ones. -/
structure Listed (state : Tracking S) : Prop where
  distinct : (state.tasks.map Task.id).Nodup
  listed : ∀ devicePrefix, ((state.tracker.items devicePrefix).map TrackedItem.id).Sublist
    ((state.tasksOf devicePrefix).map Task.id)
  running : ∀ devicePrefix,
    ((state.tracker.getRunning devicePrefix).map fun item => (item.id, item.description)) =
      (state.activeTasks devicePrefix).map fun task => (task.id, task.description)

/-- The items are those of tasks, and both limits are kept. -/
structure Follows (maxConcurrent maxRetained : Nat) (state : Tracking S) : Prop extends Listed state where
  limited : ∀ devicePrefix, (state.tracker.getRunning devicePrefix).length ≤ maxConcurrent
  retained : ∀ devicePrefix,
    (state.tracker.items devicePrefix).length ≤ maxConcurrent + maxRetained

variable {maxConcurrent maxRetained : Nat} {state next : Tracking S} {devicePrefix : Text} {id : UInt32}

theorem listed_empty : Listed (empty : Tracking S) where
  distinct := List.nodup_nil
  listed := fun _ => List.Sublist.refl _
  running := fun _ => rfl

theorem follows_empty : Follows maxConcurrent maxRetained (empty : Tracking S) where
  toListed := listed_empty
  limited := fun _ => Nat.zero_le _
  retained := fun _ => Nat.zero_le _

theorem Listed.distinct_items (listed : Listed state) (devicePrefix : Text) :
    ((state.tracker.items devicePrefix).map TrackedItem.id).Nodup :=
  (listed.listed devicePrefix).nodup (listed.distinct.sublist (List.filter_sublist.map Task.id))

omit [TaskStatus S] in
theorem isActive_iff :
    state.isActive devicePrefix id = true ↔ ∃ task ∈ state.tasks, task.completed = false ∧
      task.devicePrefix = devicePrefix ∧ task.id = id := by
  simp [isActive, activeTasks, tasksOf, and_assoc]

omit [TaskStatus S] in
/-- The id of an active task is not the id of a task of another device. -/
theorem id_ne_of_other (distinct : (state.tasks.map Task.id).Nodup)
    (active : state.isActive devicePrefix id = true) {other : Text} (differs : other ≠ devicePrefix)
    {task : Task} (member : task ∈ state.tasksOf other) : task.id ≠ id := by
  rintro rfl
  rcases isActive_iff.mp active with ⟨own, listed, _, rfl, same⟩
  rcases List.mem_filter.mp member with ⟨known, belongs⟩
  have identical := List.inj_on_of_nodup_map distinct known listed same.symm
  exact differs ((of_decide_eq_true belongs).symm.trans (congrArg Task.devicePrefix identical))

omit [TaskStatus S] in
theorem tasksOf_concat (tracker : BackgroundTracker S) (task : Task) (other : Text) :
    (⟨tracker, state.tasks ++ [task]⟩ : Tracking S).tasksOf other =
      state.tasksOf other ++ if task.devicePrefix = other then [task] else [] := by
  simp only [tasksOf, List.filter_append, List.filter_cons, List.filter_nil, decide_eq_true_eq]

omit [TaskStatus S] in
theorem tasksOf_complete (tracker : BackgroundTracker S) (id : UInt32) (other : Text) :
    (⟨tracker, state.tasks.map (Task.complete id)⟩ : Tracking S).tasksOf other =
      (state.tasksOf other).map (Task.complete id) := by
  rw [tasksOf, tasksOf, List.filter_map]
  refine congrArg _ (List.filter_congr fun task _ => ?_)
  rw [Function.comp_apply, Task.complete_devicePrefix]

omit [TaskStatus S] in
theorem activeTasks_complete (tracker : BackgroundTracker S) (id : UInt32) (other : Text) :
    ((⟨tracker, state.tasks.map (Task.complete id)⟩ : Tracking S).activeTasks other).map
        (fun task => (task.id, task.description)) =
      ((state.activeTasks other).map fun task => (task.id, task.description)).filter
        fun entry => entry.1 ≠ id := by
  rw [activeTasks, activeTasks, tasksOf_complete, List.filter_map, List.map_map, List.filter_map,
    List.filter_filter]
  have flags : ∀ task : Task, (!(task.complete id).completed) =
      (decide (task.id ≠ id) && !task.completed) := by
    intro task
    rw [Task.complete_completed, Bool.not_or, Bool.and_comm, decide_not]
  refine (congrArg _ (List.filter_congr fun task _ => flags task)).trans
    (List.map_congr_left fun task _ => ?_)
  rw [Function.comp_apply, Task.complete_id, Task.complete_description]

theorem Listed.register (listed : Listed state) {description : Text}
    {now : UInt64} {tracker : BackgroundTracker S} (fresh : ∀ task ∈ state.tasks, task.id ≠ id)
    (registers : state.tracker.register devicePrefix id description maxConcurrent maxRetained now =
      some tracker) :
    Listed ⟨tracker, state.tasks ++ [⟨devicePrefix, id, description, false⟩]⟩ := by
  rcases register_items registers with ⟨_, others, own⟩
  refine ⟨?_, fun other => ?_, fun other => ?_⟩
  · rw [List.map_append]
    refine listed.distinct.append (List.nodup_singleton _) fun known member last => ?_
    rcases List.mem_map.mp member with ⟨task, here, rfl⟩
    exact fresh task here (List.mem_singleton.mp last)
  · rw [tasksOf_concat]
    by_cases same : other = devicePrefix
    · subst same
      rw [own, if_pos rfl, List.map_append, List.map_append]
      exact (((dropFinished_sublist _ _).map _).trans (listed.listed other)).append
        (List.Sublist.refl _)
    · rw [others other same, if_neg (Ne.symm same), List.append_nil]
      exact listed.listed other
  · rw [activeTasks, tasksOf_concat]
    by_cases same : other = devicePrefix
    · subst same
      rw [getRunning_register registers, if_pos rfl, List.filter_append, List.map_append, List.map_append]
      exact congrArg (· ++ [(id, description)]) (listed.running other)
    · rw [BackgroundTracker.getRunning, others other same, if_neg (Ne.symm same), List.append_nil]
      exact listed.running other

/-- Step lemma: an item is registered. -/
theorem Follows.register (follows : Follows maxConcurrent maxRetained state) {description : Text}
    {now : UInt64} {tracker : BackgroundTracker S} (fresh : ∀ task ∈ state.tasks, task.id ≠ id)
    (registers : state.tracker.register devicePrefix id description maxConcurrent maxRetained now =
      some tracker) :
    Follows maxConcurrent maxRetained
      ⟨tracker, state.tasks ++ [⟨devicePrefix, id, description, false⟩]⟩ := by
  rcases register_items registers with ⟨room, others, _⟩
  refine ⟨follows.toListed.register fresh registers, fun other => ?_, fun other => ?_⟩
  · by_cases same : other = devicePrefix
    · subst same
      rw [getRunning_register registers, List.length_append]
      exact room
    · rw [BackgroundTracker.getRunning, others other same]
      exact follows.limited other
  · by_cases same : other = devicePrefix
    · subst same
      apply (length_items_register registers).trans
      omega
    · rw [others other same]
      exact follows.retained other

/-- The item of an active task is running. -/
theorem Listed.running_of_active (listed : Listed state)
    (active : state.isActive devicePrefix id = true) {item : TrackedItem S}
    (member : item ∈ state.tracker.items devicePrefix) (same : item.id = id) :
    TaskStatus.isRunning item.status = true := by
  rcases List.any_eq_true.mp active with ⟨task, here, isTask⟩
  have pair : (task.id, task.description) ∈ (state.tracker.getRunning devicePrefix).map
      fun item => (item.id, item.description) := by
    rw [listed.running]
    exact List.mem_map.mpr ⟨task, here, rfl⟩
  rcases List.mem_map.mp pair with ⟨other, running, ids⟩
  rcases List.mem_filter.mp running with ⟨there, live⟩
  have identical : item = other := List.inj_on_of_nodup_map (listed.distinct_items devicePrefix) member
    there (same.trans ((of_decide_eq_true isTask).symm.trans (congrArg Prod.fst ids).symm))
  rw [identical]
  exact live

/-- The items after a change of the item of a task. -/
structure Changed (state : Tracking S) (devicePrefix : Text) (id : UInt32)
    (change : TrackedItem S → TrackedItem S) (after : BackgroundTracker S) : Prop where
  others : ∀ other, other ≠ devicePrefix → after.items other = state.tracker.items other
  own : after.items devicePrefix = (state.tracker.items devicePrefix).map fun item =>
    if item.id = id then change item else item
  same : ∀ item, (change item).id = item.id ∧ (change item).description = item.description

omit [TaskStatus S] in
theorem Changed.ids {change : TrackedItem S → TrackedItem S} {after : BackgroundTracker S}
    (changed : Changed state devicePrefix id change after) (other : Text) :
    (after.items other).map TrackedItem.id = (state.tracker.items other).map TrackedItem.id := by
  by_cases own : other = devicePrefix
  · subst own
    rw [changed.own, List.map_map]
    refine List.map_congr_left fun item _ => ?_
    rw [Function.comp_apply]
    split
    · exact (changed.same item).1
    · rfl
  · rw [changed.others other own]

omit [TaskStatus S] in
theorem Changed.length {change : TrackedItem S → TrackedItem S} {after : BackgroundTracker S}
    (changed : Changed state devicePrefix id change after) (other : Text) :
    (after.items other).length = (state.tracker.items other).length := by
  simpa using congrArg List.length (changed.ids other)

/-- The running items, if the changed item is running or if it is not. -/
theorem Changed.running {change : TrackedItem S → TrackedItem S} {after : BackgroundTracker S}
    (changed : Changed state devicePrefix id change after) {live : Bool}
    (becomes : ∀ item, TaskStatus.isRunning (change item).status = live)
    (before : ∀ item ∈ state.tracker.items devicePrefix, item.id = id →
      TaskStatus.isRunning item.status = true) :
    ((after.getRunning devicePrefix).map fun item => (item.id, item.description)) =
      ((state.tracker.getRunning devicePrefix).map fun item => (item.id, item.description)).filter
        fun entry => live || entry.1 ≠ id := by
  rw [BackgroundTracker.getRunning, BackgroundTracker.getRunning, changed.own, List.filter_map,
    List.map_map, List.filter_map, List.filter_filter]
  have entries : ∀ item : TrackedItem S,
      ((if item.id = id then change item else item).id,
        (if item.id = id then change item else item).description) = (item.id, item.description) := by
    intro item
    split
    · rw [(changed.same item).1, (changed.same item).2]
    · rfl
  have flags : ∀ item ∈ state.tracker.items devicePrefix,
      TaskStatus.isRunning (if item.id = id then change item else item).status =
        ((live || decide (item.id ≠ id)) && TaskStatus.isRunning item.status) := by
    intro item member
    by_cases same : item.id = id
    · rw [if_pos same, becomes item, before item member same]
      simp [same]
    · simp [same]
  exact (congrArg _ (List.filter_congr fun item member => flags item member)).trans
    (List.map_congr_left fun item _ => entries item)

theorem Changed.limited {change : TrackedItem S → TrackedItem S} {after : BackgroundTracker S}
    (changed : Changed state devicePrefix id change after) {live : Bool}
    (becomes : ∀ item, TaskStatus.isRunning (change item).status = live)
    (before : ∀ item ∈ state.tracker.items devicePrefix, item.id = id →
      TaskStatus.isRunning item.status = true) (other : Text) :
    (after.getRunning other).length ≤ (state.tracker.getRunning other).length := by
  by_cases own : other = devicePrefix
  · subst own
    have entries := congrArg List.length (changed.running becomes before)
    rw [List.length_map] at entries
    rw [entries]
    exact (List.length_filter_le _ _).trans (List.length_map _).le
  · rw [BackgroundTracker.getRunning, BackgroundTracker.getRunning, changed.others other own]

theorem Listed.changed_updateStatus (listed : Listed state)
    (devicePrefix : Text) (id : UInt32) (status : S) :
    Changed state devicePrefix id (fun item => { item with status := status })
      (state.tracker.updateStatus devicePrefix id status) where
  others := fun _ differs => Function.update_of_ne differs _ _
  own := (Function.update_self _ _ _).trans
    (changeItem_eq_map id _ (listed.distinct_items devicePrefix))
  same := fun _ => ⟨rfl, rfl⟩

theorem Listed.changed_complete (listed : Listed state)
    (devicePrefix : Text) (id : UInt32) (status : S) (now : UInt64) :
    Changed state devicePrefix id (fun item => { item with status := status, completedAt := some now })
      (state.tracker.complete devicePrefix id status now) where
  others := fun _ differs => Function.update_of_ne differs _ _
  own := (Function.update_self _ _ _).trans
    (changeItem_eq_map id _ (listed.distinct_items devicePrefix))
  same := fun _ => ⟨rfl, rfl⟩

theorem Listed.updateStatus (listed : Listed state) {status : S}
    (active : state.isActive devicePrefix id = true) (running : TaskStatus.isRunning status = true) :
    Listed { state with tracker := state.tracker.updateStatus devicePrefix id status } := by
  have changed := listed.changed_updateStatus devicePrefix id status
  refine ⟨listed.distinct, fun other => (changed.ids other) ▸ listed.listed other, fun other => ?_⟩
  by_cases own : other = devicePrefix
  · subst own
    refine (changed.running (fun _ => running) fun item => listed.running_of_active active).trans ?_
    simp only [Bool.true_or, List.filter_true]
    exact listed.running other
  · refine Eq.trans ?_ (listed.running other)
    rw [BackgroundTracker.getRunning, changed.others other own]
    rfl

/-- Step lemma: a task reports its progress. -/
theorem Follows.updateStatus (follows : Follows maxConcurrent maxRetained state) {status : S}
    (active : state.isActive devicePrefix id = true) (running : TaskStatus.isRunning status = true) :
    Follows maxConcurrent maxRetained
      { state with tracker := state.tracker.updateStatus devicePrefix id status } := by
  have changed := follows.changed_updateStatus devicePrefix id status
  have before : ∀ item ∈ state.tracker.items devicePrefix, item.id = id →
      TaskStatus.isRunning item.status = true := fun item => follows.running_of_active active
  refine ⟨follows.toListed.updateStatus active running, fun other => ?_, fun other => ?_⟩
  · exact (changed.limited (fun _ => running) before other).trans (follows.limited other)
  · exact (changed.length other).le.trans (follows.retained other)

theorem Listed.complete (listed : Listed state) {status : S} (now : UInt64)
    (active : state.isActive devicePrefix id = true) (finished : TaskStatus.isRunning status = false) :
    Listed ⟨state.tracker.complete devicePrefix id status now, state.tasks.map (Task.complete id)⟩ := by
  have changed := listed.changed_complete devicePrefix id status now
  refine ⟨?_, fun other => ?_, fun other => ?_⟩
  · rw [List.map_map]
    exact (List.map_congr_left fun task _ => Task.complete_id id task) ▸ listed.distinct
  · rw [tasksOf_complete, List.map_map]
    have ids : (state.tasksOf other).map (Task.id ∘ Task.complete id) =
        (state.tasksOf other).map Task.id := List.map_congr_left fun task _ => Task.complete_id id task
    rw [ids]
    exact changed.ids other ▸ listed.listed other
  · rw [activeTasks_complete]
    by_cases own : other = devicePrefix
    · subst own
      refine (changed.running (fun _ => finished) fun item => listed.running_of_active active).trans ?_
      simp only [Bool.false_or, listed.running]
    · have untouched : (state.tracker.complete devicePrefix id status now).getRunning other =
          state.tracker.getRunning other := by
        rw [BackgroundTracker.getRunning, changed.others other own]
        rfl
      have unmarked : ∀ entry ∈ (state.activeTasks other).map fun task => (task.id, task.description),
          decide (entry.1 ≠ id) = true := by
        intro entry member
        rcases List.mem_map.mp member with ⟨task, here, rfl⟩
        exact decide_eq_true (id_ne_of_other listed.distinct active own (List.mem_filter.mp here).1)
      rw [List.filter_eq_self.mpr unmarked, ← listed.running]
      exact congrArg _ untouched

/-- Step lemma: a task completes. -/
theorem Follows.complete (follows : Follows maxConcurrent maxRetained state) {status : S} (now : UInt64)
    (active : state.isActive devicePrefix id = true) (finished : TaskStatus.isRunning status = false) :
    Follows maxConcurrent maxRetained
      ⟨state.tracker.complete devicePrefix id status now, state.tasks.map (Task.complete id)⟩ := by
  have changed := follows.changed_complete devicePrefix id status now
  have before : ∀ item ∈ state.tracker.items devicePrefix, item.id = id →
      TaskStatus.isRunning item.status = true := fun item => follows.running_of_active active
  refine ⟨follows.toListed.complete now active finished, fun other => ?_, fun other => ?_⟩
  · exact (changed.limited (fun _ => finished) before other).trans (follows.limited other)
  · exact (changed.length other).le.trans (follows.retained other)

/-! ## Steps and runs -/

/-- What a call can do, with the conditions under which it is made. -/
theorem step_cases {call : TrackerCall S}
    (steps : (tracking maxConcurrent maxRetained).step state call = some next) :
    (∃ devicePrefix id description now, call = .register devicePrefix id description now ∧
        (∀ task ∈ state.tasks, task.id ≠ id) ∧
        ((∃ tracker, state.tracker.register devicePrefix id description maxConcurrent maxRetained now =
            some tracker ∧
            next = ⟨tracker, state.tasks ++ [⟨devicePrefix, id, description, false⟩]⟩) ∨
          (state.tracker.register devicePrefix id description maxConcurrent maxRetained now = none ∧
            next = state))) ∨
      (∃ devicePrefix id status, call = .updateStatus devicePrefix id status ∧
        state.isActive devicePrefix id = true ∧ TaskStatus.isRunning status = true ∧
        next = { state with tracker := state.tracker.updateStatus devicePrefix id status }) ∨
      ∃ devicePrefix id status now, call = .complete devicePrefix id status now ∧
        state.isActive devicePrefix id = true ∧ TaskStatus.isRunning status = false ∧
        next = ⟨state.tracker.complete devicePrefix id status now,
          state.tasks.map (Task.complete id)⟩ := by
  cases call with
  | register devicePrefix id description now =>
      rw [tracking] at steps
      simp only at steps
      split at steps
      · cases steps
      · rename_i fresh
        refine .inl ⟨devicePrefix, id, description, now, rfl, fun task member same => ?_, ?_⟩
        · exact fresh (List.any_eq_true.mpr ⟨task, member, decide_eq_true same⟩)
        · split at steps
          · rename_i tracker registers
            exact .inl ⟨tracker, registers, (Option.some.inj steps).symm⟩
          · rename_i refused
            exact .inr ⟨refused, (Option.some.inj steps).symm⟩
  | updateStatus devicePrefix id status =>
      rcases Option.ite_none_right_eq_some.mp steps with ⟨allowed, same⟩
      rcases Bool.and_eq_true_iff.mp allowed with ⟨active, running⟩
      exact .inr (.inl ⟨devicePrefix, id, status, rfl, active, running, (Option.some.inj same).symm⟩)
  | complete devicePrefix id status now =>
      rcases Option.ite_none_right_eq_some.mp steps with ⟨allowed, same⟩
      rcases Bool.and_eq_true_iff.mp allowed with ⟨active, finished⟩
      rw [Bool.not_eq_true'] at finished
      exact .inr (.inr ⟨devicePrefix, id, status, now, rfl, active, finished,
        (Option.some.inj same).symm⟩)

theorem Listed.step {call : TrackerCall S} (listed : Listed state)
    (steps : (tracking maxConcurrent maxRetained).step state call = some next) : Listed next := by
  rcases step_cases steps with
    ⟨devicePrefix, id, description, now, rfl, fresh, ⟨tracker, registers, rfl⟩ | ⟨_, rfl⟩⟩ |
      ⟨devicePrefix, id, status, rfl, active, running, rfl⟩ |
      ⟨devicePrefix, id, status, now, rfl, active, finished, rfl⟩
  · exact listed.register fresh registers
  · exact listed
  · exact listed.updateStatus active running
  · exact listed.complete now active finished

theorem Follows.step {call : TrackerCall S} (follows : Follows maxConcurrent maxRetained state)
    (steps : (tracking maxConcurrent maxRetained).step state call = some next) :
    Follows maxConcurrent maxRetained next := by
  rcases step_cases steps with
    ⟨devicePrefix, id, description, now, rfl, fresh, ⟨tracker, registers, rfl⟩ | ⟨_, rfl⟩⟩ |
      ⟨devicePrefix, id, status, rfl, active, running, rfl⟩ |
      ⟨devicePrefix, id, status, now, rfl, active, finished, rfl⟩
  · exact follows.register fresh registers
  · exact follows
  · exact follows.updateStatus active running
  · exact follows.complete now active finished

/-- What is missing afterwards was finished, and every finished item that was
registered earlier is missing as well. -/
def OldestFirst (before after : List (TrackedItem S)) : Prop :=
  ∀ front item back, before = front ++ item :: back → (∀ kept ∈ after, kept.id ≠ item.id) →
    TaskStatus.isRunning item.status = false ∧
      ∀ older ∈ front, TaskStatus.isRunning older.status = false →
        ∀ kept ∈ after, kept.id ≠ older.id

theorem oldestFirst_of_ids {before after : List (TrackedItem S)}
    (same : after.map TrackedItem.id = before.map TrackedItem.id) : OldestFirst before after := by
  rintro front item back rfl missing
  have member : item.id ∈ after.map TrackedItem.id := by
    rw [same]
    exact List.mem_map.mpr ⟨item, List.mem_append_right front List.mem_cons_self, rfl⟩
  rcases List.mem_map.mp member with ⟨kept, here, sameId⟩
  exact absurd sameId (missing kept here)

theorem oldestFirst_dropFinished (excess : Nat) {before : List (TrackedItem S)} {new : TrackedItem S}
    (distinct : (before.map TrackedItem.id).Nodup) (fresh : ∀ item ∈ before, item.id ≠ new.id) :
    OldestFirst before (dropFinished excess before ++ [new]) := by
  rintro front item back split missing
  rcases dropFinished_split excess before with ⟨early, late, parts, kept, _⟩
  rw [kept] at missing ⊢
  have notLate : item ∉ late := fun member =>
    missing item (List.mem_append_left _ (List.mem_append_right _ member)) rfl
  rcases List.append_eq_append_iff.mp (split.symm.trans parts) with
    ⟨middle, rest, tail⟩ | ⟨middle, rest, tail⟩
  · have early' : item ∈ early := by
      rw [rest]
      cases middle with
      | nil =>
          have same : item :: back = late := tail
          exact absurd (same ▸ List.mem_cons_self) notLate
      | cons first middle =>
          rw [(List.cons.inj tail).1]
          exact List.mem_append_right front List.mem_cons_self
    have finished : TaskStatus.isRunning item.status = false := by
      rw [← Bool.not_eq_true]
      exact fun running => missing item (List.mem_append_left _ (List.mem_append_left _
        (List.mem_filter.mpr ⟨early', running⟩))) rfl
    refine ⟨finished, fun older member idle other here same => ?_⟩
    have olderEarly : older ∈ early := rest ▸ List.mem_append_left middle member
    have olderBefore : older ∈ before := parts ▸ List.mem_append_left late olderEarly
    rw [parts, List.map_append] at distinct
    rcases List.mem_append.mp here with present | last
    · rcases List.mem_append.mp present with running | later
      · rcases List.mem_filter.mp running with ⟨inEarly, live⟩
        rw [List.inj_on_of_nodup_map distinct.of_append_left inEarly olderEarly same, idle] at live
        cases live
      · exact (List.nodup_append.mp distinct).2.2 _ (List.mem_map_of_mem olderEarly) _
          (List.mem_map_of_mem later) same.symm
    · rw [List.mem_singleton.mp last] at same
      exact fresh older olderBefore same.symm
  · exact absurd (tail ▸ List.mem_append_right middle List.mem_cons_self) notLate

/-- The limits hold at all times, the running items are the active tasks, and
items go as the oldest finished ones of the device that registers a task. -/
theorem tracker_bounds {schedule : List (TrackerCall S)}
    (runs : (tracking maxConcurrent maxRetained).run empty schedule = some state) :
    (∀ devicePrefix, (state.tracker.getRunning devicePrefix).length ≤ maxConcurrent ∧
        (state.tracker.items devicePrefix).length ≤ maxConcurrent + maxRetained) ∧
      (∀ devicePrefix,
        ((state.tracker.getRunning devicePrefix).map fun item => (item.id, item.description)) =
          (state.activeTasks devicePrefix).map fun task => (task.id, task.description)) ∧
      (∀ devicePrefix, ((state.tracker.items devicePrefix).map TrackedItem.id).Sublist
        ((state.tasksOf devicePrefix).map Task.id)) ∧
      ∀ call next, (tracking maxConcurrent maxRetained).step state call = some next →
        (∀ other, other ≠ call.devicePrefix → next.tracker.items other = state.tracker.items other) ∧
          OldestFirst (state.tracker.items call.devicePrefix) (next.tracker.items call.devicePrefix) ∧
          ∀ devicePrefix id description now, call = .register devicePrefix id description now →
            state.tracker.register devicePrefix id description maxConcurrent maxRetained now = none →
              next.tracker = state.tracker := by
  have follows : Follows maxConcurrent maxRetained state :=
    Machine.run_keeps (fun _ _ _ here steps => Follows.step here steps) follows_empty runs
  refine ⟨fun devicePrefix => ⟨follows.limited devicePrefix, follows.retained devicePrefix⟩,
    follows.running, follows.listed, fun call next steps => ?_⟩
  rcases step_cases steps with
    ⟨devicePrefix, id, description, now, rfl, fresh, ⟨tracker, registers, rfl⟩ | ⟨refused, rfl⟩⟩ |
      ⟨devicePrefix, id, status, rfl, active, running, rfl⟩ |
      ⟨devicePrefix, id, status, now, rfl, active, finished, rfl⟩
  · rcases register_items registers with ⟨_, others, own⟩
    refine ⟨others, ?_, ?_⟩
    · rw [TrackerCall.devicePrefix, own]
      refine oldestFirst_dropFinished _ (follows.distinct_items devicePrefix) fun item member same => ?_
      have listed := (follows.listed devicePrefix).mem (List.mem_map_of_mem member)
      rcases List.mem_map.mp listed with ⟨task, here, sameId⟩
      exact fresh task (List.mem_filter.mp here).1 (sameId.trans same)
    · intro devicePrefix' id' description' now' same refused
      cases same
      rw [registers] at refused
      cases refused
  · exact ⟨fun _ _ => rfl, oldestFirst_of_ids rfl, fun _ _ _ _ _ _ => rfl⟩
  · have changed := follows.changed_updateStatus devicePrefix id status
    exact ⟨changed.others, oldestFirst_of_ids (changed.ids devicePrefix), by rintro _ _ _ _ ⟨⟩⟩
  · have changed := follows.changed_complete devicePrefix id status now
    exact ⟨changed.others, oldestFirst_of_ids (changed.ids devicePrefix), by rintro _ _ _ _ ⟨⟩⟩

end

/-- Two devices with limits of one: a task is refused while another runs, and
the third task of a device replaces its first. -/
def twoDevices : List (TrackerCall CodeTaskStatus) :=
  [.register "a".toList 1 "first".toList 10, .register "b".toList 2 "other".toList 10,
    .register "a".toList 3 "refused".toList 11, .updateStatus "a".toList 1 .running,
    .complete "a".toList 1 (.completed []) 12, .register "a".toList 4 "second".toList 13,
    .complete "a".toList 4 (.failed []) 14, .register "a".toList 5 "third".toList 15]

theorem twoDevices_runs : ((tracking 1 1).run empty twoDevices).any (fun state =>
    (state.tracker.items "a".toList).map TrackedItem.id = [4, 5]) = true := by
  decide +kernel

theorem tracker_bounds_twoDevices :
    ∃ state, (tracking 1 1).run empty twoDevices = some state ∧
      (state.tracker.items "a".toList).map TrackedItem.id = [4, 5] ∧
      (state.tracker.getRunning "a".toList).length ≤ 1 ∧
      (state.tracker.items "a".toList).length ≤ 1 + 1 := by
  rcases (Option.any_eq_true _ _).mp twoDevices_runs with ⟨state, runs, ids⟩
  exact ⟨state, runs, of_decide_eq_true ids, (tracker_bounds runs).1 "a".toList⟩

end Tracking

end Agent
end Rabb1tClaw
