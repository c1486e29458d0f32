import Mathlib.Logic.Function.Basic
import Rabb1tClaw.Agent.Markers
import Rabb1tClaw.Agent.Session
import Rabb1tClaw.Foundations.Parts

namespace Rabb1tClaw
namespace Agent

open Foundations

/-!
# Background tasks

The markers of a response ask for background tasks of three kinds.  Each kind
has a tracker, which keeps the tasks of a device under the prefix of its
token, and all kinds write to one task log per device.

`dispatch_background_agents` registers a task for a dispatch marker, if the
marker is the first of its type and description in the response and if the
tracker has room, and it hands an answer to the question that waits for it.
The tasks that it spawns, and what they do afterwards, are not modelled.
-/

/-! ## Trackers -/

/-- Status values tell whether a task is still running. -/
class TaskStatus (S : Type) where
  isRunning : S → Bool
  defaultRunning : S
  running_default : isRunning defaultRunning = true

inductive CodeTaskStatus where
  | running
  | completed (output : Text)
  | failed (error : Text)
  deriving DecidableEq, Repr

inductive SearchQueryStatus where
  | running
  | completed (context : Text)
  | failed (error : Text)
  deriving DecidableEq, Repr

inductive AdvancedTaskStatus where
  | running (step : UInt32) (detail : Text)
  | needsInput (question : Text)
  | completed (summary : Text)
  | failed (error : Text)
  deriving DecidableEq, Repr

instance : TaskStatus CodeTaskStatus where
  isRunning
    | .running => true
    | _ => false
  defaultRunning := .running
  running_default := rfl

instance : TaskStatus SearchQueryStatus where
  isRunning
    | .running => true
    | _ => false
  defaultRunning := .running
  running_default := rfl

instance : TaskStatus AdvancedTaskStatus where
  isRunning
    | .running _ _ | .needsInput _ => true
    | _ => false
  defaultRunning := .running 0 "initializing".toList
  running_default := rfl

structure TrackedItem (S : Type) where
  id : UInt32
  description : Text
  status : S
  startedAt : UInt64
  completedAt : Option UInt64
  deriving DecidableEq, Repr

/-- The tracked items of each device, by the prefix of its token. -/
structure BackgroundTracker (S : Type) where
  items : Text → List (TrackedItem S)

section

variable {S : Type} [TaskStatus S]

/-- The oldest finished items are dropped, as many as are in excess. -/
def dropFinished : Nat → List (TrackedItem S) → List (TrackedItem S)
  | 0, items => items
  | _ + 1, [] => []
  | excess + 1, item :: items =>
      if TaskStatus.isRunning item.status then item :: dropFinished (excess + 1) items
      else dropFinished excess items

/-- A new item. -/
def TrackedItem.start (id : UInt32) (description : Text) (now : UInt64) : TrackedItem S :=
  ⟨id, description, TaskStatus.defaultRunning, now, none⟩

/-- `BackgroundTracker::register`: nothing is registered at capacity. -/
def BackgroundTracker.register (tracker : BackgroundTracker S) (devicePrefix : Text) (id : UInt32)
    (description : Text) (maxConcurrent maxRetained : Nat) (now : UInt64) : Option (BackgroundTracker S) :=
  let entry := tracker.items devicePrefix
  let running := entry.countP fun item => TaskStatus.isRunning item.status
  if running ≥ maxConcurrent then
    none
  else
    let kept := dropFinished ((entry.length - running) - maxRetained) entry
    some ⟨Function.update tracker.items devicePrefix (kept ++ [.start id description now])⟩

end

/-! ## The task log -/

/-- `str::lines`: complete lines lose a carriage return before their end. -/
def textLines (text : Text) : List Text :=
  ((completeParts '\n' text).map fun line => if line.getLast? = some '\r' then line.dropLast else line) ++
    if openPart '\n' text = [] then [] else [openPart '\n' text]

/-- `tasklog::append`, from the text of the log to its new text. -/
def appendLog (content : Option Text) (stamp event : Text) (maxEntries : Nat) : Text :=
  let flat := event.map fun char => if char = '\n' then ' ' else char
  let line := '[' :: (stamp ++ ("] ".toList ++ flat))
  let lines := ((textLines (content.getD [])).filter fun line => line ≠ []) ++ [line]
  List.intercalate ['\n'] (lines.drop (lines.length - maxEntries)) ++ ['\n']

/-! ## Dispatch -/

structure PendingQuestion where
  devicePrefix : Text
  taskId : UInt32
  deriving DecidableEq, Repr

/-- What the gateway keeps of the background tasks. -/
structure Background where
  codeTaskTracker : BackgroundTracker CodeTaskStatus
  searchQueryTracker : BackgroundTracker SearchQueryStatus
  advancedTaskTracker : BackgroundTracker AdvancedTaskStatus
  advancedQuestions : List PendingQuestion
  nextTaskId : UInt32
  taskLogs : Text → Option Text

/-- The limits of the configuration. -/
structure DispatchLimits where
  codeMaxConcurrent : Option Nat
  searchMaxConcurrent : Option Nat
  advancedMaxConcurrent : Option Nat
  taskLogMaxEntries : Option Nat
  deriving DecidableEq, Repr

namespace DispatchLimits

variable (limits : DispatchLimits)

def codeMax : Nat := limits.codeMaxConcurrent.getD 2

def searchMax : Nat := limits.searchMaxConcurrent.getD 3

def advancedMax : Nat := limits.advancedMaxConcurrent.getD 1

def taskLogMax : Nat := limits.taskLogMaxEntries.getD 50

end DispatchLimits

/-- The clock as a marker is handled: the seconds, and the time of day for the
log. -/
structure DispatchMoment where
  nowSecs : UInt64
  stamp : Text
  deriving DecidableEq, Repr

namespace Background

/-- The decimal digits of a task id. -/
def showId (id : UInt32) : Text := Nat.toDigits 10 id.toNat

def log (background : Background) (devicePrefix : Text) (moment : DispatchMoment) (event : Text)
    (maxEntries : Nat) : Background :=
  { background with
    taskLogs := Function.update background.taskLogs devicePrefix
      (some (appendLog (background.taskLogs devicePrefix) moment.stamp event maxEntries)) }

/-- `answer_pending_question`: the question that is answered, if it waits. -/
def answerPendingQuestion (background : Background) (devicePrefix : Text) (taskId : UInt32) :
    Option Background :=
  (background.advancedQuestions.findIdx? fun question =>
      question.devicePrefix = devicePrefix ∧ question.taskId = taskId).map fun index =>
    { background with advancedQuestions := background.advancedQuestions.eraseIdx index }

/-- A task of a kind is registered in its tracker and logged. -/
def dispatchTask {S : Type} [TaskStatus S] (background : Background) (tracker : BackgroundTracker S)
    (setTracker : Background → BackgroundTracker S → Background) (kind desc : Text) (maxConcurrent : Nat)
    (devicePrefix : Text) (moment : DispatchMoment) (taskLogMax : Nat) : Background :=
  let taskId := background.nextTaskId
  let counted := { background with nextTaskId := taskId + 1 }
  match tracker.register devicePrefix taskId desc maxConcurrent taskLogMax moment.nowSecs with
  | some registered =>
      (setTracker counted registered).log devicePrefix moment
        ("dispatched #".toList ++ (showId taskId ++ (' ' :: (kind ++ (" — ".toList ++ desc)))))
        taskLogMax
  | none => counted

/-- The arm of a dispatch marker, by its type. -/
def dispatch (background : Background) (limits : DispatchLimits) (devicePrefix : Text)
    (moment : DispatchMoment) (taskType desc : Text) : Background :=
  if taskType = "code".toList then
    background.dispatchTask background.codeTaskTracker
      (fun state tracker => { state with codeTaskTracker := tracker }) taskType desc limits.codeMax
      devicePrefix moment limits.taskLogMax
  else if taskType = "search".toList then
    background.dispatchTask background.searchQueryTracker
      (fun state tracker => { state with searchQueryTracker := tracker }) taskType desc limits.searchMax
      devicePrefix moment limits.taskLogMax
  else if taskType = "advanced".toList then
    background.dispatchTask background.advancedTaskTracker
      (fun state tracker => { state with advancedTaskTracker := tracker }) taskType desc
      limits.advancedMax devicePrefix moment limits.taskLogMax
  else
    background

/-- The arm of an answer marker. -/
def answer (background : Background) (limits : DispatchLimits) (devicePrefix : Text)
    (moment : DispatchMoment) (id : UInt32) (answer : Text) : Background :=
  match background.answerPendingQuestion devicePrefix id with
  | some answered =>
      answered.log devicePrefix moment ("answered #".toList ++ (showId id ++ (" — ".toList ++ answer)))
        limits.taskLogMax
  | none => background

/-- One turn of the loop over the markers; `seen` are the dispatches so far. -/
def handleMarker (limits : DispatchLimits) (devicePrefix : Text) (moment : DispatchMoment)
    (state : Background × List (Text × Text)) : TaskMarker → Background × List (Text × Text)
  | .dispatch taskType desc =>
      if (taskType, desc) ∈ state.2 then
        state
      else
        (state.1.dispatch limits devicePrefix moment taskType desc, (taskType, desc) :: state.2)
  | .answer id answer => (state.1.answer limits devicePrefix moment id answer, state.2)

/-- The loop over the markers of a response. -/
def handleMarkers (limits : DispatchLimits) (devicePrefix : Text) (moments : Nat → DispatchMoment)
    (background : Background) (markers : List TaskMarker) : Background :=
  (markers.zipIdx.foldl
    (fun state entry => handleMarker limits devicePrefix (moments entry.2) state entry.1)
    (background, [])).1

/-- `dispatch_background_agents`; a token without a prefix panics. -/
def dispatchBackgroundAgents (fromStr : ParseArray) (limits : DispatchLimits)
    (moments : Nat → DispatchMoment) (background : Background) (token fullResponse : Text) :
    Option Background :=
  match tokenPrefix token, parseTaskMarkers fromStr fullResponse with
  | some devicePrefix, .returned markers =>
      some (background.handleMarkers limits devicePrefix moments markers)
  | _, _ => none

end Background

/-! ## What is registered -/

section

variable {S : Type} [TaskStatus S]

theorem dropFinished_running {items : List (TrackedItem S)}
    (running : ∀ item ∈ items, TaskStatus.isRunning item.status = true) (excess : Nat) :
    dropFinished excess items = items := by
  induction items with
  | nil => cases excess <;> rfl
  | cons item items inductionHypothesis =>
      cases excess with
      | zero => rfl
      | succ excess =>
          rw [dropFinished, if_pos (running item List.mem_cons_self),
            inductionHypothesis fun other member => running other (List.mem_cons_of_mem item member)]

/-- Running items behind the others are kept. -/
theorem dropFinished_append (kept : List (TrackedItem S)) {new : List (TrackedItem S)}
    (running : ∀ item ∈ new, TaskStatus.isRunning item.status = true) (excess : Nat) :
    ∃ fewer, fewer.Sublist kept ∧ dropFinished excess (kept ++ new) = fewer ++ new := by
  induction kept generalizing excess with
  | nil => exact ⟨[], .slnil, dropFinished_running running excess⟩
  | cons item kept inductionHypothesis =>
      cases excess with
      | zero => exact ⟨item :: kept, List.Sublist.refl _, rfl⟩
      | succ excess =>
          rw [List.cons_append, dropFinished]
          split
          · rcases inductionHypothesis (excess + 1) with ⟨fewer, sublist, same⟩
            exact ⟨item :: fewer, sublist.cons_cons item, congrArg (item :: ·) same⟩
          · rcases inductionHypothesis excess with ⟨fewer, sublist, same⟩
            exact ⟨fewer, sublist.cons item, same⟩

/-- The tracker has got running items with some of the descriptions, each used
once and in their order, and may have lost older items. -/
structure Registered (devicePrefix : Text) (descriptions : List Text) (before after : BackgroundTracker S) :
    Prop where
  others : ∀ other, other ≠ devicePrefix → after.items other = before.items other
  own : ∃ kept new, after.items devicePrefix = kept ++ new ∧ kept.Sublist (before.items devicePrefix) ∧
    (∀ item ∈ new, item.status = TaskStatus.defaultRunning ∧ item.completedAt = none) ∧
    (new.map TrackedItem.description).Sublist descriptions

variable {devicePrefix : Text} {descriptions more : List Text} {before state after : BackgroundTracker S}

theorem Registered.refl (tracker : BackgroundTracker S) : Registered devicePrefix [] tracker tracker :=
  ⟨fun _ _ => rfl, _, [], (List.append_nil _).symm, List.Sublist.refl _, by simp, List.Sublist.refl _⟩

theorem Registered.mono (registered : Registered devicePrefix descriptions before after)
    (sublist : descriptions.Sublist more) : Registered devicePrefix more before after := by
  rcases registered.own with ⟨kept, new, items, older, running, described⟩
  exact ⟨registered.others, kept, new, items, older, running, described.trans sublist⟩

theorem register_spec {id : UInt32} {description : Text} {maxConcurrent maxRetained : Nat} {now : UInt64}
    (step : state.register devicePrefix id description maxConcurrent maxRetained now = some after) :
    (∀ other, other ≠ devicePrefix → after.items other = state.items other) ∧
      ∃ excess, after.items devicePrefix =
        dropFinished excess (state.items devicePrefix) ++ [.start id description now] := by
  unfold BackgroundTracker.register at step
  simp only at step
  split at step
  · cases step
  · rcases Option.some.inj step with rfl
    exact ⟨fun other differs => Function.update_of_ne differs _ _, _, Function.update_self _ _ _⟩

theorem Registered.register (registered : Registered devicePrefix descriptions before state)
    {id : UInt32} {description : Text} {maxConcurrent maxRetained : Nat} {now : UInt64}
    (step : state.register devicePrefix id description maxConcurrent maxRetained now = some after) :
    Registered devicePrefix (descriptions ++ [description]) before after := by
  rcases registered.own with ⟨kept, new, items, older, running, described⟩
  rcases register_spec step with ⟨others, excess, own⟩
  have live : ∀ item ∈ new, TaskStatus.isRunning item.status = true := by
    intro item member
    rw [(running item member).1]
    exact TaskStatus.running_default
  rcases dropFinished_append kept live excess with ⟨fewer, sublist, dropped⟩
  refine ⟨fun other differs => (others other differs).trans (registered.others other differs),
    fewer, new ++ [.start id description now], ?_, sublist.trans older, ?_, ?_⟩
  · rw [own, items, dropped, List.append_assoc]
  · intro item member
    rcases List.mem_append.mp member with earlier | last
    · exact running item earlier
    · rw [List.mem_singleton.mp last]
      exact ⟨rfl, rfl⟩
  · rw [List.map_append]
    exact described.append (List.Sublist.refl _)

end

/-- The descriptions of the dispatch markers of a type. -/
def dispatched (kind : Text) (markers : List TaskMarker) : List Text :=
  markers.filterMap fun
    | .dispatch taskType desc => if taskType = kind then some desc else none
    | .answer _ _ => none

/-- The trackers of a device have tasks for dispatch markers only, and the
logs of other devices are as before. -/
structure Dispatches (devicePrefix : Text) (markers : List TaskMarker) (before after : Background) : Prop where
  code : Registered devicePrefix (dispatched "code".toList markers) before.codeTaskTracker
    after.codeTaskTracker
  search : Registered devicePrefix (dispatched "search".toList markers) before.searchQueryTracker
    after.searchQueryTracker
  advanced : Registered devicePrefix (dispatched "advanced".toList markers) before.advancedTaskTracker
    after.advancedTaskTracker
  logs : ∀ other, other ≠ devicePrefix → after.taskLogs other = before.taskLogs other

section

variable {devicePrefix : Text} {markers : List TaskMarker} {before state : Background}

theorem dispatched_concat (kind desc : Text) :
    dispatched kind (markers ++ [.dispatch kind desc]) = dispatched kind markers ++ [desc] := by
  simp [dispatched, List.filterMap_append]

theorem dispatched_sublist (kind : Text) (marker : TaskMarker) :
    (dispatched kind markers).Sublist (dispatched kind (markers ++ [marker])) :=
  (List.sublist_append_left markers [marker]).filterMap _

/-- Nothing is registered for a marker. -/
theorem Dispatches.skip {after : Background} (dispatches : Dispatches devicePrefix markers before state)
    (marker : TaskMarker) (code : after.codeTaskTracker = state.codeTaskTracker)
    (search : after.searchQueryTracker = state.searchQueryTracker)
    (advanced : after.advancedTaskTracker = state.advancedTaskTracker)
    (logs : ∀ other, other ≠ devicePrefix → after.taskLogs other = state.taskLogs other) :
    Dispatches devicePrefix (markers ++ [marker]) before after where
  code := code ▸ dispatches.code.mono (dispatched_sublist _ marker)
  search := search ▸ dispatches.search.mono (dispatched_sublist _ marker)
  advanced := advanced ▸ dispatches.advanced.mono (dispatched_sublist _ marker)
  logs := fun other differs => (logs other differs).trans (dispatches.logs other differs)

theorem Dispatches.log (dispatches : Dispatches devicePrefix markers before state)
    (moment : DispatchMoment) (event : Text) (maxEntries : Nat) :
    Dispatches devicePrefix markers before (state.log devicePrefix moment event maxEntries) where
  code := dispatches.code
  search := dispatches.search
  advanced := dispatches.advanced
  logs := fun other differs =>
    (Function.update_of_ne differs _ _).trans (dispatches.logs other differs)

/-- A task is registered and logged, or the tracker has no room. -/
theorem Dispatches.dispatchTask {S : Type} [TaskStatus S] (dispatches : Dispatches devicePrefix markers before state)
    {tracker : BackgroundTracker S} {setTracker : Background → BackgroundTracker S → Background}
    {kind desc : Text} {maxConcurrent taskLogMax : Nat} {moment : DispatchMoment}
    (registers : ∀ id after, tracker.register devicePrefix id desc maxConcurrent taskLogMax moment.nowSecs =
      some after → Dispatches devicePrefix (markers ++ [.dispatch kind desc]) before
        (setTracker { state with nextTaskId := state.nextTaskId + 1 } after)) :
    Dispatches devicePrefix (markers ++ [.dispatch kind desc]) before
      (state.dispatchTask tracker setTracker kind desc maxConcurrent devicePrefix moment taskLogMax) := by
  unfold Background.dispatchTask
  simp only
  split
  · rename_i registered step
    apply Dispatches.log
    exact registers _ registered step
  · exact dispatches.skip _ rfl rfl rfl fun _ _ => rfl

/-- Step lemma: the arm of a dispatch marker. -/
theorem Dispatches.dispatch (dispatches : Dispatches devicePrefix markers before state)
    (limits : DispatchLimits) (moment : DispatchMoment) (taskType desc : Text) :
    Dispatches devicePrefix (markers ++ [.dispatch taskType desc]) before
      (state.dispatch limits devicePrefix moment taskType desc) := by
  have kept : Dispatches devicePrefix (markers ++ [.dispatch taskType desc]) before state :=
    dispatches.skip _ rfl rfl rfl fun _ _ => rfl
  unfold Background.dispatch
  split
  · rename_i kind
    subst kind
    apply dispatches.dispatchTask
    intro id registered step
    refine ⟨?_, kept.search, kept.advanced, kept.logs⟩
    rw [dispatched_concat]
    exact dispatches.code.register step
  split
  · rename_i kind
    subst kind
    apply dispatches.dispatchTask
    intro id registered step
    refine ⟨kept.code, ?_, kept.advanced, kept.logs⟩
    rw [dispatched_concat]
    exact dispatches.search.register step
  split
  · rename_i kind
    subst kind
    apply dispatches.dispatchTask
    intro id registered step
    refine ⟨kept.code, kept.search, ?_, kept.logs⟩
    rw [dispatched_concat]
    exact dispatches.advanced.register step
  · exact kept

/-- Step lemma: one turn of the loop. -/
theorem Dispatches.handleMarker {seen : List (Text × Text)}
    (dispatches : Dispatches devicePrefix markers before state) (limits : DispatchLimits)
    (moment : DispatchMoment) (marker : TaskMarker) :
    Dispatches devicePrefix (markers ++ [marker]) before
      (Background.handleMarker limits devicePrefix moment (state, seen) marker).1 := by
  cases marker with
  | dispatch taskType desc =>
      unfold Background.handleMarker
      simp only
      split
      · exact dispatches.skip _ rfl rfl rfl fun _ _ => rfl
      · exact dispatches.dispatch limits moment taskType desc
  | answer id answer =>
      unfold Background.handleMarker Background.answer
      simp only
      split
      · rename_i answered waits
        rcases Option.map_eq_some_iff.mp waits with ⟨index, _, rfl⟩
        apply Dispatches.log
        exact dispatches.skip _ rfl rfl rfl fun _ _ => rfl
      · exact dispatches.skip _ rfl rfl rfl fun _ _ => rfl

/-- Run lemma: the loop over the markers. -/
theorem dispatches_handleMarkers (limits : DispatchLimits) (devicePrefix : Text)
    (moments : Nat → DispatchMoment) (before : Background) (markers : List TaskMarker) :
    Dispatches devicePrefix markers before (before.handleMarkers limits devicePrefix moments markers) := by
  unfold Background.handleMarkers
  induction markers using List.reverseRecOn with
  | nil => exact ⟨.refl _, .refl _, .refl _, fun _ _ => rfl⟩
  | append_singleton markers marker inductionHypothesis =>
      rw [List.zipIdx_append, List.foldl_append]
      exact inductionHypothesis.handleMarker limits _ marker

end

end Agent
end Rabb1tClaw
