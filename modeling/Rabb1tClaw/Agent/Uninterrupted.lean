import Rabb1tClaw.Agent.TaskIds

namespace Rabb1tClaw
namespace Agent

open Foundations

/-!
# A loop that is not interrupted

`Background.handleMarkers` treats the markers of a response in one go.  The
system of loops and tasks does it in small steps, with other loops and tasks
in between.  A loop whose steps follow one another does the same to the
trackers, the questions and the counter, and the calls that it makes write the
same logs.
-/

namespace Background

def trackerOf (background : Background) : (kind : TaskKind) → BackgroundTracker kind.Status
  | .code => background.codeTaskTracker
  | .search => background.searchQueryTracker
  | .advanced => background.advancedTaskTracker

def withTracker (background : Background) : (kind : TaskKind) → BackgroundTracker kind.Status → Background
  | .code, tracker => { background with codeTaskTracker := tracker }
  | .search, tracker => { background with searchQueryTracker := tracker }
  | .advanced, tracker => { background with advancedTaskTracker := tracker }

/-- The logs after some calls, each with its moment. -/
def writeLogs (maxEntries : Nat) (background : Background) (calls : List (DispatchMoment × LogCall)) :
    Background :=
  calls.foldl (fun background entry => background.log entry.2.task.devicePrefix entry.1
    (entry.2.event.text entry.2.task.taskId) maxEntries) background

end Background

/-- The gateway has the trackers, the questions and the counter of a
background. -/
structure Agrees (background : Background) (gateway : TaskGateway) : Prop where
  trackers : ∀ kind, background.trackerOf kind = gateway.system.trackers kind
  questions : background.advancedQuestions = gateway.system.questions.map OpenQuestion.toPendingQuestion
  counter : background.nextTaskId = gateway.nextTaskId

section

variable {background : Background} {gateway : TaskGateway} {runs : Nat → DispatchRun} {run : Nat}
  {limits : DispatchLimits} {devicePrefix : Text} {moment : DispatchMoment} {moments : Nat → DispatchMoment}

theorem trackerOf_withTracker (background : Background) (kind : TaskKind)
    (tracker : BackgroundTracker kind.Status) :
    (background.withTracker kind tracker).trackerOf kind = tracker := by
  cases kind <;> rfl

theorem trackerOf_withTracker_of_ne (background : Background) {kind other : TaskKind} (differs : other ≠ kind)
    (tracker : BackgroundTracker kind.Status) :
    (background.withTracker kind tracker).trackerOf other = background.trackerOf other := by
  cases kind <;> cases other <;> first | rfl | exact absurd rfl differs

/-- The arm of a dispatch marker, for the three kinds at once. -/
theorem dispatch_eq (background : Background) (limits : DispatchLimits) (devicePrefix : Text)
    (moment : DispatchMoment) {taskType : Text} (desc : Text) {kind : TaskKind}
    (known : TaskKind.ofType taskType = some kind) :
    background.dispatch limits devicePrefix moment taskType desc =
      background.dispatchTask (background.trackerOf kind) (fun state tracker => state.withTracker kind tracker)
        kind.name desc (kind.maxConcurrent limits) devicePrefix moment limits.taskLogMax := by
  unfold TaskKind.ofType at known
  rw [Background.dispatch]
  split at known
  · rename_i isCode
    rcases Option.some.inj known with rfl
    rw [if_pos isCode, isCode]
    rfl
  · rename_i notCode
    rw [if_neg notCode]
    split at known
    · rename_i isSearch
      rcases Option.some.inj known with rfl
      rw [if_pos isSearch, isSearch]
      rfl
    · rename_i notSearch
      rw [if_neg notSearch]
      split at known
      · rename_i isAdvanced
        rcases Option.some.inj known with rfl
        rw [if_pos isAdvanced, isAdvanced]
        rfl
      · cases known

theorem dispatch_unknown (background : Background) (limits : DispatchLimits) (devicePrefix : Text)
    (moment : DispatchMoment) {taskType : Text} (desc : Text) (unknown : TaskKind.ofType taskType = none) :
    background.dispatch limits devicePrefix moment taskType desc = background := by
  unfold TaskKind.ofType at unknown
  split at unknown
  · cases unknown
  · rename_i notCode
    split at unknown
    · cases unknown
    · rename_i notSearch
      split at unknown
      · cases unknown
      · rename_i notAdvanced
        rw [Background.dispatch, if_neg notCode, if_neg notSearch, if_neg notAdvanced]

/-- A question is taken out of the list as its addressee is. -/
theorem answerPendingQuestion_eq {questions : List OpenQuestion}
    (same : background.advancedQuestions = questions.map OpenQuestion.toPendingQuestion)
    (devicePrefix : Text) (id : UInt32) :
    background.answerPendingQuestion devicePrefix id =
      (takeQuestion questions ⟨devicePrefix, id⟩).map fun taken =>
        { background with advancedQuestions := taken.2.map OpenQuestion.toPendingQuestion } := by
  have found : ∀ index, questions.findIdx? (fun question => Matches ⟨devicePrefix, id⟩ question) = some index →
      ∃ question, questions[index]? = some question := by
    intro index here
    rcases List.findIdx?_eq_some_iff_getElem.mp here with ⟨within, _⟩
    exact ⟨_, List.getElem?_eq_getElem within⟩
  unfold Background.answerPendingQuestion takeQuestion
  rw [same, List.findIdx?_map]
  change Option.map _ (questions.findIdx? fun question => Matches ⟨devicePrefix, id⟩ question) = _
  cases here : questions.findIdx? fun question => Matches ⟨devicePrefix, id⟩ question with
  | none => rfl
  | some index =>
      rcases found index here with ⟨question, at'⟩
      rw [Option.bind_some, at', Option.map_some, Option.map_some, Option.map_some, List.eraseIdx_map]

/-- The loop has dealt with this many markers before the one that it is at. -/
def markerIndex (runs : Nat → DispatchRun) (run : Nat) (gateway : TaskGateway) : Nat :=
  (runs run).markers.length - (gateway.system.loops run).remaining.length - 1

/-- A step of the loop itself.  A tracker takes the time of the moment at which
the loop deals with the marker. -/
def LoopAlone (runs : Nat → DispatchRun) (run : Nat) (moments : Nat → DispatchMoment)
    (gateway : TaskGateway) : TaskStep → Prop
  | .loop other (.register now) => other = run ∧ now = (moments (markerIndex runs run gateway)).nowSecs
  | .loop other _ => other = run
  | .agent .. => False

/-- The loop has come to its end. -/
def LoopEnded (run : Nat) (gateway : TaskGateway) : Prop :=
  (gateway.system.loops run).remaining = [] ∧ (gateway.system.loops run).phase = .ready

/-- Steps of one loop that lead from a gateway to another. -/
def LoopReaches (runs : Nat → DispatchRun) (run : Nat) (moments : Nat → DispatchMoment)
    (before after : TaskGateway) : Prop :=
  ∃ schedule, (taskGateway runs).Guarded (LoopAlone runs run moments) before schedule ∧
    (taskGateway runs).run before schedule = some after

/-- The gateway agrees with a background, its loop has these markers left and
has seen these, and some calls account for the logs. -/
structure Stands (runs : Nat → DispatchRun) (run : Nat) (start : Background) (calls : List LogCall)
    (rest : List TaskMarker) (state : Background × List (Text × Text)) (gateway : TaskGateway)
    (logged : List (DispatchMoment × LogCall)) : Prop where
  agrees : Agrees state.1 gateway
  loop : gateway.system.loops run = ⟨rest, state.2, .ready⟩
  calls : gateway.system.calls = calls ++ logged.map Prod.snd
  logs : state.1.taskLogs = (start.writeLogs (runs run).limits.taskLogMax logged).taskLogs

theorem taskLogs_writeLogs_concat (maxEntries : Nat) (start : Background)
    (logged : List (DispatchMoment × LogCall)) (moment : DispatchMoment) (call : LogCall)
    {state : Background} (same : state.taskLogs = (start.writeLogs maxEntries logged).taskLogs) :
    (state.log call.task.devicePrefix moment (call.event.text call.task.taskId) maxEntries).taskLogs =
      (start.writeLogs maxEntries (logged ++ [(moment, call)])).taskLogs := by
  rw [Background.writeLogs, List.foldl_append, List.foldl_cons, List.foldl_nil]
  rw [Background.writeLogs] at same
  rw [Background.log, Background.log, same]

theorem LoopReaches.refl (gateway : TaskGateway) : LoopReaches runs run moments gateway gateway :=
  ⟨[], trivial, rfl⟩

theorem LoopReaches.cons {before middle after : TaskGateway} {step : LoopStep}
    (first : (taskGateway runs).step before (.loop run step) = some middle)
    (own : LoopAlone runs run moments before (.loop run step))
    (later : LoopReaches runs run moments middle after) : LoopReaches runs run moments before after := by
  rcases later with ⟨schedule, guarded, reaches⟩
  exact ⟨.loop run step :: schedule, Machine.guarded_cons own first guarded,
    (Machine.run_of_step first schedule).trans reaches⟩

theorem LoopReaches.trans {before middle after : TaskGateway} (first : LoopReaches runs run moments before middle)
    (later : LoopReaches runs run moments middle after) : LoopReaches runs run moments before after := by
  rcases first with ⟨schedule, guarded, reaches⟩
  rcases later with ⟨schedule', guarded', reaches'⟩
  refine ⟨schedule ++ schedule', guarded.append reaches guarded', ?_⟩
  rw [Machine.run_append, reaches, Option.bind_some, reaches']

/-- A step that takes no id from the counter. -/
theorem gateway_loopStep {step : LoopStep} {system : TaskSystem}
    (quiet : (TaskStep.loop run step).handedOut = none)
    (steps : gateway.system.loopStep runs run step = some system) :
    (taskGateway runs).step gateway (.loop run step) = some ⟨system, gateway.nextTaskId⟩ := by
  simp only [taskGateway, quiet]
  exact congrArg (Option.map fun system => (⟨system, gateway.nextTaskId⟩ : TaskGateway)) steps

theorem gateway_nextId {system : TaskSystem}
    (steps : gateway.system.loopStep runs run (.nextId gateway.nextTaskId) = some system) :
    (taskGateway runs).step gateway (.loop run (.nextId gateway.nextTaskId)) =
      some ⟨system, gateway.nextTaskId + 1⟩ := by
  refine (if_pos rfl).trans ?_
  exact congrArg (Option.map fun system => (⟨system, gateway.nextTaskId + 1⟩ : TaskGateway)) steps

theorem taskLogs_withTracker (background : Background) (kind : TaskKind)
    (tracker : BackgroundTracker kind.Status) :
    (background.withTracker kind tracker).taskLogs = background.taskLogs ∧
      (background.withTracker kind tracker).advancedQuestions = background.advancedQuestions ∧
      (background.withTracker kind tracker).nextTaskId = background.nextTaskId := by
  cases kind <;> exact ⟨rfl, rfl, rfl⟩

variable {start : Background} {calls : List LogCall} {rest : List TaskMarker}
  {state : Background × List (Text × Text)} {logged : List (DispatchMoment × LogCall)}

theorem loopStep_refuse (system : TaskSystem) {seen : List (Text × Text)} {id : UInt32} {kind : TaskKind}
    {desc : Text} {now : UInt64}
    (loop : system.loops run = ⟨rest, seen, .counted id kind desc⟩)
    (refused : (system.trackers kind).register (runs run).devicePrefix id desc
      (kind.maxConcurrent (runs run).limits) (runs run).limits.taskLogMax now = none) :
    system.loopStep runs run (.register now) = some (system.setLoop run ⟨rest, seen, .ready⟩) := by
  simp only [TaskSystem.loopStep, loop, refused]

theorem loopStep_register (system : TaskSystem) {seen : List (Text × Text)} {id : UInt32} {kind : TaskKind}
    {desc : Text} {now : UInt64} {tracker : BackgroundTracker kind.Status}
    (loop : system.loops run = ⟨rest, seen, .counted id kind desc⟩)
    (registers : (system.trackers kind).register (runs run).devicePrefix id desc
      (kind.maxConcurrent (runs run).limits) (runs run).limits.taskLogMax now = some tracker) :
    system.loopStep runs run (.register now) =
      some (((system.setTracker kind tracker).add
        ⟨⟨(runs run).devicePrefix, id⟩, kind, desc, [], .registered⟩).setLoop run
          ⟨rest, seen, .registered id kind desc⟩) := by
  simp only [TaskSystem.loopStep, loop, registers]

theorem loopStep_logDispatch (system : TaskSystem) {seen : List (Text × Text)} {id : UInt32}
    {kind : TaskKind} {desc : Text} (loop : system.loops run = ⟨rest, seen, .registered id kind desc⟩) :
    system.loopStep runs run .logDispatch =
      some (((system.append ⟨(runs run).devicePrefix, id⟩ (.dispatched kind desc)).set
        ⟨⟨(runs run).devicePrefix, id⟩, kind, desc, [], .working⟩).setLoop run ⟨rest, seen, .ready⟩) := by
  simp only [TaskSystem.loopStep, loop]

theorem loopStep_send (runs : Nat → DispatchRun) (system : TaskSystem) {seen : List (Text × Text)} {question : OpenQuestion}
    {answer : Text} (loop : system.loops run = ⟨rest, seen, .holding question answer⟩) :
    system.loopStep runs run .send =
      some ((system.deliver question answer).setLoop run ⟨rest, seen, .sent question.taskId answer⟩) := by
  simp only [TaskSystem.loopStep, loop]

theorem loopStep_logAnswer (system : TaskSystem) {seen : List (Text × Text)} {id : UInt32} {answer : Text}
    (loop : system.loops run = ⟨rest, seen, .sent id answer⟩) :
    system.loopStep runs run .logAnswer =
      some ((system.append ⟨(runs run).devicePrefix, id⟩ (.answered answer)).setLoop run
        ⟨rest, seen, .ready⟩) := by
  simp only [TaskSystem.loopStep, loop]

/-- Where a loop comes to: it has dealt with one more marker. -/
def Comes (runs : Nat → DispatchRun) (run : Nat) (moments : Nat → DispatchMoment) (start : Background)
    (calls : List LogCall) (rest : List TaskMarker) (state : Background × List (Text × Text))
    (gateway : TaskGateway) : Prop :=
  ∃ next logged, LoopReaches runs run moments gateway next ∧ Stands runs run start calls rest state next logged

/-- A marker is skipped. -/
theorem Stands.skip {taskType desc : Text}
    (stands : Stands runs run start calls (.dispatch taskType desc :: rest) state gateway logged)
    {seen : List (Text × Text)}
    (steps : gateway.system.loopStep runs run .skip = some (gateway.system.setLoop run ⟨rest, seen, .ready⟩)) :
    Comes runs run moments start calls rest (state.1, seen) gateway := by
  refine ⟨_, logged, .cons (gateway_loopStep rfl steps) rfl (.refl _), ?_, ?_, stands.calls, stands.logs⟩
  · exact ⟨stands.agrees.trackers, stands.agrees.questions, stands.agrees.counter⟩
  · exact Function.update_self ..

/-- A dispatch marker of a known type. -/
theorem Stands.dispatch {taskType desc : Text} {kind : TaskKind}
    (now : moments ((runs run).markers.length - rest.length - 1) = moment)
    (stands : Stands runs run start calls (.dispatch taskType desc :: rest) state gateway logged)
    (new : (taskType, desc) ∉ state.2) (known : TaskKind.ofType taskType = some kind) :
    Comes runs run moments start calls rest
      (state.1.dispatch (runs run).limits (runs run).devicePrefix moment taskType desc,
        (taskType, desc) :: state.2) gateway := by
  have unseen : state.2.contains (taskType, desc) = false := by
    rw [← Bool.not_eq_true, List.contains_iff_mem]
    exact new
  have counted : gateway.system.loopStep runs run (.nextId gateway.nextTaskId) =
      some (gateway.system.setLoop run
        ⟨rest, (taskType, desc) :: state.2, .counted gateway.nextTaskId kind desc⟩) := by
    simp only [TaskSystem.loopStep, stands.loop, unseen, Bool.false_eq_true, if_false, known, Option.map_some]
  have first := gateway_nextId counted
  have own : LoopAlone runs run moments ⟨gateway.system.setLoop run
      ⟨rest, (taskType, desc) :: state.2, .counted gateway.nextTaskId kind desc⟩, gateway.nextTaskId + 1⟩
      (.loop run (.register moment.nowSecs)) := by
    refine ⟨rfl, ?_⟩
    have loop : (gateway.system.setLoop run ⟨rest, (taskType, desc) :: state.2,
        .counted gateway.nextTaskId kind desc⟩).loops run = _ := Function.update_self ..
    rw [markerIndex, loop, now]
  rw [dispatch_eq _ _ _ _ _ known, Background.dispatchTask]
  cases registers : (state.1.trackerOf kind).register (runs run).devicePrefix state.1.nextTaskId desc
      (kind.maxConcurrent (runs run).limits) (runs run).limits.taskLogMax moment.nowSecs with
  | none =>
      rw [stands.agrees.trackers, stands.agrees.counter] at registers
      have second := loopStep_refuse (gateway.system.setLoop run
        ⟨rest, (taskType, desc) :: state.2, .counted gateway.nextTaskId kind desc⟩) (Function.update_self ..) registers
      refine ⟨_, logged, .cons first rfl (.cons (gateway_loopStep rfl second) own (.refl _)), ?_, ?_,
        stands.calls, stands.logs⟩
      · exact ⟨stands.agrees.trackers, stands.agrees.questions, congrArg (· + 1) stands.agrees.counter⟩
      · exact Function.update_self ..
  | some tracker =>
      rw [stands.agrees.trackers, stands.agrees.counter] at registers
      have second := loopStep_register (gateway.system.setLoop run
        ⟨rest, (taskType, desc) :: state.2, .counted gateway.nextTaskId kind desc⟩) (Function.update_self ..) registers
      refine ⟨_, logged ++ [(moment, ⟨⟨(runs run).devicePrefix, gateway.nextTaskId⟩, .dispatched kind desc⟩)],
        .cons first rfl (.cons (gateway_loopStep rfl second) own (.cons (gateway_loopStep rfl
          (loopStep_logDispatch _ (Function.update_self ..))) rfl (.refl _))), ?_, ?_, ?_, ?_⟩
      · rcases taskLogs_withTracker { state.1 with nextTaskId := state.1.nextTaskId + 1 } kind tracker with
          ⟨_, questions, counter⟩
        refine ⟨fun other => ?_, questions.trans stands.agrees.questions,
          counter.trans (congrArg (· + 1) stands.agrees.counter)⟩
        by_cases same : other = kind
        · subst same
          refine (trackerOf_withTracker _ other tracker).trans ?_
          exact (trackers_setTracker_self _ other tracker).symm
        · refine (trackerOf_withTracker_of_ne _ same tracker).trans ?_
          refine (stands.agrees.trackers other).trans ?_
          exact (trackers_setTracker_of_ne _ same tracker).symm
      · exact Function.update_self ..
      · rw [List.map_append, ← List.append_assoc, ← stands.calls]
        rfl
      · rw [stands.agrees.counter]
        refine taskLogs_writeLogs_concat _ _ _ moment ⟨⟨(runs run).devicePrefix, gateway.nextTaskId⟩, .dispatched kind desc⟩ ?_
        exact (taskLogs_withTracker _ kind tracker).1.trans stands.logs

/-- An answer that is sent changes tasks only. -/
theorem deliver_spec (system : TaskSystem) (question : OpenQuestion) (answer : Text) :
    ∃ tasks, system.deliver question answer = { system with tasks := tasks } := by
  rcases deliver_cases system question answer with same | ⟨task, _, _, same⟩
  · exact ⟨system.tasks, same⟩
  · exact ⟨_, same⟩

/-- An answer marker. -/
theorem Stands.answer {id : UInt32} {text : Text} (moment : DispatchMoment)
    (stands : Stands runs run start calls (.answer id text :: rest) state gateway logged) :
    Comes runs run moments start calls rest
      (state.1.answer (runs run).limits (runs run).devicePrefix moment id text, state.2) gateway := by
  rw [Background.answer, answerPendingQuestion_eq stands.agrees.questions]
  cases takes : takeQuestion gateway.system.questions ⟨(runs run).devicePrefix, id⟩ with
  | none =>
      have taken : gateway.system.loopStep runs run .take =
          some (gateway.system.setLoop run ⟨rest, state.2, .ready⟩) := by
        simp only [TaskSystem.loopStep, stands.loop, takes]
      refine ⟨_, logged, .cons (gateway_loopStep rfl taken) rfl (.refl _), ?_, ?_, stands.calls, stands.logs⟩
      · exact ⟨stands.agrees.trackers, stands.agrees.questions, stands.agrees.counter⟩
      · exact Function.update_self ..
  | some found =>
      rcases found with ⟨question, others⟩
      have named : question.taskId = id := (takeQuestion_eq_some takes).1.2
      have taken : gateway.system.loopStep runs run .take =
          some ((gateway.system.setQuestions others).setLoop run
            ⟨rest, state.2, .holding question text⟩) := by
        simp only [TaskSystem.loopStep, stands.loop, takes]
      have sent := loopStep_send runs ((gateway.system.setQuestions others).setLoop run
        ⟨rest, state.2, .holding question text⟩) (Function.update_self ..)
      rcases deliver_spec ((gateway.system.setQuestions others).setLoop run
        ⟨rest, state.2, .holding question text⟩) question text with ⟨tasks, delivered⟩
      rw [delivered] at sent
      refine ⟨_, logged ++ [(moment, ⟨⟨(runs run).devicePrefix, question.taskId⟩, .answered text⟩)],
        .cons (gateway_loopStep rfl taken) rfl (.cons (gateway_loopStep rfl sent) rfl (.cons
          (gateway_loopStep rfl (loopStep_logAnswer _ (Function.update_self ..))) rfl (.refl _))), ?_, ?_, ?_, ?_⟩
      · exact ⟨stands.agrees.trackers, rfl, stands.agrees.counter⟩
      · exact Function.update_self ..
      · rw [List.map_append, ← List.append_assoc, ← stands.calls]
        rfl
      · rw [← named]
        exact taskLogs_writeLogs_concat _ _ _ moment
          ⟨⟨(runs run).devicePrefix, question.taskId⟩, .answered text⟩ stands.logs

/-- One turn of the loop over the markers. -/
theorem Stands.turn {marker : TaskMarker}
    (now : moments ((runs run).markers.length - rest.length - 1) = moment)
    (stands : Stands runs run start calls (marker :: rest) state gateway logged) :
    Comes runs run moments start calls rest
      (Background.handleMarker (runs run).limits (runs run).devicePrefix moment state marker) gateway := by
  cases marker with
  | answer id text => exact stands.answer moment
  | dispatch taskType desc =>
      unfold Background.handleMarker
      simp only
      by_cases seen : (taskType, desc) ∈ state.2
      · rw [if_pos seen]
        apply stands.skip
        simp only [TaskSystem.loopStep, stands.loop, List.contains_iff_mem.mpr seen, if_true]
      · rw [if_neg seen]
        cases known : TaskKind.ofType taskType with
        | some kind => exact stands.dispatch now seen known
        | none =>
            rw [dispatch_unknown _ _ _ _ _ known]
            apply stands.skip
            have unseen : state.2.contains (taskType, desc) = false := by
              rw [← Bool.not_eq_true, List.contains_iff_mem]
              exact seen
            simp only [TaskSystem.loopStep, stands.loop, unseen, known, Option.isNone_none,
              Bool.false_eq_true, if_false, if_true]

/-- The turns of the loop, from any marker on. -/
theorem Stands.turns {markers : List TaskMarker} (index : Nat)
    (position : index + markers.length = (runs run).markers.length)
    (stands : Stands runs run start calls markers state gateway logged) :
    Comes runs run moments start calls []
      ((markers.zipIdx index).foldl (fun state entry => Background.handleMarker (runs run).limits
        (runs run).devicePrefix (moments entry.2) state entry.1) state) gateway := by
  induction markers generalizing state gateway logged index with
  | nil => exact ⟨gateway, logged, .refl _, stands⟩
  | cons marker markers inductionHypothesis =>
      rw [List.zipIdx_cons, List.foldl_cons]
      rw [List.length_cons] at position
      have here : (runs run).markers.length - markers.length - 1 = index := by omega
      rcases stands.turn (congrArg moments here) with ⟨middle, middleLogged, first, stood⟩
      rcases inductionHypothesis (index + 1) (by omega) stood with ⟨after, afterLogged, later, stood'⟩
      exact ⟨after, afterLogged, first.trans later, stood'⟩

end

/-- The step that a loop takes next, with the next id of the counter and the time
of its tracker. -/
def MarkerLoop.nextStep (loop : MarkerLoop) (counter : UInt32) (now : UInt64) : Option LoopStep :=
  match loop.phase, loop.remaining with
  | .ready, [] => none
  | .ready, .dispatch taskType desc :: _ =>
      if loop.seen.contains (taskType, desc) then some .skip
      else if (TaskKind.ofType taskType).isNone then some .skip
      else some (.nextId counter)
  | .ready, .answer .. :: _ => some .take
  | .counted .., _ => some (.register now)
  | .registered .., _ => some .logDispatch
  | .holding .., _ => some .send
  | .sent .., _ => some .logAnswer

section

variable {runs : Nat → DispatchRun} {run : Nat} {moments : Nat → DispatchMoment} {gateway next : TaskGateway}
  {action : TaskStep} {state changed : TaskSystem} {counter : UInt32} {now : UInt64}

theorem nextStep_of_skip (steps : state.loopStep runs run .skip = some changed) :
    (state.loops run).nextStep counter now = some .skip := by
  simp only [TaskSystem.loopStep] at steps
  split at steps
  · rename_i ready marker
    rw [MarkerLoop.nextStep, ready, marker]
    split at steps
    · rename_i seen
      exact if_pos seen
    · rename_i new
      split at steps
      · rename_i unknown
        exact (if_neg new).trans (if_pos unknown)
      · cases steps
  · cases steps

theorem nextStep_of_nextId (steps : state.loopStep runs run (.nextId counter) = some changed) :
    (state.loops run).nextStep counter now = some (.nextId counter) := by
  simp only [TaskSystem.loopStep] at steps
  split at steps
  · rename_i ready marker
    rw [MarkerLoop.nextStep, ready, marker]
    split at steps
    · cases steps
    · rename_i new
      rcases Option.map_eq_some_iff.mp steps with ⟨kind, known, _⟩
      refine (if_neg new).trans (if_neg ?_)
      rw [known]
      exact Bool.false_ne_true
  · cases steps

/-- A loop that is not interrupted has no choice. -/
theorem nextStep_of_step (own : LoopAlone runs run moments gateway action)
    (steps : (taskGateway runs).step gateway action = some next) :
    ((gateway.system.loops run).nextStep gateway.nextTaskId
      (moments (markerIndex runs run gateway)).nowSecs).map (TaskStep.loop run) = some action := by
  rcases taskGateway_step steps with ⟨moved, counted⟩
  cases action with
  | agent => exact own.elim
  | loop other step =>
      rcases loopMoves_of_step moved with ⟨_, _, moves, _⟩
      cases step with
      | skip =>
          rcases own with rfl
          have skips : gateway.system.loopStep runs other .skip = some next.system := moved
          rw [nextStep_of_skip skips, Option.map_some]
      | nextId id =>
          rcases own with rfl
          rcases counted with ⟨handed, _⟩ | ⟨kept, _⟩
          · rcases Option.some.inj handed with rfl
            have counts : gateway.system.loopStep runs other (.nextId gateway.nextTaskId) = some next.system := moved
            rw [nextStep_of_nextId counts, Option.map_some]
          · cases kept
      | register time =>
          rcases own with ⟨rfl, rfl⟩
          cases moves with
          | registered phase | refused phase => rw [MarkerLoop.nextStep, phase, Option.map_some]
      | logDispatch =>
          rcases own with rfl
          cases moves with
          | dispatched phase => rw [MarkerLoop.nextStep, phase, Option.map_some]
      | take =>
          rcases own with rfl
          cases moves with
          | taken ready marker | missed ready marker =>
              rw [MarkerLoop.nextStep, ready, marker, Option.map_some]
      | send =>
          rcases own with rfl
          cases moves with
          | sent phase => rw [MarkerLoop.nextStep, phase, Option.map_some]
      | logAnswer =>
          rcases own with rfl
          cases moves with
          | answered phase => rw [MarkerLoop.nextStep, phase, Option.map_some]

theorem LoopEnded.stuck (ended : LoopEnded run gateway) (action : TaskStep) (next : TaskGateway)
    (own : LoopAlone runs run moments gateway action) :
    (taskGateway runs).step gateway action ≠ some next := by
  intro steps
  have none' := nextStep_of_step own steps
  rw [MarkerLoop.nextStep, ended.1, ended.2] at none'
  cases none'

end

/-- A loop that is not interrupted does what `handleMarkers` does in one go.
It comes to its end, and whenever it does, the trackers, the questions and the
counter agree, and its calls write the same logs. -/
theorem uninterrupted_handleMarkers (runs : Nat → DispatchRun) (run : Nat) (moments : Nat → DispatchMoment)
    (background : Background) (gateway : TaskGateway) (agrees : Agrees background gateway)
    (begins : gateway.system.loops run = ⟨(runs run).markers, [], .ready⟩) :
    (∃ schedule after, (taskGateway runs).Guarded (LoopAlone runs run moments) gateway schedule ∧
      (taskGateway runs).run gateway schedule = some after ∧ LoopEnded run after) ∧
    ∀ schedule after, (taskGateway runs).Guarded (LoopAlone runs run moments) gateway schedule →
      (taskGateway runs).run gateway schedule = some after → LoopEnded run after →
        ∃ logged : List (DispatchMoment × LogCall),
          Agrees (background.handleMarkers (runs run).limits (runs run).devicePrefix moments
            (runs run).markers) after ∧
          after.system.calls = gateway.system.calls ++ logged.map Prod.snd ∧
          (background.handleMarkers (runs run).limits (runs run).devicePrefix moments
              (runs run).markers).taskLogs =
            (background.writeLogs (runs run).limits.taskLogMax logged).taskLogs := by
  have stands : Stands runs run background gateway.system.calls (runs run).markers (background, [])
      gateway [] := by
    refine ⟨agrees, begins, (List.append_nil _).symm, rfl⟩
  rcases stands.turns 0 (Nat.zero_add _) with ⟨after, logged, ⟨schedule, guarded, reaches⟩, stood⟩
  have ended : LoopEnded run after := by rw [LoopEnded, stood.loop]; exact ⟨rfl, rfl⟩
  refine ⟨⟨schedule, after, guarded, reaches, ended⟩, fun schedule' after' guarded' reaches' ended' => ?_⟩
  have same : schedule = schedule' := by
    refine Machine.run_unique (fun state first second next next' own own' step step' => ?_) ended.stuck ended'.stuck
      guarded guarded' reaches reaches'
    exact Option.some.inj ((nextStep_of_step own step).symm.trans (nextStep_of_step own' step'))
  rcases same with rfl
  rcases Option.some.inj (reaches.symm.trans reaches') with rfl
  exact ⟨logged, stood.agrees, stood.calls, stood.logs⟩

def emptyBackground : Background where
  codeTaskTracker := ⟨fun _ => []⟩
  searchQueryTracker := ⟨fun _ => []⟩
  advancedTaskTracker := ⟨fun _ => []⟩
  advancedQuestions := []
  nextTaskId := 1
  taskLogs := fun _ => none

theorem emptyBackground_agrees : Agrees emptyBackground (.start twoDevices) :=
  ⟨fun kind => by cases kind <;> rfl, rfl, rfl⟩

theorem uninterrupted_sample : ∃ (schedule : List TaskStep) (after : TaskGateway),
    (taskGateway twoDevices).run (.start twoDevices) schedule = some after ∧
      Agrees (emptyBackground.handleMarkers (twoDevices 0).limits "alice".toList (fun _ => ⟨7, "noon".toList⟩)
        (twoDevices 0).markers) after := by
  rcases uninterrupted_handleMarkers twoDevices 0 (fun _ => ⟨7, "noon".toList⟩) emptyBackground
    (.start twoDevices) emptyBackground_agrees rfl with ⟨⟨schedule, after, guarded, reaches, ended⟩, every⟩
  rcases every schedule after guarded reaches ended with ⟨_, agrees, _⟩
  exact ⟨schedule, after, reaches, agrees⟩

end Agent
end Rabb1tClaw
