import Rabb1tClaw.Agent.Lifecycle
import Rabb1tClaw.Foundations.Views
import Mathlib.Data.List.Perm.Basic

namespace Rabb1tClaw
namespace Agent

open Foundations

/-!
# Answers in the log

An answer is logged by the loop that took its question, after the question is
out of the list and the answer is sent.  Other loops and the task itself log
meanwhile.  Each loop still logs every answer that it takes, in the order of
its markers, and the answers of all loops together never get ahead of the
questions that the task has logged.

Behind the second statement is a balance for each task: the answers that were
taken for it, the questions that are open for it and one that it is about to
store are no more than the questions that it has logged (`Balanced`).
-/

namespace TaskEvent

def isAsking : TaskEvent → Bool
  | asking _ => true
  | _ => false

end TaskEvent

/-- The answer that a step of a loop takes: a question is open under the id of
its marker. -/
def TaskSystem.takesAnswer (runs : Nat → DispatchRun) (state : TaskSystem) : TaskStep → Option (Nat × LogCall)
  | .loop run .take =>
      match (state.loops run).phase, (state.loops run).remaining with
      | .ready, .answer id answer :: _ =>
          if state.questions.any fun question =>
              question.devicePrefix = (runs run).devicePrefix ∧ question.taskId = id then
            some (run, ⟨⟨(runs run).devicePrefix, id⟩, .answered answer⟩)
          else
            none
      | _, _ => none
  | _ => none

/-- The answers that the loops take along a run, with the loop that takes
each. -/
def answersTaken (runs : Nat → DispatchRun) (schedule : List TaskStep) : List (Nat × LogCall) :=
  (tasking runs).observed (TaskSystem.takesAnswer runs) (.start runs) schedule

/-- The entry of an answer that a loop has taken and not logged. -/
def MarkerLoop.unlogged (loop : MarkerLoop) (devicePrefix : Text) : Option LogCall :=
  match loop.phase with
  | .holding question answer => some ⟨⟨devicePrefix, question.taskId⟩, .answered answer⟩
  | .sent id answer => some ⟨⟨devicePrefix, id⟩, .answered answer⟩
  | _ => none

/-- Each loop has logged the answers that it has taken, but for the last. -/
def AnswersLogged (runs : Nat → DispatchRun) (taken : List (Nat × LogCall)) (state : TaskSystem) : Prop :=
  ∃ recorded : List (Nat × LogCall),
    recorded.map Prod.snd = state.calls.filter (fun call => call.event.isAnswered) ∧
      ∀ run, recorded.filter (fun entry => entry.1 = run) ++
          (((state.loops run).unlogged (runs run).devicePrefix).map (Prod.mk run)).toList =
        taken.filter fun entry => entry.1 = run

section

variable {runs : Nat → DispatchRun} {state next : TaskSystem} {run : Nat} {task changed : AgentTask}
  {taken : List (Nat × LogCall)} {address : PendingQuestion}

theorem answersLogged_start (runs : Nat → DispatchRun) : AnswersLogged runs [] (.start runs) :=
  ⟨[], rfl, fun _ => rfl⟩

/-- Neither the answers in the log nor those that loops hold have changed. -/
theorem AnswersLogged.keep (logged : AnswersLogged runs taken state)
    (calls : next.calls.filter (fun call => call.event.isAnswered) =
      state.calls.filter fun call => call.event.isAnswered)
    (loops : ∀ run, (next.loops run).unlogged (runs run).devicePrefix =
      (state.loops run).unlogged (runs run).devicePrefix) : AnswersLogged runs taken next := by
  rcases logged with ⟨recorded, entries, own⟩
  refine ⟨recorded, entries.trans calls.symm, fun run => ?_⟩
  rw [loops run]
  exact own run

/-- A loop moves on, and holds the answer that it held. -/
theorem AnswersLogged.setLoop (logged : AnswersLogged runs taken state) {loop : MarkerLoop}
    {before : TaskSystem} (loops : before.loops = state.loops)
    (calls : before.calls.filter (fun call => call.event.isAnswered) =
      state.calls.filter fun call => call.event.isAnswered)
    (held : loop.unlogged (runs run).devicePrefix = (state.loops run).unlogged (runs run).devicePrefix) :
    AnswersLogged runs taken (before.setLoop run loop) := by
  apply logged.keep
  · exact calls
  · intro other
    rcases loops_setLoop before run loop other with ⟨rfl, here⟩ | ⟨_, there⟩
    · rw [here, held]
    · rw [there, loops]

theorem filter_singleton_of_ne {other : Nat} (differs : other ≠ run) (call : LogCall) :
    [(run, call)].filter (fun entry => entry.1 = other) = [] :=
  List.filter_cons_of_neg (by simpa using Ne.symm differs)

/-- A loop takes an answer. -/
theorem AnswersLogged.take (logged : AnswersLogged runs taken state) {call : LogCall} {loop : MarkerLoop}
    (questions : List OpenQuestion) (free : (state.loops run).unlogged (runs run).devicePrefix = none)
    (holds : loop.unlogged (runs run).devicePrefix = some call) :
    AnswersLogged runs (taken ++ [(run, call)]) ((state.setQuestions questions).setLoop run loop) := by
  rcases logged with ⟨recorded, entries, own⟩
  refine ⟨recorded, entries, fun other => ?_⟩
  rw [List.filter_append, ← own other]
  rcases loops_setLoop (state.setQuestions questions) run loop other with ⟨rfl, here⟩ | ⟨differs, there⟩
  · rw [here, holds, free]
    simp
  · rw [there, filter_singleton_of_ne differs, List.append_nil]
    rfl

/-- A loop logs its answer. -/
theorem AnswersLogged.log (logged : AnswersLogged runs taken state) {call : LogCall} {loop : MarkerLoop}
    (isAnswer : call.event.isAnswered = true)
    (held : (state.loops run).unlogged (runs run).devicePrefix = some call)
    (free : loop.unlogged (runs run).devicePrefix = none) :
    AnswersLogged runs taken ((state.append call.task call.event).setLoop run loop) := by
  rcases logged with ⟨recorded, entries, own⟩
  refine ⟨recorded ++ [(run, call)], ?_, fun other => ?_⟩
  · change _ = (state.calls ++ [call]).filter _
    rw [List.map_append, entries, List.filter_append, List.filter_singleton, isAnswer]
    rfl
  · rw [List.filter_append, ← own other]
    rcases loops_setLoop (state.append call.task call.event) run loop other with
      ⟨rfl, here⟩ | ⟨differs, there⟩
    · rw [here, held, free]
      simp
    · rw [there, filter_singleton_of_ne differs, List.append_nil]
      rfl

theorem unlogged_of_ready {loop : MarkerLoop} (ready : loop.phase = .ready) (devicePrefix : Text) :
    loop.unlogged devicePrefix = none := by
  rw [MarkerLoop.unlogged, ready]

/-- A question is found where one is open. -/
theorem any_open_iff {questions : List OpenQuestion} {devicePrefix : Text} {id : UInt32} :
    (questions.any fun question => question.devicePrefix = devicePrefix ∧ question.taskId = id) = true ↔
      ∃ taken, takeQuestion questions ⟨devicePrefix, id⟩ = some taken := by
  constructor
  · intro found
    rcases List.any_eq_true.mp found with ⟨question, member, same⟩
    cases takes : takeQuestion questions ⟨devicePrefix, id⟩ with
    | some taken => exact ⟨taken, rfl⟩
    | none =>
        have absent : questions.findIdx? (fun question => Matches ⟨devicePrefix, id⟩ question) = none := by
          cases search : questions.findIdx? fun question => Matches ⟨devicePrefix, id⟩ question with
          | none => rfl
          | some index =>
              rcases List.findIdx?_eq_some_iff_getElem.mp search with ⟨within, _⟩
              rw [takeQuestion, search, Option.bind_some, List.getElem?_eq_getElem within] at takes
              cases takes
        have misses := List.findIdx?_eq_none_iff.mp absent question member
        exact absurd (of_decide_eq_true same) (of_decide_eq_false misses)
  · rintro ⟨⟨question, others⟩, takes⟩
    rcases takeQuestion_eq_some takes with ⟨same, front, back, split, _⟩
    refine List.any_eq_true.mpr ⟨question, ?_, decide_eq_true same⟩
    rw [split]
    exact List.mem_append_right _ List.mem_cons_self

theorem takesAnswer_taken {id : UInt32} {answer : Text} {rest : List TaskMarker}
    {found : OpenQuestion × List OpenQuestion} (ready : (state.loops run).phase = .ready)
    (marker : (state.loops run).remaining = .answer id answer :: rest)
    (takes : takeQuestion state.questions ⟨(runs run).devicePrefix, id⟩ = some found) :
    state.takesAnswer runs (.loop run .take) =
      some (run, ⟨⟨(runs run).devicePrefix, id⟩, .answered answer⟩) := by
  rw [TaskSystem.takesAnswer]
  simp only [ready, marker]
  apply if_pos
  rw [any_open_iff]
  exact ⟨found, takes⟩

theorem takesAnswer_missed {id : UInt32} {answer : Text} {rest : List TaskMarker}
    (ready : (state.loops run).phase = .ready)
    (marker : (state.loops run).remaining = .answer id answer :: rest)
    (misses : takeQuestion state.questions ⟨(runs run).devicePrefix, id⟩ = none) :
    state.takesAnswer runs (.loop run .take) = none := by
  rw [TaskSystem.takesAnswer]
  simp only [ready, marker]
  apply if_neg
  rw [any_open_iff, misses]
  rintro ⟨taken, ⟨⟩⟩

/-- Most steps take no answer. -/
theorem append_takesAnswer_of_none {action : TaskStep} (quiet : state.takesAnswer runs action = none) :
    taken ++ (state.takesAnswer runs action).toList = taken := by
  rw [quiet, Option.toList_none, List.append_nil]

/-- Step lemma: every answer is logged by its loop. -/
theorem AnswersLogged.step (logged : AnswersLogged runs taken state) {action : TaskStep}
    (steps : (tasking runs).step state action = some next) :
    AnswersLogged runs (taken ++ (state.takesAnswer runs action).toList) next := by
  have unanswered {address : PendingQuestion} {event : TaskEvent} (quiet : event.isAnswered = false) :
      (state.append address event).calls.filter (fun call => call.event.isAnswered) =
        state.calls.filter fun call => call.event.isAnswered := by
    change (state.calls ++ [(⟨address, event⟩ : LogCall)]).filter _ = _
    rw [List.filter_append, List.filter_cons_of_neg (by rw [quiet]; exact Bool.false_ne_true), List.filter_nil,
      List.append_nil]
  rcases tasking_cases steps with ⟨run, step, changed, loop, rfl, moves, rfl⟩ |
    ⟨task, step, rfl, member, moves⟩
  · have silent (quiet : state.takesAnswer runs (.loop run step) = none)
        (onwards : AnswersLogged runs taken (changed.setLoop run loop)) :
        AnswersLogged runs (taken ++ (state.takesAnswer runs (.loop run step)).toList)
          (changed.setLoop run loop) := by
      rw [append_takesAnswer_of_none quiet]
      exact onwards
    cases moves with
    | skipped ready =>
        refine silent rfl (logged.setLoop rfl rfl ?_)
        rw [unlogged_of_ready rfl, unlogged_of_ready ready]
    | counted ready =>
        refine silent rfl (logged.setLoop rfl rfl ?_)
        rw [unlogged_of_ready ready]
        rfl
    | registered phase =>
        refine silent rfl (logged.setLoop rfl rfl ?_)
        rw [MarkerLoop.unlogged, MarkerLoop.unlogged, phase]
    | refused phase =>
        refine silent rfl (logged.setLoop rfl rfl ?_)
        rw [MarkerLoop.unlogged, MarkerLoop.unlogged, phase]
    | dispatched phase =>
        refine silent rfl (logged.setLoop ?_ (unanswered rfl) ?_)
        · rfl
        · rw [MarkerLoop.unlogged, MarkerLoop.unlogged, phase]
    | @taken id answer question others rest ready marker takes =>
        rw [takesAnswer_taken ready marker takes]
        have named : question.taskId = id := (takeQuestion_eq_some takes).1.2
        refine logged.take others (unlogged_of_ready ready _) ?_
        exact congrArg (fun id => some (⟨⟨(runs run).devicePrefix, id⟩, .answered answer⟩ : LogCall)) named
    | missed ready marker misses =>
        refine silent (takesAnswer_missed ready marker misses) (logged.setLoop rfl rfl ?_)
        rw [unlogged_of_ready rfl, unlogged_of_ready ready]
    | @sent question answer phase =>
        refine silent rfl ?_
        rcases deliver_cases state question answer with same | ⟨task, _, _, same⟩ <;>
          rw [same] <;> refine logged.setLoop rfl rfl ?_ <;>
          rw [MarkerLoop.unlogged, MarkerLoop.unlogged, phase]
    | @answered id answer phase =>
        refine silent rfl ?_
        have held : (state.loops run).unlogged (runs run).devicePrefix =
            some ⟨⟨(runs run).devicePrefix, id⟩, .answered answer⟩ := by rw [MarkerLoop.unlogged, phase]
        exact logged.log rfl held (unlogged_of_ready rfl _)
  · rw [append_takesAnswer_of_none rfl]
    cases moves with
    | questionLogged => exact logged.keep (unanswered rfl) fun _ => rfl
    | @resultLogged result =>
        refine logged.keep (unanswered ?_) fun _ => rfl
        cases result <;> rfl
    | _ => exact logged.keep rfl fun _ => rfl

/-! ## Answers and questions -/

/-- The number of answers that were taken for a task. -/
def answersTo (taken : List (Nat × LogCall)) (address : PendingQuestion) : Nat :=
  taken.countP fun entry => entry.2.task = address

/-- The number of questions that are open for a task. -/
def openFor (questions : List OpenQuestion) (address : PendingQuestion) : Nat :=
  questions.countP fun question => question.toPendingQuestion = address

/-- The number of questions that a task has logged. -/
def askedBy (calls : List LogCall) (address : PendingQuestion) : Nat :=
  calls.countP fun call => call.task = address ∧ call.event.isAsking

/-- A question that is logged and not yet open. -/
def AgentTask.due (task : AgentTask) : Nat :=
  match task.phase with
  | .posting => 1
  | _ => 0

/-- No task has more answers than it has logged questions. -/
structure Balanced (taken : List (Nat × LogCall)) (state : TaskSystem) : Prop where
  known : ∀ entry ∈ taken, ∃ task ∈ state.tasks, task.address = entry.2.task
  asked : ∀ task ∈ state.tasks,
    answersTo taken task.address + openFor state.questions task.address + task.due ≤
      askedBy state.calls task.address

theorem balanced_start (runs : Nat → DispatchRun) : Balanced [] (.start runs) where
  known := by rintro entry ⟨⟩
  asked := by rintro task ⟨⟩

theorem askedBy_append (calls added : List LogCall) (address : PendingQuestion) :
    askedBy (calls ++ added) address = askedBy calls address + askedBy added address :=
  List.countP_append ..

/-- A task changes, and perhaps its questions do. -/
theorem Balanced.change (balanced : Balanced taken state) {before : TaskSystem}
    (tasks : before.tasks = state.tasks) (member : task ∈ state.tasks) (named : changed.address = task.address)
    (others : ∀ address, address ≠ task.address →
      openFor before.questions address ≤ openFor state.questions address)
    (calls : state.calls <+: before.calls)
    (own : openFor before.questions task.address + changed.due + askedBy state.calls task.address ≤
      openFor state.questions task.address + task.due + askedBy before.calls task.address) :
    Balanced taken (before.set changed) where
  known := fun entry member => named_set tasks (balanced.known entry member)
  asked := by
    intro other here
    rcases mem_setTask here with rfl | ⟨known, differs⟩
    · have known := balanced.asked task member
      rw [named]
      change _ + openFor before.questions _ + _ ≤ askedBy before.calls _
      omega
    · have known := balanced.asked other (tasks ▸ known)
      have fewer := others other.address (named ▸ differs)
      have more : askedBy state.calls other.address ≤ askedBy before.calls other.address :=
        calls.sublist.countP_le
      change _ + openFor before.questions _ + _ ≤ askedBy before.calls _
      omega

/-- A task changes without its questions. -/
theorem Balanced.quietly (balanced : Balanced taken state) {before : TaskSystem}
    (tasks : before.tasks = state.tasks) (questions : before.questions = state.questions)
    (calls : state.calls <+: before.calls) (member : task ∈ state.tasks)
    (named : changed.address = task.address) (due : changed.due ≤ task.due) :
    Balanced taken (before.set changed) := by
  apply balanced.change tasks member named
  · intro address _
    rw [questions]
  · exact calls
  · have more : askedBy state.calls task.address ≤ askedBy before.calls task.address :=
      calls.sublist.countP_le
    rw [questions]
    omega

/-- A new task has no answers and no questions. -/
theorem Balanced.add (balanced : Balanced taken state) (numbered : Numbered runs state)
    (phase : task.phase = .registered) (new : ∀ other ∈ state.tasks, other.address ≠ task.address) :
    Balanced taken (state.add task) where
  known := fun entry member =>
    (balanced.known entry member).imp fun _ here => here.imp_left (List.mem_append_left _)
  asked := by
    intro other member
    rcases List.mem_append.mp member with earlier | last
    · exact balanced.asked other earlier
    · rcases List.mem_singleton.mp last with rfl
      have answers : answersTo taken other.address = 0 := by
        refine List.countP_eq_zero.mpr fun entry member same => ?_
        rcases balanced.known entry member with ⟨teller, known, named⟩
        exact new teller known (named.trans (of_decide_eq_true same))
      have questions : openFor state.questions other.address = 0 := by
        refine List.countP_eq_zero.mpr fun question member same => ?_
        rcases numbered.questioned question member with ⟨asker, known, named⟩
        exact new asker known (named.trans (of_decide_eq_true same))
      have due : other.due = 0 := by rw [AgentTask.due, phase]
      change _ + openFor state.questions _ + _ ≤ _
      rw [answers, questions, due]
      exact Nat.zero_le _

/-- An open question becomes an answer. -/
theorem Balanced.take (balanced : Balanced taken state) (numbered : Numbered runs state)
    {addressee : PendingQuestion} {answer : TaskEvent} {question : OpenQuestion} {others : List OpenQuestion}
    (takes : takeQuestion state.questions addressee = some (question, others)) :
    Balanced (taken ++ [(run, ⟨addressee, answer⟩)]) (state.setQuestions others) := by
  rcases takeQuestion_eq_some takes with ⟨⟨device, id⟩, front, back, before, after⟩
  have named : question.toPendingQuestion = addressee := congr (congrArg PendingQuestion.mk device) id
  refine ⟨fun entry member => ?_, fun task member => ?_⟩
  · rcases List.mem_append.mp member with earlier | last
    · exact balanced.known entry earlier
    · rw [List.mem_singleton.mp last, ← named]
      refine numbered.questioned question ?_
      rw [before]
      exact List.mem_append_right _ List.mem_cons_self
  · have known := balanced.asked task member
    have moved : answersTo (taken ++ [(run, ⟨addressee, answer⟩)]) task.address + openFor others task.address =
        answersTo taken task.address + openFor state.questions task.address := by
      rw [before, after, answersTo, answersTo, openFor, openFor, List.countP_append, List.countP_append,
        List.countP_append, List.countP_cons, List.countP_cons, named]
      simp only [List.countP_nil]
      omega
    change _ + openFor others _ + _ ≤ askedBy state.calls _
    omega

/-- Step lemma. -/
theorem Balanced.step (balanced : Balanced taken state) (numbered : Numbered runs state) {action : TaskStep}
    (steps : (tasking runs).step state action = some next) :
    Balanced (taken ++ (state.takesAnswer runs action).toList) next := by
  have same : state.calls <+: state.calls := List.prefix_rfl
  have grown (address : PendingQuestion) (event : TaskEvent) :
      state.calls <+: (state.append address event).calls := List.prefix_append _ _
  rcases tasking_cases steps with ⟨run, step, changed, loop, rfl, moves, rfl⟩ |
    ⟨task, step, rfl, member, moves⟩
  · -- what a loop keeps for itself does not matter
    suffices moved : Balanced (taken ++ (state.takesAnswer runs (.loop run step)).toList) changed from
      { moved with }
    have silent (quiet : state.takesAnswer runs (.loop run step) = none) (onwards : Balanced taken changed) :
        Balanced (taken ++ (state.takesAnswer runs (.loop run step)).toList) changed := by
      rw [append_takesAnswer_of_none quiet]
      exact onwards
    cases moves with
    | skipped => exact silent rfl balanced
    | counted => exact silent rfl balanced
    | @registered id kind desc now tracker phase registers =>
        have added : Balanced taken (state.add ⟨⟨(runs run).devicePrefix, id⟩, kind, desc, [], .registered⟩) := by
          apply balanced.add numbered rfl
          intro other member same
          exact numbered.counted run id kind desc phase other member (congrArg PendingQuestion.taskId same)
        exact silent rfl { added with }
    | refused => exact silent rfl balanced
    | dispatched phase =>
        refine silent rfl (balanced.quietly rfl rfl (grown _ _) (numbered.registered run _ _ _ phase) rfl ?_)
        exact Nat.zero_le _
    | @taken id answer question others rest ready marker takes =>
        rw [takesAnswer_taken ready marker takes]
        exact balanced.take numbered takes
    | missed ready marker misses => exact silent (takesAnswer_missed ready marker misses) balanced
    | @sent question answer phase =>
        refine silent rfl ?_
        rcases deliver_cases state question answer with unheard | ⟨task, member, _, heard⟩
        · rw [unheard]
          exact balanced
        · rw [heard]
          exact balanced.quietly rfl rfl same member rfl (Nat.zero_le _)
    | answered =>
        refine silent rfl ⟨balanced.known, fun task member => ?_⟩
        exact (balanced.asked task member).trans ((grown _ _).sublist.countP_le)
  · rw [append_takesAnswer_of_none rfl]
    cases moves with
    | reported => exact { balanced with }
    | asked => exact balanced.quietly rfl rfl same member rfl (Nat.zero_le _)
    | @questionLogged question phase =>
        refine balanced.change rfl member rfl (fun _ _ => le_rfl) (grown _ _) ?_
        have one : askedBy (state.append task.address (.asking question)).calls task.address =
            askedBy state.calls task.address + 1 := by
          change askedBy (state.calls ++ [_]) _ = _
          rw [askedBy_append]
          simp [askedBy, TaskEvent.isAsking]
        rw [one]
        change openFor state.questions _ + 1 + _ ≤ openFor state.questions _ + _ + _
        omega
    | posted phase =>
        have due : task.due = 1 := by rw [AgentTask.due, phase]
        refine balanced.change rfl member rfl (fun address differs => ?_) same ?_
        · change openFor (state.questions ++ [_]) _ ≤ _
          rw [openFor, List.countP_append, List.countP_cons, if_neg (by simpa using Ne.symm differs)]
          exact le_rfl
        · change openFor (state.questions ++ [_]) _ + 0 + askedBy state.calls _ ≤ _
          rw [openFor, List.countP_append, List.countP_cons, if_pos (by simp), due]
          exact le_rfl
    | received => exact balanced.quietly rfl rfl same member rfl (Nat.zero_le _)
    | concluded => exact balanced.quietly rfl rfl same member rfl (Nat.zero_le _)
    | completed => exact balanced.quietly rfl rfl same member rfl (Nat.zero_le _)
    | resultLogged =>
        refine balanced.quietly rfl rfl (grown _ _) member rfl (le_of_eq_of_le ?_ (Nat.zero_le _))
        rw [AgentTask.due]
        split
        · rename_i posting
          split at posting <;> cases posting
        · rfl
    | cleaned =>
        refine balanced.change rfl member rfl (fun _ _ => List.filter_sublist.countP_le) same ?_
        have fewer : openFor (state.questions.filter fun question => question.taskId ≠ task.address.taskId)
            task.address ≤ openFor state.questions task.address := List.filter_sublist.countP_le
        change openFor (state.questions.filter _) _ + 0 + askedBy state.calls _ ≤ _ + _ + askedBy state.calls _
        omega

/-! ## The log as a whole -/

/-- The answers in the log are among those that were taken. -/
theorem AnswersLogged.answers_le (logged : AnswersLogged runs taken state) (address : PendingQuestion) :
    (state.calls.countP fun call => call.task = address ∧ call.event.isAnswered) ≤ answersTo taken address := by
  rcases logged with ⟨recorded, entries, own⟩
  have among : recorded.Subperm taken := by
    refine List.subperm_ext_iff.mpr fun entry _ => ?_
    have counts (entries : List (Nat × LogCall)) :
        (entries.filter fun other => other.1 = entry.1).count entry = entries.count entry :=
      List.count_filter (decide_eq_true rfl)
    have part : (recorded.filter fun other => other.1 = entry.1).Sublist
        (taken.filter fun other => other.1 = entry.1) := own entry.1 ▸ List.sublist_append_left _ _
    have fewer := part.count_le entry
    rwa [counts, counts] at fewer
  have answers : (state.calls.countP fun call => call.task = address ∧ call.event.isAnswered) =
      recorded.countP fun entry => entry.2.task = address := by
    have mapped : recorded.countP (fun entry => entry.2.task = address) =
        (recorded.map Prod.snd).countP fun call => call.task = address := by
      rw [List.countP_map]
      rfl
    rw [mapped, entries, List.countP_filter]
    refine List.countP_congr fun call _ => ?_
    simp
  rw [answers]
  exact among.countP_le _

/-- In every initial part of the log, a task has no more answers than
questions. -/
def AnswersFollow (calls : List LogCall) : Prop :=
  ∀ earlier, earlier <+: calls → ∀ address,
    (earlier.countP fun call => call.task = address ∧ call.event.isAnswered) ≤
      earlier.countP fun call => call.task = address ∧ call.event.isAsking

theorem answersFollow_whole (logged : AnswersLogged runs taken state) (balanced : Balanced taken state)
    (address : PendingQuestion) :
    (state.calls.countP fun call => call.task = address ∧ call.event.isAnswered) ≤
      state.calls.countP fun call => call.task = address ∧ call.event.isAsking := by
  refine (logged.answers_le address).trans ?_
  by_cases known : ∃ task ∈ state.tasks, task.address = address
  · rcases known with ⟨task, member, rfl⟩
    have asked := balanced.asked task member
    change _ ≤ askedBy state.calls _
    omega
  · have none : answersTo taken address = 0 := by
      refine List.countP_eq_zero.mpr fun entry member same => known ?_
      rcases balanced.known entry member with ⟨task, here, named⟩
      exact ⟨task, here, named.trans (of_decide_eq_true same)⟩
    rw [none]
    exact Nat.zero_le _

/-- A step makes one call at most. -/
theorem calls_step {action : TaskStep} (steps : (tasking runs).step state action = some next) :
    next.calls = state.calls ∨ ∃ call, next.calls = state.calls ++ [call] := by
  rcases tasking_cases steps with ⟨run, step, changed, loop, rfl, moves, rfl⟩ |
    ⟨task, step, rfl, member, moves⟩
  · cases moves with
    | dispatched => exact .inr ⟨_, rfl⟩
    | answered => exact .inr ⟨_, rfl⟩
    | @sent question answer =>
        rcases deliver_cases state question answer with same | ⟨task, _, _, same⟩ <;> rw [same] <;>
          exact .inl rfl
    | _ => exact .inl rfl
  · cases moves with
    | questionLogged => exact .inr ⟨_, rfl⟩
    | resultLogged => exact .inr ⟨_, rfl⟩
    | _ => exact .inl rfl

/-- Invariant of the log. -/
structure LogSound (runs : Nat → DispatchRun) (taken : List (Nat × LogCall)) (state : TaskSystem) : Prop where
  numbered : Numbered runs state
  recorded : Recorded runs state
  logged : AnswersLogged runs taken state
  balanced : Balanced taken state
  follow : AnswersFollow state.calls

theorem logSound_start (runs : Nat → DispatchRun) : LogSound runs [] (.start runs) where
  numbered := numbered_start runs
  recorded := recorded_start runs
  logged := answersLogged_start runs
  balanced := balanced_start runs
  follow := by
    intro earlier front address
    rw [List.prefix_nil.mp front]
    exact le_rfl

/-- Step lemma. -/
theorem LogSound.step (told : LogSound runs taken state) {action : TaskStep} (fresh : Fresh state action)
    (steps : (tasking runs).step state action = some next) :
    LogSound runs (taken ++ (state.takesAnswer runs action).toList) next := by
  have kept := recorded_step ⟨told.numbered, told.recorded⟩ fresh steps
  have logged := told.logged.step steps
  have balanced := told.balanced.step told.numbered steps
  refine ⟨kept.1, kept.2, logged, balanced, fun earlier front address => ?_⟩
  rcases calls_step steps with same | ⟨call, grown⟩
  · exact told.follow earlier (same ▸ front) address
  · rcases List.prefix_concat_iff.mp (grown ▸ front) with whole | part
    · rw [whole, ← grown]
      exact answersFollow_whole logged balanced address
    · exact told.follow earlier part address

/-- Each task has logged its life so far, in order, and nothing is logged under
another name.  Each loop has logged the answers that it took, in order, but
for one that it still holds, and in every initial part of the log a task has
no more answers than questions. -/
theorem task_lives {final : TaskGateway} {schedule : List TaskStep}
    (runs' : (taskGateway runs).run (.start runs) schedule = some final)
    (few : (idsHandedOut schedule).length ≤ UInt32.size) :
    (∀ task ∈ final.system.tasks, eventsOf final.system.calls task.address = task.history) ∧
      (∀ call ∈ final.system.calls, ∃ task ∈ final.system.tasks, task.address = call.task) ∧
      (∃ recorded : List (Nat × LogCall),
        recorded.map Prod.snd = final.system.calls.filter (fun call => call.event.isAnswered) ∧
          ∀ run, recorded.filter (fun entry => entry.1 = run) ++
              (((final.system.loops run).unlogged (runs run).devicePrefix).map (Prod.mk run)).toList =
            (answersTaken runs schedule).filter fun entry => entry.1 = run) ∧
      ∀ earlier, earlier <+: final.system.calls → ∀ address,
        (earlier.countP fun call => call.task = address ∧ call.event.isAnswered) ≤
          earlier.countP fun call => call.task = address ∧ call.event.isAsking := by
  rcases tasking_of_taskGateway runs' few with ⟨run, guarded⟩
  have preserved : ∀ taken state action next, LogSound runs taken state → Fresh state action →
      (tasking runs).step state action = some next →
        LogSound runs (taken ++ (state.takesAnswer runs action).toList) next :=
    fun _ _ _ _ told fresh steps => told.step fresh steps
  have told := Machine.observed_invariant preserved (logSound_start runs) guarded run
  exact ⟨told.recorded.histories, told.recorded.named, told.logged, told.follow⟩

end

theorem task_lives_sample :
    answersTaken twoDevices twoDevicesSchedule =
      [(2, ⟨⟨"alice".toList, 3⟩, .answered "blue".toList⟩)] ∧
    ∃ recorded : List (Nat × LogCall),
      recorded.map Prod.snd = twoDevicesFinal.system.calls.filter (fun call => call.event.isAnswered) ∧
        recorded.filter (fun entry => entry.1 = 2) ++ [] = [(2, ⟨⟨"alice".toList, 3⟩, .answered "blue".toList⟩)] := by
  have told := (task_lives twoDevices_runs (by decide)).2.2.1
  refine ⟨by decide, told.imp fun recorded here => ⟨here.1, ?_⟩⟩
  exact here.2 2

end Agent
end Rabb1tClaw
