import Rabb1tClaw.Agent.Background
import Rabb1tClaw.Foundations.Machine

namespace Rabb1tClaw
namespace Agent

open Foundations

/-!
# Questions to the user

An advanced task that asks a question puts the sending end of a channel into
one list for all devices, and waits at the receiving end.  An answer marker
takes the question of its device and task out of the list, and sends the
answer after it has left the lock.  Meanwhile the wait may time out, which
drops the receiving end.  A task takes what is left of its questions out of
the list when it returns.

Tasks and answers are numbered, and a channel is named by its task and by the
number of the question that the task asks.  Nothing is assumed about the ids
of tasks, so two tasks may have the same.
-/

/-- A one-shot channel: the question that a task asks. -/
structure Channel where
  task : Nat
  number : Nat
  deriving DecidableEq, Repr

/-- A pending question with the sending end of its channel. -/
structure OpenQuestion extends PendingQuestion where
  answerTx : Channel
  deriving DecidableEq, Repr

inductive TaskPhase where
  | running
  | waiting (answerRx : Channel)
  /-- `run_inner` has returned, and the questions of the task are still to be
  removed. -/
  | leaving
  | returned
  deriving DecidableEq, Repr

inductive AnswerPhase where
  | marked
  /-- The question is out of the list, and the answer is not yet sent. -/
  | holding (question : OpenQuestion)
  | handled (dispatched : Bool)
  deriving DecidableEq, Repr

structure Questions where
  advancedQuestions : List OpenQuestion
  phases : Nat → TaskPhase
  asked : Nat → Nat
  answers : Nat → AnswerPhase
  /-- The answers that were sent to a waiting task, with the channel. -/
  delivered : List (Nat × Channel)

inductive QuestionStep where
  /-- The question arm stores a pending question and begins to wait. -/
  | post (task : Nat)
  /-- The wait ends with an answer. -/
  | receive (task : Nat)
  /-- The wait ends with a timeout, or because the sending end was dropped. -/
  | expire (task : Nat)
  /-- `run_inner` returns for another reason. -/
  | finish (task : Nat)
  /-- `run_advanced_task` removes the questions of the task and returns. -/
  | cleanup (task : Nat)
  /-- `answer_pending_question` looks for the question under the lock. -/
  | take (answer : Nat)
  /-- `answer_pending_question` sends the answer. -/
  | send (answer : Nat)
  deriving DecidableEq, Repr

/-- The device and the task of a question are those of another. -/
def Matches (addressee : PendingQuestion) (question : OpenQuestion) : Prop :=
  question.devicePrefix = addressee.devicePrefix ∧ question.taskId = addressee.taskId

instance (addressee : PendingQuestion) (question : OpenQuestion) :
    Decidable (Matches addressee question) :=
  inferInstanceAs (Decidable (_ ∧ _))

/-- The question at the first position that matches, and the list without it. -/
def takeQuestion (questions : List OpenQuestion) (addressee : PendingQuestion) :
    Option (OpenQuestion × List OpenQuestion) :=
  (questions.findIdx? fun question => Matches addressee question).bind fun index =>
    questions[index]?.map fun question => (question, questions.eraseIdx index)

/-- The steps of the tasks and answers.  `tasks` gives the device and the id of
a task, and `addressees` those that an answer marker names. -/
def questioning (tasks addressees : Nat → PendingQuestion) : Machine Questions QuestionStep where
  step state
    | .post task =>
        if state.phases task = .running then
          let channel : Channel := ⟨task, state.asked task⟩
          some { state with
            advancedQuestions := state.advancedQuestions ++ [⟨tasks task, channel⟩]
            phases := Function.update state.phases task (.waiting channel)
            asked := Function.update state.asked task (state.asked task + 1) }
        else
          none
    | .receive task =>
        match state.phases task with
        | .waiting channel =>
            if state.delivered.any fun entry => entry.2 = channel then
              some { state with phases := Function.update state.phases task .running }
            else
              none
        | _ => none
    | .expire task =>
        match state.phases task with
        | .waiting _ => some { state with phases := Function.update state.phases task .leaving }
        | _ => none
    | .finish task =>
        if state.phases task = .running then
          some { state with phases := Function.update state.phases task .leaving }
        else
          none
    | .cleanup task =>
        if state.phases task = .leaving then
          some { state with
            advancedQuestions := state.advancedQuestions.filter fun question =>
              question.taskId ≠ (tasks task).taskId
            phases := Function.update state.phases task .returned }
        else
          none
    | .take answer =>
        if state.answers answer = .marked then
          match takeQuestion state.advancedQuestions (addressees answer) with
          | some (question, others) =>
              some { state with
                advancedQuestions := others
                answers := Function.update state.answers answer (.holding question) }
          | none =>
              some { state with answers := Function.update state.answers answer (.handled false) }
        else
          none
    | .send answer =>
        match state.answers answer with
        | .holding question =>
            -- without a receiving end the answer is lost
            some { state with
              answers := Function.update state.answers answer (.handled true)
              delivered := state.delivered ++
                if state.phases question.answerTx.task = .waiting question.answerTx then
                  [(answer, question.answerTx)]
                else
                  [] }
        | _ => none

namespace Questions

/-- No task has asked, and no answer was handled. -/
def start : Questions where
  advancedQuestions := []
  phases := fun _ => .running
  asked := fun _ => 0
  answers := fun _ => .marked
  delivered := []

end Questions

/-! ## What a step does -/

theorem takeQuestion_eq_some {questions others : List OpenQuestion} {addressee : PendingQuestion}
    {question : OpenQuestion} (takes : takeQuestion questions addressee = some (question, others)) :
    Matches addressee question ∧
      ∃ front back, questions = front ++ question :: back ∧ others = front ++ back := by
  rcases Option.bind_eq_some_iff.mp takes with ⟨index, found, here⟩
  rcases List.findIdx?_eq_some_iff_getElem.mp found with ⟨within, hit, _⟩
  rw [List.getElem?_eq_getElem within, Option.map_some] at here
  rcases Prod.mk.inj (Option.some.inj here) with ⟨rfl, rfl⟩
  refine ⟨of_decide_eq_true hit, questions.take index, questions.drop (index + 1), ?_,
    List.eraseIdx_eq_take_drop_succ questions index⟩
  rw [List.getElem_cons_drop within, List.take_append_drop]

section

variable {tasks addressees : Nat → PendingQuestion} {state next : Questions} {task answer : Nat}

theorem post_cases (steps : (questioning tasks addressees).step state (.post task) = some next) :
    state.phases task = .running ∧
      next = { state with
        advancedQuestions := state.advancedQuestions ++ [⟨tasks task, ⟨task, state.asked task⟩⟩]
        phases := Function.update state.phases task (.waiting ⟨task, state.asked task⟩)
        asked := Function.update state.asked task (state.asked task + 1) } := by
  rcases Option.ite_none_right_eq_some.mp steps with ⟨running, same⟩
  exact ⟨running, (Option.some.inj same).symm⟩

theorem receive_cases (steps : (questioning tasks addressees).step state (.receive task) = some next) :
    ∃ channel, state.phases task = .waiting channel ∧ (∃ entry ∈ state.delivered, entry.2 = channel) ∧
      next = { state with phases := Function.update state.phases task .running } := by
  rw [questioning] at steps
  simp only at steps
  split at steps
  · rename_i channel waits
    rcases Option.ite_none_right_eq_some.mp steps with ⟨arrived, same⟩
    rcases List.any_eq_true.mp arrived with ⟨entry, member, isChannel⟩
    exact ⟨channel, waits, ⟨entry, member, of_decide_eq_true isChannel⟩, (Option.some.inj same).symm⟩
  · cases steps

theorem expire_cases (steps : (questioning tasks addressees).step state (.expire task) = some next) :
    ∃ channel, state.phases task = .waiting channel ∧
      next = { state with phases := Function.update state.phases task .leaving } := by
  rw [questioning] at steps
  simp only at steps
  split at steps
  · rename_i channel waits
    exact ⟨channel, waits, (Option.some.inj steps).symm⟩
  · cases steps

theorem finish_cases (steps : (questioning tasks addressees).step state (.finish task) = some next) :
    state.phases task = .running ∧
      next = { state with phases := Function.update state.phases task .leaving } := by
  rcases Option.ite_none_right_eq_some.mp steps with ⟨running, same⟩
  exact ⟨running, (Option.some.inj same).symm⟩

theorem cleanup_cases (steps : (questioning tasks addressees).step state (.cleanup task) = some next) :
    state.phases task = .leaving ∧
      next = { state with
        advancedQuestions := state.advancedQuestions.filter fun question =>
          question.taskId ≠ (tasks task).taskId
        phases := Function.update state.phases task .returned } := by
  rcases Option.ite_none_right_eq_some.mp steps with ⟨leaving, same⟩
  exact ⟨leaving, (Option.some.inj same).symm⟩

theorem take_cases (steps : (questioning tasks addressees).step state (.take answer) = some next) :
    state.answers answer = .marked ∧
      ((∃ question others,
          takeQuestion state.advancedQuestions (addressees answer) = some (question, others) ∧
          next = { state with
            advancedQuestions := others
            answers := Function.update state.answers answer (.holding question) }) ∨
        (takeQuestion state.advancedQuestions (addressees answer) = none ∧
          next = { state with
            answers := Function.update state.answers answer (.handled false) })) := by
  rcases Option.ite_none_right_eq_some.mp steps with ⟨marked, rest⟩
  refine ⟨marked, ?_⟩
  split at rest
  · rename_i question others takes
    exact .inl ⟨question, others, takes, (Option.some.inj rest).symm⟩
  · rename_i missed
    exact .inr ⟨missed, (Option.some.inj rest).symm⟩

theorem send_cases (steps : (questioning tasks addressees).step state (.send answer) = some next) :
    ∃ question, state.answers answer = .holding question ∧
      next = { state with
        answers := Function.update state.answers answer (.handled true)
        delivered := state.delivered ++
          if state.phases question.answerTx.task = .waiting question.answerTx then
            [(answer, question.answerTx)]
          else
            [] } := by
  rw [questioning] at steps
  simp only at steps
  split at steps
  · rename_i question holds
    exact ⟨question, holds, (Option.some.inj steps).symm⟩
  · cases steps

/-! ## Where a question can be -/

/-- The question is one that its task has asked. -/
structure Asked (tasks : Nat → PendingQuestion) (asked : Nat → Nat) (question : OpenQuestion) : Prop where
  own : question.toPendingQuestion = tasks question.answerTx.task
  before : question.answerTx.number < asked question.answerTx.task

/-- A question is in the list once, or one answer holds it, or one answer was
sent to it, and nothing but its own device and task was named by the answer. -/
structure Routed (tasks addressees : Nat → PendingQuestion) (state : Questions) : Prop where
  distinct : (state.advancedQuestions.map OpenQuestion.answerTx).Nodup
  pending : ∀ question ∈ state.advancedQuestions, Asked tasks state.asked question ∧
    (state.phases question.answerTx.task = .waiting question.answerTx ∨
      state.phases question.answerTx.task = .leaving)
  held : ∀ answer question, state.answers answer = .holding question → Asked tasks state.asked question ∧
    question.toPendingQuestion = addressees answer ∧
    ∀ other ∈ state.advancedQuestions, other.answerTx ≠ question.answerTx
  heldOnce : ∀ answer answer' question question', state.answers answer = .holding question →
    state.answers answer' = .holding question' → question.answerTx = question'.answerTx → answer = answer'
  sent : ∀ answer channel, (answer, channel) ∈ state.delivered →
    state.answers answer = .handled true ∧ tasks channel.task = addressees answer ∧
    channel.number < state.asked channel.task ∧
    (∀ question ∈ state.advancedQuestions, question.answerTx ≠ channel) ∧
    ∀ other question, state.answers other = .holding question → question.answerTx ≠ channel
  answersOnce : (state.delivered.map Prod.fst).Nodup
  channelsOnce : (state.delivered.map Prod.snd).Nodup

theorem routed_start : Routed tasks addressees .start where
  distinct := List.nodup_nil
  pending := by rintro question ⟨⟩
  held := by rintro answer question ⟨⟩
  heldOnce := by rintro answer answer' question question' ⟨⟩
  sent := by rintro answer channel ⟨⟩
  answersOnce := List.nodup_nil
  channelsOnce := List.nodup_nil

/-- A task may go on to a phase in which its pending questions are allowed. -/
theorem Routed.enter (routed : Routed tasks addressees state) {phase : TaskPhase}
    (allowed : ∀ question ∈ state.advancedQuestions, question.answerTx.task = task →
      phase = .waiting question.answerTx ∨ phase = .leaving) :
    Routed tasks addressees { state with phases := Function.update state.phases task phase } := by
  refine { routed with pending := fun question member => ⟨(routed.pending question member).1, ?_⟩ }
  by_cases own : question.answerTx.task = task
  · subst own
    simp only [Function.update_self]
    exact allowed question member rfl
  · simp only [Function.update_of_ne own]
    exact (routed.pending question member).2

/-- A task that runs has no pending question. -/
theorem Routed.not_pending (routed : Routed tasks addressees state)
    (running : state.phases task = .running) {question : OpenQuestion}
    (member : question ∈ state.advancedQuestions) : question.answerTx.task ≠ task := by
  rintro rfl
  rcases (routed.pending question member).2 with waits | leaves
  · rw [running] at waits
    cases waits
  · rw [running] at leaves
    cases leaves

theorem Routed.post (routed : Routed tasks addressees state)
    (steps : (questioning tasks addressees).step state (.post task) = some next) :
    Routed tasks addressees next := by
  rcases post_cases steps with ⟨running, rfl⟩
  have grown {channel : Channel} (before : channel.number < state.asked channel.task) :
      channel.number < Function.update state.asked task (state.asked task + 1) channel.task := by
    by_cases own : channel.task = task
    · rw [own, Function.update_self, ← own]
      exact Nat.lt_succ_of_lt before
    · rw [Function.update_of_ne own]
      exact before
  refine ⟨?_, fun question member => ?_, fun answer question holds => ?_, routed.heldOnce,
    fun answer channel member => ?_, routed.answersOnce, routed.channelsOnce⟩
  · rw [List.map_append]
    refine routed.distinct.append (List.nodup_singleton _) fun channel earlier last => ?_
    rcases List.mem_map.mp earlier with ⟨question, member, rfl⟩
    have same := List.mem_singleton.mp last
    exact routed.not_pending running member (congrArg Channel.task same)
  · rcases List.mem_append.mp member with earlier | last
    · have other := routed.not_pending running earlier
      rcases routed.pending question earlier with ⟨asked, phase⟩
      refine ⟨⟨asked.own, grown asked.before⟩, ?_⟩
      simp only [Function.update_of_ne other]
      exact phase
    · rcases List.mem_singleton.mp last with rfl
      refine ⟨⟨rfl, ?_⟩, .inl ?_⟩
      · simp only [Function.update_self]
        exact Nat.lt_succ_self _
      · simp only [Function.update_self]
  · rcases routed.held answer question holds with ⟨asked, named, absent⟩
    refine ⟨⟨asked.own, grown asked.before⟩, named, fun other member same => ?_⟩
    rcases List.mem_append.mp member with earlier | last
    · exact absent other earlier same
    · rcases List.mem_singleton.mp last with rfl
      have before := asked.before
      rw [← same] at before
      exact Nat.lt_irrefl _ before
  · rcases routed.sent answer channel member with ⟨handled, named, before, absent, unheld⟩
    refine ⟨handled, named, grown before, fun question here same => ?_, unheld⟩
    rcases List.mem_append.mp here with earlier | last
    · exact absent question earlier same
    · rcases List.mem_singleton.mp last with rfl
      rw [← same] at before
      exact Nat.lt_irrefl _ before

/-- Some questions leave the list. -/
theorem Routed.remove (routed : Routed tasks addressees state) {fewer : List OpenQuestion}
    (sublist : fewer.Sublist state.advancedQuestions) :
    Routed tasks addressees { state with advancedQuestions := fewer } where
  distinct := routed.distinct.sublist (sublist.map _)
  pending := fun question member =>
    routed.pending question (sublist.mem member)
  held := fun answer question holds =>
    have known := routed.held answer question holds
    ⟨known.1, known.2.1, fun other member => known.2.2 other (sublist.mem member)⟩
  heldOnce := routed.heldOnce
  sent := fun answer channel member =>
    have known := routed.sent answer channel member
    ⟨known.1, known.2.1, known.2.2.1,
      fun question here => known.2.2.2.1 question (sublist.mem here), known.2.2.2.2⟩
  answersOnce := routed.answersOnce
  channelsOnce := routed.channelsOnce

theorem Routed.cleanup (routed : Routed tasks addressees state)
    (steps : (questioning tasks addressees).step state (.cleanup task) = some next) :
    Routed tasks addressees next := by
  rcases cleanup_cases steps with ⟨_, rfl⟩
  refine Routed.enter (routed.remove List.filter_sublist) fun question member own => ?_
  rcases List.mem_filter.mp member with ⟨here, differs⟩
  have same : question.taskId = (tasks task).taskId := by
    rw [← own, ← (routed.pending question here).1.own]
  exact absurd same (of_decide_eq_true differs)

/-- An answer that was not sent is done. -/
theorem Routed.settle (routed : Routed tasks addressees state)
    (unsettled : state.answers answer ≠ .handled true) (dispatched : Bool) :
    Routed tasks addressees
      { state with answers := Function.update state.answers answer (.handled dispatched) } := by
  have origin : ∀ {other question},
      Function.update state.answers answer (.handled dispatched) other = .holding question →
        state.answers other = .holding question := by
    intro other question holds
    rcases update_eq_cases holds with ⟨_, done⟩ | ⟨_, before⟩
    · cases done
    · exact before
  refine { routed with
    held := fun other question holds => routed.held other question (origin holds)
    heldOnce := fun first second question question' holds holds' =>
      routed.heldOnce first second question question' (origin holds) (origin holds')
    sent := fun other channel member => ?_ }
  rcases routed.sent other channel member with ⟨handled, named, before, absent, unheld⟩
  have differs : other ≠ answer := by
    rintro rfl
    exact unsettled handled
  exact ⟨(Function.update_of_ne differs _ _).trans handled, named, before, absent,
    fun third question holds => unheld third question (origin holds)⟩

/-- An answer holds a question that is nowhere else. -/
theorem Routed.hold (routed : Routed tasks addressees state) {question : OpenQuestion}
    (marked : state.answers answer = .marked) (asked : Asked tasks state.asked question)
    (named : question.toPendingQuestion = addressees answer)
    (absent : ∀ other ∈ state.advancedQuestions, other.answerTx ≠ question.answerTx)
    (unheld : ∀ other question', state.answers other = .holding question' →
      question'.answerTx ≠ question.answerTx)
    (unsent : ∀ entry ∈ state.delivered, entry.2 ≠ question.answerTx) :
    Routed tasks addressees
      { state with answers := Function.update state.answers answer (.holding question) } := by
  have origin : ∀ {other question'},
      Function.update state.answers answer (.holding question) other = .holding question' →
        (other = answer ∧ question' = question) ∨ state.answers other = .holding question' := by
    intro other question' holds
    rcases update_eq_cases holds with ⟨same, new⟩ | ⟨_, before⟩
    · exact .inl ⟨same, AnswerPhase.holding.inj new⟩
    · exact .inr before
  refine ⟨routed.distinct, routed.pending, fun other question' holds => ?_,
    fun first second question' question'' holds holds' same => ?_, fun other channel member => ?_,
    routed.answersOnce, routed.channelsOnce⟩
  · rcases origin holds with ⟨rfl, rfl⟩ | earlier
    · exact ⟨asked, named, absent⟩
    · exact routed.held other question' earlier
  · rcases origin holds with ⟨rfl, rfl⟩ | earlier
    · rcases origin holds' with ⟨rfl, _⟩ | earlier'
      · rfl
      · exact absurd same.symm (unheld second question'' earlier')
    · rcases origin holds' with ⟨rfl, rfl⟩ | earlier'
      · exact absurd same (unheld first question' earlier)
      · exact routed.heldOnce first second question' question'' earlier earlier' same
  · rcases routed.sent other channel member with ⟨handled, known, before, absent', unheld'⟩
    have differs : other ≠ answer := by
      rintro rfl
      rw [marked] at handled
      cases handled
    refine ⟨(Function.update_of_ne differs _ _).trans handled, known, before, absent',
      fun third question' holds => ?_⟩
    rcases origin holds with ⟨_, rfl⟩ | earlier
    · exact Ne.symm (unsent _ member)
    · exact unheld' third question' earlier

/-- An answer is done without a question, or finds one and holds it. -/
theorem Routed.take (routed : Routed tasks addressees state)
    (steps : (questioning tasks addressees).step state (.take answer) = some next) :
    Routed tasks addressees next := by
  rcases take_cases steps with ⟨marked, ⟨question, others, takes, rfl⟩ | ⟨_, rfl⟩⟩
  · rcases takeQuestion_eq_some takes with ⟨named, front, back, split, rfl⟩
    have member : question ∈ state.advancedQuestions :=
      split ▸ List.mem_append_right front List.mem_cons_self
    have fewer : (front ++ back).Sublist state.advancedQuestions :=
      split ▸ (List.Sublist.refl front).append (List.sublist_cons_self question back)
    rcases routed.pending question member with ⟨asked, _⟩
    have distinct := routed.distinct
    rw [split, List.map_append, List.map_cons] at distinct
    have alone := (List.nodup_middle.mp distinct)
    refine Routed.hold (routed.remove fewer) marked asked
      (congr (congrArg PendingQuestion.mk named.1) named.2) (fun other here same => ?_)
      (fun other question' holds => ?_) fun entry sent => ?_
    · rw [← List.map_append, List.nodup_cons] at alone
      exact alone.1 (List.mem_map.mpr ⟨other, here, same⟩)
    · exact Ne.symm ((routed.held other question' holds).2.2 question member)
    · exact Ne.symm ((routed.sent entry.1 entry.2 sent).2.2.2.1 question member)
  · exact routed.settle (by rw [marked]; rintro ⟨⟩) false

theorem Routed.send (routed : Routed tasks addressees state)
    (steps : (questioning tasks addressees).step state (.send answer) = some next) :
    Routed tasks addressees next := by
  rcases send_cases steps with ⟨question, holds, rfl⟩
  rcases routed.held answer question holds with ⟨asked, named, absent⟩
  have unsettled : state.answers answer ≠ .handled true := by rw [holds]; rintro ⟨⟩
  have settled := routed.settle unsettled true
  have unsent : ∀ entry ∈ state.delivered, entry.1 ≠ answer ∧ entry.2 ≠ question.answerTx := by
    intro entry member
    rcases routed.sent entry.1 entry.2 member with ⟨handled, _, _, _, unheld⟩
    refine ⟨fun same => unsettled (same ▸ handled), fun same => unheld answer question holds same.symm⟩
  split
  · refine ⟨settled.distinct, settled.pending, settled.held, settled.heldOnce,
      fun other channel member => ?_, ?_, ?_⟩
    · rcases List.mem_append.mp member with earlier | last
      · exact settled.sent other channel earlier
      · rcases Prod.mk.inj (List.mem_singleton.mp last) with ⟨rfl, rfl⟩
        refine ⟨Function.update_self _ _ _, asked.own.symm.trans named, asked.before, absent,
          fun third question' held same => ?_⟩
        rcases update_eq_cases held with ⟨_, done⟩ | ⟨differs, before⟩
        · cases done
        · exact differs (routed.heldOnce third other question' question before holds same)
    · rw [List.map_append]
      refine routed.answersOnce.append (List.nodup_singleton _) fun known earlier last => ?_
      rcases List.mem_map.mp earlier with ⟨entry, member, rfl⟩
      exact (unsent entry member).1 (List.mem_singleton.mp last)
    · rw [List.map_append]
      refine routed.channelsOnce.append (List.nodup_singleton _) fun known earlier last => ?_
      rcases List.mem_map.mp earlier with ⟨entry, member, rfl⟩
      exact (unsent entry member).2 (List.mem_singleton.mp last)
  · rw [List.append_nil]
    exact settled

theorem Routed.step {action : QuestionStep} (routed : Routed tasks addressees state)
    (steps : (questioning tasks addressees).step state action = some next) :
    Routed tasks addressees next := by
  cases action with
  | post task => exact routed.post steps
  | receive task =>
      rcases receive_cases steps with ⟨channel, waits, ⟨⟨answer, _⟩, member, rfl⟩, rfl⟩
      refine routed.enter fun question here own => ?_
      rcases (routed.pending question here).2 with phase | phase
      · rw [own, waits] at phase
        exact absurd (TaskPhase.waiting.inj phase).symm
          ((routed.sent answer _ member).2.2.2.1 question here)
      · rw [own, waits] at phase
        cases phase
  | expire task =>
      rcases expire_cases steps with ⟨channel, waits, rfl⟩
      exact routed.enter fun _ _ _ => .inr rfl
  | finish task =>
      rcases finish_cases steps with ⟨running, rfl⟩
      exact routed.enter fun _ _ _ => .inr rfl
  | cleanup task => exact routed.cleanup steps
  | take answer => exact routed.take steps
  | send answer => exact routed.send steps

/-! ## Every order of the steps -/

/-- Only a send to a waiting task delivers. -/
theorem delivers_of_step {action : QuestionStep}
    (steps : (questioning tasks addressees).step state action = some next) {entry : Nat × Channel}
    (member : entry ∈ next.delivered) (new : entry ∉ state.delivered) :
    action = .send entry.1 ∧ state.phases entry.2.task = .waiting entry.2 := by
  cases action with
  | post task =>
      rcases post_cases steps with ⟨_, rfl⟩
      exact absurd member new
  | receive task =>
      rcases receive_cases steps with ⟨_, _, _, rfl⟩
      exact absurd member new
  | expire task =>
      rcases expire_cases steps with ⟨_, _, rfl⟩
      exact absurd member new
  | finish task =>
      rcases finish_cases steps with ⟨_, rfl⟩
      exact absurd member new
  | cleanup task =>
      rcases cleanup_cases steps with ⟨_, rfl⟩
      exact absurd member new
  | take answer =>
      rcases take_cases steps with ⟨_, ⟨_, _, _, rfl⟩ | ⟨_, rfl⟩⟩
      · exact absurd member new
      · exact absurd member new
  | send answer =>
      rcases send_cases steps with ⟨question, _, rfl⟩
      rcases List.mem_append.mp member with earlier | last
      · exact absurd earlier new
      · split at last
        · rename_i waits
          rcases List.mem_singleton.mp last with rfl
          exact ⟨rfl, waits⟩
        · cases last

/-- An answer takes a question only if it names it. -/
theorem take_spec (steps : (questioning tasks addressees).step state (.take answer) = some next) :
    (∀ question ∈ state.advancedQuestions, ¬ Matches (addressees answer) question →
        question ∈ next.advancedQuestions) ∧
      ((∀ question ∈ state.advancedQuestions, ¬ Matches (addressees answer) question) →
        next = { state with answers := Function.update state.answers answer (.handled false) }) := by
  rcases take_cases steps with ⟨_, ⟨taken, others, takes, rfl⟩ | ⟨_, rfl⟩⟩
  · rcases takeQuestion_eq_some takes with ⟨named, front, back, split, rfl⟩
    refine ⟨fun question member differs => ?_, fun unmatched => ?_⟩
    · rw [split] at member
      rcases List.mem_append.mp member with before | later
      · exact List.mem_append_left back before
      · rcases List.mem_cons.mp later with rfl | after
        · exact absurd named differs
        · exact List.mem_append_right front after
    · exact absurd named (unmatched taken (split ▸ List.mem_append_right front List.mem_cons_self))
  · exact ⟨fun _ member _ => member, fun _ => rfl⟩

/-- Every answer goes to at most one question, of the task that it names and
while that task waits; a question gets at most one answer; an answer without a
question changes nothing; and a task that has returned has no question left. -/
theorem questions_routed {schedule : List QuestionStep}
    (runs : (questioning tasks addressees).run .start schedule = some state) :
    (∀ answer channel channel', (answer, channel) ∈ state.delivered →
        (answer, channel') ∈ state.delivered → channel = channel') ∧
      (∀ answer answer' channel, (answer, channel) ∈ state.delivered →
        (answer', channel) ∈ state.delivered → answer = answer') ∧
      state.delivered.Nodup ∧
      (∀ answer channel, (answer, channel) ∈ state.delivered → tasks channel.task = addressees answer) ∧
      (∀ action next, (questioning tasks addressees).step state action = some next →
        ∀ entry ∈ next.delivered, entry ∉ state.delivered →
          action = .send entry.1 ∧ state.phases entry.2.task = .waiting entry.2) ∧
      (∀ answer next, (questioning tasks addressees).step state (.take answer) = some next →
        (∀ question ∈ state.advancedQuestions, ¬ Matches (addressees answer) question →
            question ∈ next.advancedQuestions) ∧
          ((∀ question ∈ state.advancedQuestions, ¬ Matches (addressees answer) question) →
            next = { state with
              answers := Function.update state.answers answer (.handled false) })) ∧
      ∀ task, state.phases task = .returned → ∀ question ∈ state.advancedQuestions,
        question.answerTx.task ≠ task ∧
          ((∀ other, (tasks other).taskId = (tasks task).taskId → other = task) →
            question.taskId ≠ (tasks task).taskId) := by
  have routed : Routed tasks addressees state :=
    Machine.run_keeps (fun _ _ _ here steps => Routed.step here steps) routed_start runs
  refine ⟨fun answer channel channel' first second => ?_, fun answer answer' channel first second => ?_,
    routed.answersOnce.of_map _, fun answer channel member => (routed.sent answer channel member).2.1,
    fun action next steps entry member new => delivers_of_step steps member new,
    fun answer next steps => take_spec steps, fun task returned question member => ?_⟩
  · exact congrArg Prod.snd (List.inj_on_of_nodup_map routed.answersOnce first second rfl)
  · exact congrArg Prod.fst (List.inj_on_of_nodup_map routed.channelsOnce first second rfl)
  · rcases routed.pending question member with ⟨asked, phase⟩
    have differs : question.answerTx.task ≠ task := by
      rintro rfl
      rcases phase with waits | leaves
      · rw [returned] at waits
        cases waits
      · rw [returned] at leaves
        cases leaves
    refine ⟨differs, fun unique same => differs (unique question.answerTx.task ?_)⟩
    rw [← asked.own, same]

end

/-- Two tasks of two devices ask.  The answer to the first arrives, and the
second times out after the first device has answered for it. -/
def twoTasksAsk : List QuestionStep :=
  [.post 0, .post 1, .take 1, .take 0, .send 0, .receive 0, .expire 1, .finish 0, .cleanup 0, .cleanup 1]

def askingTasks (task : Nat) : PendingQuestion :=
  if task = 0 then ⟨"a".toList, 1⟩ else ⟨"b".toList, 2⟩

/-- The first device names its own task, and then the one of the other. -/
def oneDeviceAnswers (answer : Nat) : PendingQuestion :=
  if answer = 0 then ⟨"a".toList, 1⟩ else ⟨"a".toList, 2⟩

theorem twoTasksAsk_runs :
    ((questioning askingTasks oneDeviceAnswers).run .start twoTasksAsk).any (fun state =>
      state.delivered = [(0, ⟨0, 0⟩)] ∧ state.phases 1 = .returned) = true := by
  decide +kernel

theorem questions_routed_twoTasksAsk :
    ∃ state, (questioning askingTasks oneDeviceAnswers).run .start twoTasksAsk = some state ∧
      state.delivered = [(0, ⟨0, 0⟩)] ∧ askingTasks 0 = oneDeviceAnswers 0 ∧
      ∀ question ∈ state.advancedQuestions, question.answerTx.task ≠ 1 := by
  rcases (Option.any_eq_true _ _).mp twoTasksAsk_runs with ⟨state, runs, holds⟩
  rcases of_decide_eq_true holds with ⟨delivered, returned⟩
  rcases questions_routed runs with ⟨_, _, _, named, _, _, gone⟩
  refine ⟨state, runs, delivered, named 0 ⟨0, 0⟩ ?_, fun question member =>
    (gone 1 returned question member).1⟩
  rw [delivered]
  exact List.mem_singleton.mpr rfl

end Agent
end Rabb1tClaw
