import Rabb1tClaw.Agent.Questions

namespace Rabb1tClaw
namespace Agent

open Foundations

/-!
# Answers that are reported

An answer is reported, and logged, once it has been sent, whether or not
anyone is left to receive it.  The machine of the questions is run here with
three additions: the answers that a task goes on with, the log of the answers
that are reported, and the moment at which a wait is over.  A wait asks its
channel first and its timer then, and drops the receiving end last.  It is over
when it has asked its channel in vain, and until the receiving end is dropped an
answer can still be sent.

A reported answer is received, or there is nothing else its task can do,
exactly in the runs in which each answer is sent to a task whose wait is not
over.
-/

structure Reports extends Questions where
  /-- The channels that were asked in vain when the time was over. -/
  elapsed : List Channel
  /-- The answers that tasks went on with, with the channel. -/
  received : List (Nat × Channel)
  /-- The answers whose log entry was written. -/
  logged : List Nat

inductive ReportStep where
  | question (step : QuestionStep)
  /-- The wait finds no answer, and its time is over or the sending end was
  dropped. -/
  | elapse (task : Nat)
  /-- `dispatch_background_agents` logs an answer that was reported. -/
  | log (answer : Nat)
  deriving DecidableEq, Repr

/-- The steps of the tasks and answers, and of the waits and logs. -/
def reporting (tasks addressees : Nat → PendingQuestion) : Machine Reports ReportStep where
  step state
    | .question (.receive task) =>
        match state.phases task with
        | .waiting channel =>
            if channel ∈ state.elapsed then
              none
            else
              ((questioning tasks addressees).step state.toQuestions (.receive task)).map fun questions =>
                { state with
                  toQuestions := questions
                  received := state.received ++ state.delivered.filter fun entry => entry.2 = channel }
        | _ => none
    | .question (.expire task) =>
        match state.phases task with
        | .waiting channel =>
            if channel ∈ state.elapsed then
              ((questioning tasks addressees).step state.toQuestions (.expire task)).map fun questions =>
                { state with toQuestions := questions }
            else
              none
        | _ => none
    | .question step =>
        ((questioning tasks addressees).step state.toQuestions step).map fun questions =>
          { state with toQuestions := questions }
    | .elapse task =>
        match state.phases task with
        | .waiting channel =>
            if state.delivered.any fun entry => entry.2 = channel then none
            else some { state with elapsed := state.elapsed ++ [channel] }
        | _ => none
    | .log answer =>
        if state.answers answer = .handled true ∧ answer ∉ state.logged then
          some { state with logged := state.logged ++ [answer] }
        else
          none

namespace Reports

def start : Reports where
  toQuestions := .start
  elapsed := []
  received := []
  logged := []

end Reports

/-- The answer was received, or its task waits for it and can only receive it. -/
def Arrives (state : Reports) (answer : Nat) : Prop :=
  ∃ channel, (answer, channel) ∈ state.received ∨
    ((answer, channel) ∈ state.delivered ∧ state.phases channel.task = .waiting channel ∧
      channel ∉ state.elapsed)

/-- Every answer that is reported or logged arrives. -/
def Truthful (state : Reports) : Prop :=
  ∀ answer, (state.answers answer = .handled true ∨ answer ∈ state.logged) → Arrives state answer

/-- The question whose answer a step sends. -/
def answered (state : Reports) : ReportStep → Option OpenQuestion
  | .question (.send answer) =>
      match state.answers answer with
      | .holding question => some question
      | _ => none
  | _ => none

/-- An answer is sent to a task whose wait is not over. -/
def SentInTime (state : Reports) (action : ReportStep) : Prop :=
  ∀ question ∈ answered state action,
    state.phases question.answerTx.task = .waiting question.answerTx ∧ question.answerTx ∉ state.elapsed

instance (state : Reports) (action : ReportStep) : Decidable (SentInTime state action) :=
  inferInstanceAs (Decidable (∀ question ∈ answered state action, _ ∧ _))

section

variable {tasks addressees : Nat → PendingQuestion} {state next : Reports} {task answer : Nat}

/-! ## What a step does -/

theorem receives_cases (steps : (reporting tasks addressees).step state (.question (.receive task)) = some next) :
    ∃ channel, state.phases task = .waiting channel ∧ channel ∉ state.elapsed ∧
      (questioning tasks addressees).step state.toQuestions (.receive task) = some next.toQuestions ∧
      next.elapsed = state.elapsed ∧ next.logged = state.logged ∧
      next.received = state.received ++ state.delivered.filter fun entry => entry.2 = channel := by
  rw [reporting] at steps
  simp only at steps
  split at steps
  · rename_i channel waits
    rcases Option.ite_none_left_eq_some.mp steps with ⟨open_, maps⟩
    rcases Option.map_eq_some_iff.mp maps with ⟨questions, step, rfl⟩
    exact ⟨channel, waits, open_, step, rfl, rfl, rfl⟩
  · cases steps

theorem expires_cases (steps : (reporting tasks addressees).step state (.question (.expire task)) = some next) :
    ∃ channel, state.phases task = .waiting channel ∧ channel ∈ state.elapsed ∧
      ∃ questions, (questioning tasks addressees).step state.toQuestions (.expire task) = some questions ∧
        next = { state with toQuestions := questions } := by
  rw [reporting] at steps
  simp only at steps
  split at steps
  · rename_i channel waits
    rcases Option.ite_none_right_eq_some.mp steps with ⟨late, maps⟩
    rcases Option.map_eq_some_iff.mp maps with ⟨questions, step, rfl⟩
    exact ⟨channel, waits, late, questions, step, rfl⟩
  · cases steps

theorem elapse_cases (steps : (reporting tasks addressees).step state (.elapse task) = some next) :
    ∃ channel, state.phases task = .waiting channel ∧ (∀ entry ∈ state.delivered, entry.2 ≠ channel) ∧
      next = { state with elapsed := state.elapsed ++ [channel] } := by
  rw [reporting] at steps
  simp only at steps
  split at steps
  · rename_i channel waits
    rcases Option.ite_none_left_eq_some.mp steps with ⟨empty, same⟩
    refine ⟨channel, waits, fun entry member isChannel => empty ?_, (Option.some.inj same).symm⟩
    exact List.any_eq_true.mpr ⟨entry, member, decide_eq_true isChannel⟩
  · cases steps

theorem log_cases (steps : (reporting tasks addressees).step state (.log answer) = some next) :
    state.answers answer = .handled true ∧ next = { state with logged := state.logged ++ [answer] } := by
  rcases Option.ite_none_right_eq_some.mp steps with ⟨⟨reported, _⟩, same⟩
  exact ⟨reported, (Option.some.inj same).symm⟩

/-- A step of a task or an answer is one of the questions, and only delivered
answers are received. -/
structure Asks (tasks addressees : Nat → PendingQuestion) (action : QuestionStep) (state next : Reports) : Prop where
  step : (questioning tasks addressees).step state.toQuestions action = some next.toQuestions
  elapsed : next.elapsed = state.elapsed
  logged : next.logged = state.logged
  received : ∀ entry ∈ state.received, entry ∈ next.received
  delivered : ∀ entry ∈ next.received, entry ∈ state.received ∨ entry ∈ state.delivered

theorem asks_of_step {action : QuestionStep}
    (steps : (reporting tasks addressees).step state (.question action) = some next) :
    Asks tasks addressees action state next := by
  have others (maps : ((questioning tasks addressees).step state.toQuestions action).map
      (fun questions => { state with toQuestions := questions }) = some next) :
      Asks tasks addressees action state next := by
    rcases Option.map_eq_some_iff.mp maps with ⟨questions, step, rfl⟩
    exact ⟨step, rfl, rfl, fun _ => id, fun _ => .inl⟩
  cases action with
  | receive task =>
      rcases receives_cases steps with ⟨channel, _, _, step, elapsed, logged, received⟩
      refine ⟨step, elapsed, logged, fun entry member => ?_, fun entry member => ?_⟩
      · rw [received]
        exact List.mem_append_left _ member
      · rw [received] at member
        rcases List.mem_append.mp member with earlier | now
        · exact .inl earlier
        · exact .inr (List.mem_filter.mp now).1
  | expire task =>
      rcases expires_cases steps with ⟨_, _, _, questions, step, rfl⟩
      exact ⟨step, rfl, rfl, fun _ => id, fun _ => .inl⟩
  | post task => exact others steps
  | finish task => exact others steps
  | cleanup task => exact others steps
  | take answer => exact others steps
  | send answer => exact others steps

/-- What the steps of the questions keep. -/
structure Keeps (action : QuestionStep) (before after : Questions) : Prop where
  delivered : ∀ entry ∈ before.delivered, entry ∈ after.delivered
  handled : ∀ answer dispatched, before.answers answer = .handled dispatched →
    after.answers answer = .handled dispatched
  reported : ∀ answer, after.answers answer = .handled true →
    before.answers answer = .handled true ∨ action = .send answer
  waits : ∀ task channel, before.phases task = .waiting channel →
    after.phases task = .waiting channel ∨ action = .receive task ∨ action = .expire task

theorem keeps_of_step {action : QuestionStep} {before after : Questions}
    (steps : (questioning tasks addressees).step before action = some after) : Keeps action before after := by
  cases action with
  | post task =>
      rcases post_cases steps with ⟨running, rfl⟩
      exact ⟨fun _ => id, fun _ _ => id, fun _ => .inl,
        fun waiting channel waits => .inl (update_eq_of_ne (by simp [running]) waits)⟩
  | receive task =>
      rcases receive_cases steps with ⟨_, _, _, rfl⟩
      refine ⟨fun _ => id, fun _ _ => id, fun _ => .inl, fun waiting channel waits => ?_⟩
      by_cases own : waiting = task
      · exact .inr (.inl (by rw [own]))
      · exact .inl ((Function.update_of_ne own _ _).trans waits)
  | expire task =>
      rcases expire_cases steps with ⟨_, _, rfl⟩
      refine ⟨fun _ => id, fun _ _ => id, fun _ => .inl, fun waiting channel waits => ?_⟩
      by_cases own : waiting = task
      · exact .inr (.inr (by rw [own]))
      · exact .inl ((Function.update_of_ne own _ _).trans waits)
  | finish task =>
      rcases finish_cases steps with ⟨running, rfl⟩
      exact ⟨fun _ => id, fun _ _ => id, fun _ => .inl,
        fun waiting channel waits => .inl (update_eq_of_ne (by simp [running]) waits)⟩
  | cleanup task =>
      rcases cleanup_cases steps with ⟨leaving, rfl⟩
      exact ⟨fun _ => id, fun _ _ => id, fun _ => .inl,
        fun waiting channel waits => .inl (update_eq_of_ne (by simp [leaving]) waits)⟩
  | take answer =>
      rcases take_cases steps with ⟨marked, ⟨question, _, _, rfl⟩ | ⟨_, rfl⟩⟩
      all_goals
        refine ⟨fun _ => id, fun other dispatched handled => update_eq_of_ne (by simp [marked]) handled,
          fun other reported => ?_, fun _ _ => .inl⟩
        rcases update_eq_cases reported with ⟨_, impossible⟩ | ⟨_, earlier⟩
        · cases impossible
        · exact .inl earlier
  | send answer =>
      rcases send_cases steps with ⟨question, holds, rfl⟩
      refine ⟨fun _ => List.mem_append_left _, fun other dispatched handled =>
        update_eq_of_ne (by simp [holds]) handled, fun other reported => ?_, fun _ _ => .inl⟩
      rcases update_eq_cases reported with ⟨rfl, _⟩ | ⟨_, earlier⟩
      · exact .inr rfl
      · exact .inl earlier

/-! ## What holds in every run -/

/-- An answer that was received was delivered, and one that is logged was reported. -/
structure Sound (tasks addressees : Nat → PendingQuestion) (state : Reports) : Prop where
  routed : Routed tasks addressees state.toQuestions
  received : ∀ entry ∈ state.received, entry ∈ state.delivered
  logged : ∀ answer ∈ state.logged, state.answers answer = .handled true

theorem sound_start : Sound tasks addressees .start where
  routed := routed_start
  received := by rintro entry ⟨⟩
  logged := by rintro answer ⟨⟩

theorem Sound.step {action : ReportStep} (sound : Sound tasks addressees state)
    (steps : (reporting tasks addressees).step state action = some next) : Sound tasks addressees next := by
  cases action with
  | question action =>
      have asks := asks_of_step steps
      have keeps := keeps_of_step asks.step
      refine ⟨sound.routed.step asks.step, fun entry member => ?_, fun answer member => ?_⟩
      · apply keeps.delivered entry
        rcases asks.delivered entry member with earlier | now
        · exact sound.received entry earlier
        · exact now
      · rw [asks.logged] at member
        exact keeps.handled answer true (sound.logged answer member)
  | elapse task =>
      rcases elapse_cases steps with ⟨_, _, _, rfl⟩
      exact ⟨sound.routed, sound.received, sound.logged⟩
  | log answer =>
      rcases log_cases steps with ⟨reported, rfl⟩
      refine ⟨sound.routed, sound.received, fun other member => ?_⟩
      rcases List.mem_append.mp member with earlier | now
      · exact sound.logged other earlier
      · rcases List.mem_singleton.mp now with rfl
        exact reported

theorem truthful_iff (sound : Sound tasks addressees state) :
    Truthful state ↔ ∀ answer, state.answers answer = .handled true → Arrives state answer := by
  constructor
  · intro truthful answer reported
    exact truthful answer (.inl reported)
  · rintro arrives answer (reported | logs)
    · exact arrives answer reported
    · exact arrives answer (sound.logged answer logs)

/-- A delivered answer whose wait is not over stays until its task receives it. -/
theorem Arrives.step {action : ReportStep} (arrives : Arrives state answer)
    (steps : (reporting tasks addressees).step state action = some next) : Arrives next answer := by
  rcases arrives with ⟨channel, received | ⟨delivered, waits, open_⟩⟩
  · refine ⟨channel, .inl ?_⟩
    cases action with
    | question action => exact (asks_of_step steps).received _ received
    | elapse task =>
        rcases elapse_cases steps with ⟨_, _, _, rfl⟩
        exact received
    | log answer =>
        rcases log_cases steps with ⟨_, rfl⟩
        exact received
  · refine ⟨channel, ?_⟩
    cases action with
    | question action =>
        have asks := asks_of_step steps
        have keeps := keeps_of_step asks.step
        rcases keeps.waits channel.task channel waits with still | rfl | rfl
        · exact .inr ⟨keeps.delivered _ delivered, still, asks.elapsed ▸ open_⟩
        · -- the task receives what is in its channel
          rcases receives_cases steps with ⟨channel', waits', _, _, _, _, grown⟩
          rcases TaskPhase.waiting.inj (waits.symm.trans waits') with rfl
          rw [grown]
          exact .inl (List.mem_append_right _ (List.mem_filter.mpr ⟨delivered, decide_eq_true rfl⟩))
        · rcases expires_cases steps with ⟨channel', waits', late, _⟩
          rcases TaskPhase.waiting.inj (waits.symm.trans waits') with rfl
          exact absurd late open_
    | elapse task =>
        rcases elapse_cases steps with ⟨channel', _, empty, rfl⟩
        refine .inr ⟨delivered, waits, fun member => ?_⟩
        rcases List.mem_append.mp member with late | now
        · exact open_ late
        · exact empty _ delivered (List.mem_singleton.mp now)
    | log answer =>
        rcases log_cases steps with ⟨_, rfl⟩
        exact .inr ⟨delivered, waits, open_⟩

/-- A task for which an answer was delivered in time can go on with it, and its
wait cannot end otherwise. -/
theorem receives_of_delivered {channel : Channel} (delivered : (answer, channel) ∈ state.delivered)
    (waits : state.phases channel.task = .waiting channel) (open_ : channel ∉ state.elapsed) :
    (∃ next, (reporting tasks addressees).step state (.question (.receive channel.task)) = some next ∧
        (answer, channel) ∈ next.received ∧ next.phases channel.task = .running) ∧
      (reporting tasks addressees).step state (.elapse channel.task) = none ∧
      (reporting tasks addressees).step state (.question (.expire channel.task)) = none := by
  have arrived : state.delivered.any (fun entry => entry.2 = channel) = true :=
    List.any_eq_true.mpr ⟨_, delivered, decide_eq_true rfl⟩
  refine ⟨?_, ?_, ?_⟩
  · simp only [reporting, questioning, waits, if_neg open_, if_pos arrived, Option.map_some,
      Option.some.injEq, exists_eq_left']
    exact ⟨List.mem_append_right _ (List.mem_filter.mpr ⟨delivered, decide_eq_true rfl⟩),
      Function.update_self _ _ _⟩
  · simp only [reporting, waits, if_pos arrived]
  · simp only [reporting, waits, if_neg open_]

theorem Truthful.step {action : ReportStep} (sound : Sound tasks addressees state) (truthful : Truthful state)
    (inTime : SentInTime state action) (steps : (reporting tasks addressees).step state action = some next) :
    Truthful next := by
  apply (truthful_iff (sound.step steps)).mpr
  intro answer reported
  have earlier : state.answers answer = .handled true ∨ action = .question (.send answer) := by
    cases action with
    | question action =>
        rcases (keeps_of_step (asks_of_step steps).step).reported answer reported with before | rfl
        · exact .inl before
        · exact .inr rfl
    | elapse task =>
        rcases elapse_cases steps with ⟨_, _, _, rfl⟩
        exact .inl reported
    | log answer =>
        rcases log_cases steps with ⟨_, rfl⟩
        exact .inl reported
  rcases earlier with before | rfl
  · exact (truthful answer (.inl before)).step steps
  · have asks := asks_of_step steps
    rcases send_cases asks.step with ⟨question, holds, same⟩
    have sent : question ∈ answered state (.question (.send answer)) := by
      simp only [answered, holds, Option.mem_def]
    rcases inTime question sent with ⟨waits, open_⟩
    refine ⟨question.answerTx, .inr ⟨?_, ?_, asks.elapsed ▸ open_⟩⟩
    · rw [same, if_pos waits]
      exact List.mem_append_right _ (List.mem_singleton.mpr rfl)
    · rw [same]
      exact waits

/-- An answer that is sent too late does not arrive. -/
theorem sentInTime_of_truthful {action : ReportStep} (sound : Sound tasks addressees state)
    (steps : (reporting tasks addressees).step state action = some next) (truthful : Truthful next) :
    SentInTime state action := by
  intro question sent
  cases action with
  | elapse task => cases sent
  | log answer => cases sent
  | question action =>
      cases action with
      | send answer =>
          have asks := asks_of_step steps
          rcases send_cases asks.step with ⟨question', holds, same⟩
          simp only [answered, holds, Option.mem_def, Option.some.injEq] at sent
          subst sent
          have unsent (channel : Channel) : (answer, channel) ∉ state.delivered := by
            intro member
            have handled := (sound.routed.sent answer channel member).1
            rw [holds] at handled
            cases handled
          have reported : next.answers answer = .handled true := by
            rw [same]
            exact Function.update_self _ _ _
          rcases truthful answer (.inl reported) with ⟨channel, received | ⟨delivered, _, open_⟩⟩
          · rcases asks.delivered _ received with earlier | now
            · exact absurd (sound.received _ earlier) (unsent channel)
            · exact absurd now (unsent channel)
          · rw [same] at delivered
            rcases List.mem_append.mp delivered with earlier | now
            · exact absurd earlier (unsent channel)
            · split at now
              · rename_i waits
                rcases Prod.mk.inj (List.mem_singleton.mp now) with ⟨_, rfl⟩
                exact ⟨waits, asks.elapsed ▸ open_⟩
              · cases now
      | post task => cases sent
      | receive task => cases sent
      | expire task => cases sent
      | finish task => cases sent
      | cleanup task => cases sent
      | take answer => cases sent

/-- Whatever the order of the steps, every reported answer arrives exactly if
each answer is sent before the wait for it is over. -/
theorem reports_truthful_iff {schedule : List ReportStep} {final : Reports}
    (runs : (reporting tasks addressees).run .start schedule = some final) :
    (reporting tasks addressees).Throughout Truthful .start schedule ↔
      (reporting tasks addressees).Guarded SentInTime .start schedule := by
  constructor
  · intro throughout
    have kept : ∀ state action next, Sound tasks addressees state →
        (reporting tasks addressees).step state action = some next → Sound tasks addressees next :=
      fun _ _ _ sound step => sound.step step
    exact Machine.guarded_of_throughout kept (fun _ _ _ => sentInTime_of_truthful) sound_start runs throughout
  · intro guarded
    have kept : ∀ state action next, Sound tasks addressees state ∧ Truthful state → SentInTime state action →
        (reporting tasks addressees).step state action = some next →
        Sound tasks addressees next ∧ Truthful next :=
      fun _ _ _ holds inTime step => ⟨holds.1.step step, holds.2.step holds.1 inTime step⟩
    have nothing : Truthful .start := by
      rintro answer (reported | logs)
      · cases reported
      · cases logs
    exact Machine.throughout_of_guarded kept (fun _ holds => holds.2) ⟨sound_start, nothing⟩ guarded

end

/-- A task asks, and its answer arrives while it waits. -/
def answeredInTime : List ReportStep :=
  [.question (.post 0), .question (.take 0), .question (.send 0), .log 0, .question (.receive 0)]

theorem answeredInTime_runs :
    ((reporting askingTasks oneDeviceAnswers).run .start answeredInTime).any (fun state =>
      state.received = [(0, ⟨0, 0⟩)] ∧ state.logged = [0]) = true := by
  decide +kernel

theorem reports_truthful_answeredInTime :
    ∃ state, (reporting askingTasks oneDeviceAnswers).run .start answeredInTime = some state ∧
      state.received = [(0, ⟨0, 0⟩)] ∧ state.logged = [0] ∧
      (reporting askingTasks oneDeviceAnswers).Throughout Truthful .start answeredInTime := by
  rcases (Option.any_eq_true _ _).mp answeredInTime_runs with ⟨state, runs, holds⟩
  rcases of_decide_eq_true holds with ⟨received, logged⟩
  exact ⟨state, runs, received, logged, (reports_truthful_iff runs).mpr (by decide +kernel)⟩

/-- A task asks and times out.  Before it has removed its question, an answer
takes it. -/
def answeredTooLate : List ReportStep :=
  [.question (.post 0), .elapse 0, .question (.expire 0), .question (.take 0), .question (.send 0), .log 0]

theorem answeredTooLate_runs :
    ((reporting askingTasks oneDeviceAnswers).run .start answeredTooLate).any (fun state =>
      state.phases 0 = .leaving ∧ state.logged = [0] ∧ state.received = [] ∧ state.delivered = []) = true := by
  decide +kernel

/-- The answer is logged, and no task receives it. -/
theorem answeredTooLate_logged :
    ∃ state, (reporting askingTasks oneDeviceAnswers).run .start answeredTooLate = some state ∧
      state.phases 0 = .leaving ∧ 0 ∈ state.logged ∧ ¬ Truthful state := by
  rcases (Option.any_eq_true _ _).mp answeredTooLate_runs with ⟨state, runs, holds⟩
  rcases of_decide_eq_true holds with ⟨leaving, logged, received, delivered⟩
  have logs : 0 ∈ state.logged := by
    rw [logged]
    exact List.mem_singleton.mpr rfl
  refine ⟨state, runs, leaving, logs, fun truthful => ?_⟩
  rcases truthful 0 (.inr logs) with ⟨channel, member | ⟨member, _⟩⟩
  · rw [received] at member
    cases member
  · rw [delivered] at member
    cases member

end Agent
end Rabb1tClaw
