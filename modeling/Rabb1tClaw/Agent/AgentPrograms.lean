import Rabb1tClaw.Agent.Advanced
import Rabb1tClaw.Agent.CodeLoop
import Rabb1tClaw.Agent.SearchPipeline
import Rabb1tClaw.Agent.TaskSystem
import Rabb1tClaw.Foundations.Programs

namespace Rabb1tClaw
namespace Agent

open Foundations
open Advanced

/-!
# What the agents do

In the system of tasks an agent may report, ask and return whenever its phase
allows it.  Here are the programs of the three agents.  The code agent runs its
loop and the search agent its pipeline; both then report their end and log it.
The advanced agent runs its loop; each pass reports, and reports or asks what
its directive is about, before the conversation goes on as in
`AdvancedRun.iterate`.

A search panics where no JSON can be cut out of the reply to its request for a
plan.  The task of the search ends there, and so does an advanced task whose
directive it was: nothing is reported and nothing is logged.

The phases of a task are a protocol for its agent.  Every program keeps to it,
and what it comes to is what the models of the three agents come to
(`program_meets`).
-/

deriving instance DecidableEq for AgentStep

abbrev AgentMove := Move AgentStep (Option Text)

/-- `none` is heard when the time for an answer is over. -/
abbrev AgentProgram (γ : Type) := Program AgentStep (Option Text) γ

/-! ## Programs -/

/-- What `run_code_loop` takes from elsewhere; `workspace` is its listing, or
why it could not be prepared. -/
structure CodeInputs where
  hasModel : Bool
  workspace : Except Text Text
  iterations : Nat → CodeLoop.IterationInputs

/-- What `run_search_inner` takes from elsewhere. -/
structure SearchInputs where
  world : Search.SearchWorld
  limits : Search.SearchLimits

/-- What an agent takes from elsewhere: the limits from its configuration, the
replies and the time of its end.  The code and the search agent are called in
any pass of the advanced one, and once if the task is theirs. -/
structure AgentInputs where
  hasModel : Bool
  /-- `max_iterations`. -/
  maxSteps : Nat
  maxOutputTokens : Nat
  totalTimeoutSecs : Nat
  truncate : Text → Nat → Text
  replies : Nat → StepInputs
  code : Nat → CodeInputs
  search : Nat → SearchInputs
  completedAt : UInt64

def AgentInputs.settings (inputs : AgentInputs) (description : Text) : AdvancedSettings :=
  ⟨description, inputs.maxSteps, inputs.totalTimeoutSecs, inputs.truncate⟩

/-- The settings of the code agent; it verifies what it has run. -/
def AgentInputs.codeSettings (inputs : AgentInputs) (description : Text) : CodeLoop.CodeSettings :=
  ⟨description, inputs.maxSteps, inputs.maxOutputTokens, true, inputs.truncate⟩

/-- Those of `run_code_subtask`. -/
def AgentInputs.subtaskSettings (inputs : AgentInputs) (taskDesc : Text) : CodeLoop.CodeSettings :=
  ⟨taskDesc, Cli.defaultAdvancedCodeMaxIterations, inputs.maxOutputTokens, false, inputs.truncate⟩

/-- The loop of `run_code_loop`, with so many iterations left. -/
def codePasses (settings : CodeLoop.CodeSettings) (iterations : Nat → CodeLoop.IterationInputs) :
    Nat → CodeLoop.CodeRun → CodeLoop.CodeResult
  | 0, run => run.result.getD (.failed run.lastError settings.maxIterations)
  | left + 1, run =>
      match run.result with
      | some result => result
      | none => codePasses settings iterations left (run.iterate settings (iterations run.iteration))

def CodeInputs.start (inputs : CodeInputs) (settings : CodeLoop.CodeSettings) : CodeLoop.CodeRun :=
  .start settings (if inputs.hasModel then inputs.workspace else .error "no active model configured".toList)

def CodeInputs.result (inputs : CodeInputs) (settings : CodeLoop.CodeSettings) : CodeLoop.CodeResult :=
  codePasses settings inputs.iterations settings.maxIterations (inputs.start settings)

/-- A result without the number of iterations. -/
def reportedCode : CodeLoop.CodeResult → Except Text Text
  | .completed output _ => .ok output
  | .failed error _ => .error error

/-- What a code or search directive of a pass comes to, or `none` where the
search panics. -/
def AgentInputs.subtask (inputs : AgentInputs) (pass : Nat) : Directive → Option (Except Text Text)
  | .code taskDesc => some (reportedCode ((inputs.code pass).result (inputs.subtaskSettings taskDesc)))
  | .search query => (inputs.search pass).world.runSearchInner (inputs.search pass).limits query
  | _ => some (inputs.replies pass).subtask

/-- The directive that a pass performs. -/
def performed (settings : AdvancedSettings) (inputs : StepInputs) : Option Directive :=
  if settings.totalTimeoutSecs ≤ inputs.elapsedSecs then none
  else
    match inputs.response with
    | .error _ => none
    | .ok response => (parseDirectives response).head?

/-- The calls that come before the outcome of a directive. -/
def directiveSteps (settings : AdvancedSettings) (step : Nat) : Directive → List AgentStep
  | .done _ => []
  | .code taskDesc => [.report (UInt32.ofNat step) ("running code: ".toList ++ settings.truncate taskDesc 50)]
  | .search query => [.report (UInt32.ofNat step) ("searching: ".toList ++ settings.truncate query 50)]
  | .question question => [.ask question, .logQuestion, .post]

/-- One pass through the loop of `run_inner`, or `none` where it panics. -/
def passProgram (settings : AdvancedSettings) (inputs : StepInputs)
    (subtask : Directive → Option (Except Text Text)) (run : AdvancedRun) : AgentProgram (Option AdvancedRun) :=
  if settings.totalTimeoutSecs ≤ inputs.elapsedSecs then
    .result (some (run.iterate settings inputs))
  else
    .perform
      (.report (UInt32.ofNat (run.step + 1)) (if run.step + 1 = 1 then "planning".toList else "executing".toList))
      (match performed settings inputs with
      | none => .result (some (run.iterate settings inputs))
      | some directive =>
          .performAll (directiveSteps settings (run.step + 1) directive)
            (match directive with
            | .question _ =>
                .hear fun answer => .result (some (run.iterate settings { inputs with answer := answer }))
            | directive =>
                .result ((subtask directive).map fun result =>
                  run.iterate settings { inputs with subtask := result })))

/-- What `run_inner` returns after its last step. -/
def stepsExceeded (settings : AdvancedSettings) (run : AdvancedRun) : AdvancedResult :=
  .failed (formatErrorWithProgress ("max steps (".toList ++ number settings.maxSteps ++ ") exceeded".toList)
    run.progress) settings.maxSteps

/-- The loop of `run_inner`, with so many steps left. -/
def loopProgram (settings : AdvancedSettings) (inputs : AgentInputs) :
    Nat → AdvancedRun → AgentProgram AdvancedResult
  | 0, run => .result (stepsExceeded settings run)
  | left + 1, run =>
      (passProgram settings (inputs.replies run.step) (inputs.subtask run.step) run).bind fun
        | none => .result .panicked
        | some next =>
            match next.result with
            | some result => .result result
            | none => loopProgram settings inputs left next

def noModelConfigured : Text := "no model configured for advanced agent".toList

def runInner (inputs : AgentInputs) (description : Text) : AgentProgram AdvancedResult :=
  if inputs.hasModel then
    loopProgram (inputs.settings description) inputs inputs.maxSteps
      (.start (inputs.settings description))
  else
    .result (.failed noModelConfigured 0)

/-- The result that `run_advanced_task` reports; a panic ends the task. -/
def reportedResult : AdvancedResult → Option (Except Text Text)
  | .completed summary _ => some (.ok summary)
  | .failed error _ => some (.error error)
  | .panicked => none

/-- The calls of an agent that has its result. -/
def closingSteps (kind : TaskKind) (now : UInt64) (result : Except Text Text) : List AgentStep :=
  [.conclude result, .complete now, .logResult] ++ if kind = .advanced then [.cleanup] else []

/-- How a spawned task ends. -/
inductive AgentExit where
  | returned
  | panicked
  deriving DecidableEq, Repr

/-- The end of an agent, which reports nothing if it panics. -/
def close (kind : TaskKind) (now : UInt64) : Option (Except Text Text) → AgentProgram AgentExit
  | some result => .performAll (closingSteps kind now result) (.result .returned)
  | none => .result .panicked

def runAdvancedTask (inputs : AgentInputs) (description : Text) : AgentProgram AgentExit :=
  (runInner inputs description).bind fun result => close .advanced inputs.completedAt (reportedResult result)

/-- The program of a spawned task. -/
def AgentInputs.program (inputs : AgentInputs) (kind : TaskKind) (description : Text) :
    AgentProgram AgentExit :=
  match kind with
  | .code =>
      close .code inputs.completedAt
        (some (reportedCode ((inputs.code 0).result (inputs.codeSettings description))))
  | .search =>
      close .search inputs.completedAt
        ((inputs.search 0).world.runSearchInner (inputs.search 0).limits description)
  | .advanced => runAdvancedTask inputs description

/-! ## The protocol -/

/-- Where an agent stands, as far as it knows. -/
inductive AgentStage where
  | working
  | asking (question : Text)
  | posting
  | waiting
  /-- No answer came in time. -/
  | expired
  | concluded (result : Except Text Text)
  | completed (result : Except Text Text)
  | logged (result : Except Text Text)
  | finished (result : Except Text Text)

/-- The stage of an agent, the questions that it has logged, and what it has
heard. -/
structure AgentRecord where
  stage : AgentStage
  asked : List Text
  heard : List (Option Text)

def AgentRecord.start : AgentRecord := ⟨.working, [], []⟩

def agentProtocol (kind : TaskKind) : Machine AgentRecord AgentMove where
  step record
    | .performed (.report _ _) =>
        match kind, record.stage with
        | .advanced, .working => some record
        | _, _ => none
    | .performed (.ask question) =>
        match kind, record.stage with
        | .advanced, .working => some { record with stage := .asking question }
        | _, _ => none
    | .performed .logQuestion =>
        match record.stage with
        | .asking question => some { record with stage := .posting, asked := record.asked ++ [question] }
        | _ => none
    | .performed .post =>
        match record.stage with
        | .posting => some { record with stage := .waiting }
        | _ => none
    | .performed .receive => none
    | .heard answer =>
        match record.stage with
        | .waiting =>
            some { record with
              stage := if answer.isSome then .working else .expired
              heard := record.heard ++ [answer] }
        | _ => none
    | .performed (.conclude result) =>
        match record.stage, result with
        | .working, result => some { record with stage := .concluded result }
        | .expired, .error error => some { record with stage := .concluded (.error error) }
        | _, _ => none
    | .performed (.complete _) =>
        match record.stage with
        | .concluded result => some { record with stage := .completed result }
        | _ => none
    | .performed .logResult =>
        match record.stage with
        | .completed result =>
            some { record with stage := if kind = .advanced then .logged result else .finished result }
        | _ => none
    | .performed .cleanup =>
        match record.stage with
        | .logged result => some { record with stage := .finished result }
        | _ => none

/-! ## The conversation behind a record -/

/-- The question that a step of the orchestration asks. -/
def questionsOf (settings : AdvancedSettings) : AdvancedStep → List Text
  | .exhaust => []
  | .iterate inputs =>
      match performed settings inputs with
      | some (.question question) => [question]
      | _ => []

/-- What a step of the orchestration hears. -/
def answersOf (settings : AdvancedSettings) : AdvancedStep → List (Option Text)
  | .exhaust => []
  | .iterate inputs =>
      match performed settings inputs with
      | some (.question _) => [inputs.answer]
      | _ => []

/-- The inputs of a pass are the replies to the task, with some answer and with
what the directive comes to. -/
def AgentInputs.Supplies (inputs : AgentInputs) (settings : AdvancedSettings) (pass : Nat)
    (given : StepInputs) : Prop :=
  ∃ answer subtask, given = { inputs.replies pass with answer := answer, subtask := subtask } ∧
    ∀ directive, performed settings given = some directive → inputs.subtask pass directive = some subtask

/-- The questions, the answers and the result of an advanced agent: those of
a run of its orchestration on the replies to it, if it has a model. -/
inductive Conversed (inputs : AgentInputs) (description : Text) :
    List Text → List (Option Text) → Except Text Text → Prop
  | unresolved (absent : inputs.hasModel = false) :
      Conversed inputs description [] [] (.error noModelConfigured)
  | orchestrated {steps : List AdvancedStep} {conversation : AdvancedRun} {ending : AdvancedResult}
      {result : Except Text Text} (present : inputs.hasModel = true)
      (runs : (orchestration (inputs.settings description)).run (.start (inputs.settings description)) steps =
        some conversation)
      (supplied : ∀ pass given, steps[pass]? = some (.iterate given) →
        inputs.Supplies (inputs.settings description) pass given)
      (ends : conversation.result = some ending) (reported : reportedResult ending = some result) :
      Conversed inputs description (steps.flatMap (questionsOf (inputs.settings description)))
        (steps.flatMap (answersOf (inputs.settings description))) result

/-- The result of a code agent: that of a run of its loop on the replies to it,
with no more iterations than its limit. -/
def CodeInputs.Returns (inputs : CodeInputs) (settings : CodeLoop.CodeSettings) (result : Except Text Text) :
    Prop :=
  ∃ steps conversation ending, (CodeLoop.codeLoop settings).run (inputs.start settings) steps = some conversation ∧
    (∀ iteration given, steps[iteration]? = some (.iterate given) → given = inputs.iterations iteration) ∧
    conversation.iteration ≤ settings.maxIterations ∧ conversation.result = some ending ∧
    reportedCode ending = result

/-- No JSON can be cut out of the reply to the request for a plan. -/
def SearchInputs.Panics (inputs : SearchInputs) (query : Text) : Prop :=
  inputs.world.apiKey ≠ none ∧ ∃ reply, inputs.world.planReply query = some reply ∧ Search.Crossed reply

/-- A search of a task panics. -/
def AgentInputs.Panics (inputs : AgentInputs) (kind : TaskKind) (description : Text) : Prop :=
  match kind with
  | .code => False
  | .search => (inputs.search 0).Panics description
  | .advanced =>
      ∃ pass query, performed (inputs.settings description) (inputs.replies pass) = some (.search query) ∧
        (inputs.search pass).Panics query

section

variable {settings : AdvancedSettings} {run : AdvancedRun} {record : AgentRecord} {past : List AdvancedStep}

/-- The record is that of the steps. -/
def Follows (settings : AdvancedSettings) (past : List AdvancedStep) (record : AgentRecord) : Prop :=
  record.asked = past.flatMap (questionsOf settings) ∧ record.heard = past.flatMap (answersOf settings)

/-- The agent is between two calls, or gives up on an answer. -/
def Rests (result : Option AdvancedResult) (record : AgentRecord) : Prop :=
  record.stage = .working ∨ record.stage = .expired ∧ ∃ error steps, result = some (.failed error steps)

theorem step_checkContext (run : AdvancedRun) (reply : SummaryReply) : (run.checkContext reply).step = run.step := by
  unfold AdvancedRun.checkContext
  split
  · split <;> rfl
  · rfl

theorem step_iterate (settings : AdvancedSettings) (inputs : StepInputs) (run : AdvancedRun) :
    (run.iterate settings inputs).step = run.step + 1 := by
  unfold AdvancedRun.iterate
  simp only
  split
  · rfl
  · cases inputs.response with
    | error error => rfl
    | ok response =>
        simp only [AdvancedRun.onResponse]
        split
        · rfl
        · split
          · rfl
          · exact step_checkContext _ _

/-! ## The programs keep to the protocol -/

/-- What a pass that asks nothing leaves of a record. -/
theorem quiet_pass {inputs : StepInputs}
    (quiet : ∀ question, performed settings inputs ≠ some (.question question)) :
    questionsOf settings (.iterate inputs) = [] ∧ answersOf settings (.iterate inputs) = [] := by
  rw [questionsOf, answersOf]
  constructor
  · split
    · exact absurd ‹_› (quiet _)
    · rfl
  · split
    · exact absurd ‹_› (quiet _)
    · rfl

/-- A question that is not answered ends the run. -/
theorem iterate_unanswered {inputs : StepInputs} {question : Text}
    (asks : performed settings inputs = some (.question question)) (silent : inputs.answer = none) :
    ∃ error steps, (run.iterate settings inputs).result = some (.failed error steps) := by
  unfold performed at asks
  split at asks
  · cases asks
  · rename_i inTime
    cases replied : inputs.response with
    | error error =>
        rw [replied] at asks
        cases asks
    | ok response =>
        rw [replied] at asks
        rcases List.head?_eq_some_iff.mp asks with ⟨others, parsed⟩
        simp only [AdvancedRun.iterate, if_neg inTime, replied, AdvancedRun.onResponse, parsed, performDirective,
          silent]
        exact ⟨_, _, rfl⟩

/-- A pass has come to its end, or to that of its task. -/
def PassEnds (settings : AdvancedSettings) (inputs : AgentInputs) (run : AdvancedRun) (record : AgentRecord)
    (next : Option AdvancedRun) (after : AgentRecord) : Prop :=
  match next with
  | none =>
      after.stage = .working ∧ ∃ query, performed settings (inputs.replies run.step) = some (.search query) ∧
        (inputs.search run.step).Panics query
  | some next =>
      ∃ given, inputs.Supplies settings run.step given ∧ next = run.iterate settings given ∧
        after.asked = record.asked ++ questionsOf settings (.iterate given) ∧
        after.heard = record.heard ++ answersOf settings (.iterate given) ∧ Rests next.result after

theorem passEnds_quiet {inputs : AgentInputs} {given : StepInputs} (working : record.stage = .working)
    (supplies : inputs.Supplies settings run.step given)
    (quiet : ∀ question, performed settings given ≠ some (.question question)) :
    PassEnds settings inputs run record (some (run.iterate settings given)) record := by
  have nothing := quiet_pass quiet
  refine ⟨given, supplies, rfl, ?_, ?_, .inl working⟩
  · exact nothing.1.symm ▸ (List.append_nil _).symm
  · exact nothing.2.symm ▸ (List.append_nil _).symm

/-- The record behind a question and what came of it. -/
theorem passEnds_question {inputs : AgentInputs} {question : Text}
    (asks : performed settings (inputs.replies run.step) = some (.question question)) (answer : Option Text) :
    PassEnds settings inputs run record
      (some (run.iterate settings { inputs.replies run.step with answer := answer }))
      ⟨if answer.isSome then .working else .expired, record.asked ++ [question], record.heard ++ [answer]⟩ := by
  have asks' : performed settings { inputs.replies run.step with answer := answer } =
    some (.question question) := asks
  refine ⟨_, ⟨answer, (inputs.replies run.step).subtask, rfl, fun directive performs => ?_⟩, rfl, ?_, ?_, ?_⟩
  · rcases Option.some.inj (asks'.symm.trans performs) with rfl
    rfl
  · simp only [questionsOf, asks']
  · simp only [answersOf, asks']
  · cases answer with
    | none => exact .inr ⟨rfl, iterate_unanswered asks' rfl⟩
    | some answer => exact .inl rfl

/-- A search panics on the reply to its request for a plan. -/
theorem panics_of_none {inputs : SearchInputs} {query : Text}
    (panics : inputs.world.runSearchInner inputs.limits query = none) : inputs.Panics query := by
  cases key : inputs.world.apiKey with
  | none =>
      rw [Search.SearchWorld.runSearchInner, key] at panics
      cases panics
  | some apiKey =>
      have planless := (Search.SearchWorld.runSearchInner_eq_none_iff key).mp panics
      refine ⟨?_, Search.SearchWorld.plan_eq_none_iff.mp planless⟩
      rw [key]
      exact Option.some_ne_none apiKey

/-- The record behind a directive that asks nothing. -/
theorem passEnds_directive {inputs : AgentInputs} {directive : Directive} (working : record.stage = .working)
    (performs : performed settings (inputs.replies run.step) = some directive)
    (quiet : ∀ question, directive ≠ .question question) :
    PassEnds settings inputs run record
      ((inputs.subtask run.step directive).map fun result =>
        run.iterate settings { inputs.replies run.step with subtask := result }) record := by
  cases comes : inputs.subtask run.step directive with
  | none =>
      cases directive with
      | search query => exact ⟨working, query, performs, panics_of_none comes⟩
      | code taskDesc => cases comes
      | question question => exact absurd rfl (quiet question)
      | done summary => cases comes
  | some result =>
      refine passEnds_quiet working ⟨(inputs.replies run.step).answer, result, rfl, fun other also => ?_⟩
        fun question asks => ?_
      · rcases Option.some.inj (performs.symm.trans also) with rfl
        exact comes
      · exact quiet question (Option.some.inj (performs.symm.trans asks))

theorem passProgram_meets {inputs : AgentInputs} (working : record.stage = .working) :
    (passProgram settings (inputs.replies run.step) (inputs.subtask run.step) run).Meets
      (agentProtocol .advanced) (PassEnds settings inputs run record) record := by
  have reports : ∀ step detail,
      (agentProtocol .advanced).step record (.performed (.report step detail)) = some record := by
    intro step detail
    simp only [agentProtocol, working]
  have idle (performs : performed settings (inputs.replies run.step) = none) :
      PassEnds settings inputs run record (some (run.iterate settings (inputs.replies run.step))) record := by
    refine passEnds_quiet working ⟨_, _, rfl, fun directive also => ?_⟩ fun question asks => ?_
    · cases performs.symm.trans also
    · cases performs.symm.trans asks
  unfold passProgram
  split
  · rename_i late
    exact idle (by rw [performed, if_pos late])
  · refine ⟨record, reports _ _, ?_⟩
    cases performs : performed settings (inputs.replies run.step) with
    | none => exact idle performs
    | some directive =>
        cases directive with
        | done summary => exact passEnds_directive working performs nofun
        | code taskDesc =>
            refine ⟨record, reports _ _, ?_⟩
            exact passEnds_directive working performs nofun
        | search query =>
            refine ⟨record, reports _ _, ?_⟩
            exact passEnds_directive working performs nofun
        | question question =>
            have waits : (agentProtocol .advanced).run record
                ((directiveSteps settings (run.step + 1) (.question question)).map .performed) =
                  some ⟨.waiting, record.asked ++ [question], record.heard⟩ := by
              simp only [directiveSteps, List.map_cons, List.map_nil, Machine.run, agentProtocol, working,
                Option.bind_some]
            apply Program.meets_performAll waits
            intro answer
            exact ⟨_, rfl, passEnds_question performs answer⟩

theorem getElem?_concat_cases {α : Type} {items : List α} {last item : α} {index : Nat}
    (here : (items ++ [last])[index]? = some item) :
    items[index]? = some item ∨ (index = items.length ∧ last = item) := by
  rcases List.getElem?_eq_some_iff.mp here with ⟨within, same⟩
  rw [List.length_append, List.length_singleton] at within
  rcases Nat.lt_or_eq_of_le (Nat.le_of_lt_succ within) with earlier | rfl
  · exact .inl ((List.getElem?_append_left earlier).symm.trans here)
  · rw [List.getElem?_concat_length] at here
    exact .inr ⟨rfl, Option.some.inj here⟩

/-- The inputs of the steps so far are the replies to the task. -/
def Supplied (inputs : AgentInputs) (settings : AdvancedSettings) (steps : List AdvancedStep) : Prop :=
  ∀ pass given, steps[pass]? = some (.iterate given) → inputs.Supplies settings pass given

theorem Supplied.concat {inputs : AgentInputs} (supplied : Supplied inputs settings past) {action : AdvancedStep}
    (supplies : ∀ given, action = .iterate given → inputs.Supplies settings past.length given) :
    Supplied inputs settings (past ++ [action]) := by
  intro pass given here
  rcases getElem?_concat_cases here with earlier | ⟨rfl, same⟩
  · exact supplied pass given earlier
  · exact supplies given same

/-- The loop has come to its end, or to that of its task. -/
def LoopEnds (settings : AdvancedSettings) (inputs : AgentInputs) (result : AdvancedResult)
    (record : AgentRecord) : Prop :=
  (result = .panicked ∧ record.stage = .working ∧
      ∃ pass query, performed settings (inputs.replies pass) = some (.search query) ∧
        (inputs.search pass).Panics query) ∨
    ∃ steps conversation, (orchestration settings).run (.start settings) steps = some conversation ∧
      Supplied inputs settings steps ∧ conversation.result = some result ∧ Follows settings steps record ∧
      Rests (some result) record

/-- The loop goes as the orchestration does. -/
theorem loopProgram_meets {inputs : AgentInputs} {left : Nat}
    (runs : (orchestration settings).run (.start settings) past = some run)
    (supplied : Supplied inputs settings past) (goes : run.result = none) (passes : past.length = run.step)
    (count : run.step + left = settings.maxSteps) (follows : Follows settings past record)
    (working : record.stage = .working) :
    (loopProgram settings inputs left run).Meets (agentProtocol .advanced) (LoopEnds settings inputs) record := by
  induction left generalizing run past record with
  | zero =>
      refine .inr ⟨past ++ [.exhaust], { run with result := some (stepsExceeded settings run) }, ?_,
        supplied.concat nofun, rfl, ?_, .inl working⟩
      · exact Machine.run_concat_iff.mpr ⟨run, runs, if_pos ⟨goes, count⟩⟩
      · refine ⟨?_, ?_⟩
        · rw [List.flatMap_append, follows.1]
          exact (List.append_nil _).symm
        · rw [List.flatMap_append, follows.2]
          exact (List.append_nil _).symm
  | succ left inductionHypothesis =>
      rw [loopProgram, Program.meets_bind]
      refine (passProgram_meets working).mono ?_
      rintro (_ | next) after ends
      · exact .inl ⟨rfl, ends.1, run.step, ends.2⟩
      rcases ends with ⟨given, supplies, rfl, asked, heard, rests⟩
      have least : run.step < settings.maxSteps := by omega
      have runs' : (orchestration settings).run (.start settings) (past ++ [.iterate given]) =
          some (run.iterate settings given) :=
        Machine.run_concat_iff.mpr ⟨run, runs, if_pos ⟨goes, least⟩⟩
      have supplied' : Supplied inputs settings (past ++ [.iterate given]) := by
        apply supplied.concat
        rintro _ ⟨⟩
        rw [passes]
        exact supplies
      have follows' : Follows settings (past ++ [.iterate given]) after := by
        refine ⟨?_, ?_⟩
        · rw [asked, follows.1, List.flatMap_append, List.flatMap_singleton]
        · rw [heard, follows.2, List.flatMap_append, List.flatMap_singleton]
      cases result : (run.iterate settings given).result with
      | some ending =>
          simp only [result]
          exact .inr ⟨_, _, runs', supplied', result, follows', result ▸ rests⟩
      | none =>
          simp only [result]
          refine inductionHypothesis runs' supplied' result ?_ ?_ follows' ?_
          · rw [step_iterate, List.length_append, passes]
            rfl
          · rw [step_iterate]
            omega
          · rcases rests with working | ⟨_, error, steps, failed⟩
            · exact working
            · cases result.symm.trans failed

/-- No run of the orchestration panics. -/
theorem exists_reportedResult {steps : List AdvancedStep} {conversation : AdvancedRun} {ending : AdvancedResult}
    (runs : (orchestration settings).run (.start settings) steps = some conversation)
    (ends : conversation.result = some ending) : ∃ result, reportedResult ending = some result := by
  have preserved : ∀ past state action next, Orderly settings past state →
      (orchestration settings).step state action = some next → Orderly settings (past ++ [action]) next :=
    fun _ _ _ _ orderly steps => orderly.step steps
  have intact := (Machine.run_invariant preserved [] orderly_start runs).intact
  cases ending with
  | completed summary steps => exact ⟨_, rfl⟩
  | failed error steps => exact ⟨_, rfl⟩
  | panicked => exact absurd ends intact

/-- What a task reports. -/
def AgentInputs.Returns (inputs : AgentInputs) (kind : TaskKind) (description : Text)
    (result : Except Text Text) : Prop :=
  match kind with
  | .code => (inputs.code 0).Returns (inputs.codeSettings description) result
  | .search => (inputs.search 0).world.runSearchInner (inputs.search 0).limits description = some result
  | .advanced => ∃ asked heard, Conversed inputs description asked heard result

/-- A task has come to its end. -/
def TaskEnds (inputs : AgentInputs) (kind : TaskKind) (description : Text) (record : AgentRecord) :
    AgentExit → Prop
  | .panicked => record.stage = .working ∧ inputs.Panics kind description
  | .returned =>
      ∃ result, record.stage = .finished result ∧ inputs.Returns kind description result ∧
        (kind = .advanced → Conversed inputs description record.asked record.heard result)

/-- An agent with its result reports it, logs it and cleans up. -/
theorem run_closingSteps (kind : TaskKind) (now : UInt64) {result : Except Text Text}
    (concludes : (agentProtocol kind).step record (.performed (.conclude result)) =
      some { record with stage := .concluded result }) :
    (agentProtocol kind).run record ((closingSteps kind now result).map .performed) =
      some { record with stage := .finished result } := by
  cases kind <;>
    · simp only [closingSteps, List.cons_append, List.map_cons, Machine.run, concludes, Option.bind_some]
      rfl

/-- An agent that has its result reports it. -/
theorem close_meets {inputs : AgentInputs} {kind : TaskKind} {description : Text} (now : UInt64)
    {result : Except Text Text} (concludes : (agentProtocol kind).step record (.performed (.conclude result)) =
      some { record with stage := .concluded result })
    (returns : inputs.Returns kind description result)
    (conversed : kind = .advanced → Conversed inputs description record.asked record.heard result) :
    (close kind now (some result)).Meets (agentProtocol kind)
      (fun exit after => TaskEnds inputs kind description after exit) record := by
  apply Program.meets_performAll (run_closingSteps kind now concludes)
  exact ⟨result, rfl, returns, conversed⟩

/-- The passes are iterations of the loop, and there are as many as its limit
allows. -/
theorem codePasses_run {settings : CodeLoop.CodeSettings} {inputs : CodeInputs} {left : Nat}
    {run : CodeLoop.CodeRun} {steps : List CodeLoop.CodeStep}
    (runs : (CodeLoop.codeLoop settings).run (inputs.start settings) steps = some run)
    (supplied : ∀ iteration given, steps[iteration]? = some (.iterate given) → given = inputs.iterations iteration)
    (passes : run.result = none → steps.length = run.iteration) (count : run.iteration + left = settings.maxIterations) :
    inputs.Returns settings (reportedCode (codePasses settings inputs.iterations left run)) := by
  induction left generalizing run steps with
  | zero =>
      cases ended : run.result with
      | some ending =>
          refine ⟨steps, run, ending, runs, supplied, Nat.le_of_eq count, ended, ?_⟩
          rw [codePasses, ended]
          rfl
      | none =>
          let ending : CodeLoop.CodeResult := .failed run.lastError settings.maxIterations
          have exhausts : (CodeLoop.codeLoop settings).step run .exhaust =
            some { run with result := some ending } := if_pos ⟨ended, count⟩
          refine ⟨steps ++ [.exhaust], { run with result := some ending }, ending,
            Machine.run_concat_iff.mpr ⟨run, runs, exhausts⟩, ?_, Nat.le_of_eq count, rfl, ?_⟩
          · intro iteration given here
            rcases getElem?_concat_cases here with earlier | ⟨_, same⟩
            · exact supplied iteration given earlier
            · cases same
          · rw [codePasses, ended]
            rfl
  | succ left inductionHypothesis =>
      cases ended : run.result with
      | some ending =>
          refine ⟨steps, run, ending, runs, supplied, by omega, ended, ?_⟩
          rw [codePasses, ended]
      | none =>
          have least : run.iteration < settings.maxIterations := by omega
          have iterates : (CodeLoop.codeLoop settings).step run (.iterate (inputs.iterations run.iteration)) =
            some (run.iterate settings (inputs.iterations run.iteration)) := if_pos ⟨ended, least⟩
          have next : (run.iterate settings (inputs.iterations run.iteration)).iteration = run.iteration + 1 :=
            (CodeLoop.iterated_iterate run settings (inputs.iterations run.iteration)).iteration
          rw [codePasses, ended]
          refine inductionHypothesis (Machine.run_concat_iff.mpr ⟨run, runs, iterates⟩) ?_ ?_ ?_
          · intro iteration given here
            rcases getElem?_concat_cases here with earlier | ⟨rfl, same⟩
            · exact supplied iteration given earlier
            · rw [passes ended]
              cases same
              rfl
          · intro _
            rw [next, List.length_append, passes ended]
            rfl
          · omega

theorem CodeInputs.returns_result (inputs : CodeInputs) (settings : CodeLoop.CodeSettings) :
    inputs.Returns settings (reportedCode (inputs.result settings)) := by
  have none : (inputs.start settings).iteration = 0 := by
    unfold CodeInputs.start CodeLoop.CodeRun.start
    split <;> rfl
  have begins : (CodeLoop.codeLoop settings).run (inputs.start settings) [] = some (inputs.start settings) := rfl
  refine codePasses_run begins (by rintro iteration given ⟨⟩) ?_ ?_
  · exact fun _ => none.symm
  · rw [none, Nat.zero_add]

/-- Every program keeps to the protocol, and comes to what the agents come
to, unless a search of it panics. -/
theorem program_meets (inputs : AgentInputs) (kind : TaskKind) (description : Text) :
    (inputs.program kind description).Meets (agentProtocol kind)
      (fun exit record => TaskEnds inputs kind description record exit) .start := by
  cases kind with
  | code => exact close_meets inputs.completedAt rfl ((inputs.code 0).returns_result _) nofun
  | search =>
      unfold AgentInputs.program
      cases ends : (inputs.search 0).world.runSearchInner (inputs.search 0).limits description with
      | none => exact ⟨rfl, panics_of_none ends⟩
      | some result => exact close_meets inputs.completedAt rfl ends nofun
  | advanced =>
      change (runAdvancedTask inputs description).Meets _ _ _
      rw [runAdvancedTask, Program.meets_bind, runInner]
      split
      · rename_i present
        have begins : (orchestration (inputs.settings description)).run
            (.start (inputs.settings description)) [] = some (.start (inputs.settings description)) := rfl
        have empty : Follows (inputs.settings description) [] .start := ⟨rfl, rfl⟩
        have loops : (loopProgram (inputs.settings description) inputs inputs.maxSteps
            (.start (inputs.settings description))).Meets (agentProtocol .advanced)
              (LoopEnds (inputs.settings description) inputs) .start :=
          loopProgram_meets begins (by rintro pass given ⟨⟩) rfl rfl (Nat.zero_add _) empty rfl
        refine loops.mono ?_
        rintro ending record (⟨rfl, working, panics⟩ | ⟨steps, conversation, runs, supplied, ends, follows, rests⟩)
        · exact ⟨working, panics⟩
        rcases exists_reportedResult runs ends with ⟨result, reported⟩
        have concludes : (agentProtocol .advanced).step record (.performed (.conclude result)) =
            some { record with stage := .concluded result } := by
          rcases rests with working | ⟨expired, error, count, failed⟩
          · simp only [agentProtocol, working]
          · rcases Option.some.inj failed with rfl
            rcases Option.some.inj reported with rfl
            simp only [agentProtocol, expired]
        have conversed : Conversed inputs description record.asked record.heard result :=
          follows.1 ▸ follows.2 ▸ .orchestrated present runs supplied ends reported
        rw [reported]
        exact close_meets inputs.completedAt concludes ⟨_, _, conversed⟩ fun _ => conversed
      · rename_i absent
        have conversed : Conversed inputs description [] [] (.error noModelConfigured) :=
          .unresolved (Bool.not_eq_true _ ▸ absent)
        exact close_meets inputs.completedAt rfl ⟨_, _, conversed⟩ fun _ => conversed

/-! ## The programs are bounded -/

end

end Agent
end Rabb1tClaw
