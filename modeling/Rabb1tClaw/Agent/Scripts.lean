import Rabb1tClaw.Agent.CodeLoop

namespace Rabb1tClaw
namespace Agent
namespace Scripts

open Foundations
open CodeLoop

/-!
# The script file of a code task

The code agent writes every script into the same file and runs the file.  The
loop of `CodeLoop` takes what the sandbox reports as it comes; here the file is
part of the state, and an execution runs what the file holds.

When the first script cannot be written the task fails.  The write of a fix is
not checked: when it fails, the sandbox runs what is left in the file, and its
output is returned as that of the fix.
-/

/-! ## The file and the sandbox -/

/-- How `std::fs::write` ends.  It empties the file before it writes. -/
inductive WriteOutcome where
  | written
  /-- The file cannot be opened, and stays as it is. -/
  | unopened (error : Text)
  /-- Only so many bytes arrive. -/
  | cutShort (error : Text) (count : Nat)
  deriving DecidableEq, Repr

namespace WriteOutcome

def error : WriteOutcome → Option Text
  | written => none
  | unopened error => some error
  | cutShort error _ => some error

/-- The file behind a write. -/
def file (file : Option (List UInt8)) (code : Text) : WriteOutcome → Option (List UInt8)
  | written => some code.bytes
  | unopened _ => file
  | cutShort _ count => some (code.bytes.take count)

end WriteOutcome

/-- What an iteration takes from elsewhere, with the writes of the script and
what each execution leaves in the file. -/
structure ScriptInputs where
  response : Except Text Text
  pipInstall : Except Text (Bool × Text)
  write : WriteOutcome
  execution : Except Text (Bool × Text × Text)
  leaves : Option (List UInt8)
  artifacts : Text
  verdict : Option Text
  fixWrite : WriteOutcome
  fixExecution : Except Text (Bool × Text × Text)
  fixLeaves : Option (List UInt8)

/-- The inputs of the loop without the file. -/
def ScriptInputs.erase (inputs : ScriptInputs) : IterationInputs where
  response := inputs.response
  pipInstall := inputs.pipInstall
  writeError := inputs.write.error
  execution := inputs.execution
  artifacts := inputs.artifacts
  verdict := inputs.verdict
  fixExecution := inputs.fixExecution

/-- A run of the sandbox: the iteration, the file that it ran, and what came of it. -/
structure Execution where
  iteration : Nat
  script : Option (List UInt8)
  outcome : Except Text (Bool × Text × Text)

structure ScriptFile where
  file : Option (List UInt8)
  /-- The code block that was extracted last. -/
  latest : Option Text
  executions : List Execution

namespace ScriptFile

/-- Extracted code is written to the file. -/
def store (script : ScriptFile) (write : WriteOutcome) (code : Text) : ScriptFile :=
  { script with file := write.file script.file code, latest := some code }

/-- `exec_sandbox`. -/
def execSandbox (script : ScriptFile) (iteration : Nat) (outcome : Except Text (Bool × Text × Text))
    (leaves : Option (List UInt8)) : ScriptFile :=
  { script with
    file := leaves
    executions := script.executions ++ [⟨iteration, script.file, outcome⟩] }

/-- The fix in a verdict is run, however its write ends. -/
def onVerdict (script : ScriptFile) (iteration : Nat) (inputs : ScriptInputs) (verdict : Text) : ScriptFile :=
  if "LGTM".toList.isPrefixOf (Text.trim verdict) then
    script
  else
    match extractPythonCode verdict with
    | none => script
    | some fix => (script.store inputs.fixWrite fix).execSandbox iteration inputs.fixExecution inputs.fixLeaves

def onSuccess (script : ScriptFile) (settings : CodeSettings) (iteration : Nat) (inputs : ScriptInputs) :
    ScriptFile :=
  if settings.verify = false ∨ iteration = settings.maxIterations then
    script
  else
    match inputs.verdict with
    | none => script
    | some verdict => script.onVerdict iteration inputs verdict

def execute (script : ScriptFile) (settings : CodeSettings) (iteration : Nat) (inputs : ScriptInputs)
    (response : Text) : ScriptFile :=
  match extractPythonCode response with
  | none => script
  | some code =>
      let stored := script.store inputs.write code
      match inputs.write.error with
      | some _ => stored
      | none =>
          let ran := stored.execSandbox iteration inputs.execution inputs.leaves
          if succeeded inputs.execution then ran.onSuccess settings iteration inputs else ran

/-- One pass through the loop. -/
def iterate (script : ScriptFile) (settings : CodeSettings) (iteration : Nat) (inputs : ScriptInputs) :
    ScriptFile :=
  match inputs.response with
  | .error _ => script
  | .ok response =>
      if extractPackages response = [] ∨ succeeded inputs.pipInstall = true then
        script.execute settings iteration inputs response
      else
        script

end ScriptFile

/-- The loop and its script file. -/
structure ScriptRun where
  run : CodeRun
  script : ScriptFile

inductive ScriptStep where
  | iterate (inputs : ScriptInputs)
  | exhaust

def ScriptStep.erase : ScriptStep → CodeStep
  | iterate inputs => .iterate inputs.erase
  | exhaust => .exhaust

def ScriptRun.scriptAfter (state : ScriptRun) (settings : CodeSettings) : ScriptStep → ScriptFile
  | .iterate inputs => state.script.iterate settings (state.run.iteration + 1) inputs
  | .exhaust => state.script

/-- The loop starts with whatever a file of the name holds. -/
def ScriptRun.start (settings : CodeSettings) (preparation : Except Text Text) (file : Option (List UInt8)) :
    ScriptRun :=
  ⟨.start settings preparation, ⟨file, none, []⟩⟩

/-- `run_code_loop` with its script file. -/
def scriptLoop (settings : CodeSettings) : Machine ScriptRun ScriptStep where
  step state action :=
    ((codeLoop settings).step state.run action.erase).map fun run => ⟨run, state.scriptAfter settings action⟩

/-- Without the file it is the loop of `CodeLoop`. -/
theorem scriptLoop_erase {settings : CodeSettings} {start final : ScriptRun} {schedule : List ScriptStep}
    (runs : (scriptLoop settings).run start schedule = some final) :
    (codeLoop settings).run start.run (schedule.map ScriptStep.erase) = some final.run := by
  induction schedule generalizing start with
  | nil =>
      rcases Option.some.inj runs with rfl
      rfl
  | cons action schedule inductionHypothesis =>
      rcases Machine.run_cons runs with ⟨next, step, later⟩
      rcases Option.map_eq_some_iff.mp step with ⟨run, erased, rfl⟩
      rw [List.map_cons, Machine.run, erased, Option.bind_some]
      exact inductionHypothesis later

/-! ## The result and its script -/

/-- A result comes from the last execution: it is of the iteration that the
result names, it succeeded, and it ran the code that was extracted last. -/
def Accepted (settings : CodeSettings) (state : ScriptRun) : Prop :=
  ∀ output iterations, state.run.result = some (.completed output iterations) →
    1 ≤ iterations ∧ iterations ≤ settings.maxIterations ∧
      ∃ execution stdout stderr code, state.script.executions.getLast? = some execution ∧
        execution.iteration = iterations ∧ execution.outcome = .ok (true, stdout, stderr) ∧
        output = settings.formatOutput stdout ∧
        state.script.latest = some code ∧ execution.script = some (Text.bytes code)

/-- The fix in the verdict on a script that ran. -/
def verdictFix (settings : CodeSettings) (iteration : Nat) (inputs : ScriptInputs) : Option Text :=
  if settings.verify = false ∨ iteration = settings.maxIterations then none
  else inputs.verdict.bind fun verdict =>
    if "LGTM".toList.isPrefixOf (Text.trim verdict) then none else extractPythonCode verdict

/-- The fix that an iteration runs, if it comes to that. -/
def fixRun (settings : CodeSettings) (iteration : Nat) (inputs : ScriptInputs) : Option Text :=
  match inputs.response with
  | .error _ => none
  | .ok response =>
      if (extractPackages response = [] ∨ succeeded inputs.pipInstall = true) ∧
          (extractPythonCode response).isSome = true ∧ inputs.write.error = none ∧
          succeeded inputs.execution = true then
        verdictFix settings iteration inputs
      else
        none

/-- A fix that runs with success is what its write left in the file. -/
def FixArrives (settings : CodeSettings) (state : ScriptRun) : ScriptStep → Prop
  | .iterate inputs => ∀ fix ∈ fixRun settings (state.run.iteration + 1) inputs,
      succeeded inputs.fixExecution = true → inputs.fixWrite.file inputs.leaves fix = some (Text.bytes fix)
  | .exhaust => True

instance (settings : CodeSettings) (state : ScriptRun) :
    (action : ScriptStep) → Decidable (FixArrives settings state action)
  | .iterate inputs => inferInstanceAs (Decidable (∀ fix ∈ fixRun settings (state.run.iteration + 1) inputs, _))
  | .exhaust => isTrue trivial

/-! ## What an iteration returns -/

section

variable {settings : CodeSettings} {state : ScriptRun} {run : CodeRun} {script : ScriptFile}
  {inputs : ScriptInputs}

/-- Without a result there is nothing to accept. -/
theorem accepted_of_open (unfinished : ∀ output iterations, run.result ≠ some (.completed output iterations))
    (script : ScriptFile) : Accepted settings ⟨run, script⟩ :=
  fun output iterations ends => absurd ends (unfinished output iterations)

theorem accepted_of_running (running : run.result = none) (script : ScriptFile) :
    Accepted settings ⟨run, script⟩ :=
  accepted_of_open (fun output iterations ends => by rw [running] at ends; cases ends) script

/-- A result of the last execution is accepted exactly when the file held the
code. -/
theorem accepted_completed_iff {iterations : Nat} {ran : Option (List UInt8)} {stdout stderr code : Text}
    (within : 1 ≤ iterations ∧ iterations ≤ settings.maxIterations)
    (ends : run.result = some (.completed (settings.formatOutput stdout) iterations))
    (last : script.executions.getLast? = some ⟨iterations, ran, .ok (true, stdout, stderr)⟩)
    (latest : script.latest = some code) :
    Accepted settings ⟨run, script⟩ ↔ ran = some (Text.bytes code) := by
  constructor
  · intro accepted
    rcases accepted _ _ ends with ⟨_, _, execution, _, _, block, last', _, _, _, latest', holds⟩
    rcases Option.some.inj (last.symm.trans last') with rfl
    rcases Option.some.inj (latest.symm.trans latest') with rfl
    exact holds
  · intro holds output iterations' ends'
    rcases CodeResult.completed.inj (Option.some.inj (ends.symm.trans ends')) with ⟨rfl, rfl⟩
    exact ⟨within.1, within.2, _, stdout, stderr, code, last, rfl, rfl, rfl, latest, holds⟩

/-- The script of an iteration ran with success, and the file may have been
changed by it. -/
structure Ran (script : ScriptFile) (iteration : Nat) (code stdout stderr : Text)
    (leaves : Option (List UInt8)) : Prop where
  latest : script.latest = some code
  last : script.executions.getLast? = some ⟨iteration, some (Text.bytes code), .ok (true, stdout, stderr)⟩
  file : script.file = leaves

/-- The run of a fix is the last execution. -/
theorem execSandbox_last (script : ScriptFile) (iteration : Nat) (outcome : Except Text (Bool × Text × Text))
    (leaves : Option (List UInt8)) :
    (script.execSandbox iteration outcome leaves).executions.getLast? =
      some ⟨iteration, script.file, outcome⟩ :=
  List.getLast?_concat

/-- Without a fix nothing has to arrive. -/
theorem no_fix {arrives : Text → Prop} : ∀ fix ∈ (none : Option Text), arrives fix :=
  fun fix member => absurd member (Option.not_mem_none fix)

theorem succeeded_iff {outcome : Except Text (Bool × Text × Text)} :
    succeeded outcome = true ↔ ∃ stdout stderr, outcome = .ok (true, stdout, stderr) := by
  constructor
  · intro succeeds
    rcases outcome with error | ⟨ok, stdout, stderr⟩
    · cases succeeds
    · cases ok with
      | false => cases succeeds
      | true => exact ⟨stdout, stderr, rfl⟩
  · rintro ⟨stdout, stderr, rfl⟩
    rfl

/-- A fix is accepted exactly when it is in the file, if it runs. -/
theorem accepted_fix_iff {final : CodeRun} {iteration : Nat} {verdict code stdout stderr fix : Text}
    (within : 1 ≤ iteration ∧ iteration ≤ settings.maxIterations)
    (ran : Ran script iteration code stdout stderr inputs.leaves) (block : extractPythonCode verdict = some fix)
    (ends : final.result = (CodeRun.fixOutput verdict inputs.fixExecution).map fun fixStdout =>
      .completed (settings.formatOutput fixStdout) iteration) :
    Accepted settings ⟨final,
        (script.store inputs.fixWrite fix).execSandbox iteration inputs.fixExecution inputs.fixLeaves⟩ ↔
      (succeeded inputs.fixExecution = true →
        inputs.fixWrite.file inputs.leaves fix = some (Text.bytes fix)) := by
  cases succeeds : succeeded inputs.fixExecution with
  | false =>
      have unfixed : CodeRun.fixOutput verdict inputs.fixExecution = none := by
        rw [fixOutput_eq_none_iff, succeeds]
        rintro ⟨_, ⟨⟩⟩
      rw [unfixed] at ends
      exact iff_of_true (accepted_of_running ends _) fun runs => absurd runs Bool.false_ne_true
  | true =>
      rcases succeeded_iff.mp succeeds with ⟨fixStdout, fixStderr, runs⟩
      have output : CodeRun.fixOutput verdict inputs.fixExecution = some fixStdout := by
        simp only [CodeRun.fixOutput, block, runs]
      rw [output] at ends
      have last : ((script.store inputs.fixWrite fix).execSandbox iteration inputs.fixExecution
          inputs.fixLeaves).executions.getLast? =
            some ⟨iteration, inputs.fixWrite.file inputs.leaves fix, .ok (true, fixStdout, fixStderr)⟩ := by
        rw [execSandbox_last, runs, ScriptFile.store, ran.file]
      refine (accepted_completed_iff within ends last rfl).trans ?_
      exact ⟨fun arrives _ => arrives, fun arrives => arrives rfl⟩

/-- Behind a script that ran, the result is accepted exactly when a fix that
runs is in the file. -/
theorem accepted_onSuccess_iff {response code stdout stderr : Text} (running : run.result = none)
    (within : run.iteration < settings.maxIterations)
    (ran : Ran script (run.iteration + 1) code stdout stderr inputs.leaves) :
    Accepted settings ⟨run.begun.onSuccess settings inputs.erase response stdout,
        script.onSuccess settings (run.iteration + 1) inputs⟩ ↔
      ∀ fix ∈ verdictFix settings (run.iteration + 1) inputs, succeeded inputs.fixExecution = true →
        inputs.fixWrite.file inputs.leaves fix = some (Text.bytes fix) := by
  have bounds : 1 ≤ run.iteration + 1 ∧ run.iteration + 1 ≤ settings.maxIterations := ⟨by omega, within⟩
  have first : ∀ {next : CodeRun},
      next.result = some (.completed (settings.formatOutput stdout) (run.iteration + 1)) →
        Accepted settings ⟨next, script⟩ :=
    fun ends => (accepted_completed_iff bounds ends ran.last ran.latest).mpr rfl
  rw [CodeRun.onSuccess, ScriptFile.onSuccess, verdictFix]
  by_cases accepts : settings.verify = false ∨ run.iteration + 1 = settings.maxIterations
  · have accepts' : settings.verify = false ∨ run.begun.iteration = settings.maxIterations := accepts
    rw [if_pos accepts, if_pos accepts, if_pos accepts']
    exact iff_of_true (first rfl) no_fix
  · have accepts' : ¬ (settings.verify = false ∨ run.begun.iteration = settings.maxIterations) := accepts
    rw [if_neg accepts, if_neg accepts, if_neg accepts']
    have judged : inputs.erase.verdict = inputs.verdict := rfl
    have fixed : inputs.erase.fixExecution = inputs.fixExecution := rfl
    simp only [judged, fixed]
    cases inputs.verdict with
    | none => exact iff_of_true (first rfl) no_fix
    | some verdict =>
        simp only [ScriptFile.onVerdict, Option.bind_some]
        by_cases lgtm : "LGTM".toList.isPrefixOf (Text.trim verdict) = true
        · rw [if_pos lgtm, if_pos lgtm, if_pos lgtm]
          exact iff_of_true (first rfl) no_fix
        · rw [if_neg lgtm, if_neg lgtm, if_neg lgtm]
          cases block : extractPythonCode verdict with
          | none =>
              simp only [CodeRun.fixOutput, block]
              exact iff_of_true (accepted_of_running running _) no_fix
          | some fix =>
              refine (accepted_fix_iff bounds ran block ?_).trans ?_
              · cases CodeRun.fixOutput verdict inputs.fixExecution with
                | none => exact running
                | some fixStdout => rfl
              · constructor
                · rintro arrives other member
                  rcases Option.some.inj member with rfl
                  exact arrives
                · exact fun arrives => arrives fix rfl

/-- A written script is what the sandbox runs. -/
theorem ran_execSandbox (code : Text) {stdout stderr : Text} (written : inputs.write.error = none)
    (executed : inputs.execution = .ok (true, stdout, stderr)) (script : ScriptFile) (iteration : Nat) :
    Ran ((script.store inputs.write code).execSandbox iteration inputs.execution inputs.leaves)
      iteration code stdout stderr inputs.leaves := by
  refine ⟨rfl, ?_, rfl⟩
  have file : (script.store inputs.write code).file = some (Text.bytes code) := by
    cases write : inputs.write with
    | written => rfl
    | unopened error =>
        rw [write] at written
        cases written
    | cutShort error count =>
        rw [write] at written
        cases written
  rw [execSandbox_last, file, executed]

theorem accepted_failed (run : CodeRun) (error : Text) (script : ScriptFile) :
    Accepted settings ⟨run.fail error, script⟩ :=
  accepted_of_open (fun output iterations ends => by simp [CodeRun.fail] at ends) script

theorem accepted_feedBack (running : run.result = none) (response feedback lastError : Text)
    (script : ScriptFile) : Accepted settings ⟨run.feedBack response feedback lastError, script⟩ :=
  accepted_of_running running script

/-- The result of an iteration is accepted exactly when a fix that runs is in
the file. -/
theorem accepted_execute_iff {response : Text} (running : run.result = none)
    (within : run.iteration < settings.maxIterations) (script : ScriptFile) :
    Accepted settings ⟨run.begun.execute settings inputs.erase response,
        script.execute settings (run.iteration + 1) inputs response⟩ ↔
      ((extractPythonCode response).isSome = true ∧ inputs.write.error = none ∧
          succeeded inputs.execution = true →
        ∀ fix ∈ verdictFix settings (run.iteration + 1) inputs, succeeded inputs.fixExecution = true →
          inputs.fixWrite.file inputs.leaves fix = some (Text.bytes fix)) := by
  have begun : run.begun.result = none := running
  have write : inputs.erase.writeError = inputs.write.error := rfl
  have execution : inputs.erase.execution = inputs.execution := rfl
  rw [CodeRun.execute, ScriptFile.execute, write, execution]
  cases block : extractPythonCode response with
  | none =>
      refine iff_of_true (accepted_feedBack begun _ _ _ _) ?_
      rintro ⟨⟨⟩, _⟩
  | some code =>
      cases written : inputs.write.error with
      | some error =>
          refine iff_of_true (accepted_failed _ _ _) ?_
          rintro ⟨_, ⟨⟩, _⟩
      | none =>
          rcases executed : inputs.execution with error | ⟨ok, stdout, stderr⟩
          · refine iff_of_true (accepted_failed _ _ _) ?_
            rintro ⟨_, _, ⟨⟩⟩
          · cases ok with
            | false =>
                refine iff_of_true (accepted_feedBack begun _ _ _ _) ?_
                rintro ⟨_, _, ⟨⟩⟩
            | true =>
                have ran := ran_execSandbox code written executed script (run.iteration + 1)
                rw [executed] at ran
                refine (accepted_onSuccess_iff running within ran).trans ?_
                exact ⟨fun arrives _ => arrives, fun arrives => arrives ⟨rfl, rfl, rfl⟩⟩

/-- The script of a reply is run when its packages are installed. -/
theorem iterate_installed {response : Text} (replied : inputs.response = .ok response)
    (installed : extractPackages response = [] ∨ succeeded inputs.pipInstall = true) :
    run.iterate settings inputs.erase = run.begun.execute settings inputs.erase response := by
  have replied' : inputs.erase.response = .ok response := replied
  simp only [CodeRun.iterate, replied']
  by_cases bare : extractPackages response = []
  · rw [if_pos bare]
    rfl
  · rw [if_neg bare]
    have succeeds := installed.resolve_left bare
    rcases installs : inputs.erase.pipInstall with error | ⟨ok, pipOut⟩
    · rw [show inputs.pipInstall = _ from installs] at succeeds
      cases succeeds
    · cases ok with
      | true => rfl
      | false =>
          rw [show inputs.pipInstall = _ from installs] at succeeds
          cases succeeds

/-- Otherwise the iteration has no result but a failure. -/
theorem accepted_uninstalled {response : Text} (running : run.result = none)
    (replied : inputs.response = .ok response)
    (missing : ¬ (extractPackages response = [] ∨ succeeded inputs.pipInstall = true)) (script : ScriptFile) :
    Accepted settings ⟨run.iterate settings inputs.erase, script⟩ := by
  have replied' : inputs.erase.response = .ok response := replied
  rw [not_or] at missing
  simp only [CodeRun.iterate, replied', if_neg missing.1]
  rcases installs : inputs.erase.pipInstall with error | ⟨ok, pipOut⟩
  · exact accepted_failed _ _ _
  · cases ok with
    | true => exact absurd (congrArg succeeded installs) missing.2
    | false =>
        have begun : run.begun.result = none := running
        exact accepted_feedBack begun response _ pipOut script

/-- Step lemma: an iteration returns an accepted result, or none, exactly when
a fix that it runs is in the file. -/
theorem accepted_iterate_iff (running : state.run.result = none)
    (within : state.run.iteration < settings.maxIterations) :
    Accepted settings ⟨state.run.iterate settings inputs.erase,
        state.script.iterate settings (state.run.iteration + 1) inputs⟩ ↔
      FixArrives settings state (.iterate inputs) := by
  simp only [FixArrives, fixRun]
  cases replied : inputs.response with
  | error error =>
      have replied' : inputs.erase.response = .error error := replied
      simp only [CodeRun.iterate, replied']
      exact iff_of_true (accepted_failed _ _ _) no_fix
  | ok response =>
      simp only
      by_cases installed : extractPackages response = [] ∨ succeeded inputs.pipInstall = true
      · have script : state.script.iterate settings (state.run.iteration + 1) inputs =
            state.script.execute settings (state.run.iteration + 1) inputs response := by
          simp only [ScriptFile.iterate, replied, if_pos installed]
        rw [iterate_installed replied installed, script, accepted_execute_iff running within]
        split
        · rename_i reached
          exact ⟨fun arrives => arrives reached.2, fun arrives _ => arrives⟩
        · rename_i unreached
          exact iff_of_true (fun reached => absurd ⟨installed, reached⟩ unreached) no_fix
      · rw [if_neg fun reached => installed reached.1]
        exact iff_of_true (accepted_uninstalled running replied installed _) no_fix

end

/-! ## Runs -/

theorem scriptLoop_step {settings : CodeSettings} {state next : ScriptRun} {action : ScriptStep}
    (steps : (scriptLoop settings).step state action = some next) :
    state.run.result = none ∧ (Accepted settings next ↔ FixArrives settings state action) := by
  rcases Option.map_eq_some_iff.mp steps with ⟨run, step, rfl⟩
  cases action with
  | iterate inputs =>
      rcases Option.ite_none_right_eq_some.mp step with ⟨⟨running, within⟩, same⟩
      rcases Option.some.inj same with rfl
      exact ⟨running, accepted_iterate_iff running within⟩
  | exhaust =>
      rcases Option.ite_none_right_eq_some.mp step with ⟨⟨running, _⟩, same⟩
      rcases Option.some.inj same with rfl
      exact ⟨running, iff_of_true (accepted_of_open (by simp) _) trivial⟩

/-- A finished run has no result that is not accepted. -/
theorem accepted_start (settings : CodeSettings) (preparation : Except Text Text) (file : Option (List UInt8)) :
    Accepted settings (.start settings preparation file) := by
  refine accepted_of_open ?_ _
  intro output iterations ends
  cases preparation <;> cases ends

/-- Every result of the loop comes from a successful execution, in its last
iteration, of the code that was extracted last, exactly when every fix that
runs is in the file. -/
theorem scriptLoop_accepted_iff (settings : CodeSettings) (preparation : Except Text Text)
    (file : Option (List UInt8)) {schedule : List ScriptStep} {final : ScriptRun}
    (runs : (scriptLoop settings).run (.start settings preparation file) schedule = some final) :
    Accepted settings final ↔
      (scriptLoop settings).Guarded (FixArrives settings) (.start settings preparation file) schedule := by
  constructor
  · intro accepted
    have ended : ∀ state action next, ¬ Accepted settings state →
        (scriptLoop settings).step state action ≠ some next := by
      intro state action next refused steps
      apply refused
      intro output iterations ends
      rw [(scriptLoop_step steps).1] at ends
      cases ends
    have refused : ∀ state action next, True → ¬ FixArrives settings state action →
        (scriptLoop settings).step state action = some next → ¬ Accepted settings next :=
      fun state action next _ misses steps arrived => misses ((scriptLoop_step steps).2.mp arrived)
    have stays : ∀ state action next, ¬ Accepted settings state →
        (scriptLoop settings).step state action = some next → ¬ Accepted settings next :=
      fun state action next refused steps => absurd steps (ended state action next refused)
    exact Machine.guarded_of_doomed (fun _ _ _ _ _ => trivial) refused stays trivial runs (not_not_intro accepted)
  · intro guarded
    have preserved : ∀ (past : List ScriptStep) state action next, Accepted settings state →
        FixArrives settings state action → (scriptLoop settings).step state action = some next →
          Accepted settings next :=
      fun _ _ _ _ _ arrives steps => (scriptLoop_step steps).2.mpr arrives
    exact Machine.run_invariant_guarded preserved [] (accepted_start settings preparation file) guarded runs

/-! ## A fix in the verdict -/

/-- A script that prints 1, and a verdict with a script that prints 2. -/
def fixedScript (fixWrite : WriteOutcome) (fixStdout : Text) : ScriptInputs where
  response := .ok "```python\nprint(1)\n```".toList
  pipInstall := .ok (true, [])
  write := .written
  execution := .ok (true, "1".toList, [])
  leaves := some (Text.bytes "print(1)".toList)
  artifacts := "(empty)".toList
  verdict := some "```python\nprint(2)\n```".toList
  fixWrite := fixWrite
  fixExecution := .ok (true, fixStdout, [])
  fixLeaves := some (Text.bytes "print(2)".toList)

def writtenFix : List ScriptStep := [.iterate (fixedScript .written "2".toList)]

/-- The fix cannot be written, and the first script runs again. -/
def unwrittenFix : List ScriptStep :=
  [.iterate (fixedScript (.unopened "Permission denied (os error 13)".toList) "1".toList)]

theorem writtenFix_run :
    ((scriptLoop sampleSettings).run (.start sampleSettings (.ok []) none) writtenFix).any (fun final =>
      final.run.result = some (.completed "2".toList 1)) = true := by
  decide +kernel

theorem scriptLoop_writtenFix :
    ∃ final, (scriptLoop sampleSettings).run (.start sampleSettings (.ok []) none) writtenFix = some final ∧
      final.run.result = some (.completed "2".toList 1) ∧ Accepted sampleSettings final := by
  rcases (Option.any_eq_true _ _).mp writtenFix_run with ⟨final, runs, holds⟩
  refine ⟨final, runs, of_decide_eq_true holds, ?_⟩
  exact (scriptLoop_accepted_iff sampleSettings (.ok []) none runs).mpr (by decide +kernel)

theorem unwrittenFix_run :
    ((scriptLoop sampleSettings).run (.start sampleSettings (.ok []) none) unwrittenFix).any (fun final =>
      final.run.result = some (.completed "1".toList 1) ∧
        final.script.latest = some "print(2)".toList ∧
        ∀ execution ∈ final.script.executions, execution.script ≠ some (Text.bytes "print(2)".toList)) = true := by
  decide +kernel

/-- The result of a fix that could not be written is the output of the script
that it should have replaced. -/
theorem scriptLoop_unwrittenFix :
    ∃ final, (scriptLoop sampleSettings).run (.start sampleSettings (.ok []) none) unwrittenFix = some final ∧
      final.run.result = some (.completed "1".toList 1) ∧ ¬ Accepted sampleSettings final := by
  rcases (Option.any_eq_true _ _).mp unwrittenFix_run with ⟨final, runs, holds⟩
  rcases of_decide_eq_true holds with ⟨ends, latest, never⟩
  refine ⟨final, runs, ends, fun accepted => ?_⟩
  rcases accepted _ _ ends with ⟨_, _, execution, _, _, code, last, _, _, _, latest', holds⟩
  rcases Option.some.inj (latest.symm.trans latest') with rfl
  exact never execution (List.mem_of_getLast? last) holds

end Scripts
end Agent
end Rabb1tClaw
