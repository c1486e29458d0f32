import Rabb1tClaw.Agent.Conversation
import Rabb1tClaw.Foundations.Machine

namespace Rabb1tClaw
namespace Agent
namespace CodeLoop

open Foundations

/-!
# The code agent

The code agent asks for a script, runs it and, if it is to verify, asks
whether the output is what the task wants.  Whatever went wrong is put into
the conversation, and the next iteration asks again.

There is one flaw.  A verdict that neither accepts the output nor brings a fix
that runs is put into the conversation without an answer of the user, so that
the next request ends with a message of the assistant.
-/

/-! ## Reading replies -/

/-- Extract Python code from a fenced block. -/
def extractPythonCode (response : Text) : Option Text := do
  let (_, afterMarker) ← cut "```python".toList response
  let body := if ['\n'].isPrefixOf afterMarker then afterMarker.drop 1 else afterMarker
  let (block, _) ← cut "```".toList body
  let code := Text.trimEnd block
  if code = [] then none else some code

/-- The lines of the first fenced block in the section of the packages. -/
def packageBlock (response : Text) : Option Text := do
  let (_, after) ← cut "### Packages".toList response
  let (_, opened) ← cut "```".toList after
  let (_, body) ← cut ['\n'] opened
  let (block, _) ← cut "```".toList body
  some block

/-- Extract package names; a line that is empty or a comment is none. -/
def extractPackages (response : Text) : List Text :=
  match packageBlock response with
  | none => []
  | some block =>
      ((block.splitOn '\n').map Text.trim).filter fun line => !line.isEmpty && !(['#'].isPrefixOf line)

/-! ## Iterations -/

inductive CodeResult where
  | completed (output : Text) (iterations : Nat)
  | failed (error : Text) (iterations : Nat)
  deriving DecidableEq, Repr

structure CodeSettings where
  description : Text
  maxIterations : Nat
  maxOutputTokens : Nat
  verify : Bool
  /-- Cuts a text to a number of tokens. -/
  truncate : Text → Nat → Text

/-- What an iteration takes from elsewhere. -/
structure IterationInputs where
  response : Except Text Text
  /-- Whether the packages could be installed, and what the installer wrote. -/
  pipInstall : Except Text (Bool × Text)
  writeError : Option Text
  /-- Whether the script succeeded, and its two outputs. -/
  execution : Except Text (Bool × Text × Text)
  artifacts : Text
  verdict : Option Text
  fixExecution : Except Text (Bool × Text × Text)

structure CodeRun where
  messages : List ChatMessage
  lastError : Text
  /-- The iterations begun so far. -/
  iteration : Nat
  result : Option CodeResult
  /-- The messages of the requests, in order. -/
  calls : List (List ChatMessage)

def CodeSettings.taskMessage (settings : CodeSettings) (listing : Text) : ChatMessage :=
  .fromUser ("Task: ".toList ++ settings.description ++ "\n\nWorkspace contents:\n".toList ++ listing)

def CodeSettings.formatOutput (settings : CodeSettings) (stdout : Text) : Text :=
  if Text.trim stdout = [] then "(completed with no output)".toList
  else settings.truncate stdout settings.maxOutputTokens

def CodeSettings.verifyMessage (settings : CodeSettings) (output artifacts : Text) : Text :=
  "Execution succeeded.\n\n**stdout:**\n".toList ++ output ++
    "\n\n**Workspace files:**\n".toList ++ artifacts ++
    "\n\n**Original task:** ".toList ++ settings.description ++
    "\n\nDoes the output and any created files fully satisfy the task? ".toList ++
    "If yes, respond with exactly `LGTM`. ".toList ++
    "If not, explain what's wrong and provide a fixed ```python block.".toList

/-- The loop starts when a model is there and the workspace is ready. -/
def CodeRun.start (settings : CodeSettings) : Except Text Text → CodeRun
  | .error error => ⟨[], [], 0, some (.failed error 0), []⟩
  | .ok listing => ⟨[settings.taskMessage listing], [], 0, none, []⟩

namespace CodeRun

def fail (run : CodeRun) (error : Text) : CodeRun :=
  { run with result := some (.failed error run.iteration) }

def complete (run : CodeRun) (output : Text) : CodeRun :=
  { run with result := some (.completed output run.iteration) }

/-- Put a reply and what was wrong with it into the conversation. -/
def feedBack (run : CodeRun) (response feedback lastError : Text) : CodeRun :=
  { run with
    messages := run.messages ++ [.fromAssistant response, .fromUser feedback]
    lastError }

/-- The output of a fix in the verdict, if it runs. -/
def fixOutput (verdict : Text) (fixExecution : Except Text (Bool × Text × Text)) : Option Text :=
  match extractPythonCode verdict, fixExecution with
  | some _, .ok (true, stdout, _) => some stdout
  | _, _ => none

def onSuccess (run : CodeRun) (settings : CodeSettings) (inputs : IterationInputs)
    (response stdout : Text) : CodeRun :=
  let output := settings.formatOutput stdout
  if settings.verify = false ∨ run.iteration = settings.maxIterations then
    run.complete output
  else
    let run := run.feedBack response (settings.verifyMessage output inputs.artifacts) run.lastError
    let run := { run with calls := run.calls ++ [run.messages] }
    match inputs.verdict with
    | none => run.complete output
    | some verdict =>
        if "LGTM".toList.isPrefixOf (Text.trim verdict) then
          run.complete output
        else
          match fixOutput verdict inputs.fixExecution with
          | some fixStdout => run.complete (settings.formatOutput fixStdout)
          | none =>
              -- no message of the user follows
              { run with
                messages := run.messages ++ [ChatMessage.fromAssistant verdict]
                lastError := "verification: result did not satisfy task".toList }

/-- Run the script of a reply. -/
def execute (run : CodeRun) (settings : CodeSettings) (inputs : IterationInputs) (response : Text) :
    CodeRun :=
  match extractPythonCode response with
  | none =>
      run.feedBack response "No Python code block found. Include a ```python block.".toList
        "no code block in response".toList
  | some _ =>
      match inputs.writeError, inputs.execution with
      | some error, _ => run.fail error
      | none, .error error => run.fail error
      | none, .ok (true, stdout, _) => run.onSuccess settings inputs response stdout
      | none, .ok (false, stdout, stderr) =>
          let errorSource := if Text.trim stderr = [] then stdout else stderr
          let lastError := settings.truncate errorSource settings.maxOutputTokens
          run.feedBack response
            ("Execution failed (iteration ".toList ++ Nat.toDigits 10 run.iteration ++ "/".toList ++
              Nat.toDigits 10 settings.maxIterations ++ "):\n".toList ++ lastError ++ "\nFix it.".toList)
            lastError

/-- One pass through the loop. -/
def iterate (run : CodeRun) (settings : CodeSettings) (inputs : IterationInputs) : CodeRun :=
  let run := { run with iteration := run.iteration + 1, calls := run.calls ++ [run.messages] }
  match inputs.response with
  | .error error => run.fail error
  | .ok response =>
      if extractPackages response = [] then
        run.execute settings inputs response
      else
        match inputs.pipInstall with
        | .error error => run.fail error
        | .ok (true, _) => run.execute settings inputs response
        | .ok (false, pipOut) =>
            run.feedBack response
              ("pip install failed:\n".toList ++ settings.truncate pipOut settings.maxOutputTokens ++
                "\nFix it.".toList)
              pipOut

end CodeRun

inductive CodeStep where
  | iterate (inputs : IterationInputs)
  /-- The iterations are used up. -/
  | exhaust

/-- `run_code_loop`. -/
def codeLoop (settings : CodeSettings) : Machine CodeRun CodeStep where
  step run
    | .iterate inputs =>
        if run.result = none ∧ run.iteration < settings.maxIterations then
          some (run.iterate settings inputs)
        else
          none
    | .exhaust =>
        if run.result = none ∧ run.iteration = settings.maxIterations then
          some { run with result := some (.failed run.lastError settings.maxIterations) }
        else
          none

/-! ## The unanswered verdict -/

/-- `Ok((true, ..))`. -/
def succeeded {α : Type} : Except Text (Bool × α) → Bool
  | .ok (true, _) => true
  | _ => false

/-- The script of an iteration runs but is neither accepted nor fixed, and there is an
iteration to come. -/
def Unresolved (settings : CodeSettings) (iteration : Nat) (inputs : IterationInputs) : Prop :=
  settings.verify = true ∧ iteration ≠ settings.maxIterations ∧
    (∃ response ∈ inputs.response.toOption,
      (extractPackages response = [] ∨ succeeded inputs.pipInstall = true) ∧
        (extractPythonCode response).isSome = true) ∧
    inputs.writeError = none ∧ succeeded inputs.execution = true ∧
    ∃ verdict ∈ inputs.verdict, ¬ "LGTM".toList.isPrefixOf (Text.trim verdict) = true ∧
      ¬ ((extractPythonCode verdict).isSome = true ∧ succeeded inputs.fixExecution = true)

instance (settings : CodeSettings) (iteration : Nat) (inputs : IterationInputs) :
    Decidable (Unresolved settings iteration inputs) :=
  inferInstanceAs (Decidable (_ ∧ _))

/-- No script is left unresolved. -/
def Resolves (settings : CodeSettings) (run : CodeRun) : CodeStep → Prop
  | .iterate inputs => ¬ Unresolved settings (run.iteration + 1) inputs
  | .exhaust => True

instance (settings : CodeSettings) (run : CodeRun) :
    (action : CodeStep) → Decidable (Resolves settings run action)
  | .iterate inputs => inferInstanceAs (Decidable (¬ Unresolved settings (run.iteration + 1) inputs))
  | .exhaust => isTrue trivial

/-! ## What an iteration does -/

/-- The effect of an iteration: it sends the conversation, perhaps also the
question for a verdict, and ends or leaves an exchange, or else a verdict on
top of it. -/
structure Iterated (unresolved : Prop) (run next : CodeRun) : Prop where
  iteration : next.iteration = run.iteration + 1
  calls : ∃ later, next.calls = run.calls ++ run.messages :: later ∧
    ∀ call ∈ later, ∃ reply request,
      call = run.messages ++ [ChatMessage.fromAssistant reply, .fromUser request]
  unanswered : unresolved → next.result = run.result ∧ ∃ reply request verdict,
    next.messages = run.messages ++ [.fromAssistant reply, .fromUser request] ++ [.fromAssistant verdict]
  answered : ¬ unresolved → next.result ≠ none ∨ next.result = run.result ∧ ∃ reply answer,
    next.messages = run.messages ++ [.fromAssistant reply, .fromUser answer]

theorem fixOutput_eq_none_iff {verdict : Text} {fixExecution : Except Text (Bool × Text × Text)} :
    CodeRun.fixOutput verdict fixExecution = none ↔
      ¬ ((extractPythonCode verdict).isSome = true ∧ succeeded fixExecution = true) := by
  cases found : extractPythonCode verdict with
  | none => simp [CodeRun.fixOutput, found]
  | some code =>
      rcases fixExecution with error | ⟨ok, stdout, stderr⟩
      · simp [CodeRun.fixOutput, found, succeeded]
      · cases ok <;> simp [CodeRun.fixOutput, found, succeeded]

section

variable {settings : CodeSettings} {preparation : Except Text Text} {run : CodeRun} {unresolved : Prop}

/-- The run when the request of an iteration is sent. -/
def CodeRun.begun (run : CodeRun) : CodeRun :=
  { run with iteration := run.iteration + 1, calls := run.calls ++ [run.messages] }

theorem iterated_ended (resolved : ¬ unresolved) (result : CodeResult) :
    Iterated unresolved run { run.begun with result := some result } where
  iteration := rfl
  calls := ⟨[], rfl, by rintro call ⟨⟩⟩
  unanswered := fun holds => absurd holds resolved
  answered := fun _ => .inl (by rintro ⟨⟩)

theorem iterated_feedBack (resolved : ¬ unresolved) (response feedback lastError : Text) :
    Iterated unresolved run (run.begun.feedBack response feedback lastError) where
  iteration := rfl
  calls := ⟨[], rfl, by rintro call ⟨⟩⟩
  unanswered := fun holds => absurd holds resolved
  answered := fun _ => .inr ⟨rfl, response, feedback, rfl⟩

/-- The request for a verdict follows the one of the iteration. -/
theorem calls_asked (run : CodeRun) (response request : Text) :
    ∃ later, run.begun.calls ++ [run.messages ++ [.fromAssistant response, .fromUser request]] =
        run.calls ++ run.messages :: later ∧
      ∀ call ∈ later, ∃ reply request,
        call = run.messages ++ [ChatMessage.fromAssistant reply, .fromUser request] :=
  ⟨_, List.append_assoc _ _ _, fun _ member => ⟨_, _, List.mem_singleton.mp member⟩⟩

/-- The run ends after the request for a verdict. -/
theorem iterated_judged (resolved : ¬ unresolved) (response request : Text) (result : CodeResult) :
    Iterated unresolved run { run.begun.feedBack response request run.lastError with
      calls := run.begun.calls ++ [run.messages ++ [.fromAssistant response, .fromUser request]]
      result := some result } where
  iteration := rfl
  calls := calls_asked run response request
  unanswered := fun holds => absurd holds resolved
  answered := fun _ => .inl (by rintro ⟨⟩)

/-- A script that runs leaves the iteration unresolved unless its output is
accepted or fixed. -/
theorem unresolved_iff {iteration : Nat} {inputs : IterationInputs} {response : Text}
    (replied : inputs.response = .ok response)
    (installed : extractPackages response = [] ∨ succeeded inputs.pipInstall = true)
    (code : (extractPythonCode response).isSome = true) (written : inputs.writeError = none)
    (executed : succeeded inputs.execution = true) :
    Unresolved settings iteration inputs ↔
      settings.verify = true ∧ iteration ≠ settings.maxIterations ∧
        ∃ verdict ∈ inputs.verdict, ¬ "LGTM".toList.isPrefixOf (Text.trim verdict) = true ∧
          CodeRun.fixOutput verdict inputs.fixExecution = none := by
  simp only [Unresolved, fixOutput_eq_none_iff]
  constructor
  · rintro ⟨verify, later, _, _, _, refused⟩
    exact ⟨verify, later, refused⟩
  · rintro ⟨verify, later, refused⟩
    refine ⟨verify, later, ⟨response, ?_, installed, code⟩, written, executed, refused⟩
    rw [replied]
    rfl

theorem iterated_onSuccess {inputs : IterationInputs} {response stdout : Text}
    (replied : inputs.response = .ok response)
    (installed : extractPackages response = [] ∨ succeeded inputs.pipInstall = true)
    (code : (extractPythonCode response).isSome = true) (written : inputs.writeError = none)
    (executed : succeeded inputs.execution = true) :
    Iterated (Unresolved settings (run.iteration + 1) inputs) run
      (run.begun.onSuccess settings inputs response stdout) := by
  rw [unresolved_iff replied installed code written executed, CodeRun.onSuccess]
  split
  · rename_i accepts
    refine iterated_ended ?_ _
    rintro ⟨verify, later, _⟩
    rcases accepts with unverified | last
    · rw [verify] at unverified
      cases unverified
    · exact later last
  · rename_i verifies
    cases inputs.verdict with
    | none =>
        refine iterated_judged ?_ _ _ _
        rintro ⟨_, _, verdict, member, _⟩
        cases member
    | some verdict =>
        simp only
        split
        · rename_i accepted
          refine iterated_judged ?_ _ _ _
          rintro ⟨_, _, other, member, refused, _⟩
          rcases Option.some.inj member with rfl
          exact refused accepted
        · rename_i refused
          cases fixed : CodeRun.fixOutput verdict inputs.fixExecution with
          | some fixStdout =>
              refine iterated_judged ?_ _ _ _
              rintro ⟨_, _, other, member, _, unfixed⟩
              rcases Option.some.inj member with rfl
              rw [fixed] at unfixed
              cases unfixed
          | none =>
              refine ⟨rfl, calls_asked _ _ _, fun _ => ⟨rfl, _, _, _, rfl⟩, fun resolved => absurd ?_ resolved⟩
              refine ⟨?_, fun last => verifies (.inr last), verdict, rfl, refused, fixed⟩
              exact Bool.of_not_eq_false fun unverified => verifies (.inl unverified)

theorem Unresolved.reply {iteration : Nat} {inputs : IterationInputs} {response : Text}
    (unresolved : Unresolved settings iteration inputs) (replied : inputs.response = .ok response) :
    (extractPackages response = [] ∨ succeeded inputs.pipInstall = true) ∧
      (extractPythonCode response).isSome = true := by
  rcases unresolved with ⟨_, _, ⟨other, member, holds⟩, _⟩
  rw [replied] at member
  rcases Option.some.inj member with rfl
  exact holds

theorem iterated_execute {inputs : IterationInputs} {response : Text}
    (replied : inputs.response = .ok response)
    (installed : extractPackages response = [] ∨ succeeded inputs.pipInstall = true) :
    Iterated (Unresolved settings (run.iteration + 1) inputs) run
      (run.begun.execute settings inputs response) := by
  cases code : extractPythonCode response with
  | none =>
      simp only [CodeRun.execute, code]
      refine iterated_feedBack (fun unresolved => ?_) _ _ _
      have present := (unresolved.reply replied).2
      rw [code] at present
      cases present
  | some script =>
      cases written : inputs.writeError with
      | some error =>
          simp only [CodeRun.execute, code, written]
          refine iterated_ended (fun unresolved => ?_) _
          rw [unresolved.2.2.2.1] at written
          cases written
      | none =>
          have failing : succeeded inputs.execution = false →
              ¬ Unresolved settings (run.iteration + 1) inputs := by
            intro fails unresolved
            rw [unresolved.2.2.2.2.1] at fails
            cases fails
          rcases executed : inputs.execution with error | ⟨ok, stdout, stderr⟩
          · simp only [CodeRun.execute, code, written, executed]
            exact iterated_ended (failing (by rw [executed]; rfl)) _
          · cases ok with
            | false =>
                simp only [CodeRun.execute, code, written, executed]
                exact iterated_feedBack (failing (by rw [executed]; rfl)) _ _ _
            | true =>
                simp only [CodeRun.execute, code, written, executed]
                exact iterated_onSuccess replied installed (by rw [code]; rfl) written
                  (by rw [executed]; rfl)

/-- What one pass through the loop does. -/
theorem iterated_iterate (run : CodeRun) (settings : CodeSettings) (inputs : IterationInputs) :
    Iterated (Unresolved settings (run.iteration + 1) inputs) run (run.iterate settings inputs) := by
  cases replied : inputs.response with
  | error error =>
      simp only [CodeRun.iterate, replied]
      refine iterated_ended (fun unresolved => ?_) _
      rcases unresolved with ⟨_, _, ⟨response, member, _⟩, _⟩
      rw [replied] at member
      cases member
  | ok response =>
      by_cases bare : extractPackages response = []
      · simp only [CodeRun.iterate, replied, if_pos bare]
        exact iterated_execute replied (.inl bare)
      · have failing : succeeded inputs.pipInstall = false →
            ¬ Unresolved settings (run.iteration + 1) inputs := by
          intro fails unresolved
          rcases (unresolved.reply replied).1 with none | succeeds
          · exact bare none
          · rw [succeeds] at fails
            cases fails
        rcases installs : inputs.pipInstall with error | ⟨ok, pipOut⟩
        · simp only [CodeRun.iterate, replied, if_neg bare, installs]
          exact iterated_ended (failing (by rw [installs]; rfl)) _
        · cases ok with
          | false =>
              simp only [CodeRun.iterate, replied, if_neg bare, installs]
              exact iterated_feedBack (failing (by rw [installs]; rfl)) _ _ _
          | true =>
              simp only [CodeRun.iterate, replied, if_neg bare, installs]
              exact iterated_execute replied (.inr (by rw [installs]; rfl))

/-! ## Runs -/

/-- A request is well formed and starts with the task. -/
def Proper (settings : CodeSettings) (preparation : Except Text Text) (messages : List ChatMessage) :
    Prop :=
  ChatMessage.WellFormed messages ∧
    ∃ listing, preparation = .ok listing ∧
      [⟨"user".toList, "Task: ".toList ++ settings.description ++ "\n\nWorkspace contents:\n".toList ++ listing⟩] <+:
        messages

theorem Proper.exchange {messages : List ChatMessage} (proper : Proper settings preparation messages)
    (reply answer : Text) :
    Proper settings preparation (messages ++ [.fromAssistant reply, .fromUser answer]) := by
  rcases proper with ⟨formed, listing, prepared, opens⟩
  exact ⟨formed.exchange reply answer, listing, prepared, opens.trans (List.prefix_append _ _)⟩

/-- What holds of a run as long as every script is resolved. -/
structure Sound (settings : CodeSettings) (preparation : Except Text Text) (run : CodeRun) : Prop where
  calls : ∀ call ∈ run.calls, Proper settings preparation call
  ready : run.result = none → Proper settings preparation run.messages

/-- A request was not well formed, or the next will not be. -/
def Spoiled (settings : CodeSettings) (run : CodeRun) : Prop :=
  (∃ call ∈ run.calls, ¬ ChatMessage.WellFormed call) ∨
    run.result = none ∧ run.iteration < settings.maxIterations ∧ ¬ ChatMessage.WellFormed run.messages

theorem sound_start (settings : CodeSettings) (preparation : Except Text Text) :
    Sound settings preparation (.start settings preparation) := by
  cases preparation with
  | error error => exact ⟨by rintro call ⟨⟩, by rintro ⟨⟩⟩
  | ok listing =>
      exact ⟨by rintro call ⟨⟩,
        fun _ => ⟨ChatMessage.wellFormed_question _, listing, rfl, List.prefix_refl _⟩⟩

theorem Sound.iterated_calls {next : CodeRun} (sound : Sound settings preparation run)
    (goes : run.result = none) (iterated : Iterated unresolved run next) :
    ∀ call ∈ next.calls, Proper settings preparation call := by
  rcases iterated.calls with ⟨later, calls, asked⟩
  intro call member
  rw [calls] at member
  rcases List.mem_append.mp member with earlier | now
  · exact sound.calls call earlier
  · rcases List.mem_cons.mp now with rfl | question
    · exact sound.ready goes
    · rcases asked call question with ⟨reply, request, rfl⟩
      exact (sound.ready goes).exchange reply request

theorem Sound.step {action : CodeStep} {next : CodeRun} (sound : Sound settings preparation run)
    (resolves : Resolves settings run action) (steps : (codeLoop settings).step run action = some next) :
    Sound settings preparation next := by
  cases action with
  | iterate inputs =>
      rcases Option.ite_none_right_eq_some.mp steps with ⟨⟨goes, _⟩, same⟩
      rcases Option.some.inj same with rfl
      have iterated := iterated_iterate run settings inputs
      refine ⟨sound.iterated_calls goes iterated, fun running => ?_⟩
      rcases iterated.answered resolves with ended | ⟨_, reply, answer, messages⟩
      · exact absurd running ended
      · rw [messages]
        exact (sound.ready goes).exchange reply answer
  | exhaust =>
      rcases Option.ite_none_right_eq_some.mp steps with ⟨_, same⟩
      rcases Option.some.inj same with rfl
      exact ⟨sound.calls, by rintro ⟨⟩⟩

/-- A verdict without an answer spoils the next request. -/
theorem Sound.spoiled {action : CodeStep} {next : CodeRun} (sound : Sound settings preparation run)
    (unresolved : ¬ Resolves settings run action)
    (steps : (codeLoop settings).step run action = some next) : Spoiled settings next := by
  cases action with
  | exhaust => exact absurd trivial unresolved
  | iterate inputs =>
      rcases Option.ite_none_right_eq_some.mp steps with ⟨⟨goes, within⟩, same⟩
      rcases Option.some.inj same with rfl
      have left : Unresolved settings (run.iteration + 1) inputs := Classical.not_not.mp unresolved
      have iterated := iterated_iterate run settings inputs
      rcases iterated.unanswered left with ⟨running, reply, request, verdict, messages⟩
      have another := left.2.1
      refine .inr ⟨running.trans goes, ?_, ?_⟩
      · rw [iterated.iteration]
        omega
      · rw [messages]
        exact ((sound.ready goes).exchange reply request).1.not_reply verdict

theorem Spoiled.step {action : CodeStep} {next : CodeRun} (spoiled : Spoiled settings run)
    (steps : (codeLoop settings).step run action = some next) : Spoiled settings next := by
  cases action with
  | iterate inputs =>
      rcases Option.ite_none_right_eq_some.mp steps with ⟨_, same⟩
      rcases Option.some.inj same with rfl
      rcases (iterated_iterate run settings inputs).calls with ⟨later, calls, _⟩
      refine .inl ?_
      rw [calls]
      rcases spoiled with ⟨call, member, ill⟩ | ⟨_, _, ill⟩
      · exact ⟨call, List.mem_append_left _ member, ill⟩
      · exact ⟨run.messages, List.mem_append_right _ List.mem_cons_self, ill⟩
  | exhaust =>
      rcases Option.ite_none_right_eq_some.mp steps with ⟨⟨_, last⟩, same⟩
      rcases Option.some.inj same with rfl
      rcases spoiled with sent | ⟨_, within, _⟩
      · exact .inl sent
      · exact absurd last (Nat.ne_of_lt within)

/-- A finished run made proper requests only if and only if it left no script
unresolved. -/
theorem codeLoop_proper_iff (settings : CodeSettings) (preparation : Except Text Text)
    {schedule : List CodeStep} {final : CodeRun}
    (runs : (codeLoop settings).run (.start settings preparation) schedule = some final)
    (ended : final.result ≠ none) :
    (∀ call ∈ final.calls, Proper settings preparation call) ↔
      (codeLoop settings).Guarded (Resolves settings) (.start settings preparation) schedule := by
  constructor
  · intro proper
    have spared : ¬ Spoiled settings final := by
      rintro (⟨call, member, ill⟩ | ⟨running, _⟩)
      · exact ill (proper call member).1
      · exact ended running
    have preserved : ∀ state action next,
        Sound settings preparation state ∨ Spoiled settings state →
          (codeLoop settings).step state action = some next →
            Sound settings preparation next ∨ Spoiled settings next := by
      rintro state action next (sound | spoiled) steps
      · by_cases resolves : Resolves settings state action
        · exact .inl (sound.step resolves steps)
        · exact .inr (sound.spoiled resolves steps)
      · exact .inr (spoiled.step steps)
    refine Machine.guarded_of_doomed preserved ?_ (fun _ _ _ => Spoiled.step)
      (.inl (sound_start settings preparation)) runs spared
    rintro state action next (sound | spoiled) unresolved steps
    · exact sound.spoiled unresolved steps
    · exact spoiled.step steps
  · intro guarded
    have preserved : ∀ (past : List CodeStep) state action next, Sound settings preparation state →
        Resolves settings state action → (codeLoop settings).step state action = some next →
          Sound settings preparation next :=
      fun _ _ _ _ sound resolves steps => sound.step resolves steps
    have sound : Sound settings preparation final :=
      Machine.run_invariant_guarded preserved [] (sound_start settings preparation) guarded runs
    exact sound.calls

end

/-! ## Two iterations -/

def sampleSettings : CodeSettings := ⟨"print a number".toList, 2, 1000, true, fun text _ => text⟩

/-- A script that runs and gets a verdict. -/
def judgedScript (verdict : Text) : IterationInputs :=
  ⟨.ok "```python\nprint(1)\n```".toList, .ok (true, []), none, .ok (true, "1".toList, []),
    "(empty)".toList, some verdict, .error []⟩

/-- The verdict asks for more, then the second script is the last. -/
def refusedScript : List CodeStep :=
  [.iterate (judgedScript "Print 2 instead.".toList), .iterate (judgedScript [])]

def acceptedScript : List CodeStep := [.iterate (judgedScript "LGTM".toList)]

theorem acceptedScript_run :
    ((codeLoop sampleSettings).run (.start sampleSettings (.ok [])) acceptedScript).any (fun final =>
      final.result ≠ none ∧ final.calls.length = 2) = true := by
  decide +kernel

theorem codeLoop_acceptedScript :
    ∃ final, (codeLoop sampleSettings).run (.start sampleSettings (.ok [])) acceptedScript = some final ∧
      final.calls.length = 2 ∧ ∀ call ∈ final.calls, Proper sampleSettings (.ok []) call := by
  rcases (Option.any_eq_true _ _).mp acceptedScript_run with ⟨final, runs, holds⟩
  rcases of_decide_eq_true holds with ⟨ended, two⟩
  refine ⟨final, runs, two, ?_⟩
  exact (codeLoop_proper_iff sampleSettings (.ok []) runs ended).mpr (by decide +kernel)

/-- The second request of the loop ends with the verdict of the assistant. -/
theorem refusedScript_spoils :
    ∃ final, (codeLoop sampleSettings).run (.start sampleSettings (.ok [])) refusedScript = some final ∧
      final.result ≠ none ∧ ∃ call ∈ final.calls, ¬ ChatMessage.WellFormed call := by
  have runs : ((codeLoop sampleSettings).run (.start sampleSettings (.ok [])) refusedScript).any
      (fun final => final.result ≠ none ∧ ∃ call ∈ final.calls, ¬ ChatMessage.WellFormed call) = true := by
    decide +kernel
  rcases (Option.any_eq_true _ _).mp runs with ⟨final, completes, holds⟩
  exact ⟨final, completes, of_decide_eq_true holds⟩

end CodeLoop
end Agent
end Rabb1tClaw
