import Rabb1tClaw.Agent.Conversation
import Rabb1tClaw.Foundations.Machine

namespace Rabb1tClaw
namespace Agent
namespace Advanced

open Foundations

/-!
# The advanced agent

The advanced agent works in steps.  Each step sends the conversation, reads
the first directive of the reply, performs it and puts what came of it into
the conversation.  A conversation that has become long is compressed: a
summary takes the place of its middle.

What a step takes from elsewhere, such as replies and the time, comes with the
action of the step.  The calls and the compressions are kept for the
statements about them.
-/

/-! ## Directives -/

inductive Directive where
  | code (description : Text)
  | search (query : Text)
  | question (question : Text)
  | done (summary : Text)
  deriving DecidableEq, Repr

def fence : Text := "```".toList

/-- A fence of another type is ignored. -/
def directive? (fenceType content : Text) : Option Directive :=
  if fenceType = "code".toList then some (.code content)
  else if fenceType = "search".toList then some (.search content)
  else if fenceType = "question".toList then some (.question content)
  else if fenceType = "done".toList then some (.done content)
  else none

/-- The loop of `parse_directives` on the text that remains, with a bound on
its passes. -/
def parseDirectivesWithin : Nat → Text → List Directive
  | 0, _ => []
  | passes + 1, remaining =>
      match cut fence remaining with
      | none => []
      | some (_, afterFence) =>
          let fenceType := Text.trim (afterFence.takeWhile (· ≠ '\n'))
          match cut fence ((afterFence.dropWhile (· ≠ '\n')).drop 1) with
          | none => parseDirectivesWithin passes afterFence
          | some (content, later) =>
              (directive? fenceType (Text.trim content)).toList ++ parseDirectivesWithin passes later

/-- Every pass consumes a fence, so that the length bounds the passes. -/
def parseDirectives (response : Text) : List Directive :=
  parseDirectivesWithin response.length response

theorem parseDirectivesWithin_succ {passes : Nat} {text : Text} (enough : text.length ≤ passes) :
    parseDirectivesWithin (passes + 1) text = parseDirectivesWithin passes text := by
  induction passes generalizing text with
  | zero =>
      rcases List.length_eq_zero_iff.mp (Nat.le_zero.mp enough) with rfl
      rfl
  | succ passes inductionHypothesis =>
      rw [parseDirectivesWithin, parseDirectivesWithin]
      cases opens : cut fence text with
      | none => rfl
      | some parts =>
          rcases parts with ⟨before, afterFence⟩
          have consumed := cut_length_lt (by decide) opens
          have shorter : afterFence.length ≤ passes := by omega
          cases closes : cut fence ((afterFence.dropWhile (· ≠ '\n')).drop 1) with
          | none =>
              simp only [closes]
              exact inductionHypothesis shorter
          | some body =>
              rcases body with ⟨content, later⟩
              have closed := cut_length_lt (by decide) closes
              have line := (List.drop_suffix 1 (afterFence.dropWhile (· ≠ '\n'))).length_le
              have body := (List.dropWhile_suffix (l := afterFence) (· ≠ '\n')).length_le
              have rest : later.length ≤ passes := by omega
              simp only [closes]
              exact congrArg _ (inductionHypothesis rest)

/-- More passes find nothing more. -/
theorem parseDirectivesWithin_eq {passes : Nat} {response : Text} (enough : response.length ≤ passes) :
    parseDirectivesWithin passes response = parseDirectives response := by
  induction passes, enough using Nat.le_induction with
  | base => rfl
  | succ passes enough inductionHypothesis => rw [parseDirectivesWithin_succ enough, inductionHypothesis]

/-! ## Compression -/

/-- `CONTEXT_COMPRESS_CHARS`. -/
def contextCompressChars : Nat := 80000

/-- `CONTEXT_KEEP_RECENT`. -/
def contextKeepRecent : Nat := 4

/-- How the request for a summary ends. -/
inductive SummaryReply where
  | noModel
  | failed
  | summary (text : Text)
  deriving DecidableEq, Repr

/-- Subtraction of sizes, which panics below zero. -/
def checkedSub (larger smaller : Nat) : Option Nat :=
  if smaller ≤ larger then some (larger - smaller) else none

/-- Where the segment to compress ends, if there is one.  Its length is odd, so
that the summary of the user is followed by a message of the assistant. -/
def compressEnd (length pinnedCount keepRecent : Nat) : Option (Option Nat) := do
  let workingLen ← checkedSub length pinnedCount
  if workingLen ≤ keepRecent + 2 then
    return none
  let recentStart ← checkedSub length keepRecent
  let compressCount ← checkedSub recentStart pinnedCount
  let stop ← if compressCount % 2 = 0 then checkedSub recentStart 1 else some recentStart
  return if stop ≤ pinnedCount then none else some stop

def summaryInput (toCompress : List ChatMessage) : Text :=
  ("Summarize the following orchestration steps into a concise progress report. ".toList ++
    "Include: what was attempted, what succeeded, what failed, key data/file paths, ".toList ++
    "and current state. Be factual and brief.\n\n".toList) ++
    toCompress.flatMap fun message =>
      "**".toList ++ message.role ++ "**: ".toList ++ message.content ++ "\n\n".toList

def summaryMessage (summary : Text) : ChatMessage :=
  .fromUser ("**Progress summary (compressed):**\n".toList ++ summary)

/-- What `compress_context` leaves, and the request that it makes. -/
structure Compressed where
  messages : List ChatMessage
  request : Option (List ChatMessage)

def compressContext (reply : SummaryReply) (messages : List ChatMessage) (pinnedCount keepRecent : Nat) :
    Option Compressed :=
  (compressEnd messages.length pinnedCount keepRecent).map fun stop =>
    match stop with
    | none => ⟨messages, none⟩
    | some stop =>
        let request := [ChatMessage.fromUser (summaryInput ((messages.take stop).drop pinnedCount))]
        match reply with
        | .noModel => ⟨messages, none⟩
        | .failed => ⟨messages, some request⟩
        | .summary text =>
            ⟨messages.take pinnedCount ++ [summaryMessage text] ++ messages.drop stop, some request⟩

/-! ## Steps -/

inductive AdvancedResult where
  | completed (summary : Text) (steps : Nat)
  | failed (error : Text) (steps : Nat)
  | panicked
  deriving DecidableEq, Repr

/-- What a step takes from elsewhere. -/
structure StepInputs where
  elapsedSecs : Nat
  response : Except Text Text
  /-- The result of a code or search subtask. -/
  subtask : Except Text Text
  remainingSecs : Nat
  answer : Option Text
  summaryReply : SummaryReply

/-- What a run takes from the configuration and the task; `truncate` cuts a
text to a number of tokens. -/
structure AdvancedSettings where
  description : Text
  maxSteps : Nat
  totalTimeoutSecs : Nat
  truncate : Text → Nat → Text

/-- A call of `compress_context` and its effect. -/
structure Compression where
  before : List ChatMessage
  pinnedCount : Nat
  after : List ChatMessage

structure AdvancedRun where
  messages : List ChatMessage
  pinnedCount : Nat
  progress : List Text
  /-- The steps begun so far. -/
  step : Nat
  result : Option AdvancedResult
  /-- The messages of the requests of the loop, in order. -/
  calls : List (List ChatMessage)
  summaryCalls : List (List ChatMessage)
  compressions : List Compression

def AdvancedSettings.taskMessage (settings : AdvancedSettings) : ChatMessage :=
  .fromUser ("## Task\n\n".toList ++ settings.description)

def AdvancedRun.start (settings : AdvancedSettings) : AdvancedRun :=
  ⟨[settings.taskMessage], 1, [], 0, none, [], [], []⟩

def number (value : Nat) : Text := Nat.toDigits 10 value

def formatErrorWithProgress (base : Text) (progress : List Text) : Text :=
  if progress = [] then base
  else base ++ " — progress: ".toList ++ List.intercalate "; ".toList progress

/-- A directive ends the run or gives a note on the progress and a message. -/
inductive DirectiveOutcome where
  | ends (result : AdvancedResult)
  | feedback (note message : Text)

def performDirective (settings : AdvancedSettings) (step : Nat) (inputs : StepInputs)
    (progress : List Text) : Directive → DirectiveOutcome
  | .done summary => .ends (.completed summary step)
  | .code taskDesc =>
      match inputs.subtask with
      | .ok output =>
          .feedback ("step ".toList ++ number step ++ " code ok: ".toList ++ settings.truncate taskDesc 50)
            ("**Code task succeeded.**\n\nOutput:\n".toList ++ output)
      | .error error =>
          .feedback ("step ".toList ++ number step ++ " code failed: ".toList ++ settings.truncate error 50)
            ("**Code task failed:** ".toList ++ error)
  | .search query =>
      match inputs.subtask with
      | .ok context =>
          .feedback ("step ".toList ++ number step ++ " search ok: ".toList ++ settings.truncate query 50)
            ("**Search results for \"".toList ++ query ++ "\":**\n\n".toList ++ context)
      | .error error =>
          .feedback ("step ".toList ++ number step ++ " search failed: ".toList ++ settings.truncate error 50)
            ("**Search failed for \"".toList ++ query ++ "\":** ".toList ++ error)
  | .question _ =>
      match inputs.answer with
      | some answer =>
          .feedback ("step ".toList ++ number step ++ " question answered".toList)
            ("**User answer:** ".toList ++ answer)
      | none =>
          let base := "no answer within ".toList ++ number inputs.remainingSecs ++ "s".toList
          .ends (.failed (formatErrorWithProgress base progress) step)

def totalChars (messages : List ChatMessage) : Nat :=
  messages.foldl (fun total message => total + Text.len message.content) 0

/-- The check at the end of a step. -/
def AdvancedRun.checkContext (run : AdvancedRun) (reply : SummaryReply) : AdvancedRun :=
  if contextCompressChars < totalChars run.messages then
    match compressContext reply run.messages run.pinnedCount contextKeepRecent with
    | none => { run with result := some .panicked }
    | some compressed =>
        { run with
          messages := compressed.messages
          summaryCalls := run.summaryCalls ++ compressed.request.toList
          compressions := run.compressions ++ [⟨run.messages, run.pinnedCount, compressed.messages⟩] }
  else
    run

/-- What follows a reply. -/
def AdvancedRun.onResponse (run : AdvancedRun) (settings : AdvancedSettings) (inputs : StepInputs)
    (response : Text) : AdvancedRun :=
  let run := { run with
    messages := run.messages ++ [ChatMessage.fromAssistant response]
    pinnedCount := if run.step = 1 then 2 else run.pinnedCount }
  match parseDirectives response with
  | [] =>
      { run with messages := run.messages ++
          [ChatMessage.fromUser "Continue. Emit a ```code, ```search, ```question, or ```done directive.".toList] }
  | directive :: _ =>
      match performDirective settings run.step inputs run.progress directive with
      | .ends result => { run with result := some result }
      | .feedback note message =>
          { run with
            progress := run.progress ++ [note]
            messages := run.messages ++ [ChatMessage.fromUser message] }.checkContext inputs.summaryReply

/-- One pass through the loop. -/
def AdvancedRun.iterate (run : AdvancedRun) (settings : AdvancedSettings) (inputs : StepInputs) :
    AdvancedRun :=
  let run := { run with step := run.step + 1 }
  if settings.totalTimeoutSecs ≤ inputs.elapsedSecs then
    let base := "total timeout (".toList ++ number settings.totalTimeoutSecs ++ "s) exceeded".toList
    { run with result := some (.failed (formatErrorWithProgress base run.progress) run.step) }
  else
    let run := { run with calls := run.calls ++ [run.messages] }
    match inputs.response with
    | .error error => { run with result := some (.failed error run.step) }
    | .ok response => run.onResponse settings inputs response

inductive AdvancedStep where
  | iterate (inputs : StepInputs)
  /-- The steps are used up. -/
  | exhaust

/-- `run_inner`. -/
def orchestration (settings : AdvancedSettings) : Machine AdvancedRun AdvancedStep where
  step run
    | .iterate inputs =>
        if run.result = none ∧ run.step < settings.maxSteps then some (run.iterate settings inputs) else none
    | .exhaust =>
        if run.result = none ∧ run.step = settings.maxSteps then
          let base := "max steps (".toList ++ number settings.maxSteps ++ ") exceeded".toList
          some { run with
            result := some (.failed (formatErrorWithProgress base run.progress) settings.maxSteps) }
        else
          none

/-! ## What a compression does -/

/-- A summary takes the place of what is between the pinned and the recent
messages. -/
def Summarizes (pinnedCount keepRecent : Nat) (before after : List ChatMessage) : Prop :=
  ∃ pinned middle recent summary, before = pinned ++ middle ++ recent ∧
    after = pinned ++ [summaryMessage summary] ++ recent ∧ pinned.length = pinnedCount ∧
    keepRecent ≤ recent.length ∧ middle.length % 2 = 1 ∧ 1 < middle.length

/-- The list stays as it is, or becomes shorter by a summary of its middle. -/
def Compression.Sound (compression : Compression) : Prop :=
  compression.after = compression.before ∨
    Summarizes compression.pinnedCount contextKeepRecent compression.before compression.after ∧
      compression.after.length < compression.before.length

theorem Summarizes.shorter {pinnedCount keepRecent : Nat} {before after : List ChatMessage}
    (summarizes : Summarizes pinnedCount keepRecent before after) : after.length < before.length := by
  rcases summarizes with ⟨pinned, middle, recent, summary, rfl, rfl, _, _, _, several⟩
  simp only [List.length_append, List.length_singleton]
  omega

/-- The arithmetic of the bounds never underflows, and a segment that is
compressed has odd length. -/
theorem compressEnd_cases {length pinnedCount : Nat} (keepRecent : Nat) (within : pinnedCount ≤ length) :
    compressEnd length pinnedCount keepRecent = some none ∨
      ∃ stop, compressEnd length pinnedCount keepRecent = some (some stop) ∧ pinnedCount + 1 < stop ∧
        stop + keepRecent ≤ length ∧ (stop - pinnedCount) % 2 = 1 := by
  have working : checkedSub length pinnedCount = some (length - pinnedCount) := if_pos within
  by_cases short : length - pinnedCount ≤ keepRecent + 2
  · refine .inl ?_
    simp only [compressEnd, working, Option.bind_eq_bind, Option.bind_some, if_pos short]
    rfl
  · have recent : checkedSub length keepRecent = some (length - keepRecent) := if_pos (by omega)
    have count : checkedSub (length - keepRecent) pinnedCount = some (length - keepRecent - pinnedCount) :=
      if_pos (by omega)
    have last : checkedSub (length - keepRecent) 1 = some (length - keepRecent - 1) := if_pos (by omega)
    refine .inr ?_
    simp only [compressEnd, working, recent, count, last, Option.bind_eq_bind, Option.bind_some,
      if_neg short]
    rcases Nat.mod_two_eq_zero_or_one (length - keepRecent - pinnedCount) with even | odd
    · refine ⟨length - keepRecent - 1, ?_, by omega, by omega, by omega⟩
      rw [if_pos even, if_neg (by omega)]
      rfl
    · refine ⟨length - keepRecent, ?_, by omega, by omega, odd⟩
      rw [if_neg (by omega), if_neg (by omega)]
      rfl

theorem compressContext_spec (reply : SummaryReply) {messages : List ChatMessage} {pinnedCount : Nat}
    (keepRecent : Nat) (within : pinnedCount ≤ messages.length) :
    ∃ compressed, compressContext reply messages pinnedCount keepRecent = some compressed ∧
      (∀ request ∈ compressed.request, ∃ content, request = [.fromUser content]) ∧
      (compressed.messages = messages ∨ Summarizes pinnedCount keepRecent messages compressed.messages) := by
  rw [compressContext]
  rcases compressEnd_cases keepRecent within with none | ⟨stop, some, after, before, odd⟩
  · rw [none]
    exact ⟨_, rfl, by rintro _ ⟨⟩, .inl rfl⟩
  · rw [some, Option.map_some]
    cases reply with
    | noModel => exact ⟨_, rfl, by rintro _ ⟨⟩, .inl rfl⟩
    | failed => exact ⟨_, rfl, by rintro _ ⟨⟩; exact ⟨_, rfl⟩, .inl rfl⟩
    | summary text =>
        refine ⟨_, rfl, by rintro _ ⟨⟩; exact ⟨_, rfl⟩, .inr ?_⟩
        refine ⟨messages.take pinnedCount, (messages.take stop).drop pinnedCount, messages.drop stop, text,
          ?_, rfl, List.length_take_of_le within, ?_, ?_, ?_⟩
        · have front : messages.take pinnedCount = (messages.take stop).take pinnedCount := by
            rw [List.take_take, Nat.min_eq_left (by omega)]
          rw [front, List.take_append_drop, List.take_append_drop]
        · rw [List.length_drop]
          omega
        · rw [List.length_drop, List.length_take_of_le (by omega)]
          exact odd
        · rw [List.length_drop, List.length_take_of_le (by omega)]
          omega

/-- A compression keeps the form of a conversation of which task and plan are
pinned. -/
theorem Summarizes.wellFormed {keepRecent : Nat} {before after : List ChatMessage}
    (summarizes : Summarizes 2 keepRecent before after) (formed : ChatMessage.WellFormed before) :
    ChatMessage.WellFormed after := by
  rcases summarizes with ⟨pinned, middle, recent, summary, rfl, rfl, two, _, odd, _⟩
  rcases ChatMessage.wellFormed_iff.mp formed with ⟨turns, length⟩
  refine ChatMessage.wellFormed_iff.mpr ⟨turns.replace odd ?_, ?_⟩
  · rw [two]
    rfl
  · simp only [List.length_append, List.length_singleton] at length ⊢
    omega

theorem Summarizes.keeps_pinned {pinnedCount keepRecent : Nat} {before after opening : List ChatMessage}
    (summarizes : Summarizes pinnedCount keepRecent before after) (opens : opening <+: before)
    (short : opening.length ≤ pinnedCount) : opening <+: after := by
  rcases summarizes with ⟨pinned, middle, recent, summary, rfl, rfl, same, _, _, _⟩
  rw [List.append_assoc] at opens ⊢
  have pinnedOpening : opening <+: pinned :=
    List.prefix_of_prefix_length_le opens (List.prefix_append _ _) (same ▸ short)
  exact pinnedOpening.trans (List.prefix_append _ _)

/-! ## Runs -/

/-- The reply to the first request. -/
def firstReply : List AdvancedStep → Option Text
  | .iterate inputs :: _ => inputs.response.toOption
  | _ => none

/-- A request opens with the task and, after the first, the plan. -/
def Opens (settings : AdvancedSettings) (past : List AdvancedStep) (earlier : Nat)
    (messages : List ChatMessage) : Prop :=
  [⟨"user".toList, "## Task\n\n".toList ++ settings.description⟩] <+: messages ∧
    (0 < earlier → ∃ reply, firstReply past = some reply ∧
      [⟨"user".toList, "## Task\n\n".toList ++ settings.description⟩, .fromAssistant reply] <+: messages)

theorem firstReply_append {past : List AdvancedStep} {reply : Text} (first : firstReply past = some reply)
    (later : List AdvancedStep) : firstReply (past ++ later) = some reply := by
  cases past with
  | nil => cases first
  | cons action past => cases action <;> exact first

section

variable {settings : AdvancedSettings} {past : List AdvancedStep} {run : AdvancedRun}

theorem Opens.later {earlier : Nat} {messages : List ChatMessage} (opens : Opens settings past earlier messages)
    (later : List AdvancedStep) : Opens settings (past ++ later) earlier messages := by
  refine ⟨opens.1, fun positive => ?_⟩
  rcases opens.2 positive with ⟨reply, first, plan⟩
  exact ⟨reply, firstReply_append first later, plan⟩

/-- What holds between two steps. -/
structure Ready (settings : AdvancedSettings) (past : List AdvancedStep) (run : AdvancedRun) : Prop where
  formed : ChatMessage.WellFormed run.messages
  opens : Opens settings past run.step run.messages
  fresh : run.step = 0 → past = [] ∧ run.messages = [settings.taskMessage]
  pinned : 0 < run.step → run.pinnedCount = 2
  callCount : run.calls.length = run.step

/-- What holds of the calls and compressions, also after the last step. -/
structure Kept (settings : AdvancedSettings) (past : List AdvancedStep) (run : AdvancedRun) : Prop where
  calls : ∀ index call, run.calls[index]? = some call →
    ChatMessage.WellFormed call ∧ Opens settings past index call
  summaries : ∀ call ∈ run.summaryCalls, ChatMessage.WellFormed call
  compressions : ∀ compression ∈ run.compressions, compression.Sound
  intact : run.result ≠ some .panicked

structure Orderly (settings : AdvancedSettings) (past : List AdvancedStep) (run : AdvancedRun) : Prop
    extends Kept settings past run where
  ready : run.result = none → Ready settings past run

theorem orderly_start : Orderly settings [] (.start settings) where
  calls := by rintro index call ⟨⟩
  summaries := by rintro call ⟨⟩
  compressions := by rintro compression ⟨⟩
  intact := by rintro ⟨⟩
  ready := fun _ => {
    formed := ChatMessage.wellFormed_question _
    opens := ⟨List.prefix_refl _, fun positive => absurd positive (Nat.lt_irrefl 0)⟩
    fresh := fun _ => ⟨rfl, rfl⟩
    pinned := fun positive => absurd positive (Nat.lt_irrefl 0)
    callCount := rfl }

theorem Kept.later (kept : Kept settings past run) (later : List AdvancedStep) :
    Kept settings (past ++ later) run where
  calls := fun index call found => ⟨(kept.calls index call found).1, (kept.calls index call found).2.later later⟩
  summaries := kept.summaries
  compressions := kept.compressions
  intact := kept.intact

/-- A run that ends keeps its calls. -/
theorem Kept.ended (kept : Kept settings past run) {result : AdvancedResult} (intact : result ≠ .panicked) :
    Orderly settings past { run with result := some result } where
  calls := kept.calls
  summaries := kept.summaries
  compressions := kept.compressions
  intact := fun panicked => intact (Option.some.inj panicked)
  ready := by rintro ⟨⟩

/-- The request of a step is sent. -/
theorem Ready.called {later : List AdvancedStep} (ready : Ready settings past run)
    (kept : Kept settings (past ++ later) run) :
    Kept settings (past ++ later)
      { run with step := run.step + 1, calls := run.calls ++ [run.messages] } := by
  refine { kept with calls := fun index call found => ?_ }
  rcases Nat.lt_or_ge index run.calls.length with earlier | now
  · rw [List.getElem?_append_left earlier] at found
    exact kept.calls index call found
  · rw [List.getElem?_append_right now, List.getElem?_singleton] at found
    rcases Option.ite_none_right_eq_some.mp found with ⟨last, same⟩
    rcases Option.some.inj same with rfl
    have latest : index = run.step := by
      rw [← ready.callCount]
      omega
    exact ⟨ready.formed, latest ▸ ready.opens.later later⟩

/-- The first two messages do not change any more when a reply and its answer
follow. -/
theorem Ready.opens_exchange (ready : Ready settings past run) {inputs : StepInputs} {reply : Text}
    (replied : inputs.response = .ok reply) (answer : Text) :
    Opens settings (past ++ [.iterate inputs]) (run.step + 1)
      (run.messages ++ [.fromAssistant reply, .fromUser answer]) := by
  refine ⟨ready.opens.1.trans (List.prefix_append _ _), fun _ => ?_⟩
  rcases Nat.eq_zero_or_pos run.step with first | positive
  · rcases ready.fresh first with ⟨rfl, task⟩
    refine ⟨reply, ?_, ?_⟩
    · rw [List.nil_append, firstReply, replied]
      rfl
    · rw [task]
      exact ⟨[.fromUser answer], rfl⟩
  · rcases ready.opens.2 positive with ⟨plan, first, opens⟩
    exact ⟨plan, firstReply_append first _, opens.trans (List.prefix_append _ _)⟩

/-- A step that does not end leaves a reply and its answer. -/
theorem Ready.exchange (ready : Ready settings past run) {inputs : StepInputs} {reply : Text}
    (replied : inputs.response = .ok reply) (answer : Text) (progress : List Text) :
    Ready settings (past ++ [.iterate inputs]) { run with
      messages := run.messages ++ [.fromAssistant reply] ++ [.fromUser answer]
      pinnedCount := if run.step + 1 = 1 then 2 else run.pinnedCount
      progress
      step := run.step + 1
      calls := run.calls ++ [run.messages] } where
  formed := by
    rw [List.append_assoc]
    exact ready.formed.exchange reply answer
  opens := by
    rw [List.append_assoc]
    exact ready.opens_exchange replied answer
  fresh := fun first => absurd first (Nat.succ_ne_zero _)
  pinned := fun _ => by
    rcases Nat.eq_zero_or_pos run.step with first | positive
    · rw [first, if_pos rfl]
    · rw [if_neg (by omega)]
      exact ready.pinned positive
  callCount := by rw [List.length_append, ready.callCount, List.length_singleton]

/-- The check of the context keeps everything. -/
theorem Orderly.checkContext (kept : Kept settings past run) (ready : Ready settings past run)
    (begun : 0 < run.step) (reply : SummaryReply) : Orderly settings past (run.checkContext reply) := by
  rw [AdvancedRun.checkContext]
  split
  · rcases ready.opens.2 begun with ⟨plan, first, opens⟩
    have two := ready.pinned begun
    have within : run.pinnedCount ≤ run.messages.length := by
      rw [two]
      exact opens.length_le
    rcases compressContext_spec reply contextKeepRecent within with
      ⟨compressed, compresses, requests, effect⟩
    rw [compresses]
    refine { kept with summaries := ?_, compressions := ?_, ready := fun _ => { ready with
      formed := ?_, opens := ?_, fresh := fun first => absurd first (Nat.ne_of_gt begun) } }
    · intro call member
      rcases List.mem_append.mp member with earlier | now
      · exact kept.summaries call earlier
      · rcases requests call (Option.mem_toList.mp now) with ⟨content, rfl⟩
        exact ChatMessage.wellFormed_question content
    · intro compression member
      rcases List.mem_append.mp member with earlier | now
      · exact kept.compressions compression earlier
      · rcases List.mem_singleton.mp now with rfl
        exact effect.imp_right fun summarizes => ⟨summarizes, summarizes.shorter⟩
    · rcases effect with same | summarizes
      · exact same ▸ ready.formed
      · exact (two ▸ summarizes).wellFormed ready.formed
    · rcases effect with same | summarizes
      · exact same ▸ ready.opens
      · rw [two] at summarizes
        refine ⟨summarizes.keeps_pinned ready.opens.1 (Nat.le_succ 1), fun positive => ?_⟩
        rcases ready.opens.2 positive with ⟨plan, first, opens⟩
        exact ⟨plan, first, summarizes.keeps_pinned opens (Nat.le_refl 2)⟩
  · exact ⟨kept, fun _ => ready⟩

theorem performDirective_intact {step : Nat} {inputs : StepInputs} {progress : List Text}
    {directive : Directive} {result : AdvancedResult}
    (ends : performDirective settings step inputs progress directive = .ends result) :
    result ≠ .panicked := by
  revert ends
  cases directive with
  | done summary =>
      rintro ⟨⟩
      rintro ⟨⟩
  | code taskDesc => cases responded : inputs.subtask <;> simp [performDirective, responded]
  | search query => cases responded : inputs.subtask <;> simp [performDirective, responded]
  | question question =>
      cases answered : inputs.answer with
      | none =>
          simp only [performDirective, answered]
          rintro ⟨⟩
          rintro ⟨⟩
      | some answer => simp [performDirective, answered]

/-- What one pass through the loop keeps. -/
theorem Orderly.iterate (orderly : Orderly settings past run) (goes : run.result = none)
    (inputs : StepInputs) :
    Orderly settings (past ++ [.iterate inputs]) (run.iterate settings inputs) := by
  have ready := orderly.ready goes
  have kept := orderly.toKept.later [.iterate inputs]
  rw [AdvancedRun.iterate]
  split
  · exact { kept with intact := by rintro ⟨⟩, ready := by rintro ⟨⟩ }
  · have called := ready.called kept
    cases replied : inputs.response with
    | error error => exact called.ended (by rintro ⟨⟩)
    | ok response =>
        have exchanged := ready.exchange replied
        simp only [AdvancedRun.onResponse]
        split
        · exact { called with ready := fun _ => exchanged _ _ }
        · rename_i directive _ _
          split
          · rename_i result ends
            exact { called with
              intact := fun panicked => performDirective_intact ends (Option.some.inj panicked)
              ready := by rintro ⟨⟩ }
          · refine Orderly.checkContext ?_ (exchanged _ _) (Nat.succ_pos _) _
            exact { called with }

theorem Orderly.step {action : AdvancedStep} {next : AdvancedRun} (orderly : Orderly settings past run)
    (steps : (orchestration settings).step run action = some next) :
    Orderly settings (past ++ [action]) next := by
  cases action with
  | iterate inputs =>
      rcases Option.ite_none_right_eq_some.mp steps with ⟨goes, same⟩
      rcases Option.some.inj same with rfl
      exact orderly.iterate goes.1 inputs
  | exhaust =>
      rcases Option.ite_none_right_eq_some.mp steps with ⟨goes, same⟩
      rcases Option.some.inj same with rfl
      exact (orderly.toKept.later [.exhaust]).ended (by rintro ⟨⟩)

/-- In every run the requests are well formed, open with the task and the
plan, and compressions only replace the middle of the conversation. -/
theorem orchestration_wellFormed {schedule : List AdvancedStep} {final : AdvancedRun}
    (runs : (orchestration settings).run (.start settings) schedule = some final) :
    final.result ≠ some .panicked ∧
      (∀ index call, final.calls[index]? = some call →
        ChatMessage.WellFormed call ∧ Opens settings schedule index call) ∧
      (∀ call ∈ final.summaryCalls, ChatMessage.WellFormed call) ∧
      ∀ compression ∈ final.compressions, compression.Sound := by
  have preserved : ∀ past state action next, Orderly settings past state →
      (orchestration settings).step state action = some next → Orderly settings (past ++ [action]) next :=
    fun _ _ _ _ orderly steps => orderly.step steps
  have orderly : Orderly settings schedule final :=
    Machine.run_invariant preserved [] orderly_start runs
  exact ⟨orderly.intact, orderly.calls, orderly.summaries, orderly.compressions⟩

end

def sampleSettings : AdvancedSettings := ⟨"find the release".toList, 3, 600, fun text _ => text⟩

/-- The inputs of a step that searches, if it does. -/
def sampleInputs (response : Text) : StepInputs :=
  ⟨0, .ok response, .ok "1.0".toList, 600, none, .noModel⟩

/-- A run that plans a search and is done. -/
def searchAndDone : List AdvancedStep :=
  [.iterate (sampleInputs "```search\nrelease\n```".toList),
    .iterate (sampleInputs "```done\n1.0\n```".toList)]

theorem searchAndDone_run :
    ((orchestration sampleSettings).run (.start sampleSettings) searchAndDone).any (fun final =>
      final.result = some (.completed "1.0".toList 2) ∧ final.calls.length = 2) = true := by
  decide +kernel

theorem orchestration_searchAndDone :
    ∃ final, (orchestration sampleSettings).run (.start sampleSettings) searchAndDone = some final ∧
      final.calls.length = 2 ∧ ∀ call ∈ final.calls, ChatMessage.WellFormed call := by
  rcases (Option.any_eq_true _ _).mp searchAndDone_run with ⟨final, runs, holds⟩
  rcases of_decide_eq_true holds with ⟨_, two⟩
  refine ⟨final, runs, two, fun call member => ?_⟩
  rcases List.getElem?_of_mem member with ⟨index, found⟩
  exact ((orchestration_wellFormed runs).2.1 index call found).1

end Advanced
end Agent
end Rabb1tClaw
