import Rabb1tClaw.Agent.Delivery
import Rabb1tClaw.Protocol.Frames

namespace Rabb1tClaw
namespace Agent

open Foundations
open Protocol
open Provider (StreamChunk)

/-!
# The events of a run

`emit_stream_delta`, `emit_stream_done` and `emit_run_error` turn the calls of
a run into frames for the device.  The sequence number counts the deltas; the
two terminal events take the next two numbers.

Every emission of a run has a sequence number of its own, so the time of an
emission is a function of that number.  The run starts at the time of zero.
-/

/-! ## Frames -/

/-- The payload of an `agent` event. -/
def agentEvent (runId : Text) (seq : Nat) (stream : Text) (now : UInt64) (data : JsonValue) : OutgoingFrame :=
  .event ((EventFrame.new "agent".toList).withPayload (.object
    [("runId".toList, .string runId), ("seq".toList, unsigned (UInt64.ofNat seq)),
      ("stream".toList, .string stream), ("ts".toList, unsigned now), ("data".toList, data)]))

/-- The payload of a `chat` event, with the fields behind the sequence
number. -/
def chatEvent (runId sessionKey : Text) (seq : Nat) (fields : List (Text × JsonValue)) : OutgoingFrame :=
  .event ((EventFrame.new "chat".toList).withPayload (.object
    ([("runId".toList, .string runId), ("sessionKey".toList, .string sessionKey),
      ("seq".toList, unsigned (UInt64.ofNat seq))] ++ fields)))

def lifecycleStartEvent (runId : Text) (startedAt : UInt64) : OutgoingFrame :=
  agentEvent runId 0 "lifecycle".toList startedAt (.object
    [("phase".toList, .string "start".toList), ("startedAt".toList, unsigned startedAt)])

def agentDelta (runId : Text) (seq : Nat) (now : UInt64) (delta : Text) : OutgoingFrame :=
  agentEvent runId seq "assistant".toList now (.object [("delta".toList, .string delta)])

def chatDelta (runId sessionKey : Text) (seq : Nat) (delta : Text) : OutgoingFrame :=
  chatEvent runId sessionKey seq
    [("state".toList, .string "delta".toList), ("delta".toList, .string delta)]

def agentEnd (runId : Text) (seq : Nat) (startedAt endedAt : UInt64) : OutgoingFrame :=
  agentEvent runId seq "lifecycle".toList endedAt (.object
    [("phase".toList, .string "end".toList), ("startedAt".toList, unsigned startedAt),
      ("endedAt".toList, unsigned endedAt)])

def textContent (text : Text) : JsonValue :=
  .array [.object [("type".toList, .string "text".toList), ("text".toList, .string text)]]

def chatFinal (runId sessionKey : Text) (seq : Nat) (endedAt : UInt64) (fullResponse : Text) :
    OutgoingFrame :=
  chatEvent runId sessionKey seq
    [("state".toList, .string "final".toList), ("message".toList, .object
      [("role".toList, .string "assistant".toList), ("content".toList, textContent fullResponse),
        ("timestamp".toList, unsigned endedAt)])]

def okResponse (runId requestId fullResponse : Text) : ResponseFrame :=
  .success requestId (.object
    [("runId".toList, .string runId), ("status".toList, .string "ok".toList),
      ("summary".toList, .string "completed".toList),
      ("result".toList, .object [("assistantTexts".toList, .array [.string fullResponse])])])

def agentError (runId : Text) (seq : Nat) (endedAt : UInt64) (message : Text) : OutgoingFrame :=
  agentEvent runId seq "lifecycle".toList endedAt (.object
    [("phase".toList, .string "error".toList), ("error".toList, .string message)])

/-- `DEFAULT_SESSION_KEY`. -/
def defaultSessionKey : Text := "default:main".toList

def chatError (runId : Text) (seq : Nat) (message : Text) : OutgoingFrame :=
  chatEvent runId defaultSessionKey seq
    [("state".toList, .string "error".toList), ("errorMessage".toList, .string message)]

def errorResponse (requestId message : Text) : ResponseFrame :=
  .failure requestId (.unavailable message)

/-! ## Emission -/

def emitStreamDelta (runId sessionKey : Text) (seq : Nat) (now : UInt64) (delta : Text) :
    List OutgoingFrame :=
  [agentDelta runId seq now delta, chatDelta runId sessionKey seq delta]

def emitStreamDone (runId requestId sessionKey : Text) (seq : Nat) (startedAt endedAt : UInt64)
    (fullResponse : Text) : List OutgoingFrame :=
  [agentEnd runId seq startedAt endedAt, chatFinal runId sessionKey (seq + 1) endedAt fullResponse,
    .response (okResponse runId requestId fullResponse)]

def emitRunError (runId requestId : Text) (seq : Nat) (endedAt : UInt64) (message : Text) :
    List OutgoingFrame :=
  [agentError runId seq endedAt message, chatError runId (seq + 1) message,
    .response (errorResponse requestId message)]

/-- The frames of a call; the other calls go to the gateway. -/
def RunEffect.frames (clock : Nat → UInt64) : RunEffect → List OutgoingFrame
  | lifecycleStart runId => [lifecycleStartEvent runId (clock 0)]
  | streamDelta runId sessionKey seq delta => emitStreamDelta runId sessionKey seq (clock seq) delta
  | streamDone runId requestId sessionKey seq fullResponse =>
      emitStreamDone runId requestId sessionKey seq (clock 0) (clock seq) fullResponse
  | runError runId requestId seq message => emitRunError runId requestId seq (clock seq) message
  | recordMessage .. | dispatchBackgroundAgents .. | release _ => []

/-- The frames that a run sends. -/
def RunTrace.frames (clock : Nat → UInt64) (trace : RunTrace) : List OutgoingFrame :=
  trace.effects.flatMap (RunEffect.frames clock)

/-! ## Sequence numbers -/

/-- The calls for some deltas, from a sequence number on. -/
def numberedDeltas (job : StreamJob) (first : Nat) (deltas : List Text) : List RunEffect :=
  (deltas.zipIdx first).map fun entry =>
    .streamDelta job.runId job.sessionKey entry.2 entry.1

/-- A loop that has started its run and sent some deltas. -/
structure Sequenced (job : StreamJob) (loop : ChunkLoop) (deltas : List Text) : Prop where
  seq : loop.seq = deltas.length + 1
  effects : loop.effects = .lifecycleStart job.runId :: numberedDeltas job 1 deltas
  nonempty : ∀ delta ∈ deltas, delta ≠ []

section

variable {job : StreamJob}

theorem sequenced_initial : Sequenced job (.initial job) [] := ⟨rfl, rfl, by simp⟩

theorem sequenced_emitDelta {loop : ChunkLoop} {deltas : List Text} (sequenced : Sequenced job loop deltas)
    {delta : Text} (nonempty : delta ≠ []) :
    Sequenced job (loop.emitDelta job delta) (deltas ++ [delta]) where
  seq := by simp only [ChunkLoop.emitDelta, sequenced.seq, List.length_append, List.length_singleton]
  effects := by
    simp only [ChunkLoop.emitDelta, sequenced.effects, sequenced.seq, numberedDeltas,
      List.zipIdx_append, List.map_append, List.cons_append, Nat.add_comm 1]
    rfl
  nonempty := by
    intro other member
    rcases List.mem_append.mp member with early | late
    · exact sequenced.nonempty other early
    · rwa [List.mem_singleton.mp late]

theorem sequenced_foldl {loop : ChunkLoop} {deltas : List Text} (sequenced : Sequenced job loop deltas)
    {sent : List Text} (nonempty : ∀ delta ∈ sent, delta ≠ []) :
    Sequenced job (sent.foldl (ChunkLoop.emitDelta job) loop) (deltas ++ sent) := by
  induction sent generalizing loop deltas with
  | nil => rwa [List.append_nil]
  | cons delta sent inductionHypothesis =>
      have here := sequenced_emitDelta sequenced (nonempty delta List.mem_cons_self)
      have later := inductionHypothesis here
        (fun other member => nonempty other (List.mem_cons_of_mem delta member))
      rwa [List.append_assoc] at later

/-- The think block extends the response, and changes nothing else that a
delta depends on. -/
theorem accumulate_keeps {loop grown : ChunkLoop} {text : Text} {drains : Bool}
    (accumulated : loop.accumulate text = some (grown, drains)) :
    grown.seq = loop.seq ∧ grown.effects = loop.effects ∧ grown.markerFilter = loop.markerFilter ∧
      ∃ more, grown.fullResponse = loop.fullResponse ++ more := by
  unfold ChunkLoop.accumulate at accumulated
  split at accumulated
  · cases accumulated
    exact ⟨rfl, rfl, rfl, _, rfl⟩
  · rcases Option.map_eq_some_iff.mp accumulated with ⟨result, _, equal⟩
    cases result with
    | pending =>
        cases equal
        exact ⟨rfl, rfl, rfl, [], (List.append_nil _).symm⟩
    | passThrough | stripped _ =>
        cases equal
        exact ⟨rfl, rfl, rfl, _, rfl⟩

/-- The filter of a loop stands inside its response. -/
theorem absorbed_filter {loop : ChunkLoop} {text : Text} (absorbed : Absorbed loop text) :
    ∃ before rest eating, loop.fullResponse = before ++ rest ∧
      loop.markerFilter = ⟨before.len, eating⟩ := by
  cases absorbed with
  | undecided _ _ empty fresh _ _ _ => exact ⟨[], [], false, empty, fresh⟩
  | decided _ _ filtered _ =>
      rcases filtered with ⟨before, rest, eating, whole, filter, _⟩
      exact ⟨before, rest, eating, whole, filter⟩

/-- Step lemma: a chunk adds deltas, and none of them is empty. -/
theorem sequenced_onText {loop next : ChunkLoop} {text chunk : Text} {deltas : List Text}
    (absorbed : Absorbed loop text) (sequenced : Sequenced job loop deltas)
    (step : loop.onText job chunk = .returned next) :
    ∃ more, Sequenced job next (deltas ++ more) := by
  unfold ChunkLoop.onText at step
  cases accumulated : loop.accumulate chunk with
  | none => simp [accumulated, Outcome.ofOption, Outcome.bind] at step
  | some pair =>
      rcases pair with ⟨grown, drains⟩
      rcases accumulate_keeps accumulated with ⟨seq, effects, filter, more, grows⟩
      have kept : Sequenced job grown deltas :=
        ⟨seq.trans sequenced.seq, effects.trans sequenced.effects, sequenced.nonempty⟩
      rw [accumulated, Outcome.ofOption_some, Outcome.bind_returned] at step
      cases drains with
      | false =>
          rcases Outcome.returned.inj step with rfl
          exact ⟨[], by rwa [List.append_nil]⟩
      | true =>
          rcases absorbed_filter absorbed with ⟨before, rest, eating, whole, here⟩
          have whole' : grown.fullResponse = before ++ (rest ++ more) := by
            rw [grows, whole, List.append_assoc]
          rcases drain_spec before (rest ++ more) whole' eating with
            ⟨before', _, eating', sent, _, drained, effect⟩
          have returned : drain grown.markerFilter grown.fullResponse =
              .returned ⟨⟨before'.len, eating'⟩, sent⟩ := by
            rw [filter, here, drained]
          simp only [returned, Outcome.map_returned] at step
          rcases Outcome.returned.inj step with rfl
          have refiltered : Sequenced job { grown with markerFilter := ⟨before'.len, eating'⟩ } deltas :=
            ⟨kept.seq, kept.effects, kept.nonempty⟩
          exact ⟨sent, sequenced_foldl refiltered effect.nonempty⟩

/-- Run lemma: any chunks lead to a loop that has sent some deltas. -/
theorem sequenced_onTexts {loop : ChunkLoop} {text : Text} {deltas : List Text}
    (absorbed : Absorbed loop text) (sequenced : Sequenced job loop deltas) (chunks : List Text) :
    ∃ next more, loop.onTexts job chunks = .returned next ∧ Absorbed next (text ++ chunks.flatten) ∧
      Sequenced job next (deltas ++ more) := by
  induction chunks generalizing loop text deltas with
  | nil => exact ⟨loop, [], rfl, by simpa using absorbed, by rwa [List.append_nil]⟩
  | cons chunk chunks inductionHypothesis =>
      rcases absorbed_onText job absorbed chunk with ⟨middle, step, absorbed'⟩
      rcases sequenced_onText absorbed sequenced step with ⟨first, sequenced'⟩
      rcases inductionHypothesis absorbed' sequenced' with ⟨next, more, run, absorbed'', sequenced''⟩
      refine ⟨next, first ++ more, ?_, ?_, ?_⟩
      · rw [ChunkLoop.onTexts, step, Outcome.bind_returned, run]
      · rwa [List.flatten_cons, ← List.append_assoc]
      · rwa [← List.append_assoc]

/-- The flush sends one more delta, or none. -/
theorem sequenced_flush {loop : ChunkLoop} {text : Text} {deltas : List Text}
    (absorbed : Absorbed loop text) (sequenced : Sequenced job loop deltas) :
    ∃ remaining filter more, flush loop.markerFilter loop.responseAtDone = some (remaining, filter) ∧
      Sequenced job (remaining.elim loop (loop.emitDelta job)) (deltas ++ more) := by
  have sent : ∃ remaining filter, flush loop.markerFilter loop.responseAtDone = some (remaining, filter) ∧
      ∀ delta ∈ remaining, delta ≠ [] := by
    cases absorbed with
    | decided done _ filtered _ =>
        rcases filtered with ⟨before, rest, eating, whole, filter, drained⟩
        rcases flush_spec before rest whole drained with ⟨remaining, flushed, flushes, _, clean⟩
        have full : loop.responseAtDone = loop.fullResponse := by
          simp [ChunkLoop.responseAtDone, done]
        exact ⟨remaining, flushed, by rw [full, filter, flushes], fun delta member => (clean delta member).1⟩
    | undecided _ _ _ fresh _ _ _ =>
        rcases flush_new loop.responseAtDone with ⟨filter, flushes⟩
        refine ⟨_, filter, by rw [fresh, flushes], ?_⟩
        intro delta member
        split at member
        · cases member
        · rename_i nonempty
          exact Option.mem_some.mp member ▸ nonempty
  rcases sent with ⟨remaining, filter, flushes, nonempty⟩
  cases remaining with
  | none => exact ⟨none, filter, [], flushes, by rwa [List.append_nil]⟩
  | some delta =>
      exact ⟨some delta, filter, [delta], flushes, sequenced_emitDelta sequenced (nonempty delta rfl)⟩

/-- The frames of the deltas, from a sequence number on. -/
theorem frames_numberedDeltas (clock : Nat → UInt64) (first : Nat) (deltas : List Text) :
    (numberedDeltas job first deltas).flatMap (RunEffect.frames clock) =
      (deltas.zipIdx first).flatMap fun entry =>
        [agentDelta job.runId entry.2 (clock entry.2) entry.1,
          chatDelta job.runId job.sessionKey entry.2 entry.1] := by
  rw [numberedDeltas, List.flatMap_map]
  rfl

theorem frames_recordExchange (clock : Nat → UInt64) (full clean : Text) :
    (ChunkLoop.recordExchange job full clean).flatMap (RunEffect.frames clock) = [] := by
  unfold ChunkLoop.recordExchange
  split <;> rfl

end

/-! ## The whole sequence -/

/-- What a provider does for a run, with a terminal chunk or without a
start. -/
inductive ProviderOutcome where
  | finished (texts : List Text)
  | failed (texts : List Text) (message : Text)
  | unstarted (message : Text)
  deriving DecidableEq, Repr

/-- What the run receives. -/
def ProviderOutcome.streamed : ProviderOutcome → Except Text (List StreamChunk)
  | finished texts => finishedStream texts
  | failed texts message => .ok (texts.map .text ++ [.error message])
  | unstarted message => .error message

/-- The last three frames of a run that has sent so many deltas. -/
inductive Terminal (job : StreamJob) (clock : Nat → UInt64) (count : Nat) :
    ProviderOutcome → List OutgoingFrame → Prop
  | finished {texts : List Text} {response clean : Text}
      (full : fullResponse job texts = .returned response)
      (stripped : stripTaskMarkers response = .returned clean) :
      Terminal job clock count (.finished texts)
        [agentEnd job.runId (count + 1) (clock 0) (clock (count + 1)),
          chatFinal job.runId job.sessionKey (count + 2) (clock (count + 1)) clean,
          .response (okResponse job.runId job.requestId clean)]
  | failed {texts : List Text} {message : Text} :
      Terminal job clock count (.failed texts message)
        [agentError job.runId (count + 1) (clock (count + 1)) message,
          chatError job.runId (count + 2) message, .response (errorResponse job.requestId message)]
  | unstarted {message : Text} (none_sent : count = 0) :
      Terminal job clock count (.unstarted message)
        [agentError job.runId (count + 1) (clock (count + 1)) message,
          chatError job.runId (count + 2) message, .response (errorResponse job.requestId message)]

/-- A frame names the run in its payload. -/
def CarriesRunId (runId : Text) : OutgoingFrame → Prop
  | .event frame => (frame.field "runId".toList).bind JsonValue.asStr = some runId
  | .response frame =>
      (frame.payload.bind fun payload => payload.get "runId".toList).bind JsonValue.asStr = some runId
  | .close _ _ => False

/-- What the device can tell of a frame: its event, none for a response, the
phase of the run or the state of the message, the sequence number and the text
of a delta. -/
structure FrameReading where
  event : Option Text
  state : Option Text
  seq : Option JsonValue
  delta : Option Text

def readFrame : OutgoingFrame → FrameReading
  | .event frame =>
      let data := frame.field "data".toList
      let text (key : Text) : Option Text :=
        (((data.bind fun data => data.get key) <|> frame.field key)).bind JsonValue.asStr
      ⟨some frame.event, text "phase".toList <|> text "state".toList, frame.field "seq".toList, text "delta".toList⟩
  | .response frame => ⟨none, some (if frame.ok then "ok".toList else "error".toList), none, none⟩
  | .close _ reason => ⟨none, some reason, none, none⟩

/-- The last two events of a run that has sent so many deltas, and the response. -/
def endReadings (outcome : ProviderOutcome) (count : Nat) : List FrameReading :=
  let last (seq : Nat) : Option JsonValue := some (unsigned (UInt64.ofNat seq))
  match outcome with
  | .finished _ =>
      [⟨some "agent".toList, some "end".toList, last (count + 1), none⟩,
        ⟨some "chat".toList, some "final".toList, last (count + 2), none⟩, ⟨none, some "ok".toList, none, none⟩]
  | .failed .. | .unstarted _ =>
      [⟨some "agent".toList, some "error".toList, last (count + 1), none⟩,
        ⟨some "chat".toList, some "error".toList, last (count + 2), none⟩, ⟨none, some "error".toList, none, none⟩]

/-- What the device reads of a run. -/
def runReadings (outcome : ProviderOutcome) (deltas : List Text) : List FrameReading :=
  ⟨some "agent".toList, some "start".toList, some (unsigned 0), none⟩ ::
    ((deltas.zipIdx 1).flatMap fun entry =>
      [⟨some "agent".toList, none, some (unsigned (UInt64.ofNat entry.2)), some entry.1⟩,
        ⟨some "chat".toList, some "delta".toList, some (unsigned (UInt64.ofNat entry.2)), some entry.1⟩]) ++
    endReadings outcome deltas.length

/-- The frames of a run: the start, the deltas with their numbers, each as an
`agent` and as a `chat` event, and the terminal frames. -/
structure WellFormed (job : StreamJob) (clock : Nat → UInt64) (outcome : ProviderOutcome)
    (deltas : List Text) (terminal frames : List OutgoingFrame) : Prop where
  nonempty : ∀ delta ∈ deltas, delta ≠ []
  ends : Terminal job clock deltas.length outcome terminal
  sequence : frames = lifecycleStartEvent job.runId (clock 0) ::
    ((deltas.zipIdx 1).flatMap fun entry =>
      [agentDelta job.runId entry.2 (clock entry.2) entry.1,
        chatDelta job.runId job.sessionKey entry.2 entry.1]) ++ terminal
  read : frames.map readFrame = runReadings outcome deltas
  /-- Every frame but the error response carries the id of the run. -/
  carries : ∀ frame ∈ frames, CarriesRunId job.runId frame ∨
    ∃ message, frame = .response (errorResponse job.requestId message)

section

variable {job : StreamJob} {clock : Nat → UInt64}

theorem carries_deltas {deltas : List Text} {frame : OutgoingFrame}
    (member : frame ∈ (deltas.zipIdx 1).flatMap fun entry =>
      [agentDelta job.runId entry.2 (clock entry.2) entry.1,
        chatDelta job.runId job.sessionKey entry.2 entry.1]) : CarriesRunId job.runId frame := by
  rcases List.mem_flatMap.mp member with ⟨entry, _, pair⟩
  rcases List.mem_pair.mp pair with rfl | rfl <;> rfl

theorem carries_terminal {count : Nat} {outcome : ProviderOutcome} {terminal : List OutgoingFrame}
    (ends : Terminal job clock count outcome terminal) {frame : OutgoingFrame}
    (member : frame ∈ terminal) :
    CarriesRunId job.runId frame ∨ ∃ message, frame = .response (errorResponse job.requestId message) := by
  cases ends with
  | finished =>
      simp only [List.mem_cons, List.not_mem_nil, or_false] at member
      rcases member with rfl | rfl | rfl <;> exact Or.inl rfl
  | failed | unstarted =>
      simp only [List.mem_cons, List.not_mem_nil, or_false] at member
      rcases member with rfl | rfl | rfl
      · exact Or.inl rfl
      · exact Or.inl rfl
      · exact Or.inr ⟨_, rfl⟩

theorem readFrame_terminal {count : Nat} {outcome : ProviderOutcome} {terminal : List OutgoingFrame}
    (ends : Terminal job clock count outcome terminal) : terminal.map readFrame = endReadings outcome count := by
  cases ends <;> rfl

theorem readFrame_deltas (job : StreamJob) (clock : Nat → UInt64) (entries : List (Text × Nat)) :
    (entries.flatMap fun entry => [agentDelta job.runId entry.2 (clock entry.2) entry.1,
        chatDelta job.runId job.sessionKey entry.2 entry.1]).map readFrame =
      entries.flatMap fun entry =>
        [⟨some "agent".toList, none, some (unsigned (UInt64.ofNat entry.2)), some entry.1⟩,
          ⟨some "chat".toList, some "delta".toList, some (unsigned (UInt64.ofNat entry.2)), some entry.1⟩] := by
  rw [List.map_flatMap]
  rfl

/-- A loop with some deltas and a terminal call make up a sequence. -/
theorem wellFormed_of_sequenced {loop : ChunkLoop} {deltas : List Text} {outcome : ProviderOutcome}
    {terminal : List OutgoingFrame} {later : List RunEffect} (sequenced : Sequenced job loop deltas)
    (ends : Terminal job clock deltas.length outcome terminal)
    (frames : later.flatMap (RunEffect.frames clock) = terminal) :
    WellFormed job clock outcome deltas terminal
      ((loop.effects ++ later).flatMap (RunEffect.frames clock)) := by
  have sequence : (loop.effects ++ later).flatMap (RunEffect.frames clock) =
      lifecycleStartEvent job.runId (clock 0) ::
        ((deltas.zipIdx 1).flatMap fun entry =>
          [agentDelta job.runId entry.2 (clock entry.2) entry.1,
            chatDelta job.runId job.sessionKey entry.2 entry.1]) ++ terminal := by
    rw [List.flatMap_append, frames, sequenced.effects, List.flatMap_cons, frames_numberedDeltas]
    rfl
  refine ⟨sequenced.nonempty, ends, sequence, ?_, fun frame member => ?_⟩
  · rw [sequence, List.map_append, List.map_cons, readFrame_deltas, readFrame_terminal ends]
    rfl
  · rw [sequence] at member
    rcases List.mem_append.mp member with early | late
    · rcases List.mem_cons.mp early with rfl | delta
      · exact Or.inl rfl
      · exact Or.inl (carries_deltas delta)
    · exact carries_terminal ends late

theorem wellFormed_finished (job : StreamJob) (clock : Nat → UInt64) (texts : List Text)
    (strips : ∀ response, fullResponse job texts = .returned response →
      ∃ clean, stripTaskMarkers response = .returned clean) :
    ∃ deltas terminal, WellFormed job clock (.finished texts) deltas terminal
      ((streamAgentResponse job (finishedStream texts)).frames clock) := by
  rcases sequenced_onTexts (absorbed_initial job) sequenced_initial texts with
    ⟨loop, sent, run, absorbed, sequenced⟩
  have full : fullResponse job texts = .returned loop.responseAtDone := by
    rw [fullResponse, run, Outcome.map_returned]
  rcases strips _ full with ⟨clean, stripped⟩
  rcases sequenced_flush absorbed sequenced with ⟨remaining, filter, more, flushes, flushed⟩
  have trace : (streamAgentResponse job (finishedStream texts)).effects =
      (remaining.elim loop (loop.emitDelta job)).effects ++
        (ChunkLoop.recordExchange job loop.responseAtDone clean ++
          [.streamDone job.runId job.requestId job.sessionKey
            (remaining.elim loop (loop.emitDelta job)).seq clean, .release job.dedupKey]) := by
    simp only [streamAgentResponse, finishedStream, receive_onTexts run, ChunkLoop.receive,
      ChunkLoop.onDone, flushes]
    rw [conclude_effects, stripped]
  have frames : (ChunkLoop.recordExchange job loop.responseAtDone clean ++
      [RunEffect.streamDone job.runId job.requestId job.sessionKey
        (remaining.elim loop (loop.emitDelta job)).seq clean,
        RunEffect.release job.dedupKey]).flatMap (RunEffect.frames clock) =
      emitStreamDone job.runId job.requestId job.sessionKey (([] ++ sent ++ more).length + 1)
        (clock 0) (clock (([] ++ sent ++ more).length + 1)) clean := by
    rw [List.flatMap_append, frames_recordExchange, flushed.seq]
    rfl
  have formed := wellFormed_of_sequenced flushed (.finished full stripped) frames
  rw [← trace] at formed
  exact ⟨_, _, formed⟩

theorem wellFormed_failed (job : StreamJob) (clock : Nat → UInt64) (texts : List Text) (message : Text) :
    ∃ deltas terminal, WellFormed job clock (.failed texts message) deltas terminal
      ((streamAgentResponse job (.ok (texts.map .text ++ [.error message]))).frames clock) := by
  rcases sequenced_onTexts (absorbed_initial job) sequenced_initial texts with
    ⟨loop, sent, run, _, sequenced⟩
  have trace : (streamAgentResponse job (.ok (texts.map .text ++ [.error message]))).effects =
      loop.effects ++ [.runError job.runId job.requestId loop.seq message,
        .release job.dedupKey] := by
    simp only [streamAgentResponse, receive_onTexts run, ChunkLoop.receive, RunTrace.cleanup,
      List.append_assoc]
    rfl
  have frames : [RunEffect.runError job.runId job.requestId loop.seq message,
      .release job.dedupKey].flatMap (RunEffect.frames clock) =
      emitRunError job.runId job.requestId (([] ++ sent).length + 1)
        (clock (([] ++ sent).length + 1)) message := by
    rw [sequenced.seq]
    rfl
  have ends : Terminal job clock ([] ++ sent).length (.failed texts message) _ := .failed
  have formed := wellFormed_of_sequenced sequenced ends frames
  rw [← trace] at formed
  exact ⟨_, _, formed⟩

theorem wellFormed_unstarted (job : StreamJob) (clock : Nat → UInt64) (message : Text) :
    ∃ deltas terminal, WellFormed job clock (.unstarted message) deltas terminal
      ((streamAgentResponse job (.error message)).frames clock) := by
  have trace : (streamAgentResponse job (.error message)).effects =
      (ChunkLoop.initial job).effects ++ [.runError job.runId job.requestId 1 message,
        .release job.dedupKey] := rfl
  have frames : [RunEffect.runError job.runId job.requestId 1 message,
      .release job.dedupKey].flatMap (RunEffect.frames clock) =
      emitRunError job.runId job.requestId 1 (clock 1) message := rfl
  have ends : Terminal job clock 0 (.unstarted message) _ := .unstarted rfl
  have formed := wellFormed_of_sequenced sequenced_initial ends frames
  rw [← trace] at formed
  exact ⟨_, _, formed⟩

/-- A run whose stream has a terminal chunk, or no start, sends a well-formed
sequence, if its response can be stripped. -/
theorem streamAgentResponse_wellFormed (job : StreamJob) (clock : Nat → UInt64)
    (outcome : ProviderOutcome)
    (strips : ∀ texts response, outcome = .finished texts → fullResponse job texts = .returned response →
      ∃ clean, stripTaskMarkers response = .returned clean) :
    ∃ deltas terminal, WellFormed job clock outcome deltas terminal
      ((streamAgentResponse job outcome.streamed).frames clock) := by
  cases outcome with
  | finished texts => exact wellFormed_finished job clock texts fun response => strips texts response rfl
  | failed texts message => exact wellFormed_failed job clock texts message
  | unstarted message => exact wellFormed_unstarted job clock message

end

/-- A run of a local client. -/
def sampleJob : StreamJob :=
  ⟨"r".toList, "q".toList, defaultSessionKey, none, "hi".toList, (none, "r".toList)⟩

theorem streamAgentResponse_wellFormed_one_text :
    ∃ deltas terminal, WellFormed sampleJob (fun _ => 0) (.finished ["hello".toList]) deltas terminal
      ((streamAgentResponse sampleJob (ProviderOutcome.finished ["hello".toList]).streamed).frames
        fun _ => 0) := by
  refine streamAgentResponse_wellFormed sampleJob (fun _ => 0) (.finished ["hello".toList]) ?_
  rintro texts response ⟨⟩ full
  have known : fullResponse sampleJob ["hello".toList] = .returned "hello".toList := rfl
  rcases Outcome.returned.inj (known.symm.trans full) with rfl
  exact ⟨"hello".toList, rfl⟩

/-- The error response names the request, and not the run. -/
theorem error_response_without_runId :
    ∃ frame ∈ (streamAgentResponse sampleJob (.error "no route to host".toList)).frames fun _ => 0,
      ¬ CarriesRunId sampleJob.runId frame := by
  refine ⟨.response (errorResponse "q".toList "no route to host".toList), ?_, nofun⟩
  simp [RunTrace.frames, streamAgentResponse, RunTrace.cleanup, RunEffect.frames, emitRunError, sampleJob]

/-! ## Any stream -/

/-- The stream reports its end, or the provider cannot start. -/
def Concludes : Except Text (List StreamChunk) → Prop
  | .ok chunks => ∃ chunk ∈ chunks, ∀ text, chunk ≠ .text text
  | .error _ => True

/-- The reply of a stream that reports `Done` can be stripped. -/
def StripsReply (job : StreamJob) (streamed : Except Text (List StreamChunk)) : Prop :=
  ∀ texts later response, streamed = .ok (texts.map .text ++ .done :: later) →
    fullResponse job texts = .returned response → ∃ clean, stripTaskMarkers response = .returned clean

/-- The calls behind the deltas of a run that concludes. -/
inductive Conclusion (job : StreamJob) (seq : Nat) : List RunEffect → Prop
  | finished {response clean : Text} :
      Conclusion job seq (ChunkLoop.recordExchange job response clean ++
        [.streamDone job.runId job.requestId job.sessionKey seq clean, .release job.dedupKey])
  | failed {message : Text} :
      Conclusion job seq [.runError job.runId job.requestId seq message, .release job.dedupKey]

/-- The chunks up to the first that is no text. -/
theorem split_chunks (chunks : List StreamChunk) :
    ∃ texts : List Text, chunks = texts.map .text ∨ (∃ later, chunks = texts.map .text ++ .done :: later) ∨
      ∃ message later, chunks = texts.map .text ++ .error message :: later := by
  induction chunks with
  | nil => exact ⟨[], Or.inl rfl⟩
  | cons chunk chunks inductionHypothesis =>
      cases chunk with
      | done => exact ⟨[], Or.inr (Or.inl ⟨chunks, rfl⟩)⟩
      | error message => exact ⟨[], Or.inr (Or.inr ⟨message, chunks, rfl⟩)⟩
      | text text =>
          rcases inductionHypothesis with ⟨texts, rfl | ⟨later, rfl⟩ | ⟨message, later, rfl⟩⟩
          · exact ⟨text :: texts, Or.inl rfl⟩
          · exact ⟨text :: texts, Or.inr (Or.inl ⟨later, rfl⟩)⟩
          · exact ⟨text :: texts, Or.inr (Or.inr ⟨message, later, rfl⟩)⟩

/-- The first chunk that is no text is determined. -/
theorem split_unique {texts texts' : List Text} {chunk chunk' : StreamChunk}
    {later later' : List StreamChunk} (terminal : ∀ text, chunk ≠ .text text)
    (terminal' : ∀ text, chunk' ≠ .text text)
    (same : texts.map .text ++ chunk :: later = texts'.map .text ++ chunk' :: later') :
    texts = texts' ∧ chunk = chunk' := by
  induction texts generalizing texts' with
  | nil =>
      cases texts' with
      | nil => exact ⟨rfl, (List.cons.inj same).1⟩
      | cons text texts' => exact absurd (List.cons.inj same).1 (terminal text)
  | cons text texts inductionHypothesis =>
      cases texts' with
      | nil => exact absurd (List.cons.inj same).1.symm (terminal' text)
      | cons text' texts' =>
          rcases List.cons.inj same with ⟨first, rest⟩
          rcases inductionHypothesis rest with ⟨rfl, equal⟩
          exact ⟨by rw [StreamChunk.text.inj first], equal⟩

/-- What a run does behind its deltas: it concludes, or it falls silent as the
stream closes, or the stripping of its reply panics. -/
theorem streamAgentResponse_cases (job : StreamJob) (streamed : Except Text (List StreamChunk)) :
    ∃ loop deltas, Sequenced job loop deltas ∧
      ((Concludes streamed ∧ StripsReply job streamed ∧ ∃ tail, Conclusion job loop.seq tail ∧
          (streamAgentResponse job streamed).effects = loop.effects ++ tail) ∨
        (¬ Concludes streamed ∧ StripsReply job streamed ∧
          (streamAgentResponse job streamed).effects = loop.effects ++ [.release job.dedupKey]) ∨
        (¬ StripsReply job streamed ∧ (streamAgentResponse job streamed).effects = loop.effects)) := by
  cases streamed with
  | error message =>
      have strips : StripsReply job (.error message) := by
        intro texts later response same
        cases same
      exact ⟨.initial job, [], sequenced_initial, Or.inl ⟨trivial, strips, _, .failed, rfl⟩⟩
  | ok chunks =>
      rcases split_chunks chunks with ⟨texts, cases⟩
      rcases sequenced_onTexts (absorbed_initial job) sequenced_initial texts with
        ⟨loop, sent, run, absorbed, sequenced⟩
      rcases cases with rfl | ⟨later, rfl⟩ | ⟨message, later, rfl⟩
      · refine ⟨loop, _, sequenced, Or.inr (Or.inl ⟨?_, ?_, ?_⟩)⟩
        · rintro ⟨chunk, member, terminal⟩
          rcases List.mem_map.mp member with ⟨text, _, rfl⟩
          exact terminal text rfl
        · intro texts' later response same
          have member : StreamChunk.done ∈ texts.map StreamChunk.text := by
            rw [Except.ok.inj same]
            simp
          simp at member
        · have closed := receive_onTexts run []
          rw [List.append_nil] at closed
          simp only [streamAgentResponse, closed, ChunkLoop.receive, RunTrace.cleanup]
      · rcases sequenced_flush absorbed sequenced with ⟨remaining, filter, more, flushes, flushed⟩
        have full : fullResponse job texts = .returned loop.responseAtDone := by
          rw [fullResponse, run, Outcome.map_returned]
        have trace : (streamAgentResponse job (.ok (texts.map .text ++ .done :: later))).effects =
            (((remaining.elim loop (loop.emitDelta job)).conclude job loop.responseAtDone).cleanup
              job).effects := by
          simp only [streamAgentResponse, receive_onTexts run, ChunkLoop.receive, ChunkLoop.onDone, flushes]
        have concludes : Concludes (.ok (texts.map .text ++ .done :: later)) :=
          ⟨.done, by simp, by simp⟩
        refine ⟨_, _, flushed, ?_⟩
        rw [trace, conclude_effects]
        cases stripped : stripTaskMarkers loop.responseAtDone with
        | returned clean =>
            refine Or.inl ⟨concludes, ?_, _, .finished, rfl⟩
            intro texts' later' response same full'
            rcases split_unique (by simp) (by simp) (Except.ok.inj same) with ⟨rfl, _⟩
            rcases Outcome.returned.inj (full.symm.trans full') with rfl
            exact ⟨clean, stripped⟩
        | panicked | unfinished =>
            refine Or.inr (Or.inr ⟨fun strips => ?_, List.append_nil _⟩)
            rcases strips texts later _ rfl full with ⟨clean, returned⟩
            cases stripped.symm.trans returned
      · refine ⟨loop, _, sequenced, Or.inl ⟨⟨.error message, by simp, by simp⟩, ?_, _,
          @Conclusion.failed _ _ message, ?_⟩⟩
        · intro texts' later' response same
          cases (split_unique (by simp) (by simp) (Except.ok.inj same)).2
        · simp only [streamAgentResponse, receive_onTexts run, ChunkLoop.receive, RunTrace.cleanup,
            List.append_assoc]
          rfl

end Agent
end Rabb1tClaw
