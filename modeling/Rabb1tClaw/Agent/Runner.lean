import Rabb1tClaw.Agent.Stream
import Rabb1tClaw.Provider.Sse

namespace Rabb1tClaw
namespace Agent

open Foundations
open Provider (StreamChunk)

/-!
# The streaming run

`streamAgentResponse` reads the provider's chunks, keeps the growing response,
and talks to three parties: the device, the session store and the background
agents.  The model records every such call in order, with its arguments.  A
run is therefore a function from the chunks to a list of effects and to the
way the run ended; the effects of a run that panics are those before the
panic.

Timestamps and log lines are left out: no decision of the loop reads them.
-/

/-- The fields of `StreamJob` that the run passes on. -/
structure StreamJob where
  runId : Text
  requestId : Text
  sessionKey : Text
  deviceToken : Option Text
  userMessage : Text
  dedupKey : Option Text × Text
  deriving DecidableEq, Repr

/-- A call that a run makes. -/
inductive RunEffect where
  | lifecycleStart (runId : Text)
  | streamDelta (runId sessionKey : Text) (seq : Nat) (delta : Text)
  | recordMessage (token role content : Text) (runId : Option Text)
  | dispatchBackgroundAgents (token fullResponse : Text)
  | streamDone (runId requestId sessionKey : Text) (seq : Nat) (fullResponse : Text)
  | runError (runId requestId : Text) (seq : Nat) (message : Text)
  | release (dedupKey : Option Text × Text)
  deriving DecidableEq, Repr

namespace RunEffect

def delta? : RunEffect → Option Text
  | streamDelta _ _ _ delta => some delta
  | _ => none

def assistantTurn? : RunEffect → Option Text
  | recordMessage _ role content _ => if role = "assistant".toList then some content else none
  | _ => none

def finalMessage? : RunEffect → Option Text
  | streamDone _ _ _ _ fullResponse => some fullResponse
  | _ => none

end RunEffect

/-- How a run ended.  `closed` is a channel that closes without a terminal
chunk. -/
inductive RunEnding where
  | finished
  | failed
  | closed
  | panicked
  | unfinished
  deriving DecidableEq, Repr

structure RunTrace where
  effects : List RunEffect
  ending : RunEnding
  deriving DecidableEq, Repr

/-- The variables of the chunk loop, and the effects so far. -/
structure ChunkLoop where
  seq : Nat
  fullResponse : Text
  thinkBuf : Text
  thinkDone : Bool
  markerFilter : MarkerFilter
  effects : List RunEffect

namespace ChunkLoop

def initial (job : StreamJob) : ChunkLoop :=
  { seq := 1
    fullResponse := []
    thinkBuf := []
    thinkDone := false
    markerFilter := .new
    effects := [.lifecycleStart job.runId] }

/-- One text chunk up to the think block.  The flag tells whether the filter
is drained afterwards; a pending think block skips it. -/
def accumulate (loop : ChunkLoop) (text : Text) : Option (ChunkLoop × Bool) :=
  if loop.thinkDone then
    some ({ loop with fullResponse := loop.fullResponse ++ text }, true)
  else
    let thinkBuf := loop.thinkBuf ++ text
    (checkThinkBlock thinkBuf).map fun
      | .pending => ({ loop with thinkBuf }, false)
      | .passThrough =>
          ({ loop with
              thinkDone := true
              thinkBuf := []
              fullResponse := loop.fullResponse ++ thinkBuf }, true)
      | .stripped remainder =>
          ({ loop with
              thinkDone := true
              thinkBuf := []
              fullResponse := loop.fullResponse ++ remainder }, true)

/-- `emit_stream_delta` and the step of the sequence number. -/
def emitDelta (job : StreamJob) (loop : ChunkLoop) (delta : Text) : ChunkLoop :=
  { loop with
    seq := loop.seq + 1
    effects := loop.effects ++ [.streamDelta job.runId job.sessionKey loop.seq delta] }

/-- The arm of a text chunk. -/
def onText (job : StreamJob) (loop : ChunkLoop) (text : Text) : Outcome ChunkLoop :=
  (Outcome.ofOption (loop.accumulate text)).bind fun
    | (grown, false) => .returned grown
    | (grown, true) =>
        (drain grown.markerFilter grown.fullResponse).map fun drained =>
          drained.deltas.foldl (emitDelta job) { grown with markerFilter := drained.filter }

/-- The response when `Done` is handled: an undecided buffer is appended. -/
def responseAtDone (loop : ChunkLoop) : Text :=
  if !loop.thinkDone && !loop.thinkBuf.isEmpty then loop.fullResponse ++ loop.thinkBuf
  else loop.fullResponse

/-- The turns of the finished exchange, recorded for an authenticated device,
and the dispatch of the response's background tasks. -/
def recordExchange (job : StreamJob) (fullResponse cleanResponse : Text) : List RunEffect :=
  match job.deviceToken with
  | none => []
  | some token =>
      [.recordMessage token "user".toList job.userMessage (some job.runId),
        .recordMessage token "assistant".toList cleanResponse (some job.runId),
        .dispatchBackgroundAgents token fullResponse]

/-- The arm of `Done` behind the flush: the response is stripped, the exchange
is recorded, and the device gets the stripped response. -/
def conclude (job : StreamJob) (loop : ChunkLoop) (fullResponse : Text) : RunTrace :=
  match stripTaskMarkers fullResponse with
  | .panicked => ⟨loop.effects, .panicked⟩
  | .unfinished => ⟨loop.effects, .unfinished⟩
  | .returned cleanResponse =>
      ⟨loop.effects ++ (recordExchange job fullResponse cleanResponse ++
        [.streamDone job.runId job.requestId job.sessionKey loop.seq cleanResponse]), .finished⟩

/-- The arm of `Done`. -/
def onDone (job : StreamJob) (loop : ChunkLoop) : RunTrace :=
  match flush loop.markerFilter loop.responseAtDone with
  | none => ⟨loop.effects, .panicked⟩
  | some (remaining, _) =>
      (remaining.elim loop (loop.emitDelta job)).conclude job loop.responseAtDone

/-- The loop over the received chunks. -/
def receive (job : StreamJob) (loop : ChunkLoop) : List StreamChunk → RunTrace
  | [] => ⟨loop.effects, .closed⟩
  | .text text :: chunks =>
      match loop.onText job text with
      | .returned next => next.receive job chunks
      | .panicked => ⟨loop.effects, .panicked⟩
      | .unfinished => ⟨loop.effects, .unfinished⟩
  | .done :: _ => loop.onDone job
  | .error message :: _ =>
      ⟨loop.effects ++ [.runError job.runId job.requestId loop.seq message], .failed⟩

/-- The loop over text chunks only. -/
def onTexts (job : StreamJob) (loop : ChunkLoop) : List Text → Outcome ChunkLoop
  | [] => .returned loop
  | text :: texts => (loop.onText job text).bind fun next => next.onTexts job texts

end ChunkLoop

/-- The chunks of a stream that ends with `Done`. -/
def finishedStream (texts : List Text) : Except Text (List StreamChunk) :=
  .ok (texts.map .text ++ [.done])

/-- `full_response` when the `Done` behind the text chunks is handled. -/
def fullResponse (job : StreamJob) (texts : List Text) : Outcome Text :=
  ((ChunkLoop.initial job).onTexts job texts).map ChunkLoop.responseAtDone

/-- The cleanup at the end of a run.  A panic skips it. -/
def RunTrace.cleanup (job : StreamJob) (trace : RunTrace) : RunTrace :=
  match trace.ending with
  | .panicked | .unfinished => trace
  | _ => { trace with effects := trace.effects ++ [.release job.dedupKey] }

/-- `stream_agent_response`, given what `chat_stream` returned: the chunks
that arrive on its channel, or an error. -/
def streamAgentResponse (job : StreamJob) : Except Text (List StreamChunk) → RunTrace
  | .ok chunks => ((ChunkLoop.initial job).receive job chunks).cleanup job
  | .error message =>
      RunTrace.cleanup job
        ⟨[.lifecycleStart job.runId, .runError job.runId job.requestId 1 message], .failed⟩

namespace RunTrace

/-- The texts passed to `emit_stream_delta`. -/
def deltas (trace : RunTrace) : List Text :=
  trace.effects.filterMap RunEffect.delta?

/-- The assistant turns that the run records. -/
def assistantTurns (trace : RunTrace) : List Text :=
  trace.effects.filterMap RunEffect.assistantTurn?

/-- The final messages that the run sends. -/
def finalMessages (trace : RunTrace) : List Text :=
  trace.effects.filterMap RunEffect.finalMessage?

end RunTrace

end Agent
end Rabb1tClaw
