import Rabb1tClaw.Agent.History
import Rabb1tClaw.Agent.ProvidedRun
import Rabb1tClaw.Foundations.Pipeline
import Rabb1tClaw.State.Registry

namespace Rabb1tClaw
namespace Connection

open Foundations
open Agent
open Protocol
open Provider

/-!
# From the provider to the socket

The chunks of a provider reach their run through a channel, and the frames of
all runs of a connection, and those of its handler and its tick task, reach
the socket through another.  Both channels hold a hundred entries.  A run reads
a chunk only when the frames of the last one are sent.

The send task stops behind a close frame, or when a write fails; from then on
all sends fail, which a run ignores.
-/

/-- The frames of the calls that a run has made since it had made others. -/
def newFrames (clock : Nat → UInt64) (loop : ChunkLoop) (effects : List RunEffect) : List OutgoingFrame :=
  (effects.drop loop.effects.length).flatMap (RunEffect.frames clock)

/-- What a run does with a chunk, and the frames that it sends for it; `none`
is a run that reads no more. -/
def frameWork (job : StreamJob) (clock : Nat → UInt64) :
    Option ChunkLoop → StreamChunk → Option ChunkLoop × List OutgoingFrame
  | none, _ => (none, [])
  | some loop, .text text =>
      match loop.onText job text with
      | .returned next => (some next, newFrames clock loop next.effects)
      | _ => (none, [])
  | some loop, .done => (none, newFrames clock loop (loop.onDone job).effects)
  | some loop, .error message =>
      (none, RunEffect.frames clock (.runError job.runId job.requestId loop.seq message))

/-- Who sends on the channel of a connection: a run with its provider, or
another task with its frames. -/
inductive ConnectionSender where
  | run (job : StreamJob) (clock : Nat → UInt64) (outcome : ProviderOutcome)
  | other (frames : List OutgoingFrame)

namespace ConnectionSender

/-- The frames that the sender has for the client. -/
def frames : ConnectionSender → List OutgoingFrame
  | run job clock outcome => (streamAgentResponse job (.ok outcome.chunks)).frames clock
  | other frames => frames

def party : ConnectionSender → Party (Option ChunkLoop) StreamChunk OutgoingFrame
  | run job clock outcome =>
      ⟨outcome.chunks, [], some (.initial job), (ChunkLoop.initial job).effects.flatMap (RunEffect.frames clock)⟩
  | other frames => ⟨[], [], none, frames⟩

def work : ConnectionSender → Option ChunkLoop → StreamChunk → Option ChunkLoop × List OutgoingFrame
  | run job clock _ => frameWork job clock
  | other _ => fun state _ => (state, [])

end ConnectionSender

section

variable {job : StreamJob} {clock : Nat → UInt64} {loop next : ChunkLoop}

end

end Connection
end Rabb1tClaw
