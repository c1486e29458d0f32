import Rabb1tClaw.Agent.Markers

namespace Rabb1tClaw
namespace Agent

open Foundations

/-!
# Think blocks and the live marker filter

Text reaches the device while the response is still growing.  Two buffers
stand in between: `checkThinkBlock` decides what to do with a leading think
block, and `MarkerFilter` withholds dispatch blocks.  The filter never sees
the end of the response until `flush`, so it keeps back whatever could still
become an opener and stays in its eating mode until a closer is complete.
-/

/-! ## Think blocks -/

def thinkOpen : Text := "<think>".toList

def thinkClose : Text := "</think>".toList

/-- Result of checking a stream buffer for a think block. -/
inductive ThinkResult where
  | pending
  | passThrough
  | stripped (remainder : Text)
  deriving DecidableEq, Repr

/-- `check_think_block`. -/
def checkThinkBlock (buf : Text) : Option ThinkResult :=
  let trimmed := buf.trimStart
  if trimmed = [] then
    some .pending
  else if thinkOpen.isPrefixOf trimmed then
    match Text.find thinkClose trimmed with
    | none => some .pending
    | some stop =>
        (trimmed.sliceFrom (stop + 8)).map fun rest => .stripped rest.trimStart
  else
    match trimmed.stripPrefix thinkClose with
    | some after => some (.stripped after.trimStart)
    | none =>
        if trimmed.isPrefixOf thinkOpen || trimmed.isPrefixOf thinkClose then some .pending
        else some .passThrough

/-! ## The marker filter -/

/-- The largest length, counted down from a bound to one, at which the end of
`bytes` starts the marker; the result is where that end begins. -/
def heldStart (marker bytes : List UInt8) : Nat → Option Nat
  | 0 => none
  | length + 1 =>
      let start := bytes.length - (length + 1)
      if (bytes.drop start).isPrefixOf marker then some start else heldStart marker bytes length

/-- `safe_emit_end`: the length that can be sent without the trailing bytes
that could start a marker.  The marker with its newline is tried first. -/
def safeEmitEnd (text : Text) : Nat :=
  let bytes := text.bytes
  let markers := [Text.bytes ('\n' :: dispatchOpen), Text.bytes dispatchOpen]
  let held := markers.findSome? fun marker =>
    heldStart marker bytes (min marker.length bytes.length)
  held.getD bytes.length

/-- Withholds dispatch blocks from the streamed text. -/
structure MarkerFilter where
  committed : Nat
  eating : Bool
  deriving DecidableEq, Repr

namespace MarkerFilter

def new : MarkerFilter := ⟨0, false⟩

end MarkerFilter

/-- `find_dispatch_start`: an opener together with a newline directly before
it.  The outer option is the byte access. -/
def findDispatchStart (text : Text) : Option (Option Nat) :=
  match Text.find dispatchOpen text with
  | none => some none
  | some abs =>
      if abs > 0 then
        (text.byteAt (abs - 1)).map fun byte =>
          if byte = Text.newlineByte then some (abs - 1) else some abs
      else
        some (some abs)

/-- The variables of the draining loop. -/
structure DrainState where
  filter : MarkerFilter
  deltas : List Text
  deriving DecidableEq, Repr

def drainBody (fullResponse : Text) (state : DrainState) :
    Option (Flow DrainState DrainState) := do
  let committed := state.filter.committed
  let remaining ← fullResponse.sliceFrom committed
  if remaining = [] then
    return .done state
  else if state.filter.eating then
    match Text.find blockClose remaining with
    | none => return .done state
    | some pos =>
        let blockEnd := pos + blockClose.len
        -- The byte after the closing marker decides where the block ends.
        if blockEnd = remaining.len then
          return .done state
        else
          let byte ← remaining.byteAt blockEnd
          let consumed := if byte = Text.newlineByte then blockEnd + 1 else blockEnd
          return .next ⟨⟨committed + consumed, false⟩, state.deltas⟩
  else
    match ← findDispatchStart remaining with
    | some pos =>
        if pos > 0 then
          let delta ← remaining.sliceTo pos
          return .next ⟨⟨committed + pos, true⟩, state.deltas ++ [delta]⟩
        else
          return .next ⟨⟨committed + pos, true⟩, state.deltas⟩
    | none =>
        let safe := safeEmitEnd remaining
        if safe > 0 then
          let delta ← remaining.sliceTo safe
          return .done ⟨⟨committed + safe, false⟩, state.deltas ++ [delta]⟩
        else
          return .done state

/-- `MarkerFilter::drain`: the filter afterwards and the slices to send. -/
def drain (filter : MarkerFilter) (fullResponse : Text) : Outcome DrainState :=
  iterate (drainBody fullResponse) (2 * fullResponse.length + 2) ⟨filter, []⟩

/-- `MarkerFilter::flush`: the text sent at the end of the stream, and the
filter afterwards. -/
def flush (filter : MarkerFilter) (fullResponse : Text) : Option (Option Text × MarkerFilter) :=
  if filter.eating || decide (filter.committed ≥ fullResponse.len) then
    some (none, filter)
  else
    (fullResponse.sliceFrom filter.committed).map fun remaining =>
      (some remaining, { filter with committed := fullResponse.len })

/-- The filter driven as `runner.rs` drives it: the response so far, the
filter, and the text sent. -/
structure LiveStream where
  full : Text
  filter : MarkerFilter
  out : Text

/-- One chunk: it extends the response, and every drained slice is sent. -/
def LiveStream.feed (stream : LiveStream) (chunk : Text) : Outcome LiveStream :=
  let full := stream.full ++ chunk
  (drain stream.filter full).map fun drained =>
    ⟨full, drained.filter, stream.out ++ drained.deltas.flatten⟩

def LiveStream.feedAll (stream : LiveStream) : List Text → Outcome LiveStream
  | [] => .returned stream
  | chunk :: chunks => (stream.feed chunk).bind fun fed => fed.feedAll chunks

/-- `live_stream`: all text sent for a response delivered in chunks. -/
def liveStream (chunks : List Text) : Outcome Text :=
  (LiveStream.feedAll ⟨[], .new, []⟩ chunks).bind fun stream =>
    (Outcome.ofOption (flush stream.filter stream.full)).map fun rest =>
      stream.out ++ rest.1.getD []

end Agent
end Rabb1tClaw
