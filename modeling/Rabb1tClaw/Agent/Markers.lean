import Rabb1tClaw.Foundations.Iteration
import Rabb1tClaw.Foundations.Utf8

namespace Rabb1tClaw
namespace Agent

open Foundations

/-!
# Dispatch markers in a response

The main agent asks for background work in blocks that start with
`@@dispatch` and a newline and end with a newline and `@@end`.  This module
embeds the two loops over a finished response, `parseTaskMarkers` and
`stripTaskMarkers`, with their byte cursors and their slices.  A slice that
the source could not take is a panic of the model, not a default value.

`serde_json` is not part of the repository.  Its parser enters as a
parameter, and only the shape of its values is fixed here.
-/

/-- `DISPATCH_OPEN`. -/
def dispatchOpen : Text := "@@dispatch\n".toList

/-- `BLOCK_CLOSE`. -/
def blockClose : Text := "\n@@end".toList

/-- A parsed task marker from a response. -/
inductive TaskMarker where
  | dispatch (taskType desc : Text)
  | answer (id : UInt32) (answer : Text)
  deriving DecidableEq, Repr

/-! ## JSON values -/

/-- `serde_json::Number`: a float is kept as its bit pattern. -/
inductive JsonNumber where
  | posInt (value : UInt64)
  | negInt (value : Int64)
  | float (bits : UInt64)

/-- `serde_json::Value`. -/
inductive JsonValue where
  | null
  | bool (value : Bool)
  | number (value : JsonNumber)
  | string (value : Text)
  | array (elements : List JsonValue)
  | object (fields : List (Text × JsonValue))

namespace JsonValue

/-- `Value::get` with a string key: anything but an object has no fields. -/
def get (value : JsonValue) (key : Text) : Option JsonValue :=
  match value with
  | object fields => fields.lookup key
  | _ => none

/-- `Value::as_u64`. -/
def asU64 : JsonValue → Option UInt64
  | number (.posInt value) => some value
  | _ => none

/-- `Value::as_str`. -/
def asStr : JsonValue → Option Text
  | string value => some value
  | _ => none

end JsonValue

/-- `serde_json::from_str::<Vec<serde_json::Value>>`. -/
abbrev ParseArray := Text → Option (List JsonValue)

/-- `u32::try_from(id).unwrap_or(u32::MAX)`. -/
def saturateU32 (id : UInt64) : UInt32 :=
  if id.toNat < UInt32.size then id.toUInt32 else 0xFFFFFFFF

/-- Classify a parsed JSON value.  An answer wins over a dispatch when a value
carries the fields of both. -/
def classifyMarker (value : JsonValue) : Option TaskMarker :=
  let id := (value.get "id".toList).bind JsonValue.asU64
  let answer := (value.get "answer".toList).bind JsonValue.asStr
  let taskType := (value.get "type".toList).bind JsonValue.asStr
  let desc := (value.get "desc".toList).bind JsonValue.asStr
  match id, answer with
  | some id, some answer => some (.answer (saturateU32 id) answer)
  | _, _ =>
      match taskType, desc with
      | some taskType, some desc => some (.dispatch taskType desc)
      | _, _ => none

/-! ## Parsing -/

/-- The markers of one block: text that is not a JSON array yields none. -/
def blockMarkers (fromStr : ParseArray) (raw : Text) : List TaskMarker :=
  match fromStr raw with
  | some elements => elements.filterMap classifyMarker
  | none => []

/-- The offsets of an opener and of the closing marker behind it. -/
structure BlockSpan where
  opener : Nat
  closer : Nat
  deriving DecidableEq, Repr

/-- The variables of the parsing loop.  `spans` has no counterpart in the
source; it records which blocks the loop delimits. -/
structure ParseState where
  searchFrom : Nat
  results : List TaskMarker
  spans : List BlockSpan

/-- What the parsing loop leaves behind. -/
structure Parsed where
  markers : List TaskMarker
  spans : List BlockSpan
  deriving DecidableEq, Repr

def parseBody (fromStr : ParseArray) (response : Text) (state : ParseState) :
    Option (Flow ParseState Parsed) := do
  let remaining ← response.sliceFrom state.searchFrom
  match Text.find dispatchOpen remaining with
  | none => return .done ⟨state.results, state.spans⟩
  | some openOffset =>
      let contentStart := state.searchFrom + openOffset + dispatchOpen.len
      let content ← response.sliceFrom contentStart
      match Text.find blockClose content with
      | none => return .done ⟨state.results, state.spans⟩
      | some closeOffset =>
          let raw ← response.slice contentStart (contentStart + closeOffset)
          return .next
            { searchFrom := contentStart + closeOffset + blockClose.len
              results := state.results ++ blockMarkers fromStr raw.trim
              spans := state.spans ++ [⟨state.searchFrom + openOffset, contentStart + closeOffset⟩] }

/-- The parsing loop with its block offsets. -/
def parseBlocks (fromStr : ParseArray) (response : Text) : Outcome Parsed :=
  iterate (parseBody fromStr response) (response.length + 1) ⟨0, [], []⟩

/-- `parse_task_markers`. -/
def parseTaskMarkers (fromStr : ParseArray) (response : Text) : Outcome (List TaskMarker) :=
  (parseBlocks fromStr response).map Parsed.markers

/-! ## Stripping -/

/-- The variables of the stripping loop. -/
structure StripState where
  searchFrom : Nat
  result : Text

/-- Where the removal of a block starts: a newline directly before the opener
belongs to the block. -/
def trimStartOf (response : Text) (absStart : Nat) : Option Nat :=
  if absStart > 0 then
    (response.byteAt (absStart - 1)).map fun byte =>
      if byte = Text.newlineByte then absStart - 1 else absStart
  else
    some absStart

/-- Where the scan resumes behind a block: a newline directly after the
closing marker is skipped. -/
def resumeAfter (response : Text) (blockEnd : Nat) : Option Nat :=
  if blockEnd < response.len then
    (response.byteAt blockEnd).map fun byte =>
      if byte = Text.newlineByte then blockEnd + 1 else blockEnd
  else
    some blockEnd

def stripBody (response : Text) (state : StripState) : Option (Flow StripState Text) := do
  let remaining ← response.sliceFrom state.searchFrom
  match Text.find dispatchOpen remaining with
  | none => return .done (state.result ++ remaining)
  | some openOffset =>
      let absStart := state.searchFrom + openOffset
      let trimStart ← trimStartOf response absStart
      let kept ← response.slice state.searchFrom trimStart
      let result := state.result ++ kept
      let contentStart := absStart + dispatchOpen.len
      let content ← response.sliceFrom contentStart
      match Text.find blockClose content with
      | some closeOffset =>
          let searchFrom ← resumeAfter response (contentStart + closeOffset + blockClose.len)
          return .next ⟨searchFrom, result⟩
      | none => return .done result

/-- `strip_task_markers`. -/
def stripTaskMarkers (response : Text) : Outcome Text :=
  iterate (stripBody response) (response.length + 1) ⟨0, []⟩

end Agent
end Rabb1tClaw
