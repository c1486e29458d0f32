import Rabb1tClaw.Foundations.Iteration
import Rabb1tClaw.Foundations.Utf8Decoding

namespace Rabb1tClaw
namespace Provider

open Foundations

/-!
# The event stream of a provider

`processSseStream` reads a response body as it arrives from the network and
sends the chunks that its lines carry.  Bytes wait in a buffer until their
line is complete; the loop over the complete lines works with an index and
drains the buffer once at its end.

The network is a list of pieces, each of them bytes or a transport error.  The
receiver stays open, so a send always succeeds, and the chunks that were sent
are the result.  Deserialization into the two wire types is a parameter; the
decisions about a deserialized event are the source's.
-/

/-- `StreamChunk`. -/
inductive StreamChunk where
  | text (text : Text)
  | done
  | error (message : Text)
  deriving DecidableEq, Repr

/-! ## The two providers -/

structure OpenAiDelta where
  content : Option Text

structure OpenAiStreamChoice where
  delta : Option OpenAiDelta

structure OpenAiStreamChunk where
  choices : List OpenAiStreamChoice

/-- `parse_openai_sse`, given `serde_json::from_str`. -/
def parseOpenaiSse (fromStr : Text → Option OpenAiStreamChunk) (data : Text) : Option StreamChunk :=
  if data = "[DONE]".toList then
    some .done
  else do
    let parsed ← fromStr data
    let choice ← parsed.choices.head?
    let delta ← choice.delta
    let content ← delta.content
    if content = [] then none else some (.text content)

structure AnthropicDelta where
  deltaType : Option Text
  text : Option Text

structure AnthropicStreamEvent where
  eventType : Text
  delta : Option AnthropicDelta

/-- `parse_anthropic_sse`, given `serde_json::from_str`.  The start of a
content block carries no text, whatever the type of the block. -/
def parseAnthropicSse (fromStr : Text → Option AnthropicStreamEvent) (data : Text) :
    Option StreamChunk := do
  let event ← fromStr data
  if event.eventType = "content_block_start".toList then
    none
  else if event.eventType = "content_block_delta".toList then
    let delta ← event.delta
    if delta.deltaType = some "thinking_delta".toList then
      none
    else
      let text ← delta.text
      if text = [] then none else some (.text text)
  else if event.eventType = "message_stop".toList then
    some .done
  else
    none

/-- The parse function of a provider. -/
inductive SseParser where
  | openai (fromStr : Text → Option OpenAiStreamChunk)
  | anthropic (fromStr : Text → Option AnthropicStreamEvent)

namespace SseParser

def parseData : SseParser → Text → Option StreamChunk
  | openai fromStr => parseOpenaiSse fromStr
  | anthropic fromStr => parseAnthropicSse fromStr

end SseParser

/-! ## Lines -/

def newlineByte : UInt8 := 10

/-- The chunk of one line: comments and other fields carry none. -/
def lineChunk (parseData : Text → Option StreamChunk) (bytes : List UInt8) : Option StreamChunk :=
  let line := (Text.fromUtf8Lossy bytes).trim
  if line = [] || [':'].isPrefixOf line then none
  else (Text.stripPrefix line "data: ".toList).bind parseData

/-- The variables of the loop over complete lines. -/
structure LineScan where
  consumed : Nat
  sent : List StreamChunk

/-- How the loop over complete lines ends: the function has returned, or the
buffer holds no further line. -/
inductive ScanEnd where
  | returned (sent : List StreamChunk)
  | drained (scan : LineScan)

/-- What a line does to the loop: `Done` is sent and ends the function, any
other chunk is sent. -/
def afterLine (consumed : Nat) (sent : List StreamChunk) : Option StreamChunk → Flow LineScan ScanEnd
  | none => .next ⟨consumed, sent⟩
  | some .done => .done (.returned (sent ++ [.done]))
  | some chunk => .next ⟨consumed, sent ++ [chunk]⟩

def scanBody (parseData : Text → Option StreamChunk) (buffer : List UInt8) (scan : LineScan) :
    Option (Flow LineScan ScanEnd) :=
  if buffer.length < scan.consumed then
    none
  else
    match (buffer.drop scan.consumed).idxOf? newlineByte with
    | none => some (.done (.drained scan))
    | some relEnd =>
        let lineEnd := scan.consumed + relEnd
        let line := (buffer.take lineEnd).drop scan.consumed
        some (afterLine (lineEnd + 1) scan.sent (lineChunk parseData line))

/-- The loop over the network pieces, from a buffer and the chunks sent. -/
def receive (parseData : Text → Option StreamChunk) (buffer : List UInt8) (sent : List StreamChunk) :
    List (Except Text (List UInt8)) → Outcome (List StreamChunk)
  | [] => .returned (sent ++ [.done])
  | .error message :: _ => .returned (sent ++ [.error message])
  | .ok piece :: pieces =>
      let grown := buffer ++ piece
      (iterate (scanBody parseData grown) (grown.length + 1) ⟨0, sent⟩).bind fun
        | .returned sent => .returned sent
        | .drained scan =>
            receive parseData (if scan.consumed > 0 then grown.drop scan.consumed else grown)
              scan.sent pieces

/-- `process_sse_stream`: the chunks sent for the pieces of a response. -/
def processSseStream (parseData : Text → Option StreamChunk)
    (pieces : List (Except Text (List UInt8))) : Outcome (List StreamChunk) :=
  receive parseData [] [] pieces

end Provider
end Rabb1tClaw
