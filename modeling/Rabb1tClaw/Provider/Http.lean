import Rabb1tClaw.Provider.SseLines

namespace Rabb1tClaw
namespace Provider

open Foundations

/-!
# The reply of a provider

`sendAndStream` sends the request and turns what comes back into chunks: an
error of the transport, a response with another status than success, or the
event stream of a body.  The body arrives in pieces and may be cut off by an
error, and only the bytes before the first error count.

The decoding of an error body by its character set is a parameter.
-/

/-- A response: the status and its display, and the body from the network. -/
structure HttpResponse where
  status : Nat
  statusText : Text
  pieces : List (Except Text (List UInt8))

/-- `StatusCode::is_success`. -/
def HttpResponse.isSuccess (response : HttpResponse) : Bool :=
  decide (200 ≤ response.status) && decide (response.status < 300)

/-- The bytes before the first error, and this error. -/
def delivered : List (Except Text (List UInt8)) → List UInt8 × Option Text
  | [] => ([], none)
  | .error message :: _ => ([], some message)
  | .ok piece :: pieces => (piece ++ (delivered pieces).1, (delivered pieces).2)

/-- `Response::text`: the whole body, unless the transport fails. -/
def HttpResponse.text (decode : List UInt8 → Text) (response : HttpResponse) : Option Text :=
  match delivered response.pieces with
  | (body, none) => some (decode body)
  | (_, some _) => none

namespace SseParser

def providerName : SseParser → Text
  | openai _ => "OpenAI".toList
  | anthropic _ => "Anthropic".toList

end SseParser

/-- The message for a response without success; a body that cannot be read
counts as empty. -/
def statusError (parser : SseParser) (decode : List UInt8 → Text) (response : HttpResponse) : Text :=
  parser.providerName ++ (" API error ".toList ++
    (response.statusText ++ (": ".toList ++ (response.text decode).getD [])))

/-- `send_and_stream`: the chunks that go to the receiver. -/
def sendAndStream (parser : SseParser) (decode : List UInt8 → Text) :
    Except Text HttpResponse → Outcome (List StreamChunk)
  | .error message => .returned [.error message]
  | .ok response =>
      if response.isSuccess then processSseStream parser.parseData response.pieces
      else .returned [.error (statusError parser decode response)]

/-! ## Bodies -/

/-- What the network delivers is a body, and a failure that cuts it off. -/
theorem exists_transport (pieces : List (Except Text (List UInt8))) :
    ∃ bodies later, pieces = transport bodies (delivered pieces).2 ++ later ∧
      bodies.flatten = (delivered pieces).1 ∧ ((delivered pieces).2 = none → later = []) := by
  induction pieces with
  | nil => exact ⟨[], [], rfl, rfl, fun _ => rfl⟩
  | cons piece pieces inductionHypothesis =>
      cases piece with
      | error message =>
          refine ⟨[], pieces, rfl, rfl, ?_⟩
          intro impossible
          cases impossible
      | ok piece =>
          rcases inductionHypothesis with ⟨bodies, later, split, flat, whole⟩
          refine ⟨piece :: bodies, later, ?_, ?_, whole⟩
          · exact congrArg (Except.ok piece :: ·) split
          · exact congrArg (piece ++ ·) flat

/-- Nothing behind an error is read. -/
theorem receive_append_of_failure (parseData : Text → Option StreamChunk) (message : Text)
    (later : List (Except Text (List UInt8))) (bodies : List (List UInt8)) (buffer : List UInt8)
    (sent : List StreamChunk) :
    receive parseData buffer sent (transport bodies (some message) ++ later) =
      receive parseData buffer sent (transport bodies (some message)) := by
  induction bodies generalizing buffer sent with
  | nil => rfl
  | cons piece bodies inductionHypothesis =>
      have apart : ∀ more, transport (piece :: bodies) (some message) ++ more =
          .ok piece :: (transport bodies (some message) ++ more) := fun _ => rfl
      have alone : transport (piece :: bodies) (some message) =
          .ok piece :: transport bodies (some message) := rfl
      rw [apart, alone, receive, receive]
      apply congrArg
      funext scanned
      cases scanned with
      | returned sent => rfl
      | drained scan => exact inductionHypothesis _ _

/-- The chunks depend on the body and its failure only, however the network
cuts the body. -/
theorem processSseStream_delivered (parser : SseParser) (pieces : List (Except Text (List UInt8))) :
    processSseStream parser.parseData pieces =
      .returned (specification parser.parseData (delivered pieces).1 (delivered pieces).2) := by
  rcases exists_transport pieces with ⟨bodies, later, split, flat, whole⟩
  have clean : processSseStream parser.parseData pieces =
      processSseStream parser.parseData (transport bodies (delivered pieces).2) := by
    cases failure : (delivered pieces).2 with
    | none =>
        rw [failure] at split
        rw [split, whole failure, List.append_nil]
    | some message =>
        rw [failure] at split
        rw [processSseStream, split]
        exact receive_append_of_failure _ message later bodies [] []
  rw [clean, processSseStream, receive_eq List.not_mem_nil, List.nil_append, List.nil_append, flat]

/-! ## Texts -/

theorem parseOpenaiSse_nonempty {fromStr : Text → Option OpenAiStreamChunk} {data text : Text}
    (parsed : parseOpenaiSse fromStr data = some (.text text)) : text ≠ [] := by
  unfold parseOpenaiSse at parsed
  split at parsed
  · cases parsed
  · simp only [Option.bind_eq_bind, Option.bind_eq_some_iff] at parsed
    rcases parsed with ⟨event, _, choice, _, delta, _, content, _, kept⟩
    split at kept
    · cases kept
    · rename_i visible
      rcases StreamChunk.text.inj (Option.some.inj kept) with rfl
      exact visible

theorem parseAnthropicSse_nonempty {fromStr : Text → Option AnthropicStreamEvent} {data text : Text}
    (parsed : parseAnthropicSse fromStr data = some (.text text)) : text ≠ [] := by
  simp only [parseAnthropicSse, Option.bind_eq_bind, Option.bind_eq_some_iff] at parsed
  rcases parsed with ⟨event, _, parsed⟩
  split at parsed
  · cases parsed
  · split at parsed
    · rcases Option.bind_eq_some_iff.mp parsed with ⟨delta, _, parsed⟩
      split at parsed
      · cases parsed
      · rcases Option.bind_eq_some_iff.mp parsed with ⟨content, _, kept⟩
        split at kept
        · cases kept
        · rename_i visible
          rcases StreamChunk.text.inj (Option.some.inj kept) with rfl
          exact visible
    · split at parsed
      · cases parsed
      · cases parsed

/-- No line of a body carries an empty text. -/
theorem bodyChunks_nonempty (parser : SseParser) (body : List UInt8) {text : Text}
    (member : StreamChunk.text text ∈ bodyChunks parser.parseData body) : text ≠ [] := by
  rcases List.mem_filterMap.mp member with ⟨line, _, parsed⟩
  unfold dataChunk at parsed
  simp only at parsed
  split at parsed
  · cases parser with
    | openai fromStr => exact parseOpenaiSse_nonempty parsed
    | anthropic fromStr => exact parseAnthropicSse_nonempty parsed
  · cases parsed

def StreamChunk.text? : StreamChunk → Option Text
  | text content => some content
  | _ => none

/-- The texts of the lines before the first `Done`. -/
def bodyTexts (parser : SseParser) (body : List UInt8) : List Text :=
  ((bodyChunks parser.parseData body).takeWhile (fun chunk => chunk ≠ .done)).filterMap StreamChunk.text?

theorem takeWhile_bodyChunks (parser : SseParser) (body : List UInt8) :
    (bodyChunks parser.parseData body).takeWhile (fun chunk => chunk ≠ .done) =
      (bodyTexts parser body).map .text := by
  rcases exists_texts (bodyChunks_kind parser body) with ⟨texts, same⟩
  have read : (texts.map StreamChunk.text).filterMap StreamChunk.text? = texts := by
    rw [List.filterMap_map]
    exact List.filterMap_some
  rw [bodyTexts, same, read]

theorem bodyTexts_nonempty (parser : SseParser) (body : List UInt8) :
    ∀ text ∈ bodyTexts parser body, text ≠ [] := by
  intro text member
  rcases List.mem_filterMap.mp member with ⟨chunk, here, same⟩
  have inside := (List.takeWhile_sublist _).subset here
  cases chunk with
  | text content =>
      rcases Option.some.inj same with rfl
      exact bodyChunks_nonempty parser body inside
  | done => cases same
  | error message => cases same

end Provider
end Rabb1tClaw
