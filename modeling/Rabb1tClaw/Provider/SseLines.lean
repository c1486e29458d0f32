import Rabb1tClaw.Foundations.Parts
import Rabb1tClaw.Provider.Sse

namespace Rabb1tClaw
namespace Provider

open Foundations

/-!
# The event stream as lines

Seen as a whole, a body is a list of lines, each line carries at most one
chunk, and the stream ends at the first `Done`.  `specification` says just
that.  The reader sees the body in pieces; what connects the two is that a
piece completes lines of the open part only, so the buffer without its
complete lines is all the reader has to remember.
-/

section

variable (parseData : Text → Option StreamChunk)

/-- A `data: ` line says what its rest parses to; no other line says anything. -/
def dataChunk (line : List UInt8) : Option StreamChunk :=
  let decoded := (Text.fromUtf8Lossy line).trim
  if "data: ".toList <+: decoded then parseData (decoded.drop 6) else none

/-- The chunks of the complete lines of a body. -/
def bodyChunks (body : List UInt8) : List StreamChunk :=
  (completeParts newlineByte body).filterMap (dataChunk parseData)

/-- The chunks to send for a body, and for the failure that cut it off: those
of its complete lines before the first `Done`, and one terminal chunk. -/
def specification (body : List UInt8) (failure : Option Text) : List StreamChunk :=
  let chunks := bodyChunks parseData body
  let terminal :=
    if StreamChunk.done ∈ chunks then StreamChunk.done
    else match failure with
      | none => .done
      | some message => .error message
  chunks.takeWhile (fun chunk => chunk ≠ .done) ++ [terminal]

/-- The pieces of a body that the network delivers before it closes the stream
or fails. -/
def transport (pieces : List (List UInt8)) (failure : Option Text) :
    List (Except Text (List UInt8)) :=
  pieces.map .ok ++ failure.toList.map .error

end

variable {parseData : Text → Option StreamChunk}

/-- A `data: ` line is neither empty nor a comment. -/
theorem lineChunk_eq (parseData : Text → Option StreamChunk) (line : List UInt8) :
    lineChunk parseData line = dataChunk parseData line := by
  unfold lineChunk dataChunk
  simp only
  by_cases data : "data: ".toList <+: (Text.fromUtf8Lossy line).trim
  · rcases data with ⟨rest, whole⟩
    rw [← whole, if_pos (List.prefix_append _ _), Text.stripPrefix_eq_some.mpr rfl]
    rfl
  · rw [if_neg data, Text.stripPrefix_eq_none data, Option.bind_none, ite_self]

/-! ## The loop over complete lines -/

/-- How the loop ends for the chunks of the lines that are complete. -/
def scanEnd (sent chunks : List StreamChunk) (consumed : Nat) : ScanEnd :=
  if StreamChunk.done ∈ chunks then
    .returned (sent ++ (chunks.takeWhile (fun chunk => chunk ≠ .done) ++ [.done]))
  else
    .drained ⟨consumed, sent ++ chunks⟩

/-- A line without a chunk or with a chunk other than `Done` does not end the
loop. -/
theorem scanEnd_append (sent chunks : List StreamChunk) {chunk : Option StreamChunk}
    (consumed : Nat) (goesOn : chunk ≠ some .done) :
    scanEnd sent (chunk.toList ++ chunks) consumed =
      scanEnd (sent ++ chunk.toList) chunks consumed := by
  cases chunk with
  | none => rw [Option.toList_none, List.nil_append, List.append_nil]
  | some chunk =>
      have differs : chunk ≠ .done := fun same => goesOn (congrArg some same)
      simp [scanEnd, differs, differs.symm]

section Scan

variable {buffer before : List UInt8}

theorem scanBody_of_open {part : List UInt8} (whole : buffer = before ++ part)
    (absent : newlineByte ∉ part) (sent : List StreamChunk) :
    scanBody parseData buffer ⟨before.length, sent⟩ =
      some (.done (.drained ⟨before.length, sent⟩)) := by
  have missing : part.idxOf? newlineByte = none := List.idxOf?_eq_none_iff.mpr absent
  simp [scanBody, whole, missing]

theorem scanBody_of_line (parseData : Text → Option StreamChunk) {part rest : List UInt8}
    (whole : buffer = before ++ (part ++ newlineByte :: rest)) (absent : newlineByte ∉ part)
    (sent : List StreamChunk) :
    scanBody parseData buffer ⟨before.length, sent⟩ =
      some (afterLine (before ++ (part ++ [newlineByte])).length sent (dataChunk parseData part)) := by
  have found := idxOf?_append_cons absent rest
  have isLine : ((before ++ (part ++ newlineByte :: rest)).take (before.length + part.length)).drop
      before.length = part := by
    rw [← List.append_assoc, ← List.length_append, List.take_left, List.drop_left]
  have width : before.length + part.length + 1 = (before ++ (part ++ [newlineByte])).length := by
    simp only [List.length_append, List.length_singleton]
    omega
  simp only [scanBody, whole, List.drop_left, found, isLine, width, lineChunk_eq]
  rw [if_neg (by simp)]

/-- Specification of the loop: it reads the lines of the buffer, and stops at
the first `Done` or at the open part. -/
theorem scan_settles (parseData : Text → Option StreamChunk) (rest before : List UInt8) (sent : List StreamChunk)
    (whole : buffer = before ++ rest) :
    ∃ passes, passes ≤ rest.length + 1 ∧
      Settles (scanBody parseData buffer) passes ⟨before.length, sent⟩
        (.returned (scanEnd sent (bodyChunks parseData rest)
          (buffer.length - (openPart newlineByte rest).length))) := by
  induction rest using parts_induction newlineByte generalizing before sent with
  | last part absent =>
      refine ⟨1, Nat.le_add_left _ _, .done ?_⟩
      rw [scanBody_of_open whole absent, bodyChunks, completeParts_of_not_mem absent,
        openPart_of_not_mem absent, whole, List.length_append, Nat.add_sub_cancel]
      simp [scanEnd]
  | next part rest absent inductionHypothesis =>
      have body := scanBody_of_line parseData whole absent sent
      have chunks : bodyChunks parseData (part ++ newlineByte :: rest) =
          (dataChunk parseData part).toList ++ bodyChunks parseData rest := by
        rw [bodyChunks, completeParts_append_cons absent, bodyChunks, List.filterMap_cons]
        cases dataChunk parseData part <;> rfl
      have whole' : buffer = (before ++ (part ++ [newlineByte])) ++ rest := by
        rw [whole]
        simp
      rw [chunks, openPart_append_cons absent]
      by_cases isDone : dataChunk parseData part = some .done
      · refine ⟨1, Nat.le_add_left _ _, .done ?_⟩
        rw [body, isDone, afterLine]
        simp [scanEnd]
      · rcases inductionHypothesis _ (sent ++ (dataChunk parseData part).toList) whole' with
          ⟨passes, few, settles⟩
        refine ⟨passes + 1, ?_, ?_⟩
        · rw [List.length_append, List.length_cons]
          omega
        · rw [scanEnd_append _ _ _ isDone]
          refine .next ?_ settles
          rw [body]
          cases found : dataChunk parseData part with
          | none => simp [afterLine]
          | some chunk =>
              cases chunk with
              | done => exact absurd found isDone
              | text text => rfl
              | error message => rfl

end Scan

/-! ## The loop over the network pieces -/

/-- What comes behind a `Done` does not matter. -/
theorem takeWhile_append_of_done {chunks : List StreamChunk} (later : List StreamChunk)
    (here : StreamChunk.done ∈ chunks) :
    (chunks ++ later).takeWhile (fun chunk => chunk ≠ .done) =
      chunks.takeWhile (fun chunk => chunk ≠ .done) := by
  induction chunks with
  | nil => cases here
  | cons chunk chunks inductionHypothesis =>
      by_cases isDone : chunk = .done
      · simp [isDone]
      · have inTail : StreamChunk.done ∈ chunks :=
          (List.mem_cons.mp here).resolve_left (fun same => isDone same.symm)
        simp only [List.cons_append, List.takeWhile_cons, inductionHypothesis inTail]

/-- The chunks of the complete lines are sent, and without a `Done` among them
the specification of the lines that follow is what remains. -/
theorem specification_append (body more : List UInt8) (failure : Option Text) :
    specification parseData (body ++ more) failure =
      if StreamChunk.done ∈ bodyChunks parseData body then
        (bodyChunks parseData body).takeWhile (fun chunk => chunk ≠ .done) ++ [.done]
      else
        bodyChunks parseData body ++
          specification parseData (openPart newlineByte body ++ more) failure := by
  have split : bodyChunks parseData (body ++ more) =
      bodyChunks parseData body ++ bodyChunks parseData (openPart newlineByte body ++ more) := by
    rw [bodyChunks, completeParts_append, List.filterMap_append]
    rfl
  unfold specification
  rw [split]
  by_cases here : StreamChunk.done ∈ bodyChunks parseData body
  · have anywhere := List.mem_append_left
      (bodyChunks parseData (openPart newlineByte body ++ more)) here
    simp only [takeWhile_append_of_done _ here, if_pos here, if_pos anywhere]
  · have passes : ∀ chunk ∈ bodyChunks parseData body, decide (chunk ≠ .done) = true := by
      intro chunk member
      exact decide_eq_true (fun isDone => here (isDone ▸ member))
    simp only [List.takeWhile_append_of_pos passes, List.mem_append, here, false_or,
      List.append_assoc, if_false]

theorem specification_of_open {part : List UInt8} (absent : newlineByte ∉ part)
    (failure : Option Text) :
    specification parseData part failure =
      [match failure with
        | none => .done
        | some message => .error message] := by
  simp [specification, bodyChunks, completeParts_of_not_mem absent]

/-- Draining the buffer leaves its open part. -/
theorem drop_openPart (buffer : List UInt8) (consumed : Nat)
    (behind : consumed = buffer.length - (openPart newlineByte buffer).length) :
    (if consumed > 0 then buffer.drop consumed else buffer) = openPart newlineByte buffer := by
  rcases openPart_suffix newlineByte buffer with ⟨front, split⟩
  have width : consumed = front.length := by
    have total := congrArg List.length split
    rw [List.length_append] at total
    omega
  split
  · rw [width]
    conv => lhs; rw [← split, List.drop_left]
  · have empty : front = [] := List.length_eq_zero_iff.mp (by omega)
    rw [empty, List.nil_append] at split
    exact split.symm

/-- Run lemma: from a buffer without a complete line, the loop sends what the
specification says of the buffer and the pieces to come. -/
theorem receive_eq {buffer : List UInt8} (absent : newlineByte ∉ buffer) (sent : List StreamChunk)
    (pieces : List (List UInt8)) (failure : Option Text) :
    receive parseData buffer sent (transport pieces failure) =
      .returned (sent ++ specification parseData (buffer ++ pieces.flatten) failure) := by
  induction pieces generalizing buffer sent with
  | nil =>
      rw [List.flatten_nil, List.append_nil, specification_of_open absent]
      cases failure <;> rfl
  | cons piece pieces inductionHypothesis =>
      rcases scan_settles parseData (buffer ++ piece) [] sent rfl with ⟨passes, few, settles⟩
      have step : transport (piece :: pieces) failure = .ok piece :: transport pieces failure := rfl
      have scanned := iterate_of_settles settles few
      rw [List.length_nil, List.nil_append] at scanned
      rw [step, receive, scanned, Outcome.bind_returned, List.flatten_cons, ← List.append_assoc,
        specification_append]
      by_cases here : StreamChunk.done ∈ bodyChunks parseData (buffer ++ piece)
      · rw [scanEnd, if_pos here, if_pos here]
      · rw [scanEnd, if_neg here, if_neg here]
        simp only
        rw [drop_openPart _ _ rfl, inductionHypothesis (openPart_not_mem _), List.append_assoc]

/-! ## Terminal chunks -/

/-- Text chunks and one terminal chunk: `Done`, or the error of the
transport. -/
inductive Terminated (failure : Option Text) : List StreamChunk → Prop
  | done (texts : List Text) : Terminated failure (texts.map .text ++ [.done])
  | failed (texts : List Text) {message : Text} (fails : failure = some message) :
      Terminated failure (texts.map .text ++ [.error message])

theorem parseOpenaiSse_kind {fromStr : Text → Option OpenAiStreamChunk} {data : Text}
    {chunk : StreamChunk} (parsed : parseOpenaiSse fromStr data = some chunk) :
    chunk = .done ∨ ∃ text, chunk = .text text := by
  unfold parseOpenaiSse at parsed
  split at parsed
  · exact Or.inl (Option.some.inj parsed).symm
  · simp only [Option.bind_eq_bind, Option.bind_eq_some_iff] at parsed
    rcases parsed with ⟨event, _, choice, _, delta, _, content, _, kept⟩
    split at kept
    · cases kept
    · exact Or.inr ⟨content, (Option.some.inj kept).symm⟩

theorem parseAnthropicSse_kind {fromStr : Text → Option AnthropicStreamEvent} {data : Text}
    {chunk : StreamChunk} (parsed : parseAnthropicSse fromStr data = some chunk) :
    chunk = .done ∨ ∃ text, chunk = .text text := by
  simp only [parseAnthropicSse, Option.bind_eq_bind, Option.bind_eq_some_iff] at parsed
  rcases parsed with ⟨event, _, parsed⟩
  split at parsed
  · cases parsed
  · split at parsed
    · rcases Option.bind_eq_some_iff.mp parsed with ⟨delta, _, parsed⟩
      split at parsed
      · cases parsed
      · rcases Option.bind_eq_some_iff.mp parsed with ⟨text, _, kept⟩
        split at kept
        · cases kept
        · exact Or.inr ⟨text, (Option.some.inj kept).symm⟩
    · split at parsed
      · exact Or.inl (Option.some.inj parsed).symm
      · cases parsed

/-- A provider's line is a text or `Done`, never an error. -/
theorem bodyChunks_kind (parser : SseParser) (body : List UInt8) :
    ∀ chunk ∈ bodyChunks parser.parseData body, chunk = .done ∨ ∃ text, chunk = .text text := by
  intro chunk member
  rcases List.mem_filterMap.mp member with ⟨line, _, parsed⟩
  unfold dataChunk at parsed
  simp only at parsed
  split at parsed
  · cases parser with
    | openai fromStr => exact parseOpenaiSse_kind parsed
    | anthropic fromStr => exact parseAnthropicSse_kind parsed
  · cases parsed

/-- Chunks that are all texts before the first `Done`. -/
theorem exists_texts {chunks : List StreamChunk}
    (kinds : ∀ chunk ∈ chunks, chunk = .done ∨ ∃ text, chunk = .text text) :
    ∃ texts : List Text, chunks.takeWhile (fun chunk => chunk ≠ .done) = texts.map .text := by
  induction chunks with
  | nil => exact ⟨[], rfl⟩
  | cons chunk chunks inductionHypothesis =>
      rcases inductionHypothesis (fun later member => kinds later (List.mem_cons_of_mem _ member)) with
        ⟨texts, same⟩
      rcases kinds chunk List.mem_cons_self with rfl | ⟨text, rfl⟩
      · exact ⟨[], by simp⟩
      · exact ⟨text :: texts, by simp [← same]⟩

/-- The specification ends with its only terminal chunk. -/
theorem specification_terminated (parser : SseParser) (body : List UInt8) (failure : Option Text) :
    Terminated failure (specification parser.parseData body failure) := by
  rcases exists_texts (bodyChunks_kind parser body) with ⟨texts, same⟩
  simp only [specification, same]
  split
  · exact .done texts
  · cases failure with
    | none => exact .done texts
    | some message => exact .failed texts rfl

/-- However the network cuts a body into pieces, the chunks that are sent are
those of the lines of the body, with one terminal chunk at the end. -/
theorem processSseStream_eq_specification (parser : SseParser) (pieces : List (List UInt8))
    (failure : Option Text) :
    processSseStream parser.parseData (transport pieces failure) =
        .returned (specification parser.parseData pieces.flatten failure) ∧
      Terminated failure (specification parser.parseData pieces.flatten failure) := by
  refine ⟨?_, specification_terminated parser pieces.flatten failure⟩
  rw [processSseStream, receive_eq List.not_mem_nil]
  rfl

end Provider
end Rabb1tClaw
