import Rabb1tClaw.Agent.Events
import Rabb1tClaw.Agent.Stripping
import Rabb1tClaw.Provider.Http

namespace Rabb1tClaw
namespace Agent

open Foundations
open Provider

/-!
# Runs of a real provider

The streaming run reads any list of chunks.  A provider sends only some of
them: texts that are not empty, and then one terminal chunk.  So a run never
sees its stream close without a word, and what it does is determined by the
status and the body of the response, however the network cuts the body.

The background agents read the same stream with `collectStream`, which knows
neither think blocks nor dispatch blocks.
-/

/-- `collect_stream`, from the text collected so far. -/
def collectStream (buf : Text) : List StreamChunk → Except Text Text
  | [] => .ok buf
  | .text text :: chunks => collectStream (buf ++ text) chunks
  | .done :: _ => .ok buf
  | .error message :: _ => .error ("stream error: ".toList ++ message)

/-- What a provider does for a run, by its response. -/
def providerOutcome (parser : SseParser) (decode : List UInt8 → Text) :
    Except Text HttpResponse → ProviderOutcome
  | .error message => .failed [] message
  | .ok response =>
      if response.isSuccess then
        let body := (delivered response.pieces).1
        match (bodyChunks parser.parseData body).contains .done, (delivered response.pieces).2 with
        | false, some message => .failed (bodyTexts parser body) message
        | _, _ => .finished (bodyTexts parser body)
      else
        .failed [] (statusError parser decode response)

/-- The texts of an outcome. -/
def ProviderOutcome.texts : ProviderOutcome → List Text
  | finished texts => texts
  | failed texts _ => texts
  | unstarted _ => []

/-- The chunks that the receiver gets, as an outcome. -/
def ProviderOutcome.chunks : ProviderOutcome → List StreamChunk
  | finished texts => texts.map .text ++ [.done]
  | failed texts message => texts.map .text ++ [.error message]
  | unstarted message => [.error message]

section

variable {parser : SseParser} {decode : List UInt8 → Text} {sent : Except Text HttpResponse}

theorem specification_eq (parser : SseParser) (body : List UInt8) (failure : Option Text) :
    specification parser.parseData body failure =
      (match (bodyChunks parser.parseData body).contains .done, failure with
        | false, some message => ProviderOutcome.failed (bodyTexts parser body) message
        | _, _ => .finished (bodyTexts parser body)).chunks := by
  unfold specification
  simp only [takeWhile_bodyChunks]
  by_cases ended : StreamChunk.done ∈ bodyChunks parser.parseData body
  · rw [if_pos ended, List.contains_iff_mem.mpr ended]
    rfl
  · have open' : (bodyChunks parser.parseData body).contains .done = false := by
      rw [← Bool.not_eq_true, List.contains_iff_mem]
      exact ended
    rw [if_neg ended, open']
    cases failure <;> rfl

/-- The chunks of a provider are those of its outcome. -/
theorem sendAndStream_eq (parser : SseParser) (decode : List UInt8 → Text) (sent : Except Text HttpResponse) :
    sendAndStream parser decode sent = .returned (providerOutcome parser decode sent).chunks := by
  cases sent with
  | error message => rfl
  | ok response =>
      unfold sendAndStream providerOutcome
      simp only
      split
      · rw [processSseStream_delivered, specification_eq]
      · rfl

/-- A provider always starts. -/
theorem providerOutcome_starts (parser : SseParser) (decode : List UInt8 → Text)
    (sent : Except Text HttpResponse) :
    (providerOutcome parser decode sent).streamed = .ok (providerOutcome parser decode sent).chunks := by
  cases sent with
  | error message => rfl
  | ok response =>
      unfold providerOutcome
      simp only
      split
      · split <;> rfl
      · rfl

theorem providerOutcome_nonempty (parser : SseParser) (decode : List UInt8 → Text)
    (sent : Except Text HttpResponse) :
    ∀ text ∈ (providerOutcome parser decode sent).texts, text ≠ [] := by
  have nothing : ∀ text ∈ ([] : List Text), text ≠ [] := by simp
  cases sent with
  | error message => exact nothing
  | ok response =>
      unfold providerOutcome
      simp only
      split
      · split
        · exact bodyTexts_nonempty parser _
        · exact bodyTexts_nonempty parser _
      · exact nothing

/-! ## How a run ends -/

variable {job : StreamJob} {texts : List Text} {response : Text}

theorem cleanup_ending (job : StreamJob) (trace : RunTrace) : (trace.cleanup job).ending = trace.ending := by
  unfold RunTrace.cleanup
  split <;> rfl

/-- A run that does not panic releases its key. -/
theorem released (job : StreamJob) (streamed : Except Text (List StreamChunk)) {ending : RunEnding}
    (ends : (streamAgentResponse job streamed).ending = ending) (calm : ending ≠ .panicked ∧ ending ≠ .unfinished) :
    .release job.dedupKey ∈ (streamAgentResponse job streamed).effects := by
  have cleaned : ∀ trace : RunTrace, (trace.cleanup job).ending = ending →
      .release job.dedupKey ∈ (trace.cleanup job).effects := by
    intro trace same
    rw [cleanup_ending] at same
    subst same
    unfold RunTrace.cleanup
    split
    · rename_i panics
      exact absurd panics calm.1
    · rename_i stays
      exact absurd stays calm.2
    · exact List.mem_append_right _ (List.mem_singleton.mpr rfl)
  cases streamed with
  | ok chunks => exact cleaned _ ends
  | error message => exact cleaned _ ends

/-- A run whose stream reports `Done` finishes, unless two blocks of its reply
touch. -/
theorem ending_finished (full : fullResponse job texts = .returned response) :
    (streamAgentResponse job (finishedStream texts)).ending =
      match stripTaskMarkers response with
      | .returned _ => .finished
      | .panicked => .panicked
      | .unfinished => .unfinished := by
  rcases streamAgentResponse_finished job texts with ⟨loop, run, full', absorbed⟩
  rcases Outcome.returned.inj (full.symm.trans full') with rfl
  rcases (absorbed_flushes job absorbed).flushed with ⟨remaining, filter, flushes, _⟩
  rw [run, cleanup_ending, ChunkLoop.onDone, flushes]
  unfold ChunkLoop.conclude
  simp only
  split <;> rename_i stripped <;> rw [stripped]

theorem ending_failed (job : StreamJob) (texts : List Text) (message : Text) :
    (streamAgentResponse job (.ok (texts.map .text ++ [.error message]))).ending = .failed := by
  rcases sequenced_onTexts (absorbed_initial job) sequenced_initial texts with ⟨loop, _, run, _, _⟩
  rw [streamAgentResponse, cleanup_ending, receive_onTexts run]
  rfl

theorem exists_fullResponse (job : StreamJob) (texts : List Text) :
    ∃ response, fullResponse job texts = .returned response ∧ Reply texts.flatten response := by
  rcases streamAgentResponse_finished job texts with ⟨loop, _, full, absorbed⟩
  exact ⟨_, full, (absorbed_flushes job absorbed).reply⟩

/-- The final message of a run is its stripped response. -/
theorem finalMessages_finished (full : fullResponse job texts = .returned response) :
    (streamAgentResponse job (finishedStream texts)).finalMessages = finalsOf response := by
  rcases streamAgentResponse_finished job texts with ⟨loop, run, full', absorbed⟩
  rcases Outcome.returned.inj (full.symm.trans full') with rfl
  rw [run]
  exact (replies_onDone job absorbed).2

end

/-- Every run of a provider concludes.  Its chunks follow from the status and
the body of the response; it fails exactly as the provider does, and panics
exactly when two blocks of the reply touch; otherwise it releases its key and
sends a well-formed sequence of frames. -/
theorem provided_run_concludes (job : StreamJob) (clock : Nat → UInt64) (parser : SseParser)
    (decode : List UInt8 → Text) (sent : Except Text HttpResponse) :
    ∃ chunks, sendAndStream parser decode sent = .returned chunks ∧
      (providerOutcome parser decode sent).streamed = .ok chunks ∧
      (∀ text ∈ (providerOutcome parser decode sent).texts, text ≠ []) ∧
      ((streamAgentResponse job (.ok chunks)).ending = .failed ↔
        ∃ texts message, providerOutcome parser decode sent = .failed texts message) ∧
      ((streamAgentResponse job (.ok chunks)).ending = .panicked ↔
        ∃ texts response, providerOutcome parser decode sent = .finished texts ∧
          fullResponse job texts = .returned response ∧ Touching response) ∧
      ((streamAgentResponse job (.ok chunks)).ending ≠ .panicked →
        .release job.dedupKey ∈ (streamAgentResponse job (.ok chunks)).effects ∧
          ∃ deltas terminal, WellFormed job clock (providerOutcome parser decode sent) deltas terminal
            ((streamAgentResponse job (.ok chunks)).frames clock)) := by
  have starts := providerOutcome_starts parser decode sent
  have nonempty := providerOutcome_nonempty parser decode sent
  refine ⟨_, sendAndStream_eq parser decode sent, starts, nonempty, ?_⟩
  generalize providerOutcome parser decode sent = outcome at starts ⊢
  cases outcome with
  | unstarted message => cases starts
  | failed texts message =>
      have fails : (streamAgentResponse job (.ok (ProviderOutcome.failed texts message).chunks)).ending =
          .failed := ending_failed job texts message
      have releases := released job _ fails ⟨nofun, nofun⟩
      rw [fails]
      refine ⟨iff_of_true rfl ⟨_, _, rfl⟩, iff_of_false nofun ?_, fun _ => ⟨releases, ?_⟩⟩
      · rintro ⟨_, _, impossible, _⟩
        cases impossible
      · exact wellFormed_failed job clock texts message
  | finished texts =>
      rcases exists_fullResponse job texts with ⟨response, full, _⟩
      have ends := ending_finished full
      by_cases touching : Touching response
      · rw [stripTaskMarkers_of_touching touching] at ends
        have panics : (streamAgentResponse job (.ok (ProviderOutcome.finished texts).chunks)).ending =
            .panicked := ends
        rw [panics]
        refine ⟨iff_of_false nofun ?_, iff_of_true rfl ⟨texts, response, rfl, full, touching⟩,
          fun runs => absurd rfl runs⟩
        rintro ⟨_, _, impossible⟩
        cases impossible
      · have strips := stripTaskMarkers_of_apart touching
        rw [strips] at ends
        have finishes : (streamAgentResponse job (.ok (ProviderOutcome.finished texts).chunks)).ending =
            .finished := ends
        have releases := released job _ finishes ⟨nofun, nofun⟩
        rw [finishes]
        refine ⟨iff_of_false nofun ?_, iff_of_false nofun ?_, fun _ => ⟨releases, ?_⟩⟩
        · rintro ⟨_, _, impossible⟩
          cases impossible
        · rintro ⟨texts', response', same, full', touching'⟩
          rcases ProviderOutcome.finished.inj same with rfl
          rcases Outcome.returned.inj (full.symm.trans full') with rfl
          exact touching touching'
        · refine wellFormed_finished job clock texts fun same full' => ?_
          rcases Outcome.returned.inj (full.symm.trans full') with rfl
          exact ⟨_, strips⟩

/-! ## The plain path and the filtered one -/

theorem collectStream_texts (texts : List Text) (buf : Text) (later : List StreamChunk) :
    collectStream buf (texts.map .text ++ later) = collectStream (buf ++ texts.flatten) later := by
  induction texts generalizing buf with
  | nil => rw [List.flatten_nil, List.append_nil, List.map_nil, List.nil_append]
  | cons text texts inductionHypothesis =>
      rw [List.map_cons, List.cons_append, collectStream, inductionHypothesis, List.flatten_cons,
        List.append_assoc]

/-- A response is no longer than its text, and as long only without a think
block. -/
theorem reply_length {text full : Text} (reply : Reply text full) :
    full.length ≤ text.length ∧ (behindThink text = none → full = text) ∧
      (behindThink text ≠ none → full.length < text.length) := by
  have same : ∀ absent : behindThink text = none, text.length ≤ text.length ∧
      (behindThink text = none → text = text) ∧ (behindThink text ≠ none → text.length < text.length) :=
    fun absent => ⟨Nat.le_refl _, fun _ => rfl, fun present => absurd absent present⟩
  cases reply with
  | undecided absent => exact same absent
  | decided response =>
      cases response with
      | whole absent => exact same absent
      | @behind front after later split found =>
          rcases exists_tag_end found with ⟨tag, parts, closed⟩
          have visible : 0 < tag.length := by
            apply List.length_pos_of_ne_nil
            rintro rfl
            exact absurd closed (by decide)
          have trimmed := (List.dropWhile_suffix Text.isWhitespace (l := after)).length_le
          have whole := congrArg List.length split
          have pieces := congrArg List.length parts
          have present := behindThink_append later found
          rw [← split] at present
          simp only [List.length_append, Text.trimStart] at whole pieces ⊢
          refine ⟨by omega, fun absent => ?_, fun _ => by omega⟩
          cases absent.symm.trans present

/-- The final message is the text of the reply only if nothing was taken
out. -/
theorem finalsOf_eq_iff {text full : Text} (reply : Reply text full) :
    finalsOf full = [text] ↔ behindThink text = none ∧ ¬ dispatchOpen <:+: text := by
  rcases reply_length reply with ⟨_, whole, shorter⟩
  unfold finalsOf
  constructor
  · intro same
    cases stripped : stripTaskMarkers full with
    | panicked | unfinished =>
        rw [stripped] at same
        cases same
    | returned clean =>
        rw [stripped] at same
        rcases List.singleton_inj.mp same with rfl
        have shown := (shown_of_stripTaskMarkers (scan_laid _ full) stripped).2
        have short := shown_length_le (scan_laid stripDelimiters full)
        rw [shown] at short
        have absent : behindThink clean = none := by
          by_contra present
          exact absurd (shorter present) (Nat.not_lt.mpr short)
        rw [whole absent] at stripped
        exact ⟨absent, no_opener_of_unchanged stripped⟩
  · rintro ⟨absent, clean⟩
    rw [whole absent, unchanged_of_no_opener clean]

/-- The error that a run reports. -/
theorem runError_failed (job : StreamJob) (texts : List Text) (message reported : Text) :
    (∃ seq, RunEffect.runError job.runId job.requestId seq reported ∈
      (streamAgentResponse job (.ok (texts.map .text ++ [.error message]))).effects) ↔ reported = message := by
  rcases absorbed_onTexts job (absorbed_initial job) texts with ⟨loop, run, absorbed⟩
  rcases (absorbed_flushes job absorbed).flushed with ⟨remaining, filter, _, streamed⟩
  have quiet : ∀ seq, RunEffect.runError job.runId job.requestId seq reported ∉ loop.effects := by
    intro seq member
    have kept : RunEffect.runError job.runId job.requestId seq reported ∈
        (remaining.elim loop (loop.emitDelta job)).effects := by
      cases remaining with
      | none => exact member
      | some delta => exact List.mem_append_left _ member
    cases streamed _ kept
  have trace : (streamAgentResponse job (.ok (texts.map .text ++ [.error message]))).effects =
      loop.effects ++ [.runError job.runId job.requestId loop.seq message, .release job.dedupKey] := by
    simp only [streamAgentResponse, receive_onTexts run, ChunkLoop.receive, RunTrace.cleanup,
      List.append_assoc]
    rfl
  rw [trace]
  constructor
  · rintro ⟨seq, member⟩
    rcases List.mem_append.mp member with early | late
    · exact absurd early (quiet seq)
    · rcases List.mem_cons.mp late with same | release
      · exact (RunEffect.runError.inj same).2.2.2
      · cases List.mem_singleton.mp release
  · rintro rfl
    exact ⟨loop.seq, List.mem_append_right _ List.mem_cons_self⟩

theorem no_runError_finished (job : StreamJob) (texts : List Text) (seq : Nat) (message : Text) :
    RunEffect.runError job.runId job.requestId seq message ∉
      (streamAgentResponse job (finishedStream texts)).effects := by
  intro member
  rcases streamAgentResponse_done job texts [] with ⟨response, last, streamed, _, early, trace⟩
  rw [finishedStream, trace] at member
  rcases List.mem_append.mp member with before | behind
  · cases early _ before
  · split at behind
    · rcases List.mem_append.mp behind with recorded | final
      · unfold ChunkLoop.recordExchange at recorded
        split at recorded
        · cases recorded
        · simp at recorded
      · simp at final
    · cases behind

/-- A background agent collects the text of a reply, or the error that a run
reports.  The final message of a run is this text exactly when the text has no
leading think block and no opener of a dispatch block. -/
theorem collectStream_agrees_iff (job : StreamJob) (parser : SseParser) (decode : List UInt8 → Text)
    (sent : Except Text HttpResponse) :
    ∃ chunks, sendAndStream parser decode sent = .returned chunks ∧
      (∀ message, collectStream [] chunks = .error ("stream error: ".toList ++ message) ↔
        ∃ seq, RunEffect.runError job.runId job.requestId seq message ∈
          (streamAgentResponse job (.ok chunks)).effects) ∧
      ∀ text, collectStream [] chunks = .ok text →
        ((streamAgentResponse job (.ok chunks)).finalMessages = [text] ↔
          behindThink text = none ∧ ¬ dispatchOpen <:+: text) := by
  have starts := providerOutcome_starts parser decode sent
  refine ⟨_, sendAndStream_eq parser decode sent, ?_⟩
  generalize providerOutcome parser decode sent = outcome at starts ⊢
  cases outcome with
  | unstarted message => cases starts
  | failed texts message =>
      have collected : collectStream [] (ProviderOutcome.failed texts message).chunks =
          .error ("stream error: ".toList ++ message) := collectStream_texts texts [] [.error message]
      rw [collected]
      refine ⟨fun reported => ?_, nofun⟩
      refine Iff.trans ?_ (runError_failed job texts message reported).symm
      constructor
      · intro same
        exact (List.append_cancel_left (Except.error.inj same)).symm
      · rintro rfl
        rfl
  | finished texts =>
      have collected : collectStream [] (ProviderOutcome.finished texts).chunks = .ok texts.flatten :=
        collectStream_texts texts [] [.done]
      rw [collected]
      refine ⟨fun message => iff_of_false nofun ?_, ?_⟩
      · rintro ⟨seq, member⟩
        exact no_runError_finished job texts seq message member
      · intro text same
        rcases Except.ok.inj same with rfl
        rcases exists_fullResponse job texts with ⟨response, full, reply⟩
        have final : (streamAgentResponse job (.ok (ProviderOutcome.finished texts).chunks)).finalMessages =
            finalsOf response := finalMessages_finished full
        rw [final]
        exact finalsOf_eq_iff reply

end Agent
end Rabb1tClaw
