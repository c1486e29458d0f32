import Rabb1tClaw.Agent.Runner
import Rabb1tClaw.Agent.StreamLayout
import Rabb1tClaw.Agent.ThinkBlock

namespace Rabb1tClaw
namespace Agent

open Foundations
open Provider (StreamChunk)

/-!
# What a run delivers

The chunk loop composes two buffers: an undecided think block holds back all
text, and afterwards the marker filter holds back what could become an
opener.  `Absorbed` describes a loop that has received a text, independently
of the chunks; one chunk extends the text (`absorbed_onText`), and a whole
stream follows by induction.

Both buffers can be left in the middle.  The filter's flush sends only what it
held back, but an undecided think block is sent as it is, markers included
(`deltas_hide_opener_iff`).  And the whitespace behind a think block is
trimmed only as far as it arrived together with the closing tag
(`reply_ignores_chunks_iff`).
-/

/-- The calls the loop makes before the terminal chunk, with a condition on
the deltas. -/
inductive Streamed (allowed : Text → Prop) : RunEffect → Prop
  | start (runId : Text) : Streamed allowed (.lifecycleStart runId)
  | delta (runId sessionKey : Text) (seq : Nat) {delta : Text} (allows : allowed delta) :
      Streamed allowed (.streamDelta runId sessionKey seq delta)

/-- The delta shows no opener. -/
def Clean (delta : Text) : Prop :=
  ¬ dispatchOpen <:+: delta

theorem Streamed.mono {allowed allowed' : Text → Prop} {effect : RunEffect}
    (streamed : Streamed allowed effect) (weaker : ∀ delta, allowed delta → allowed' delta) :
    Streamed allowed' effect := by
  cases streamed with
  | start runId => exact .start runId
  | delta runId sessionKey seq allows => exact .delta runId sessionKey seq (weaker _ allows)

/-- The response of a loop that has decided about a text. -/
inductive Response (text : Text) : Text → Prop
  | whole (absent : behindThink text = none) (decided : ¬ Undecided text) : Response text text
  | behind {front after later : Text} (split : text = front ++ later)
      (found : behindThink front = some after) : Response text (after.trimStart ++ later)

/-- A loop that has received a text. -/
inductive Absorbed (loop : ChunkLoop) (text : Text) : Prop
  | undecided (pending : loop.thinkDone = false) (buffered : loop.thinkBuf = text)
      (empty : loop.fullResponse = []) (fresh : loop.markerFilter = .new)
      (quiet : ∃ runId, loop.effects = [.lifecycleStart runId])
      (absent : behindThink text = none) (open_ended : Undecided text)
  | decided (done : loop.thinkDone = true) (response : Response text loop.fullResponse)
      (filtered : ∃ before rest eating, loop.fullResponse = before ++ rest ∧
        loop.markerFilter = ⟨before.len, eating⟩ ∧ Drained eating rest)
      (streamed : ∀ effect ∈ loop.effects, Streamed Clean effect)

/-! ## One chunk -/

theorem Response.append {text full : Text} (response : Response text full) (more : Text) :
    Response (text ++ more) (full ++ more) := by
  cases response with
  | whole absent decided =>
      have grown := passThrough_append more absent decided
      exact .whole grown.1 grown.2
  | @behind front after later split found =>
      rw [List.append_assoc]
      exact .behind (by rw [split, List.append_assoc]) found

theorem streamed_emitDelta {allowed : Text → Prop} (job : StreamJob) {loop : ChunkLoop}
    (streamed : ∀ effect ∈ loop.effects, Streamed allowed effect) {delta : Text}
    (allows : allowed delta) :
    ∀ effect ∈ (loop.emitDelta job delta).effects, Streamed allowed effect := by
  intro effect member
  rcases List.mem_append.mp member with early | late
  · exact streamed effect early
  · rw [List.mem_singleton.mp late]
    exact .delta _ _ _ allows

/-- The deltas of one drain change nothing but the sequence number and the
effects. -/
theorem foldl_emitDelta (job : StreamJob) (loop : ChunkLoop) (sent : List Text)
    (streamed : ∀ effect ∈ loop.effects, Streamed Clean effect)
    (clean : ∀ delta ∈ sent, Clean delta) :
    ∃ seq effects, sent.foldl (ChunkLoop.emitDelta job) loop = { loop with seq, effects } ∧
      ∀ effect ∈ effects, Streamed Clean effect := by
  induction sent generalizing loop with
  | nil => exact ⟨loop.seq, loop.effects, rfl, streamed⟩
  | cons delta sent inductionHypothesis =>
      rcases inductionHypothesis _
        (streamed_emitDelta job streamed (clean delta List.mem_cons_self))
        (fun later member => clean later (List.mem_cons_of_mem _ member)) with
        ⟨seq, effects, same, streamed'⟩
      exact ⟨seq, effects, same, streamed'⟩

/-- A chunk that leaves the loop decided is drained. -/
theorem absorbed_drain (job : StreamJob) {loop grown : ChunkLoop} {chunk text before rest : Text}
    {eating : Bool} (accumulated : loop.accumulate chunk = some (grown, true))
    (done : grown.thinkDone = true) (response : Response text grown.fullResponse)
    (whole : grown.fullResponse = before ++ rest) (filter : grown.markerFilter = ⟨before.len, eating⟩)
    (streamed : ∀ effect ∈ grown.effects, Streamed Clean effect) :
    ∃ next, loop.onText job chunk = .returned next ∧ Absorbed next text := by
  rcases drain_spec before rest whole eating with
    ⟨before', rest', eating', sent, whole', drains, effect⟩
  rcases foldl_emitDelta job { grown with markerFilter := ⟨before'.len, eating'⟩ } sent streamed
    effect.clean with ⟨seq, effects, same, streamed'⟩
  have emitted : loop.onText job chunk =
      .returned { grown with markerFilter := ⟨before'.len, eating'⟩, seq, effects } := by
    rw [ChunkLoop.onText, accumulated, Outcome.ofOption_some, Outcome.bind_returned]
    simp only [filter, drains, Outcome.map_returned, same]
  exact ⟨_, emitted, .decided done response ⟨before', rest', eating', whole', rfl, effect.drained⟩
    streamed'⟩

/-- Step lemma: a chunk extends the text that a loop has received. -/
theorem absorbed_onText (job : StreamJob) {loop : ChunkLoop} {text : Text}
    (absorbed : Absorbed loop text) (chunk : Text) :
    ∃ next, loop.onText job chunk = .returned next ∧ Absorbed next (text ++ chunk) := by
  cases absorbed with
  | decided done response filtered streamed =>
      rcases filtered with ⟨before, rest, eating, whole, filter, _⟩
      have accumulated : loop.accumulate chunk =
          some ({ loop with fullResponse := loop.fullResponse ++ chunk }, true) := by
        simp [ChunkLoop.accumulate, done]
      have whole' : loop.fullResponse ++ chunk = before ++ (rest ++ chunk) := by
        rw [whole, List.append_assoc]
      exact absorbed_drain job accumulated done (response.append chunk) whole' filter streamed
  | undecided pending buffered empty fresh quiet absent openEnded =>
      rcases quiet with ⟨runId, onlyStart⟩
      have streamed : ∀ effect ∈ loop.effects, Streamed Clean effect := by
        rw [onlyStart]
        intro effect member
        rw [List.mem_singleton.mp member]
        exact .start runId
      have filter : loop.markerFilter = ⟨Text.len [], false⟩ := fresh
      cases found : behindThink (text ++ chunk) with
      | some after =>
          have accumulated : loop.accumulate chunk =
              some ({ loop with
                thinkDone := true
                thinkBuf := []
                fullResponse := after.trimStart }, true) := by
            simp [ChunkLoop.accumulate, pending, buffered, empty, checkThinkBlock_eq, found]
          have response : Response (text ++ chunk) (after.trimStart ++ []) :=
            .behind (List.append_nil _).symm found
          rw [List.append_nil] at response
          exact absorbed_drain job accumulated rfl response (List.nil_append _).symm filter streamed
      | none =>
          by_cases undecided : Undecided (text ++ chunk)
          · have accumulated : loop.accumulate chunk =
                some ({ loop with thinkBuf := text ++ chunk }, false) := by
              simp [ChunkLoop.accumulate, pending, buffered, checkThinkBlock_eq, found, undecided]
            rw [ChunkLoop.onText, accumulated]
            exact ⟨_, rfl, .undecided pending rfl empty fresh ⟨runId, onlyStart⟩ found undecided⟩
          · have accumulated : loop.accumulate chunk =
                some ({ loop with
                  thinkDone := true
                  thinkBuf := []
                  fullResponse := text ++ chunk }, true) := by
              simp [ChunkLoop.accumulate, pending, buffered, empty, checkThinkBlock_eq, found, undecided]
            exact absorbed_drain job accumulated rfl (.whole found undecided)
              (List.nil_append _).symm filter streamed

/-! ## A whole stream -/

theorem absorbed_initial (job : StreamJob) : Absorbed (ChunkLoop.initial job) [] :=
  .undecided rfl rfl rfl rfl ⟨job.runId, rfl⟩ (by decide) (by decide)

/-- Run lemma: any chunks lead to a loop that has received their text. -/
theorem absorbed_onTexts (job : StreamJob) {loop : ChunkLoop} {text : Text}
    (absorbed : Absorbed loop text) (chunks : List Text) :
    ∃ next, loop.onTexts job chunks = .returned next ∧ Absorbed next (text ++ chunks.flatten) := by
  induction chunks generalizing loop text with
  | nil => exact ⟨loop, rfl, by simpa using absorbed⟩
  | cons chunk chunks inductionHypothesis =>
      rcases absorbed_onText job absorbed chunk with ⟨middle, step, absorbed'⟩
      rcases inductionHypothesis absorbed' with ⟨next, run, absorbed''⟩
      refine ⟨next, ?_, ?_⟩
      · rw [ChunkLoop.onTexts, step, Outcome.bind_returned, run]
      · rwa [List.flatten_cons, ← List.append_assoc]

theorem receive_onTexts {job : StreamJob} {loop next : ChunkLoop} {chunks : List Text}
    (run : loop.onTexts job chunks = .returned next) (later : List StreamChunk) :
    loop.receive job (chunks.map .text ++ later) = next.receive job later := by
  induction chunks generalizing loop with
  | nil =>
      rw [ChunkLoop.onTexts, Outcome.returned.injEq] at run
      rw [run]
      rfl
  | cons chunk chunks inductionHypothesis =>
      rw [ChunkLoop.onTexts] at run
      cases step : loop.onText job chunk with
      | panicked => simp [step, Outcome.bind] at run
      | unfinished => simp [step, Outcome.bind] at run
      | returned middle =>
          rw [step, Outcome.bind_returned] at run
          rw [List.map_cons, List.cons_append, ChunkLoop.receive, step]
          exact inductionHypothesis run

/-! ## The end of the stream -/

/-- The response at `Done`, with an undecided buffer as part of it. -/
inductive Reply (text : Text) : Text → Prop
  | undecided (absent : behindThink text = none) : Reply text text
  | decided {full : Text} (response : Response text full) : Reply text full

/-- A filter that has seen nothing sends a response in one piece. -/
theorem flush_new (full : Text) :
    ∃ filter, flush .new full = some (if full = [] then none else some full, filter) := by
  by_cases empty : full = []
  · exact ⟨.new, by simp [flush, MarkerFilter.new, empty]⟩
  · have unsent : ¬ Text.len full = 0 := fun zero => empty (Text.len_eq_zero_iff.mp zero)
    exact ⟨⟨full.len, false⟩, by simp [flush, MarkerFilter.new, empty, unsent]⟩

/-- A delta of a stream: it shows no opener, or it is an undecided text. -/
def Deliverable (text delta : Text) : Prop :=
  Clean delta ∨ (delta = text ∧ behindThink text = none ∧ Undecided text)

/-- What the loop has sent when it handles `Done`, before it strips. -/
structure Flushes (job : StreamJob) (loop : ChunkLoop) (text : Text) : Prop where
  flushed : ∃ remaining filter, flush loop.markerFilter loop.responseAtDone = some (remaining, filter) ∧
    ∀ effect ∈ (remaining.elim loop (loop.emitDelta job)).effects, Streamed (Deliverable text) effect
  reply : Reply text loop.responseAtDone

theorem absorbed_flushes (job : StreamJob) {loop : ChunkLoop} {text : Text}
    (absorbed : Absorbed loop text) : Flushes job loop text := by
  cases absorbed with
  | decided done response filtered streamed =>
      have full : loop.responseAtDone = loop.fullResponse := by
        simp [ChunkLoop.responseAtDone, done]
      rcases filtered with ⟨before, rest, eating, whole, filter, drained⟩
      rcases flush_spec before rest whole drained with ⟨remaining, flushed, flushes, _, clean⟩
      refine ⟨⟨remaining, flushed, ?_, ?_⟩, full ▸ .decided response⟩
      · rw [full, filter, flushes]
      · have weaker : ∀ effect ∈ loop.effects, Streamed (Deliverable text) effect :=
          fun effect member => (streamed effect member).mono fun _ => Or.inl
        cases remaining with
        | none => exact weaker
        | some delta => exact streamed_emitDelta job weaker (Or.inl (clean delta rfl).2)
  | undecided pending buffered empty fresh quiet absent openEnded =>
      have full : loop.responseAtDone = text := by
        cases text with
        | nil => simp [ChunkLoop.responseAtDone, pending, buffered, empty]
        | cons => simp [ChunkLoop.responseAtDone, pending, buffered, empty]
      rcases quiet with ⟨runId, onlyStart⟩
      rcases flush_new text with ⟨filter, flushes⟩
      refine ⟨⟨_, filter, by rw [full, fresh, flushes], ?_⟩, by rw [full]; exact .undecided absent⟩
      have started : ∀ effect ∈ loop.effects, Streamed (Deliverable text) effect := by
        rw [onlyStart]
        intro effect member
        rw [List.mem_singleton.mp member]
        exact .start runId
      split
      · exact started
      · exact streamed_emitDelta job started (Or.inr ⟨rfl, absent, openEnded⟩)

/-- A finished stream is a loop that has received its text and handles
`Done`. -/
theorem streamAgentResponse_finished (job : StreamJob) (chunks : List Text) :
    ∃ loop : ChunkLoop, streamAgentResponse job (finishedStream chunks) =
        (loop.onDone job).cleanup job ∧
      fullResponse job chunks = .returned loop.responseAtDone ∧ Absorbed loop chunks.flatten := by
  rcases absorbed_onTexts job (absorbed_initial job) chunks with ⟨loop, run, absorbed⟩
  refine ⟨loop, congrArg (RunTrace.cleanup job) (receive_onTexts run [.done]), ?_, absorbed⟩
  rw [fullResponse, run, Outcome.map_returned]

/-- The calls that follow the flush: the exchange, the final message and the
release of the run's key. -/
theorem conclude_effects (job : StreamJob) (loop : ChunkLoop) (full : Text) :
    ((loop.conclude job full).cleanup job).effects = loop.effects ++
      match stripTaskMarkers full with
      | .returned clean => ChunkLoop.recordExchange job full clean ++
          [.streamDone job.runId job.requestId job.sessionKey loop.seq clean, .release job.dedupKey]
      | _ => [] := by
  rw [ChunkLoop.conclude]
  cases stripTaskMarkers full with
  | panicked => exact (List.append_nil _).symm
  | unfinished => exact (List.append_nil _).symm
  | returned clean => simp [RunTrace.cleanup]

/-- The calls that follow the flush contain no delta. -/
theorem deltas_onDone (job : StreamJob) {loop : ChunkLoop} {remaining : Option Text}
    {filter : MarkerFilter}
    (flushes : flush loop.markerFilter loop.responseAtDone = some (remaining, filter)) :
    ((loop.onDone job).cleanup job).deltas =
      (remaining.elim loop (loop.emitDelta job)).effects.filterMap RunEffect.delta? := by
  rw [ChunkLoop.onDone, flushes, RunTrace.deltas, conclude_effects, List.filterMap_append]
  cases stripTaskMarkers loop.responseAtDone with
  | panicked => exact List.append_nil _
  | unfinished => exact List.append_nil _
  | returned clean => cases token : job.deviceToken <;>
      simp [ChunkLoop.recordExchange, token, RunEffect.delta?]

theorem mem_delta? {effects : List RunEffect} {delta : Text} :
    delta ∈ effects.filterMap RunEffect.delta? ↔
      ∃ runId sessionKey seq, RunEffect.streamDelta runId sessionKey seq delta ∈ effects := by
  rw [List.mem_filterMap]
  constructor
  · rintro ⟨effect, member, same⟩
    cases effect <;> cases same
    exact ⟨_, _, _, member⟩
  · rintro ⟨runId, sessionKey, seq, member⟩
    exact ⟨_, member, rfl⟩

/-! ## Openers in the deltas -/

/-- The text starts with a think block that is never closed, and has an
opener. -/
def HidesOpener (text : Text) : Prop :=
  thinkOpen <+: text.trimStart ∧ ¬ thinkClose <:+: text.trimStart ∧ dispatchOpen <:+: text

/-- No white space is lost in front of an `@`. -/
theorem at_mem_trimStart {text : Text} (occurs : '@' ∈ text) : '@' ∈ text.trimStart := by
  rw [← List.takeWhile_append_dropWhile (p := Text.isWhitespace) (l := text)] at occurs
  rcases List.mem_append.mp occurs with skipped | kept
  · exact absurd (List.mem_takeWhile_imp skipped) (by decide)
  · exact kept

theorem hidesOpener_iff (text : Text) :
    HidesOpener text ↔ behindThink text = none ∧ Undecided text ∧ dispatchOpen <:+: text := by
  constructor
  · rintro ⟨opens, neverCloses, occurs⟩
    have missing := cut_eq_none_iff.mpr neverCloses
    refine ⟨?_, Or.inl ⟨opens, missing⟩, occurs⟩
    rw [behindThink, if_pos (Or.inl opens), missing, Option.map_none]
  · rintro ⟨_, undecided, occurs⟩
    have visible := at_mem_trimStart (occurs.subset (by decide))
    rcases undecided with ⟨opens, missing⟩ | opening | closing
    · exact ⟨opens, cut_eq_none_iff.mp missing, occurs⟩
    · exact absurd (opening.subset visible) (by decide)
    · exact absurd (closing.subset visible) (by decide)

/-- An undecided text is flushed as it is. -/
theorem flush_undecided {loop : ChunkLoop} {text : Text} (absorbed : Absorbed loop text)
    (absent : behindThink text = none) (openEnded : Undecided text) (nonempty : text ≠ []) :
    ∃ filter, flush loop.markerFilter loop.responseAtDone = some (some text, filter) := by
  cases absorbed with
  | undecided pending buffered empty fresh =>
      have full : loop.responseAtDone = text := by
        simp [ChunkLoop.responseAtDone, pending, buffered, empty, nonempty]
      rcases flush_new text with ⟨filter, flushes⟩
      exact ⟨filter, by rw [full, fresh, flushes, if_neg nonempty]⟩
  | decided done response =>
      generalize loop.fullResponse = full at response
      cases response with
      | whole _ decided => exact absurd openEnded decided
      | @behind front after later split found =>
          rw [split, behindThink_append later found] at absent
          cases absent

/-- In a stream that ends with `Done`, the deltas show no opener exactly when
no opener hides in a think block that is never closed. -/
theorem deltas_hide_opener_iff (job : StreamJob) (chunks : List Text) :
    (∀ delta ∈ (streamAgentResponse job (finishedStream chunks)).deltas, ¬ dispatchOpen <:+: delta) ↔
      ¬ HidesOpener chunks.flatten := by
  rcases streamAgentResponse_finished job chunks with ⟨loop, run, _, absorbed⟩
  rw [run]
  constructor
  · intro allClean hides
    rcases (hidesOpener_iff _).mp hides with ⟨absent, undecided, occurs⟩
    have nonempty : chunks.flatten ≠ [] := by
      intro empty
      rw [empty] at occurs
      exact absurd (List.infix_nil.mp occurs) (by decide)
    rcases flush_undecided absorbed absent undecided nonempty with ⟨filter, flushes⟩
    apply allClean chunks.flatten _ occurs
    rw [deltas_onDone job flushes, mem_delta?]
    exact ⟨job.runId, job.sessionKey, loop.seq, List.mem_append_right _ List.mem_cons_self⟩
  · intro shown delta member
    rcases (absorbed_flushes job absorbed).flushed with ⟨remaining, filter, flushes, streamed⟩
    rw [deltas_onDone job flushes, mem_delta?] at member
    rcases member with ⟨runId, sessionKey, seq, member⟩
    cases streamed _ member with
    | delta _ _ _ allows =>
        rcases allows with clean | ⟨whole, absent, undecided⟩
        · exact clean
        · intro occurs
          exact shown ((hidesOpener_iff _).mpr ⟨absent, undecided, whole ▸ occurs⟩)

/-- A think block that the stream leaves open is flushed with the opener in
it. -/
theorem open_think_block_shows_opener :
    ∃ delta ∈ (streamAgentResponse
        ⟨"r".toList, "q".toList, "default:main".toList, none, "hi".toList, (none, "r".toList)⟩
        (finishedStream ["<think>@@dispatch\n".toList])).deltas,
      dispatchOpen <:+: delta := by
  have sent : (streamAgentResponse
      ⟨"r".toList, "q".toList, "default:main".toList, none, "hi".toList, (none, "r".toList)⟩
      (finishedStream ["<think>@@dispatch\n".toList])).deltas = ["<think>@@dispatch\n".toList] := rfl
  refine ⟨"<think>@@dispatch\n".toList, ?_, "<think>".toList, [], by decide⟩
  rw [sent]
  exact List.mem_cons_self

/-! ## The reply and its chunks -/

/-- White space directly behind the closing tag of a leading think block. -/
def SpaceBehindThink (text : Text) : Prop :=
  ∃ char rest, behindThink text = some (char :: rest) ∧ Text.isWhitespace char = true

/-- Two streams give the same reply: the response, the recorded assistant
turns and the final messages agree. -/
structure SameReply (job : StreamJob) (first second : List Text) : Prop where
  response : fullResponse job first = fullResponse job second
  turns : (streamAgentResponse job (finishedStream first)).assistantTurns =
    (streamAgentResponse job (finishedStream second)).assistantTurns
  finals : (streamAgentResponse job (finishedStream first)).finalMessages =
    (streamAgentResponse job (finishedStream second)).finalMessages

/-- The assistant turns that follow from a response. -/
def turnsOf (job : StreamJob) (response : Text) : List Text :=
  match stripTaskMarkers response with
  | .returned clean => job.deviceToken.toList.map fun _ => clean
  | _ => []

/-- The final messages that follow from a response. -/
def finalsOf (response : Text) : List Text :=
  match stripTaskMarkers response with
  | .returned clean => [clean]
  | _ => []

theorem filterMap_streamed {allowed : Text → Prop} {effects : List RunEffect}
    (streamed : ∀ effect ∈ effects, Streamed allowed effect) :
    effects.filterMap RunEffect.assistantTurn? = [] ∧
      effects.filterMap RunEffect.finalMessage? = [] := by
  constructor
  · rw [List.filterMap_eq_nil_iff]
    intro effect member
    cases streamed effect member <;> rfl
  · rw [List.filterMap_eq_nil_iff]
    intro effect member
    cases streamed effect member <;> rfl

/-- The recorded assistant turn is the stripped response. -/
theorem recordExchange_turns (job : StreamJob) (full clean : Text) :
    (ChunkLoop.recordExchange job full clean).filterMap RunEffect.assistantTurn? =
        job.deviceToken.toList.map (fun _ => clean) ∧
      (ChunkLoop.recordExchange job full clean).filterMap RunEffect.finalMessage? = [] := by
  rw [ChunkLoop.recordExchange]
  cases job.deviceToken <;> exact ⟨rfl, rfl⟩

theorem replies_onDone (job : StreamJob) {loop : ChunkLoop} {text : Text}
    (absorbed : Absorbed loop text) :
    ((loop.onDone job).cleanup job).assistantTurns = turnsOf job loop.responseAtDone ∧
      ((loop.onDone job).cleanup job).finalMessages = finalsOf loop.responseAtDone := by
  rcases (absorbed_flushes job absorbed).flushed with ⟨remaining, filter, flushes, streamed⟩
  have early := filterMap_streamed streamed
  rw [ChunkLoop.onDone, flushes, RunTrace.assistantTurns, RunTrace.finalMessages, conclude_effects,
    List.filterMap_append, List.filterMap_append, early.1, early.2, turnsOf, finalsOf]
  cases stripTaskMarkers loop.responseAtDone with
  | panicked => exact ⟨rfl, rfl⟩
  | unfinished => exact ⟨rfl, rfl⟩
  | returned clean =>
      have recorded := recordExchange_turns job loop.responseAtDone clean
      simp only [List.filterMap_append, recorded.1, recorded.2]
      exact ⟨List.append_nil _, rfl⟩

/-- Without white space behind the closing tag, the response is determined by
the text. -/
theorem reply_eq {text full : Text} (reply : Reply text full) (tight : ¬ SpaceBehindThink text) :
    full = (behindThink text).getD text := by
  cases reply with
  | undecided absent => rw [absent, Option.getD_none]
  | decided response =>
      cases response with
      | whole absent => rw [absent, Option.getD_none]
      | @behind front after later split found =>
          have grown := behindThink_append later found
          rw [← split] at grown
          rw [grown, Option.getD_some]
          cases after with
          | nil => rfl
          | cons char after =>
              have visible : Text.isWhitespace char = false := by
                cases space : Text.isWhitespace char with
                | false => rfl
                | true => exact absurd ⟨char, after ++ later, grown, space⟩ tight
              rw [Text.trimStart, List.dropWhile_cons_of_neg (by simp [visible])]

/-- Draining does not change the response. -/
theorem onText_response {job : StreamJob} {loop grown next : ChunkLoop} {chunk : Text} {drains : Bool}
    (accumulated : loop.accumulate chunk = some (grown, drains))
    (step : loop.onText job chunk = .returned next) :
    next.fullResponse = grown.fullResponse ∧ next.thinkDone = grown.thinkDone := by
  rw [ChunkLoop.onText, accumulated, Outcome.ofOption_some, Outcome.bind_returned] at step
  cases drains with
  | false =>
      rw [Outcome.returned.inj step]
      exact ⟨rfl, rfl⟩
  | true =>
      simp only at step
      cases drained : drain grown.markerFilter grown.fullResponse with
      | panicked => simp [drained, Outcome.map, Outcome.bind] at step
      | unfinished => simp [drained, Outcome.map, Outcome.bind] at step
      | returned result =>
          rw [drained, Outcome.map_returned] at step
          rw [← Outcome.returned.inj step]
          have kept : ∀ (sent : List Text) (loop : ChunkLoop),
              (sent.foldl (ChunkLoop.emitDelta job) loop).fullResponse = loop.fullResponse ∧
                (sent.foldl (ChunkLoop.emitDelta job) loop).thinkDone = loop.thinkDone := by
            intro sent
            induction sent with
            | nil => exact fun _ => ⟨rfl, rfl⟩
            | cons delta sent inductionHypothesis =>
                exact fun loop => inductionHypothesis (loop.emitDelta job delta)
          exact kept result.deltas { grown with markerFilter := result.filter }

/-- The first chunk of a stream, when it completes the closing tag. -/
theorem onText_initial_behind (job : StreamJob) {text after : Text}
    (found : behindThink text = some after) :
    ∃ next, (ChunkLoop.initial job).onText job text = .returned next ∧
      next.fullResponse = after.trimStart ∧ next.thinkDone = true := by
  rcases absorbed_onText job (absorbed_initial job) text with ⟨next, step, _⟩
  have accumulated : (ChunkLoop.initial job).accumulate text =
      some ({ ChunkLoop.initial job with
        thinkDone := true
        fullResponse := after.trimStart }, true) := by
    simp [ChunkLoop.accumulate, ChunkLoop.initial, checkThinkBlock_eq, found]
  exact ⟨next, step, onText_response accumulated step⟩

theorem responseAtDone_of_done {loop : ChunkLoop} (done : loop.thinkDone = true) :
    loop.responseAtDone = loop.fullResponse := by
  simp [ChunkLoop.responseAtDone, done]

/-- One chunk trims the white space behind the closing tag. -/
theorem fullResponse_one_chunk (job : StreamJob) {text after : Text}
    (found : behindThink text = some after) :
    fullResponse job [text] = .returned after.trimStart := by
  rcases onText_initial_behind job found with ⟨next, step, response, done⟩
  rw [fullResponse, ChunkLoop.onTexts, step, Outcome.bind_returned, ChunkLoop.onTexts,
    Outcome.map_returned, responseAtDone_of_done done, response]

/-- A cut right behind the closing tag keeps that white space. -/
theorem fullResponse_two_chunks (job : StreamJob) {front after : Text}
    (found : behindThink front = some []) :
    fullResponse job [front, after] = .returned after := by
  rcases absorbed_onTexts job (absorbed_initial job) [front, after] with ⟨last, run, _⟩
  rcases onText_initial_behind job found with ⟨middle, step, response, done⟩
  have accumulated : middle.accumulate after =
      some ({ middle with fullResponse := middle.fullResponse ++ after }, true) := by
    simp [ChunkLoop.accumulate, done]
  rw [ChunkLoop.onTexts, step, Outcome.bind_returned, ChunkLoop.onTexts] at run
  cases step' : middle.onText job after with
  | panicked => simp [step', Outcome.bind] at run
  | unfinished => simp [step', Outcome.bind] at run
  | returned next =>
      have grown := onText_response accumulated step'
      rw [fullResponse, ChunkLoop.onTexts, step, Outcome.bind_returned, ChunkLoop.onTexts, step',
        Outcome.bind_returned, ChunkLoop.onTexts, Outcome.map_returned,
        responseAtDone_of_done (grown.2.trans done), grown.1, response]
      rfl

/-- A reply does not depend on how its text is cut into chunks exactly when
no white space follows the closing tag of a leading think block directly. -/
theorem reply_ignores_chunks_iff (text : Text) :
    (∀ (job : StreamJob) (first second : List Text), (∀ chunk ∈ first, chunk ≠ []) →
      (∀ chunk ∈ second, chunk ≠ []) → first.flatten = text → second.flatten = text →
        SameReply job first second) ↔
      ¬ SpaceBehindThink text := by
  constructor
  · rintro same ⟨char, rest, found, space⟩
    rcases exists_tag_end found with ⟨front, split, atEnd⟩
    have visible : front ≠ [] := by
      rintro rfl
      exact absurd atEnd (by decide)
    have job : StreamJob := ⟨[], [], [], none, [], (none, [])⟩
    have whole : text ≠ [] := by
      rw [split]
      exact fun empty => visible (List.append_eq_nil_iff.mp empty).1
    have agree := (same job [text] [front, char :: rest]
      (fun chunk member => List.mem_singleton.mp member ▸ whole)
      (by simp [visible]) (by simp) (by simp [split])).response
    rw [fullResponse_one_chunk job found, fullResponse_two_chunks job atEnd,
      Outcome.returned.injEq, Text.trimStart, List.dropWhile_cons_of_pos space] at agree
    have shorter := (List.dropWhile_suffix Text.isWhitespace (l := rest)).length_le
    rw [agree, List.length_cons] at shorter
    omega
  · intro tight job first second _ _ isFirst isSecond
    rcases streamAgentResponse_finished job first with ⟨left, runLeft, fullLeft, absorbedLeft⟩
    rcases streamAgentResponse_finished job second with ⟨right, runRight, fullRight, absorbedRight⟩
    rw [isFirst] at absorbedLeft
    rw [isSecond] at absorbedRight
    have agree : left.responseAtDone = right.responseAtDone :=
      (reply_eq (absorbed_flushes job absorbedLeft).reply tight).trans
        (reply_eq (absorbed_flushes job absorbedRight).reply tight).symm
    have repliesLeft := replies_onDone job absorbedLeft
    have repliesRight := replies_onDone job absorbedRight
    refine ⟨?_, ?_, ?_⟩
    · rw [fullLeft, fullRight, agree]
    · rw [runLeft, runRight, repliesLeft.1, repliesRight.1, agree]
    · rw [runLeft, runRight, repliesLeft.2, repliesRight.2, agree]

/-- The space arrives with the closing tag or after it. -/
theorem reply_depends_on_cut :
    fullResponse ⟨"r".toList, "q".toList, "default:main".toList, none, "hi".toList, (none, "r".toList)⟩
        ["</think> hello".toList] = .returned "hello".toList ∧
      fullResponse
        ⟨"r".toList, "q".toList, "default:main".toList, none, "hi".toList, (none, "r".toList)⟩
        ["</think>".toList, " hello".toList] = .returned " hello".toList :=
  ⟨rfl, rfl⟩

end Agent
end Rabb1tClaw
