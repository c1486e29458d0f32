import Rabb1tClaw.Agent.Recording
import Rabb1tClaw.Agent.Runner

namespace Rabb1tClaw
namespace Agent

open Foundations
open Provider (StreamChunk)

/-!
# The history of concurrent runs

A run of `stream_agent_response` records nothing or one exchange: a user turn
and then an assistant turn, in two calls (`recordedCalls_cases`).  Runs of one
device that are in flight at once are recorders on one session, so the order
in which their calls append is any order.  The history that they leave is a
sequence of exchanges exactly when no run appends between the two appends of
another (`history_paired_iff`).

Every other step of a run leaves the session store alone, and is left out of
the interleaving.
-/

namespace RunEffect

/-- The call to the session store, for a token. -/
def recordCall? (token : Text) : RunEffect → Option RecordCall
  | recordMessage owner role content runId =>
      if owner = token then some ⟨role, content, runId⟩ else none
  | _ => none

end RunEffect

/-- A run: its job, and what `chat_stream` returns to it. -/
structure AgentRun where
  job : StreamJob
  stream : Except Text (List StreamChunk)

namespace AgentRun

/-- The `record_message` calls of a run that concern a device. -/
def recordedCalls (run : AgentRun) (token : Text) : List RecordCall :=
  (streamAgentResponse run.job run.stream).effects.filterMap (RunEffect.recordCall? token)

/-- A run that has not recorded anything yet. -/
def recorder (run : AgentRun) (token : Text) : Recorder :=
  ⟨token, run.recordedCalls token, none⟩

end AgentRun

/-- Runs in flight on a session store. -/
def inFlight (store : SessionStore) (token : Text) (runs : List AgentRun) : Recording :=
  ⟨store, runs.map fun run => run.recorder token⟩

/-- A user turn and the assistant turn of the same run. -/
def Exchange (first second : ConversationTurn) : Prop :=
  first.role = "user".toList ∧ second.role = "assistant".toList ∧ first.runId = second.runId

/-- The history alternates, run by run. -/
def PairedHistory (turns : List ConversationTurn) : Prop :=
  PairedBy Exchange turns

/-- No run appends between the two appends of another run. -/
def Uninterrupted (schedule : List RecordStep) : Prop :=
  PairedBy (fun index index' => index = index') (appends schedule)

/-! ## What one run records -/

/-- The calls of an exchange. -/
def exchangeCalls (job : StreamJob) (cleanResponse : Text) : List RecordCall :=
  [⟨"user".toList, job.userMessage, some job.runId⟩,
    ⟨"assistant".toList, cleanResponse, some job.runId⟩]

section

variable (token : Text)

/-- The calls among the effects of a loop. -/
def ChunkLoop.recorded (loop : ChunkLoop) : List RecordCall :=
  loop.effects.filterMap (RunEffect.recordCall? token)

/-- Nothing was recorded, or one exchange. -/
def OneExchange (job : StreamJob) (calls : List RecordCall) : Prop :=
  calls = [] ∨ ∃ cleanResponse, calls = exchangeCalls job cleanResponse

variable {token}

theorem recorded_emitDelta (job : StreamJob) (loop : ChunkLoop) (delta : Text) :
    (loop.emitDelta job delta).recorded token = loop.recorded token := by
  rw [ChunkLoop.recorded, ChunkLoop.emitDelta, List.filterMap_append]
  exact List.append_nil _

theorem recorded_foldl_emitDelta (job : StreamJob) (loop : ChunkLoop) (deltas : List Text) :
    (deltas.foldl (ChunkLoop.emitDelta job) loop).recorded token = loop.recorded token := by
  induction deltas generalizing loop with
  | nil => rfl
  | cons delta deltas inductionHypothesis =>
      rw [List.foldl_cons, inductionHypothesis, recorded_emitDelta]

theorem effects_accumulate {loop grown : ChunkLoop} {text : Text} {drains : Bool}
    (accumulated : loop.accumulate text = some (grown, drains)) : grown.effects = loop.effects := by
  rw [ChunkLoop.accumulate] at accumulated
  split at accumulated
  · cases accumulated
    rfl
  · rcases Option.map_eq_some_iff.mp accumulated with ⟨decision, _, same⟩
    cases decision <;> cases same <;> rfl

/-- Step lemma: a text chunk records nothing. -/
theorem recorded_onText {job : StreamJob} {loop next : ChunkLoop} {text : Text}
    (step : loop.onText job text = .returned next) : next.recorded token = loop.recorded token := by
  rw [ChunkLoop.onText] at step
  cases accumulated : loop.accumulate text with
  | none =>
      rw [accumulated] at step
      cases step
  | some result =>
      rcases result with ⟨grown, drains⟩
      have same : grown.recorded token = loop.recorded token :=
        congrArg (List.filterMap _) (effects_accumulate accumulated)
      rw [accumulated, Outcome.ofOption_some, Outcome.bind_returned] at step
      cases drains with
      | false =>
          rcases Outcome.returned.inj step with rfl
          exact same
      | true =>
          simp only at step
          cases drained : drain grown.markerFilter grown.fullResponse with
          | returned sent =>
              rw [drained, Outcome.map_returned] at step
              rcases Outcome.returned.inj step with rfl
              rw [recorded_foldl_emitDelta]
              exact same
          | panicked =>
              rw [drained] at step
              cases step
          | unfinished =>
              rw [drained] at step
              cases step

theorem recordCalls_recordExchange (job : StreamJob) (full clean : Text) :
    OneExchange job
      ((ChunkLoop.recordExchange job full clean).filterMap (RunEffect.recordCall? token)) := by
  rw [ChunkLoop.recordExchange]
  cases job.deviceToken with
  | none => exact Or.inl rfl
  | some owner =>
      by_cases same : owner = token
      · exact Or.inr ⟨clean, by simp [RunEffect.recordCall?, same, exchangeCalls]⟩
      · exact Or.inl (by simp [RunEffect.recordCall?, same])

theorem recorded_onDone {job : StreamJob} {loop : ChunkLoop} (nothing : loop.recorded token = []) :
    OneExchange job ((loop.onDone job).effects.filterMap (RunEffect.recordCall? token)) := by
  rw [ChunkLoop.onDone]
  cases flush loop.markerFilter loop.responseAtDone with
  | none => exact Or.inl nothing
  | some flushed =>
      have same : (flushed.1.elim loop (loop.emitDelta job)).recorded token = [] := by
        cases flushed.1 with
        | none => exact nothing
        | some remaining => exact (recorded_emitDelta job loop remaining).trans nothing
      simp only [ChunkLoop.conclude]
      cases stripTaskMarkers loop.responseAtDone with
      | panicked => exact Or.inl same
      | unfinished => exact Or.inl same
      | returned clean =>
          rw [ChunkLoop.recorded] at same
          rw [List.filterMap_append, same, List.nil_append, List.filterMap_append,
            show List.filterMap (RunEffect.recordCall? token) [RunEffect.streamDone ..] = [] from rfl,
            List.append_nil]
          exact recordCalls_recordExchange job _ clean

/-- Run lemma: whatever arrives, the loop records at most one exchange. -/
theorem recorded_receive (job : StreamJob) {loop : ChunkLoop} (chunks : List StreamChunk)
    (nothing : loop.recorded token = []) :
    OneExchange job ((loop.receive job chunks).effects.filterMap (RunEffect.recordCall? token)) := by
  induction chunks generalizing loop with
  | nil => exact Or.inl nothing
  | cons chunk chunks inductionHypothesis =>
      cases chunk with
      | text text =>
          rw [ChunkLoop.receive]
          cases step : loop.onText job text with
          | returned next => exact inductionHypothesis ((recorded_onText step).trans nothing)
          | panicked => exact Or.inl nothing
          | unfinished => exact Or.inl nothing
      | done => exact recorded_onDone nothing
      | error message =>
          rw [ChunkLoop.recorded] at nothing
          refine Or.inl ?_
          rw [ChunkLoop.receive, List.filterMap_append, nothing]
          rfl

theorem recordCalls_cleanup (job : StreamJob) (trace : RunTrace) :
    (trace.cleanup job).effects.filterMap (RunEffect.recordCall? token) =
      trace.effects.filterMap (RunEffect.recordCall? token) := by
  rw [RunTrace.cleanup]
  split
  · rfl
  · rfl
  · rw [List.filterMap_append]
    exact List.append_nil _

/-- A run records nothing for a device, or one exchange. -/
theorem recordedCalls_cases (run : AgentRun) (token : Text) :
    OneExchange run.job (run.recordedCalls token) := by
  rcases run with ⟨job, stream⟩
  cases stream with
  | error message => exact Or.inl rfl
  | ok chunks =>
      rw [AgentRun.recordedCalls, streamAgentResponse, recordCalls_cleanup]
      exact recorded_receive job chunks rfl

end

/-! ## What concurrent runs leave -/

/-- `Exchange` on the calls of the two turns. -/
def Answers (first second : RecordCall) : Prop :=
  first.role = "user".toList ∧ second.role = "assistant".toList ∧ first.runId = second.runId

theorem user_ne_assistant : "user".toList ≠ "assistant".toList := by
  decide

/-- Every run starts with a user turn, so no two runs' first calls make an
exchange. -/
theorem pairQueues_inFlight (store : SessionStore) (token : Text) (runs : List AgentRun) :
    PairQueues Answers (queues (inFlight store token runs).recorders) := by
  have cases : ∀ queue ∈ queues (inFlight store token runs).recorders,
      ∃ job, OneExchange job queue := by
    intro queue member
    rw [queues, inFlight, List.map_map] at member
    rcases List.mem_map.mp member with ⟨run, _, rfl⟩
    exact ⟨run.job, recordedCalls_cases run token⟩
  refine ⟨?_, ?_⟩
  · intro queue member
    rcases cases queue member with ⟨job, empty | ⟨clean, pair⟩⟩
    · exact Or.inl empty
    · exact Or.inr ⟨_, _, pair, rfl, rfl, rfl⟩
  · intro first rest second rest' _ member answers
    rcases cases _ member with ⟨job, empty | ⟨clean, pair⟩⟩
    · cases empty
    · rcases List.cons.inj pair with ⟨rfl, _⟩
      exact user_ne_assistant answers.2.1

/-- When all runs have finished, the history is a sequence of exchanges
exactly when no run came between the two appends of another. -/
theorem history_paired_iff (codec : SessionCodec) (token : Text) (store : SessionStore)
    (runs : List AgentRun) (final : Recording) (schedule : List RecordStep)
    (before : PairedHistory (store.getHistory token))
    (scheduled : (recording codec).run (inFlight store token runs) schedule = some final)
    (completed : final.Completed) :
    PairedHistory (final.store.getHistory token) ↔ Uninterrupted schedule := by
  have tokens : ∀ recorder ∈ (inFlight store token runs).recorders, recorder.token = token := by
    intro recorder member
    rcases List.mem_map.mp member with ⟨run, _, rfl⟩
    rfl
  rcases progress_of_run tokens scheduled with ⟨turns, progress⟩
  have empty : ∀ queue ∈ queues final.recorders, queue = [] := by
    intro queue member
    rcases List.mem_map.mp member with ⟨recorder, present, rfl⟩
    exact (completed recorder present).1
  have paired := pairedBy_draws_iff (pairQueues_inFlight store token runs) progress.draws empty
  have history : final.store.getHistory token = store.getHistory token ++ turns := progress.history
  rw [PairedHistory, history, PairedBy.append_iff before, Uninterrupted, ← paired, PairedBy.map_iff]
  rfl

/-- The run of a message that is answered in one chunk. -/
def sampleRun (token runId message answer : Text) : AgentRun where
  job := ⟨runId, "q".toList, "default:main".toList, some token, message, (some token, runId)⟩
  stream := finishedStream [answer]

/-- Two runs of one device. -/
def sampleRuns : List AgentRun :=
  [sampleRun "device01".toList "r1".toList "a".toList "x".toList,
    sampleRun "device01".toList "r2".toList "b".toList "y".toList]

/-- The calls of the two sample runs. -/
theorem sampleRuns_recorders :
    sampleRuns.map (fun run => run.recorder "device01".toList) =
      [⟨"device01".toList,
          [⟨"user".toList, "a".toList, some "r1".toList⟩,
            ⟨"assistant".toList, "x".toList, some "r1".toList⟩], none⟩,
        ⟨"device01".toList,
          [⟨"user".toList, "b".toList, some "r2".toList⟩,
            ⟨"assistant".toList, "y".toList, some "r2".toList⟩], none⟩] := by
  decide

/-- Appends in an order of recorders, each followed by its save. -/
def inOrder (order : List Nat) (nonce : Nonce) : List RecordStep :=
  order.flatMap fun index => [.append index 1, .save index nonce]

/-- No session in memory or on disk. -/
def emptyStore : SessionStore := ⟨fun _ => none, fun _ => none⟩

section

variable {codec : SessionCodec} {token path : Text} (isPath : conversationPath token = some path)
  (first first' second second' : RecordCall) (nonce : Nonce)

include isPath

/-- Two recorders that alternate. -/
theorem run_alternating :
    ∃ final, (recording codec).run
        ⟨emptyStore, [⟨token, [first, first'], none⟩, ⟨token, [second, second'], none⟩]⟩
        (inOrder [0, 1, 0, 1] nonce) = some final ∧
      final.Completed ∧
      final.store.getHistory token = [first, second, first', second'].map fun call => call.turn 1 := by
  simp [Machine.run, recording, inOrder, emptyStore, SessionStore.saveSession,
    SessionStore.appendTurn, ConversationSession.addTurn, ConversationSession.new,
    Recording.Completed, SessionStore.getHistory, isPath]

/-- Two recorders, one after the other. -/
theorem run_sequential :
    ∃ final, (recording codec).run
        ⟨emptyStore, [⟨token, [first, first'], none⟩, ⟨token, [second, second'], none⟩]⟩
        (inOrder [0, 0, 1, 1] nonce) = some final ∧ final.Completed := by
  simp [Machine.run, recording, inOrder, emptyStore, SessionStore.saveSession,
    SessionStore.appendTurn, Recording.Completed, isPath]

end

/-- The second run's user turn lands between the two turns of the first. -/
theorem interleaved_runs_unpaired :
    ∃ final, (recording sampleCodec).run (inFlight emptyStore "device01".toList sampleRuns)
        (inOrder [0, 1, 0, 1] zeroNonce) = some final ∧
      final.Completed ∧ ¬ PairedHistory (final.store.getHistory "device01".toList) := by
  rw [inFlight, sampleRuns_recorders]
  rcases run_alternating device01_path ⟨"user".toList, "a".toList, some "r1".toList⟩
    ⟨"assistant".toList, "x".toList, some "r1".toList⟩ ⟨"user".toList, "b".toList, some "r2".toList⟩
    ⟨"assistant".toList, "y".toList, some "r2".toList⟩ zeroNonce with ⟨final, runs, completed, history⟩
  refine ⟨final, runs, completed, ?_⟩
  rw [history]
  rintro (_ | ⟨pair, _⟩)
  exact user_ne_assistant pair.2.1

theorem history_paired_iff_sequential :
    ∃ final, (recording sampleCodec).run (inFlight emptyStore "device01".toList sampleRuns)
        (inOrder [0, 0, 1, 1] zeroNonce) = some final ∧
      (PairedHistory (final.store.getHistory "device01".toList) ↔
        Uninterrupted (inOrder [0, 0, 1, 1] zeroNonce)) := by
  have finishes : ∃ final, (recording sampleCodec).run (inFlight emptyStore "device01".toList sampleRuns)
      (inOrder [0, 0, 1, 1] zeroNonce) = some final ∧ final.Completed := by
    rw [inFlight, sampleRuns_recorders]
    exact run_sequential device01_path _ _ _ _ zeroNonce
  rcases finishes with ⟨final, runs, completed⟩
  exact ⟨final, runs, history_paired_iff sampleCodec "device01".toList emptyStore sampleRuns final
    (inOrder [0, 0, 1, 1] zeroNonce) .nil runs completed⟩

end Agent
end Rabb1tClaw
