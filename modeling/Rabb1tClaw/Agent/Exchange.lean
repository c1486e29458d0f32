import Rabb1tClaw.Agent.Background
import Rabb1tClaw.Agent.Recording
import Rabb1tClaw.Connection.Service

namespace Rabb1tClaw
namespace Agent

open Foundations
open Connection (Arrival MethodCall Moment SocketContext SocketTask frameLoop)
open Protocol
open Provider (StreamChunk)

/-!
# The exchange of a run

A run that finishes records its exchange: the message of the user, the reply
of the assistant, and the background tasks that the reply asks for.  Nothing
of it is recorded before the end, so that a run that fails leaves no trace
(`handleAgent_all_or_nothing`).

`performEffects` performs the calls of one run on what the gateway stores,
while nothing else acts on it.  The calls for the device are not stored.
-/

structure StoredState where
  sessionStore : SessionStore
  background : Background

namespace StoredState

def getHistory (stored : StoredState) (token : Text) : List ConversationTurn :=
  stored.sessionStore.getHistory token

end StoredState

/-- What the calls of a run take from elsewhere: the configuration, and for
the call at each position the clock and the nonce. -/
structure RunEnvironment where
  codec : SessionCodec
  fromStr : ParseArray
  limits : DispatchLimits
  nowMs : Nat → Nat
  nonce : Nat → Nonce
  markerMoment : Nat → DispatchMoment

/-- One call; a token without a prefix panics. -/
def applyEffect (environment : RunEnvironment) (position : Nat) (stored : StoredState) :
    RunEffect → Option StoredState
  | .recordMessage token role content runId =>
      let appended := stored.sessionStore.appendTurn token
        ⟨role, content, environment.nowMs position, runId⟩
      (appended.1.saveSession environment.codec token (environment.nonce position) appended.2).map
        fun sessionStore => { stored with sessionStore }
  | .dispatchBackgroundAgents token fullResponse =>
      (stored.background.dispatchBackgroundAgents environment.fromStr environment.limits
        environment.markerMoment token fullResponse).map fun background => { stored with background }
  | .lifecycleStart _ | .streamDelta .. | .streamDone .. | .runError .. | .release _ => some stored

/-- The calls of a run, from a position on. -/
def performEffects (environment : RunEnvironment) (position : Nat) (stored : StoredState) :
    List RunEffect → Option StoredState
  | [] => some stored
  | effect :: effects =>
      (applyEffect environment position stored effect).bind fun next =>
        performEffects environment (position + 1) next effects

/-- The calls behind the acknowledgement of a request.  Without a model, there
is no run to start. -/
def handledEffects (request : AgentRequest) : Option (Except Text (List StreamChunk)) → List RunEffect
  | none =>
      [.release request.dedupKey,
        .runError request.runId request.requestId 0 "no LLM model configured".toList]
  | some streamed => (streamAgentResponse request.job streamed).effects

/-- The calls without a model are those that the service performs. -/
theorem operations_handledEffects (request : AgentRequest) (now : UInt64) :
    (handledEffects request none).flatMap (Connection.operationsOf fun _ => now) =
      Connection.unresolvedOperations request now := rfl

/-! ## Calls that store nothing -/

def RunEffect.storesNothing : RunEffect → Bool
  | recordMessage .. | dispatchBackgroundAgents .. => false
  | _ => true

section

variable {environment : RunEnvironment} {position : Nat} {stored : StoredState}

theorem performEffects_append (first second : List RunEffect) :
    performEffects environment position stored (first ++ second) =
      (performEffects environment position stored first).bind fun middle =>
        performEffects environment (position + first.length) middle second := by
  induction first generalizing position stored with
  | nil => rfl
  | cons effect first inductionHypothesis =>
      rw [List.cons_append, performEffects, performEffects, Option.bind_assoc]
      refine congrArg _ (funext fun next => ?_)
      rw [inductionHypothesis, List.length_cons, Nat.add_assoc, Nat.add_comm 1]

theorem performEffects_quiet {effects : List RunEffect}
    (quiet : ∀ effect ∈ effects, effect.storesNothing = true) :
    performEffects environment position stored effects = some stored := by
  induction effects generalizing position with
  | nil => rfl
  | cons effect effects inductionHypothesis =>
      have here : applyEffect environment position stored effect = some stored := by
        have nothing := quiet effect List.mem_cons_self
        cases effect with
        | recordMessage _ _ _ _ | dispatchBackgroundAgents _ _ => cases nothing
        | _ => rfl
      rw [performEffects, here, Option.bind_some]
      exact inductionHypothesis fun other member => quiet other (List.mem_cons_of_mem effect member)

theorem sequenced_quiet {job : StreamJob} {loop : ChunkLoop} {deltas : List Text}
    (sequenced : Sequenced job loop deltas) :
    ∀ effect ∈ loop.effects, effect.storesNothing = true := by
  intro effect member
  rw [sequenced.effects] at member
  rcases List.mem_cons.mp member with rfl | delta
  · rfl
  · rcases List.mem_map.mp delta with ⟨entry, _, rfl⟩
    rfl

/-! ## The calls of a run -/

/-- A run that finishes ends with its exchange. -/
theorem effects_finished {job : StreamJob} {texts : List Text} {response clean : Text}
    (full : fullResponse job texts = .returned response)
    (stripped : stripTaskMarkers response = .returned clean) (later : List StreamChunk) :
    ∃ front back, (∀ effect ∈ front, effect.storesNothing = true) ∧
      (∀ effect ∈ back, effect.storesNothing = true) ∧
      (streamAgentResponse job (.ok (texts.map .text ++ .done :: later))).effects =
        front ++ (ChunkLoop.recordExchange job response clean ++ back) := by
  rcases sequenced_onTexts (absorbed_initial job) sequenced_initial texts with
    ⟨loop, sent, run, absorbed, sequenced⟩
  have same : fullResponse job texts = .returned loop.responseAtDone := by
    rw [fullResponse, run, Outcome.map_returned]
  rcases Outcome.returned.inj (same.symm.trans full) with rfl
  rcases sequenced_flush absorbed sequenced with ⟨remaining, filter, more, flushes, flushed⟩
  refine ⟨_, [.streamDone job.runId job.requestId job.sessionKey
    (remaining.elim loop (loop.emitDelta job)).seq clean, .release job.dedupKey],
    sequenced_quiet flushed, ?_, ?_⟩
  · simp [RunEffect.storesNothing]
  · simp only [streamAgentResponse, receive_onTexts run, ChunkLoop.receive, ChunkLoop.onDone, flushes]
    rw [conclude_effects, stripped]

/-- The provider fails, or there is no model. -/
inductive Fails : Option (Except Text (List StreamChunk)) → Prop
  | unresolved : Fails none
  | unstarted {message : Text} : Fails (some (.error message))
  | failed {texts : List Text} {message : Text} {later : List StreamChunk} :
      Fails (some (.ok (texts.map .text ++ .error message :: later)))

theorem effects_fails {request : AgentRequest} {outcome : Option (Except Text (List StreamChunk))}
    (fails : Fails outcome) : ∀ effect ∈ handledEffects request outcome, effect.storesNothing = true := by
  cases fails with
  | unresolved =>
      intro effect member
      rcases List.mem_pair.mp member with rfl | rfl <;> rfl
  | unstarted =>
      intro effect member
      simp only [handledEffects, streamAgentResponse, RunTrace.cleanup, List.mem_append, List.mem_cons,
        List.not_mem_nil, or_false] at member
      rcases member with (rfl | rfl) | rfl <;> rfl
  | @failed texts message later =>
      rcases sequenced_onTexts (absorbed_initial request.job) sequenced_initial texts with
        ⟨loop, sent, run, _, sequenced⟩
      intro effect member
      simp only [handledEffects, streamAgentResponse, receive_onTexts run, ChunkLoop.receive,
        RunTrace.cleanup, List.mem_append, List.mem_singleton] at member
      rcases member with (early | rfl) | rfl
      · exact sequenced_quiet sequenced effect early
      · rfl
      · rfl

/-- Whatever happens, a run stores its exchange or nothing. -/
theorem effects_cases (request : AgentRequest) (outcome : Option (Except Text (List StreamChunk))) :
    (∀ effect ∈ handledEffects request outcome, effect.storesNothing = true) ∨
      ∃ front back response clean, (∀ effect ∈ front, effect.storesNothing = true) ∧
        (∀ effect ∈ back, effect.storesNothing = true) ∧
        handledEffects request outcome =
          front ++ (ChunkLoop.recordExchange request.job response clean ++ back) := by
  cases outcome with
  | none => exact Or.inl (effects_fails .unresolved)
  | some streamed =>
      rcases streamAgentResponse_cases request.job streamed with ⟨loop, deltas, sequenced, cases⟩
      have quiet := sequenced_quiet sequenced
      have released : ∀ effect ∈ [RunEffect.release request.dedupKey], effect.storesNothing = true := by
        simp [RunEffect.storesNothing]
      rcases cases with ⟨_, _, tail, conclusion, effects⟩ | ⟨_, _, effects⟩ | ⟨_, effects⟩
      · cases conclusion with
        | @finished response clean =>
            refine Or.inr ⟨loop.effects, _, response, clean, quiet, ?_, effects⟩
            simp [RunEffect.storesNothing]
        | failed =>
            left
            rw [handledEffects, effects]
            intro effect member
            rcases List.mem_append.mp member with early | late
            · exact quiet effect early
            · rcases List.mem_pair.mp late with rfl | rfl <;> rfl
      · left
        rw [handledEffects, effects]
        intro effect member
        exact (List.mem_append.mp member).elim (quiet effect) (released effect)
      · left
        rw [handledEffects, effects]
        exact quiet

/-! ## Recording the exchange -/

theorem applyEffect_recordMessage {token path : Text} (named : conversationPath token = some path)
    (role content : Text) (runId : Option Text) :
    ∃ next, applyEffect environment position stored (.recordMessage token role content runId) = some next ∧
      next.background = stored.background ∧
      next.getHistory token =
        stored.getHistory token ++ [⟨role, content, environment.nowMs position, runId⟩] ∧
      ∀ other, other ≠ token → next.getHistory other = stored.getHistory other := by
  have kept (store : SessionStore) (session : ConversationSession) : ∃ saved,
      store.saveSession environment.codec token (environment.nonce position) session = some saved ∧
        saved.sessions = store.sessions := by
    rw [SessionStore.saveSession, named]
    exact ⟨_, rfl, rfl⟩
  rcases kept (stored.sessionStore.appendTurn token ⟨role, content, environment.nowMs position, runId⟩).1
    (stored.sessionStore.appendTurn token ⟨role, content, environment.nowMs position, runId⟩).2 with
    ⟨saved, saves, same⟩
  have history (other : Text) : saved.getHistory other = (stored.sessionStore.appendTurn token
      ⟨role, content, environment.nowMs position, runId⟩).1.getHistory other := by
    rw [SessionStore.getHistory, same]
    rfl
  refine ⟨⟨saved, stored.background⟩, ?_, rfl, ?_, ?_⟩
  · simp only [applyEffect, saves, Option.map_some]
  · exact (history token).trans (getHistory_appendTurn _ _ _).1
  · intro other differs
    exact (history other).trans (getHistory_appendTurn_other _ differs _)

/-- What the record of an exchange adds. -/
structure Exchanged (environment : RunEnvironment) (token userMessage response clean runId : Text)
    (before after : StoredState) : Prop where
  turns : ∃ asked answered, after.getHistory token = before.getHistory token ++
    [⟨"user".toList, userMessage, asked, some runId⟩, ⟨"assistant".toList, clean, answered, some runId⟩]
  others : ∀ other, other ≠ token → after.getHistory other = before.getHistory other
  tasks : ∃ devicePrefix markers, tokenPrefix token = some devicePrefix ∧
    parseTaskMarkers environment.fromStr response = .returned markers ∧
    Dispatches devicePrefix markers before.background after.background

theorem performEffects_exchange {request : AgentRequest} {token devicePrefix : Text}
    {front back : List RunEffect} (response clean : Text)
    (authenticated : request.deviceToken = some token) (named : tokenPrefix token = some devicePrefix)
    (quietBefore : ∀ effect ∈ front, effect.storesNothing = true)
    (quietBehind : ∀ effect ∈ back, effect.storesNothing = true) :
    ∃ after, performEffects environment position stored
        (front ++ (ChunkLoop.recordExchange request.job response clean ++ back)) = some after ∧
      Exchanged environment token request.message response clean request.runId stored after := by
  have path : conversationPath token = some (devicePrefix ++ "/conversation.enc".toList) := by
    rw [conversationPath, named]
    rfl
  have calls : ChunkLoop.recordExchange request.job response clean =
      [.recordMessage token "user".toList request.message (some request.runId),
        .recordMessage token "assistant".toList clean (some request.runId),
        .dispatchBackgroundAgents token response] := by
    simp only [ChunkLoop.recordExchange, AgentRequest.job, authenticated]
  have parsed := parseTaskMarkers_eq environment.fromStr (scan_laid parseDelimiters response)
  rw [performEffects_append, performEffects_quiet quietBefore, Option.bind_some, calls]
  rcases @applyEffect_recordMessage environment (position + front.length) stored _ _ path
      "user".toList request.message (some request.runId) with ⟨asked, first, background, turn, others⟩
  rcases @applyEffect_recordMessage environment (position + front.length + 1) asked _ _ path
      "assistant".toList clean (some request.runId) with ⟨answered, second, background', turn', others'⟩
  have dispatched : applyEffect environment (position + front.length + 1 + 1) answered
      (.dispatchBackgroundAgents token response) = some
        { answered with
          background := answered.background.handleMarkers environment.limits devicePrefix
            environment.markerMoment (markersOf environment.fromStr (scan parseDelimiters response)) } := by
    simp only [applyEffect, Background.dispatchBackgroundAgents, named, parsed, Option.map_some]
  simp only [List.cons_append, List.nil_append, performEffects, first, second, dispatched,
    Option.bind_some]
  rw [performEffects_quiet quietBehind]
  refine ⟨_, rfl, ?_, ?_, ?_⟩
  · refine ⟨environment.nowMs (position + front.length), environment.nowMs (position + front.length + 1), ?_⟩
    refine Eq.trans turn' ?_
    rw [turn, List.append_assoc]
    rfl
  · intro other differs
    exact (others' other differs).trans (others other differs)
  · refine ⟨devicePrefix, _, named, parsed, ?_⟩
    rw [← background, ← background']
    exact dispatches_handleMarkers environment.limits devicePrefix environment.markerMoment _ _

/-! ## All or nothing -/

/-- What handling an agent request does to the stored state of a device. -/
structure AllOrNothing (environment : RunEnvironment) (token : Text) (agentParams : AgentParams)
    (request : AgentRequest) (outcome : Option (Except Text (List StreamChunk)))
    (before after : StoredState) : Prop where
  failed : Fails outcome → after = before
  finished : ∀ texts later response clean, outcome = some (.ok (texts.map .text ++ .done :: later)) →
    fullResponse request.job texts = .returned response → stripTaskMarkers response = .returned clean →
      Exchanged environment token agentParams.message.trim response clean agentParams.idempotencyKey
        before after
  others : ∀ other, other ≠ token → after.getHistory other = before.getHistory other

/-- The request that `handle_agent` goes on with. -/
theorem handleAgent_request {context : SocketContext} {call : MethodCall} {params : JsonValue}
    {agentParams : AgentParams} {request : AgentRequest} (given : call.params = some params)
    (decoded : context.decoder.agentParams params = .ok agentParams)
    (handled : handleAgent context call = .agent request) :
    request = ⟨call.requestId, call.deviceToken, agentParams.idempotencyKey, agentParams.message.trim⟩ := by
  simp only [handleAgent, given, decoded] at handled
  split at handled
  · cases handled
  · exact (Dispatched.agent.inj handled).symm

/-- The run of an authenticated device stores its whole exchange, or nothing. -/
theorem handleAgent_all_or_nothing {context : SocketContext} {history : List (Moment × Arrival)}
    {task : SocketTask} (runs : (frameLoop context).run .start history = some task) {moment : Moment}
    {arrival : Arrival} {call : MethodCall}
    (called : .dispatchMethod call ∈ (task.receive context moment arrival).2) {token : Text}
    (authenticated : call.deviceToken = some token) {params : JsonValue} {agentParams : AgentParams}
    (given : call.params = some params) (decoded : context.decoder.agentParams params = .ok agentParams)
    {request : AgentRequest} (handled : handleAgent context call = .agent request)
    (environment : RunEnvironment) (outcome : Option (Except Text (List StreamChunk)))
    (before : StoredState) :
    ∃ after, performEffects environment 0 before (handledEffects request outcome) = some after ∧
      AllOrNothing environment token agentParams request outcome before after := by
  have known := handleAgent_request given decoded handled
  have owner : request.deviceToken = some token := by rw [known, authenticated]
  have established : task.authenticatedToken = some token :=
    (Connection.dispatchMethod_cases called).2.symm.trans authenticated
  rcases Option.isSome_iff_exists.mp (Connection.authenticatedToken_named runs token established) with
    ⟨devicePrefix, named⟩
  rcases effects_cases request outcome with quiet | ⟨front, back, response, clean, quiet, quiet', effects⟩
  · refine ⟨before, performEffects_quiet quiet, fun _ => rfl, ?_, fun _ _ => rfl⟩
    rintro texts later response clean rfl full stripped
    rcases effects_finished full stripped later with ⟨front, back, _, _, effects⟩
    have member : .recordMessage token "user".toList request.message (some request.runId) ∈
        handledEffects request (some (.ok (texts.map .text ++ .done :: later))) := by
      rw [handledEffects, effects]
      simp [ChunkLoop.recordExchange, AgentRequest.job, owner]
    cases quiet _ member
  · rcases @performEffects_exchange environment 0 before _ _ _ _ _ response clean owner named quiet quiet' with
      ⟨after, performed, exchanged⟩
    rw [← effects] at performed
    refine ⟨after, performed, fun fails => ?_, ?_, exchanged.others⟩
    · exact Option.some.inj (performed.symm.trans (performEffects_quiet (effects_fails fails)))
    · rintro texts later response' clean' rfl full stripped
      rcases effects_finished full stripped later with ⟨front', back', quietBefore, quietBehind, effects'⟩
      rcases @performEffects_exchange environment 0 before _ _ _ _ _ response' clean' owner named
        quietBefore quietBehind with ⟨after', performed', exchanged'⟩
      rw [← effects'] at performed'
      rcases Option.some.inj (performed.symm.trans performed') with rfl
      rw [known] at exchanged'
      exact exchanged'

end

/-- Empty sessions and trackers. -/
def emptyState : StoredState where
  sessionStore := ⟨fun _ => none, fun _ => none⟩
  background := ⟨⟨fun _ => []⟩, ⟨fun _ => []⟩, ⟨fun _ => []⟩, [], 1, fun _ => none⟩

def sampleEnvironment : RunEnvironment where
  codec := sampleCodec
  fromStr := fun _ => none
  limits := ⟨none, none, none, none⟩
  nowMs := id
  nonce := fun _ => zeroNonce
  markerMoment := fun _ => ⟨0, "00:00:00".toList⟩

theorem handleAgent_all_or_nothing_hello :
    ∃ after, performEffects sampleEnvironment 0 emptyState
        (handledEffects ⟨"3".toList, some "a".toList, "k".toList, "hi".toList⟩
          (some (finishedStream ["hello".toList]))) = some after ∧
      AllOrNothing sampleEnvironment "a".toList ⟨"hi".toList, "k".toList⟩
        ⟨"3".toList, some "a".toList, "k".toList, "hi".toList⟩ (some (finishedStream ["hello".toList]))
        emptyState after := by
  have runs : (frameLoop Connection.sampleContext).run SocketTask.start
      [(Connection.sampleMoment "a".toList, .text Connection.connectText)] =
        some ⟨true, some "a".toList, .receiving⟩ := rfl
  have called : Connection.SocketEffect.dispatchMethod ⟨"3".toList, some "a".toList, "agent".toList,
      some (.object [("message".toList, .string "hi".toList), ("idempotencyKey".toList, .string "k".toList)])⟩ ∈
      (SocketTask.receive Connection.sampleContext (Connection.sampleMoment "a".toList)
        ⟨true, some "a".toList, .receiving⟩ (.text Connection.agentText)).2 := List.mem_singleton.mpr rfl
  exact handleAgent_all_or_nothing runs called rfl rfl rfl rfl sampleEnvironment _ emptyState

end Agent
end Rabb1tClaw
