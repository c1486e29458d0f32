import Rabb1tClaw.Agent.Events
import Rabb1tClaw.Connection.FrameLoop

namespace Rabb1tClaw
namespace Agent

open Foundations
open Connection (MethodCall Moment SocketContext)
open Protocol

/-!
# Method dispatch

`dispatch_method` answers a request at once, or it fails and its caller
answers, or it hands a well-formed agent request on.  What such a request does
afterwards takes several steps, which other requests may come between.
-/

/-- An agent request with a message. -/
structure AgentRequest where
  requestId : Text
  deviceToken : Option Text
  runId : Text
  message : Text
  deriving DecidableEq, Repr

namespace AgentRequest

/-- The idempotency key, scoped per device. -/
def dedupKey (request : AgentRequest) : Option Text × Text := (request.deviceToken, request.runId)

/-- The job of the request's run. -/
def job (request : AgentRequest) : StreamJob where
  runId := request.runId
  requestId := request.requestId
  sessionKey := defaultSessionKey
  deviceToken := request.deviceToken
  userMessage := request.message
  dedupKey := request.dedupKey

/-- The acknowledgement of the request. -/
def accepted (request : AgentRequest) (now : UInt64) : ResponseFrame :=
  .success request.requestId (.object
    [("runId".toList, .string request.runId), ("status".toList, .string "accepted".toList),
      ("acceptedAt".toList, unsigned now)])

end AgentRequest

/-- What a method call comes to: a response, an error for the caller to
report, or an agent request. -/
inductive Dispatched where
  | respond (frame : ResponseFrame)
  | failed (message : Text)
  | agent (request : AgentRequest)

/-- `handle_health`. -/
def handleHealth (context : SocketContext) (moment : Moment) (call : MethodCall) : Dispatched :=
  .respond (.success call.requestId (.object
    [("ok".toList, .bool true), ("uptimeMs".toList, unsigned (moment.now - context.startedAt)),
      ("version".toList, .string context.version)]))

def historyMessage (turn : ConversationTurn) : JsonValue :=
  .object
    [("role".toList, .string turn.role), ("content".toList, textContent turn.content),
      ("timestamp".toList, unsigned (UInt64.ofNat turn.timestampMs)),
      ("runId".toList, (turn.runId.map JsonValue.string).getD .null)]

/-- `handle_chat_history`. -/
def handleChatHistory (moment : Moment) (call : MethodCall) : Dispatched :=
  let messages :=
    match call.deviceToken with
    | none => []
    | some token => (moment.history token).map historyMessage
  .respond (.success call.requestId (.object
    [("messages".toList, .array messages), ("hasMore".toList, .bool false)]))

/-- `handle_agent` up to the acknowledgement. -/
def handleAgent (context : SocketContext) (call : MethodCall) : Dispatched :=
  match call.params with
  | none => .respond (.failure call.requestId (.invalidRequest "missing params".toList))
  | some params =>
      match context.decoder.agentParams params with
      | .error message => .failed ("invalid agent params: ".toList ++ message)
      | .ok params =>
          let message := params.message.trim
          if message = [] then
            .respond (.failure call.requestId (.invalidRequest "message is empty".toList))
          else
            .agent ⟨call.requestId, call.deviceToken, params.idempotencyKey, message⟩

/-- `dispatch_method`. -/
def dispatchMethod (context : SocketContext) (moment : Moment) (call : MethodCall) : Dispatched :=
  if call.method = "health".toList then
    handleHealth context moment call
  else if call.method = "agent".toList ∨ call.method = "chat.send".toList then
    handleAgent context call
  else if call.method = "chat.history".toList then
    handleChatHistory moment call
  else
    .respond (.failure call.requestId (.notFound ("unknown method: ".toList ++ call.method)))

/-- Whatever answers a call carries its request id, and an agent request keeps
the identity of the caller. -/
theorem dispatchMethod_cases (context : SocketContext) (moment : Moment) (call : MethodCall) :
    (∃ frame, dispatchMethod context moment call = .respond frame ∧ frame.id = call.requestId) ∨
    (∃ message, dispatchMethod context moment call = .failed message) ∨
    ∃ request, dispatchMethod context moment call = .agent request ∧
      request.requestId = call.requestId ∧ request.deviceToken = call.deviceToken := by
  unfold dispatchMethod
  split
  · exact Or.inl ⟨_, rfl, rfl⟩
  · split
    · unfold handleAgent
      split
      · exact Or.inl ⟨_, rfl, rfl⟩
      · split
        · exact Or.inr (Or.inl ⟨_, rfl⟩)
        · simp only
          split
          · exact Or.inl ⟨_, rfl, rfl⟩
          · exact Or.inr (Or.inr ⟨_, rfl, rfl, rfl⟩)
    · split
      · exact Or.inl ⟨_, rfl, rfl⟩
      · exact Or.inl ⟨_, rfl, rfl⟩

end Agent
end Rabb1tClaw
