import Rabb1tClaw.Agent.Session
import Rabb1tClaw.Connection.Auth
import Rabb1tClaw.Foundations.Machine
import Rabb1tClaw.Protocol.Frames
import Rabb1tClaw.State.Reload

namespace Rabb1tClaw
namespace Connection

open Foundations
open Agent (ConversationTurn JsonValue tokenPrefix)
open Config (DeviceStore)
open Protocol

/-!
# The frame loop of a socket

`handle_socket` keeps two variables over the frames of a connection: whether a
connect has succeeded, and the device token that the last successful connect
established.  `SocketTask.receive` handles one arrival: it updates the
variables and lists the calls that the source makes, in their order.

The device store is read anew at every connect.  What the loop reads from the
shared state at an arrival is a `Moment`, and nothing relates the moments of
two arrivals.
-/

/-- What a socket's task is given once. -/
structure SocketContext where
  decoder : Decoder
  constantTimeEq : List UInt8 → List UInt8 → Bool
  version : Text
  configPath : Text
  stateDir : Text
  startedAt : UInt64
  connId : Text
  isLocal : Bool

/-- What is read from the shared state while an arrival is handled. -/
structure Moment where
  deviceStore : DeviceStore
  history : Text → List ConversationTurn
  now : UInt64

/-- What ends the wait of the loop: a message of the client, the loss of the
socket, or the shutdown notification. -/
inductive Arrival where
  | text (text : Text)
  | binary
  | ping
  | pong
  | close
  | lost
  | shutdown

/-- A task that panics ends without its cleanup. -/
inductive TaskPhase where
  | receiving
  | left
  | panicked
  deriving DecidableEq, Repr

structure SocketTask where
  connected : Bool
  authenticatedToken : Option Text
  phase : TaskPhase
  deriving DecidableEq, Repr

/-- The arguments of a `dispatch_method` call. -/
structure MethodCall where
  requestId : Text
  deviceToken : Option Text
  method : Text
  params : Option JsonValue

/-- A call that the loop makes. -/
inductive SocketEffect where
  | send (frame : OutgoingFrame)
  | registerConnection (token : Text)
  | spawnTickTask
  | dispatchMethod (call : MethodCall)

/-- `ConnectOutcome`, and the panic of a token without a prefix. -/
inductive ConnectOutcome where
  | connected (deviceToken : Option Text)
  | needsPairing
  | rejected
  | panicked
  deriving DecidableEq, Repr

/-! ## The handshake -/

/-- `create_hello_ok`, as it is serialized. -/
def createHelloOk (context : SocketContext) (deviceToken : Option Text) (now : UInt64) : JsonValue :=
  .object (
    [("type".toList, .string "hello-ok".toList),
      ("protocol".toList, unsigned 3),
      ("server".toList, .object
        [("version".toList, .string context.version), ("connId".toList, .string context.connId)]),
      ("features".toList, .object
        [("methods".toList, .array [.string "health".toList, .string "agent".toList,
            .string "chat.send".toList, .string "chat.history".toList]),
          ("events".toList, .array
            [.string "agent".toList, .string "chat".toList, .string "tick".toList])]),
      ("snapshot".toList, .object
        [("configPath".toList, .string context.configPath),
          ("stateDir".toList, .string context.stateDir)]),
      ("policy".toList, .object
        [("maxPayload".toList, unsigned 524288), ("maxBufferedBytes".toList, unsigned 1572864),
          ("tickIntervalMs".toList, unsigned 30000)])] ++
    (deviceToken.map fun token =>
      ("auth".toList, JsonValue.object
        [("deviceToken".toList, .string token), ("issuedAtMs".toList, unsigned now)])).toList)

/-- The token of a session: that of the validated device, and none of a local
client. -/
def sessionToken (connectAuth : Option ConnectAuth) : AuthMethod → Option Text
  | .deviceToken => connectAuth.bind ConnectAuth.token
  | .localClient => none

/-- The credentials of a connect request. -/
def presentedAuth (context : SocketContext) (params : Option JsonValue) : Option ConnectAuth :=
  (params.bind context.decoder.connectParams).bind ConnectParams.auth

/-- `handle_connect`. -/
def handleConnect (context : SocketContext) (moment : Moment) (requestId : Text)
    (params : Option JsonValue) : ConnectOutcome × List SocketEffect :=
  let connectAuth := presentedAuth context params
  match authorizeConnect context.constantTimeEq moment.deviceStore connectAuth context.isLocal with
  | .ok method =>
      let deviceToken := sessionToken connectAuth method
      if deviceToken.all fun token => (tokenPrefix token).isSome then
        (.connected deviceToken,
          (deviceToken.map SocketEffect.registerConnection).toList ++
            [.send (.response (.success requestId (createHelloOk context deviceToken moment.now))),
              .spawnTickTask])
      else
        (.panicked, [])
  | .failed failure =>
      (if failure = .needsPairing then .needsPairing else .rejected,
        [.send (.response (.failure requestId
          (.invalidRequest ("unauthorized: ".toList ++ failure.asStr))))])

/-- The response to a successful connect. -/
def helloResponse (context : SocketContext) (moment : Moment) (requestId : Text)
    (deviceToken : Option Text) : ResponseFrame :=
  .success requestId (createHelloOk context deviceToken moment.now)

section

variable {context : SocketContext} {moment : Moment} {requestId : Text} {params : Option JsonValue}

theorem handleConnect_ok {method : AuthMethod}
    (authorized : authorizeConnect context.constantTimeEq moment.deviceStore
      (presentedAuth context params) context.isLocal = .ok method)
    (named : (sessionToken (presentedAuth context params) method).all
      (fun token => (tokenPrefix token).isSome) = true) :
    handleConnect context moment requestId params =
      (.connected (sessionToken (presentedAuth context params) method),
        ((sessionToken (presentedAuth context params) method).map
          SocketEffect.registerConnection).toList ++
          [.send (.response (helloResponse context moment requestId
            (sessionToken (presentedAuth context params) method))), .spawnTickTask]) := by
  simp only [handleConnect, authorized, named, if_true, helloResponse]

theorem handleConnect_unnamed {method : AuthMethod}
    (authorized : authorizeConnect context.constantTimeEq moment.deviceStore
      (presentedAuth context params) context.isLocal = .ok method)
    (unnamed : (sessionToken (presentedAuth context params) method).all
      (fun token => (tokenPrefix token).isSome) = false) :
    handleConnect context moment requestId params = (.panicked, []) := by
  simp only [handleConnect, authorized, unnamed, Bool.false_eq_true, if_false]

theorem handleConnect_failed {failure : AuthFailure}
    (refused : authorizeConnect context.constantTimeEq moment.deviceStore
      (presentedAuth context params) context.isLocal = .failed failure) :
    handleConnect context moment requestId params =
      (if failure = .needsPairing then .needsPairing else .rejected,
        [.send (.response (.failure requestId
          (.invalidRequest ("unauthorized: ".toList ++ failure.asStr))))]) := by
  simp only [handleConnect, refused]

end

/-! ## One arrival -/

namespace SocketTask

def start : SocketTask := ⟨false, none, .receiving⟩

/-- A request that was parsed. -/
def handleRequest (context : SocketContext) (moment : Moment) (task : SocketTask)
    (frame : IncomingFrame) : SocketTask × List SocketEffect :=
  if frame.method = "connect".toList then
    match handleConnect context moment frame.id frame.params with
    | (.connected token, effects) =>
        ({ task with connected := true, authenticatedToken := token }, effects)
    | (.needsPairing, effects) => (task, effects)
    | (.rejected, effects) =>
        ({ task with phase := .left }, effects ++ [.send (.close 1008 "auth_failed".toList)])
    | (.panicked, effects) => ({ task with phase := .panicked }, effects)
  else if !task.connected then
    (task, [.send (.response (.failure frame.id
      (.unauthorized "not connected, send 'connect' first".toList)))])
  else
    (task, [.dispatchMethod ⟨frame.id, task.authenticatedToken, frame.method, frame.params⟩])

/-- One turn of the loop. -/
def receive (context : SocketContext) (moment : Moment) (task : SocketTask) :
    Arrival → SocketTask × List SocketEffect
  | .text text =>
      match context.decoder.incomingFrame text with
      | .error message =>
          (task, [.send (.response (.failure "unknown".toList
            (.invalidRequest ("failed to parse frame: ".toList ++ message))))])
      | .ok frame => task.handleRequest context moment frame
  | .binary | .ping | .pong => (task, [])
  | .close | .lost | .shutdown => ({ task with phase := .left }, [])

end SocketTask

/-- The loop: an arrival is handled while the task receives. -/
def frameLoop (context : SocketContext) : Machine SocketTask (Moment × Arrival) where
  step task input :=
    match task.phase with
    | .receiving => some (task.receive context input.1 input.2).1
    | _ => none

/-! ## Connect requests -/

/-- The request in an arrival. -/
def Arrival.request? (context : SocketContext) : Arrival → Option IncomingFrame
  | .text json => (context.decoder.incomingFrame json).toOption
  | _ => none

/-- The credentials of an arrival that is a connect request. -/
def Arrival.connectAuth? (context : SocketContext) (arrival : Arrival) : Option (Option ConnectAuth) :=
  (arrival.request? context).bind fun frame =>
    if frame.method = "connect".toList then some (presentedAuth context frame.params) else none

/-- The arrival is a connect request that the store of its moment authorizes. -/
def Succeeds (context : SocketContext) (input : Moment × Arrival) (connectAuth : Option ConnectAuth)
    (method : AuthMethod) : Prop :=
  input.2.connectAuth? context = some connectAuth ∧
    authorizeConnect context.constantTimeEq input.1.deviceStore connectAuth context.isLocal = .ok method

theorem connectAuth?_request {context : SocketContext} {text : Text} {frame : IncomingFrame}
    (parsed : context.decoder.incomingFrame text = .ok frame) :
    (Arrival.text text).connectAuth? context =
      if frame.method = "connect".toList then some (presentedAuth context frame.params) else none := by
  simp only [Arrival.connectAuth?, Arrival.request?, parsed, Except.toOption, Option.bind_some]

/-- The token of a successful connect names a directory, or there is none. -/
def Named (connectAuth : Option ConnectAuth) (method : AuthMethod) : Prop :=
  ((sessionToken connectAuth method).all fun token => (tokenPrefix token).isSome) = true

/-- The calls of a connect that establishes a session. -/
def establishingCalls (context : SocketContext) (moment : Moment) (requestId : Text)
    (deviceToken : Option Text) : List SocketEffect :=
  (deviceToken.map SocketEffect.registerConnection).toList ++
    [.send (.response (helloResponse context moment requestId deviceToken)), .spawnTickTask]

/-- The calls that touch the registry or the tick tasks. -/
def SocketEffect.keepsBooks : SocketEffect → Bool
  | registerConnection _ | spawnTickTask => true
  | send _ | dispatchMethod _ => false

/-- What a connect request does to the loop: it establishes a session, or it
leaves the variables alone. -/
theorem handleRequest_connect_cases {context : SocketContext} {moment : Moment} {task : SocketTask}
    {frame : IncomingFrame} (connect : frame.method = "connect".toList) :
    (∃ method, authorizeConnect context.constantTimeEq moment.deviceStore
        (presentedAuth context frame.params) context.isLocal = .ok method ∧
      Named (presentedAuth context frame.params) method ∧
      task.handleRequest context moment frame =
        ({ task with
            connected := true
            authenticatedToken := sessionToken (presentedAuth context frame.params) method },
          establishingCalls context moment frame.id
            (sessionToken (presentedAuth context frame.params) method))) ∨
    ∃ phase effects, task.handleRequest context moment frame = ({ task with phase }, effects) ∧
      (∀ effect ∈ effects, effect.keepsBooks = false) ∧
      ∀ method, authorizeConnect context.constantTimeEq moment.deviceStore
        (presentedAuth context frame.params) context.isLocal = .ok method →
          ¬ Named (presentedAuth context frame.params) method ∧ phase = .panicked := by
  unfold SocketTask.handleRequest
  rw [if_pos connect]
  cases authorized : authorizeConnect context.constantTimeEq moment.deviceStore
      (presentedAuth context frame.params) context.isLocal with
  | ok method =>
      cases named : (sessionToken (presentedAuth context frame.params) method).all
          fun token => (tokenPrefix token).isSome with
      | true =>
          rw [handleConnect_ok authorized named]
          exact Or.inl ⟨method, rfl, named, rfl⟩
      | false =>
          rw [handleConnect_unnamed authorized named]
          refine Or.inr ⟨.panicked, [], rfl, by simp, ?_⟩
          rintro _ ⟨⟩
          exact ⟨by simp [Named, named], rfl⟩
  | failed failure =>
      rw [handleConnect_failed authorized]
      cases failure with
      | needsPairing =>
          exact Or.inr ⟨task.phase, _, rfl, by simp [SocketEffect.keepsBooks], fun _ => nofun⟩
      | revoked | invalidToken =>
          exact Or.inr ⟨.left, _, rfl, by simp [SocketEffect.keepsBooks], fun _ => nofun⟩

/-- An arrival is a successful connect and establishes a session, or it leaves
the variables, the registry and the tick tasks alone. -/
theorem receive_cases (context : SocketContext) (moment : Moment) (task : SocketTask)
    (arrival : Arrival) :
    (∃ connectAuth method requestId, Succeeds context (moment, arrival) connectAuth method ∧
      Named connectAuth method ∧
      task.receive context moment arrival =
        ({ task with connected := true, authenticatedToken := sessionToken connectAuth method },
          establishingCalls context moment requestId (sessionToken connectAuth method))) ∨
    ∃ phase effects, task.receive context moment arrival = ({ task with phase }, effects) ∧
      (∀ effect ∈ effects, effect.keepsBooks = false) ∧
      ∀ connectAuth method, Succeeds context (moment, arrival) connectAuth method →
        ¬ Named connectAuth method ∧ phase = .panicked := by
  cases arrival with
  | text text =>
      cases parsed : context.decoder.incomingFrame text with
      | error message =>
          simp only [SocketTask.receive, parsed]
          refine Or.inr ⟨task.phase, _, rfl, by simp [SocketEffect.keepsBooks], ?_⟩
          rintro connectAuth method ⟨isConnect, _⟩
          simp only [Arrival.connectAuth?, Arrival.request?, parsed, Except.toOption] at isConnect
          cases isConnect
      | ok frame =>
          have presented := connectAuth?_request parsed
          simp only [SocketTask.receive, parsed]
          by_cases connect : frame.method = "connect".toList
          · rw [if_pos connect] at presented
            rcases handleRequest_connect_cases connect with
              ⟨method, authorized, named, handled⟩ | ⟨phase, effects, handled, quiet, fails⟩
            · exact Or.inl ⟨_, method, frame.id, ⟨presented, authorized⟩, named, handled⟩
            · refine Or.inr ⟨phase, effects, handled, quiet, ?_⟩
              rintro connectAuth method ⟨isConnect, succeeds⟩
              rcases Option.some.inj (presented.symm.trans isConnect) with rfl
              exact fails method succeeds
          · rw [if_neg connect] at presented
            have never : ∀ connectAuth method,
                ¬ Succeeds context (moment, .text text) connectAuth method := by
              rintro connectAuth method ⟨isConnect, _⟩
              cases presented.symm.trans isConnect
            unfold SocketTask.handleRequest
            rw [if_neg connect]
            by_cases connected : (!task.connected) = true
            · rw [if_pos connected]
              exact Or.inr ⟨task.phase, _, rfl, by simp [SocketEffect.keepsBooks],
                fun connectAuth method succeeds => absurd succeeds (never connectAuth method)⟩
            · rw [if_neg connected]
              exact Or.inr ⟨task.phase, _, rfl, by simp [SocketEffect.keepsBooks],
                fun connectAuth method succeeds => absurd succeeds (never connectAuth method)⟩
  | binary | ping | pong =>
      refine Or.inr ⟨task.phase, [], rfl, by simp, ?_⟩
      rintro connectAuth method ⟨isConnect, _⟩
      cases isConnect
  | close | lost | shutdown =>
      refine Or.inr ⟨.left, [], rfl, by simp, ?_⟩
      rintro connectAuth method ⟨isConnect, _⟩
      cases isConnect

theorem not_dispatchMethod_handleConnect {context : SocketContext} {moment : Moment} {requestId : Text}
    {params : Option JsonValue} {call : MethodCall} :
    .dispatchMethod call ∉ (handleConnect context moment requestId params).2 := by
  cases authorized : authorizeConnect context.constantTimeEq moment.deviceStore
      (presentedAuth context params) context.isLocal with
  | ok method =>
      cases named : (sessionToken (presentedAuth context params) method).all
          fun token => (tokenPrefix token).isSome with
      | true =>
          rw [handleConnect_ok authorized named]
          cases sessionToken (presentedAuth context params) method <;> simp
      | false =>
          rw [handleConnect_unnamed authorized named]
          simp
  | failed failure =>
      rw [handleConnect_failed authorized]
      simp

/-- A session has a token only if the token names a directory. -/
theorem authenticatedToken_named {context : SocketContext} {schedule : List (Moment × Arrival)}
    {task : SocketTask} (runs : (frameLoop context).run .start schedule = some task) :
    ∀ token, task.authenticatedToken = some token → (tokenPrefix token).isSome = true := by
  have preserved : ∀ (past : List (Moment × Arrival)) state input next,
      (∀ token, state.authenticatedToken = some token → (tokenPrefix token).isSome = true) →
      (frameLoop context).step state input = some next →
      ∀ token, next.authenticatedToken = some token → (tokenPrefix token).isSome = true := by
    intro _ state input next holds step token established
    simp only [frameLoop] at step
    split at step
    · rcases Option.some.inj step with rfl
      rcases receive_cases context input.1 state input.2 with
        ⟨connectAuth, method, requestId, _, named, handled⟩ | ⟨phase, effects, handled, _⟩
      · rw [handled] at established
        exact (Option.all_eq_true _ _).mp named token established
      · rw [handled] at established
        exact holds token established
    · cases step
  have start : ∀ token, SocketTask.start.authenticatedToken = some token →
      (tokenPrefix token).isSome = true := by
    intro token never
    cases never
  exact Machine.run_invariant preserved [] start runs

/-- A method is dispatched for the token of the loop, once it is connected. -/
theorem dispatchMethod_cases {context : SocketContext} {moment : Moment} {task : SocketTask}
    {arrival : Arrival} {call : MethodCall}
    (called : .dispatchMethod call ∈ (task.receive context moment arrival).2) :
    task.connected = true ∧ call.deviceToken = task.authenticatedToken := by
  cases arrival with
  | text text =>
      simp only [SocketTask.receive] at called
      split at called
      · simp at called
      · rename_i frame parsed
        unfold SocketTask.handleRequest at called
        split at called
        · have outside : .dispatchMethod call ∉ (handleConnect context moment frame.id frame.params).2 :=
            not_dispatchMethod_handleConnect
          cases result : handleConnect context moment frame.id frame.params with
          | mk outcome effects =>
              rw [result] at called outside
              cases outcome with
              | rejected =>
                  rcases List.mem_append.mp called with early | late
                  · exact absurd early outside
                  · simp at late
              | connected | needsPairing | panicked => exact absurd called outside
        · split at called
          · simp at called
          · rename_i connected
            have same := SocketEffect.dispatchMethod.inj (List.mem_singleton.mp called)
            exact ⟨by simpa using connected, congrArg MethodCall.deviceToken same⟩
  | _ => cases called

/-! ## Session identity -/

/-- The identity of a session, by the method that authorized it. -/
inductive Establishes (context : SocketContext) (moment : Moment) (connectAuth : Option ConnectAuth) :
    AuthMethod → Option Text → Prop
  | device {token : Text} (presented : connectAuth.bind ConnectAuth.token = some token)
      (active : moment.deviceStore.Authorizes token) :
      Establishes context moment connectAuth .deviceToken (some token)
  | localClient (isLocal : context.isLocal = true)
      (unpaired : moment.deviceStore.devices.entries = []) :
      Establishes context moment connectAuth .localClient none

/-- The identity that the latest successful connect established. -/
def LatestConnect (context : SocketContext) (past : List (Moment × Arrival)) (token : Option Text) :
    Prop :=
  ∃ earlier moment arrival later connectAuth method,
    past = earlier ++ (moment, arrival) :: later ∧
    Succeeds context (moment, arrival) connectAuth method ∧
    Establishes context moment connectAuth method token ∧
    ∀ other ∈ later, ∀ connectAuth method, ¬ Succeeds context other connectAuth method

theorem establishes_sessionToken {context : SocketContext} {moment : Moment}
    {connectAuth : Option ConnectAuth} {method : AuthMethod}
    (equality : ∀ first second, context.constantTimeEq first second = true ↔ first = second)
    (authorized : authorizeConnect context.constantTimeEq moment.deviceStore connectAuth
      context.isLocal = .ok method) :
    Establishes context moment connectAuth method (sessionToken connectAuth method) := by
  cases method with
  | deviceToken =>
      rcases authorizeConnect_deviceToken equality authorized with ⟨token, presented, active⟩
      rw [sessionToken, presented]
      exact .device presented active
  | localClient =>
      rcases authorizeConnect_localClient authorized with ⟨isLocal, unpaired⟩
      exact .localClient isLocal unpaired

/-- While the loop is connected, its token is that of the latest successful
connect. -/
theorem latestConnect_preserved {context : SocketContext}
    (equality : ∀ first second, context.constantTimeEq first second = true ↔ first = second)
    (past : List (Moment × Arrival)) (task : SocketTask) (input : Moment × Arrival) (next : SocketTask)
    (holds : task.phase = .receiving → task.connected = true →
      LatestConnect context past task.authenticatedToken)
    (step : (frameLoop context).step task input = some next) :
    next.phase = .receiving → next.connected = true →
      LatestConnect context (past ++ [input]) next.authenticatedToken := by
  intro receiving connected
  simp only [frameLoop] at step
  split at step
  · rename_i before
    rcases Option.some.inj step with rfl
    rcases receive_cases context input.1 task input.2 with
      ⟨connectAuth, method, _, succeeds, _, handled⟩ | ⟨phase, _, handled, _, fails⟩
    · rw [handled]
      exact ⟨past, input.1, input.2, [], connectAuth, method, rfl, succeeds,
        establishes_sessionToken equality succeeds.2, fun other member => nomatch member⟩
    · rw [handled] at receiving connected ⊢
      rcases holds before connected with
        ⟨earlier, moment, arrival, later, connectAuth, method, rfl, succeeds, establishes, latest⟩
      refine ⟨earlier, moment, arrival, later ++ [input], connectAuth, method, by simp, succeeds,
        establishes, fun other member => ?_⟩
      rcases List.mem_append.mp member with old | new
      · exact latest other old
      · rcases List.mem_singleton.mp new with rfl
        intro connectAuth method succeeds
        cases receiving.symm.trans (fails connectAuth method succeeds).2
  · cases step

/-- Every method is dispatched under the identity of the latest successful
connect: the token that this connect presented and that an unrevoked device of
the store had then, or none, for a local client and an empty store. -/
theorem dispatchMethod_identity {context : SocketContext}
    (equality : ∀ first second, context.constantTimeEq first second = true ↔ first = second)
    {schedule : List (Moment × Arrival)} {task : SocketTask}
    (runs : (frameLoop context).run .start schedule = some task) (receiving : task.phase = .receiving)
    {moment : Moment} {arrival : Arrival} {call : MethodCall}
    (called : .dispatchMethod call ∈ (task.receive context moment arrival).2) :
    LatestConnect context schedule call.deviceToken := by
  rcases dispatchMethod_cases called with ⟨connected, same⟩
  have unconnected : SocketTask.start.phase = .receiving → SocketTask.start.connected = true →
      LatestConnect context [] SocketTask.start.authenticatedToken := by
    intro _ never
    cases never
  have identity := Machine.run_invariant (latestConnect_preserved equality) [] unconnected runs
  rw [same]
  exact identity receiving connected

/-- A connect request with the token `a`. -/
def connectText : Text :=
  ("\x7b\"type\":\"req\",\"id\":\"1\",\"method\":\"connect\"," ++
    "\"params\":\x7b\"auth\":\x7b\"token\":\"a\"\x7d\x7d\x7d").toList

/-- A request for the health of the gateway. -/
def healthText : Text := "\x7b\"type\":\"req\",\"id\":\"2\",\"method\":\"health\"\x7d".toList

/-- An agent request with an idempotency key. -/
def agentText : Text :=
  ("\x7b\"type\":\"req\",\"id\":\"3\",\"method\":\"agent\"," ++
    "\"params\":\x7b\"message\":\"hi\",\"idempotencyKey\":\"k\"\x7d\x7d").toList

/-- A remote socket whose client sends these requests. -/
def sampleContext : SocketContext where
  decoder := tableDecoder
    [(connectText, ⟨"1".toList, "connect".toList, some (.object
        [("auth".toList, .object [("token".toList, .string "a".toList)])])⟩),
      (healthText, ⟨"2".toList, "health".toList, none⟩),
      (agentText, ⟨"3".toList, "agent".toList, some (.object
        [("message".toList, .string "hi".toList), ("idempotencyKey".toList, .string "k".toList)])⟩)]
  constantTimeEq := sameBytes
  version := "0.3.1".toList
  configPath := "config.yaml".toList
  stateDir := ".rabb1tclaw".toList
  startedAt := 0
  connId := "c1".toList
  isLocal := false

/-- The store holds one unrevoked device with the token. -/
def sampleMoment (token : Text) : Moment := ⟨State.oneDevice token false, fun _ => [], 0⟩

theorem dispatchMethod_identity_health :
    LatestConnect sampleContext [(sampleMoment "a".toList, .text connectText)] (some "a".toList) := by
  have runs : (frameLoop sampleContext).run SocketTask.start
      [(sampleMoment "a".toList, .text connectText)] = some ⟨true, some "a".toList, .receiving⟩ := rfl
  have asks : SocketEffect.dispatchMethod ⟨"2".toList, some "a".toList, "health".toList, none⟩ ∈
      (SocketTask.receive sampleContext (sampleMoment "b".toList) ⟨true, some "a".toList, .receiving⟩
        (.text healthText)).2 := List.mem_singleton.mpr rfl
  exact dispatchMethod_identity (fun _ _ => beq_iff_eq) runs rfl asks

end Connection
end Rabb1tClaw
