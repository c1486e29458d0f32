import Rabb1tClaw.Connection.InFlight

namespace Rabb1tClaw
namespace Connection

open Foundations
open Agent (AgentRequest Concludes Conclusion RunEffect Sequenced StripsReply dispatchMethod errorResponse
  okResponse streamAgentResponse)
open Protocol
open Provider (StreamChunk)

/-!
# Answers to requests

A request is answered by the frame loop, by the dispatched method, or, if it
is an agent request with a message, by its acknowledgement and by the end of
its run.  For one socket whose channel stays open and whose request ids are
distinct, `request_answered` counts these answers.

Two kinds of steps spoil the count: a connect whose token has no prefix panics
and is not answered, and a run whose stream ends without a terminal chunk, or
whose reply cannot be stripped, ends without its second answer.
-/

/-! ## What a request asks for -/

/-- An agent request with a message, as the loop hands it on. -/
inductive Asks (context : SocketContext) (task : SocketTask) (frame : IncomingFrame) : AgentRequest → Prop
  | intro {params : Agent.JsonValue} {agentParams : AgentParams} (connected : task.connected = true)
      (method : frame.method = "agent".toList ∨ frame.method = "chat.send".toList)
      (given : frame.params = some params) (decoded : context.decoder.agentParams params = .ok agentParams)
      (nonempty : agentParams.message.trim ≠ []) :
      Asks context task frame
        ⟨frame.id, task.authenticatedToken, agentParams.idempotencyKey, agentParams.message.trim⟩

/-- The answer that another request gets at once. -/
inductive AnswersAtOnce (context : SocketContext) (moment : Moment) (task : SocketTask)
    (frame : IncomingFrame) : ResponseFrame → Prop
  | hello {method : AuthMethod} (connect : frame.method = "connect".toList)
      (authorized : authorizeConnect context.constantTimeEq moment.deviceStore
        (presentedAuth context frame.params) context.isLocal = .ok method) :
      AnswersAtOnce context moment task frame (helloResponse context moment frame.id
        (sessionToken (presentedAuth context frame.params) method))
  | refused {failure : AuthFailure} (connect : frame.method = "connect".toList)
      (unauthorized : authorizeConnect context.constantTimeEq moment.deviceStore
        (presentedAuth context frame.params) context.isLocal = .failed failure) :
      AnswersAtOnce context moment task frame
        (.failure frame.id (.invalidRequest ("unauthorized: ".toList ++ failure.asStr)))
  | unconnected (other : frame.method ≠ "connect".toList) (unconnected : task.connected = false) :
      AnswersAtOnce context moment task frame
        (.failure frame.id (.unauthorized "not connected, send 'connect' first".toList))
  | result {payload : Agent.JsonValue} (other : frame.method ≠ "connect".toList)
      (connected : task.connected = true) (asksNothing : ∀ request, ¬ Asks context task frame request) :
      AnswersAtOnce context moment task frame (.success frame.id payload)
  | error {error : ErrorShape} (other : frame.method ≠ "connect".toList)
      (connected : task.connected = true) (asksNothing : ∀ request, ¬ Asks context task frame request) :
      AnswersAtOnce context moment task frame (.failure frame.id error)

section

variable {context : SocketContext} {moment : Moment} {task : SocketTask} {frame : IncomingFrame}

theorem asks_requestId {request : AgentRequest} (asks : Asks context task frame request) :
    request.requestId = frame.id := by
  cases asks
  rfl

theorem answersAtOnce_id {response : ResponseFrame}
    (answers : AnswersAtOnce context moment task frame response) : response.id = frame.id := by
  cases answers <;> rfl

/-- A dispatched method answers, or its caller does, or an agent request goes
on. -/
theorem dispatchMethod_answers (other : frame.method ≠ "connect".toList)
    (connected : task.connected = true) :
    (∃ request, Asks context task frame request ∧
      dispatchMethod context moment ⟨frame.id, task.authenticatedToken, frame.method, frame.params⟩ =
        .agent request) ∨
    ∃ response, AnswersAtOnce context moment task frame response ∧
      (dispatchMethod context moment ⟨frame.id, task.authenticatedToken, frame.method, frame.params⟩ =
          .respond response ∨
        ∃ message, response = .failure frame.id (.internal message) ∧
          dispatchMethod context moment ⟨frame.id, task.authenticatedToken, frame.method, frame.params⟩ =
            .failed message) := by
  have unasked (notAgent : frame.method ≠ "agent".toList ∧ frame.method ≠ "chat.send".toList) :
      ∀ request, ¬ Asks context task frame request := by
    rintro _ ⟨_, method, _, _, _⟩
    exact method.elim notAgent.1 notAgent.2
  by_cases health : frame.method = "health".toList
  · have notAgent : frame.method ≠ "agent".toList ∧ frame.method ≠ "chat.send".toList := by
      rw [health]
      decide
    simp only [dispatchMethod, if_pos health]
    exact Or.inr ⟨_, .result other connected (unasked notAgent), Or.inl rfl⟩
  by_cases agent : frame.method = "agent".toList ∨ frame.method = "chat.send".toList
  · have dispatched : dispatchMethod context moment
        ⟨frame.id, task.authenticatedToken, frame.method, frame.params⟩ = Agent.handleAgent context
          ⟨frame.id, task.authenticatedToken, frame.method, frame.params⟩ := by
      simp only [dispatchMethod, if_neg health, if_pos agent]
    rw [dispatched, Agent.handleAgent]
    cases given : frame.params with
    | none =>
        refine Or.inr ⟨_, .error other connected ?_, Or.inl rfl⟩
        rintro _ ⟨_, _, given', _, _⟩
        cases given.symm.trans given'
    | some params =>
        simp only
        cases decoded : context.decoder.agentParams params with
        | error message =>
            refine Or.inr ⟨_, .error other connected ?_, Or.inr ⟨_, rfl, rfl⟩⟩
            rintro _ ⟨_, _, given', decoded', _⟩
            cases given.symm.trans given'
            cases decoded.symm.trans decoded'
        | ok agentParams =>
            simp only
            by_cases empty : agentParams.message.trim = []
            · rw [if_pos empty]
              refine Or.inr ⟨_, .error other connected ?_, Or.inl rfl⟩
              rintro _ ⟨_, _, given', decoded', nonempty⟩
              cases given.symm.trans given'
              cases decoded.symm.trans decoded'
              exact nonempty empty
            · rw [if_neg empty]
              exact Or.inl ⟨_, .intro connected agent given decoded empty, rfl⟩
  · have notAgent := not_or.mp agent
    by_cases history : frame.method = "chat.history".toList
    · simp only [dispatchMethod, if_neg health, if_neg agent, if_pos history]
      exact Or.inr ⟨_, .result other connected (unasked notAgent), Or.inl rfl⟩
    · simp only [dispatchMethod, if_neg health, if_neg agent, if_neg history]
      exact Or.inr ⟨_, .error other connected (unasked notAgent), Or.inl rfl⟩

/-- The responses among the frames of some calls. -/
def responsesOf (context : SocketContext) (moment : Moment) (effects : List SocketEffect) :
    List ResponseFrame :=
  (effects.flatMap (outgoing context moment)).filterMap OutgoingFrame.response?

/-- A request that does not panic is answered at once, or it starts an agent
request and is not. -/
theorem handleRequest_answers
    (named : ∀ method, frame.method = "connect".toList →
      authorizeConnect context.constantTimeEq moment.deviceStore
        (presentedAuth context frame.params) context.isLocal = .ok method →
          Named (presentedAuth context frame.params) method) :
    (∃ response, AnswersAtOnce context moment task frame response ∧
      responsesOf context moment (task.handleRequest context moment frame).2 = [response] ∧
      (task.handleRequest context moment frame).2.findSome? (agentRequest? context moment) = none) ∨
    ∃ request, Asks context task frame request ∧
      responsesOf context moment (task.handleRequest context moment frame).2 = [] ∧
      (task.handleRequest context moment frame).2.findSome? (agentRequest? context moment) =
        some request := by
  unfold SocketTask.handleRequest
  by_cases connect : frame.method = "connect".toList
  · rw [if_pos connect]
    left
    cases authorized : authorizeConnect context.constantTimeEq moment.deviceStore
        (presentedAuth context frame.params) context.isLocal with
    | ok method =>
        rw [handleConnect_ok authorized (named method connect authorized)]
        refine ⟨_, .hello connect authorized, ?_⟩
        cases sessionToken (presentedAuth context frame.params) method <;> exact ⟨rfl, rfl⟩
    | failed failure =>
        rw [handleConnect_failed authorized]
        refine ⟨_, .refused connect authorized, ?_⟩
        cases failure <;> exact ⟨rfl, rfl⟩
  · rw [if_neg connect]
    cases connected : task.connected with
    | false => exact Or.inl ⟨_, .unconnected connect connected, rfl, rfl⟩
    | true =>
        simp only [Bool.not_true, Bool.false_eq_true, if_false]
        rcases @dispatchMethod_answers context moment task frame connect connected with
          ⟨request, asks, dispatched⟩ | ⟨response, answers, dispatched | ⟨message, rfl, dispatched⟩⟩
        · refine Or.inr ⟨request, asks, ?_, ?_⟩
          · simp [responsesOf, outgoing, dispatched]
          · simp [agentRequest?, dispatched]
        · refine Or.inl ⟨response, answers, ?_, ?_⟩
          · simp [responsesOf, outgoing, dispatched, OutgoingFrame.response?]
          · simp [agentRequest?, dispatched]
        · refine Or.inl ⟨_, answers, ?_, ?_⟩
          · simp [responsesOf, outgoing, dispatched, OutgoingFrame.response?]
          · simp [agentRequest?, dispatched]

end

/-! ## What a run has left to answer -/

def RunOperation.response? : RunOperation → Option ResponseFrame
  | send frame => frame.response?
  | release _ => none

/-- Nothing more is sent. -/
def Silent (operations : List RunOperation) : Prop := ∀ frame, .send frame ∉ operations

/-- The second answer of an agent request. -/
inductive Terminates (request : AgentRequest) : ResponseFrame → Prop
  | finished (clean : Text) : Terminates request (okResponse request.runId request.requestId clean)
  | failed (message : Text) : Terminates request (errorResponse request.requestId message)

/-- The second answer is the only response left, and the last frame. -/
def Closing (request : AgentRequest) (operations : List RunOperation) : Prop :=
  ∃ front back response, operations = front ++ .send (.response response) :: back ∧
    (∀ operation ∈ front, operation.response? = none) ∧ Silent back ∧ Terminates request response

section

variable {request : AgentRequest} {operations : List RunOperation}

theorem closing_unresolved (request : AgentRequest) (now : UInt64) :
    Closing request (unresolvedOperations request now) := by
  refine ⟨(unresolvedOperations request now).take 3, [], _, rfl, ?_, nofun, .failed _⟩
  intro operation member
  simp only [unresolvedOperations, Agent.emitRunError, List.map_cons, List.map_nil, List.take_succ_cons,
    List.take_zero, List.mem_cons, List.not_mem_nil, or_false] at member
  rcases member with rfl | rfl | rfl <;> rfl

/-- A run that concludes has its second answer to send. -/
theorem closing_run (clock : Nat → UInt64) {streamed : Except Text (List StreamChunk)}
    (concludes : Concludes streamed) (strips : StripsReply request.job streamed) :
    Closing request (runOperations clock (streamAgentResponse request.job streamed)) := by
  rcases Agent.streamAgentResponse_cases request.job streamed with ⟨loop, deltas, sequenced, cases⟩
  have quiet : ∀ operation ∈ loop.effects.flatMap (operationsOf clock), operation.response? = none := by
    intro operation member
    rcases loop_operations sequenced member with rfl | ⟨seq, delta, rfl | rfl⟩ <;> rfl
  have released (dedupKey : Option Text × Text) : Silent [.release dedupKey] := by simp [Silent]
  rcases cases with ⟨_, _, tail, conclusion, effects⟩ | ⟨silent, _⟩ | ⟨panics, _⟩
  · rw [runOperations, effects, List.flatMap_append]
    cases conclusion with
    | @finished response clean =>
        rw [List.flatMap_append, operations_recordExchange, List.nil_append]
        refine ⟨loop.effects.flatMap (operationsOf clock) ++
          [.send (Agent.agentEnd request.runId loop.seq (clock 0) (clock loop.seq)),
            .send (Agent.chatFinal request.runId Agent.defaultSessionKey (loop.seq + 1) (clock loop.seq) clean)],
          _, _, ?_, ?_, released request.dedupKey, .finished clean⟩
        · rw [List.append_assoc]
          rfl
        · intro operation member
          rcases List.mem_append.mp member with early | late
          · exact quiet operation early
          · rcases List.mem_pair.mp late with rfl | rfl <;> rfl
    | @failed message =>
        refine ⟨loop.effects.flatMap (operationsOf clock) ++
          [.send (Agent.agentError request.runId loop.seq (clock loop.seq) message),
            .send (Agent.chatError request.runId (loop.seq + 1) message)],
          _, _, ?_, ?_, released request.dedupKey, .failed message⟩
        · rw [List.append_assoc]
          rfl
        · intro operation member
          rcases List.mem_append.mp member with early | late
          · exact quiet operation early
          · rcases List.mem_pair.mp late with rfl | rfl <;> rfl
  · exact absurd concludes silent
  · exact absurd strips panics

theorem terminates_id {response : ResponseFrame} (terminates : Terminates request response) :
    response.id = request.requestId := by
  cases terminates <;> rfl

/-- The next operation sends the second answer, or no response. -/
theorem closing_cons {operation : RunOperation} (closing : Closing request (operation :: operations)) :
    (operation.response? = none ∧ Closing request operations) ∨
      ∃ response, operation = .send (.response response) ∧ Terminates request response ∧ Silent operations := by
  rcases closing with ⟨front, back, response, whole, quiet, silent, terminates⟩
  cases front with
  | nil =>
      rcases List.cons.inj whole with ⟨rfl, rfl⟩
      exact Or.inr ⟨response, rfl, terminates, silent⟩
  | cons first front =>
      rcases List.cons.inj whole with ⟨rfl, rfl⟩
      refine Or.inl ⟨quiet _ List.mem_cons_self, front, back, response, rfl, ?_, silent, terminates⟩
      exact fun other member => quiet other (List.mem_cons_of_mem _ member)

theorem silent_cons {operation : RunOperation} (silent : Silent (operation :: operations)) :
    operation.response? = none ∧ Silent operations := by
  constructor
  · cases operation with
    | send frame => exact absurd List.mem_cons_self (silent frame)
    | release _ => rfl
  · exact fun frame member => silent frame (List.mem_cons_of_mem _ member)

theorem not_silent_of_closing (closing : Closing request operations) : ¬ Silent operations := by
  rcases closing with ⟨front, back, response, rfl, _⟩
  intro silent
  exact silent (.response response) (List.mem_append_right front List.mem_cons_self)

end

/-! ## The answers to one request -/

/-- How far an agent request has come, and its answers. -/
inductive Progress (request : AgentRequest) : RequestPhase → List ResponseFrame → Prop
  | accepting : Progress request .accepting []
  | waiting {phase : RequestPhase} {now : UInt64}
      (waits : phase = .claiming ∨ phase = .duplicate ∨ phase = .resolving) :
      Progress request phase [request.accepted now]
  | running {spawned : Bool} {operations : List RunOperation} {now : UInt64}
      (closing : Closing request operations) :
      Progress request (.performing spawned operations) [request.accepted now]
  | ended {spawned : Bool} {operations : List RunOperation} {now : UInt64} {response : ResponseFrame}
      (silent : Silent operations) (terminates : Terminates request response) :
      Progress request (.performing spawned operations) [request.accepted now, response]

theorem progress_accepting {request : AgentRequest} {answers : List ResponseFrame}
    (progress : Progress request .accepting answers) : answers = [] := by
  cases progress with
  | accepting => rfl
  | waiting waits => rcases waits with impossible | impossible | impossible <;> cases impossible

theorem progress_perform {request : AgentRequest} {spawned : Bool} {operation : RunOperation}
    {operations : List RunOperation} {answers : List ResponseFrame}
    (progress : Progress request (.performing spawned (operation :: operations)) answers) :
    (∀ response ∈ operation.response?.toList, response.id = request.requestId) ∧
      Progress request (.performing spawned operations) (answers ++ operation.response?.toList) := by
  cases progress with
  | waiting waits => rcases waits with impossible | impossible | impossible <;> cases impossible
  | running closing =>
      rcases closing_cons closing with ⟨quiet, later⟩ | ⟨response, rfl, terminates, silent⟩
      · rw [quiet]
        exact ⟨nofun, .running later⟩
      · refine ⟨?_, .ended silent terminates⟩
        intro other member
        rcases List.mem_singleton.mp member with rfl
        exact terminates_id terminates
  | ended silent terminates =>
      rw [(silent_cons silent).1]
      exact ⟨nofun, .ended (silent_cons silent).2 terminates⟩

/-! ## What belongs to a request id -/

/-- The response in a frame for a socket, if it has the id. -/
def Sent.responseTo (socket : Nat) (id : Text) (entry : Sent) : Option ResponseFrame :=
  if entry.socket = socket then entry.frame.response?.filter fun response => response.id = id else none

/-- The request is one of a socket, and has the id. -/
def RequestTask.belongsTo (socket : Nat) (id : Text) (task : RequestTask) : Bool :=
  decide (task.socket = socket ∧ task.request.requestId = id)

namespace Service

variable {state next : Service} {socket place index : Nat} {id : Text}

def responsesTo (state : Service) (socket : Nat) (id : Text) : List ResponseFrame :=
  state.sent.filterMap (Sent.responseTo socket id)

def tasksOf (state : Service) (socket : Nat) (id : Text) : List RequestTask :=
  state.tasks.filter (RequestTask.belongsTo socket id)

/-- Responses to a socket that are its answers to an id. -/
def addressed (place socket : Nat) (id : Text) (responses : List ResponseFrame) : List ResponseFrame :=
  if place = socket then responses.filter fun response => response.id = id else []

theorem responsesTo_deliver (opened : state.channels socket = true) (tag : Option Nat)
    (frames : List OutgoingFrame) :
    (state.deliver place tag frames).responsesTo socket id =
      state.responsesTo socket id ++
        addressed place socket id (frames.filterMap OutgoingFrame.response?) := by
  unfold deliver addressed
  by_cases here : place = socket
  · subst here
    rw [if_pos opened, if_pos rfl]
    simp only [responsesTo, List.filterMap_append, List.filterMap_map, List.filter_filterMap]
    refine congrArg (List.filterMap _ state.sent ++ ·) (List.filterMap_congr fun frame _ => ?_)
    simp [Sent.responseTo]
  · rw [if_neg here, List.append_nil]
    split
    · have foreign : (frames.map fun frame => (⟨place, tag, frame⟩ : Sent)).filterMap
          (Sent.responseTo socket id) = [] := by
        apply List.filterMap_eq_nil_iff.mpr
        intro entry member
        rcases List.mem_map.mp member with ⟨frame, _, rfl⟩
        simp [Sent.responseTo, here]
      simp only [responsesTo, List.filterMap_append, foreign, List.append_nil]
    · rfl

theorem responsesTo_operate (opened : state.channels socket = true) (operation : RunOperation) :
    (state.operate place index operation).responsesTo socket id =
      state.responsesTo socket id ++ addressed place socket id operation.response?.toList := by
  cases operation with
  | send frame =>
      rw [operate, responsesTo_deliver opened]
      refine congrArg (state.responsesTo socket id ++ addressed place socket id ·) ?_
      cases response : frame.response? with
      | none => simp [RunOperation.response?, response]
      | some found => simp [RunOperation.response?, response]
  | release dedupKey =>
      have nothing : addressed place socket id [] = [] := by
        unfold addressed
        split <;> rfl
      exact (congrArg (state.responsesTo socket id ++ ·) nothing).trans (List.append_nil _) |>.symm

/-- The tasks of an id behind a change of one task. -/
theorem filter_set {tasks : List RequestTask} {before after : RequestTask} {keeps : RequestTask → Bool}
    (found : tasks[index]? = some before) (same : keeps after = keeps before) :
    (keeps before = false → (tasks.set index after).filter keeps = tasks.filter keeps) ∧
      (keeps before = true → ∀ only, tasks.filter keeps = [only] →
        only = before ∧ (tasks.set index after).filter keeps = [after]) := by
  induction tasks generalizing index with
  | nil => cases found
  | cons task tasks inductionHypothesis =>
      cases index with
      | zero =>
          rcases Option.some.inj found with rfl
          constructor
          · intro ignored
            rw [List.set_cons_zero, List.filter_cons_of_neg (by simp [same, ignored]),
              List.filter_cons_of_neg (by simp [ignored])]
          · intro kept only single
            rw [List.filter_cons_of_pos kept] at single
            rcases List.cons.inj single with ⟨rfl, rest⟩
            rw [List.set_cons_zero, List.filter_cons_of_pos (same.trans kept), rest]
            exact ⟨rfl, rfl⟩
      | succ index =>
          have there : tasks[index]? = some before := found
          rcases inductionHypothesis there with ⟨ignores, replaces⟩
          rw [List.set_cons_succ, List.filter_cons, List.filter_cons]
          constructor
          · intro ignored
            rw [ignores ignored]
          · intro kept only single
            have inside : before ∈ tasks.filter keeps :=
              List.mem_filter.mpr ⟨List.mem_of_getElem? there, kept⟩
            split at single
            · rw [(List.cons.inj single).2] at inside
              cases inside
            · rename_i unkept
              rw [if_neg unkept]
              exact replaces kept only single

end Service

/-- Where a request on a socket stands, by the answers to its id and the agent
requests with its id. -/
inductive Stands (context : SocketContext) (moment : Moment) (task : SocketTask) (frame : IncomingFrame)
    (socket : Nat) : List ResponseFrame → List RequestTask → Prop
  | atOnce {response : ResponseFrame} (answers : AnswersAtOnce context moment task frame response) :
      Stands context moment task frame socket [response] []
  | asked {request : AgentRequest} {phase : RequestPhase} {answers : List ResponseFrame}
      (asks : Asks context task frame request) (progress : Progress request phase answers) :
      Stands context moment task frame socket answers [⟨socket, request, phase⟩]

section

variable {state next : Service} {socket place index : Nat} {id : Text} {request : AgentRequest}
  {before after : RequestPhase} {new : List ResponseFrame}

theorem mem_tasksOf (found : state.tasks[index]? = some ⟨socket, request, before⟩) :
    ⟨socket, request, before⟩ ∈ state.tasksOf socket request.requestId :=
  List.mem_filter.mpr ⟨List.mem_of_getElem? found, decide_eq_true ⟨rfl, rfl⟩⟩

/-- A step of another request leaves the answers to an id alone. -/
theorem untouched (found : state.tasks[index]? = some ⟨place, request, before⟩)
    (tasks : next.tasks = state.tasks.set index ⟨place, request, after⟩)
    (responses : next.responsesTo socket id =
      state.responsesTo socket id ++ Service.addressed place socket id new)
    (signed : place = socket → ∀ response ∈ new, response.id = request.requestId)
    (other : ¬ (place = socket ∧ request.requestId = id)) :
    next.responsesTo socket id = state.responsesTo socket id ∧
      next.tasksOf socket id = state.tasksOf socket id := by
  have nothing : Service.addressed place socket id new = [] := by
    unfold Service.addressed
    split
    · rename_i here
      apply List.filter_eq_nil_iff.mpr
      intro response member same
      exact other ⟨here, (signed here response member).symm.trans (of_decide_eq_true same)⟩
    · rfl
  refine ⟨by rw [responses, nothing, List.append_nil], ?_⟩
  rw [Service.tasksOf, tasks]
  have same : ∀ phase : RequestPhase, RequestTask.belongsTo socket id ⟨place, request, phase⟩ = false :=
    fun _ => decide_eq_false other
  exact (Service.filter_set found ((same after).trans (same before).symm)).1 (same before)

/-- A step of the request with an id. -/
theorem touched (found : state.tasks[index]? = some ⟨socket, request, before⟩)
    (tasks : next.tasks = state.tasks.set index ⟨socket, request, after⟩)
    (responses : next.responsesTo socket request.requestId =
      state.responsesTo socket request.requestId ++
        Service.addressed socket socket request.requestId new)
    (signed : ∀ response ∈ new, response.id = request.requestId) :
    next.responsesTo socket request.requestId = state.responsesTo socket request.requestId ++ new ∧
      ∀ only, state.tasksOf socket request.requestId = [only] →
        only = ⟨socket, request, before⟩ ∧
          next.tasksOf socket request.requestId = [⟨socket, request, after⟩] := by
  have all : Service.addressed socket socket request.requestId new = new := by
    unfold Service.addressed
    rw [if_pos rfl]
    apply List.filter_eq_self.mpr
    intro response member
    exact decide_eq_true (signed response member)
  refine ⟨by rw [responses, all], ?_⟩
  rw [Service.tasksOf, Service.tasksOf, tasks]
  have mine : ∀ phase : RequestPhase,
      RequestTask.belongsTo socket request.requestId ⟨socket, request, phase⟩ = true :=
    fun _ => decide_eq_true ⟨rfl, rfl⟩
  exact (Service.filter_set found ((mine after).trans (mine before).symm)).2 (mine before)

end

/-! ## The accounts of a socket -/

/-- A request frame is received in a moment by a task of the loop. -/
def Receives (contexts : Nat → SocketContext) (schedule : List ServiceStep) (socket : Nat) (moment : Moment)
    (task : SocketTask) (frame : IncomingFrame) : Prop :=
  ∃ before arrival later state, schedule = before ++ .receive socket moment arrival :: later ∧
    (service contexts).run .start before = some state ∧ state.sockets socket = task ∧
    arrival.request? (contexts socket) = some frame

/-- The request of a step on a socket. -/
def ServiceStep.requestOn? (contexts : Nat → SocketContext) (socket : Nat) : ServiceStep → Option IncomingFrame
  | receive place _ arrival => if place = socket then arrival.request? (contexts socket) else none
  | _ => none

/-- The channel of a socket stays open, and its texts are requests with
distinct ids. -/
structure Polite (contexts : Nat → SocketContext) (socket : Nat) (schedule : List ServiceStep) : Prop where
  opened : .close socket ∉ schedule
  parsed : ∀ moment text, .receive socket moment (.text text) ∈ schedule →
    ∃ frame, (contexts socket).decoder.incomingFrame text = .ok frame
  distinct : ((schedule.filterMap (ServiceStep.requestOn? contexts socket)).map IncomingFrame.id).Nodup

/-- A connect does not panic, and a run concludes with a reply that can be
stripped. -/
def Finishes (contexts : Nat → SocketContext) (socket : Nat) (state : Service) : ServiceStep → Prop
  | .receive place moment arrival => place = socket → ∀ connectAuth method,
      Succeeds (contexts socket) (moment, arrival) connectAuth method → Named connectAuth method
  | .resolve index _ (some streamed) => ∀ task, state.tasks[index]? = some task → task.socket = socket →
      Concludes streamed ∧ StripsReply task.request.job streamed
  | _ => True

/-- The requests received so far stand in order, and nothing else was
answered. -/
structure Accounts (contexts : Nat → SocketContext) (socket : Nat) (past : List ServiceStep)
    (state : Service) : Prop where
  runs : (service contexts).run .start past = some state
  opened : state.channels socket = true
  stands : ∀ moment task frame, Receives contexts past socket moment task frame →
    Stands (contexts socket) moment task frame socket (state.responsesTo socket frame.id)
      (state.tasksOf socket frame.id)
  unheard : ∀ id, (∀ moment task frame, Receives contexts past socket moment task frame → frame.id ≠ id) →
    state.responsesTo socket id = [] ∧ state.tasksOf socket id = []

section

variable {contexts : Nat → SocketContext} {socket : Nat} {past : List ServiceStep} {action : ServiceStep}
  {state next : Service}

theorem Polite.of_concat (polite : Polite contexts socket (past ++ [action])) :
    Polite contexts socket past where
  opened := fun closed => polite.opened (List.mem_append_left _ closed)
  parsed := fun moment text member => polite.parsed moment text (List.mem_append_left _ member)
  distinct := by
    have distinct := polite.distinct
    rw [List.filterMap_append, List.map_append] at distinct
    exact distinct.of_append_left

theorem receives_concat {moment : Moment} {task : SocketTask} {frame : IncomingFrame}
    (runs : (service contexts).run .start past = some state)
    (receives : Receives contexts (past ++ [action]) socket moment task frame) :
    Receives contexts past socket moment task frame ∨ ∃ arrival, action = .receive socket moment arrival ∧
      state.sockets socket = task ∧ arrival.request? (contexts socket) = some frame := by
  rcases receives with ⟨before, arrival, later, earlier, split, reached, here, request⟩
  rcases List.eq_nil_or_concat later with rfl | ⟨middle, last, rfl⟩
  · rcases List.append_inj' split rfl with ⟨rfl, same⟩
    rcases Option.some.inj (runs.symm.trans reached) with rfl
    exact Or.inr ⟨arrival, List.head_eq_of_cons_eq same, here, request⟩
  · rw [List.concat_eq_append, ← List.cons_append, ← List.append_assoc] at split
    rcases List.append_inj' split rfl with ⟨rfl, _⟩
    exact Or.inl ⟨before, arrival, middle, earlier, rfl, reached, here, request⟩

theorem receives_mono {moment : Moment} {task : SocketTask} {frame : IncomingFrame}
    (receives : Receives contexts past socket moment task frame) :
    Receives contexts (past ++ [action]) socket moment task frame := by
  rcases receives with ⟨before, arrival, later, earlier, rfl, rest⟩
  exact ⟨before, arrival, later ++ [action], earlier, by simp, rest⟩

theorem Receives.mem {moment : Moment} {task : SocketTask} {frame : IncomingFrame}
    (receives : Receives contexts past socket moment task frame) :
    frame ∈ past.filterMap (ServiceStep.requestOn? contexts socket) := by
  rcases receives with ⟨before, arrival, later, _, rfl, _, _, request⟩
  refine List.mem_filterMap.mpr ⟨.receive socket moment arrival, by simp, ?_⟩
  simp [ServiceStep.requestOn?, request]

/-- An agent request of the socket is one of those received. -/
theorem Accounts.progress {index : Nat} {request : AgentRequest} {phase : RequestPhase}
    (accounts : Accounts contexts socket past state)
    (found : state.tasks[index]? = some ⟨socket, request, phase⟩) :
    ∃ answers, Progress request phase answers := by
  have member := mem_tasksOf found
  by_cases heard : ∃ moment task frame, Receives contexts past socket moment task frame ∧
      frame.id = request.requestId
  · rcases heard with ⟨moment, task, frame, receives, same⟩
    have stands := accounts.stands moment task frame receives
    rw [same] at stands
    generalize state.responsesTo socket request.requestId = answers at stands
    generalize state.tasksOf socket request.requestId = tasks at stands member
    cases stands with
    | atOnce _ => cases member
    | asked asks progress =>
        cases List.mem_singleton.mp member
        exact ⟨answers, progress⟩
  · have nothing := accounts.unheard request.requestId fun moment task frame receives same =>
      heard ⟨moment, task, frame, receives, same⟩
    rw [nothing.2] at member
    cases member

/-- A step that answers nothing on the socket. -/
theorem Accounts.keep (accounts : Accounts contexts socket past state)
    (step : (service contexts).step state action = some next)
    (quiet : ∀ moment arrival frame, action = .receive socket moment arrival →
      arrival.request? (contexts socket) ≠ some frame)
    (opened : next.channels socket = true)
    (same : ∀ id, next.responsesTo socket id = state.responsesTo socket id ∧
      next.tasksOf socket id = state.tasksOf socket id) :
    Accounts contexts socket (past ++ [action]) next where
  runs := Machine.run_concat_iff.mpr ⟨state, accounts.runs, step⟩
  opened := opened
  stands := by
    intro moment task frame receives
    rw [(same frame.id).1, (same frame.id).2]
    rcases receives_concat accounts.runs receives with before | ⟨arrival, rfl, _, request⟩
    · exact accounts.stands moment task frame before
    · exact absurd request (quiet moment arrival frame rfl)
  unheard := by
    intro id others
    rw [(same id).1, (same id).2]
    exact accounts.unheard id fun moment task frame receives =>
      others moment task frame (receives_mono receives)

/-- A step of an agent request. -/
theorem Accounts.touch {place index : Nat} {request : AgentRequest} {before after : RequestPhase}
    {new : List ResponseFrame} (accounts : Accounts contexts socket past state)
    (step : (service contexts).step state action = some next)
    (quiet : ∀ moment arrival, action ≠ .receive socket moment arrival)
    (channels : next.channels = state.channels)
    (found : state.tasks[index]? = some ⟨place, request, before⟩)
    (tasks : next.tasks = state.tasks.set index ⟨place, request, after⟩)
    (responses : ∀ id, next.responsesTo socket id =
      state.responsesTo socket id ++ Service.addressed place socket id new)
    (progress : place = socket → ∀ answers, Progress request before answers →
      (∀ response ∈ new, response.id = request.requestId) ∧ Progress request after (answers ++ new)) :
    Accounts contexts socket (past ++ [action]) next := by
  have signed : place = socket → ∀ response ∈ new, response.id = request.requestId := by
    rintro rfl
    rcases accounts.progress found with ⟨answers, standing⟩
    exact (progress rfl answers standing).1
  refine ⟨Machine.run_concat_iff.mpr ⟨state, accounts.runs, step⟩, ?_, ?_, ?_⟩
  · rw [channels]
    exact accounts.opened
  · intro moment task frame receives
    rcases receives_concat accounts.runs receives with earlier | ⟨arrival, impossible, _⟩
    · have stands := accounts.stands moment task frame earlier
      by_cases mine : place = socket ∧ request.requestId = frame.id
      · rcases mine with ⟨rfl, same⟩
        rw [← same] at stands ⊢
        have member := mem_tasksOf found
        rcases touched found tasks (responses request.requestId) (signed rfl) with ⟨answers, replaced⟩
        rw [answers]
        generalize state.responsesTo place request.requestId = said at stands
        generalize listed : state.tasksOf place request.requestId = tasksHere at stands member
        cases stands with
        | atOnce _ => cases member
        | asked asks standing =>
            rcases replaced _ listed with ⟨only, here⟩
            cases only
            rw [here]
            exact .asked asks (progress rfl _ standing).2
      · rcases untouched found tasks (responses frame.id) signed mine with ⟨answers, same⟩
        rwa [answers, same]
    · exact absurd impossible (quiet moment arrival)
  · intro id others
    have nothing := accounts.unheard id fun moment task frame receives =>
      others moment task frame (receives_mono receives)
    have other : ¬ (place = socket ∧ request.requestId = id) := by
      rintro ⟨rfl, rfl⟩
      have member := mem_tasksOf found
      rw [nothing.2] at member
      cases member
    rcases untouched found tasks (responses id) signed other with ⟨answers, same⟩
    rwa [answers, same]

end

/-! ## One step of the accounts -/

section

variable {contexts : Nat → SocketContext} {socket place : Nat} {past : List ServiceStep}
  {action : ServiceStep} {state next : Service} {moment : Moment} {arrival : Arrival}

theorem responsesTo_take (opened : state.channels socket = true) (id : Text) :
    (state.take contexts place moment arrival).responsesTo socket id =
      state.responsesTo socket id ++ Service.addressed place socket id
        (responsesOf (contexts place) moment
          ((state.sockets place).receive (contexts place) moment arrival).2) := by
  have sent (base : Service) (request : Option AgentRequest) :
      (base.begin place request).responsesTo socket id = base.responsesTo socket id := by
    cases request <;> rfl
  unfold Service.take
  simp only
  have kept (task : SocketTask) : (state.setSocket place task).channels socket = true := opened
  rw [sent, Service.responsesTo_deliver (kept _)]
  rfl

theorem tasksOf_take (id : Text) :
    (state.take contexts place moment arrival).tasksOf socket id =
      state.tasksOf socket id ++
        ((((state.sockets place).receive (contexts place) moment arrival).2.findSome?
          (agentRequest? (contexts place) moment)).toList.map fun request =>
            ⟨place, request, .accepting⟩).filter (RequestTask.belongsTo socket id) := by
  unfold Service.take Service.tasksOf
  simp only
  rw [Service.tasks_begin, Service.tasks_deliver, List.filter_append]
  rfl

/-- A frame loop that answers nothing on the socket. -/
theorem take_quiet (opened : state.channels socket = true)
    (quiet : place ≠ socket ∨ ((state.sockets place).receive (contexts place) moment arrival).2 = [])
    (id : Text) :
    (state.take contexts place moment arrival).responsesTo socket id = state.responsesTo socket id ∧
      (state.take contexts place moment arrival).tasksOf socket id = state.tasksOf socket id := by
  rw [responsesTo_take opened, tasksOf_take]
  rcases quiet with elsewhere | nothing
  · have foreign : ∀ requests : List AgentRequest,
        (requests.map fun request => (⟨place, request, .accepting⟩ : RequestTask)).filter
          (RequestTask.belongsTo socket id) = [] := by
      intro requests
      apply List.filter_eq_nil_iff.mpr
      intro task member
      rcases List.mem_map.mp member with ⟨request, _, rfl⟩
      simp [RequestTask.belongsTo, elsewhere]
    rw [Service.addressed, if_neg elsewhere, foreign]
    exact ⟨List.append_nil _, List.append_nil _⟩
  · rw [nothing]
    refine ⟨?_, List.append_nil _⟩
    unfold Service.addressed
    split <;> exact List.append_nil _

theorem channels_take : (state.take contexts socket moment arrival).channels = state.channels := by
  unfold Service.take Service.begin
  simp only
  split <;> simp [Service.setSocket]

/-- A request leaves the answers to the other ids as they are. -/
theorem take_other {frame : IncomingFrame} (opened : state.channels socket = true)
    (named : ∀ method, frame.method = "connect".toList →
      authorizeConnect (contexts socket).constantTimeEq moment.deviceStore
        (presentedAuth (contexts socket) frame.params) (contexts socket).isLocal = .ok method →
          Named (presentedAuth (contexts socket) frame.params) method)
    (handled : (state.sockets socket).receive (contexts socket) moment arrival =
      (state.sockets socket).handleRequest (contexts socket) moment frame)
    {id : Text} (differs : id ≠ frame.id) :
    (state.take contexts socket moment arrival).responsesTo socket id = state.responsesTo socket id ∧
      (state.take contexts socket moment arrival).tasksOf socket id = state.tasksOf socket id := by
  rw [responsesTo_take opened, tasksOf_take, handled, Service.addressed, if_pos rfl]
  rcases handleRequest_answers named with
    ⟨response, answers, responses, none_started⟩ | ⟨agentRequest, asks, responses, started⟩
  · rw [responses, none_started, List.filter_cons_of_neg
      (by simp [answersAtOnce_id answers, differs.symm])]
    exact ⟨List.append_nil _, List.append_nil _⟩
  · have foreign : RequestTask.belongsTo socket id ⟨socket, agentRequest, .accepting⟩ = false := by
      simp [RequestTask.belongsTo, asks_requestId asks, differs.symm]
    rw [responses, started]
    refine ⟨List.append_nil _, ?_⟩
    rw [Option.toList_some, List.map_singleton, List.filter_cons_of_neg (by simp [foreign])]
    exact List.append_nil _

/-- The frame loop handles a request. -/
theorem Accounts.receive {frame : IncomingFrame} (polite : Polite contexts socket (past ++ [action]))
    (accounts : Accounts contexts socket past state) (received : action = .receive socket moment arrival)
    (request : arrival.request? (contexts socket) = some frame)
    (handled : (state.sockets socket).receive (contexts socket) moment arrival =
      (state.sockets socket).handleRequest (contexts socket) moment frame)
    (step : (service contexts).step state action = some (state.take contexts socket moment arrival))
    (finishes : Finishes contexts socket state action) :
    Accounts contexts socket (past ++ [action]) (state.take contexts socket moment arrival) := by
  have named : ∀ method, frame.method = "connect".toList →
      authorizeConnect (contexts socket).constantTimeEq moment.deviceStore
        (presentedAuth (contexts socket) frame.params) (contexts socket).isLocal = .ok method →
          Named (presentedAuth (contexts socket) frame.params) method := by
    intro method connect authorized
    subst received
    refine finishes rfl _ method ⟨?_, authorized⟩
    simp only [Arrival.connectAuth?, request, Option.bind_some, if_pos connect]
  have fresh : ∀ moment' task frame', Receives contexts past socket moment' task frame' →
      frame'.id ≠ frame.id := by
    intro moment' task frame' earlier same
    have distinct := polite.distinct
    have last : [action].filterMap (ServiceStep.requestOn? contexts socket) = [frame] := by
      subst received
      simp [ServiceStep.requestOn?, request]
    rw [List.filterMap_append, last, List.map_append] at distinct
    exact (List.nodup_append.mp distinct).2.2 _ (List.mem_map_of_mem earlier.mem) _ List.mem_cons_self same
  have before := accounts.unheard frame.id fun moment' task frame' earlier => fresh moment' task frame' earlier
  have receives : Receives contexts (past ++ [action]) socket moment (state.sockets socket) frame :=
    ⟨past, arrival, [], state, by rw [received], accounts.runs, rfl, request⟩
  have others : ∀ id, id ≠ frame.id →
      (state.take contexts socket moment arrival).responsesTo socket id = state.responsesTo socket id ∧
        (state.take contexts socket moment arrival).tasksOf socket id = state.tasksOf socket id :=
    fun id differs => take_other accounts.opened named handled differs
  refine ⟨Machine.run_concat_iff.mpr ⟨state, accounts.runs, step⟩, ?_, ?_, ?_⟩
  · rw [channels_take]
    exact accounts.opened
  · intro moment' task frame' receives'
    rcases receives_concat accounts.runs receives' with earlier | ⟨arrival', same, rfl, request'⟩
    · rcases others frame'.id (fresh moment' task frame' earlier) with ⟨answers, tasks⟩
      rw [answers, tasks]
      exact accounts.stands moment' task frame' earlier
    · rw [received] at same
      cases same
      cases request.symm.trans request'
      rw [responsesTo_take accounts.opened, tasksOf_take, handled, before.1, before.2, Service.addressed,
        if_pos rfl]
      rcases @handleRequest_answers _ _ (state.sockets socket) _ named with
        ⟨response, answers, responses, none_started⟩ | ⟨agentRequest, asks, responses, started⟩
      · rw [responses, none_started, List.filter_cons_of_pos (by simp [answersAtOnce_id answers])]
        exact .atOnce answers
      · have own : RequestTask.belongsTo socket frame.id ⟨socket, agentRequest, .accepting⟩ = true := by
          simp [RequestTask.belongsTo, asks_requestId asks]
        rw [responses, started, Option.toList_some, List.map_singleton, List.filter_cons_of_pos own]
        exact .asked asks .accepting
  · intro id unheard
    have differs : id ≠ frame.id := fun same =>
      unheard moment (state.sockets socket) frame receives same.symm
    rcases others id differs with ⟨answers, tasks⟩
    rw [answers, tasks]
    exact accounts.unheard id fun moment' task frame' earlier =>
      unheard moment' task frame' (receives_mono earlier)

/-- The channel of a socket stays open, or a step closes it. -/
theorem opened_of_serves (serves : Serves contexts state action next) (opened : state.channels socket = true)
    (kept : action ≠ .close socket) : next.channels socket = true := by
  cases serves with
  | receive receiving =>
      unfold Service.take Service.begin
      simp only
      split <;> simpa [Service.setSocket] using opened
  | accept | perform => simpa using opened
  | @close place =>
      have other : socket ≠ place := fun same => kept (congrArg ServiceStep.close same.symm)
      exact (Function.update_of_ne other false state.channels).trans opened
  | _ => exact opened

/-- Step lemma: the accounts of a polite socket are kept. -/
theorem accounts_step (polite : Polite contexts socket (past ++ [action]))
    (accounts : Accounts contexts socket past state) (finishes : Finishes contexts socket state action)
    (step : (service contexts).step state action = some next) :
    Accounts contexts socket (past ++ [action]) next := by
  have serves := serves_of_step step
  have opened : next.channels socket = true := by
    refine opened_of_serves serves accounts.opened ?_
    rintro rfl
    exact polite.opened (List.mem_append_right past List.mem_cons_self)
  have same : ∀ place id, state.responsesTo socket id =
      state.responsesTo socket id ++ Service.addressed place socket id [] := by
    intro place id
    unfold Service.addressed
    split <;> exact (List.append_nil _).symm
  cases serves with
  | @receive place moment arrival receiving =>
      by_cases elsewhere : place ≠ socket
      · refine accounts.keep step ?_ opened (take_quiet accounts.opened (Or.inl elsewhere))
        rintro moment arrival frame ⟨⟩
        exact absurd rfl elsewhere
      · rcases not_not.mp elsewhere with rfl
        cases arrival with
        | text text =>
            rcases polite.parsed moment text (List.mem_append_right past List.mem_cons_self) with
              ⟨frame, parsed⟩
            have request : (Arrival.text text).request? (contexts place) = some frame := by
              simp only [Arrival.request?, parsed]
              rfl
            refine accounts.receive polite rfl request ?_ step finishes
            simp only [SocketTask.receive, parsed]
        | _ =>
            refine accounts.keep step ?_ opened (take_quiet accounts.opened (Or.inr rfl))
            rintro moment arrival frame ⟨⟩
            simp [Arrival.request?]
  | @accept index place request now found received =>
      have responses (id : Text) : ((state.deliver place (some index)
          [.response (request.accepted now)]).setTask index ⟨place, request, .claiming⟩).responsesTo socket id =
            state.responsesTo socket id ++
              Service.addressed place socket id [request.accepted now] :=
        Service.responsesTo_deliver accounts.opened _ _
      refine accounts.touch step (by simp) (by simp) found (by simp; rfl) responses ?_
      intro _ answers progress
      rcases progress_accepting progress with rfl
      refine ⟨?_, .waiting (Or.inl rfl)⟩
      intro response member
      rcases List.mem_singleton.mp member with rfl
      rfl
  | @refuse index place request now found closed =>
      refine accounts.touch step (by simp) rfl found rfl (same place) ?_
      rintro rfl
      cases closed.symm.trans accounts.opened
  | duplicate found taken =>
      refine accounts.touch step (by simp) rfl found rfl (same _) ?_
      rintro - _ ⟨⟩
      exact ⟨by simp, .waiting (Or.inr (Or.inl rfl))⟩
  | claim found free =>
      refine accounts.touch step (by simp) rfl found rfl (same _) ?_
      rintro - _ ⟨⟩
      exact ⟨by simp, .waiting (Or.inr (Or.inr rfl))⟩
  | unresolved found =>
      refine accounts.touch step (by simp) rfl found rfl (same _) ?_
      rintro - _ ⟨⟩
      exact ⟨by simp, .running (closing_unresolved _ _)⟩
  | @resolve index place request clock streamed found =>
      refine accounts.touch step (by simp) rfl found rfl (same _) ?_
      rintro here _ ⟨⟩
      rcases finishes _ found here with ⟨concludes, strips⟩
      exact ⟨by simp, .running (closing_run clock concludes strips)⟩
  | @perform index place request spawned operation operations found =>
      refine accounts.touch step (by simp) (by simp) found (by simp; rfl)
        (fun id => Service.responsesTo_operate accounts.opened operation) ?_
      exact fun _ answers progress => progress_perform progress
  | @close place => exact accounts.keep step (by simp) opened fun id => ⟨rfl, rfl⟩

end

/-! ## Whole runs -/

/-- The run of a request, which is not a duplicate, sends nothing more. -/
def RequestPhase.Over : RequestPhase → Prop
  | performing _ operations => Silent operations
  | _ => False

/-- The answers to a request: one at once, and a second one when its run is
over. -/
structure Answered (context : SocketContext) (moment : Moment) (task : SocketTask) (frame : IncomingFrame)
    (final : Service) (socket : Nat) (immediate terminal : List ResponseFrame) : Prop where
  all : final.responsesTo socket frame.id = immediate ++ terminal
  /-- An agent request that the loop is about to accept has no answer yet. -/
  once : (∃ response, immediate = [response] ∧ (AnswersAtOnce context moment task frame response ∨
      ∃ request now, Asks context task frame request ∧ response = request.accepted now)) ∨
    immediate = [] ∧ ∃ (index : Nat) (request : AgentRequest), Asks context task frame request ∧
      final.tasks[index]? = some ⟨socket, request, .accepting⟩
  twice : terminal = [] ∨ ∃ response request, terminal = [response] ∧ Asks context task frame request ∧
    Terminates request response
  ended : terminal ≠ [] ↔ ∃ (index : Nat) (request : AgentRequest) (phase : RequestPhase),
    Asks context task frame request ∧ final.tasks[index]? = some ⟨socket, request, phase⟩ ∧ phase.Over

section

variable {contexts : Nat → SocketContext} {socket : Nat} {schedule : List ServiceStep} {final : Service}

theorem accounts_run (polite : Polite contexts socket schedule)
    (finishes : (service contexts).Guarded (Finishes contexts socket) .start schedule)
    (runs : (service contexts).run .start schedule = some final) :
    Accounts contexts socket schedule final := by
  have preserved : ∀ (past : List ServiceStep) state action next,
      (Polite contexts socket past → Accounts contexts socket past state) →
      Finishes contexts socket state action → (service contexts).step state action = some next →
      Polite contexts socket (past ++ [action]) → Accounts contexts socket (past ++ [action]) next :=
    fun past state action next accounts finishes step polite =>
      accounts_step polite (accounts polite.of_concat) finishes step
  have start : Polite contexts socket [] → Accounts contexts socket [] .start := by
    intro _
    refine ⟨rfl, rfl, ?_, fun _ _ => ⟨rfl, rfl⟩⟩
    rintro moment task frame ⟨before, arrival, later, _, impossible, _⟩
    cases List.append_eq_nil_iff.mp impossible.symm |>.2
  exact Machine.run_invariant_guarded preserved [] start finishes runs polite

theorem answered_of_stands {context : SocketContext} {moment : Moment} {task : SocketTask}
    {frame : IncomingFrame} (stands : Stands context moment task frame socket
      (final.responsesTo socket frame.id) (final.tasksOf socket frame.id)) :
    ∃ immediate terminal, Answered context moment task frame final socket immediate terminal := by
  have own : ∀ (index : Nat) request phase, Asks context task frame request →
      final.tasks[index]? = some ⟨socket, request, phase⟩ →
        ⟨socket, request, phase⟩ ∈ final.tasksOf socket frame.id := by
    intro index request phase asks here
    rw [← asks_requestId asks]
    exact mem_tasksOf here
  generalize answered : final.responsesTo socket frame.id = answers at stands
  generalize listed : final.tasksOf socket frame.id = tasks at stands own
  cases stands with
  | @atOnce response atOnce =>
      refine ⟨[response], [], answered, Or.inl ⟨response, rfl, Or.inl atOnce⟩, Or.inl rfl, ?_⟩
      refine iff_of_false (fun impossible => impossible rfl) ?_
      rintro ⟨index, request, phase, asks, here, _⟩
      cases own index request phase asks here
  | @asked request phase _ asks progress =>
      have only : ∀ phase', (∃ (index : Nat) (request' : AgentRequest), Asks context task frame request' ∧
          final.tasks[index]? = some ⟨socket, request', phase'⟩) → phase' = phase := by
        rintro phase' ⟨index, request', asks', here⟩
        cases List.mem_singleton.mp (own index request' phase' asks' here)
        rfl
      have member : (⟨socket, request, phase⟩ : RequestTask) ∈ final.tasksOf socket frame.id := by
        rw [listed]
        exact List.mem_cons_self
      rcases List.mem_iff_getElem?.mp (List.mem_filter.mp member).1 with ⟨index, here⟩
      have unended (waits : ¬ phase.Over) : ([] : List ResponseFrame) ≠ [] ↔
          ∃ (index : Nat) (request : AgentRequest) (phase : RequestPhase),
            Asks context task frame request ∧ final.tasks[index]? = some ⟨socket, request, phase⟩ ∧
              phase.Over := by
        refine iff_of_false (fun impossible => impossible rfl) ?_
        rintro ⟨index, request', phase', asks', here', silent⟩
        rcases only phase' ⟨index, request', asks', here'⟩ with rfl
        exact waits silent
      have accepted (now : UInt64) : ∃ response, [request.accepted now] = [response] ∧
          (AnswersAtOnce context moment task frame response ∨
            ∃ request now, Asks context task frame request ∧ response = request.accepted now) :=
        ⟨_, rfl, Or.inr ⟨request, now, asks, rfl⟩⟩
      cases progress with
      | accepting =>
          exact ⟨[], [], answered, Or.inr ⟨rfl, index, request, asks, here⟩, Or.inl rfl, unended id⟩
      | waiting waits =>
          refine ⟨_, [], answered, Or.inl (accepted _), Or.inl rfl, unended ?_⟩
          rcases waits with rfl | rfl | rfl <;> exact id
      | running closing =>
          exact ⟨_, [], answered, Or.inl (accepted _), Or.inl rfl, unended (not_silent_of_closing closing)⟩
      | @ended spawned operations now response silent terminates =>
          refine ⟨[request.accepted now], [response], answered, Or.inl (accepted now),
            Or.inr ⟨response, request, rfl, asks, terminates⟩, ?_⟩
          exact iff_of_true (List.cons_ne_nil _ _) ⟨index, request, _, asks, here, silent⟩

/-- On a polite socket, every request that was received has its answers, and
no others, if no connect panics and every run concludes with a reply that can
be stripped. -/
theorem request_answered (polite : Polite contexts socket schedule)
    (finishes : (service contexts).Guarded (Finishes contexts socket) .start schedule)
    (runs : (service contexts).run .start schedule = some final) :
    ∀ moment task frame, Receives contexts schedule socket moment task frame →
      ∃ immediate terminal, Answered (contexts socket) moment task frame final socket immediate terminal :=
  fun moment task frame receives =>
    answered_of_stands ((accounts_run polite finishes runs).stands moment task frame receives)

end

/-- The requests of the sample client, as they are received. -/
def connectFrame : IncomingFrame :=
  ⟨"1".toList, "connect".toList, some (.object
    [("auth".toList, .object [("token".toList, .string "a".toList)])])⟩

def agentFrame : IncomingFrame :=
  ⟨"3".toList, "agent".toList, some (.object
    [("message".toList, .string "hi".toList), ("idempotencyKey".toList, .string "k".toList)])⟩

theorem parsed_connectText : sampleContext.decoder.incomingFrame connectText = .ok connectFrame := by
  rfl

theorem parsed_agentText : sampleContext.decoder.incomingFrame agentText = .ok agentFrame := by
  rfl

theorem request?_connectText : (Arrival.text connectText).request? sampleContext = some connectFrame := by
  rw [Arrival.request?, parsed_connectText]
  rfl

theorem request?_agentText : (Arrival.text agentText).request? sampleContext = some agentFrame := by
  rw [Arrival.request?, parsed_agentText]
  rfl

theorem polite_oneRequest (streamed : Except Text (List StreamChunk)) (operations : Nat) :
    Polite (fun _ => sampleContext) 0 (oneRequest streamed ++ List.replicate operations (.perform 0)) := by
  refine ⟨?_, ?_, ?_⟩
  · simp [oneRequest]
  · intro moment text member
    simp only [oneRequest, List.mem_append, List.mem_cons, List.mem_replicate, ServiceStep.receive.injEq,
      Arrival.text.injEq, reduceCtorEq, List.not_mem_nil, and_false, or_false] at member
    rcases member with ⟨_, _, rfl⟩ | ⟨_, _, rfl⟩
    · exact ⟨_, parsed_connectText⟩
    · exact ⟨_, parsed_agentText⟩
  · have requests : (oneRequest streamed ++ List.replicate operations (ServiceStep.perform 0)).filterMap
        (ServiceStep.requestOn? (fun _ => sampleContext) 0) = [connectFrame, agentFrame] := by
      simp [oneRequest, ServiceStep.requestOn?, request?_connectText, request?_agentText]
    rw [requests]
    decide

theorem receives_agentFrame (streamed : Except Text (List StreamChunk)) (operations : Nat) :
    Receives (fun _ => sampleContext) (oneRequest streamed ++ List.replicate operations (.perform 0)) 0
      (sampleMoment "a".toList) ⟨true, some "a".toList, .receiving⟩ agentFrame :=
  ⟨(oneRequest streamed).take 1, .text agentText,
    (oneRequest streamed).drop 2 ++ List.replicate operations (.perform 0), _, rfl, rfl, rfl,
    request?_agentText⟩

theorem request_answered_one_request :
    ∃ final, (service fun _ => sampleContext).run .start
        (oneRequest (Agent.finishedStream ["hello".toList]) ++ List.replicate 7 (.perform 0)) = some final ∧
      ∃ immediate terminal, Answered sampleContext (sampleMoment "a".toList)
        ⟨true, some "a".toList, .receiving⟩ agentFrame final 0 immediate terminal := by
  have finishes : (service fun _ => sampleContext).Guarded (Finishes (fun _ => sampleContext) 0) .start
      (oneRequest (Agent.finishedStream ["hello".toList]) ++ List.replicate 7 (.perform 0)) := by
    refine Machine.guarded_of_forall ?_ Service.start
    intro action member state
    simp only [oneRequest, List.mem_append, List.mem_cons, List.not_mem_nil, or_false,
      List.mem_replicate] at member
    rcases member with (rfl | rfl | rfl | rfl | rfl) | ⟨_, rfl⟩
    · rintro - connectAuth method ⟨isConnect, _⟩
      rcases Option.some.inj isConnect with rfl
      cases method <;> rfl
    · rintro - connectAuth method ⟨impossible, _⟩
      cases impossible
    · trivial
    · trivial
    · intro task _ _
      exact ⟨⟨.done, by simp, by simp⟩, stripsReply_hello task.request.job⟩
    · trivial
  have performed : ((service fun _ => sampleContext).run .start
      (oneRequest (Agent.finishedStream ["hello".toList]) ++
        List.replicate 7 (.perform 0))).isSome = true := by decide +kernel
  rcases Option.isSome_iff_exists.mp performed with ⟨final, runs⟩
  exact ⟨final, runs,
    request_answered (polite_oneRequest _ 7) finishes runs _ _ _ (receives_agentFrame _ 7)⟩

/-- A reply of two dispatch blocks on adjacent lines. -/
def adjacentBlocks : Text := "@@dispatch\nx\n@@end\n@@dispatch\ny\n@@end".toList

/-- The stripping of such a reply panics, and the request has no second
answer. -/
theorem adjacent_blocks_unanswered :
    ∃ schedule final, Polite (fun _ => sampleContext) 0 schedule ∧
      (service fun _ => sampleContext).run .start schedule = some final ∧
      Receives (fun _ => sampleContext) schedule 0 (sampleMoment "a".toList)
        ⟨true, some "a".toList, .receiving⟩ agentFrame ∧
      ¬ ∃ immediate terminal, Answered sampleContext (sampleMoment "a".toList)
        ⟨true, some "a".toList, .receiving⟩ agentFrame final 0 immediate terminal := by
  refine ⟨_, _, polite_oneRequest (Agent.finishedStream [adjacentBlocks]) 1, rfl, receives_agentFrame _ 1, ?_⟩
  rintro ⟨immediate, terminal, answered⟩
  have asks : Asks sampleContext ⟨true, some "a".toList, .receiving⟩ agentFrame sampleRequest := by
    refine @Asks.intro sampleContext _ agentFrame _ ⟨"hi".toList, "k".toList⟩ rfl (Or.inl rfl) rfl rfl ?_
    decide
  have ended : terminal ≠ [] := answered.ended.mpr ⟨0, sampleRequest, _, asks, rfl, nofun⟩
  have all : [sampleRequest.accepted 0] = immediate ++ terminal := answered.all
  rcases answered.once with ⟨response, rfl, _⟩ | ⟨_, index, request, _, here⟩
  · exact ended (List.cons.inj all).2.symm
  · cases List.mem_singleton.mp (List.mem_of_getElem? here)

end Connection
end Rabb1tClaw
