import Mathlib.Data.Finset.Basic
import Rabb1tClaw.Agent.Dispatch
import Rabb1tClaw.Foundations.Machine

namespace Rabb1tClaw
namespace Connection

open Foundations
open Agent (AgentRequest Dispatched RunEffect RunTrace StreamJob dispatchMethod emitRunError
  streamAgentResponse)
open Protocol
open Provider (StreamChunk)

/-!
# The service

`service` is the machine of any number of sockets with their frame loops, of
the agent requests that these loops handle, and of the runs that the requests
start.  A well-formed agent request is acknowledged, claims its idempotency
key, and resolves a model; then its run goes on in a task of its own.  Between
two of these steps any other socket, request or run may move.

A frame loop takes its next arrival when it has handled the previous one.  A
run's operations are laid down when it starts, from what its provider will
send; the order in which they come with the steps of others is open.
-/

/-! ## Operations -/

/-- What a run does to the shared state of this machine: a frame for the
device, or the release of its key.  Recorded turns and dispatched tasks go to
other parts of the gateway. -/
inductive RunOperation where
  | send (frame : OutgoingFrame)
  | release (dedupKey : Option Text × Text)

def operationsOf (clock : Nat → UInt64) (effect : RunEffect) : List RunOperation :=
  (effect.frames clock).map .send ++
    match effect with
    | .release dedupKey => [.release dedupKey]
    | _ => []

/-- The operations of a run. -/
def runOperations (clock : Nat → UInt64) (trace : RunTrace) : List RunOperation :=
  trace.effects.flatMap (operationsOf clock)

/-- Without a model, the key is released before the error is reported. -/
def unresolvedOperations (request : AgentRequest) (now : UInt64) : List RunOperation :=
  .release request.dedupKey ::
    (emitRunError request.runId request.requestId 0 now "no LLM model configured".toList).map .send

/-- What a run does before its end: the start, and two frames for each
delta. -/
theorem loop_operations {job : StreamJob} {clock : Nat → UInt64} {loop : Agent.ChunkLoop}
    {deltas : List Text} (sequenced : Agent.Sequenced job loop deltas) {operation : RunOperation}
    (member : operation ∈ loop.effects.flatMap (operationsOf clock)) :
    operation = .send (Agent.lifecycleStartEvent job.runId (clock 0)) ∨
      ∃ seq delta, operation = .send (Agent.agentDelta job.runId seq (clock seq) delta) ∨
        operation = .send (Agent.chatDelta job.runId job.sessionKey seq delta) := by
  rcases List.mem_flatMap.mp member with ⟨effect, among, inside⟩
  rw [sequenced.effects] at among
  rcases List.mem_cons.mp among with rfl | delta
  · exact Or.inl (List.mem_singleton.mp inside)
  · rcases List.mem_map.mp delta with ⟨entry, _, rfl⟩
    exact Or.inr ⟨entry.2, entry.1, List.mem_pair.mp inside⟩

theorem operations_recordExchange (job : StreamJob) (clock : Nat → UInt64) (response clean : Text) :
    (Agent.ChunkLoop.recordExchange job response clean).flatMap (operationsOf clock) = [] := by
  unfold Agent.ChunkLoop.recordExchange
  split <;> rfl

/-! ## The state -/

/-- Where an agent request stands.  It is `unacknowledged` if the channel was
closed, and a `duplicate` if its key was taken.  A spawned run performs its
operations in a task of its own; without a model, the handler reports. -/
inductive RequestPhase where
  | accepting
  | unacknowledged
  | claiming
  | duplicate
  | resolving
  | performing (spawned : Bool) (operations : List RunOperation)

namespace RequestPhase

/-- The frame loop still awaits the request. -/
def inHandler : RequestPhase → Bool
  | accepting | claiming | resolving | performing false (_ :: _) => true
  | _ => false

/-- Between the claim and the cleanup. -/
def InFlight : RequestPhase → Prop
  | resolving => True
  | performing true operations => operations ≠ []
  | performing false operations => ∃ dedupKey, .release dedupKey ∈ operations
  | _ => False

end RequestPhase

structure RequestTask where
  socket : Nat
  request : AgentRequest
  phase : RequestPhase

/-- A frame in the channel of a socket, with the request it was sent for. -/
structure Sent where
  socket : Nat
  task : Option Nat
  frame : OutgoingFrame

structure Service where
  sockets : Nat → SocketTask
  channels : Nat → Bool
  activeRequests : Finset (Option Text × Text)
  tasks : List RequestTask
  sent : List Sent

/-- A step of a frame loop, of a request, or of its run; or a send task ends
and the channel of its socket closes. -/
inductive ServiceStep where
  | receive (socket : Nat) (moment : Moment) (arrival : Arrival)
  | accept (index : Nat) (now : UInt64)
  | claim (index : Nat)
  | resolve (index : Nat) (clock : Nat → UInt64) (streamed : Option (Except Text (List StreamChunk)))
  | perform (index : Nat)
  | close (socket : Nat)

/-- The frames of a call of the frame loop.  An error of the dispatched method
is reported by the loop. -/
def outgoing (context : SocketContext) (moment : Moment) : SocketEffect → List OutgoingFrame
  | .send frame => [frame]
  | .dispatchMethod call =>
      match dispatchMethod context moment call with
      | .respond frame => [.response frame]
      | .failed message => [.response (.failure call.requestId (.internal message))]
      | .agent _ => []
  | .registerConnection _ | .spawnTickTask => []

/-- The agent request in a call of the frame loop. -/
def agentRequest? (context : SocketContext) (moment : Moment) : SocketEffect → Option AgentRequest
  | .dispatchMethod call =>
      match dispatchMethod context moment call with
      | .agent request => some request
      | _ => none
  | _ => none

namespace Service

def start : Service := ⟨fun _ => .start, fun _ => true, ∅, [], []⟩

/-- No request of a socket keeps its frame loop waiting. -/
def idle (state : Service) (socket : Nat) : Bool :=
  state.tasks.all fun task => task.socket != socket || !task.phase.inHandler

def setSocket (state : Service) (socket : Nat) (task : SocketTask) : Service :=
  { state with sockets := Function.update state.sockets socket task }

def setTask (state : Service) (index : Nat) (task : RequestTask) : Service :=
  { state with tasks := state.tasks.set index task }

/-- The frames are enqueued while the channel is open. -/
def deliver (state : Service) (socket : Nat) (task : Option Nat) (frames : List OutgoingFrame) : Service :=
  if state.channels socket then
    { state with sent := state.sent ++ frames.map fun frame => ⟨socket, task, frame⟩ }
  else
    state

def begin (state : Service) (socket : Nat) : Option AgentRequest → Service
  | some request => { state with tasks := state.tasks ++ [⟨socket, request, .accepting⟩] }
  | none => state

def operate (state : Service) (socket index : Nat) : RunOperation → Service
  | .send frame => state.deliver socket (some index) [frame]
  | .release dedupKey => { state with activeRequests := state.activeRequests.erase dedupKey }

/-- A socket takes an arrival. -/
def take (contexts : Nat → SocketContext) (state : Service) (socket : Nat) (moment : Moment)
    (arrival : Arrival) : Service :=
  let turn := (state.sockets socket).receive (contexts socket) moment arrival
  ((state.setSocket socket turn.1).deliver socket none
    (turn.2.flatMap (outgoing (contexts socket) moment))).begin socket
      (turn.2.findSome? (agentRequest? (contexts socket) moment))

end Service

def service (contexts : Nat → SocketContext) : Machine Service ServiceStep where
  step state
    | .receive socket moment arrival =>
        if (state.sockets socket).phase = .receiving ∧ state.idle socket = true then
          some (state.take contexts socket moment arrival)
        else
          none
    | .accept index now =>
        match state.tasks[index]? with
        | some ⟨socket, request, .accepting⟩ =>
            if state.channels socket then
              some ((state.deliver socket (some index) [.response (request.accepted now)]).setTask index
                ⟨socket, request, .claiming⟩)
            else
              some (state.setTask index ⟨socket, request, .unacknowledged⟩)
        | _ => none
    | .claim index =>
        match state.tasks[index]? with
        | some ⟨socket, request, .claiming⟩ =>
            if request.dedupKey ∈ state.activeRequests then
              some (state.setTask index ⟨socket, request, .duplicate⟩)
            else
              some ({ state with activeRequests := insert request.dedupKey state.activeRequests }.setTask
                index ⟨socket, request, .resolving⟩)
        | _ => none
    | .resolve index clock streamed =>
        match state.tasks[index]? with
        | some ⟨socket, request, .resolving⟩ =>
            match streamed with
            | none =>
                some (state.setTask index
                  ⟨socket, request, .performing false (unresolvedOperations request (clock 0))⟩)
            | some streamed =>
                some (state.setTask index ⟨socket, request, .performing true
                  (runOperations clock (streamAgentResponse request.job streamed))⟩)
        | _ => none
    | .perform index =>
        match state.tasks[index]? with
        | some ⟨socket, request, .performing spawned (operation :: operations)⟩ =>
            some ((state.operate socket index operation).setTask index
              ⟨socket, request, .performing spawned operations⟩)
        | _ => none
    | .close socket => some { state with channels := Function.update state.channels socket false }

/-! ## What a step can do -/

/-- The steps, one rule for each outcome. -/
inductive Serves (contexts : Nat → SocketContext) (state : Service) : ServiceStep → Service → Prop
  | receive {socket : Nat} {moment : Moment} {arrival : Arrival}
      (receiving : (state.sockets socket).phase = .receiving) :
      Serves contexts state (.receive socket moment arrival) (state.take contexts socket moment arrival)
  | accept {index socket : Nat} {request : AgentRequest} {now : UInt64}
      (found : state.tasks[index]? = some ⟨socket, request, .accepting⟩)
      (received : state.channels socket = true) :
      Serves contexts state (.accept index now)
        ((state.deliver socket (some index) [.response (request.accepted now)]).setTask index
          ⟨socket, request, .claiming⟩)
  | refuse {index socket : Nat} {request : AgentRequest} {now : UInt64}
      (found : state.tasks[index]? = some ⟨socket, request, .accepting⟩)
      (closed : state.channels socket = false) :
      Serves contexts state (.accept index now)
        (state.setTask index ⟨socket, request, .unacknowledged⟩)
  | duplicate {index socket : Nat} {request : AgentRequest}
      (found : state.tasks[index]? = some ⟨socket, request, .claiming⟩)
      (taken : request.dedupKey ∈ state.activeRequests) :
      Serves contexts state (.claim index) (state.setTask index ⟨socket, request, .duplicate⟩)
  | claim {index socket : Nat} {request : AgentRequest}
      (found : state.tasks[index]? = some ⟨socket, request, .claiming⟩)
      (free : request.dedupKey ∉ state.activeRequests) :
      Serves contexts state (.claim index)
        ({ state with activeRequests := insert request.dedupKey state.activeRequests }.setTask index
          ⟨socket, request, .resolving⟩)
  | unresolved {index socket : Nat} {request : AgentRequest} {clock : Nat → UInt64}
      (found : state.tasks[index]? = some ⟨socket, request, .resolving⟩) :
      Serves contexts state (.resolve index clock none) (state.setTask index
        ⟨socket, request, .performing false (unresolvedOperations request (clock 0))⟩)
  | resolve {index socket : Nat} {request : AgentRequest} {clock : Nat → UInt64}
      {streamed : Except Text (List StreamChunk)}
      (found : state.tasks[index]? = some ⟨socket, request, .resolving⟩) :
      Serves contexts state (.resolve index clock (some streamed)) (state.setTask index
        ⟨socket, request, .performing true
          (runOperations clock (streamAgentResponse request.job streamed))⟩)
  | perform {index socket : Nat} {request : AgentRequest} {spawned : Bool} {operation : RunOperation}
      {operations : List RunOperation}
      (found : state.tasks[index]? =
        some ⟨socket, request, .performing spawned (operation :: operations)⟩) :
      Serves contexts state (.perform index) ((state.operate socket index operation).setTask index
        ⟨socket, request, .performing spawned operations⟩)
  | close {socket : Nat} :
      Serves contexts state (.close socket)
        { state with channels := Function.update state.channels socket false }

theorem serves_of_step {contexts : Nat → SocketContext} {state next : Service} {action : ServiceStep}
    (step : (service contexts).step state action = some next) : Serves contexts state action next := by
  cases action with
  | receive socket moment arrival =>
      simp only [service] at step
      split at step
      · rename_i ready
        exact Option.some.inj step ▸ .receive ready.1
      · cases step
  | accept index now =>
      simp only [service] at step
      split at step
      · rename_i socket request found
        split at step
        · rename_i received
          exact Option.some.inj step ▸ .accept found received
        · rename_i closed
          exact Option.some.inj step ▸ .refuse found (Bool.eq_false_iff.mpr closed)
      · cases step
  | claim index =>
      simp only [service] at step
      split at step
      · rename_i socket request found
        split at step
        · rename_i taken
          exact Option.some.inj step ▸ .duplicate found taken
        · rename_i free
          exact Option.some.inj step ▸ .claim found free
      · cases step
  | resolve index clock streamed =>
      simp only [service] at step
      split at step
      · rename_i socket request found
        split at step
        · exact Option.some.inj step ▸ .unresolved found
        · exact Option.some.inj step ▸ .resolve found
      · cases step
  | perform index =>
      simp only [service] at step
      split at step
      · rename_i socket request spawned operation operations found
        exact Option.some.inj step ▸ .perform found
      · cases step
  | close socket => exact Option.some.inj step ▸ .close

/-! ## Small steps on the state -/

namespace Service

variable {state : Service}

@[simp] theorem activeRequests_deliver (socket : Nat) (task : Option Nat) (frames : List OutgoingFrame) :
    (state.deliver socket task frames).activeRequests = state.activeRequests := by
  unfold deliver
  split <;> rfl

@[simp] theorem tasks_deliver (socket : Nat) (task : Option Nat) (frames : List OutgoingFrame) :
    (state.deliver socket task frames).tasks = state.tasks := by
  unfold deliver
  split <;> rfl

@[simp] theorem channels_deliver (socket : Nat) (task : Option Nat) (frames : List OutgoingFrame) :
    (state.deliver socket task frames).channels = state.channels := by
  unfold deliver
  split <;> rfl

theorem tasks_begin (socket : Nat) (request : Option AgentRequest) :
    (state.begin socket request).tasks =
      state.tasks ++ request.toList.map fun request => ⟨socket, request, .accepting⟩ := by
  cases request with
  | none => exact (List.append_nil _).symm
  | some request => rfl

@[simp] theorem channels_setTask (index : Nat) (task : RequestTask) :
    (state.setTask index task).channels = state.channels := rfl

@[simp] theorem tasks_setTask (index : Nat) (task : RequestTask) :
    (state.setTask index task).tasks = state.tasks.set index task := rfl

@[simp] theorem channels_operate (socket index : Nat) (operation : RunOperation) :
    (state.operate socket index operation).channels = state.channels := by
  cases operation <;> simp [operate]

@[simp] theorem tasks_operate (socket index : Nat) (operation : RunOperation) :
    (state.operate socket index operation).tasks = state.tasks := by
  cases operation <;> simp [operate]

end Service

/-- The tasks behind a change of one of them. -/
theorem getElem?_set_task {tasks : List RequestTask} {index : Nat} {before : RequestTask}
    (found : tasks[index]? = some before) (after : RequestTask) (other : Nat) :
    (tasks.set index after)[other]? = if index = other then some after else tasks[other]? := by
  have inside : index < tasks.length := (List.getElem?_eq_some_iff.mp found).1
  rw [List.getElem?_set, if_pos inside]

end Connection
end Rabb1tClaw
