import Rabb1tClaw.Connection.InFlight

namespace Rabb1tClaw
namespace Connection

open Foundations
open Agent (AgentRequest CarriesRunId Concludes Conclusion RunEffect Sequenced StreamJob StripsReply
  streamAgentResponse)
open Protocol
open Provider (StreamChunk)

/-!
# Absorbed requests

While a request is in flight, a retry with its idempotency key is acknowledged
and otherwise left to the run.  The run sends its events to the socket of the
request that started it, and only there: a retry from another socket of the
device is told `accepted` and hears nothing more (`absorbed_served_iff`).

The rules of `Follows` say what a step does to one request and to the frames
sent for it.  A run sends one terminal `chat` event, or none.
-/

/-! ## One request among the others -/

/-- The request that a step names. -/
def ServiceStep.index? : ServiceStep → Option Nat
  | accept index _ | claim index | resolve index _ _ | perform index => some index
  | receive .. | close _ => none

/-- The frames sent for a request. -/
def Service.sentFor (state : Service) (index : Nat) : List Sent :=
  state.sent.filter fun entry => entry.task = some index

/-- What an operation adds to the frames of its request. -/
def Service.enqueued (state : Service) (socket index : Nat) : RunOperation → List Sent
  | .send frame => if state.channels socket = true then [⟨socket, some index, frame⟩] else []
  | .release _ => []

/-- What a step does to one request: it moves it, or it leaves it and its
frames alone. -/
inductive Follows (state : Service) (index : Nat) : ServiceStep → Service → Prop
  | stay {action : ServiceStep} {next : Service} (elsewhere : action.index? ≠ some index)
      (same : next.tasks[index]? = state.tasks[index]?)
      (quiet : next.sentFor index = state.sentFor index) : Follows state index action next
  | begins {action : ServiceStep} {next : Service} {socket : Nat} {request : AgentRequest}
      (elsewhere : action.index? ≠ some index) (absent : state.tasks[index]? = none)
      (here : next.tasks[index]? = some ⟨socket, request, .accepting⟩)
      (quiet : next.sentFor index = state.sentFor index) : Follows state index action next
  | accept {next : Service} {socket : Nat} {request : AgentRequest} {now : UInt64}
      (found : state.tasks[index]? = some ⟨socket, request, .accepting⟩)
      (here : next.tasks[index]? = some ⟨socket, request, .claiming⟩)
      (sends : next.sentFor index = state.sentFor index ++
        [⟨socket, some index, .response (request.accepted now)⟩]) :
      Follows state index (.accept index now) next
  | settle {action : ServiceStep} {next : Service} {socket : Nat} {request : AgentRequest}
      {before after : RequestPhase} (found : state.tasks[index]? = some ⟨socket, request, before⟩)
      (here : next.tasks[index]? = some ⟨socket, request, after⟩)
      (way : (before = .accepting ∧ after = .unacknowledged ∧ ∃ now, action = .accept index now) ∨
        (before = .claiming ∧ (after = .duplicate ∨ after = .resolving) ∧ action = .claim index))
      (quiet : next.sentFor index = state.sentFor index) : Follows state index action next
  | unresolved {next : Service} {socket : Nat} {request : AgentRequest} {clock : Nat → UInt64}
      (found : state.tasks[index]? = some ⟨socket, request, .resolving⟩)
      (here : next.tasks[index]? =
        some ⟨socket, request, .performing false (unresolvedOperations request (clock 0))⟩)
      (quiet : next.sentFor index = state.sentFor index) :
      Follows state index (.resolve index clock none) next
  | resolve {next : Service} {socket : Nat} {request : AgentRequest} {clock : Nat → UInt64}
      {streamed : Except Text (List StreamChunk)}
      (found : state.tasks[index]? = some ⟨socket, request, .resolving⟩)
      (here : next.tasks[index]? = some ⟨socket, request, .performing true
        (runOperations clock (streamAgentResponse request.job streamed))⟩)
      (quiet : next.sentFor index = state.sentFor index) :
      Follows state index (.resolve index clock (some streamed)) next
  | perform {next : Service} {socket : Nat} {request : AgentRequest} {spawned : Bool}
      {operation : RunOperation} {operations : List RunOperation}
      (found : state.tasks[index]? =
        some ⟨socket, request, .performing spawned (operation :: operations)⟩)
      (here : next.tasks[index]? = some ⟨socket, request, .performing spawned operations⟩)
      (sends : next.sentFor index = state.sentFor index ++ state.enqueued socket index operation) :
      Follows state index (.perform index) next

namespace Service

variable {state : Service}

@[simp] theorem sentFor_setTask (changed index : Nat) (task : RequestTask) :
    (state.setTask changed task).sentFor index = state.sentFor index := rfl

@[simp] theorem sentFor_begin (socket index : Nat) (request : Option AgentRequest) :
    (state.begin socket request).sentFor index = state.sentFor index := by
  cases request <;> rfl

theorem sentFor_deliver_other {socket index : Nat} {tag : Option Nat} (frames : List OutgoingFrame)
    (other : tag ≠ some index) : (state.deliver socket tag frames).sentFor index = state.sentFor index := by
  unfold deliver
  split
  · have none_here : (frames.map fun frame => (⟨socket, tag, frame⟩ : Sent)).filter
        (fun entry => entry.task = some index) = [] := by
      apply List.filter_eq_nil_iff.mpr
      intro entry member
      rcases List.mem_map.mp member with ⟨frame, _, rfl⟩
      simp [other]
    simp only [sentFor, List.filter_append, none_here, List.append_nil]
  · rfl

theorem sentFor_deliver_one (socket index : Nat) (frame : OutgoingFrame) :
    (state.deliver socket (some index) [frame]).sentFor index =
      state.sentFor index ++ state.enqueued socket index (.send frame) := by
  unfold deliver enqueued
  split
  · simp [sentFor]
  · exact (List.append_nil _).symm

theorem sentFor_operate (socket changed index : Nat) (operation : RunOperation) :
    (state.operate socket changed operation).sentFor index =
      state.sentFor index ++ if changed = index then state.enqueued socket index operation else [] := by
  cases operation with
  | release dedupKey =>
      simp only [enqueued, ite_self, List.append_nil]
      rfl
  | send frame =>
      simp only [operate]
      split
      · rename_i equal
        subst equal
        exact sentFor_deliver_one socket changed frame
      · rename_i differs
        rw [List.append_nil]
        apply sentFor_deliver_other
        intro same
        exact differs (Option.some.inj same)

end Service

/-- A step of a task is one of the request, or of another and then it sends
nothing for the request. -/
theorem follows_touched {state next : Service} {action : ServiceStep} {index changed : Nat}
    {before after : RequestTask} (names : action.index? = some changed)
    (found : state.tasks[changed]? = some before) (tasks : next.tasks = state.tasks.set changed after)
    (quiet : changed ≠ index → next.sentFor index = state.sentFor index)
    (own : changed = index → next.tasks[changed]? = some after → Follows state index action next) :
    Follows state index action next := by
  by_cases same : changed = index
  · apply own same
    rw [tasks, getElem?_set_task found, if_pos rfl]
  · refine .stay ?_ ?_ (quiet same)
    · rw [names]
      intro equal
      exact same (Option.some.inj equal)
    · rw [tasks, getElem?_set_task found, if_neg same]

/-- A frame that arrives begins at most a request of its own. -/
theorem follows_take (contexts : Nat → SocketContext) (state : Service) (socket : Nat) (moment : Moment)
    (arrival : Arrival) (index : Nat) :
    Follows state index (.receive socket moment arrival) (state.take contexts socket moment arrival) := by
  have unnamed : (none : Option Nat) ≠ some index := by simp
  have quiet : (state.take contexts socket moment arrival).sentFor index = state.sentFor index := by
    unfold Service.take
    simp only [Service.sentFor_begin]
    exact Service.sentFor_deliver_other _ unnamed
  have tasks : (state.take contexts socket moment arrival).tasks = _ := Service.tasks_begin _ _
  rw [Service.tasks_deliver] at tasks
  generalize List.findSome? _ _ = started at tasks
  cases started with
  | none =>
      refine .stay unnamed ?_ quiet
      rw [tasks]
      exact congrArg (fun list => list[index]?) (List.append_nil state.tasks)
  | some request =>
      change _ = state.tasks ++ [⟨socket, request, .accepting⟩] at tasks
      by_cases last : index = state.tasks.length
      · have absent : state.tasks[index]? = none := List.getElem?_eq_none (le_of_eq last.symm)
        have here : (state.take contexts socket moment arrival).tasks[index]? =
            some ⟨socket, request, .accepting⟩ := by
          rw [tasks, last, List.getElem?_concat_length]
        exact .begins unnamed absent here quiet
      · refine .stay unnamed ?_ quiet
        rw [tasks, List.getElem?_append]
        split
        · rfl
        · rw [List.getElem?_eq_none (by simp; omega), List.getElem?_eq_none (by omega)]

theorem follows_of_serves {contexts : Nat → SocketContext} {state next : Service} {action : ServiceStep}
    (serves : Serves contexts state action next) (index : Nat) : Follows state index action next := by
  cases serves with
  | @receive socket moment arrival receiving => exact follows_take contexts state socket moment arrival index
  | @accept changed socket request now found received =>
      have tasks : ((state.deliver socket (some changed) [.response (request.accepted now)]).setTask
          changed ⟨socket, request, .claiming⟩).tasks =
            state.tasks.set changed ⟨socket, request, .claiming⟩ := by
        simp [Service.setTask]
      refine follows_touched rfl found tasks ?_ ?_
      · intro differs
        rw [Service.sentFor_setTask]
        apply Service.sentFor_deliver_other
        intro equal
        exact differs (Option.some.inj equal)
      · rintro rfl here
        refine .accept found here ?_
        rw [Service.sentFor_setTask, Service.sentFor_deliver_one, Service.enqueued, if_pos received]
  | @refuse changed socket request now found closed =>
      refine follows_touched rfl found rfl (fun _ => rfl) ?_
      rintro rfl here
      exact .settle found here (Or.inl ⟨rfl, rfl, now, rfl⟩) rfl
  | @duplicate changed socket request found taken =>
      refine follows_touched rfl found rfl (fun _ => rfl) ?_
      rintro rfl here
      exact .settle found here (Or.inr ⟨rfl, Or.inl rfl, rfl⟩) rfl
  | @claim changed socket request found free =>
      refine follows_touched rfl found rfl (fun _ => rfl) ?_
      rintro rfl here
      exact .settle found here (Or.inr ⟨rfl, Or.inr rfl, rfl⟩) rfl
  | @unresolved changed socket request clock found =>
      refine follows_touched rfl found rfl (fun _ => rfl) ?_
      rintro rfl here
      exact .unresolved found here rfl
  | @resolve changed socket request clock streamed found =>
      refine follows_touched rfl found rfl (fun _ => rfl) ?_
      rintro rfl here
      exact .resolve found here rfl
  | @perform changed socket request spawned operation operations found =>
      have tasks : ((state.operate socket changed operation).setTask changed
          ⟨socket, request, .performing spawned operations⟩).tasks =
            state.tasks.set changed ⟨socket, request, .performing spawned operations⟩ := by
        simp [Service.setTask]
      refine follows_touched rfl found tasks ?_ ?_
      · intro differs
        rw [Service.sentFor_setTask, Service.sentFor_operate, if_neg differs, List.append_nil]
      · rintro rfl here
        refine .perform found here ?_
        rw [Service.sentFor_setTask, Service.sentFor_operate, if_pos rfl]
  | close => exact .stay (by simp [ServiceStep.index?]) rfl rfl

/-! ## Terminal events -/

/-- The `chat` event that ends a run: its state is `final` or `error`. -/
def endsChat : OutgoingFrame → Bool
  | .event frame =>
      let state := (frame.field "state".toList).bind Agent.JsonValue.asStr
      decide (frame.event = "chat".toList) &&
        decide (state = some "final".toList ∨ state = some "error".toList)
  | _ => false

def RunOperation.endsChat : RunOperation → Bool
  | send frame => Connection.endsChat frame
  | release _ => false

section

variable {job : StreamJob} {clock : Nat → UInt64}

/-- The start of a run and its deltas end nothing. -/
theorem deltas_endNothing {loop : Agent.ChunkLoop} {deltas : List Text}
    (sequenced : Sequenced job loop deltas) :
    (loop.effects.flatMap (operationsOf clock)).countP RunOperation.endsChat = 0 := by
  apply List.countP_eq_zero.mpr
  intro operation member
  rcases loop_operations sequenced member with rfl | ⟨seq, delta, rfl | rfl⟩ <;>
    exact Bool.false_ne_true

theorem conclusion_endsChat {seq : Nat} {tail : List RunEffect} (conclusion : Conclusion job seq tail) :
    (tail.flatMap (operationsOf clock)).countP RunOperation.endsChat = 1 := by
  cases conclusion with
  | @finished response clean =>
      rw [List.flatMap_append, operations_recordExchange]
      rfl
  | failed => rfl

theorem conclusion_carries {seq : Nat} {tail : List RunEffect} (conclusion : Conclusion job seq tail) :
    ∀ frame, .send frame ∈ tail.flatMap (operationsOf clock) → endsChat frame = true →
      CarriesRunId job.runId frame := by
  intro frame member ends
  cases conclusion with
  | @finished response clean =>
      rw [List.flatMap_append, operations_recordExchange, List.nil_append] at member
      simp only [operationsOf, RunEffect.frames, Agent.emitStreamDone, List.flatMap_cons, List.map_cons,
        List.map_nil, List.append_nil, List.flatMap_nil, List.mem_append, List.mem_cons, List.not_mem_nil,
        or_false, RunOperation.send.injEq, reduceCtorEq] at member
      rcases member with rfl | rfl | rfl <;> rfl
  | failed =>
      simp only [operationsOf, RunEffect.frames, Agent.emitRunError, List.flatMap_cons, List.map_cons,
        List.map_nil, List.append_nil, List.flatMap_nil, List.mem_append, List.mem_cons, List.not_mem_nil,
        or_false, RunOperation.send.injEq, reduceCtorEq] at member
      rcases member with rfl | rfl | rfl
      · rfl
      · rfl
      · cases ends

/-- A run has one terminal event if its stream concludes with a reply that can
be stripped, and none otherwise. -/
theorem runOperations_endsChat (job : StreamJob) (clock : Nat → UInt64)
    (streamed : Except Text (List StreamChunk)) :
    ((Concludes streamed ∧ StripsReply job streamed ∧
          (runOperations clock (streamAgentResponse job streamed)).countP RunOperation.endsChat = 1) ∨
        (¬ (Concludes streamed ∧ StripsReply job streamed) ∧
          (runOperations clock (streamAgentResponse job streamed)).countP RunOperation.endsChat = 0)) ∧
      ∀ frame, .send frame ∈ runOperations clock (streamAgentResponse job streamed) →
        endsChat frame = true → CarriesRunId job.runId frame := by
  rcases Agent.streamAgentResponse_cases job streamed with ⟨loop, deltas, sequenced, cases⟩
  have quiet := @deltas_endNothing _ clock _ _ sequenced
  have never : ∀ frame, .send frame ∈ loop.effects.flatMap (operationsOf clock) → endsChat frame ≠ true :=
    fun frame member => List.countP_eq_zero.mp quiet _ member
  unfold runOperations
  rcases cases with ⟨concludes, strips, tail, conclusion, effects⟩ | ⟨silent, strips, effects⟩ |
      ⟨panics, effects⟩
  · rw [effects, List.flatMap_append]
    refine ⟨Or.inl ⟨concludes, strips, ?_⟩, fun frame member ends => ?_⟩
    · rw [List.countP_append, quiet, conclusion_endsChat conclusion]
    · rcases List.mem_append.mp member with early | late
      · exact absurd ends (never frame early)
      · exact conclusion_carries conclusion frame late ends
  · rw [effects, List.flatMap_append]
    refine ⟨Or.inr ⟨fun both => silent both.1, ?_⟩, fun frame member ends => ?_⟩
    · rw [List.countP_append, quiet]
      rfl
    · rcases List.mem_append.mp member with early | late
      · exact absurd ends (never frame early)
      · cases List.mem_singleton.mp late
  · rw [effects]
    exact ⟨Or.inr ⟨fun both => panics both.2, quiet⟩,
      fun frame member ends => absurd ends (never frame member)⟩

theorem unresolvedOperations_endsChat (request : AgentRequest) (now : UInt64) :
    (unresolvedOperations request now).countP RunOperation.endsChat = 1 ∧
      ∀ frame, .send frame ∈ unresolvedOperations request now → endsChat frame = true →
        CarriesRunId request.runId frame := by
  refine ⟨rfl, fun frame member ends => ?_⟩
  simp only [unresolvedOperations, Agent.emitRunError, List.map_cons, List.map_nil, List.mem_cons,
    List.not_mem_nil, or_false, false_or, RunOperation.send.injEq, reduceCtorEq] at member
  rcases member with rfl | rfl | rfl
  · rfl
  · rfl
  · cases ends

end

/-! ## Where a request is heard -/

/-- How many terminal events were sent for a request. -/
def Service.reported (state : Service) (index : Nat) : Nat :=
  (state.sentFor index).countP fun entry => endsChat entry.frame

/-- The operations of a request whose run has started or failed to. -/
def RequestPhase.operations? : RequestPhase → Option (List RunOperation)
  | performing _ operations => some operations
  | _ => none

/-- What is sent for a request goes to its socket, and its terminal events
carry its run id; there is at most one, sent or left. -/
structure Attribution (state : Service) (index socket : Nat) (request : AgentRequest)
    (phase : RequestPhase) : Prop where
  own : ∀ entry ∈ state.sentFor index, entry.socket = socket ∧
    (endsChat entry.frame = true → CarriesRunId request.runId entry.frame)
  early : phase.operations? = none → state.reported index = 0
  once : ∀ operations, phase.operations? = some operations →
    state.reported index + operations.countP RunOperation.endsChat ≤ 1
  carries : ∀ operations, phase.operations? = some operations → ∀ frame, .send frame ∈ operations →
    endsChat frame = true → CarriesRunId request.runId frame

inductive Attributed (index : Nat) (state : Service) : Prop
  | absent (unborn : state.tasks[index]? = none) (silent : state.sentFor index = [])
  | present {socket : Nat} {request : AgentRequest} {phase : RequestPhase}
      (here : state.tasks[index]? = some ⟨socket, request, phase⟩)
      (attribution : Attribution state index socket request phase)

section

variable {state next : Service} {index socket : Nat} {request : AgentRequest}
  {phase after : RequestPhase}

theorem Attributed.attribution (attributed : Attributed index state)
    (found : state.tasks[index]? = some ⟨socket, request, phase⟩) :
    Attribution state index socket request phase := by
  cases attributed with
  | absent unborn _ => cases unborn.symm.trans found
  | present here attribution =>
      cases here.symm.trans found
      exact attribution

theorem reported_of_quiet (quiet : next.sentFor index = state.sentFor index) :
    next.reported index = state.reported index := by
  rw [Service.reported, Service.reported, quiet]

/-- Nothing is sent, and the new operations end the chat once at most. -/
theorem Attribution.settled (attribution : Attribution state index socket request phase)
    (early : phase.operations? = none) (quiet : next.sentFor index = state.sentFor index)
    (once : ∀ operations, after.operations? = some operations →
      operations.countP RunOperation.endsChat ≤ 1 ∧
        ∀ frame, .send frame ∈ operations → endsChat frame = true → CarriesRunId request.runId frame) :
    Attribution next index socket request after where
  own := by
    rw [quiet]
    exact attribution.own
  early := by
    intro _
    rw [reported_of_quiet quiet, attribution.early early]
  once := by
    intro operations left
    rw [reported_of_quiet quiet, attribution.early early, Nat.zero_add]
    exact (once operations left).1
  carries := fun operations left => (once operations left).2

theorem Attribution.performed {spawned : Bool} {operation : RunOperation}
    {operations : List RunOperation}
    (attribution : Attribution state index socket request (.performing spawned (operation :: operations)))
    (sends : next.sentFor index = state.sentFor index ++ state.enqueued socket index operation) :
    Attribution next index socket request (.performing spawned operations) := by
  have once := attribution.once _ rfl
  have carries := attribution.carries _ rfl
  rw [List.countP_cons] at once
  have added : ∀ entry ∈ state.enqueued socket index operation, ∃ frame,
      operation = .send frame ∧ entry = ⟨socket, some index, frame⟩ := by
    intro entry member
    unfold Service.enqueued at member
    split at member
    · split at member
      · exact ⟨_, rfl, List.mem_singleton.mp member⟩
      · cases member
    · cases member
  have counted : (state.enqueued socket index operation).countP (fun entry => endsChat entry.frame) ≤
      if operation.endsChat = true then 1 else 0 := by
    unfold Service.enqueued
    split
    · split
      · exact le_of_eq List.countP_singleton
      · exact Nat.zero_le _
    · exact Nat.zero_le _
  refine ⟨?_, nofun, ?_, ?_⟩
  · rw [sends]
    intro entry member
    rcases List.mem_append.mp member with before | new
    · exact attribution.own entry before
    · rcases added entry new with ⟨frame, rfl, rfl⟩
      exact ⟨rfl, carries frame List.mem_cons_self⟩
  · rintro _ ⟨⟩
    rw [Service.reported, sends, List.countP_append]
    have same : state.reported index = (state.sentFor index).countP fun entry => endsChat entry.frame := rfl
    omega
  · rintro _ ⟨⟩ frame member
    exact carries frame (List.mem_cons_of_mem operation member)

theorem attributed_step {action : ServiceStep} (attributed : Attributed index state)
    (follows : Follows state index action next) : Attributed index next := by
  cases follows with
  | stay elsewhere same quiet =>
      cases attributed with
      | absent unborn silent => exact .absent (same.trans unborn) (quiet.trans silent)
      | present here attribution =>
          refine .present (same.trans here) ⟨?_, ?_, ?_, attribution.carries⟩
          · rw [quiet]
            exact attribution.own
          · rw [reported_of_quiet quiet]
            exact attribution.early
          · rw [reported_of_quiet quiet]
            exact attribution.once
  | begins elsewhere absent here quiet =>
      cases attributed with
      | absent unborn silent =>
          have empty := quiet.trans silent
          refine .present here ⟨?_, ?_, nofun, nofun⟩
          · rw [empty]
            nofun
          · rw [Service.reported, empty]
            exact fun _ => rfl
      | present there attribution => cases absent.symm.trans there
  | accept found here sends =>
      have attribution := attributed.attribution found
      refine .present here ⟨?_, ?_, nofun, nofun⟩
      · rw [sends]
        intro entry member
        rcases List.mem_append.mp member with before | new
        · exact attribution.own entry before
        · rcases List.mem_singleton.mp new with rfl
          exact ⟨rfl, nofun⟩
      · intro _
        have zero := attribution.early rfl
        rw [Service.reported, sends, List.countP_append]
        exact congrArg (· + 0) zero
  | settle found here way quiet =>
      have attribution := attributed.attribution found
      rcases way with ⟨rfl, rfl, _⟩ | ⟨rfl, rfl | rfl, _⟩ <;>
        exact .present here (attribution.settled rfl quiet nofun)
  | unresolved found here quiet =>
      refine .present here ((attributed.attribution found).settled rfl quiet ?_)
      rintro _ ⟨⟩
      have reports := unresolvedOperations_endsChat
      exact ⟨le_of_eq (reports _ _).1, (reports _ _).2⟩
  | @resolve next socket request clock streamed found here quiet =>
      refine .present here ((attributed.attribution found).settled rfl quiet ?_)
      rintro _ ⟨⟩
      have reports := runOperations_endsChat request.job clock streamed
      refine ⟨?_, reports.2⟩
      rcases reports.1 with ⟨_, _, one⟩ | ⟨_, zero⟩ <;> omega
  | perform found here sends => exact .present here ((attributed.attribution found).performed sends)

/-! ## When a run reports -/

/-- A step of a run that lets it report: its stream concludes with a reply
that can be stripped, and the channel of its socket is open as the terminal
event is sent. -/
def Reports (run : Nat) (state : Service) : ServiceStep → Prop
  | .resolve index _ (some streamed) => index = run → ∀ task, state.tasks[index]? = some task →
      Concludes streamed ∧ StripsReply task.request.job streamed
  | .perform index => index = run → ∀ socket request spawned frame operations,
      state.tasks[index]? = some ⟨socket, request, .performing spawned (.send frame :: operations)⟩ →
        endsChat frame = true → state.channels socket = true
  | _ => True

/-- A run that neither has reported nor will. -/
def Lost (index : Nat) (state : Service) : Prop :=
  ∃ socket request spawned operations,
    state.tasks[index]? = some ⟨socket, request, .performing spawned operations⟩ ∧
      state.reported index = 0 ∧ operations.countP RunOperation.endsChat = 0

/-- A run that has reported or will. -/
def Told (index : Nat) (state : Service) : Prop :=
  ∀ socket request spawned operations,
    state.tasks[index]? = some ⟨socket, request, .performing spawned operations⟩ →
      0 < state.reported index + operations.countP RunOperation.endsChat

theorem reports_elsewhere {action : ServiceStep} (elsewhere : action.index? ≠ some index) :
    Reports index state action := by
  cases action with
  | resolve other clock streamed =>
      cases streamed with
      | none => trivial
      | some streamed =>
          intro equal
          exact absurd (congrArg some equal) elsewhere
  | perform other =>
      intro equal
      exact absurd (congrArg some equal) elsewhere
  | _ => trivial

theorem reported_perform {operation : RunOperation}
    (sends : next.sentFor index = state.sentFor index ++ state.enqueued socket index operation) :
    next.reported index = state.reported index +
      if operation.endsChat = true ∧ state.channels socket = true then 1 else 0 := by
  rw [Service.reported, sends, List.countP_append]
  refine congrArg (state.reported index + ·) ?_
  cases operation with
  | release dedupKey => rfl
  | send frame =>
      cases open_ : state.channels socket <;>
        simp [Service.enqueued, open_, RunOperation.endsChat, List.countP_singleton]

theorem lost_of_not_reports {action : ServiceStep} (attributed : Attributed index state)
    (follows : Follows state index action next) (fails : ¬ Reports index state action) :
    Lost index next := by
  cases follows with
  | stay elsewhere same quiet => exact absurd (reports_elsewhere elsewhere) fails
  | begins elsewhere absent here quiet => exact absurd (reports_elsewhere elsewhere) fails
  | accept found here sends => exact absurd trivial fails
  | settle found here way quiet =>
      rcases way with ⟨_, _, now, rfl⟩ | ⟨_, _, rfl⟩ <;> exact absurd trivial fails
  | unresolved found here quiet => exact absurd trivial fails
  | @resolve next socket request clock streamed found here quiet =>
      refine ⟨_, _, _, _, here, ?_, ?_⟩
      · rw [reported_of_quiet quiet, (attributed.attribution found).early rfl]
      · rcases (runOperations_endsChat request.job clock streamed).1 with ⟨concludes, strips, _⟩ | ⟨_, zero⟩
        · apply absurd _ fails
          intro _ task there
          cases found.symm.trans there
          exact ⟨concludes, strips⟩
        · exact zero
  | @perform next socket request spawned operation operations found here sends =>
      have once := (attributed.attribution found).once _ rfl
      simp only [Reports, forall_const, Classical.not_forall] at fails
      rcases fails with ⟨_, _, _, frame, _, there, ends, closed⟩
      cases found.symm.trans there
      have counts : (RunOperation.send frame).endsChat = true := ends
      rw [List.countP_cons, if_pos counts] at once
      refine ⟨_, _, _, _, here, ?_, by omega⟩
      rw [reported_perform sends, if_neg fun both => closed both.2]
      omega

theorem lost_step {action : ServiceStep} (lost : Lost index state)
    (follows : Follows state index action next) : Lost index next := by
  rcases lost with ⟨socket, request, spawned, operations, found, silent, none_left⟩
  cases follows with
  | stay elsewhere same quiet =>
      exact ⟨socket, request, spawned, operations, same.trans found,
        (reported_of_quiet quiet).trans silent, none_left⟩
  | begins elsewhere absent here quiet => cases absent.symm.trans found
  | accept there | unresolved there | resolve there => cases found.symm.trans there
  | settle there here way quiet =>
      cases found.symm.trans there
      rcases way with ⟨impossible, _⟩ | ⟨impossible, _⟩ <;> cases impossible
  | @perform next socket' request' spawned' operation rest there here sends =>
      cases found.symm.trans there
      rw [List.countP_cons] at none_left
      refine ⟨_, _, _, _, here, ?_, by omega⟩
      rw [reported_perform sends, silent, Nat.zero_add]
      split at none_left
      · omega
      · rename_i quiet
        exact if_neg fun both => quiet both.1

theorem told_step {action : ServiceStep} (told : Told index state) (reports : Reports index state action)
    (follows : Follows state index action next) : Told index next := by
  intro socket request spawned operations here
  cases follows with
  | stay elsewhere same quiet =>
      rw [reported_of_quiet quiet]
      exact told socket request spawned operations (same.symm.trans here)
  | begins elsewhere absent there quiet => cases there.symm.trans here
  | accept found there sends => cases there.symm.trans here
  | settle found there way quiet =>
      cases there.symm.trans here
      rcases way with ⟨_, impossible, _⟩ | ⟨_, impossible | impossible, _⟩ <;> cases impossible
  | unresolved found there quiet =>
      cases there.symm.trans here
      exact Nat.lt_of_lt_of_le Nat.zero_lt_one
        (le_trans (le_of_eq (unresolvedOperations_endsChat _ _).1.symm) (Nat.le_add_left _ _))
  | @resolve next socket' request' clock streamed found there quiet =>
      cases there.symm.trans here
      have concluded := reports rfl _ found
      rcases (runOperations_endsChat request.job clock streamed).1 with ⟨_, _, one⟩ | ⟨fails, _⟩
      · omega
      · exact absurd concluded fails
  | @perform next socket' request' spawned' operation rest found there sends =>
      cases there.symm.trans here
      have before := told _ _ _ _ found
      rw [List.countP_cons] at before
      rw [reported_perform sends]
      by_cases ends : operation.endsChat = true
      · have received : state.channels socket = true := by
          cases operation with
          | send frame => exact reports rfl _ _ _ _ _ found ends
          | release _ => cases ends
        rw [if_pos ⟨ends, received⟩]
        omega
      · rw [if_neg ends] at before
        omega

end

/-! ## Whole runs -/

/-- A socket is told `accepted` for the pair of a request in flight. -/
def Absorbs (contexts : Nat → SocketContext) (schedule : List ServiceStep) (run socket : Nat) : Prop :=
  ∃ before index now later state task twin, schedule = before ++ .accept index now :: later ∧
    (service contexts).run .start before = some state ∧
    state.tasks[run]? = some task ∧ task.phase.InFlight ∧
    state.tasks[index]? = some twin ∧ twin.request.dedupKey = task.request.dedupKey ∧
    twin.socket = socket ∧ state.channels socket = true

/-- The terminal `chat` event of a run was enqueued for a socket. -/
def Served (state : Service) (run : Nat) (request : AgentRequest) (socket : Nat) : Prop :=
  ∃ entry ∈ state.sent, entry.task = some run ∧ entry.socket = socket ∧ endsChat entry.frame = true ∧
    CarriesRunId request.runId entry.frame

section

variable {contexts : Nat → SocketContext} {schedule : List ServiceStep} {final : Service}
  {run home : Nat} {request : AgentRequest} {spawned : Bool}

theorem attributed_run (index : Nat) (runs : (service contexts).run .start schedule = some final) :
    Attributed index final := by
  have preserved : ∀ (past : List ServiceStep) state action next, Attributed index state →
      (service contexts).step state action = some next → Attributed index next :=
    fun _ _ _ _ attributed step => attributed_step attributed (follows_of_serves (serves_of_step step) index)
  have start : Attributed index .start := .absent rfl rfl
  exact Machine.run_invariant preserved [] start runs

/-- A run that is over has reported exactly if all its steps let it. -/
theorem reported_iff (runs : (service contexts).run .start schedule = some final)
    (ended : final.tasks[run]? = some ⟨home, request, .performing spawned []⟩) :
    0 < final.reported run ↔ (service contexts).Guarded (Reports run) .start schedule := by
  constructor
  · intro reported
    have start : Attributed run .start := .absent rfl rfl
    have spared : ¬ Lost run final := by
      rintro ⟨_, _, _, _, _, silent, _⟩
      omega
    refine Machine.guarded_of_doomed ?_ ?_ ?_ start runs spared
    · intro state action next attributed step
      exact attributed_step attributed (follows_of_serves (serves_of_step step) run)
    · intro state action next attributed fails step
      exact lost_of_not_reports attributed (follows_of_serves (serves_of_step step) run) fails
    · intro state action next lost step
      exact lost_step lost (follows_of_serves (serves_of_step step) run)
  · intro guarded
    have preserved : ∀ (past : List ServiceStep) state action next, Told run state →
        Reports run state action → (service contexts).step state action = some next → Told run next :=
      fun _ _ _ _ told reports step => told_step told reports (follows_of_serves (serves_of_step step) run)
    have start : Told run .start := fun _ _ _ _ here => by cases here
    exact Machine.run_invariant_guarded preserved [] start guarded runs _ _ _ _ ended

/-- A run that is over serves its own socket, if it reports, and no other. -/
theorem served_iff (runs : (service contexts).run .start schedule = some final)
    (ended : final.tasks[run]? = some ⟨home, request, .performing spawned []⟩) (socket : Nat) :
    Served final run request socket ↔
      socket = home ∧ (service contexts).Guarded (Reports run) .start schedule := by
  have attribution := (attributed_run run runs).attribution ended
  rw [← reported_iff runs ended, Service.reported, List.countP_pos_iff]
  have among (entry : Sent) : entry ∈ final.sentFor run ↔ entry ∈ final.sent ∧ entry.task = some run := by
    simp [Service.sentFor]
  constructor
  · rintro ⟨entry, member, own, place, ends, _⟩
    have sent := (among entry).mpr ⟨member, own⟩
    exact ⟨place.symm.trans (attribution.own entry sent).1, entry, sent, ends⟩
  · rintro ⟨rfl, entry, sent, ends⟩
    have own := attribution.own entry sent
    exact ⟨entry, ((among entry).mp sent).1, ((among entry).mp sent).2, own.1, ends, own.2 ends⟩

/-- A run that is over has served all the sockets that it absorbed, exactly if
each is its own socket and the run reports there. -/
theorem absorbed_served_iff (runs : (service contexts).run .start schedule = some final)
    (ended : final.tasks[run]? = some ⟨home, request, .performing spawned []⟩) :
    (∀ socket, Absorbs contexts schedule run socket → Served final run request socket) ↔
      ∀ socket, Absorbs contexts schedule run socket →
        socket = home ∧ (service contexts).Guarded (Reports run) .start schedule :=
  forall_congr' fun socket => imp_congr_right fun _ => served_iff runs ended socket

end

/-- A request is in flight while its device asks again, from the same or from
another socket; then the run goes on to its end. -/
def askedTwice (second : Nat) : List ServiceStep :=
  [.receive 0 (sampleMoment "a".toList) (.text connectText),
    .receive 1 (sampleMoment "a".toList) (.text connectText),
    .receive 0 (sampleMoment "a".toList) (.text agentText), .accept 0 0, .claim 0,
    .resolve 0 (fun _ => 0) (some (Agent.finishedStream ["hello".toList])),
    .receive second (sampleMoment "a".toList) (.text agentText), .accept 1 0, .claim 1] ++
  List.replicate 7 (.perform 0)

theorem absorbed_served_iff_same_socket :
    ∃ final, (service fun _ => sampleContext).run .start (askedTwice 0) = some final ∧
      ((∀ socket, Absorbs (fun _ => sampleContext) (askedTwice 0) 0 socket →
          Served final 0 sampleRequest socket) ↔
        ∀ socket, Absorbs (fun _ => sampleContext) (askedTwice 0) 0 socket →
          socket = 0 ∧ (service fun _ => sampleContext).Guarded (Reports 0) .start (askedTwice 0)) := by
  have runs : (service fun _ => sampleContext).run .start (askedTwice 0) = some _ := rfl
  exact ⟨_, runs, absorbed_served_iff runs rfl⟩

/-- The retry comes from another socket: it is accepted, and hears nothing of
the run. -/
theorem absorbed_on_another_socket :
    ∃ final, (service fun _ => sampleContext).run .start (askedTwice 1) = some final ∧
      final.tasks[0]? = some ⟨0, sampleRequest, .performing true []⟩ ∧
      Absorbs (fun _ => sampleContext) (askedTwice 1) 0 1 ∧ ¬ Served final 0 sampleRequest 1 := by
  have runs : (service fun _ => sampleContext).run .start (askedTwice 1) = some _ := rfl
  refine ⟨_, runs, rfl, ?_, ?_⟩
  · refine ⟨(askedTwice 1).take 7, 1, 0, (askedTwice 1).drop 8, _, _, _, rfl, rfl, rfl, ?_, rfl, rfl, rfl, rfl⟩
    exact List.cons_ne_nil _ _
  · intro served
    cases ((served_iff runs rfl 1).mp served).1

end Connection
end Rabb1tClaw
