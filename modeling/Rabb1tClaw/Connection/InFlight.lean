import Rabb1tClaw.Connection.Service

namespace Rabb1tClaw
namespace Connection

open Foundations
open Agent (AgentRequest RunEffect RunTrace Sequenced StreamJob StripsReply streamAgentResponse)
open Protocol
open Provider (StreamChunk)

/-!
# Requests in flight

The gateway keeps the idempotency keys of the requests in flight in a set.  A
request enters its key when it claims it; its run removes it as its last
operation, and a request without a model removes it before it reports.  So the
set is exactly the keys of the requests in flight, and each belongs to one of
them (`one_run_per_key`).

A run whose reply cannot be stripped panics and never releases its key.
-/

/-! ## The operations of a run -/

section

variable {job : StreamJob} {clock : Nat → UInt64}

/-- A call that does not release the key. -/
def keepsKey : RunEffect → Bool
  | .release _ => false
  | _ => true

theorem operations_keepsKey {effects : List RunEffect} (keeps : ∀ effect ∈ effects, keepsKey effect = true) :
    effects.flatMap (operationsOf clock) = (effects.flatMap (RunEffect.frames clock)).map .send := by
  induction effects with
  | nil => rfl
  | cons effect effects inductionHypothesis =>
      have here : operationsOf clock effect = (effect.frames clock).map .send := by
        cases effect with
        | release _ => cases keeps _ List.mem_cons_self
        | _ => exact List.append_nil _
      rw [List.flatMap_cons, List.flatMap_cons, List.map_append, here,
        inductionHypothesis fun other member => keeps other (List.mem_cons_of_mem effect member)]

theorem sequenced_keepsKey {loop : Agent.ChunkLoop} {deltas : List Text}
    (sequenced : Sequenced job loop deltas) : ∀ effect ∈ loop.effects, keepsKey effect = true := by
  intro effect member
  rw [sequenced.effects] at member
  rcases List.mem_cons.mp member with rfl | delta
  · rfl
  · rcases List.mem_map.mp delta with ⟨entry, _, rfl⟩
    rfl

/-- Whatever a run does, it releases its key last, or it panics before. -/
theorem release_last (job : StreamJob) (streamed : Except Text (List StreamChunk)) :
    ∃ front, (∀ effect ∈ front, keepsKey effect = true) ∧
      ((StripsReply job streamed ∧
          (streamAgentResponse job streamed).effects = front ++ [.release job.dedupKey]) ∨
        (¬ StripsReply job streamed ∧ (streamAgentResponse job streamed).effects = front)) := by
  rcases Agent.streamAgentResponse_cases job streamed with ⟨loop, deltas, sequenced, cases⟩
  have quiet := sequenced_keepsKey sequenced
  rcases cases with ⟨_, strips, tail, conclusion, effects⟩ | ⟨_, strips, effects⟩ | ⟨panics, effects⟩
  · cases conclusion with
    | @finished response clean =>
        refine ⟨loop.effects ++ (Agent.ChunkLoop.recordExchange job response clean ++
          [.streamDone job.runId job.requestId job.sessionKey loop.seq clean]), ?_,
          Or.inl ⟨strips, by rw [effects]; simp⟩⟩
        intro effect member
        rcases List.mem_append.mp member with early | late
        · exact quiet effect early
        · rcases List.mem_append.mp late with recorded | last
          · unfold Agent.ChunkLoop.recordExchange at recorded
            split at recorded
            · cases recorded
            · simp only [List.mem_cons, List.not_mem_nil, or_false] at recorded
              rcases recorded with rfl | rfl | rfl <;> rfl
          · rw [List.mem_singleton.mp last]
            rfl
    | @failed message =>
        refine ⟨loop.effects ++ [.runError job.runId job.requestId loop.seq message], ?_,
          Or.inl ⟨strips, by rw [effects]; simp⟩⟩
        intro effect member
        rcases List.mem_append.mp member with early | last
        · exact quiet effect early
        · rw [List.mem_singleton.mp last]
          rfl
  · exact ⟨loop.effects, quiet, Or.inl ⟨strips, effects⟩⟩
  · exact ⟨loop.effects, quiet, Or.inr ⟨panics, effects⟩⟩

/-- The operations of a run whose reply can be stripped: its frames, and the
release of its key. -/
theorem runOperations_strips {streamed : Except Text (List StreamChunk)}
    (strips : StripsReply job streamed) :
    runOperations clock (streamAgentResponse job streamed) =
      ((streamAgentResponse job streamed).frames clock).map .send ++ [.release job.dedupKey] := by
  rcases release_last job streamed with ⟨front, keeps, ⟨_, effects⟩ | ⟨panics, _⟩⟩
  · rw [runOperations, RunTrace.frames, effects, List.flatMap_append, List.flatMap_append,
      operations_keepsKey keeps]
    simp [operationsOf, RunEffect.frames]
  · exact absurd strips panics

end

/-! ## The invariant -/

/-- The operations that a request has left: frames, and the release of its
key at the end of a run, or at the start of a report. -/
def RequestPhase.Shaped (dedupKey : Option Text × Text) : RequestPhase → Prop
  | .performing true operations =>
      operations = [] ∨ ∃ frames : List OutgoingFrame, operations = frames.map .send ++ [.release dedupKey]
  | .performing false operations => ∃ frames : List OutgoingFrame,
      operations = frames.map .send ∨ operations = .release dedupKey :: frames.map .send
  | _ => True

/-- The keys are those of the requests in flight, one for each. -/
structure Exclusive (tasks : List RequestTask) (activeRequests : Finset (Option Text × Text)) : Prop where
  shaped : ∀ (index : Nat) (task : RequestTask), tasks[index]? = some task →
    task.phase.Shaped task.request.dedupKey
  active : ∀ dedupKey, dedupKey ∈ activeRequests ↔ ∃ (index : Nat) (task : RequestTask),
    tasks[index]? = some task ∧ task.request.dedupKey = dedupKey ∧ task.phase.InFlight
  one : ∀ (first second : Nat) (task task' : RequestTask), tasks[first]? = some task →
    tasks[second]? = some task' → task.phase.InFlight → task'.phase.InFlight →
      task.request.dedupKey = task'.request.dedupKey → first = second

theorem exclusive_start : Exclusive Service.start.tasks Service.start.activeRequests := by
  constructor <;> simp [Service.start]

section

variable {tasks : List RequestTask} {activeRequests : Finset (Option Text × Text)} {index : Nat}
  {before after : RequestTask}

/-- A request that stays in flight, or out of it, with its key. -/
theorem exclusive_keep (exclusive : Exclusive tasks activeRequests) (found : tasks[index]? = some before)
    (same : after.request = before.request) (shaped : after.phase.Shaped after.request.dedupKey)
    (stays : after.phase.InFlight ↔ before.phase.InFlight) :
    Exclusive (tasks.set index after) activeRequests := by
  have lookup := getElem?_set_task found after
  have back : ∀ (other : Nat) (task : RequestTask), (tasks.set index after)[other]? = some task → task.phase.InFlight →
      ∃ old, tasks[other]? = some old ∧ old.request = task.request ∧ old.phase.InFlight := by
    intro other task here inFlight
    rw [lookup] at here
    split at here
    · rename_i equal
      rcases Option.some.inj here with rfl
      exact ⟨before, equal ▸ found, same.symm, stays.mp inFlight⟩
    · exact ⟨task, here, rfl, inFlight⟩
  refine ⟨fun other task here => ?_, fun dedupKey => ?_, ?_⟩
  · rw [lookup] at here
    split at here
    · exact Option.some.inj here ▸ shaped
    · exact exclusive.shaped other task here
  · rw [exclusive.active]
    constructor
    · rintro ⟨other, task, here, key, inFlight⟩
      by_cases equal : index = other
      · subst equal
        rcases Option.some.inj (found.symm.trans here) with rfl
        exact ⟨index, after, by rw [lookup, if_pos rfl], same ▸ key, stays.mpr inFlight⟩
      · exact ⟨other, task, by rw [lookup, if_neg equal, here], key, inFlight⟩
    · rintro ⟨other, task, here, key, inFlight⟩
      rcases back other task here inFlight with ⟨old, was, request, flying⟩
      exact ⟨other, old, was, request ▸ key, flying⟩
  · intro first second task task' here here' inFlight inFlight' keys
    rcases back first task here inFlight with ⟨old, was, request, flying⟩
    rcases back second task' here' inFlight' with ⟨old', was', request', flying'⟩
    exact exclusive.one first second old old' was was' flying flying' (by rw [request, request', keys])

/-- A request that claims a free key. -/
theorem exclusive_claim (exclusive : Exclusive tasks activeRequests) (found : tasks[index]? = some before)
    (same : after.request = before.request) (shaped : after.phase.Shaped after.request.dedupKey)
    (lands : ¬ before.phase.InFlight) (flies : after.phase.InFlight)
    (free : before.request.dedupKey ∉ activeRequests) :
    Exclusive (tasks.set index after) (insert before.request.dedupKey activeRequests) := by
  have lookup := getElem?_set_task found after
  have unclaimed : ∀ (other : Nat) (task : RequestTask), tasks[other]? = some task → task.phase.InFlight →
      task.request.dedupKey ≠ before.request.dedupKey := by
    intro other task here inFlight equal
    exact free (equal ▸ (exclusive.active _).mpr ⟨other, task, here, rfl, inFlight⟩)
  refine ⟨fun other task here => ?_, fun dedupKey => ?_, ?_⟩
  · rw [lookup] at here
    split at here
    · exact Option.some.inj here ▸ shaped
    · exact exclusive.shaped other task here
  · rw [Finset.mem_insert, exclusive.active]
    constructor
    · rintro (rfl | ⟨other, task, here, key, inFlight⟩)
      · exact ⟨index, after, by rw [lookup, if_pos rfl], by rw [same], flies⟩
      · refine ⟨other, task, ?_, key, inFlight⟩
        rw [lookup, if_neg, here]
        rintro rfl
        rcases Option.some.inj (found.symm.trans here) with rfl
        exact lands inFlight
    · rintro ⟨other, task, here, key, inFlight⟩
      rw [lookup] at here
      split at here
      · rcases Option.some.inj here with rfl
        exact Or.inl (by rw [← key, same])
      · exact Or.inr ⟨other, task, here, key, inFlight⟩
  · intro first second task task' here here' inFlight inFlight' keys
    rw [lookup] at here here'
    split at here <;> split at here'
    · rename_i equal equal'
      exact equal.symm.trans equal'
    · rcases Option.some.inj here with rfl
      exact absurd (keys.symm.trans (by rw [same])) (unclaimed _ _ here' inFlight')
    · rcases Option.some.inj here' with rfl
      exact absurd (keys.trans (by rw [same])) (unclaimed _ _ here inFlight)
    · exact exclusive.one first second task task' here here' inFlight inFlight' keys

/-- A request that releases its key. -/
theorem exclusive_release (exclusive : Exclusive tasks activeRequests)
    (found : tasks[index]? = some before) (shaped : after.phase.Shaped after.request.dedupKey)
    (flies : before.phase.InFlight) (lands : ¬ after.phase.InFlight) :
    Exclusive (tasks.set index after) (activeRequests.erase before.request.dedupKey) := by
  have lookup := getElem?_set_task found after
  have others : ∀ (other : Nat) (task : RequestTask), (tasks.set index after)[other]? = some task → task.phase.InFlight →
      index ≠ other ∧ tasks[other]? = some task := by
    intro other task here inFlight
    rw [lookup] at here
    split at here
    · rcases Option.some.inj here with rfl
      exact absurd inFlight lands
    · rename_i differs
      exact ⟨differs, here⟩
  refine ⟨fun other task here => ?_, fun dedupKey => ?_, ?_⟩
  · rw [lookup] at here
    split at here
    · exact Option.some.inj here ▸ shaped
    · exact exclusive.shaped other task here
  · rw [Finset.mem_erase, exclusive.active]
    constructor
    · rintro ⟨differs, other, task, here, key, inFlight⟩
      refine ⟨other, task, ?_, key, inFlight⟩
      rw [lookup, if_neg, here]
      rintro rfl
      rcases Option.some.inj (found.symm.trans here) with rfl
      exact differs key.symm
    · rintro ⟨other, task, here, key, inFlight⟩
      rcases others other task here inFlight with ⟨differs, was⟩
      refine ⟨fun equal => ?_, other, task, was, key, inFlight⟩
      exact differs (exclusive.one index other before task found was flies inFlight
        (equal.symm.trans key.symm))
  · intro first second task task' here here' inFlight inFlight' keys
    exact exclusive.one first second task task' (others first task here inFlight).2
      (others second task' here' inFlight').2 inFlight inFlight' keys

/-- A request that was just received. -/
theorem exclusive_append (exclusive : Exclusive tasks activeRequests) (socket : Nat)
    (request : AgentRequest) : Exclusive (tasks ++ [⟨socket, request, .accepting⟩]) activeRequests := by
  have old : ∀ (other : Nat) (task : RequestTask),
      (tasks ++ [⟨socket, request, .accepting⟩])[other]? = some task →
        tasks[other]? = some task ∨ task = ⟨socket, request, .accepting⟩ := by
    intro other task here
    rw [List.getElem?_append] at here
    split at here
    · exact Or.inl here
    · exact Or.inr (List.mem_singleton.mp (List.mem_of_getElem? here))
  have flying : ∀ (other : Nat) (task : RequestTask),
      (tasks ++ [⟨socket, request, .accepting⟩])[other]? = some task → task.phase.InFlight →
        tasks[other]? = some task := by
    intro other task here inFlight
    rcases old other task here with was | rfl
    · exact was
    · cases inFlight
  refine ⟨fun other task here => ?_, fun dedupKey => ?_, ?_⟩
  · rcases old other task here with was | rfl
    · exact exclusive.shaped other task was
    · trivial
  · rw [exclusive.active]
    constructor
    · rintro ⟨other, task, here, key, inFlight⟩
      have inside : other < tasks.length := (List.getElem?_eq_some_iff.mp here).1
      exact ⟨other, task, by rw [List.getElem?_append_left inside, here], key, inFlight⟩
    · rintro ⟨other, task, here, key, inFlight⟩
      exact ⟨other, task, flying other task here inFlight, key, inFlight⟩
  · intro first second task task' here here' inFlight inFlight'
    exact exclusive.one first second task task' (flying first task here inFlight)
      (flying second task' here' inFlight') inFlight inFlight'

end

/-! ## One step -/

/-- The reply of a run that starts can be stripped. -/
def RepliesStrip (state : Service) : ServiceStep → Prop
  | .resolve index _ (some streamed) => ∀ task, state.tasks[index]? = some task →
      StripsReply task.request.job streamed
  | _ => True

theorem exclusive_perform {state : Service} {index socket : Nat} {request : AgentRequest} {spawned : Bool}
    {operation : RunOperation} {operations : List RunOperation}
    (exclusive : Exclusive state.tasks state.activeRequests)
    (found : state.tasks[index]? =
      some ⟨socket, request, .performing spawned (operation :: operations)⟩) :
    Exclusive (state.tasks.set index ⟨socket, request, .performing spawned operations⟩)
      (state.operate socket index operation).activeRequests := by
  have shaped := exclusive.shaped index _ found
  simp only at shaped
  cases spawned with
  | true =>
      rcases shaped with impossible | ⟨frames, whole⟩
      · cases impossible
      · cases frames with
        | nil =>
            -- The release is the last operation of a run.
            rcases List.cons.inj whole with ⟨rfl, rfl⟩
            exact exclusive_release exclusive found (Or.inl rfl) (List.cons_ne_nil _ _)
              fun more => more rfl
        | cons frame frames =>
            rcases List.cons.inj whole with ⟨rfl, rfl⟩
            rw [Service.operate, Service.activeRequests_deliver]
            exact exclusive_keep exclusive found rfl (Or.inr ⟨frames, rfl⟩)
              (iff_of_true (by simp [RequestPhase.InFlight]) (List.cons_ne_nil _ _))
  | false =>
      rcases shaped with ⟨frames, whole | whole⟩
      · cases frames with
        | nil => cases whole
        | cons frame frames =>
            rcases List.cons.inj whole with ⟨rfl, rfl⟩
            rw [Service.operate, Service.activeRequests_deliver]
            refine exclusive_keep exclusive found rfl ⟨frames, Or.inl rfl⟩
              (iff_of_false ?_ ?_) <;> simp [RequestPhase.InFlight]
      · rcases List.cons.inj whole with ⟨rfl, rfl⟩
        refine exclusive_release exclusive found ⟨frames, Or.inl rfl⟩
          ⟨request.dedupKey, List.mem_cons_self⟩ ?_
        simp [RequestPhase.InFlight]

theorem exclusive_step {contexts : Nat → SocketContext} {state next : Service} {action : ServiceStep}
    (exclusive : Exclusive state.tasks state.activeRequests) (strips : RepliesStrip state action)
    (serves : Serves contexts state action next) : Exclusive next.tasks next.activeRequests := by
  cases serves with
  | @receive socket moment arrival receiving =>
      unfold Service.take
      simp only
      cases ((state.sockets socket).receive (contexts socket) moment arrival).2.findSome?
          (agentRequest? (contexts socket) moment) with
      | none =>
          simp only [Service.begin, Service.tasks_deliver, Service.activeRequests_deliver]
          exact exclusive
      | some request =>
          simp only [Service.begin, Service.tasks_deliver, Service.activeRequests_deliver]
          exact exclusive_append exclusive socket request
  | accept found received =>
      simp only [Service.setTask, Service.tasks_deliver, Service.activeRequests_deliver]
      exact exclusive_keep exclusive found rfl trivial (iff_of_false id id)
  | refuse found closed => exact exclusive_keep exclusive found rfl trivial (iff_of_false id id)
  | duplicate found taken => exact exclusive_keep exclusive found rfl trivial (iff_of_false id id)
  | claim found free => exact exclusive_claim exclusive found rfl trivial id trivial free
  | @unresolved index socket request clock found =>
      exact exclusive_keep exclusive found rfl ⟨_, Or.inr rfl⟩
        (iff_of_true ⟨request.dedupKey, List.mem_cons_self⟩ trivial)
  | @resolve index socket request clock streamed found =>
      have operations := @runOperations_strips _ clock _ (strips _ found)
      refine exclusive_keep exclusive found rfl (Or.inr ⟨_, operations⟩) (iff_of_true ?_ trivial)
      show runOperations clock _ ≠ []
      rw [operations]
      simp
  | perform found =>
      simp only [Service.setTask, Service.tasks_operate]
      exact exclusive_perform exclusive found
  | close => exact exclusive

/-! ## Whole runs -/

/-- What the set of active requests tells about the requests of a state. -/
structure OneRunPerKey (contexts : Nat → SocketContext) (state : Service) : Prop where
  /-- A pair of a device and a key is active while a request for it is in
  flight. -/
  active : ∀ deviceToken runId, (deviceToken, runId) ∈ state.activeRequests ↔
    ∃ (index : Nat) (task : RequestTask), state.tasks[index]? = some task ∧
      task.request.deviceToken = deviceToken ∧ task.request.runId = runId ∧ task.phase.InFlight
  /-- Two requests for one pair are never in flight together. -/
  one : ∀ (first second : Nat) (task task' : RequestTask), state.tasks[first]? = some task →
    state.tasks[second]? = some task' → task.phase.InFlight → task'.phase.InFlight →
      task.request.deviceToken = task'.request.deviceToken →
        task.request.runId = task'.request.runId → first = second
  /-- A request is suppressed exactly by a request in flight for its pair. -/
  suppressed : ∀ (index socket : Nat) (request : AgentRequest) (next : Service),
    state.tasks[index]? = some ⟨socket, request, .claiming⟩ →
    (service contexts).step state (.claim index) = some next →
      (next.tasks[index]? = some ⟨socket, request, .duplicate⟩ ↔
        ∃ (other : Nat) (task : RequestTask), state.tasks[other]? = some task ∧
          task.request.deviceToken = request.deviceToken ∧ task.request.runId = request.runId ∧
            task.phase.InFlight)
  /-- A request that is not in flight holds no key. -/
  freed : ∀ (index : Nat) (task : RequestTask), state.tasks[index]? = some task →
    ¬ task.phase.InFlight → task.request.dedupKey ∈ state.activeRequests →
      ∃ (other : Nat) (task' : RequestTask), other ≠ index ∧ state.tasks[other]? = some task' ∧
        task'.request.dedupKey = task.request.dedupKey ∧ task'.phase.InFlight

theorem oneRunPerKey_of_exclusive (contexts : Nat → SocketContext) {state : Service}
    (exclusive : Exclusive state.tasks state.activeRequests) : OneRunPerKey contexts state := by
  have active : ∀ deviceToken runId, (deviceToken, runId) ∈ state.activeRequests ↔
      ∃ (index : Nat) (task : RequestTask), state.tasks[index]? = some task ∧
        task.request.deviceToken = deviceToken ∧ task.request.runId = runId ∧
          task.phase.InFlight := by
    intro deviceToken runId
    rw [exclusive.active]
    simp only [AgentRequest.dedupKey, Prod.mk.injEq, and_assoc]
  refine ⟨active, ?_, ?_, ?_⟩
  · intro first second task task' here here' inFlight inFlight' tokens runIds
    exact exclusive.one first second task task' here here' inFlight inFlight' (Prod.ext tokens runIds)
  · intro index socket request next found step
    have lookup (phase : RequestPhase) :
        (state.tasks.set index ⟨socket, request, phase⟩)[index]? = some ⟨socket, request, phase⟩ := by
      rw [getElem?_set_task found, if_pos rfl]
    rw [← active]
    simp only [service, found] at step
    split at step
    · rename_i taken
      rcases Option.some.inj step with rfl
      exact iff_of_true (lookup .duplicate) taken
    · rename_i free
      rcases Option.some.inj step with rfl
      refine iff_of_false (fun suppressed => ?_) free
      cases (lookup .resolving).symm.trans suppressed
  · intro index task here lands key
    rcases (exclusive.active _).mp key with ⟨other, task', here', same, inFlight⟩
    refine ⟨other, task', fun equal => ?_, here', same, inFlight⟩
    subst equal
    rcases Option.some.inj (here.symm.trans here') with rfl
    exact lands inFlight

/-- Over all interleavings and outcomes, the active requests are the requests
in flight, one for each pair of a device and a key. -/
theorem one_run_per_key {contexts : Nat → SocketContext} {schedule : List ServiceStep} {final : Service}
    (strips : (service contexts).Guarded RepliesStrip .start schedule)
    (runs : (service contexts).run .start schedule = some final) : OneRunPerKey contexts final := by
  have preserved : ∀ (past : List ServiceStep) state action next,
      Exclusive state.tasks state.activeRequests → RepliesStrip state action →
      (service contexts).step state action = some next → Exclusive next.tasks next.activeRequests :=
    fun _ state action next exclusive guard step => exclusive_step exclusive guard (serves_of_step step)
  exact oneRunPerKey_of_exclusive contexts
    (Machine.run_invariant_guarded preserved [] exclusive_start strips runs)

/-- The agent request of the sample client. -/
def sampleRequest : AgentRequest := ⟨"3".toList, some "a".toList, "k".toList, "hi".toList⟩

/-- A client connects and asks, and its request is resolved. -/
def oneRequest (streamed : Except Text (List StreamChunk)) : List ServiceStep :=
  [.receive 0 (sampleMoment "a".toList) (.text connectText),
    .receive 0 (sampleMoment "a".toList) (.text agentText), .accept 0 0, .claim 0,
    .resolve 0 (fun _ => 0) (some streamed)]

theorem stripsReply_hello (job : StreamJob) : StripsReply job (Agent.finishedStream ["hello".toList]) := by
  intro texts later response same full
  rcases Agent.split_unique (by simp) (by simp) (Except.ok.inj same) with ⟨rfl, _⟩
  have known : Agent.fullResponse job ["hello".toList] = .returned "hello".toList := rfl
  rcases Outcome.returned.inj (known.symm.trans full) with rfl
  exact ⟨"hello".toList, rfl⟩

theorem one_run_per_key_one_request :
    ∃ final, (service fun _ => sampleContext).run .start
        (oneRequest (Agent.finishedStream ["hello".toList])) = some final ∧
      OneRunPerKey (fun _ => sampleContext) final := by
  have strips : (service fun _ => sampleContext).Guarded RepliesStrip .start
      (oneRequest (Agent.finishedStream ["hello".toList])) :=
    Machine.guarded_cons trivial rfl (Machine.guarded_cons trivial rfl (Machine.guarded_cons trivial rfl
      (Machine.guarded_cons trivial rfl (Machine.guarded_cons
        (fun task _ => stripsReply_hello task.request.job) rfl trivial))))
  exact ⟨_, rfl, one_run_per_key strips rfl⟩

end Connection
end Rabb1tClaw
