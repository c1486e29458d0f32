import Rabb1tClaw.Foundations.Machine
import Rabb1tClaw.State.Registry

namespace Rabb1tClaw
namespace Connection

open Foundations
open State

/-!
# The teardown of a connection

Five parties hold a sender of a connection's outgoing channel: the frame loop,
its tick tasks, its runs, its entries in the registry, and a revocation that
has cloned an entry.  The send task ends with a close frame, with a failed
write, or once the queue is empty and no sender is left.  Behind its loop, the
handler waits for the send task and removes the entries only then.

If a revocation finds the queue full, its close frame is lost.  The flag ends
the tick task all the same, and the handler may then wait for a send task that
waits for the entry to go (`stuck_without_room`).
-/

/-- Where the handler stands.  While it is `connecting`, the connection may be
registered and its tick task is yet to be spawned. -/
inductive HandlerPhase where
  | receiving
  | connecting
  | awaitingSendTask
  | finished
  deriving DecidableEq, Repr

/-- `cloned` and `flagged` count the entries that a revocation has cloned: not
treated so far, and flagged with the close frame still to be sent.  The send
task runs as long as the channel is received. -/
structure Teardown where
  phase : HandlerPhase
  socket : Socket
  tickTasks : Nat
  runs : Nat
  entries : Nat
  cloned : Nat
  flagged : Nat
  deriving DecidableEq, Repr

/-- A step of the frame loop, a tick task, a run, the send task, or a
revocation. -/
inductive TeardownStep where
  | respond (frame : OutgoingFrame)
  | connect (registered : Bool)
  | spawnTick
  | spawnRun
  | leave
  | sendTick (frame : OutgoingFrame)
  | endTick
  | sendEvent (frame : OutgoingFrame)
  | endRun
  | write (delivered : Bool)
  | hangUp
  | clone
  | flag
  | sendClose
  | unregister (removed : Nat)
  deriving DecidableEq, Repr

/-- `send`: it awaits room, and it fails on a channel that is not received. -/
def send? (channel : OutgoingChannel) (frame : OutgoingFrame) : Option OutgoingChannel :=
  if channel.receiving then
    if channel.queue.length < streamChannelCapacity then
      some { channel with queue := channel.queue ++ [frame] }
    else
      none
  else
    some channel

/-- The channel behind the send task. -/
def dropped : OutgoingChannel := ⟨[], false⟩

/-- What the send task does with the first frame of the queue. -/
def writeFrame (delivered : Bool) (queue : List OutgoingFrame) : OutgoingFrame → OutgoingChannel
  | .close _ _ => dropped
  | .message _ => if delivered then ⟨queue, true⟩ else dropped

def isClose : OutgoingFrame → Bool
  | .close _ _ => true
  | .message _ => false

namespace Teardown

/-- A connection that was just accepted. -/
def start : Teardown := ⟨.receiving, ⟨false, false, ⟨[], true⟩⟩, 0, 0, 0, 0, 0⟩

def setChannel (state : Teardown) (channel : OutgoingChannel) : Teardown :=
  { state with socket := { state.socket with tx := channel } }

/-- The number of senders. -/
def senders (state : Teardown) : Nat :=
  (if state.phase = .receiving ∨ state.phase = .connecting then 1 else 0) + state.tickTasks +
    state.runs + state.entries + state.cloned + state.flagged

end Teardown

def teardown : Machine Teardown TeardownStep where
  step state
    | .respond frame =>
        if state.phase = .receiving ∨ state.phase = .connecting then
          (send? state.socket.tx frame).map state.setChannel
        else
          none
    | .connect registered =>
        if state.phase = .receiving then
          some { state with
            phase := .connecting
            entries := state.entries + if registered then 1 else 0 }
        else
          none
    | .spawnTick =>
        if state.phase = .connecting then
          some { state with phase := .receiving, tickTasks := state.tickTasks + 1 }
        else
          none
    | .spawnRun =>
        if state.phase = .receiving then some { state with runs := state.runs + 1 } else none
    | .leave =>
        if state.phase = .receiving then some { state with phase := .awaitingSendTask } else none
    | .sendTick frame =>
        if state.tickTasks = 0 then none
        else if state.socket.tx.receiving then (send? state.socket.tx frame).map state.setChannel
        else some { state with tickTasks := state.tickTasks - 1 }
    | .endTick =>
        if state.tickTasks ≠ 0 ∧ state.socket.shutdown = true then
          some { state with tickTasks := state.tickTasks - 1 }
        else
          none
    | .sendEvent frame =>
        if state.runs = 0 then none else (send? state.socket.tx frame).map state.setChannel
    | .endRun => if state.runs = 0 then none else some { state with runs := state.runs - 1 }
    | .write delivered =>
        match state.socket.tx.receiving, state.socket.tx.queue with
        | true, frame :: queue => some (state.setChannel (writeFrame delivered queue frame))
        | _, _ => none
    | .hangUp =>
        if state.socket.tx.receiving = true ∧ state.socket.tx.queue = [] ∧ state.senders = 0 then
          some (state.setChannel dropped)
        else
          none
    | .clone => if state.entries = 0 then none else some { state with cloned := state.cloned + 1 }
    | .flag =>
        if state.cloned = 0 then none
        else
          some { state with
            cloned := state.cloned - 1
            flagged := state.flagged + 1
            socket := { state.socket with shutdown := true, notified := true } }
    | .sendClose =>
        if state.flagged = 0 then none
        else
          some ({ state with flagged := state.flagged - 1 }.setChannel
            (state.socket.tx.trySend (.close 1008 "device_revoked".toList)))
    | .unregister removed =>
        if state.phase = .awaitingSendTask ∧ state.socket.tx.receiving = false then
          some { state with phase := .finished, entries := state.entries - removed }
        else
          none

/-- The flag and the close frame of a cloned entry are the disconnection of
its socket. -/
theorem run_disconnect_socket (state : Teardown) (cloned : state.cloned ≠ 0) :
    teardown.run state [.flag, .sendClose] =
      some { state with cloned := state.cloned - 1, socket := state.socket.disconnect } := by
  simp only [Machine.run, teardown, cloned, if_false, Option.bind_some, Nat.add_one_ne_zero,
    Nat.add_sub_cancel, Teardown.setChannel]
  rfl

/-- The handler waits for the send task, the send task for a frame or the end
of the senders, and only entries of the registry hold one. -/
def Teardown.Stuck (state : Teardown) : Prop :=
  state.phase = .awaitingSendTask ∧ state.tickTasks = 0 ∧ state.runs = 0 ∧ state.cloned = 0 ∧
    state.flagged = 0 ∧ state.socket.tx.queue = [] ∧ state.socket.tx.receiving = true ∧
    state.entries ≠ 0

instance (state : Teardown) : Decidable state.Stuck :=
  inferInstanceAs (Decidable (state.phase = .awaitingSendTask ∧ _))

/-- A close frame is in a queue. -/
def Announced (queue : List OutgoingFrame) : Prop := ∃ frame ∈ queue, isClose frame = true

/-- The close frame of a revocation fits in the queue, if the channel is still
received and no other close frame is queued. -/
def RoomForClose (state : Teardown) (action : TeardownStep) : Prop :=
  action = .sendClose → state.socket.tx.receiving = true →
    state.socket.tx.queue.length < streamChannelCapacity ∨ Announced state.socket.tx.queue

/-! ## Channels -/

/-- What a channel may become: it is not received anew, and it loses no close
frame while it is received. -/
structure Extends (before after : OutgoingChannel) : Prop where
  fewer : after.receiving = true → before.receiving = true
  grown : after.receiving = true → Announced before.queue → Announced after.queue

theorem announced_mono {first second : List OutgoingFrame}
    (kept : ∀ frame ∈ first, frame ∈ second) (announced : Announced first) : Announced second := by
  rcases announced with ⟨frame, member, close⟩
  exact ⟨frame, kept frame member, close⟩

theorem extends_send {channel next : OutgoingChannel} {frame : OutgoingFrame}
    (sent : send? channel frame = some next) : Extends channel next := by
  unfold send? at sent
  split at sent
  · rename_i receiving
    split at sent
    · rcases Option.some.inj sent with rfl
      exact ⟨fun _ => receiving, fun _ =>
        announced_mono fun queued member => List.mem_append_left _ member⟩
    · cases sent
  · rcases Option.some.inj sent with rfl
    exact ⟨id, fun _ => id⟩

theorem extends_dropped (channel : OutgoingChannel) : Extends channel dropped := by
  constructor
  all_goals
    intro received
    cases received

/-- The send task ends with a close frame, so it loses none. -/
theorem extends_writeFrame (delivered : Bool) (frame : OutgoingFrame) (queue : List OutgoingFrame) :
    Extends ⟨frame :: queue, true⟩ (writeFrame delivered queue frame) := by
  cases frame with
  | close code reason => exact extends_dropped _
  | message json =>
      cases delivered with
      | false => exact extends_dropped _
      | true =>
          refine ⟨fun _ => rfl, ?_⟩
          rintro _ ⟨frame, member, close⟩
          rcases List.mem_cons.mp member with rfl | behind
          · cases close
          · exact ⟨frame, behind, close⟩

theorem trySend_receiving (channel : OutgoingChannel) (frame : OutgoingFrame) :
    (channel.trySend frame).receiving = channel.receiving := by
  unfold OutgoingChannel.trySend
  split <;> rfl

theorem trySend_full {channel : OutgoingChannel} (full : streamChannelCapacity ≤ channel.queue.length)
    (frame : OutgoingFrame) : channel.trySend frame = channel := by
  unfold OutgoingChannel.trySend
  have blocked : ¬ channel.queue.length < streamChannelCapacity := Nat.not_lt.mpr full
  simp [blocked]

/-- A close frame that fits is queued. -/
theorem announced_trySend {channel : OutgoingChannel} (code : Nat) (reason : Text)
    (receiving : channel.receiving = true)
    (room : channel.queue.length < streamChannelCapacity ∨ Announced channel.queue) :
    Announced (channel.trySend (.close code reason)).queue := by
  unfold OutgoingChannel.trySend
  split
  · exact ⟨.close code reason, by simp, rfl⟩
  · rename_i full
    rcases room with fits | announced
    · exact absurd (by simp [receiving, fits]) full
    · exact announced

/-! ## What a step can do -/

/-- The steps, by what they change. -/
inductive Disposes (state : Teardown) : TeardownStep → Teardown → Prop
  | channel {action : TeardownStep} {channel : OutgoingChannel}
      (extended : Extends state.socket.tx channel) :
      Disposes state action (state.setChannel channel)
  | connect (receiving : state.phase = .receiving) (registered : Bool) :
      Disposes state (.connect registered) { state with
        phase := .connecting
        entries := state.entries + if registered then 1 else 0 }
  | spawnTick (connecting : state.phase = .connecting) :
      Disposes state .spawnTick { state with phase := .receiving, tickTasks := state.tickTasks + 1 }
  | spawnRun : Disposes state .spawnRun { state with runs := state.runs + 1 }
  | leave (receiving : state.phase = .receiving) :
      Disposes state .leave { state with phase := .awaitingSendTask }
  | endTick {action : TeardownStep}
      (ended : state.socket.shutdown = true ∨ state.socket.tx.receiving = false) :
      Disposes state action { state with tickTasks := state.tickTasks - 1 }
  | endRun : Disposes state .endRun { state with runs := state.runs - 1 }
  | clone (entered : state.entries ≠ 0) :
      Disposes state .clone { state with cloned := state.cloned + 1 }
  | flag (cloned : state.cloned ≠ 0) :
      Disposes state .flag { state with
        cloned := state.cloned - 1
        flagged := state.flagged + 1
        socket := { state.socket with shutdown := true, notified := true } }
  | sendClose (flagged : state.flagged ≠ 0) :
      Disposes state .sendClose ({ state with flagged := state.flagged - 1 }.setChannel
        (state.socket.tx.trySend (.close 1008 "device_revoked".toList)))
  | unregister (ended : state.socket.tx.receiving = false) (removed : Nat) :
      Disposes state (.unregister removed)
        { state with phase := .finished, entries := state.entries - removed }

theorem disposes_send {state next : Teardown} {action : TeardownStep} {frame : OutgoingFrame}
    (sent : (send? state.socket.tx frame).map state.setChannel = some next) :
    Disposes state action next := by
  rcases Option.map_eq_some_iff.mp sent with ⟨channel, accepted, rfl⟩
  exact .channel (extends_send accepted)

theorem disposes_of_step {state next : Teardown} {action : TeardownStep}
    (step : teardown.step state action = some next) : Disposes state action next := by
  cases action with
  | respond frame =>
      simp only [teardown] at step
      split at step
      · exact disposes_send step
      · cases step
  | connect registered =>
      simp only [teardown] at step
      split at step
      · rename_i receiving
        exact Option.some.inj step ▸ .connect receiving registered
      · cases step
  | spawnTick =>
      simp only [teardown] at step
      split at step
      · rename_i connecting
        exact Option.some.inj step ▸ .spawnTick connecting
      · cases step
  | spawnRun =>
      simp only [teardown] at step
      split at step
      · exact Option.some.inj step ▸ .spawnRun
      · cases step
  | leave =>
      simp only [teardown] at step
      split at step
      · rename_i receiving
        exact Option.some.inj step ▸ .leave receiving
      · cases step
  | sendTick frame =>
      simp only [teardown] at step
      split at step
      · cases step
      · split at step
        · exact disposes_send step
        · rename_i ended
          exact Option.some.inj step ▸ .endTick (Or.inr (Bool.eq_false_iff.mpr ended))
  | endTick =>
      simp only [teardown] at step
      split at step
      · rename_i stopped
        exact Option.some.inj step ▸ .endTick (Or.inl stopped.2)
      · cases step
  | sendEvent frame =>
      simp only [teardown] at step
      split at step
      · cases step
      · exact disposes_send step
  | endRun =>
      simp only [teardown] at step
      split at step
      · cases step
      · exact Option.some.inj step ▸ .endRun
  | write delivered =>
      simp only [teardown] at step
      split at step
      · rename_i frame queue receiving here
        refine Option.some.inj step ▸ .channel ?_
        have whole : state.socket.tx = ⟨frame :: queue, true⟩ := by rw [← receiving, ← here]
        rw [whole]
        exact extends_writeFrame delivered frame queue
      · cases step
  | hangUp =>
      simp only [teardown] at step
      split at step
      · exact Option.some.inj step ▸ .channel (extends_dropped _)
      · cases step
  | clone =>
      simp only [teardown] at step
      split at step
      · cases step
      · rename_i entered
        exact Option.some.inj step ▸ .clone entered
  | flag =>
      simp only [teardown] at step
      split at step
      · cases step
      · rename_i cloned
        exact Option.some.inj step ▸ .flag cloned
  | sendClose =>
      simp only [teardown] at step
      split at step
      · cases step
      · rename_i flagged
        exact Option.some.inj step ▸ .sendClose flagged
  | unregister removed =>
      simp only [teardown] at step
      split at step
      · rename_i ended
        exact Option.some.inj step ▸ .unregister ended.2 removed
      · cases step

/-! ## What every run keeps -/

/-- As long as the channel is received: an entry that was cloned is still
there, and a registered connection that is not flagged has a tick task. -/
structure Teardown.Sound (state : Teardown) : Prop where
  kept : state.socket.tx.receiving = true → state.cloned + state.flagged ≠ 0 → state.entries ≠ 0
  signalled : state.flagged ≠ 0 → state.socket.shutdown = true
  awaited : state.socket.tx.receiving = true → state.phase ≠ .finished
  ticking : state.socket.tx.receiving = true → state.entries ≠ 0 → state.socket.shutdown = false →
    state.phase = .connecting ∨ state.tickTasks ≠ 0

/-- A flagged connection has its close frame queued or still to come. -/
def Teardown.Answered (state : Teardown) : Prop :=
  state.socket.shutdown = true → state.socket.tx.receiving = true →
    state.flagged ≠ 0 ∨ Announced state.socket.tx.queue

theorem sound_start : Teardown.start.Sound := by
  constructor <;> simp [Teardown.start]

theorem sound_step {state next : Teardown} {action : TeardownStep} (sound : state.Sound)
    (disposes : Disposes state action next) : next.Sound := by
  rcases sound with ⟨kept, signalled, awaited, ticking⟩
  cases disposes with
  | channel extended =>
      exact ⟨fun received => kept (extended.fewer received), signalled,
        fun received => awaited (extended.fewer received),
        fun received => ticking (extended.fewer received)⟩
  | connect receiving registered =>
      refine ⟨fun received cloned => ?_, signalled, fun _ => nofun, fun _ _ _ => Or.inl rfl⟩
      have before := kept received cloned
      show state.entries + _ ≠ 0
      omega
  | spawnTick connecting =>
      exact ⟨kept, signalled, fun _ => nofun, fun _ _ _ => Or.inr (Nat.succ_ne_zero _)⟩
  | spawnRun => exact ⟨kept, signalled, awaited, ticking⟩
  | leave receiving =>
      refine ⟨kept, signalled, fun _ => nofun, fun received entered unflagged => Or.inr ?_⟩
      rcases ticking received entered unflagged with connecting | tick
      · cases receiving.symm.trans connecting
      · exact tick
  | endTick ended =>
      refine ⟨kept, signalled, awaited, fun received _ unflagged => ?_⟩
      rcases ended with flagged | closed
      · cases flagged.symm.trans unflagged
      · cases closed.symm.trans received
  | endRun => exact ⟨kept, signalled, awaited, ticking⟩
  | clone entered => exact ⟨fun _ _ => entered, signalled, awaited, ticking⟩
  | flag cloned =>
      refine ⟨fun received _ => kept received ?_, fun _ => rfl, awaited, fun _ _ => nofun⟩
      omega
  | sendClose flagged =>
      have fewer := (trySend_receiving state.socket.tx (.close 1008 "device_revoked".toList)).symm
      refine ⟨fun received _ => kept (fewer.trans received) (by omega), fun _ => signalled flagged,
        fun received => awaited (fewer.trans received),
        fun received => ticking (fewer.trans received)⟩
  | unregister ended removed =>
      exact ⟨fun received => absurd (ended.symm.trans received) nofun, signalled,
        fun received => absurd (ended.symm.trans received) nofun,
        fun received => absurd (ended.symm.trans received) nofun⟩

theorem answered_step {state next : Teardown} {action : TeardownStep}
    (room : RoomForClose state action) (answered : state.Answered)
    (disposes : Disposes state action next) : next.Answered := by
  intro shutdown received
  cases disposes with
  | channel extended =>
      rcases answered shutdown (extended.fewer received) with coming | announced
      · exact Or.inl coming
      · exact Or.inr (extended.grown received announced)
  | flag cloned => exact Or.inl (Nat.succ_ne_zero _)
  | sendClose flagged =>
      have before := (trySend_receiving state.socket.tx _).symm.trans received
      exact Or.inr (announced_trySend _ _ before (room rfl before))
  | connect _ _ | spawnTick _ | spawnRun | leave _ | endTick _ | endRun | clone _ | unregister _ _ =>
      exact answered shutdown received

/-- A stuck connection would be flagged without an answer. -/
theorem not_stuck {state : Teardown} (sound : state.Sound) (answered : state.Answered) :
    ¬ state.Stuck := by
  rintro ⟨waiting, noTick, _, _, noFlagged, empty, receiving, entry⟩
  cases shutdown : state.socket.shutdown with
  | false =>
      rcases sound.ticking receiving entry shutdown with connecting | tick
      · cases waiting.symm.trans connecting
      · exact tick noTick
  | true =>
      rcases answered shutdown receiving with coming | ⟨frame, member, _⟩
      · exact coming noFlagged
      · rw [empty] at member
        cases member

/-! ## A queue without room -/

/-- A flagged connection whose queue is full, without a close frame. -/
structure Teardown.Jammed (state : Teardown) : Prop where
  receiving : state.socket.tx.receiving = true
  full : streamChannelCapacity ≤ state.socket.tx.queue.length
  unannounced : ¬ Announced state.socket.tx.queue
  shutdown : state.socket.shutdown = true
  entered : state.entries ≠ 0
  awaited : state.phase ≠ .finished

/-- What the parties of a connection have still to do. -/
def Teardown.pending (state : Teardown) : Nat :=
  2 * state.cloned + state.flagged + state.tickTasks + state.runs +
    match state.phase with
    | .connecting => 3
    | .receiving => 1
    | .awaitingSendTask | .finished => 0

/-- Every party of a jammed connection can go on to its end. -/
theorem jammed_progress (state : Teardown) (jammed : state.Jammed) (busy : state.pending ≠ 0) :
    ∃ action next, teardown.step state action = some next ∧ next.Jammed ∧
      next.pending < state.pending := by
  rcases jammed with ⟨receiving, full, unannounced, shutdown, entered, awaited⟩
  by_cases cloned : state.cloned = 0
  · by_cases flagged : state.flagged = 0
    · by_cases ticks : state.tickTasks = 0
      · by_cases runs : state.runs = 0
        · cases phase : state.phase with
          | receiving =>
              refine ⟨.leave, _, if_pos phase,
                ⟨receiving, full, unannounced, shutdown, entered, fun other => nomatch other⟩, ?_⟩
              simp [Teardown.pending, phase]
          | connecting =>
              refine ⟨.spawnTick, _, if_pos phase,
                ⟨receiving, full, unannounced, shutdown, entered, fun other => nomatch other⟩, ?_⟩
              simp only [Teardown.pending, phase]
              omega
          | awaitingSendTask => simp [Teardown.pending, cloned, flagged, ticks, runs, phase] at busy
          | finished => exact absurd phase awaited
        · refine ⟨.endRun, _, if_neg runs,
            ⟨receiving, full, unannounced, shutdown, entered, awaited⟩, ?_⟩
          simp only [Teardown.pending]
          omega
      · refine ⟨.endTick, _, if_pos ⟨ticks, shutdown⟩,
          ⟨receiving, full, unannounced, shutdown, entered, awaited⟩, ?_⟩
        simp only [Teardown.pending]
        omega
    · refine ⟨.sendClose, _, if_neg flagged, ?_, ?_⟩
      · rw [trySend_full full]
        exact ⟨receiving, full, unannounced, shutdown, entered, awaited⟩
      · simp only [Teardown.pending, Teardown.setChannel]
        omega
  · refine ⟨.flag, _, if_neg cloned,
      ⟨receiving, full, unannounced, rfl, entered, awaited⟩, ?_⟩
    simp only [Teardown.pending]
    omega

/-- The send task drains a queue without a close frame. -/
theorem drains {state : Teardown} (queue : List OutgoingFrame)
    (queued : state.socket.tx = ⟨queue, true⟩) (unannounced : ¬ Announced queue) :
    teardown.Reaches state (state.setChannel ⟨[], true⟩) := by
  induction queue generalizing state with
  | nil =>
      have same : state.setChannel ⟨[], true⟩ = state := by rw [← queued]; rfl
      rw [same]
      exact .refl state
  | cons frame queue inductionHypothesis =>
      cases frame with
      | close code reason => exact absurd ⟨_, List.mem_cons_self, rfl⟩ unannounced
      | message json =>
          have step : teardown.step state (.write true) = some (state.setChannel ⟨queue, true⟩) := by
            simp only [teardown, queued]
            rfl
          refine .cons step (@inductionHypothesis (state.setChannel ⟨queue, true⟩) rfl ?_)
          exact fun announced => unannounced
            (announced_mono (fun other member => List.mem_cons_of_mem _ member) announced)

/-- A jammed connection may get stuck. -/
theorem jammed_gets_stuck {state : Teardown} (jammed : state.Jammed) :
    ∃ stuck, teardown.Reaches state stuck ∧ stuck.Stuck := by
  rcases Machine.reaches_bottom Teardown.pending jammed_progress jammed with
    ⟨idle, reached, still, done⟩
  have queued : idle.socket.tx = ⟨idle.socket.tx.queue, true⟩ := by rw [← still.receiving]
  refine ⟨_, reached.trans (drains _ queued still.unannounced), ?_⟩
  have waiting : idle.phase = .awaitingSendTask := by
    cases phase : idle.phase with
    | awaitingSendTask => rfl
    | finished => exact absurd phase still.awaited
    | receiving | connecting => simp [Teardown.pending, phase] at done
  unfold Teardown.pending at done
  exact ⟨waiting, by show idle.tickTasks = 0; omega, by show idle.runs = 0; omega,
    by show idle.cloned = 0; omega, by show idle.flagged = 0; omega, rfl, rfl, still.entered⟩

/-! ## Whole runs -/

/-- No connection gets stuck in a run in which every close frame of a
revocation finds room; and once one finds none, the connection may get stuck. -/
theorem stuck_without_room {schedule : List TeardownStep} {final : Teardown}
    (runs : teardown.run .start schedule = some final) :
    (teardown.Guarded RoomForClose .start schedule →
      teardown.Throughout (fun state => ¬ state.Stuck) .start schedule) ∧
    ∀ next, teardown.step final .sendClose = some next → ¬ RoomForClose final .sendClose →
      ∃ stuck, teardown.Reaches next stuck ∧ stuck.Stuck := by
  constructor
  · intro guarded
    have preserved : ∀ state action next, state.Sound ∧ state.Answered → RoomForClose state action →
        teardown.step state action = some next → next.Sound ∧ next.Answered :=
      fun _ _ _ invariant room step => ⟨sound_step invariant.1 (disposes_of_step step),
        answered_step room invariant.2 (disposes_of_step step)⟩
    exact Machine.throughout_of_guarded preserved
      (fun _ invariant => not_stuck invariant.1 invariant.2) ⟨sound_start, nofun⟩ guarded
  · intro next step lost
    have preserved : ∀ (past : List TeardownStep) state action next, state.Sound →
        teardown.step state action = some next → next.Sound :=
      fun _ _ _ _ sound step => sound_step sound (disposes_of_step step)
    have sound : final.Sound := Machine.run_invariant preserved [] sound_start runs
    simp only [RoomForClose, forall_const, Classical.not_imp, not_or, Nat.not_lt] at lost
    rcases lost with ⟨receiving, full, unannounced⟩
    simp only [teardown] at step
    split at step
    · cases step
    · rename_i flagged
      rcases Option.some.inj step with rfl
      rw [trySend_full full]
      exact jammed_gets_stuck ⟨receiving, full, unannounced, sound.signalled flagged,
        sound.kept receiving (by omega), sound.awaited receiving⟩

/-- A connected client is revoked while some frames are queued for it, and
reads them afterwards. -/
def revokedAfter (frames : Nat) : List TeardownStep :=
  [.connect true, .spawnTick] ++ List.replicate frames (.respond (.message [])) ++
    [.clone, .flag, .sendClose, .leave, .endTick] ++ List.replicate frames (.write true)

theorem stuck_without_room_one_frame :
    teardown.Throughout (fun state => ¬ state.Stuck) .start (revokedAfter 1) := by
  have runs : teardown.run .start (revokedAfter 1) = some
      ⟨.awaitingSendTask, ⟨true, true, ⟨[.close 1008 "device_revoked".toList], true⟩⟩, 0, 0, 1, 0, 0⟩ :=
    rfl
  refine (stuck_without_room runs).1 ?_
  simp only [revokedAfter, List.replicate, List.cons_append, List.nil_append]
  refine Machine.guarded_cons nofun rfl (Machine.guarded_cons nofun rfl (Machine.guarded_cons nofun rfl
    (Machine.guarded_cons nofun rfl (Machine.guarded_cons nofun rfl (Machine.guarded_cons ?_ rfl
      (Machine.guarded_of_forall ?_ _))))))
  · exact fun _ _ => Or.inl (by decide)
  · simp [RoomForClose]

set_option maxRecDepth 4000 in
/-- A full queue: the client is revoked while it reads nothing. -/
theorem full_queue_gets_stuck :
    ∃ stuck, teardown.run .start (revokedAfter 100) = some stuck ∧ stuck.Stuck :=
  ⟨⟨.awaitingSendTask, ⟨true, true, ⟨[], true⟩⟩, 0, 0, 1, 0, 0⟩, by decide +kernel, by decide⟩

end Connection
end Rabb1tClaw
