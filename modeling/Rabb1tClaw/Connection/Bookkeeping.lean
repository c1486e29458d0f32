import Rabb1tClaw.Connection.FrameLoop
import Rabb1tClaw.State.Registry

namespace Rabb1tClaw
namespace Connection

open Foundations
open State

/-!
# The bookkeeping of a connection

A successful connect enters the connection into the registry and starts a task
that sends ticks.  The cleanup removes the connection from the list of the
token that the frame loop holds then.

A connect is not limited to the first frame.  A second one starts a second
tick task, and the entry of a first token stays when the second is another
one.  The books are in order in every state of a run exactly if no connect
succeeds while the connection has a tick task or an entry
(`books_in_order_iff`).
-/

/-- A connection, with the registry that it shares with others. -/
structure Books where
  task : SocketTask
  tickTasks : Nat
  connections : ConnectionRegistry
  cleaned : Bool

/-- A turn of the frame loop, the end of a tick task, the cleanup, or a call
of another connection. -/
inductive BooksStep where
  | arrival (moment : Moment) (arrival : Arrival)
  | endTick
  | cleanUp
  | register (token : Text) (connection : ActiveConnection)
  | unregister (token connId : Text)

namespace Books

def start (connections : ConnectionRegistry) : Books := ⟨.start, 0, connections, false⟩

/-- What a call of the loop does to the books of its connection. -/
def perform (context : SocketContext) (socket : Nat) (books : Books) : SocketEffect → Books
  | .registerConnection token =>
      { books with
        connections := registerConnection books.connections token ⟨context.connId, socket⟩ }
  | .spawnTickTask => { books with tickTasks := books.tickTasks + 1 }
  | .send _ | .dispatchMethod _ => books

def cleanUp (context : SocketContext) (books : Books) : Books :=
  { books with
    connections :=
      match books.task.authenticatedToken with
      | some token => unregisterConnection books.connections token context.connId
      | none => books.connections
    cleaned := true }

end Books

def bookkeeping (context : SocketContext) (socket : Nat) : Machine Books BooksStep where
  step books
    | .arrival moment arrival =>
        match books.task.phase, books.cleaned with
        | .receiving, false =>
            let turn := books.task.receive context moment arrival
            some (turn.2.foldl (Books.perform context socket) { books with task := turn.1 })
        | _, _ => none
    | .endTick => if books.tickTasks = 0 then none else some { books with tickTasks := books.tickTasks - 1 }
    | .cleanUp =>
        match books.task.phase, books.cleaned with
        | .left, false => some (books.cleanUp context)
        | _, _ => none
    | .register token connection =>
        some { books with connections := registerConnection books.connections token connection }
    | .unregister token connId =>
        some { books with connections := unregisterConnection books.connections token connId }

/-- At most one tick task and one entry, which is filed under the token of the
frame loop, and no entry behind the cleanup. -/
structure Books.InOrder (connId : Text) (books : Books) : Prop where
  oneTick : books.tickTasks ≤ 1
  oneEntry : ∀ token, entryCount books.connections token connId ≤ 1
  filed : ∀ token, books.task.authenticatedToken ≠ some token →
    entryCount books.connections token connId = 0
  cleared : books.cleaned = true → ∀ token, entryCount books.connections token connId = 0

/-- The connection has no tick task and no entry. -/
def Books.Unused (connId : Text) (books : Books) : Prop :=
  books.tickTasks = 0 ∧ ∀ token, entryCount books.connections token connId = 0

/-- A connect that establishes a session finds the connection unused. -/
def FirstSession (context : SocketContext) (books : Books) : BooksStep → Prop
  | .arrival moment arrival =>
      ∀ connectAuth method, Succeeds context (moment, arrival) connectAuth method →
        Named connectAuth method → books.Unused context.connId
  | _ => True

/-- Another connection enters the registry under another id. -/
def OtherId (connId : Text) : BooksStep → Prop
  | .register _ connection => connection.connId ≠ connId
  | _ => True

section

variable {context : SocketContext} {socket : Nat}

/-! ## One step -/

/-- Calls that do not touch the books leave them as they are. -/
theorem perform_quiet {effects : List SocketEffect}
    (quiet : ∀ effect ∈ effects, effect.keepsBooks = false) (books : Books) :
    effects.foldl (Books.perform context socket) books = books := by
  induction effects generalizing books with
  | nil => rfl
  | cons effect effects inductionHypothesis =>
      have here := quiet effect List.mem_cons_self
      have unchanged : books.perform context socket effect = books := by
        cases effect with
        | send _ | dispatchMethod _ => rfl
        | registerConnection _ | spawnTickTask => cases here
      rw [List.foldl_cons, unchanged]
      exact inductionHypothesis (fun other member => quiet other (List.mem_cons_of_mem effect member))
        books

/-- The calls of an established session: one entry, for a session with a
token, and one tick task. -/
theorem perform_establishingCalls (moment : Moment) (requestId : Text) (deviceToken : Option Text)
    (books : Books) :
    (establishingCalls context moment requestId deviceToken).foldl (Books.perform context socket) books =
      { books with
        tickTasks := books.tickTasks + 1
        connections :=
          match deviceToken with
          | some token => registerConnection books.connections token ⟨context.connId, socket⟩
          | none => books.connections } := by
  cases deviceToken <;> rfl

/-- A session that is established keeps the books in order exactly on an
unused connection. -/
theorem inOrder_establish_iff {books : Books} (uncleaned : books.cleaned = false) (moment : Moment) (requestId : Text)
    (deviceToken : Option Text) :
    ((establishingCalls context moment requestId deviceToken).foldl (Books.perform context socket)
      { books with
        task := { books.task with connected := true, authenticatedToken := deviceToken } }).InOrder
          context.connId ↔ books.Unused context.connId := by
  rw [perform_establishingCalls]
  constructor
  · intro after
    have noTick : books.tickTasks = 0 := by
      have oneTick := after.oneTick
      simp only at oneTick
      omega
    refine ⟨noTick, fun token => ?_⟩
    cases deviceToken with
    | none => exact after.filed token nofun
    | some current =>
        by_cases same : current = token
        · subst same
          have oneEntry := after.oneEntry current
          simp only [entryCount_registerConnection, and_self, if_true] at oneEntry
          omega
        · have filed := after.filed token fun equal => same (Option.some.inj equal)
          simpa only [entryCount_registerConnection, Ne.symm same, false_and, if_false, Nat.add_zero]
            using filed
  · rintro ⟨noTick, noEntry⟩
    refine ⟨by simp only [noTick]; exact Nat.le_refl 1, fun token => ?_, fun token other => ?_,
      fun cleaned => by simp only [uncleaned] at cleaned; cases cleaned⟩
    · cases deviceToken with
      | none => simp only [noEntry]; exact Nat.zero_le 1
      | some current =>
          simp only [entryCount_registerConnection, noEntry]
          split <;> simp
    · cases deviceToken with
      | none => exact noEntry token
      | some current =>
          have differs : token ≠ current := fun equal => other (congrArg some equal.symm)
          simp only [entryCount_registerConnection, noEntry, differs, false_and, if_false]

theorem inOrder_cleanUp {books : Books} (inOrder : books.InOrder context.connId) :
    (books.cleanUp context).InOrder context.connId := by
  have none_left : ∀ token, entryCount (books.cleanUp context).connections token context.connId = 0 := by
    intro token
    unfold Books.cleanUp
    cases current : books.task.authenticatedToken with
    | none => exact inOrder.filed token (by simp [current])
    | some owner =>
        simp only [entryCount_unregisterConnection, and_true]
        split
        · rfl
        · rename_i differs
          exact inOrder.filed token fun equal => differs (Option.some.inj (equal.symm.trans current))
  exact ⟨inOrder.oneTick, fun token => (none_left token).le.trans (Nat.zero_le 1),
    fun token _ => none_left token, fun _ => none_left⟩

theorem inOrder_register {books : Books} (inOrder : books.InOrder context.connId) {token : Text}
    {connection : ActiveConnection} (other : connection.connId ≠ context.connId) :
    ({ books with connections := registerConnection books.connections token connection } : Books).InOrder
      context.connId := by
  have same : ∀ any, entryCount (registerConnection books.connections token connection) any
      context.connId = entryCount books.connections any context.connId := by
    intro any
    simp only [entryCount_registerConnection, other, and_false, if_false, Nat.add_zero]
  exact ⟨inOrder.oneTick, fun any => (same any).le.trans (inOrder.oneEntry any),
    fun any differs => (same any).trans (inOrder.filed any differs),
    fun cleaned any => (same any).trans (inOrder.cleared cleaned any)⟩

theorem inOrder_unregister {books : Books} (inOrder : books.InOrder context.connId)
    (token connId : Text) :
    ({ books with connections := unregisterConnection books.connections token connId } : Books).InOrder
      context.connId := by
  have fewer : ∀ any, entryCount (unregisterConnection books.connections token connId) any
      context.connId ≤ entryCount books.connections any context.connId := by
    intro any
    rw [entryCount_unregisterConnection]
    split <;> omega
  exact ⟨inOrder.oneTick, fun any => (fewer any).trans (inOrder.oneEntry any),
    fun any differs => Nat.eq_zero_of_le_zero ((fewer any).trans (inOrder.filed any differs).le),
    fun cleaned any => Nat.eq_zero_of_le_zero ((fewer any).trans (inOrder.cleared cleaned any).le)⟩

/-- A step keeps the books in order exactly if it establishes no session on a
connection in use. -/
theorem inOrder_step_iff {books next : Books} {action : BooksStep}
    (other : OtherId context.connId action) (inOrder : books.InOrder context.connId)
    (step : (bookkeeping context socket).step books action = some next) :
    FirstSession context books action ↔ next.InOrder context.connId := by
  cases action with
  | arrival moment arrival =>
      simp only [bookkeeping] at step
      split at step
      · rename_i receiving uncleaned
        rcases Option.some.inj step with rfl
        rcases receive_cases context moment books.task arrival with
          ⟨connectAuth, method, requestId, succeeds, named, handled⟩ |
          ⟨phase, effects, handled, quiet, fails⟩
        · rw [handled, inOrder_establish_iff uncleaned]
          exact ⟨fun first => first connectAuth method succeeds named, fun unused _ _ _ _ => unused⟩
        · rw [handled, perform_quiet quiet]
          refine iff_of_true (fun connectAuth method succeeds named => ?_)
            ⟨inOrder.oneTick, inOrder.oneEntry, inOrder.filed, inOrder.cleared⟩
          exact absurd named (fails connectAuth method succeeds).1
      · cases step
  | endTick =>
      simp only [bookkeeping] at step
      split at step
      · cases step
      · rcases Option.some.inj step with rfl
        exact iff_of_true trivial ⟨(Nat.sub_le _ _).trans inOrder.oneTick, inOrder.oneEntry,
          inOrder.filed, inOrder.cleared⟩
  | cleanUp =>
      simp only [bookkeeping] at step
      split at step
      · rcases Option.some.inj step with rfl
        exact iff_of_true trivial (inOrder_cleanUp inOrder)
      · cases step
  | register token connection =>
      rcases Option.some.inj step with rfl
      exact iff_of_true trivial (inOrder_register inOrder other)
  | unregister token connId =>
      rcases Option.some.inj step with rfl
      exact iff_of_true trivial (inOrder_unregister inOrder token connId)

/-! ## Whole runs -/

/-- From a registry without the connection, the books are in order in every
state of a run exactly if every session is established on an unused
connection. -/
theorem books_in_order_iff {connections : ConnectionRegistry} {schedule : List BooksStep} {final : Books}
    (fresh : ∀ token, entryCount connections token context.connId = 0)
    (others : ∀ action ∈ schedule, OtherId context.connId action)
    (runs : (bookkeeping context socket).run (.start connections) schedule = some final) :
    (bookkeeping context socket).Throughout (Books.InOrder context.connId) (.start connections) schedule ↔
      (bookkeeping context socket).Guarded (FirstSession context) (.start connections) schedule := by
  refine Machine.throughout_iff_guarded
    (fun books action member next inOrder step => inOrder_step_iff (others action member) inOrder step)
    ⟨Nat.zero_le 1, fun token => (fresh token).le.trans (Nat.zero_le 1), fun token _ => fresh token,
      fun _ => fresh⟩ runs

end

/-- The client connects, sends a request and goes. -/
def oneSessionSchedule : List BooksStep :=
  [.arrival (sampleMoment "a".toList) (.text connectText),
    .arrival (sampleMoment "a".toList) (.text healthText),
    .arrival (sampleMoment "a".toList) .close, .cleanUp]

theorem books_in_order_iff_one_session :
    (bookkeeping sampleContext 0).Throughout (Books.InOrder sampleContext.connId) (.start ∅)
      oneSessionSchedule := by
  refine (books_in_order_iff (fun _ => rfl) (by simp [oneSessionSchedule, OtherId]) rfl).mpr ?_
  refine Machine.guarded_cons (fun _ _ _ _ => ⟨rfl, fun _ => rfl⟩) rfl
    (Machine.guarded_cons ?_ rfl (Machine.guarded_cons ?_ rfl (Machine.guarded_cons trivial rfl trivial)))
  · rintro connectAuth method ⟨isConnect, _⟩
    cases isConnect
  · rintro connectAuth method ⟨isConnect, _⟩
    cases isConnect

/-- The client connects twice with its token. -/
def twoConnects : List BooksStep :=
  [.arrival (sampleMoment "a".toList) (.text connectText),
    .arrival (sampleMoment "a".toList) (.text connectText)]

theorem two_connects_two_ticks :
    ∃ final, (bookkeeping sampleContext 0).run (.start ∅) twoConnects = some final ∧
      final.tickTasks = 2 ∧ entryCount final.connections "a".toList sampleContext.connId = 2 ∧
      ¬ (bookkeeping sampleContext 0).Throughout (Books.InOrder sampleContext.connId) (.start ∅)
        twoConnects := by
  refine ⟨_, rfl, rfl, rfl, ?_⟩
  rintro ⟨_, throughout⟩
  have oneTick := ((throughout _ rfl).2 _ rfl).oneTick
  exact absurd oneTick (by decide)

end Connection
end Rabb1tClaw
