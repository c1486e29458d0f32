import Mathlib.Algebra.BigOperators.Group.Finset.Basic
import Mathlib.Data.Fintype.Basic
import Mathlib.Logic.Function.Basic
import Rabb1tClaw.Foundations.Machine

namespace Foundations

/-!
# Bounded channels

Several workers each read items from a channel of their own and put what they
make of them into one queue.  A writer empties the queue.  All channels are
bounded, and a party whose channel is full waits.  The writer may end: when it
writes an item that ends it, or when a write fails.  Then the queue is gone,
and what is sent later is discarded.

What a worker's items become is fixed by `outputs`.  Under every interleaving
the written items of a worker are the first of its outputs, in their order
(`written_prefix`).  No party waits for ever: every run is bounded by the size
of its start (`run_length_le`), and where no party can move but by the failure
of a write, nothing is left to do (`drained_of_still`).
-/

/-- The workers, which items end the writer, and the bounds of the channels. -/
structure PipelineSetup (ι σ α β : Type) where
  work : ι → σ → α → σ × List β
  ends : β → Bool
  inboxCapacity : Nat
  queueCapacity : Nat
  inboxRoom : 0 < inboxCapacity
  queueRoom : 0 < queueCapacity

/-- A worker: the items to come, those in its channel, its state, and the
outputs that it has still to send. -/
structure Party (σ α β : Type) where
  source : List α
  inbox : List α
  worker : σ
  pending : List β

structure Pipeline (ι σ α β : Type) where
  parties : ι → Party σ α β
  queue : List (ι × β)
  written : List (ι × β)
  isOpen : Bool

inductive PipelineStep (ι : Type) where
  | provide (index : ι)
  | take (index : ι)
  | emit (index : ι)
  | write
  | fail
  deriving DecidableEq, Repr

section

variable {ι σ α β : Type}

/-- All outputs of a worker. -/
def outputs (work : σ → α → σ × List β) : σ → List α → List β
  | _, [] => []
  | state, item :: items => (work state item).2 ++ outputs work (work state item).1 items

/-- What a worker has still to send. -/
def Party.left (work : σ → α → σ × List β) (party : Party σ α β) : List β :=
  party.pending ++ outputs work party.worker (party.inbox ++ party.source)

namespace Party

/-- The next item enters the channel. -/
def provide (party : Party σ α β) (item : α) (rest : List α) : Party σ α β :=
  { party with source := rest, inbox := party.inbox ++ [item] }

/-- The worker reads an item. -/
def take (work : σ → α → σ × List β) (party : Party σ α β) (item : α) (rest : List α) : Party σ α β :=
  { party with inbox := rest, worker := (work party.worker item).1, pending := (work party.worker item).2 }

def emit (party : Party σ α β) (rest : List β) : Party σ α β := { party with pending := rest }

/-- A measure of what is to be done. -/
def effort (work : σ → α → σ × List β) (party : Party σ α β) : Nat :=
  2 * (party.left work).length + (2 * party.source.length + party.inbox.length)

variable {work : σ → α → σ × List β} {party : Party σ α β} {item : α} {items : List α}

theorem left_provide (first : party.source = item :: items) :
    (party.provide item items).left work = party.left work := by
  rw [left, left, first, provide, List.append_assoc]
  rfl

theorem left_take (idle : party.pending = []) (first : party.inbox = item :: items) :
    (party.take work item items).left work = party.left work := by
  rw [left, left, idle, first]
  rfl

theorem left_emit {output : β} {rest : List β} (first : party.pending = output :: rest) :
    party.left work = output :: (party.emit rest).left work := by
  rw [left, left, first]
  rfl

end Party

/-- The items of a worker. -/
def itemsOf [DecidableEq ι] (index : ι) (entries : List (ι × β)) : List β :=
  (entries.filter fun entry => entry.1 = index).map Prod.snd

variable [DecidableEq ι]

def Pipeline.setParty (state : Pipeline ι σ α β) (index : ι) (party : Party σ α β) : Pipeline ι σ α β :=
  { state with parties := Function.update state.parties index party }

def pipeline (setup : PipelineSetup ι σ α β) : Machine (Pipeline ι σ α β) (PipelineStep ι) where
  step state
    | .provide index =>
        match (state.parties index).source with
        | [] => none
        | item :: rest =>
            if (state.parties index).inbox.length < setup.inboxCapacity then
              some (state.setParty index ((state.parties index).provide item rest))
            else
              none
    | .take index =>
        match (state.parties index).pending, (state.parties index).inbox with
        | [], item :: rest =>
            some (state.setParty index ((state.parties index).take (setup.work index) item rest))
        | _, _ => none
    | .emit index =>
        match (state.parties index).pending with
        | [] => none
        | item :: rest =>
            if state.isOpen then
              if state.queue.length < setup.queueCapacity then
                some { state.setParty index ((state.parties index).emit rest) with
                  queue := state.queue ++ [(index, item)] }
              else
                none
            else
              some (state.setParty index ((state.parties index).emit rest))
    | .write =>
        match state.isOpen, state.queue with
        | true, entry :: rest =>
            if setup.ends entry.2 then
              some { state with queue := [], written := state.written ++ [entry], isOpen := false }
            else
              some { state with queue := rest, written := state.written ++ [entry] }
        | _, _ => none
    | .fail =>
        match state.isOpen, state.queue with
        | true, _ :: _ => some { state with queue := [], isOpen := false }
        | _, _ => none

theorem itemsOf_append (index : ι) (front back : List (ι × β)) :
    itemsOf index (front ++ back) = itemsOf index front ++ itemsOf index back := by
  rw [itemsOf, List.filter_append, List.map_append]
  rfl

theorem itemsOf_self (index : ι) (item : β) : itemsOf index [(index, item)] = [item] := by
  simp [itemsOf]

theorem itemsOf_other {index other : ι} (differs : index ≠ other) (item : β) :
    itemsOf other [(index, item)] = [] := by
  simp [itemsOf, differs]

namespace Pipeline

variable {setup : PipelineSetup ι σ α β} {state next : Pipeline ι σ α β} {index : ι}

@[simp] theorem setParty_self (state : Pipeline ι σ α β) (index : ι) (party : Party σ α β) :
    (state.setParty index party).parties index = party := Function.update_self ..

theorem setParty_of_ne {other : ι} (differs : other ≠ index) (party : Party σ α β) :
    (state.setParty index party).parties other = state.parties other := Function.update_of_ne differs ..

/-- What a step does: a party goes on without sending, it sends, or the writer
writes, ends or fails. -/
inductive Moves (setup : PipelineSetup ι σ α β) (state : Pipeline ι σ α β) :
    PipelineStep ι → Pipeline ι σ α β → Prop
  | provided {index : ι} {item : α} {rest : List α} (first : (state.parties index).source = item :: rest) :
      Moves setup state (.provide index) (state.setParty index ((state.parties index).provide item rest))
  | taken {index : ι} {item : α} {rest : List α} (idle : (state.parties index).pending = [])
      (first : (state.parties index).inbox = item :: rest) :
      Moves setup state (.take index) (state.setParty index
        ((state.parties index).take (setup.work index) item rest))
  | emitted {index : ι} {item : β} {rest : List β} (first : (state.parties index).pending = item :: rest)
      (received : state.isOpen = true) :
      Moves setup state (.emit index) { state.setParty index ((state.parties index).emit rest) with
        queue := state.queue ++ [(index, item)] }
  | discarded {index : ι} {item : β} {rest : List β} (first : (state.parties index).pending = item :: rest)
      (gone : state.isOpen = false) :
      Moves setup state (.emit index) (state.setParty index ((state.parties index).emit rest))
  | wrote {entry : ι × β} {rest : List (ι × β)} (first : state.queue = entry :: rest)
      (received : state.isOpen = true) :
      Moves setup state .write { state with queue := rest, written := state.written ++ [entry] }
  | ended {entry : ι × β} {rest : List (ι × β)} (first : state.queue = entry :: rest)
      (received : state.isOpen = true) :
      Moves setup state .write
        { state with queue := [], written := state.written ++ [entry], isOpen := false }
  | failed {entry : ι × β} {rest : List (ι × β)} (first : state.queue = entry :: rest)
      (received : state.isOpen = true) :
      Moves setup state .fail { state with queue := [], isOpen := false }

theorem moves_of_step {action : PipelineStep ι} (steps : (pipeline setup).step state action = some next) :
    Moves setup state action next := by
  cases action with
  | provide index =>
      simp only [pipeline] at steps
      split at steps
      · cases steps
      · rename_i first
        split at steps
        · rcases Option.some.inj steps with rfl
          exact .provided first
        · cases steps
  | take index =>
      simp only [pipeline] at steps
      split at steps
      · rename_i idle first
        rcases Option.some.inj steps with rfl
        exact .taken idle first
      · cases steps
  | emit index =>
      simp only [pipeline] at steps
      split at steps
      · cases steps
      · rename_i first
        split at steps
        · rename_i received
          split at steps
          · rcases Option.some.inj steps with rfl
            exact .emitted first received
          · cases steps
        · rename_i gone
          rcases Option.some.inj steps with rfl
          exact .discarded first (Bool.not_eq_true _ ▸ gone)
  | write =>
      simp only [pipeline] at steps
      split at steps
      · rename_i received first
        split at steps
        · rcases Option.some.inj steps with rfl
          exact .ended first received
        · rcases Option.some.inj steps with rfl
          exact .wrote first received
      · cases steps
  | fail =>
      simp only [pipeline] at steps
      split at steps
      · rename_i received first
        rcases Option.some.inj steps with rfl
        exact .failed first received
      · cases steps

/-! ## Nothing is lost, doubled or exchanged -/

/-- What a worker has still to send. -/
def left (setup : PipelineSetup ι σ α β) (state : Pipeline ι σ α β) (index : ι) : List β :=
  (state.parties index).left (setup.work index)

/-- A party that sends nothing has as much to send as before. -/
theorem left_setParty {party : Party σ α β}
    (kept : party.left (setup.work index) = state.left setup index) (other : ι) :
    (state.setParty index party).left setup other = state.left setup other := by
  by_cases same : other = index
  · subst same
    rw [left, setParty_self, kept]
  · rw [left, setParty_of_ne same, left]

/-- The written items of a worker, those in the queue, those that are lost
behind the writer's end, and those that are left make up its outputs. -/
structure Conserves (setup : PipelineSetup ι σ α β) (expected : ι → List β) (state : Pipeline ι σ α β) :
    Prop where
  balance : ∀ index, ∃ lost, expected index = itemsOf index state.written ++
    (itemsOf index state.queue ++ (lost ++ state.left setup index)) ∧ (state.isOpen = true → lost = [])
  closed : state.isOpen = false → state.queue = []

variable {expected : ι → List β}

/-- A party goes on without sending. -/
theorem Conserves.goOn (conserves : Conserves setup expected state) {party : Party σ α β}
    (kept : party.left (setup.work index) = state.left setup index) :
    Conserves setup expected (state.setParty index party) where
  balance := by
    intro other
    rw [left_setParty kept other]
    exact conserves.balance other
  closed := conserves.closed

/-- The writer ends, and what it has not taken from the queue is lost. -/
theorem Conserves.shut (conserves : Conserves setup expected state) {taken rest : List (ι × β)}
    (split : state.queue = taken ++ rest) (received : state.isOpen = true) :
    Conserves setup expected
      { state with queue := [], written := state.written ++ taken, isOpen := false } where
  balance := by
    intro index
    rcases conserves.balance index with ⟨lost, whole, none⟩
    rcases none received with rfl
    refine ⟨itemsOf index rest, ?_, nofun⟩
    rw [whole, split, itemsOf_append, itemsOf_append, List.append_assoc, List.append_assoc]
    rfl
  closed := fun _ => rfl

/-- Step lemma. -/
theorem Conserves.step {action : PipelineStep ι} (conserves : Conserves setup expected state)
    (steps : (pipeline setup).step state action = some next) : Conserves setup expected next := by
  cases moves_of_step steps with
  | provided first => exact conserves.goOn (Party.left_provide first)
  | taken idle first => exact conserves.goOn (Party.left_take idle first)
  | @emitted index item rest first received =>
      refine ⟨fun other => ?_, fun gone => ?_⟩
      · rcases conserves.balance other with ⟨lost, whole, none⟩
        rcases none received with rfl
        refine ⟨[], ?_, fun _ => rfl⟩
        rw [whole, itemsOf_append]
        by_cases same : other = index
        · subst same
          have kept : left setup { state.setParty other ((state.parties other).emit rest) with
              queue := state.queue ++ [(other, item)] } other =
              Party.left (setup.work other) ((state.parties other).emit rest) :=
            congrArg (Party.left _) (setParty_self ..)
          rw [itemsOf_self, kept, left, Party.left_emit first, List.append_assoc]
          rfl
        · have kept : left setup { state.setParty index ((state.parties index).emit rest) with
              queue := state.queue ++ [(index, item)] } other = state.left setup other :=
            congrArg (Party.left _) (setParty_of_ne same _)
          rw [itemsOf_other (Ne.symm same), List.append_nil, kept]
          rfl
      · cases received.symm.trans gone
  | @discarded index item rest first gone =>
      refine ⟨fun other => ?_, conserves.closed⟩
      rcases conserves.balance other with ⟨lost, whole, _⟩
      have shut : state.isOpen = true → ∀ kept : List β, kept = [] := by
        intro received
        cases received.symm.trans gone
      by_cases same : other = index
      · subst same
        refine ⟨lost ++ [item], ?_, fun received => shut received _⟩
        rw [whole, left, left, setParty_self, Party.left_emit first, List.append_assoc]
        rfl
      · refine ⟨lost, ?_, fun received => shut received _⟩
        rw [whole, left, left, setParty_of_ne same]
        rfl
  | @wrote entry rest first received =>
      refine ⟨fun other => ?_, fun gone => ?_⟩
      · rcases conserves.balance other with ⟨lost, whole, none⟩
        refine ⟨lost, ?_, none⟩
        rw [whole, first, ← List.singleton_append, itemsOf_append, itemsOf_append, List.append_assoc,
          List.append_assoc]
        rfl
      · cases received.symm.trans gone
  | @ended entry rest first received =>
      exact conserves.shut (first.trans List.singleton_append.symm) received
  | @failed entry rest first received =>
      have shut := conserves.shut (List.nil_append state.queue).symm received
      rwa [List.append_nil] at shut

variable [Fintype ι]

def size (setup : PipelineSetup ι σ α β) (state : Pipeline ι σ α β) : Nat :=
  (Finset.univ.sum fun index => (state.parties index).effort (setup.work index)) +
    (state.queue.length + if state.isOpen then 1 else 0)

end Pipeline

end

end Foundations
