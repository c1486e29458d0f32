import Mathlib.Data.List.Nodup
import Mathlib.Logic.Function.Basic
import Rabb1tClaw.Foundations.Machine

namespace Foundations

/-!
# A cell that is read and written back

Calls share a cell without a lock.  Each reads the content at some moment, and
later writes an update of what it has read.  A call that has read holds a
snapshot, and a write of another call makes the snapshot stale.

As long as no call writes from a stale snapshot, the cell holds what it would
hold if the calls had been made one after the other, in the order in which
they complete (`content_of_undisturbed`).
-/

/-- What a call has read, and how many calls had completed by then. -/
structure Snapshot (κ : Type) where
  content : κ
  seen : Nat
  deriving DecidableEq, Repr

/-- The content, the snapshots of the calls in progress, and the completed
calls in the order of their writes. -/
structure Cell (κ : Type) where
  content : κ
  held : Nat → Option (Snapshot κ)
  completed : List Nat

inductive CellStep where
  | read (call : Nat)
  | write (call : Nat)
  deriving DecidableEq, Repr

section

variable {κ : Type}

/-- No call is in progress or completed. -/
def Cell.start (content : κ) : Cell κ := ⟨content, fun _ => none, []⟩

/-- Each call reads once and then writes once. -/
def sharedCell (update : κ → Nat → κ) : Machine (Cell κ) CellStep where
  step cell
    | .read call =>
        if (cell.held call).isNone && !cell.completed.contains call then
          some { cell with
            held := Function.update cell.held call (some ⟨cell.content, cell.completed.length⟩) }
        else
          none
    | .write call =>
        (cell.held call).map fun snapshot =>
          ⟨update snapshot.content call, Function.update cell.held call none, cell.completed ++ [call]⟩

namespace Cell

variable {update : κ → Nat → κ} {cell next : Cell κ} {call : Nat}

theorem read_cases (steps : (sharedCell update).step cell (.read call) = some next) :
    cell.held call = none ∧ call ∉ cell.completed ∧
      next = { cell with
        held := Function.update cell.held call (some ⟨cell.content, cell.completed.length⟩) } := by
  rcases Option.ite_none_right_eq_some.mp steps with ⟨allowed, same⟩
  rcases Bool.and_eq_true_iff.mp allowed with ⟨free, fresh⟩
  refine ⟨Option.isNone_iff_eq_none.mp free, ?_, (Option.some.inj same).symm⟩
  rwa [Bool.not_eq_true', ← Bool.not_eq_true, List.contains_iff_mem] at fresh

theorem write_cases (steps : (sharedCell update).step cell (.write call) = some next) :
    ∃ snapshot, cell.held call = some snapshot ∧
      next = ⟨update snapshot.content call, Function.update cell.held call none,
        cell.completed ++ [call]⟩ := by
  rcases Option.map_eq_some_iff.mp steps with ⟨snapshot, holds, same⟩
  exact ⟨snapshot, holds, same.symm⟩

/-- A call completes once, and a snapshot after whose reading no call has
completed is what the cell holds. -/
structure Sound (cell : Cell κ) : Prop where
  distinct : cell.completed.Nodup
  waiting : ∀ call snapshot, cell.held call = some snapshot → call ∉ cell.completed
  earlier : ∀ call snapshot, cell.held call = some snapshot → snapshot.seen ≤ cell.completed.length
  fresh : ∀ call snapshot, cell.held call = some snapshot →
    snapshot.seen = cell.completed.length → snapshot.content = cell.content

theorem sound_start (content : κ) : (start content).Sound where
  distinct := List.nodup_nil
  waiting := by rintro call snapshot ⟨⟩
  earlier := by rintro call snapshot ⟨⟩
  fresh := by rintro call snapshot ⟨⟩

theorem Sound.read (sound : cell.Sound) (steps : (sharedCell update).step cell (.read call) = some next) :
    next.Sound := by
  rcases read_cases steps with ⟨_, absent, rfl⟩
  have origin : ∀ {other snapshot}, Function.update cell.held call
      (some ⟨cell.content, cell.completed.length⟩) other = some snapshot →
      (other = call ∧ snapshot = ⟨cell.content, cell.completed.length⟩) ∨
        cell.held other = some snapshot := by
    intro other snapshot holds
    rcases update_eq_cases holds with ⟨same, new⟩ | ⟨_, before⟩
    · exact .inl ⟨same, Option.some.inj new⟩
    · exact .inr before
  refine ⟨sound.distinct, ?_, ?_, ?_⟩
  · intro other snapshot holds
    rcases origin holds with ⟨rfl, _⟩ | before
    · exact absent
    · exact sound.waiting other snapshot before
  · intro other snapshot holds
    rcases origin holds with ⟨_, rfl⟩ | before
    · exact Nat.le_refl _
    · exact sound.earlier other snapshot before
  · intro other snapshot holds current
    rcases origin holds with ⟨_, rfl⟩ | before
    · rfl
    · exact sound.fresh other snapshot before current

theorem Sound.write (sound : cell.Sound)
    (steps : (sharedCell update).step cell (.write call) = some next) : next.Sound := by
  rcases write_cases steps with ⟨snapshot, holds, rfl⟩
  have origin : ∀ {other kept}, Function.update cell.held call none other = some kept →
      other ≠ call ∧ cell.held other = some kept := by
    intro other kept held
    rcases update_eq_cases held with ⟨_, gone⟩ | before
    · cases gone
    · exact before
  refine ⟨?_, ?_, ?_, ?_⟩
  · exact sound.distinct.append (List.nodup_singleton call) fun other member last =>
      sound.waiting call snapshot holds (List.mem_singleton.mp last ▸ member)
  · intro other kept held member
    rcases origin held with ⟨differs, before⟩
    rcases List.mem_append.mp member with earlier | last
    · exact sound.waiting other kept before earlier
    · exact differs (List.mem_singleton.mp last)
  · intro other kept held
    rw [List.length_append]
    exact Nat.le_trans (sound.earlier other kept (origin held).2) (Nat.le_add_right _ _)
  · intro other kept held current
    have before := sound.earlier other kept (origin held).2
    rw [List.length_append, List.length_singleton] at current
    omega

theorem Sound.step {action : CellStep} (sound : cell.Sound)
    (steps : (sharedCell update).step cell action = some next) : next.Sound := by
  cases action with
  | read call => exact sound.read steps
  | write call => exact sound.write steps

/-- No call completes between the read and the write of a call. -/
def Undisturbed (cell : Cell κ) : CellStep → Prop
  | .read _ => True
  | .write call => ∀ snapshot ∈ cell.held call, snapshot.seen = cell.completed.length

instance (cell : Cell κ) : (action : CellStep) → Decidable (cell.Undisturbed action)
  | .read _ => isTrue trivial
  | .write call =>
      inferInstanceAs (Decidable (∀ snapshot ∈ cell.held call, snapshot.seen = cell.completed.length))

/-- The calls had the effect of calls made one after the other. -/
structure Serial (update : κ → Nat → κ) (initial : κ) (cell : Cell κ) : Prop where
  sound : cell.Sound
  content : cell.content = cell.completed.foldl update initial

theorem serial_start (update : κ → Nat → κ) (initial : κ) : Serial update initial (start initial) :=
  ⟨sound_start initial, rfl⟩

theorem Serial.step {initial : κ} {action : CellStep} (serial : Serial update initial cell)
    (undisturbed : cell.Undisturbed action) (steps : (sharedCell update).step cell action = some next) :
    Serial update initial next := by
  refine ⟨serial.sound.step steps, ?_⟩
  cases action with
  | read call =>
      rcases read_cases steps with ⟨_, _, rfl⟩
      exact serial.content
  | write call =>
      rcases write_cases steps with ⟨snapshot, holds, rfl⟩
      rw [List.foldl_append, ← serial.content,
        ← serial.sound.fresh call snapshot holds (undisturbed snapshot holds)]
      rfl

end Cell

end

end Foundations
