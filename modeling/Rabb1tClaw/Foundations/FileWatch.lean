import Rabb1tClaw.Foundations.Machine

namespace Foundations

/-!
# Watching a file

A watcher keeps what it has loaded from a file and a stamp of the file, which
every write renews.  A check compares the stamp of the file with the recorded
one and loads the file again if they differ.

What a check records is the stamp that it has read before it loads.  A write
in between then makes a difference at the next check, so that the record
vouches for what is kept.  Only the first stamp is recorded after the first
load.  A write between those two goes unnoticed, and is all that can keep the
watcher from converging to the file (`Sound.step`, `recordsLoaded_of_converged`).
-/

/-- A file, if there is one, and the stamps that it had so far. -/
structure StampedFile (τ : Type) where
  current : Option (Nat × τ)
  used : List Nat
  known : ∀ entry ∈ current, entry.1 ∈ used

/-- How a file is read, and how its content is kept. -/
structure Reader (τ ε α μ : Type) where
  parse : τ → Except ε α
  /-- The content when there is no file. -/
  absent : α
  view : μ → α
  start : α → μ
  install : μ → α → μ
  view_start : ∀ content, view (start content) = content
  view_install : ∀ memory content, view (install memory content) = content

/-- What a watcher is about to do, and what it holds. -/
inductive WatchPhase (α μ : Type) where
  | unloaded
  | unrecorded (memory : μ)
  | idle (memory : μ) (recorded : Option Nat)
  | changed (memory : μ) (recorded stamp : Option Nat)
  | loaded (memory : μ) (recorded stamp : Option Nat) (content : α)
  | installed (memory : μ) (stamp : Option Nat)

structure Watch (τ α μ : Type) where
  file : StampedFile τ
  phase : WatchPhase α μ

inductive WatchStep (τ : Type) where
  | write (stamp : Nat) (text : τ)
  | advance

variable {τ ε α μ : Type}

namespace StampedFile

def stamp (file : StampedFile τ) : Option Nat := file.current.map Prod.fst

/-- The file after a write. -/
def write (file : StampedFile τ) (stamp : Nat) (text : τ) : StampedFile τ where
  current := some (stamp, text)
  used := stamp :: file.used
  known := by
    rintro entry ⟨⟩
    exact List.mem_cons_self

end StampedFile

namespace Reader

variable (reader : Reader τ ε α μ)

def load (file : StampedFile τ) : Except ε α :=
  match file.current with
  | none => .ok reader.absent
  | some (_, text) => reader.parse text

/-- The next step of a watcher.  It stops if the first load fails, and keeps
what it has if a later one does. -/
def advance (file : StampedFile τ) : WatchPhase α μ → Option (WatchPhase α μ)
  | .unloaded =>
      match reader.load file with
      | .ok content => some (.unrecorded (reader.start content))
      | .error _ => none
  | .unrecorded memory => some (.idle memory file.stamp)
  | .idle memory recorded =>
      if file.stamp = recorded then some (.idle memory recorded)
      else some (.changed memory recorded file.stamp)
  | .changed memory recorded stamp =>
      match reader.load file with
      | .ok content => some (.loaded memory recorded stamp content)
      | .error _ => some (.idle memory recorded)
  | .loaded memory _ stamp content => some (.installed (reader.install memory content) stamp)
  | .installed memory stamp => some (.idle memory stamp)

/-- A writer uses a new stamp and writes what can be read. -/
def watch : Machine (Watch τ α μ) (WatchStep τ) where
  step watch
    | .write stamp text =>
        if !watch.file.used.contains stamp && (reader.parse text).isOk then
          some { watch with file := watch.file.write stamp text }
        else
          none
    | .advance => (reader.advance watch.file watch.phase).map fun phase => { watch with phase }

/-- A check that finds the stamp unchanged is right to do so. -/
def Converged (watch : Watch τ α μ) : Prop :=
  ∀ memory recorded, watch.phase = .idle memory recorded → watch.file.stamp = recorded →
    reader.load watch.file = .ok (reader.view memory)

/-- When the first stamp is recorded, the file still has the content that was
loaded. -/
def RecordsLoaded (watch : Watch τ α μ) : WatchStep τ → Prop
  | .write _ _ => True
  | .advance => ∀ memory, watch.phase = .unrecorded memory →
      reader.load watch.file = .ok (reader.view memory)

/-! ## What a stamp vouches for -/

/-- The stamp is none to come. -/
def Seen (file : StampedFile τ) (stamp : Option Nat) : Prop := ∀ known ∈ stamp, known ∈ file.used

/-- As long as the file has the stamp, it has the content. -/
structure Vouches (file : StampedFile τ) (stamp : Option Nat) (content : α) : Prop where
  seen : Seen file stamp
  content : file.stamp = stamp → reader.load file = .ok content

variable {reader} {file : StampedFile τ} {stamp : Option Nat} {content : α}

theorem seen_stamp (file : StampedFile τ) : Seen file file.stamp := by
  intro known present
  rcases Option.map_eq_some_iff.mp present with ⟨entry, current, rfl⟩
  exact file.known entry current

theorem Seen.write (seen : Seen file stamp) (fresh : Nat) (text : τ) :
    Seen (file.write fresh text) stamp :=
  fun known present => List.mem_cons_of_mem fresh (seen known present)

/-- A write renews the stamp. -/
theorem Vouches.write (vouches : reader.Vouches file stamp content) {fresh : Nat}
    (unused : fresh ∉ file.used) (text : τ) : reader.Vouches (file.write fresh text) stamp content where
  seen := vouches.seen.write fresh text
  content := fun same => absurd (vouches.seen fresh same.symm) unused

/-- A stamp that is read before the content vouches for it. -/
theorem Seen.vouches (seen : Seen file stamp) (loads : reader.load file = .ok content) :
    reader.Vouches file stamp content := ⟨seen, fun _ => loads⟩

/-! ## Runs -/

/-- What the stamps of a phase vouch for. -/
def PhaseSound (reader : Reader τ ε α μ) (file : StampedFile τ) : WatchPhase α μ → Prop
  | .unloaded | .unrecorded _ => True
  | .idle memory recorded => reader.Vouches file recorded (reader.view memory)
  | .changed _ _ stamp => Seen file stamp
  | .loaded _ _ stamp content => reader.Vouches file stamp content
  | .installed memory stamp => reader.Vouches file stamp (reader.view memory)

theorem PhaseSound.write {phase : WatchPhase α μ} (sound : PhaseSound reader file phase) {fresh : Nat}
    (unused : fresh ∉ file.used) (text : τ) : PhaseSound reader (file.write fresh text) phase := by
  cases phase with
  | unloaded | unrecorded memory => trivial
  | idle memory recorded => exact Vouches.write sound unused text
  | changed memory recorded stamp => exact Seen.write sound fresh text
  | loaded memory recorded stamp content => exact Vouches.write sound unused text
  | installed memory stamp => exact Vouches.write sound unused text

theorem loaded_of_advance {next : WatchPhase α μ} (advances : reader.advance file .unloaded = some next) :
    ∃ content, reader.load file = .ok content ∧ next = .unrecorded (reader.start content) := by
  rw [Reader.advance] at advances
  split at advances
  · rename_i content loads
    exact ⟨content, loads, (Option.some.inj advances).symm⟩
  · cases advances

/-- Only the first stamp needs a condition to vouch for what was loaded. -/
theorem PhaseSound.advance {phase next : WatchPhase α μ} (sound : PhaseSound reader file phase)
    (readable : phase = .unloaded ∨ ∃ content, reader.load file = .ok content)
    (records : ∀ memory, phase = .unrecorded memory → reader.load file = .ok (reader.view memory))
    (advances : reader.advance file phase = some next) : PhaseSound reader file next := by
  cases phase with
  | unloaded =>
      rcases loaded_of_advance advances with ⟨content, _, rfl⟩
      trivial
  | unrecorded memory =>
      rcases Option.some.inj advances with rfl
      exact (seen_stamp file).vouches (records memory rfl)
  | idle memory recorded =>
      rw [Reader.advance] at advances
      split at advances
      · rcases Option.some.inj advances with rfl
        exact sound
      · rcases Option.some.inj advances with rfl
        exact seen_stamp file
  | changed memory recorded stamp =>
      rcases readable with ⟨⟨⟩⟩ | ⟨content, loads⟩
      rw [Reader.advance, loads] at advances
      rcases Option.some.inj advances with rfl
      exact Seen.vouches sound loads
  | loaded memory recorded stamp content =>
      rcases Option.some.inj advances with rfl
      rw [PhaseSound, reader.view_install]
      exact sound
  | installed memory stamp =>
      rcases Option.some.inj advances with rfl
      exact sound

/-- A file that was loaded can be read, and the stamps vouch for what they
should. -/
structure Sound (reader : Reader τ ε α μ) (watch : Watch τ α μ) : Prop where
  readable : watch.phase = .unloaded ∨ ∃ content, reader.load watch.file = .ok content
  phase : PhaseSound reader watch.file watch.phase

theorem Sound.converged {watch : Watch τ α μ} (sound : Sound reader watch) : reader.Converged watch := by
  intro memory recorded idle same
  have phase := sound.phase
  rw [idle] at phase
  exact phase.content same

theorem sound_unloaded (reader : Reader τ ε α μ) (file : StampedFile τ) :
    Sound reader (⟨file, .unloaded⟩ : Watch τ α μ) := ⟨.inl rfl, trivial⟩

theorem Sound.step {watch next : Watch τ α μ} {action : WatchStep τ} (sound : Sound reader watch)
    (records : reader.RecordsLoaded watch action) (steps : reader.watch.step watch action = some next) :
    Sound reader next := by
  cases action with
  | write fresh text =>
      rcases Option.ite_none_right_eq_some.mp steps with ⟨allowed, same⟩
      rcases Option.some.inj same with rfl
      rcases (Bool.and_eq_true _ _).mp allowed with ⟨unused, parses⟩
      rw [Bool.not_eq_true', ← Bool.not_eq_true, List.contains_iff_mem] at unused
      refine ⟨.inr ?_, sound.phase.write unused text⟩
      cases parsed : reader.parse text with
      | error problem =>
          rw [parsed] at parses
          cases parses
      | ok content => exact ⟨content, parsed⟩
  | advance =>
      rcases Option.map_eq_some_iff.mp steps with ⟨phase, advances, rfl⟩
      refine ⟨.inr ?_, sound.phase.advance sound.readable records advances⟩
      rcases sound.readable with unloaded | readable
      · rw [unloaded] at advances
        rcases loaded_of_advance advances with ⟨content, loads, _⟩
        exact ⟨content, loads⟩
      · exact readable

/-- A watcher that has converged after a step recorded the stamp of what it
had loaded. -/
theorem recordsLoaded_of_converged {watch next : Watch τ α μ} {action : WatchStep τ}
    (steps : reader.watch.step watch action = some next) (converged : reader.Converged next) :
    reader.RecordsLoaded watch action := by
  cases action with
  | write fresh text => trivial
  | advance =>
      intro memory unrecorded
      rcases Option.map_eq_some_iff.mp steps with ⟨phase, advances, rfl⟩
      rw [unrecorded] at advances
      rcases Option.some.inj advances with rfl
      exact converged memory watch.file.stamp rfl rfl

end Reader

end Foundations
