import Rabb1tClaw.Config.SecureWrite
import Rabb1tClaw.Foundations.Machine

namespace Rabb1tClaw
namespace Config

open Foundations

/-!
# Secure writes side by side

The server and the command line write the same files, several calls at a time,
and either may be stopped between any two steps.  `secureWrites` is the machine
of all these calls, with the files as every step leaves them.

Each call has a staging file of its own, and touches its target in one step.
So a reader finds at any moment what the calls that have come to their rename
would leave if each were made at once, in this order (`writes_in_order`).
-/

/-- A call of `write_secure`, with the name it draws and the mode of the files
that the process creates. -/
structure SecureCall where
  path : FilePath
  content : List UInt8
  uuid : Text
  createMode : Nat
  deriving DecidableEq, Repr

inductive WritePhase where
  | called
  /-- The directory is there. -/
  | made
  | created
  /-- Only the owner can read the staging file, and so much is written. -/
  | writing (written : Nat)
  | flushed
  /-- Staging has failed, and the staging file is not yet removed. -/
  | broken (error : Text)
  | replaced
  | succeeded
  | failed (error : Text)
  /-- The process has ended. -/
  | lost
  deriving DecidableEq, Repr

/-- A step of a call; which of two it is depends on the operating system. -/
inductive WriteMove where
  | makeDir
  | failDir (depth : Nat)
  | create
  | failCreate
  | secure
  | failSecure
  | write (count : Nat)
  | failWrite
  | sync
  | failSync
  | discard (removes : Bool)
  | rename
  | failRename
  | finish
  deriving DecidableEq, Repr

namespace WritePhase

/-- The call has returned, or will not. -/
def ended : WritePhase → Bool
  | succeeded | failed _ | lost => true
  | _ => false

/-- The target is replaced, and the call returns that it is. -/
def effective : WritePhase → Bool
  | replaced | succeeded => true
  | _ => false

end WritePhase

namespace SecureCall

def dir (call : SecureCall) : FilePath := directoryOf call.path

def tmp (call : SecureCall) : FilePath := stagingPath call.path call.uuid

/-- One step of `write_secure`. -/
def move (call : SecureCall) (files : FileSystem) (phase : WritePhase) :
    WriteMove → Option (FileSystem × WritePhase)
  | .makeDir =>
      let made := files.makeDirectories call.dir call.dir.length
      if phase = .called ∧ made call.dir = some .directory then some (made, .made) else none
  | .failDir depth =>
      if phase = .called then
        some (files.makeDirectories call.dir depth, .failed ("Failed to create dir ".toList ++ display call.dir))
      else none
  | .create =>
      if phase = .made ∧ files call.dir = some .directory ∧ files call.tmp ≠ some .directory then
        some (files.create call.tmp call.createMode, .created)
      else none
  | .failCreate =>
      if phase = .made then some (files, .broken ("Failed to create ".toList ++ display call.tmp)) else none
  | .secure =>
      if phase = .created then some (files.setMode call.tmp secureMode, .writing 0) else none
  | .failSecure =>
      if phase = .created then some (files, .broken ("Failed to secure ".toList ++ display call.tmp)) else none
  | .write count =>
      match phase with
      | .writing written =>
          some (files.write call.tmp (call.content.take (written + count)), .writing (written + count))
      | _ => none
  | .failWrite =>
      match phase with
      | .writing _ => some (files, .broken ("Failed to write ".toList ++ display call.tmp))
      | _ => none
  | .sync =>
      match phase with
      | .writing written => if call.content.length ≤ written then some (files, .flushed) else none
      | _ => none
  | .failSync =>
      match phase with
      | .writing written =>
          if call.content.length ≤ written then
            some (files, .broken ("Failed to flush ".toList ++ display call.tmp))
          else none
      | _ => none
  | .discard removes =>
      match phase with
      | .broken error => some (if removes then files.remove call.tmp else files, .failed error)
      | _ => none
  | .rename =>
      if phase = .flushed ∧ files call.dir = some .directory ∧ files call.path ≠ some .directory then
        some (files.rename call.tmp call.path, .replaced)
      else none
  | .failRename =>
      if phase = .flushed then some (files, .failed ("Failed to replace ".toList ++ display call.path)) else none
  | .finish => if phase = .replaced then some (files, .succeeded) else none

end SecureCall

structure Writer where
  call : SecureCall
  phase : WritePhase
  deriving DecidableEq, Repr

/-- The process of a call ends. -/
def Writer.stop (writer : Writer) : Writer := if writer.phase.ended then writer else { writer with phase := .lost }

structure Disk where
  files : FileSystem
  writers : List Writer
  /-- The calls that have come to their rename, in this order. -/
  replaced : List (Nat × SecureCall)

inductive DiskStep where
  | begin (call : SecureCall)
  | move (index : Nat) (move : WriteMove)
  /-- The processes of some calls end. -/
  | crash (stopped : List Nat)
  deriving DecidableEq, Repr

namespace Disk

def start (files : FileSystem) : Disk := ⟨files, [], []⟩

def moved (disk : Disk) (index : Nat) (call : SecureCall) (move : WriteMove) (files : FileSystem)
    (phase : WritePhase) : Disk where
  files := files
  writers := disk.writers.set index ⟨call, phase⟩
  replaced := if move = .rename then disk.replaced ++ [(index, call)] else disk.replaced

def crash (disk : Disk) (stopped : List Nat) : Disk :=
  { disk with writers := disk.writers.mapIdx fun index writer =>
      if index ∈ stopped then writer.stop else writer }

end Disk

def secureWrites : Machine Disk DiskStep where
  step disk
    | .begin call => some { disk with writers := disk.writers ++ [⟨call, .called⟩] }
    | .move index move =>
        disk.writers[index]?.bind fun writer =>
          (writer.call.move disk.files writer.phase move).map fun after =>
            disk.moved index writer.call move after.1 after.2
    | .crash stopped => some (disk.crash stopped)

/-- The files after writes that are each made at once. -/
def replay (files : FileSystem) (calls : List (Nat × SecureCall)) : FileSystem :=
  calls.foldl (fun files call => Function.update files call.2.path (some (.file call.2.content secureMode))) files

namespace SecureCall

/-- The staging files differ, and neither is in the way of the other call. -/
structure Apart (call other : SecureCall) : Prop where
  staging : call.tmp ≠ other.tmp
  target : call.tmp ≠ other.path
  outside : ¬ call.tmp <+: other.dir

instance (call other : SecureCall) : Decidable (call.Apart other) :=
  decidable_of_iff (call.tmp ≠ other.tmp ∧ call.tmp ≠ other.path ∧ ¬ call.tmp <+: other.dir)
    ⟨fun apart => ⟨apart.1, apart.2.1, apart.2.2⟩, fun apart => ⟨apart.1, apart.2, apart.3⟩⟩

end SecureCall

namespace Disk

/-- The name that a call draws is new. -/
def Fresh (disk : Disk) : DiskStep → Prop
  | .begin call => ∀ writer ∈ disk.writers, call.Apart writer.call ∧ writer.call.Apart call
  | _ => True

instance (disk : Disk) : (step : DiskStep) → Decidable (disk.Fresh step)
  | .begin call =>
      inferInstanceAs (Decidable (∀ writer ∈ disk.writers, call.Apart writer.call ∧ writer.call.Apart call))
  | .move _ _ | .crash _ => isTrue trivial

end Disk

/-- What is known of the staging file. -/
def WritePhase.Stages (files : FileSystem) (call : SecureCall) : WritePhase → Prop
  | created => ∃ mode, files call.tmp = some (.file [] mode)
  | writing written => files call.tmp = some (.file (call.content.take written) secureMode)
  | flushed => files call.tmp = some (.file call.content secureMode)
  | replaced | succeeded => files call.tmp = none
  | called | made | broken _ | failed _ | lost => True

/-! ## What a step does -/

/-- A step touches the staging file, makes directories where nothing was, and
renames. -/
structure Moved (call : SecureCall) (files : FileSystem) (phase : WritePhase) (move : WriteMove)
    (after : FileSystem) (next : WritePhase) : Prop where
  going : phase.ended = false
  stages : phase.Stages files call → next.Stages after call
  keeps : ∀ path, path ≠ call.tmp → (move = .rename → path ≠ call.path) → ¬ path <+: call.dir →
    after path = files path
  fileAt : ∀ path, path ≠ call.tmp → (move = .rename → path ≠ call.path) →
    after.fileAt path = files.fileAt path
  stays : ∀ path, path ≠ call.tmp → (move = .rename → path ≠ call.path) → files path ≠ none →
    after path = files path
  renames : move = .rename → phase = .flushed ∧ files call.dir = some .directory ∧
    after call.path = files call.tmp
  effective : next.effective = true ↔ phase.effective = true ∨ move = .rename

section

variable {call : SecureCall} {files after : FileSystem} {phase next : WritePhase} {move : WriteMove}

/-- A step that changes nothing but the staging file. -/
theorem moved_of_staging (going : phase.ended = false) (stages : phase.Stages files call → next.Stages after call)
    (others : ∀ path, path ≠ call.tmp → after path = files path) (plain : move ≠ .rename)
    (effective : next.effective = phase.effective) : Moved call files phase move after next where
  going := going
  stages := stages
  keeps := fun path differs _ _ => others path differs
  fileAt := fun path differs _ => FileSystem.fileAt_congr (others path differs)
  stays := fun path differs _ _ => others path differs
  renames := fun renames => absurd renames plain
  effective := by rw [effective, or_iff_left plain]

/-- A step that makes directories. -/
theorem moved_of_directories (going : phase.ended = false) (depth : Nat)
    (stages : phase.Stages files call → next.Stages (files.makeDirectories call.dir depth) call)
    (plain : move ≠ .rename) (effective : next.effective = phase.effective) :
    Moved call files phase move (files.makeDirectories call.dir depth) next where
  going := going
  stages := stages
  keeps := fun _ _ _ outside => FileSystem.makeDirectories_other outside depth
  fileAt := fun path _ _ => FileSystem.fileAt_makeDirectories files call.dir depth path
  stays := fun _ _ _ present => FileSystem.makeDirectories_of_ne_none present depth
  renames := fun renames => absurd renames plain
  effective := by rw [effective, or_iff_left plain]

theorem moved_rename (directory : files call.dir = some .directory) :
    Moved call files .flushed .rename (files.rename call.tmp call.path) .replaced where
  going := rfl
  stages := fun _ => FileSystem.rename_source (stagingPath_ne call.path call.uuid)
  keeps := fun _ fromSource fromTarget _ => FileSystem.rename_other fromSource (fromTarget rfl)
  fileAt := fun _ fromSource fromTarget =>
    FileSystem.fileAt_congr (FileSystem.rename_other fromSource (fromTarget rfl))
  stays := fun _ fromSource fromTarget _ => FileSystem.rename_other fromSource (fromTarget rfl)
  renames := fun _ => ⟨rfl, directory, FileSystem.rename_target files call.tmp call.path⟩
  effective := iff_of_true rfl (.inr rfl)

theorem moved_of_move (moves : call.move files phase move = some (after, next)) :
    Moved call files phase move after next := by
  cases move with
  | makeDir =>
      rcases Option.ite_none_right_eq_some.mp moves with ⟨⟨rfl, _⟩, same⟩
      cases same
      exact moved_of_directories rfl _ (fun _ => trivial) (by simp) rfl
  | failDir depth =>
      rcases Option.ite_none_right_eq_some.mp moves with ⟨rfl, same⟩
      cases same
      exact moved_of_directories rfl depth (fun _ => trivial) (by simp) rfl
  | create =>
      rcases Option.ite_none_right_eq_some.mp moves with ⟨⟨rfl, _⟩, same⟩
      cases same
      exact moved_of_staging rfl (fun _ => FileSystem.create_self files call.tmp call.createMode)
        (fun path differs => FileSystem.create_other differs _) (by simp) rfl
  | failCreate =>
      rcases Option.ite_none_right_eq_some.mp moves with ⟨rfl, same⟩
      cases same
      exact moved_of_staging rfl (fun _ => trivial) (fun _ _ => rfl) (by simp) rfl
  | secure =>
      rcases Option.ite_none_right_eq_some.mp moves with ⟨rfl, same⟩
      cases same
      refine moved_of_staging rfl ?_ (fun path differs => FileSystem.setMode_other differs _) (by simp) rfl
      rintro ⟨mode, created⟩
      exact FileSystem.setMode_self created secureMode
  | failSecure =>
      rcases Option.ite_none_right_eq_some.mp moves with ⟨rfl, same⟩
      cases same
      exact moved_of_staging rfl (fun _ => trivial) (fun _ _ => rfl) (by simp) rfl
  | write count =>
      cases phase with
      | writing written =>
          rcases Option.some.inj moves with ⟨⟩
          exact moved_of_staging rfl (fun staged => FileSystem.write_self staged _)
            (fun path differs => FileSystem.write_other differs _) (by simp) rfl
      | _ => cases moves
  | failWrite =>
      cases phase with
      | writing written =>
          rcases Option.some.inj moves with ⟨⟩
          exact moved_of_staging rfl (fun _ => trivial) (fun _ _ => rfl) (by simp) rfl
      | _ => cases moves
  | sync =>
      cases phase with
      | writing written =>
          rcases Option.ite_none_right_eq_some.mp moves with ⟨whole, same⟩
          cases same
          refine moved_of_staging rfl (fun staged => ?_) (fun _ _ => rfl) (by simp) rfl
          rw [WritePhase.Stages, List.take_of_length_le whole] at staged
          exact staged
      | _ => cases moves
  | failSync =>
      cases phase with
      | writing written =>
          rcases Option.ite_none_right_eq_some.mp moves with ⟨_, same⟩
          cases same
          exact moved_of_staging rfl (fun _ => trivial) (fun _ _ => rfl) (by simp) rfl
      | _ => cases moves
  | discard removes =>
      cases phase with
      | broken error =>
          rcases Option.some.inj moves with ⟨⟩
          refine moved_of_staging rfl (fun _ => trivial) (fun path differs => ?_) (by simp) rfl
          cases removes with
          | true => exact FileSystem.remove_other differs
          | false => rfl
      | _ => cases moves
  | rename =>
      rcases Option.ite_none_right_eq_some.mp moves with ⟨⟨rfl, directory, _⟩, same⟩
      cases same
      exact moved_rename directory
  | failRename =>
      rcases Option.ite_none_right_eq_some.mp moves with ⟨rfl, same⟩
      cases same
      exact moved_of_staging rfl (fun _ => trivial) (fun _ _ => rfl) (by simp) rfl
  | finish =>
      rcases Option.ite_none_right_eq_some.mp moves with ⟨rfl, same⟩
      cases same
      exact moved_of_staging rfl id (fun _ _ => rfl) (by simp) rfl

end

namespace Disk

section

variable {disk next : Disk}

/-- A step of a writer. -/
theorem move_cases {index : Nat} {move : WriteMove}
    (steps : secureWrites.step disk (.move index move) = some next) :
    ∃ call phase files after, disk.writers[index]? = some ⟨call, phase⟩ ∧
      Moved call disk.files phase move files after ∧ next = disk.moved index call move files after := by
  rcases Option.bind_eq_some_iff.mp steps with ⟨⟨call, phase⟩, found, moves⟩
  rcases Option.map_eq_some_iff.mp moves with ⟨⟨files, after⟩, moved, rfl⟩
  exact ⟨call, phase, files, after, found, moved_of_move moved, rfl⟩

/-! ## The writers -/

theorem concat_cases {α : Type} {items : List α} {item added : α} {index : Nat}
    (found : (items ++ [added])[index]? = some item) :
    items[index]? = some item ∨ (index = items.length ∧ item = added) := by
  rw [List.getElem?_append] at found
  split at found
  · exact .inl found
  · rename_i behind
    rcases List.getElem?_eq_some_iff.mp found with ⟨bound, same⟩
    rw [List.length_singleton] at bound
    refine .inr ⟨by omega, ?_⟩
    rw [← same, List.getElem_singleton]

theorem writer_set {writers : List Writer} {writer changed : Writer} {index other : Nat}
    (found : (writers.set index changed)[other]? = some writer) :
    (other = index ∧ writer = changed) ∨ (other ≠ index ∧ writers[other]? = some writer) := by
  rw [List.getElem?_set] at found
  split at found
  · rename_i same
    split at found
    · exact .inl ⟨same.symm, (Option.some.inj found).symm⟩
    · cases found
  · rename_i differs
    exact .inr ⟨fun same => differs same.symm, found⟩

/-- A crash keeps the call, and the phase or loses it. -/
theorem writer_crash {stopped : List Nat} {index : Nat} {writer : Writer}
    (found : (disk.crash stopped).writers[index]? = some writer) :
    ∃ before, disk.writers[index]? = some before ∧ writer.call = before.call ∧
      (writer.phase = before.phase ∨ writer.phase = .lost) := by
  rw [crash, List.getElem?_mapIdx] at found
  rcases Option.map_eq_some_iff.mp found with ⟨before, present, rfl⟩
  refine ⟨before, present, ?_⟩
  split
  · rw [Writer.stop]
    split
    · exact ⟨rfl, .inl rfl⟩
    · exact ⟨rfl, .inr rfl⟩
  · exact ⟨rfl, .inl rfl⟩

theorem writer_of_crash (stopped : List Nat) {index : Nat} {before : Writer}
    (found : disk.writers[index]? = some before) :
    ∃ phase, (disk.crash stopped).writers[index]? = some ⟨before.call, phase⟩ ∧
      (phase = before.phase ∨ phase = .lost) := by
  have there : (disk.crash stopped).writers[index]? = some (if index ∈ stopped then before.stop else before) := by
    rw [crash, List.getElem?_mapIdx, found]
    rfl
  rcases writer_crash there with ⟨before', found', call, phase⟩
  rcases Option.some.inj (found.symm.trans found') with rfl
  refine ⟨_, there.trans (congrArg some ?_), phase⟩
  rw [← call]

/-! ## Files and calls belong together -/

/-- The files are those of the renames in their order, except for the staging
files, and these are as far as their calls. -/
structure Sound (initial : FileSystem) (disk : Disk) : Prop where
  apart : ∀ (index other : Nat) (writer writer' : Writer), disk.writers[index]? = some writer →
    disk.writers[other]? = some writer' → index ≠ other → writer.call.Apart writer'.call
  stages : ∀ (index : Nat) (writer : Writer), disk.writers[index]? = some writer →
    writer.phase.Stages disk.files writer.call
  files : ∀ path, (∀ writer ∈ disk.writers, path ≠ writer.call.tmp) →
    disk.files.fileAt path = (replay initial disk.replaced).fileAt path
  once : (disk.replaced.map Prod.fst).Nodup
  known : ∀ entry ∈ disk.replaced, ∃ phase, disk.writers[entry.1]? = some ⟨entry.2, phase⟩ ∧
    (phase.effective = true ∨ phase = .lost)
  effective : ∀ (index : Nat) (writer : Writer), disk.writers[index]? = some writer →
    writer.phase.effective = true → (index, writer.call) ∈ disk.replaced

theorem sound_start (files : FileSystem) : (start files).Sound files where
  apart := by rintro index other writer writer' ⟨⟩
  stages := by rintro index writer ⟨⟩
  files := fun _ _ => rfl
  once := .nil
  known := by rintro entry ⟨⟩
  effective := by rintro index writer ⟨⟩

/-- A phase asks for the staging file only. -/
theorem stages_congr {call : SecureCall} {files after : FileSystem} {phase : WritePhase}
    (same : after call.tmp = files call.tmp) (staged : phase.Stages files call) : phase.Stages after call := by
  cases phase with
  | called | made | broken | failed | lost => trivial
  | created =>
      rcases staged with ⟨mode, created⟩
      exact ⟨mode, same.trans created⟩
  | writing | flushed | replaced | succeeded => exact same.trans staged

theorem Sound.begin {initial : FileSystem} (sound : disk.Sound initial) {call : SecureCall}
    (fresh : ∀ writer ∈ disk.writers, call.Apart writer.call ∧ writer.call.Apart call) :
    ({ disk with writers := disk.writers ++ [⟨call, .called⟩] } : Disk).Sound initial where
  apart := by
    intro index other writer writer' found found' differs
    rcases concat_cases found with earlier | ⟨rfl, rfl⟩
    · rcases concat_cases found' with earlier' | ⟨rfl, rfl⟩
      · exact sound.apart index other writer writer' earlier earlier' differs
      · exact (fresh writer (List.mem_of_getElem? earlier)).2
    · rcases concat_cases found' with earlier' | ⟨rfl, rfl⟩
      · exact (fresh writer' (List.mem_of_getElem? earlier')).1
      · exact absurd rfl differs
  stages := by
    intro index writer found
    rcases concat_cases found with earlier | ⟨rfl, rfl⟩
    · exact sound.stages index writer earlier
    · trivial
  files := fun path outside =>
    sound.files path fun writer member => outside writer (List.mem_append_left _ member)
  once := sound.once
  known := by
    intro entry member
    rcases sound.known entry member with ⟨phase, found, stands⟩
    have inside := (List.getElem?_eq_some_iff.mp found).1
    exact ⟨phase, (List.getElem?_append_left inside).trans found, stands⟩
  effective := by
    intro index writer found effective
    rcases concat_cases found with earlier | ⟨rfl, rfl⟩
    · exact sound.effective index writer earlier effective
    · cases effective

theorem Sound.crash {initial : FileSystem} (sound : disk.Sound initial) (stopped : List Nat) :
    (disk.crash stopped).Sound initial where
  apart := by
    intro index other writer writer' found found' differs
    rcases writer_crash found with ⟨before, earlier, call, _⟩
    rcases writer_crash found' with ⟨before', earlier', call', _⟩
    rw [call, call']
    exact sound.apart index other before before' earlier earlier' differs
  stages := by
    intro index writer found
    rcases writer_crash found with ⟨before, earlier, call, same | lost⟩
    · rw [call, same]
      exact sound.stages index before earlier
    · rw [lost]
      trivial
  files := by
    intro path outside
    refine sound.files path fun writer member => ?_
    rcases List.getElem?_of_mem member with ⟨index, found⟩
    rcases writer_of_crash stopped found with ⟨phase, there, _⟩
    have differs := outside _ (List.mem_of_getElem? there)
    exact differs
  once := sound.once
  known := by
    intro entry member
    rcases sound.known entry member with ⟨phase, found, stands⟩
    rcases writer_of_crash stopped found with ⟨after, there, rfl | lost⟩
    · exact ⟨_, there, stands⟩
    · exact ⟨after, there, .inr lost⟩
  effective := by
    intro index writer found effective
    rcases writer_crash found with ⟨before, earlier, call, same | lost⟩
    · rw [call]
      exact sound.effective index before earlier (same ▸ effective)
    · rw [lost] at effective
      cases effective

theorem replay_concat (files : FileSystem) (calls : List (Nat × SecureCall)) (entry : Nat × SecureCall) :
    replay files (calls ++ [entry]) =
      Function.update (replay files calls) entry.2.path (some (.file entry.2.content secureMode)) := by
  rw [replay, List.foldl_append]
  rfl

section

variable {initial files : FileSystem} {index : Nat} {call : SecureCall} {phase after : WritePhase}
  {move : WriteMove}

/-- A call that is still going and has no effect is not among the renames. -/
theorem Sound.not_replaced (sound : disk.Sound initial) (found : disk.writers[index]? = some ⟨call, phase⟩)
    (going : phase.ended = false) (plain : phase.effective = false) : index ∉ disk.replaced.map Prod.fst := by
  intro member
  rcases List.mem_map.mp member with ⟨entry, replaced, rfl⟩
  rcases sound.known entry replaced with ⟨phase', found', stands⟩
  have same : phase = phase' := congrArg Writer.phase (Option.some.inj (found.symm.trans found'))
  subst same
  rcases stands with effective | lost
  · rw [plain] at effective
    cases effective
  · rw [lost] at going
    cases going

theorem writer_moved {other : Nat} {writer : Writer} (found : disk.writers[index]? = some ⟨call, phase⟩)
    (there : (disk.moved index call move files after).writers[other]? = some writer) :
    ∃ before, disk.writers[other]? = some before ∧ writer.call = before.call := by
  rcases writer_set there with ⟨rfl, rfl⟩ | ⟨_, kept⟩
  · exact ⟨_, found, rfl⟩
  · exact ⟨writer, kept, rfl⟩

theorem writer_of_moved (move : WriteMove) (files : FileSystem) (after : WritePhase) {other : Nat}
    {before : Writer} (found : disk.writers[index]? = some ⟨call, phase⟩)
    (there : disk.writers[other]? = some before) :
    ∃ writer, (disk.moved index call move files after).writers[other]? = some writer ∧
      writer.call = before.call := by
  by_cases same : index = other
  · subst same
    rcases Option.some.inj (found.symm.trans there) with rfl
    exact ⟨_, List.getElem?_set_self (List.getElem?_eq_some_iff.mp found).1, rfl⟩
  · exact ⟨before, (List.getElem?_set_ne same).trans there, rfl⟩

/-- A rename is added to the order, and nothing else. -/
theorem mem_replaced_moved {entry : Nat × SecureCall} :
    entry ∈ (disk.moved index call move files after).replaced ↔
      entry ∈ disk.replaced ∨ (move = .rename ∧ entry = (index, call)) := by
  rw [Disk.moved]
  split
  · rename_i renames
    rw [List.mem_append, List.mem_singleton, and_iff_right renames]
  · rename_i plain
    rw [or_iff_left fun added => plain added.1]

theorem Sound.files_moved (sound : disk.Sound initial) (found : disk.writers[index]? = some ⟨call, phase⟩)
    (moved : Moved call disk.files phase move files after) {path : FilePath}
    (outside : ∀ writer ∈ (disk.moved index call move files after).writers, path ≠ writer.call.tmp) :
    files.fileAt path = (replay initial (disk.moved index call move files after).replaced).fileAt path := by
  have fromTmp : path ≠ call.tmp := by
    rcases writer_of_moved move files after found found with ⟨writer, there, same⟩
    have differs := outside writer (List.mem_of_getElem? there)
    rwa [same] at differs
  have before : disk.files.fileAt path = (replay initial disk.replaced).fileAt path := by
    refine sound.files path fun writer member => ?_
    rcases List.getElem?_of_mem member with ⟨other, present⟩
    rcases writer_of_moved move files after found present with ⟨writer', there, same⟩
    have differs := outside writer' (List.mem_of_getElem? there)
    rwa [same] at differs
  by_cases renames : move = .rename
  · rcases moved.renames renames with ⟨rfl, _, target⟩
    have staged : disk.files call.tmp = some (.file call.content secureMode) := sound.stages index _ found
    rw [Disk.moved, if_pos renames, replay_concat]
    by_cases same : path = call.path
    · rw [same, FileSystem.fileAt_of_eq (target.trans staged)]
      exact (FileSystem.fileAt_of_eq (Function.update_self ..)).symm
    · rw [moved.fileAt path fromTmp fun _ => same, before]
      exact FileSystem.fileAt_congr (Function.update_of_ne same ..).symm
  · rw [Disk.moved, if_neg renames, ← before]
    exact moved.fileAt path fromTmp fun rename => absurd rename renames

theorem Sound.moves (sound : disk.Sound initial) (found : disk.writers[index]? = some ⟨call, phase⟩)
    (moved : Moved call disk.files phase move files after) :
    (disk.moved index call move files after).Sound initial where
  apart := by
    intro one other writer writer' there there' differs
    rcases writer_moved found there with ⟨before, present, same⟩
    rcases writer_moved found there' with ⟨before', present', same'⟩
    rw [same, same']
    exact sound.apart one other before before' present present' differs
  stages := by
    intro other writer there
    rcases writer_set there with ⟨rfl, rfl⟩ | ⟨differs, kept⟩
    · exact moved.stages (sound.stages other _ found)
    · have apart := sound.apart other index writer _ kept found differs
      exact stages_congr (moved.keeps writer.call.tmp apart.staging (fun _ => apart.target) apart.outside)
        (sound.stages other writer kept)
  files := fun path outside => sound.files_moved found moved outside
  once := by
    rw [Disk.moved]
    split
    · rename_i renames
      rcases moved.renames renames with ⟨rfl, _⟩
      rw [List.map_append]
      refine List.nodup_append.mpr ⟨sound.once, List.pairwise_singleton _ _, fun other earlier new last same => ?_⟩
      rcases List.mem_singleton.mp last with rfl
      rcases same with rfl
      exact sound.not_replaced found rfl rfl earlier
    · exact sound.once
  known := by
    have earlier : ∀ entry ∈ disk.replaced, ∃ phase,
        (disk.moved index call move files after).writers[entry.1]? = some ⟨entry.2, phase⟩ ∧
          (phase.effective = true ∨ phase = .lost) := by
      intro entry member
      rcases sound.known entry member with ⟨phase', present, stands⟩
      by_cases same : index = entry.1
      · subst same
        rcases Option.some.inj (found.symm.trans present) with ⟨⟩
        refine ⟨after, List.getElem?_set_self (List.getElem?_eq_some_iff.mp found).1, .inl ?_⟩
        refine moved.effective.mpr (.inl (stands.resolve_right fun lost => ?_))
        have going := moved.going
        rw [lost] at going
        cases going
      · exact ⟨phase', (List.getElem?_set_ne same).trans present, stands⟩
    intro entry member
    rcases mem_replaced_moved.mp member with before | ⟨renames, rfl⟩
    · exact earlier entry before
    · exact ⟨after, List.getElem?_set_self (List.getElem?_eq_some_iff.mp found).1,
        .inl (moved.effective.mpr (.inr renames))⟩
  effective := by
    intro other writer there effective
    rw [mem_replaced_moved]
    rcases writer_set there with ⟨rfl, rfl⟩ | ⟨_, kept⟩
    · rcases moved.effective.mp effective with before | renames
      · exact .inl (sound.effective other ⟨call, phase⟩ found before)
      · exact .inr ⟨renames, rfl⟩
    · exact .inl (sound.effective other writer kept effective)

end

/-- Step lemma. -/
theorem Sound.step {initial : FileSystem} (sound : disk.Sound initial) {action : DiskStep}
    (fresh : disk.Fresh action) (steps : secureWrites.step disk action = some next) : next.Sound initial := by
  cases action with
  | begin call =>
      rcases Option.some.inj steps with rfl
      exact sound.begin fresh
  | move index move =>
      rcases move_cases steps with ⟨call, phase, files, after, found, moved, rfl⟩
      exact sound.moves found moved
  | crash stopped =>
      rcases Option.some.inj steps with rfl
      exact sound.crash stopped

/-- A rename stays where it is in the order. -/
theorem replaced_step {action : DiskStep} (steps : secureWrites.step disk action = some next) :
    disk.replaced <+: next.replaced := by
  cases action with
  | begin call =>
      rcases Option.some.inj steps with rfl
      exact List.prefix_refl _
  | move index move =>
      rcases move_cases steps with ⟨call, phase, files, after, _, _, rfl⟩
      rw [Disk.moved]
      split
      · exact List.prefix_append ..
      · exact List.prefix_refl _
  | crash stopped =>
      rcases Option.some.inj steps with rfl
      exact List.prefix_refl _

/-- Every reader finds the files as if each call that has come to its rename
had been made at once, in the order of the renames.  A call that has succeeded
is one of them, and has left nothing else; one that has failed is not. -/
theorem writes_in_order (initial : FileSystem) {schedule : List DiskStep} {final : Disk}
    (fresh : secureWrites.Guarded Fresh (start initial) schedule)
    (runs : secureWrites.run (start initial) schedule = some final) :
    (∀ path, (∀ writer ∈ final.writers, path ≠ writer.call.tmp) →
        final.files.fileAt path = (replay initial final.replaced).fileAt path) ∧
      (final.replaced.map Prod.fst).Nodup ∧
      (∀ entry ∈ final.replaced, ∃ phase, final.writers[entry.1]? = some ⟨entry.2, phase⟩ ∧
        ∀ error, phase ≠ .failed error) ∧
      (∀ (index : Nat) (call : SecureCall), final.writers[index]? = some ⟨call, .succeeded⟩ →
        (index, call) ∈ final.replaced ∧ final.files call.tmp = none) ∧
      ∀ before after middle, schedule = before ++ after →
        secureWrites.run (start initial) before = some middle → middle.replaced <+: final.replaced := by
  have preserved : ∀ (_ : List DiskStep) (disk : Disk) action next, disk.Sound initial → disk.Fresh action →
      secureWrites.step disk action = some next → next.Sound initial :=
    fun _ _ _ _ sound fresh steps => sound.step fresh steps
  have sound : final.Sound initial :=
    Machine.run_invariant_guarded preserved [] (sound_start initial) fresh runs
  refine ⟨sound.files, sound.once, fun entry member => ?_, fun index call found => ?_, ?_⟩
  · rcases sound.known entry member with ⟨phase, found, stands⟩
    refine ⟨phase, found, fun error failed => ?_⟩
    rcases stands with effective | lost
    · rw [failed] at effective
      cases effective
    · cases lost.symm.trans failed
  · exact ⟨sound.effective index _ found rfl, sound.stages index _ found⟩
  · intro before after middle split reaches
    have grows : ∀ (disk : Disk) action next, middle.replaced <+: disk.replaced →
        secureWrites.step disk action = some next → middle.replaced <+: next.replaced :=
      fun _ _ _ grown steps => grown.trans (replaced_step steps)
    rw [split, Machine.run_append, reaches, Option.bind_some] at runs
    exact Machine.run_keeps grows (List.prefix_refl _) runs

end

/-- Two calls for the file of a conversation. -/
def sampleCall (content : List UInt8) (uuid : Text) : SecureCall := ⟨conversationFile, content, uuid, 0o644⟩

/-- The second call replaces the file last, and its process ends before it
returns. -/
def sampleWrites : List DiskStep :=
  [.begin (sampleCall [1, 2, 3] "0b9b1cd2".toList), .begin (sampleCall [4, 5] "7f3d20aa".toList),
    .move 0 .makeDir, .move 0 .create, .move 1 .makeDir, .move 1 .create, .move 0 .secure, .move 0 (.write 1),
    .move 1 .secure, .move 1 (.write 2), .move 0 (.write 2), .move 0 .sync, .move 1 .sync, .move 0 .rename,
    .move 1 .rename, .crash [1], .move 0 .finish]

theorem sampleWrites_run :
    (secureWrites.run (start emptyDevice) sampleWrites).any (fun final =>
      final.replaced = [(0, sampleCall [1, 2, 3] "0b9b1cd2".toList), (1, sampleCall [4, 5] "7f3d20aa".toList)] ∧
        ∀ writer ∈ final.writers, conversationFile ≠ writer.call.tmp) = true := by
  decide +kernel

theorem writes_in_order_sample :
    ∃ final, secureWrites.run (start emptyDevice) sampleWrites = some final ∧
      final.files.fileAt conversationFile = some ([4, 5], secureMode) ∧ (final.replaced.map Prod.fst).Nodup := by
  rcases (Option.any_eq_true _ _).mp sampleWrites_run with ⟨final, runs, holds⟩
  rcases of_decide_eq_true holds with ⟨replaced, apart⟩
  have ordered := writes_in_order emptyDevice (by decide +kernel) runs
  refine ⟨final, runs, ?_, ordered.2.1⟩
  rw [ordered.1 conversationFile apart, replaced]
  rfl

end Disk

/-! ## A call that is not interrupted -/

/-- The steps of one call. -/
def secureWrite (call : SecureCall) : Machine (FileSystem × WritePhase) WriteMove where
  step state move := call.move state.1 state.2 move

/-- What a call returns. -/
def WritePhase.result : WritePhase → Option (Except Text Unit)
  | succeeded => some (.ok ())
  | failed error => some (.error error)
  | _ => none

/-- The steps of a call up to a failure. -/
def movesOf (call : SecureCall) : Option FileStep → List WriteMove
  | none => [.makeDir, .create, .secure, .write call.content.length, .sync, .rename, .finish]
  | some (.createDir depth) => [.failDir depth]
  | some .create => [.makeDir, .failCreate, .discard true]
  | some .setPermissions => [.makeDir, .create, .failSecure, .discard true]
  | some (.write written) => [.makeDir, .create, .secure, .write written, .failWrite, .discard true]
  | some .sync => [.makeDir, .create, .secure, .write call.content.length, .failSync, .discard true]
  | some .rename => [.makeDir, .create, .secure, .write call.content.length, .sync, .failRename]

section

variable {call : SecureCall} {files : FileSystem}

/-- A call on its own does what `writeSecure` says. -/
theorem secureWrite_writeSecure (failure : Option FileStep)
    (directory : files.makeDirectories call.dir call.dir.length call.dir = some .directory)
    (staging : files call.tmp = none) (target : files call.path ≠ some .directory)
    (outside : ¬ call.tmp <+: call.dir) :
    ∃ phase, (secureWrite call).run (files, .called) (movesOf call failure) =
        some ((writeSecure call.uuid call.createMode failure files call.path call.content).2, phase) ∧
      phase.result = some (writeSecure call.uuid call.createMode failure files call.path call.content).1 := by
  let made := files.makeDirectories call.dir call.dir.length
  let created := made.create call.tmp call.createMode
  let secured := created.setMode call.tmp secureMode
  let written := secured.write call.tmp call.content
  have inside : made call.dir = some .directory := directory
  have free : made call.tmp ≠ some .directory := by
    have same : made call.tmp = files call.tmp := FileSystem.makeDirectories_other outside _
    rw [same, staging]
    simp
  have kept : written call.path = files call.path := by
    have same : written call.path = made call.path := written_other (stagingPath_ne call.path call.uuid).symm ..
    exact same.trans (makeDirectories_target files call.path _)
  have makes : (secureWrite call).step (files, .called) .makeDir = some (made, .made) := if_pos ⟨rfl, directory⟩
  have creates : (secureWrite call).step (made, .made) .create = some (created, .created) :=
    if_pos ⟨rfl, inside, free⟩
  have secures : (secureWrite call).step (created, .created) .secure = some (secured, .writing 0) := rfl
  have writes : ∀ count, (secureWrite call).step (secured, .writing 0) (.write count) =
      some (secured.write call.tmp (call.content.take count), .writing count) := by
    intro count
    rw [show (secureWrite call).step (secured, .writing 0) (.write count) =
      some (secured.write call.tmp (call.content.take (0 + count)), .writing (0 + count)) from rfl, Nat.zero_add]
  have whole : (secureWrite call).step (secured, .writing 0) (.write call.content.length) =
      some (written, .writing call.content.length) := by
    rw [writes, List.take_length]
  have syncs : (secureWrite call).step (written, .writing call.content.length) .sync = some (written, .flushed) :=
    if_pos (Nat.le_refl _)
  have opens : ∀ later, (secureWrite call).run (files, .called) (.makeDir :: .create :: .secure :: later) =
      (secureWrite call).run (secured, .writing 0) later := by
    intro later
    rw [Machine.run_of_step makes, Machine.run_of_step creates, Machine.run_of_step secures]
  cases failure with
  | none =>
      have free' : written call.path ≠ some .directory := by
        rw [kept]
        exact target
      have apart : call.dir ≠ call.tmp := by
        intro same
        exact outside (same ▸ List.prefix_refl call.dir)
      have inside' : written call.dir = some .directory := (written_other apart ..).trans inside
      have renames : (secureWrite call).step (written, .flushed) .rename =
          some (written.rename call.tmp call.path, .replaced) := if_pos ⟨rfl, inside', free'⟩
      refine ⟨.succeeded, ?_, rfl⟩
      rw [movesOf, opens, Machine.run_of_step whole, Machine.run_of_step syncs, Machine.run_of_step renames]
      rfl
  | some step =>
      cases step with
      | createDir depth => exact ⟨_, rfl, rfl⟩
      | create =>
          refine ⟨.failed ("Failed to create ".toList ++ display call.tmp), ?_, rfl⟩
          rw [movesOf, Machine.run_of_step makes]
          rfl
      | setPermissions =>
          refine ⟨.failed ("Failed to secure ".toList ++ display call.tmp), ?_, rfl⟩
          rw [movesOf, Machine.run_of_step makes, Machine.run_of_step creates]
          rfl
      | write count =>
          refine ⟨.failed ("Failed to write ".toList ++ display call.tmp), ?_, rfl⟩
          rw [movesOf, opens, Machine.run_of_step (writes count)]
          rfl
      | sync =>
          have fails : (secureWrite call).step (written, .writing call.content.length) .failSync =
              some (written, .broken ("Failed to flush ".toList ++ display call.tmp)) := if_pos (Nat.le_refl _)
          refine ⟨.failed ("Failed to flush ".toList ++ display call.tmp), ?_, rfl⟩
          rw [movesOf, opens, Machine.run_of_step whole, Machine.run_of_step fails]
          rfl
      | rename =>
          refine ⟨.failed ("Failed to replace ".toList ++ display call.path), ?_, rfl⟩
          rw [movesOf, opens, Machine.run_of_step whole, Machine.run_of_step syncs]
          rfl

/-- The same steps among those of other calls. -/
theorem run_alone {disk : Disk} {index : Nat} {phase : WritePhase} {moves : List WriteMove}
    {final : FileSystem × WritePhase} (found : disk.writers[index]? = some ⟨call, phase⟩)
    (runs : (secureWrite call).run (disk.files, phase) moves = some final) :
    ∃ next, secureWrites.run disk (moves.map (DiskStep.move index)) = some next ∧ next.files = final.1 ∧
      next.writers[index]? = some ⟨call, final.2⟩ := by
  induction moves generalizing disk phase with
  | nil =>
      rcases Option.some.inj runs with rfl
      exact ⟨disk, rfl, rfl, found⟩
  | cons move moves inductionHypothesis =>
      rcases Machine.run_cons runs with ⟨⟨files, after⟩, moves', rest⟩
      have steps : secureWrites.step disk (.move index move) = some (disk.moved index call move files after) := by
        change (disk.writers[index]?.bind _) = _
        rw [found, Option.bind_some]
        exact Option.map_eq_some_iff.mpr ⟨(files, after), moves', rfl⟩
      have there : (disk.moved index call move files after).writers[index]? = some ⟨call, after⟩ :=
        List.getElem?_set_self (List.getElem?_eq_some_iff.mp found).1
      rcases inductionHypothesis there rest with ⟨next, reaches, outcome⟩
      refine ⟨next, ?_, outcome⟩
      rw [List.map_cons, Machine.run_of_step steps, reaches]

/-- Every outcome of `writeSecure` is one of a call among others that nothing
comes between. -/
theorem uninterrupted_writeSecure {disk : Disk} {index : Nat} (found : disk.writers[index]? = some ⟨call, .called⟩)
    (failure : Option FileStep)
    (directory : disk.files.makeDirectories call.dir call.dir.length call.dir = some .directory)
    (staging : disk.files call.tmp = none) (target : disk.files call.path ≠ some .directory)
    (outside : ¬ call.tmp <+: call.dir) :
    ∃ next phase, secureWrites.run disk ((movesOf call failure).map (DiskStep.move index)) = some next ∧
      next.files = (writeSecure call.uuid call.createMode failure disk.files call.path call.content).2 ∧
      next.writers[index]? = some ⟨call, phase⟩ ∧
      phase.result = some (writeSecure call.uuid call.createMode failure disk.files call.path call.content).1 := by
  rcases secureWrite_writeSecure failure directory staging target outside with ⟨phase, runs, returns⟩
  rcases run_alone found runs with ⟨next, reaches, files, there⟩
  exact ⟨next, phase, reaches, files, there, returns⟩

end

end Config
end Rabb1tClaw
