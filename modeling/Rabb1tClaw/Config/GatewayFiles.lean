import Rabb1tClaw.Config.ConcurrentWrites

namespace Rabb1tClaw
namespace Config

open Foundations

/-!
# The files of the gateway

The configuration, the device store, and for each device a memory and a
conversation: four kinds of files are written with `write_secure`.  Their
names differ from those of all staging files, and two staging files are
apart as soon as their random names differ (`apart_of_uuids`).
-/

/-- What is written in this way. -/
inductive GatewayFile where
  | config
  | devices
  | memory (start : Text)
  | conversation (start : Text)
  deriving DecidableEq, Repr

namespace GatewayFile

/-- The directory of a file; that of a device is named by its prefix. -/
def dir (base : FilePath) : GatewayFile → FilePath
  | config | devices => base
  | memory start | conversation start => FilePath.join base (Text.bytes start)

def name : GatewayFile → Text
  | config => "config.yaml".toList
  | devices => "devices.yaml".toList
  | memory _ => "memory.md".toList
  | conversation _ => "conversation.enc".toList

def path (base : FilePath) (file : GatewayFile) : FilePath := FilePath.join (file.dir base) (Text.bytes file.name)

/-- The prefix is not that of a hidden directory. -/
def Visible : GatewayFile → Prop
  | config | devices => True
  | memory start | conversation start => start.head? ≠ some '.'

theorem directoryOf_path (base : FilePath) (file : GatewayFile) : directoryOf (file.path base) = file.dir base := by
  rw [directoryOf, path, FilePath.parent_join, Option.getD_some]

theorem tmp_eq (base : FilePath) (file : GatewayFile) (uuid : Text) :
    stagingPath (file.path base) uuid = FilePath.join (file.dir base) (stagingName (file.path base) uuid).bytes := by
  rw [stagingPath, directoryOf_path]

end GatewayFile

section

variable {base : FilePath} {call other : SecureCall} {file file' : GatewayFile}

theorem stagingName_injective {path path' : FilePath} {uuid uuid' : Text} (long : uuid.length = uuid'.length)
    (same : stagingName path uuid = stagingName path' uuid') : uuid = uuid' := by
  have tails := (List.cons.inj same).2
  have ends : ('.' :: (uuid ++ ".tmp".toList)).length = ('.' :: (uuid' ++ ".tmp".toList)).length := by
    simp [long]
  have behind := (List.append_inj' tails ends).2
  exact List.append_cancel_right (List.cons.inj behind).2

/-- The staging file of a gateway file. -/
theorem tmp_of_path (isFile : call.path = file.path base) :
    call.tmp = FilePath.join (file.dir base) (stagingName (file.path base) call.uuid).bytes := by
  rw [SecureCall.tmp, isFile, GatewayFile.tmp_eq]

/-- It is hidden, and so none of the files. -/
theorem tmp_ne_path (isFile : call.path = file.path base) (file' : GatewayFile) : call.tmp ≠ file'.path base := by
  intro same
  rw [tmp_of_path isFile, GatewayFile.path] at same
  have last := Text.bytes_injective (FilePath.name_eq_of_join_eq same)
  cases file' <;> cases last

theorem tmp_outside (isFile : call.path = file.path base) {file' : GatewayFile} (visible : file'.Visible) :
    ¬ call.tmp <+: file'.dir base := by
  intro within
  rw [tmp_of_path isFile] at within
  have long := within.length_le
  have inner : base.length ≤ (file.dir base).length := by
    cases file <;> simp [GatewayFile.dir, FilePath.join]
  have hidden : ∀ start : Text, start.head? ≠ some '.' → file'.dir base = FilePath.join base (Text.bytes start) →
      False := by
    intro start shown isDir
    rw [isDir] at within long
    have whole := within.eq_of_length (by
      simp only [FilePath.join, List.length_append, List.length_singleton] at long ⊢
      omega)
    have last := Text.bytes_injective (FilePath.name_eq_of_join_eq whole)
    rw [← last] at shown
    exact shown rfl
  cases file' with
  | config | devices =>
      rw [FilePath.join, List.length_append, List.length_singleton] at long
      exact absurd (Nat.le_trans long inner) (Nat.not_succ_le_self _)
  | memory start | conversation start => exact hidden start visible rfl

/-- Calls for files of the gateway are apart if their names differ. -/
theorem apart_of_uuids (isFile : call.path = file.path base) (isFile' : other.path = file'.path base)
    (visible : file'.Visible) (long : call.uuid.length = other.uuid.length) (differs : call.uuid ≠ other.uuid) :
    call.Apart other where
  staging := by
    intro same
    rw [tmp_of_path isFile, tmp_of_path isFile'] at same
    have last := Text.bytes_injective (FilePath.name_eq_of_join_eq same)
    exact differs (stagingName_injective long last)
  target := isFile'.symm ▸ tmp_ne_path isFile file'
  outside := by
    rw [SecureCall.dir, isFile', GatewayFile.directoryOf_path]
    exact tmp_outside isFile visible

end

end Config
end Rabb1tClaw
