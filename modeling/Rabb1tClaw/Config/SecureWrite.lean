import Rabb1tClaw.Foundations.FileSystem
import Rabb1tClaw.Foundations.Utf8Decoding

namespace Rabb1tClaw
namespace Config

open Foundations

/-!
# Secure writes

A file with secrets is replaced in two moves.  Its new content is written to a
staging file in the same directory, and the staging file is renamed to it.
Where staging fails, the staging file is removed.  Where the rename fails, it
is left in the directory, with all of the new content.

Which step fails is up to the operating system, and so it is an argument.  A
rename replaces the target or does nothing, and a file that is there can be
removed.
-/

/-- A step that may fail. -/
inductive FileStep where
  /-- So many components of the directory are there or were made. -/
  | createDir (depth : Nat)
  | create
  | setPermissions
  /-- So many bytes were written. -/
  | write (written : Nat)
  | sync
  | rename
  deriving DecidableEq, Repr

/-- A path in an error. -/
def display : FilePath → Text
  | [.root] => ['/']
  | path => List.intercalate ['/'] (path.map fun
      | .root => []
      | .current => ['.']
      | .up => ['.', '.']
      | .normal name => Text.fromUtf8Lossy name)

def secureMode : Nat := 0o600

/-- `stage`: write and flush the staging file with restrictive permissions.  A
new file is created with `createMode`. -/
def stage (failure : Option FileStep) (createMode : Nat) (files : FileSystem) (tmp : FilePath)
    (content : List UInt8) : Except Text Unit × FileSystem :=
  if failure = some .create then
    (.error ("Failed to create ".toList ++ display tmp), files)
  else
    let created := files.create tmp createMode
    if failure = some .setPermissions then
      (.error ("Failed to secure ".toList ++ display tmp), created)
    else
      let secured := created.setMode tmp secureMode
      match failure with
      | some (.write written) =>
          (.error ("Failed to write ".toList ++ display tmp), secured.write tmp (content.take written))
      | _ =>
          let written := secured.write tmp content
          if failure = some .sync then (.error ("Failed to flush ".toList ++ display tmp), written)
          else (.ok (), written)

/-- The directory of a path. -/
def directoryOf (path : FilePath) : FilePath := (FilePath.parent path).getD [.current]

/-- The name of the staging file. -/
def stagingName (path : FilePath) (uuid : Text) : Text :=
  '.' :: (Text.fromUtf8Lossy ((FilePath.fileName path).getD []) ++ '.' :: (uuid ++ ".tmp".toList))

/-- The sibling that stages a write. -/
def stagingPath (path : FilePath) (uuid : Text) : FilePath :=
  FilePath.join (directoryOf path) (stagingName path uuid).bytes

/-- `write_secure`: what it returns, and the files that it leaves. -/
def writeSecure (uuid : Text) (createMode : Nat) (failure : Option FileStep) (files : FileSystem)
    (path : FilePath) (content : List UInt8) : Except Text Unit × FileSystem :=
  let dir := directoryOf path
  match failure with
  | some (.createDir depth) =>
      (.error ("Failed to create dir ".toList ++ display dir), files.makeDirectories dir depth)
  | _ =>
      let tmp := stagingPath path uuid
      match stage failure createMode (files.makeDirectories dir dir.length) tmp content with
      | (.error error, staged) => (.error error, staged.remove tmp)
      | (.ok (), staged) =>
          if failure = some .rename then (.error ("Failed to replace ".toList ++ display path), staged)
          else (.ok (), staged.rename tmp path)

/-- A failed step is reported and leaves the target as it was, a success
replaces it, and no other file is there that was not there before. -/
structure Atomic (failure : Option FileStep) (before : FileSystem) (path : FilePath) (content : List UInt8)
    (outcome : Except Text Unit × FileSystem) : Prop where
  reports : failure ≠ none → ∃ error, outcome.1 = .error error
  keeps : ∀ error, outcome.1 = .error error → outcome.2 path = before path
  replaces : outcome.1 = .ok () → outcome.2 path = some (.file content secureMode)
  clean : ∀ other, other ≠ path → ∀ bytes mode, outcome.2 other = some (.file bytes mode) →
    before other = some (.file bytes mode)

/-! ## Paths -/

/-- The staging file has a name of its own. -/
theorem stagingPath_ne (path : FilePath) (uuid : Text) : stagingPath path uuid ≠ path := by
  intro same
  have named : FilePath.fileName path = some (stagingName path uuid).bytes := by
    rw [← FilePath.fileName_join (directoryOf path) (stagingName path uuid).bytes]
    exact congrArg FilePath.fileName same.symm
  have unfolded : stagingName path uuid =
      '.' :: (Text.fromUtf8Lossy ((FilePath.fileName path).getD []) ++ '.' :: (uuid ++ ".tmp".toList)) := rfl
  rw [named, Option.getD_some, Text.fromUtf8Lossy_bytes] at unfolded
  have long := congrArg List.length unfolded
  simp only [List.length_cons, List.length_append] at long
  omega

/-- The target is not one of the directories that are made. -/
theorem makeDirectories_target (files : FileSystem) (path : FilePath) (depth : Nat) :
    files.makeDirectories (directoryOf path) depth path = files path := by
  by_cases empty : path = []
  · exact if_neg fun made => made.1 empty
  · apply FileSystem.makeDirectories_other
    rw [directoryOf]
    cases isParent : FilePath.parent path with
    | some dir => exact FilePath.not_prefix_parent isParent
    | none =>
        intro within
        rcases List.exists_cons_of_ne_nil empty with ⟨first, rest, rfl⟩
        rcases List.cons_prefix_cons.mp within with ⟨rfl, nothing⟩
        rw [List.prefix_nil.mp nothing] at isParent
        cases isParent

/-! ## Staging -/

/-- A step of staging. -/
def FileStep.InStaging : FileStep → Prop
  | create | setPermissions | write _ | sync => True
  | createDir _ | rename => False

section

variable {failure : Option FileStep} {createMode : Nat} {files : FileSystem} {tmp path : FilePath}
  {content : List UInt8} {uuid : Text}

/-- Writing the staging file leaves the other files alone. -/
theorem written_other {other : FilePath} (differs : other ≠ tmp) (files : FileSystem) (createMode : Nat)
    (content : List UInt8) :
    ((files.create tmp createMode).setMode tmp secureMode).write tmp content other = files other := by
  rw [FileSystem.write_other differs, FileSystem.setMode_other differs, FileSystem.create_other differs]

/-- Staging fails at any of its steps, and changes the staging file at most. -/
theorem stage_fails {step : FileStep} (inStaging : step.InStaging) (createMode : Nat) (files : FileSystem)
    (tmp : FilePath) (content : List UInt8) :
    ∃ error staged, stage (some step) createMode files tmp content = (.error error, staged) ∧
      ∀ other, other ≠ tmp → staged other = files other := by
  cases step with
  | createDir depth => cases inStaging
  | rename => cases inStaging
  | create => exact ⟨_, _, rfl, fun other differs => rfl⟩
  | setPermissions => exact ⟨_, _, rfl, fun other differs => FileSystem.create_other differs createMode⟩
  | write written => exact ⟨_, _, rfl, fun other differs => written_other differs files createMode _⟩
  | sync => exact ⟨_, _, rfl, fun other differs => written_other differs files createMode content⟩

/-- Without a failure the staging file has the content and the permissions. -/
theorem stage_succeeds (failure : Option FileStep) (passes : ∀ step, failure = some step → step = .rename)
    (createMode : Nat) (files : FileSystem) (tmp : FilePath) (content : List UInt8) :
    ∃ staged, stage failure createMode files tmp content = (.ok (), staged) ∧
      staged tmp = some (.file content secureMode) ∧ ∀ other, other ≠ tmp → staged other = files other := by
  have returns : stage failure createMode files tmp content =
      (.ok (), ((files.create tmp createMode).setMode tmp secureMode).write tmp content) := by
    cases failure with
    | none => rfl
    | some step =>
        rcases passes step rfl with rfl
        rfl
  refine ⟨_, returns, ?_, fun other differs => ?_⟩
  · rcases FileSystem.create_self files tmp createMode with ⟨kept, created⟩
    exact FileSystem.write_self (FileSystem.setMode_self created secureMode) content
  · exact written_other differs files createMode content

/-! ## The whole write -/

/-- Once the directory is there, the rest depends on staging. -/
theorem writeSecure_of_staged (made : ∀ depth, failure ≠ some (.createDir depth)) :
    writeSecure uuid createMode failure files path content =
      match stage failure createMode (files.makeDirectories (directoryOf path) (directoryOf path).length)
        (stagingPath path uuid) content with
      | (.error error, staged) => (.error error, staged.remove (stagingPath path uuid))
      | (.ok (), staged) =>
          if failure = some .rename then (.error ("Failed to replace ".toList ++ display path), staged)
          else (.ok (), staged.rename (stagingPath path uuid) path) := by
  unfold writeSecure
  split
  · exact absurd rfl (made _)
  · rfl

/-- Files that a change of directories and of the staging file left alone. -/
theorem file_of_staged {staged : FileSystem} {other : FilePath} {bytes : List UInt8} {mode : Nat}
    (others : ∀ other, other ≠ stagingPath path uuid →
      staged other = files.makeDirectories (directoryOf path) (directoryOf path).length other)
    (differs : other ≠ stagingPath path uuid) (isFile : staged other = some (.file bytes mode)) :
    files other = some (.file bytes mode) := by
  rw [others other differs] at isFile
  exact (FileSystem.makeDirectories_file files _ _ bytes mode).mp isFile

theorem target_of_staged {staged : FileSystem}
    (others : ∀ other, other ≠ stagingPath path uuid →
      staged other = files.makeDirectories (directoryOf path) (directoryOf path).length other) :
    staged path = files path := by
  rw [others path (stagingPath_ne path uuid).symm]
  exact makeDirectories_target files path _

/-- A directory that cannot be made is all that is left. -/
theorem atomic_createDir (depth : Nat) :
    Atomic (some (.createDir depth)) files path content
      (writeSecure uuid createMode (some (.createDir depth)) files path content) where
  reports := fun _ => ⟨_, rfl⟩
  keeps := fun _ _ => makeDirectories_target files path depth
  replaces := by rintro ⟨⟩
  clean := fun other _ bytes mode => (FileSystem.makeDirectories_file files _ depth bytes mode).mp

/-- A staging file that cannot be finished is removed. -/
theorem atomic_staging {step : FileStep} (inStaging : step.InStaging) :
    Atomic (some step) files path content (writeSecure uuid createMode (some step) files path content) := by
  have made : ∀ depth, some step ≠ some (.createDir depth) := by
    rintro depth same
    rcases Option.some.inj same with rfl
    cases inStaging
  rcases stage_fails inStaging createMode (files.makeDirectories (directoryOf path) (directoryOf path).length)
    (stagingPath path uuid) content with ⟨error, staged, fails, others⟩
  have returns : writeSecure uuid createMode (some step) files path content =
      (.error error, staged.remove (stagingPath path uuid)) := by rw [writeSecure_of_staged made, fails]
  rw [returns]
  refine ⟨fun _ => ⟨error, rfl⟩, fun _ _ => ?_, by rintro ⟨⟩, fun other _ bytes mode isFile => ?_⟩
  · exact (FileSystem.remove_other (stagingPath_ne path uuid).symm).trans (target_of_staged others)
  · have differs : other ≠ stagingPath path uuid := by
      rintro rfl
      exact FileSystem.remove_self _ _ _ _ isFile
    exact file_of_staged others differs ((FileSystem.remove_other differs).symm.trans isFile)

/-- Without a failure the staging file becomes the target. -/
theorem atomic_success :
    Atomic none files path content (writeSecure uuid createMode none files path content) := by
  rcases stage_succeeds none (by rintro _ ⟨⟩) createMode
    (files.makeDirectories (directoryOf path) (directoryOf path).length) (stagingPath path uuid) content with
    ⟨staged, succeeds, isStaged, others⟩
  have returns : writeSecure uuid createMode none files path content =
      (.ok (), staged.rename (stagingPath path uuid) path) := by
    rw [writeSecure_of_staged (by rintro _ ⟨⟩), succeeds]
    rfl
  rw [returns]
  refine ⟨fun fails => absurd rfl fails, by rintro _ ⟨⟩, fun _ => ?_,
    fun other fromTarget bytes mode isFile => ?_⟩
  · exact (FileSystem.rename_target staged _ path).trans isStaged
  · have differs : other ≠ stagingPath path uuid := by
      rintro rfl
      have gone := (FileSystem.rename_source fromTarget).symm.trans isFile
      cases gone
    exact file_of_staged others differs ((FileSystem.rename_other differs fromTarget).symm.trans isFile)

/-- A rename that fails leaves the staging file. -/
theorem atomic_rename_iff :
    Atomic (some .rename) files path content (writeSecure uuid createMode (some .rename) files path content) ↔
      files (stagingPath path uuid) = some (.file content secureMode) := by
  rcases stage_succeeds (some .rename) (by rintro _ ⟨⟩; rfl) createMode
    (files.makeDirectories (directoryOf path) (directoryOf path).length) (stagingPath path uuid) content with
    ⟨staged, succeeds, isStaged, others⟩
  have returns : writeSecure uuid createMode (some .rename) files path content =
      (.error ("Failed to replace ".toList ++ display path), staged) := by
    rw [writeSecure_of_staged (by rintro _ ⟨⟩), succeeds]
    rfl
  rw [returns]
  constructor
  · intro atomic
    exact atomic.clean _ (stagingPath_ne path uuid) content secureMode isStaged
  · intro wasThere
    refine ⟨fun _ => ⟨_, rfl⟩, fun _ _ => target_of_staged others, by rintro ⟨⟩,
      fun other _ bytes mode isFile => ?_⟩
    by_cases isTmp : other = stagingPath path uuid
    · rw [isTmp] at isFile ⊢
      exact wasThere.trans (isStaged.symm.trans isFile)
    · exact file_of_staged others isTmp isFile

/-- A write is atomic unless the rename fails; then it is only if a file of the
random name was there, with this content and these permissions. -/
theorem writeSecure_atomic_iff (uuid : Text) (createMode : Nat) (failure : Option FileStep) (files : FileSystem)
    (path : FilePath) (content : List UInt8) :
    Atomic failure files path content (writeSecure uuid createMode failure files path content) ↔
      failure ≠ some .rename ∨ files (stagingPath path uuid) = some (.file content secureMode) := by
  cases failure with
  | none => exact iff_of_true atomic_success (.inl (by rintro ⟨⟩))
  | some step =>
      cases step with
      | createDir depth => exact iff_of_true (atomic_createDir depth) (.inl (by rintro ⟨⟩))
      | create => exact iff_of_true (atomic_staging trivial) (.inl (by rintro ⟨⟩))
      | setPermissions => exact iff_of_true (atomic_staging trivial) (.inl (by rintro ⟨⟩))
      | write written => exact iff_of_true (atomic_staging trivial) (.inl (by rintro ⟨⟩))
      | sync => exact iff_of_true (atomic_staging trivial) (.inl (by rintro ⟨⟩))
      | rename =>
          rw [atomic_rename_iff]
          exact ⟨.inr, fun allowed => allowed.resolve_left fun differs => differs rfl⟩

end

/-- The conversation of a device, in the directory of the device. -/
def conversationFile : FilePath :=
  [.normal (Text.bytes "device01".toList), .normal (Text.bytes "conversation.enc".toList)]

/-- The directory of the device is there, and it is empty. -/
def emptyDevice : FileSystem := fun path =>
  if path = [.normal (Text.bytes "device01".toList)] then some .directory else none

/-- The conversation stays behind in the staging file. -/
theorem writeSecure_failedRename :
    ¬ Atomic (some .rename) emptyDevice conversationFile [1, 2, 3]
      (writeSecure "0b9b1cd2".toList 0o644 (some .rename) emptyDevice conversationFile [1, 2, 3]) := by
  intro atomic
  have left := atomic.clean (stagingPath conversationFile "0b9b1cd2".toList) (by decide) [1, 2, 3] secureMode
    (by decide +kernel)
  exact absurd left (by decide +kernel)

end Config
end Rabb1tClaw
