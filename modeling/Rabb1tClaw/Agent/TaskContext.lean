import Rabb1tClaw.Agent.TaskLog
import Rabb1tClaw.Agent.Tracking

namespace Rabb1tClaw
namespace Agent
namespace TaskContext

open Foundations

/-!
# The context of running tasks

The message of a user is sent with the log of the tasks and an entry for each
task that runs.  Log and entries are joined to one text, which is read back in
lines, and the oldest lines go when there are too many.

A log line holds one event, because an append makes a newline a space.  An
entry takes the description and the progress of its task as they are.  With
newlines in them it takes several lines, and the lines that the last entries
take up push out those of the first.
-/

/-! ## The source -/

/-- `tasklog::read`. -/
def readLog (content : Option Text) : Option Text :=
  content.bind fun text => if Text.trim text = [] then none else some (Text.trim text)

inductive LiveKind where
  | code
  | search
  | advanced
  deriving DecidableEq, Repr

def LiveKind.label : LiveKind → Text
  | code => "code".toList
  | search => "search".toList
  | advanced => "advanced".toList

/-- What the context tells of a running task. -/
structure LiveEntry where
  id : UInt32
  kind : LiveKind
  description : Text
  detail : Text
  deriving DecidableEq, Repr

namespace LiveEntry

/-- `[live] running #id`. -/
def opening (entry : LiveEntry) : Text := "[live] running #".toList ++ Background.showId entry.id

def text (entry : LiveEntry) : Text :=
  entry.opening ++ (' ' :: (entry.kind.label ++ (" — ".toList ++ (entry.description ++ (" (".toList ++
    (entry.detail ++ [')']))))))

end LiveEntry

/-- The seconds since a task was started. -/
def elapsed (now startedAt : UInt64) : Text := Nat.toDigits 10 (now.toNat - startedAt.toNat) ++ ['s']

def codeEntry (now : UInt64) (item : TrackedItem CodeTaskStatus) : LiveEntry :=
  ⟨item.id, .code, item.description, elapsed now item.startedAt⟩

def searchEntry (now : UInt64) (item : TrackedItem SearchQueryStatus) : LiveEntry :=
  ⟨item.id, .search, item.description, elapsed now item.startedAt⟩

def statusDetail (now startedAt : UInt64) : AdvancedTaskStatus → Text
  | .needsInput question => "asking: ".toList ++ question
  | .running step detail =>
      "step ".toList ++ (Nat.toDigits 10 step.toNat ++ (": ".toList ++ (detail ++ (", ".toList ++
        elapsed now startedAt))))
  | _ => elapsed now startedAt

def advancedEntry (now : UInt64) (item : TrackedItem AdvancedTaskStatus) : LiveEntry :=
  ⟨item.id, .advanced, item.description, statusDetail now item.startedAt item.status⟩

/-- The entries of the tasks of a device that are running. -/
def liveEntries (background : Background) (devicePrefix : Text) (now : UInt64) : List LiveEntry :=
  (background.codeTaskTracker.getRunning devicePrefix).map (codeEntry now) ++
    ((background.searchQueryTracker.getRunning devicePrefix).map (searchEntry now) ++
      (background.advancedTaskTracker.getRunning devicePrefix).map (advancedEntry now))

/-- The log and the entries, as far as there are any. -/
def contextParts (background : Background) (devicePrefix : Text) (now : UInt64) : List Text :=
  let entries := liveEntries background devicePrefix now
  (readLog (background.taskLogs devicePrefix)).toList ++
    if entries = [] then [] else [List.intercalate ['\n'] (entries.map LiveEntry.text)]

/-- The lines of the context: the last of log and entries. -/
def contextLines (background : Background) (devicePrefix : Text) (now : UInt64) (maxEntries : Nat) : List Text :=
  let allLines := textLines (List.intercalate ['\n'] (contextParts background devicePrefix now))
  allLines.drop (allLines.length - maxEntries)

/-- `build_task_context`. -/
def buildTaskContext (background : Background) (devicePrefix : Text) (now : UInt64) (maxEntries : Nat) :
    Option Text :=
  if contextParts background devicePrefix now = [] then none
  else some (List.intercalate ['\n'] (contextLines background devicePrefix now maxEntries))

/-! ## Lines of joined texts -/

theorem textLines_append_newline_cons (front back : Text) :
    textLines (front ++ '\n' :: back) = textLines (front ++ ['\n']) ++ textLines back := by
  induction front using parts_induction '\n' with
  | last part absent =>
      have empty : textLines [] = [] := rfl
      rw [textLines_append_cons absent, textLines_append_cons absent, empty, List.singleton_append]
  | next part rest absent inductionHypothesis =>
      rw [List.append_assoc, List.append_assoc, List.cons_append, List.cons_append,
        textLines_append_cons absent, textLines_append_cons absent, inductionHypothesis, List.cons_append]

/-- The text ends with the bracket of an entry. -/
def Closed (text : Text) : Prop := ∃ body, text = body ++ [')']

theorem closed_last {text : Text} (closed : Closed text) : text.getLast? = some ')' := by
  rcases closed with ⟨body, rfl⟩
  exact List.getLast?_concat

theorem closed_behind {part rest : Text} (closed : Closed (part ++ '\n' :: rest)) : Closed rest := by
  have last := closed_last closed
  rw [List.getLast?_append_cons, List.getLast?_cons] at last
  cases ends : rest.getLast? with
  | none =>
      rw [ends] at last
      exact absurd last (by decide)
  | some char =>
      rw [ends] at last
      rcases Option.some.inj last with rfl
      rcases List.getLast?_eq_some_iff.mp ends with ⟨body, split⟩
      exact ⟨body, split⟩

/-- A line that is not ended is read as it is. -/
theorem textLines_of_not_mem {part : Text} (absent : '\n' ∉ part) (nonempty : part ≠ []) :
    textLines part = [part] := by
  rw [textLines, completeParts_of_not_mem absent, openPart_of_not_mem absent, if_neg nonempty]
  rfl

theorem chompLine_of_closed {text : Text} (closed : Closed text) : chompLine text = text := by
  rw [chompLine, if_neg]
  rw [closed_last closed]
  decide

/-- A newline behind a closed text starts no line. -/
theorem textLines_closed_newline {text : Text} (closed : Closed text) :
    textLines (text ++ ['\n']) = textLines text := by
  induction text using parts_induction '\n' with
  | last part absent =>
      have nonempty : part ≠ [] := by
        rintro rfl
        exact absurd (closed_last closed) (by decide)
      rw [textLines_append_cons absent, textLines_of_not_mem absent nonempty, chompLine_of_closed closed]
      rfl
  | next part rest absent inductionHypothesis =>
      rw [List.append_assoc, List.cons_append, textLines_append_cons absent, textLines_append_cons absent,
        inductionHypothesis (closed_behind closed)]

/-- A closed text has a line more than newlines. -/
theorem textLines_length {text : Text} (closed : Closed text) :
    (textLines text).length = text.count '\n' + 1 := by
  induction text using parts_induction '\n' with
  | last part absent =>
      have nonempty : part ≠ [] := by
        rintro rfl
        exact absurd (closed_last closed) (by decide)
      rw [textLines_of_not_mem absent nonempty, List.count_eq_zero_of_not_mem absent]
      rfl
  | next part rest absent inductionHypothesis =>
      rw [textLines_append_cons absent, List.length_cons, inductionHypothesis (closed_behind closed),
        List.count_append, List.count_cons_self, List.count_eq_zero_of_not_mem absent, Nat.zero_add]

/-- Closed texts that are joined keep their lines. -/
theorem textLines_join {texts : List Text} (closed : ∀ text ∈ texts, Closed text) :
    textLines (List.intercalate ['\n'] texts) = texts.flatMap textLines := by
  induction texts with
  | nil => rfl
  | cons text texts inductionHypothesis =>
      have later := inductionHypothesis fun other member => closed other (List.mem_cons_of_mem _ member)
      cases texts with
      | nil => simp
      | cons next texts =>
          rw [List.intercalate_cons_cons, List.append_assoc, List.singleton_append, textLines_append_newline_cons,
            textLines_closed_newline (closed text List.mem_cons_self), later]
          rfl

/-! ## The lines of the entries -/

theorem newline_not_mem_digits (number : Nat) : '\n' ∉ Nat.toDigits 10 number := by
  intro member
  have digit := Nat.isDigit_of_mem_toDigits (by decide) (by decide) member
  exact absurd digit (by decide)

theorem count_digits (number : Nat) : (Nat.toDigits 10 number).count '\n' = 0 :=
  List.count_eq_zero_of_not_mem (newline_not_mem_digits number)

theorem count_elapsed (now startedAt : UInt64) : (elapsed now startedAt).count '\n' = 0 := by
  rw [elapsed, List.count_append, count_digits]
  rfl

theorem count_label (kind : LiveKind) : kind.label.count '\n' = 0 := by
  cases kind <;> decide

namespace LiveEntry

variable (entry : LiveEntry)

theorem closed_text : Closed entry.text :=
  ⟨entry.opening ++ (' ' :: (entry.kind.label ++ (" — ".toList ++ (entry.description ++ (" (".toList ++
    entry.detail))))), by simp only [text, List.append_assoc, List.cons_append]⟩

theorem newline_not_mem_opening : '\n' ∉ entry.opening := by
  intro member
  rcases List.mem_append.mp member with fixed | digits
  · exact absurd fixed (by decide)
  · exact newline_not_mem_digits _ digits

theorem count_text : entry.text.count '\n' = entry.description.count '\n' + entry.detail.count '\n' := by
  have opening : entry.opening.count '\n' = 0 := List.count_eq_zero_of_not_mem entry.newline_not_mem_opening
  have dash : " — ".toList.count '\n' = 0 := by decide
  have bracket : " (".toList.count '\n' = 0 := by decide
  have close : [')'].count '\n' = 0 := by decide
  have blank : (' ' == '\n') = false := by decide
  simp only [text, List.count_append, List.count_cons, opening, count_label, dash, bracket, close, blank,
    Bool.false_eq_true, if_false, Nat.zero_add, Nat.add_zero]

end LiveEntry

/-- The lines that the entry of a task takes up, from the texts that the model
supplied: its description and what it tells of its progress. -/
def taskLines (description progress : Text) : Nat :=
  description.count '\n' + progress.count '\n' + 1

/-- The text in the progress of an advanced task. -/
def progressText : AdvancedTaskStatus → Text
  | .needsInput question => question
  | .running _ detail => detail
  | _ => []

def total : List Nat → Nat
  | [] => 0
  | count :: counts => count + total counts

/-- The lines that the running tasks of a device take up. -/
def liveLineCount (background : Background) (devicePrefix : Text) : Nat :=
  total ((background.codeTaskTracker.getRunning devicePrefix).map fun item => taskLines item.description []) +
    (total ((background.searchQueryTracker.getRunning devicePrefix).map fun item =>
        taskLines item.description []) +
      total ((background.advancedTaskTracker.getRunning devicePrefix).map fun item =>
        taskLines item.description (progressText item.status)))

theorem count_statusDetail (now startedAt : UInt64) (status : AdvancedTaskStatus) :
    (statusDetail now startedAt status).count '\n' = (progressText status).count '\n' := by
  cases status with
  | running step detail =>
      have word : "step ".toList.count '\n' = 0 := by decide +kernel
      have colon : ": ".toList.count '\n' = 0 := by decide
      have comma : ", ".toList.count '\n' = 0 := by decide
      change List.count '\n' ("step ".toList ++ (Nat.toDigits 10 step.toNat ++ (": ".toList ++ (detail ++
        (", ".toList ++ elapsed now startedAt))))) = List.count '\n' detail
      simp only [List.count_append, count_digits, count_elapsed, word, colon, comma, Nat.zero_add, Nat.add_zero]
  | needsInput question =>
      have word : "asking: ".toList.count '\n' = 0 := by decide +kernel
      change List.count '\n' ("asking: ".toList ++ question) = List.count '\n' question
      rw [List.count_append, word, Nat.zero_add]
  | completed summary => exact count_elapsed now startedAt
  | failed error => exact count_elapsed now startedAt

/-- The lines of an entry. -/
theorem entry_lines {entry : LiveEntry} {progress : Text}
    (same : entry.detail.count '\n' = progress.count '\n') :
    (textLines entry.text).length = taskLines entry.description progress := by
  rw [textLines_length entry.closed_text, entry.count_text, same, taskLines]

theorem lines_map {S : Type} {items : List S} {make : S → LiveEntry} {lines : S → Nat}
    (each : ∀ item, (textLines (make item).text).length = lines item) :
    ((items.map make).flatMap fun entry => textLines entry.text).length = total (items.map lines) := by
  induction items with
  | nil => rfl
  | cons item items inductionHypothesis =>
      rw [List.map_cons, List.flatMap_cons, List.length_append, each, inductionHypothesis]
      rfl

theorem liveEntries_lines (background : Background) (devicePrefix : Text) (now : UInt64) :
    ((liveEntries background devicePrefix now).flatMap fun entry => textLines entry.text).length =
      liveLineCount background devicePrefix := by
  have code : ∀ item, (textLines (codeEntry now item).text).length = taskLines item.description [] :=
    fun item => entry_lines (count_elapsed now item.startedAt)
  have search : ∀ item, (textLines (searchEntry now item).text).length = taskLines item.description [] :=
    fun item => entry_lines (count_elapsed now item.startedAt)
  have advanced : ∀ item, (textLines (advancedEntry now item).text).length =
      taskLines item.description (progressText item.status) :=
    fun item => entry_lines (count_statusDetail now item.startedAt item.status)
  rw [liveEntries, List.flatMap_append, List.flatMap_append, List.length_append, List.length_append,
    lines_map code, lines_map search, lines_map advanced, liveLineCount]

/-! ## The end of the lines -/

/-- The last elements of a list reach back to an end of it as far as they are
many enough. -/
theorem suffix_rtake_iff {α : Type} {back whole : List α} (ends : back <:+ whole) (count : Nat) :
    back <:+ whole.drop (whole.length - count) ↔ back.length ≤ count := by
  constructor
  · intro within
    have shorter := within.length_le
    rw [List.length_drop] at shorter
    omega
  · intro few
    have shorter := ends.length_le
    apply List.suffix_of_suffix_length_le ends (List.drop_suffix _ _)
    rw [List.length_drop]
    omega

theorem entries_closed (entries : List LiveEntry) : ∀ text ∈ entries.map LiveEntry.text, Closed text := by
  intro text member
  rcases List.mem_map.mp member with ⟨entry, _, rfl⟩
  exact entry.closed_text

theorem contextLines_length (background : Background) (devicePrefix : Text) (now : UInt64) (maxEntries : Nat) :
    (contextLines background devicePrefix now maxEntries).length ≤ maxEntries := by
  rw [contextLines, List.length_drop]
  omega

/-- The lines of the entries come last. -/
theorem entries_suffix (background : Background) (devicePrefix : Text) (now : UInt64) :
    ((liveEntries background devicePrefix now).flatMap fun entry => textLines entry.text) <:+
      textLines (List.intercalate ['\n'] (contextParts background devicePrefix now)) := by
  have joined := textLines_join (entries_closed (liveEntries background devicePrefix now))
  rw [List.flatMap_map] at joined
  simp only [contextParts]
  by_cases idle : liveEntries background devicePrefix now = []
  · rw [idle]
    exact List.nil_suffix
  · rw [if_neg idle, ← joined]
    cases readLog (background.taskLogs devicePrefix) with
    | none =>
        rw [Option.toList_none, List.nil_append, List.intercalate_singleton]
    | some log =>
        rw [Option.toList_some, List.singleton_append, List.intercalate_cons_cons, List.intercalate_singleton,
          List.append_assoc, List.singleton_append, textLines_append_newline_cons]
        exact List.suffix_append _ _

/-- The first line of a text starts with what the text starts with, up to the
end of the line. -/
theorem textLines_header {front back : Text} (absent : '\n' ∉ front) (closed : Closed (front ++ ' ' :: back)) :
    ∃ header below, textLines (front ++ ' ' :: back) = header :: below ∧ front <+: header := by
  have split : front ++ ' ' :: back = (front ++ [' ']) ++ back := by
    rw [List.append_assoc, List.singleton_append]
  have absent' : '\n' ∉ front ++ [' '] := by
    rw [List.mem_append, not_or]
    exact ⟨absent, by decide⟩
  by_cases occurs : '\n' ∈ back
  · rcases List.eq_append_cons_of_mem occurs with ⟨part, rest, rfl, flat⟩
    have line : '\n' ∉ front ++ [' '] ++ part := by
      rw [List.mem_append, not_or]
      exact ⟨absent', flat⟩
    rw [split, ← List.append_assoc, textLines_append_cons line]
    refine ⟨_, _, rfl, ?_⟩
    unfold chompLine
    split
    · rcases List.eq_nil_or_concat part with rfl | ⟨kept, char, rfl⟩
      · rw [List.append_nil, List.dropLast_concat]
      · rw [List.concat_eq_append, ← List.append_assoc, List.dropLast_concat, List.append_assoc]
        exact List.prefix_append _ _
    · rw [List.append_assoc]
      exact List.prefix_append _ _
  · have line : '\n' ∉ front ++ ' ' :: back := by
      rw [split, List.mem_append, not_or]
      exact ⟨absent', occurs⟩
    exact ⟨_, [], textLines_of_not_mem line (by simp), List.prefix_append _ _⟩

/-- The first line of an entry names its task. -/
theorem entry_header (entry : LiveEntry) :
    ∃ header below, textLines entry.text = header :: below ∧ entry.opening <+: header :=
  textLines_header entry.newline_not_mem_opening entry.closed_text

/-! ## Which entries are shown -/

/-- The line that names the task of an entry is among the lines, at its place
before the lines of the later entries. -/
def Shows (lines : List Text) (entry : LiveEntry) (later : List LiveEntry) : Prop :=
  ∃ before header below, lines = before ++ header :: (below ++ later.flatMap fun other => textLines other.text) ∧
    textLines entry.text = header :: below ∧ entry.opening <+: header

theorem shows_iff (lines : List Text) (entry : LiveEntry) (later : List LiveEntry) :
    Shows lines entry later ↔ ((entry :: later).flatMap fun other => textLines other.text) <:+ lines := by
  rw [List.flatMap_cons]
  constructor
  · rintro ⟨before, header, below, rfl, read, _⟩
    rw [read]
    exact List.suffix_append _ _
  · rintro ⟨before, rfl⟩
    rcases entry_header entry with ⟨header, below, read, opens⟩
    exact ⟨before, header, below, by rw [read]; rfl, read, opens⟩

/-- All entries are shown exactly when their lines are no more than are kept:
the first entry needs them all. -/
theorem all_shown_iff {entries : List LiveEntry} {whole : List Text} {count : Nat}
    (ends : (entries.flatMap fun entry => textLines entry.text) <:+ whole) :
    (∀ earlier entry later, entries = earlier ++ entry :: later →
        Shows (whole.drop (whole.length - count)) entry later) ↔
      entries = [] ∨ (entries.flatMap fun entry => textLines entry.text).length ≤ count := by
  constructor
  · intro all
    cases entries with
    | nil => exact .inl rfl
    | cons entry later =>
        have first := (shows_iff _ entry later).mp (all [] entry later rfl)
        exact .inr ((suffix_rtake_iff ends count).mp first)
  · rintro few earlier entry later rfl
    have last : ((entry :: later).flatMap fun other => textLines other.text) <:+ whole := by
      refine List.IsSuffix.trans ?_ ends
      rw [List.flatMap_append]
      exact List.suffix_append _ _
    rw [shows_iff, suffix_rtake_iff last]
    rcases few with none | few
    · exact absurd none (List.append_ne_nil_of_right_ne_nil _ (List.cons_ne_nil _ _))
    · rw [List.flatMap_append, List.length_append] at few
      omega

/-- The context has at most the allowed number of lines, and shows every
running task exactly when the entries take up no more lines. -/
theorem buildTaskContext_shows_iff (background : Background) (devicePrefix : Text) (now : UInt64)
    (maxEntries : Nat) :
    let entries := (background.codeTaskTracker.getRunning devicePrefix).map (codeEntry now) ++
      ((background.searchQueryTracker.getRunning devicePrefix).map (searchEntry now) ++
        (background.advancedTaskTracker.getRunning devicePrefix).map (advancedEntry now))
    let lines := contextLines background devicePrefix now maxEntries
    (buildTaskContext background devicePrefix now maxEntries = some (List.intercalate ['\n'] lines) ∨
        buildTaskContext background devicePrefix now maxEntries = none ∧ entries = []) ∧
      lines.length ≤ maxEntries ∧ (∀ line ∈ lines, '\n' ∉ line) ∧
      ((∀ earlier entry later, entries = earlier ++ entry :: later → Shows lines entry later) ↔
        entries = [] ∨ liveLineCount background devicePrefix ≤ maxEntries) := by
  intro entries lines
  refine ⟨?_, contextLines_length _ _ _ _, ?_, ?_⟩
  · unfold buildTaskContext
    split
    · rename_i none
      refine .inr ⟨rfl, ?_⟩
      by_contra busy
      have parts : contextParts background devicePrefix now =
          (readLog (background.taskLogs devicePrefix)).toList ++
            [List.intercalate ['\n'] (entries.map LiveEntry.text)] :=
        congrArg ((readLog (background.taskLogs devicePrefix)).toList ++ ·) (if_neg busy)
      rw [parts] at none
      exact List.append_ne_nil_of_right_ne_nil _ (List.cons_ne_nil _ _) none
    · exact .inl rfl
  · intro line member
    exact newline_not_mem_textLines _ line (List.mem_of_mem_drop member)
  · rw [← liveEntries_lines background devicePrefix now]
    exact all_shown_iff (entries_suffix background devicePrefix now)

/-- A task with a description of several lines. -/
def fileTask : Background where
  codeTaskTracker := ⟨fun _ => [.start 1 "Create a.md:\n\n# Travel".toList 0]⟩
  searchQueryTracker := ⟨fun _ => []⟩
  advancedTaskTracker := ⟨fun _ => []⟩
  advancedQuestions := []
  nextTaskId := 2
  taskLogs := fun _ => none

/-- One task is running, and the one line of its context does not name it. -/
theorem buildTaskContext_fileTask :
    (liveEntries fileTask [] 5).length ≤ 1 ∧
      buildTaskContext fileTask [] 5 1 = some "# Travel (5s)".toList ∧
      ∃ entry ∈ liveEntries fileTask [] 5, ∀ line ∈ contextLines fileTask [] 5 1, ¬ entry.opening <:+: line := by
  decide +kernel

end TaskContext
end Agent
end Rabb1tClaw
