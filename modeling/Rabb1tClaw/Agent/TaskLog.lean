import Mathlib.Data.List.DropRight
import Rabb1tClaw.Agent.Background
import Rabb1tClaw.Foundations.SharedCell

namespace Rabb1tClaw
namespace Agent

open Foundations

/-!
# Appending to the task log

An append reads the log of a device, adds a line, drops the oldest lines
beyond a limit, and writes the log back.  Tasks and runs of the device append
without a lock, so one may write between the read and the write of another.
The other then writes back what it had read, and the line in between is gone.

One line of an entry may differ from what is read back: `str::lines` takes a
carriage return off the end of a line, one at every reading.  Lines are
therefore compared without trailing carriage returns.
-/

/-- What one call of `append` logs.  The stamp is a time of day. -/
structure LogEntry where
  stamp : Text
  event : Text
  stamp_line : '\n' ∉ stamp

/-- A line without the carriage returns at its end. -/
def bareLine (line : Text) : Text := line.rdropWhile (· = '\r')

namespace LogEntry

/-- The line of an entry. -/
def line (entry : LogEntry) : Text :=
  '[' :: (entry.stamp ++ ("] ".toList ++ entry.event.map fun char => if char = '\n' then ' ' else char))

end LogEntry

/-- The lines that `append` finds in a log. -/
def storedLines (content : Option Text) : List Text :=
  (textLines (content.getD [])).filter fun line => line ≠ []

/-- The events in a log. -/
def loggedLines (content : Option Text) : List Text := (storedLines content).map bareLine

/-- The file of a device, to which the calls append their entries. -/
def taskLog (entries : Nat → LogEntry) (maxEntries : Nat) : Machine (Cell (Option Text)) CellStep :=
  sharedCell fun content call =>
    some (appendLog content (entries call).stamp (entries call).event maxEntries)

/-- The log ends with the events of the last calls that completed. -/
def KeepsLast (entries : Nat → LogEntry) (maxEntries : Nat) (log : Cell (Option Text)) : Prop :=
  ((log.completed.map fun call => bareLine (entries call).line).rtake maxEntries) <:+
    loggedLines log.content

instance (entries : Nat → LogEntry) (maxEntries : Nat) (log : Cell (Option Text)) :
    Decidable (KeepsLast entries maxEntries log) :=
  inferInstanceAs (Decidable (_ <:+ _))

/-! ## Lines -/

/-- What `str::lines` makes of a line. -/
def chompLine (line : Text) : Text := if line.getLast? = some '\r' then line.dropLast else line

theorem bareLine_chompLine (line : Text) : bareLine (chompLine line) = bareLine line := by
  unfold chompLine
  split
  · rename_i last
    rcases List.getLast?_eq_some_iff.mp last with ⟨front, rfl⟩
    rw [List.dropLast_concat, bareLine, bareLine, List.rdropWhile_concat_pos _ _ _ (by simp)]
  · rfl

theorem bareLine_line_ne_nil (entry : LogEntry) : bareLine entry.line ≠ [] := by
  intro empty
  have all := List.rdropWhile_eq_nil_iff.mp empty '[' List.mem_cons_self
  exact absurd (of_decide_eq_true all) (by decide)

theorem newline_not_mem_line (entry : LogEntry) : '\n' ∉ entry.line := by
  intro member
  rcases List.mem_cons.mp member with same | rest
  · exact absurd same (by decide)
  · rcases List.mem_append.mp rest with inStamp | rest
    · exact entry.stamp_line inStamp
    · rcases List.mem_append.mp rest with inBracket | inEvent
      · exact absurd inBracket (by decide)
      · rcases List.mem_map.mp inEvent with ⟨char, _, same⟩
        split at same
        · exact absurd same (by decide)
        · rename_i differs
          exact differs same

theorem textLines_append_cons {part : Text} (absent : '\n' ∉ part) (rest : Text) :
    textLines (part ++ '\n' :: rest) = chompLine part :: textLines rest := by
  rw [textLines, textLines, completeParts_append_cons absent, openPart_append_cons absent,
    List.map_cons, List.cons_append, chompLine]

theorem newline_not_mem_textLines (text : Text) : ∀ line ∈ textLines text, '\n' ∉ line := by
  induction text using parts_induction '\n' with
  | last part absent =>
      intro line member
      rw [textLines, completeParts_of_not_mem absent, openPart_of_not_mem absent] at member
      rcases List.mem_append.mp member with complete | last
      · cases complete
      · split at last
        · cases last
        · exact List.mem_singleton.mp last ▸ absent
  | next part rest absent inductionHypothesis =>
      intro line member
      rw [textLines_append_cons absent] at member
      rcases List.mem_cons.mp member with rfl | later
      · unfold chompLine
        split
        · exact fun inside => absent (List.mem_of_mem_dropLast inside)
        · exact absent
      · exact inductionHypothesis line later

/-- Lines that are written are read back, without a carriage return each. -/
theorem textLines_intercalate {first : Text} {rest : List Text}
    (flat : ∀ line ∈ first :: rest, '\n' ∉ line) :
    textLines (List.intercalate ['\n'] (first :: rest) ++ ['\n']) = (first :: rest).map chompLine := by
  induction rest generalizing first with
  | nil =>
      have single : List.intercalate ['\n'] [first] ++ ['\n'] = first ++ '\n' :: [] := by simp
      rw [single, textLines_append_cons (flat first List.mem_cons_self)]
      rfl
  | cons second rest inductionHypothesis =>
      have joined : List.intercalate ['\n'] (first :: second :: rest) ++ ['\n'] =
          first ++ '\n' :: (List.intercalate ['\n'] (second :: rest) ++ ['\n']) := by
        simp [List.intercalate]
      rw [joined, textLines_append_cons (flat first List.mem_cons_self),
        inductionHypothesis fun line member => flat line (List.mem_cons_of_mem first member)]
      rfl

/-! ## The last elements of a list -/

theorem rtake_suffix {α : Type} (list : List α) (count : Nat) : list.rtake count <:+ list :=
  List.drop_suffix _ list

theorem map_rtake {α β : Type} (transform : α → β) (list : List α) (count : Nat) :
    (list.rtake count).map transform = (list.map transform).rtake count := by
  rw [List.rtake, List.rtake, List.map_drop, List.length_map]

theorem rtake_suffix_append {α : Type} (front list : List α) (count : Nat) :
    list.rtake count <:+ (front ++ list).rtake count := by
  rw [List.rtake_eq_reverse_take_reverse, List.rtake_eq_reverse_take_reverse, List.reverse_append,
    List.take_append, List.reverse_append]
  exact List.suffix_append _ _

theorem rtake_rtake_concat {α : Type} (list : List α) (last : α) (count : Nat) :
    (list.rtake count ++ [last]).rtake count = (list ++ [last]).rtake count := by
  cases count with
  | zero => rw [List.rtake_zero, List.rtake_zero]
  | succ count =>
      rw [List.rtake_concat_succ, List.rtake_concat_succ, List.rtake_eq_reverse_take_reverse,
        List.rtake_eq_reverse_take_reverse, List.rtake_eq_reverse_take_reverse, List.reverse_reverse,
        List.take_take, Nat.min_eq_left (Nat.le_succ count)]

/-! ## One append -/

theorem storedLines_appendLog (content : Option Text) (entry : LogEntry) (maxEntries : Nat) :
    storedLines (some (appendLog content entry.stamp entry.event maxEntries)) =
      (((storedLines content ++ [entry.line]).rtake maxEntries).map chompLine).filter
        fun line => line ≠ [] := by
  have flat : ∀ line ∈ (storedLines content ++ [entry.line]).rtake maxEntries, '\n' ∉ line := by
    intro line member
    rcases List.mem_append.mp ((rtake_suffix _ _).subset member) with stored | last
    · exact newline_not_mem_textLines _ line (List.mem_filter.mp stored).1
    · exact List.mem_singleton.mp last ▸ newline_not_mem_line entry
  have written : appendLog content entry.stamp entry.event maxEntries =
      List.intercalate ['\n'] ((storedLines content ++ [entry.line]).rtake maxEntries) ++ ['\n'] := rfl
  rw [storedLines, Option.getD_some, written]
  cases kept : (storedLines content ++ [entry.line]).rtake maxEntries with
  | nil => rfl
  | cons first rest => rw [textLines_intercalate (kept ▸ flat)]

theorem map_bareLine_chompLine (lines : List Text) :
    (lines.map chompLine).map bareLine = lines.map bareLine := by
  rw [List.map_map]
  exact List.map_congr_left fun line _ => bareLine_chompLine line

/-- What stood at the end of a log stands before the new line, as far as the
limit allows. -/
theorem loggedLines_appendLog {content : Option Text} {kept : List Text}
    (stood : kept <:+ loggedLines content) (named : ∀ line ∈ kept, line ≠ []) (entry : LogEntry)
    (maxEntries : Nat) :
    (kept ++ [bareLine entry.line]).rtake maxEntries <:+
      loggedLines (some (appendLog content entry.stamp entry.event maxEntries)) := by
  rcases stood with ⟨front, split⟩
  rcases List.map_eq_append_iff.mp split.symm with ⟨older, newer, stored, _, rfl⟩
  rw [loggedLines, storedLines_appendLog, stored, List.append_assoc]
  have within := rtake_suffix_append older (newer ++ [entry.line]) maxEntries
  have nonempty : ∀ line ∈ ((newer ++ [entry.line]).rtake maxEntries).map chompLine,
      decide (line ≠ []) = true := by
    intro line member
    rcases List.mem_map.mp member with ⟨written, here, rfl⟩
    refine decide_eq_true fun empty => ?_
    have bare : bareLine written = [] := by rw [← bareLine_chompLine, empty]; rfl
    rcases List.mem_append.mp ((rtake_suffix _ _).subset here) with inNewer | last
    · exact named _ (List.mem_map_of_mem inNewer) bare
    · exact bareLine_line_ne_nil entry (List.mem_singleton.mp last ▸ bare)
  have lines : ((((newer ++ [entry.line]).rtake maxEntries).map chompLine).filter
      fun line => line ≠ []).map bareLine =
        (newer.map bareLine ++ [bareLine entry.line]).rtake maxEntries := by
    rw [List.filter_eq_self.mpr nonempty, map_bareLine_chompLine, map_rtake, List.map_append]
    rfl
  rw [← lines]
  exact ((within.map chompLine).filter _).map bareLine

/-- A log has no lines but those that stood in it and the new one. -/
theorem mem_loggedLines_appendLog {content : Option Text} {entry : LogEntry} {maxEntries : Nat}
    {line : Text}
    (member : line ∈ loggedLines (some (appendLog content entry.stamp entry.event maxEntries))) :
    line ∈ loggedLines content ∨ line = bareLine entry.line := by
  rw [loggedLines, storedLines_appendLog] at member
  rcases List.mem_map.mp member with ⟨stored, here, rfl⟩
  rcases List.mem_map.mp (List.mem_filter.mp here).1 with ⟨written, there, rfl⟩
  rw [bareLine_chompLine]
  rcases List.mem_append.mp ((rtake_suffix _ _).subset there) with before | last
  · exact .inl (List.mem_map_of_mem before)
  · exact .inr (congrArg bareLine (List.mem_singleton.mp last))

/-! ## Runs of appends -/

section

variable {entries : Nat → LogEntry} {maxEntries : Nat} {log next : Cell (Option Text)}

/-- Appends that are made one after the other keep the last events. -/
theorem keepsLast_of_serial {initial : Option Text}
    (serial : Cell.Serial (fun content call =>
      some (appendLog content (entries call).stamp (entries call).event maxEntries)) initial log) :
    KeepsLast entries maxEntries log := by
  rw [KeepsLast, serial.content]
  induction log.completed using List.reverseRecOn with
  | nil =>
      rw [List.map_nil, List.rtake_nil]
      exact List.nil_suffix
  | append_singleton earlier call inductionHypothesis =>
      rw [List.map_append, List.foldl_append, List.map_singleton, ← rtake_rtake_concat]
      refine loggedLines_appendLog inductionHypothesis (fun line member empty => ?_) (entries call)
        maxEntries
      rcases List.mem_map.mp ((rtake_suffix _ _).subset member) with ⟨other, _, same⟩
      exact bareLine_line_ne_nil (entries other) (same.trans empty)

/-- One line or none is kept by every write. -/
theorem keepsLast_write_of_le_one (few : maxEntries ≤ 1) {call : Nat}
    (steps : (taskLog entries maxEntries).step log (.write call) = some next) :
    KeepsLast entries maxEntries next := by
  rcases Cell.write_cases steps with ⟨snapshot, _, rfl⟩
  have only (lines : List Text) (last : Text) :
      (lines ++ [last]).rtake maxEntries = ([] ++ [last]).rtake maxEntries := by
    rcases Nat.le_one_iff_eq_zero_or_eq_one.mp few with rfl | rfl
    · rw [List.rtake_zero, List.rtake_zero]
    · rw [List.rtake_concat_succ, List.rtake_concat_succ, List.rtake_zero, List.rtake_zero]
  rw [KeepsLast, List.map_append, List.map_singleton, only]
  exact loggedLines_appendLog List.nil_suffix (by simp) (entries call) maxEntries

theorem keepsLast_read {call : Nat} (keeps : KeepsLast entries maxEntries log)
    (steps : (taskLog entries maxEntries).step log (.read call) = some next) :
    KeepsLast entries maxEntries next := by
  rcases Cell.read_cases steps with ⟨_, _, rfl⟩
  exact keeps

/-- No other call of the device completes between the read and the write of a
call, unless the log has room for one line only. -/
def Alone (maxEntries : Nat) (log : Cell (Option Text)) (action : CellStep) : Prop :=
  maxEntries ≤ 1 ∨ log.Undisturbed action

instance (maxEntries : Nat) (log : Cell (Option Text)) (action : CellStep) :
    Decidable (Alone maxEntries log action) :=
  inferInstanceAs (Decidable (_ ∨ _))

/-- Run lemma: the log ends with the last events throughout. -/
theorem keepsLast_of_alone {initial : Option Text} {schedule : List CellStep}
    (alone : (taskLog entries maxEntries).Guarded (Alone maxEntries) (.start initial) schedule) :
    (taskLog entries maxEntries).Throughout (KeepsLast entries maxEntries) (.start initial) schedule := by
  by_cases few : maxEntries ≤ 1
  · have started : KeepsLast entries maxEntries (.start initial) := by
      rw [KeepsLast, Cell.start, List.map_nil, List.rtake_nil]
      exact List.nil_suffix
    refine Machine.throughout_of_guarded (fun state action next keeps _ steps => ?_)
      (fun _ keeps => keeps) started alone
    cases action with
    | read call => exact keepsLast_read keeps steps
    | write call => exact keepsLast_write_of_le_one few steps
  · exact Machine.throughout_of_guarded
      (fun _ _ _ serial alone steps => Cell.Serial.step serial (alone.resolve_left few) steps)
      (fun _ serial => keepsLast_of_serial serial) (Cell.serial_start _ initial) alone

/-- Every event in the log or in a snapshot is of the initial log or of a call
that had completed. -/
structure Traced (entries : Nat → LogEntry) (initial : Option Text) (log : Cell (Option Text)) : Prop where
  sound : log.Sound
  content : ∀ line ∈ loggedLines log.content, line ∈ loggedLines initial ∨
    ∃ call ∈ log.completed, line = bareLine (entries call).line
  held : ∀ call snapshot, log.held call = some snapshot →
    ∀ line ∈ loggedLines snapshot.content, line ∈ loggedLines initial ∨
      ∃ other ∈ log.completed.take snapshot.seen, line = bareLine (entries other).line

theorem traced_start (entries : Nat → LogEntry) (initial : Option Text) :
    Traced entries initial (.start initial) where
  sound := Cell.sound_start initial
  content := fun _ member => .inl member
  held := by rintro call snapshot ⟨⟩

theorem Traced.step {initial : Option Text} {action : CellStep} (traced : Traced entries initial log)
    (steps : (taskLog entries maxEntries).step log action = some next) :
    Traced entries initial next := by
  refine ⟨traced.sound.step steps, ?_, ?_⟩
  · cases action with
    | read call =>
        rcases Cell.read_cases steps with ⟨_, _, rfl⟩
        exact traced.content
    | write call =>
        rcases Cell.write_cases steps with ⟨snapshot, holds, rfl⟩
        intro line member
        rcases mem_loggedLines_appendLog member with before | last
        · rcases traced.held call snapshot holds line before with old | ⟨other, here, same⟩
          · exact .inl old
          · exact .inr ⟨other, List.mem_append_left _ (List.mem_of_mem_take here), same⟩
        · exact .inr ⟨call, List.mem_append_right _ (List.mem_singleton.mpr rfl), last⟩
  · intro other snapshot holds line member
    cases action with
    | read call =>
        rcases Cell.read_cases steps with ⟨_, _, rfl⟩
        rcases update_eq_cases holds with ⟨rfl, new⟩ | ⟨_, before⟩
        · rcases Option.some.inj new with rfl
          rw [List.take_length]
          exact traced.content line member
        · exact traced.held other snapshot before line member
    | write call =>
        rcases Cell.write_cases steps with ⟨written, _, rfl⟩
        rcases update_eq_cases holds with ⟨_, gone⟩ | ⟨_, before⟩
        · cases gone
        · rw [List.take_append_of_le_length (traced.sound.earlier other snapshot before)]
          exact traced.held other snapshot before line member

/-- A write from a stale snapshot loses the event of the last call. -/
theorem Traced.alone_of_keepsLast {initial : Option Text} {action : CellStep}
    (traced : Traced entries initial log)
    (distinct : ∀ call call', bareLine (entries call).line = bareLine (entries call').line → call = call')
    (new : ∀ call, bareLine (entries call).line ∉ loggedLines initial)
    (steps : (taskLog entries maxEntries).step log action = some next)
    (keeps : KeepsLast entries maxEntries next) : Alone maxEntries log action := by
  by_cases few : maxEntries ≤ 1
  · exact .inl few
  refine .inr ?_
  cases action with
  | read call => trivial
  | write call =>
      intro snapshot holds
      by_contra stale
      rcases Cell.write_cases steps with ⟨written, same, rfl⟩
      rcases Option.some.inj (holds.symm.trans same) with rfl
      have earlier : snapshot.seen < log.completed.length :=
        Nat.lt_of_le_of_ne (traced.sound.earlier call snapshot holds) stale
      rcases List.eq_nil_or_concat' log.completed with empty | ⟨before, last, split⟩
      · rw [empty] at earlier
        exact Nat.not_lt_zero _ earlier
      have absent := traced.sound.waiting call snapshot holds
      have fresh := traced.sound.distinct
      rw [split] at absent fresh earlier
      -- the limit leaves room for the event of the last call before the new one
      have logged : bareLine (entries last).line ∈
          loggedLines (some (appendLog snapshot.content (entries call).stamp (entries call).event
            maxEntries)) := by
        rcases Nat.exists_eq_add_of_le' (Nat.lt_of_not_le few) with ⟨room, rfl⟩
        refine keeps.subset ?_
        rw [split, List.map_append, List.map_append, List.map_singleton, List.map_singleton,
          List.rtake_concat_succ, List.rtake_concat_succ]
        exact List.mem_append_left _ (List.mem_append_right _ (List.mem_singleton.mpr rfl))
      rcases mem_loggedLines_appendLog logged with stood | own
      · rcases traced.held call snapshot holds _ stood with old | ⟨other, here, same⟩
        · exact new last old
        · rcases distinct last other same with rfl
          rw [List.length_append, List.length_singleton] at earlier
          rw [split, List.take_append_of_le_length (Nat.le_of_lt_succ earlier)] at here
          exact (List.nodup_append.mp fresh).2.2 _ (List.mem_of_mem_take here) _
            (List.mem_singleton.mpr rfl) rfl
      · rcases distinct last call own with rfl
        exact absent (List.mem_append_right _ (List.mem_singleton.mpr rfl))

/-- A device's log keeps the events of the last calls if no other call completes
between the read and the write of a call.  When all events differ, it keeps
them only then. -/
theorem taskLog_keepsLast_iff (entries : Nat → LogEntry) (maxEntries : Nat) (initial : Option Text)
    (schedule : List CellStep) :
    ((taskLog entries maxEntries).Guarded (Alone maxEntries) (.start initial) schedule →
        (taskLog entries maxEntries).Throughout (KeepsLast entries maxEntries) (.start initial)
          schedule) ∧
      ((∀ call call', bareLine (entries call).line = bareLine (entries call').line → call = call') →
        (∀ call, bareLine (entries call).line ∉ loggedLines initial) →
          ((taskLog entries maxEntries).run (.start initial) schedule).isSome →
            (taskLog entries maxEntries).Throughout (KeepsLast entries maxEntries) (.start initial)
                schedule →
              (taskLog entries maxEntries).Guarded (Alone maxEntries) (.start initial) schedule) := by
  refine ⟨keepsLast_of_alone, fun distinct new completes throughout => ?_⟩
  rcases Option.isSome_iff_exists.mp completes with ⟨final, runs⟩
  exact Machine.guarded_of_throughout (fun _ _ _ traced steps => traced.step steps)
    (fun _ _ _ traced steps keeps => traced.alone_of_keepsLast distinct new steps keeps)
    (traced_start entries initial) runs throughout

end

/-- Two tasks that complete at the same time. -/
def twoTasks (call : Nat) : LogEntry where
  stamp := "12:00:00".toList
  event := "completed #".toList ++ Nat.toDigits 10 (call + 1)
  stamp_line := by decide

theorem bareLine_digits {front digits : Text} (nonempty : digits ≠ [])
    (isDigit : ∀ char ∈ digits, char.isDigit = true) : bareLine (front ++ digits) = front ++ digits := by
  rw [bareLine, List.rdropWhile_eq_self_iff]
  intro _ carriage
  rw [List.getLast_append_of_ne_nil _ nonempty] at carriage
  have digit := isDigit _ (List.getLast_mem nonempty)
  rw [of_decide_eq_true carriage] at digit
  exact absurd digit (by decide)

theorem map_digits {digits : Text} (isDigit : ∀ char ∈ digits, char.isDigit = true) :
    (digits.map fun char => if char = '\n' then ' ' else char) = digits := by
  refine (List.map_congr_left fun char member => if_neg ?_).trans (List.map_id' _)
  rintro rfl
  exact absurd (isDigit _ member) (by decide)

theorem bareLine_twoTasks (call : Nat) :
    bareLine (twoTasks call).line = "[12:00:00] completed #".toList ++ Nat.toDigits 10 (call + 1) := by
  have digits : ∀ char ∈ Nat.toDigits 10 (call + 1), char.isDigit = true := fun char member =>
    Nat.isDigit_of_mem_toDigits (by decide) (by decide) member
  have line : (twoTasks call).line = "[12:00:00] completed #".toList ++
      (Nat.toDigits 10 (call + 1)).map fun char => if char = '\n' then ' ' else char := rfl
  rw [line, map_digits digits, bareLine_digits Nat.toDigits_ne_nil digits]

/-- Their lines differ by the numbers. -/
theorem twoTasks_distinct {call call' : Nat}
    (same : bareLine (twoTasks call).line = bareLine (twoTasks call').line) : call = call' := by
  rw [bareLine_twoTasks, bareLine_twoTasks] at same
  have numbers := congrArg (Nat.ofDigitChars 10 · 0) (List.append_cancel_left same)
  simp only [Nat.ofDigitChars_ten_toDigits] at numbers
  exact Nat.succ.inj numbers

def oneAfterTheOther : List CellStep := [.read 0, .write 0, .read 1, .write 1]

def overlapping : List CellStep := [.read 0, .read 1, .write 0, .write 1]

theorem twoTasks_keepsLast :
    (taskLog twoTasks 50).Throughout (KeepsLast twoTasks 50) (.start none) oneAfterTheOther ∧
      ¬ (taskLog twoTasks 50).Throughout (KeepsLast twoTasks 50) (.start none) overlapping := by
  constructor
  · apply (taskLog_keepsLast_iff twoTasks 50 none oneAfterTheOther).1
    decide +kernel
  · intro throughout
    have alone := (taskLog_keepsLast_iff twoTasks 50 none overlapping).2 (fun _ _ => twoTasks_distinct)
      (fun _ => List.not_mem_nil) (by decide +kernel) throughout
    exact absurd alone (by decide +kernel)

theorem overlapping_runs :
    ((taskLog twoTasks 50).run (.start none) overlapping).any (fun final =>
      final.completed = [0, 1] ∧ ¬ KeepsLast twoTasks 50 final) = true := by
  decide +kernel

/-- With room for fifty events, the first of two is missing. -/
theorem overlapping_loses_event :
    ∃ final, (taskLog twoTasks 50).run (.start none) overlapping = some final ∧
      final.completed = [0, 1] ∧ ¬ KeepsLast twoTasks 50 final := by
  rcases (Option.any_eq_true _ _).mp overlapping_runs with ⟨final, runs, lost⟩
  exact ⟨final, runs, of_decide_eq_true lost⟩

end Agent
end Rabb1tClaw
