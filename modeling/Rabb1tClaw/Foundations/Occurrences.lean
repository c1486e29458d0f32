import Mathlib.Data.List.Infix
import Rabb1tClaw.Foundations.Substring

namespace Foundations

/-!
# Positions of occurrences

Two searches through one text are compared by where their occurrences stand.
`OccursAt` is an occurrence at a position, and `FirstFrom` is what a search
from a position on returns; `cut_drop_iff` says so.  Two first occurrences of
one pattern agree unless the position at which one of them was looked for lies
behind the other (`FirstFrom.position_le`), and two occurrences do not overlap
in an entry in which the patterns differ (`OccursAt.entry`).

A stretch of a text keeps the position at which it starts.  `locateLines`
gives the lines of a stretch their own positions.
-/

section

variable {α : Type}

/-- The pattern stands at a position of the text. -/
def OccursAt (pattern text : List α) (position : Nat) : Prop := pattern <+: text.drop position

/-- The first occurrence of the pattern from a position on. -/
structure FirstFrom (pattern text : List α) (start position : Nat) : Prop where
  from_start : start ≤ position
  occurs : OccursAt pattern text position
  first : ∀ earlier, start ≤ earlier → earlier < position → ¬ OccursAt pattern text earlier

/-- What stands between two positions. -/
def segment (text : List α) (start stop : Nat) : List α := (text.drop start).take (stop - start)

/-- A stretch of a text: where it starts and what it is. -/
abbrev Stretch (α : Type) : Type := Nat × List α

/-- The stretch stands in the text where it says. -/
def StandsIn (stretch : Stretch α) (text : List α) : Prop := OccursAt stretch.2 text stretch.1

/-- All of a stretch lies within another one. -/
def Inside (inner outer : Stretch α) : Prop :=
  outer.1 ≤ inner.1 ∧ inner.1 + inner.2.length ≤ outer.1 + outer.2.length

instance (inner outer : Stretch α) : Decidable (Inside inner outer) :=
  inferInstanceAs (Decidable (_ ∧ _))

/-- A stretch is what stands at its position in another one. -/
def PieceOf (piece stretch : Stretch α) : Prop :=
  ∃ before after, stretch.2 = before ++ (piece.2 ++ after) ∧ piece.1 = stretch.1 + before.length

namespace OccursAt

variable {pattern text : List α} {position : Nat}

theorem entry (occurs : OccursAt pattern text position) {offset : Nat} (within : offset < pattern.length) :
    text[position + offset]? = some pattern[offset] := by
  rcases occurs with ⟨rest, split⟩
  rw [← List.getElem?_drop, ← split, List.getElem?_append_left within, List.getElem?_eq_getElem within]

theorem stop_le (occurs : OccursAt pattern text position) (nonempty : pattern ≠ []) :
    position + pattern.length ≤ text.length := by
  have short := occurs.length_le
  have positive := List.length_pos_iff.mpr nonempty
  rw [List.length_drop] at short
  omega

/-- An initial piece of what occurs occurs there as well. -/
theorem of_prefix {initial : List α} (starts : initial <+: pattern) (occurs : OccursAt pattern text position) :
    OccursAt initial text position :=
  starts.trans occurs

/-- Of two patterns that stand at one position, one starts the other. -/
theorem comparable {other : List α} {offset : Nat} (occurs : OccursAt pattern text position)
    (occurs' : OccursAt other text (position + offset)) :
    pattern.drop offset <+: other ∨ other <+: pattern.drop offset := by
  have later := occurs.drop offset
  rw [List.drop_drop] at later
  exact List.prefix_or_prefix_of_prefix later occurs'

/-- Two occurrences do not meet in an entry that one of the patterns lacks. -/
theorem apart {separator : α} {position' : Nat} (occurs : OccursAt pattern text position)
    (separates : OccursAt [separator] text position') (absent : separator ∉ pattern) :
    position' < position ∨ position + pattern.length ≤ position' := by
  apply Classical.byContradiction
  intro meets
  have within : position' - position < pattern.length := by omega
  have same := occurs.entry within
  have stands := separates.entry Nat.zero_lt_one
  rw [show position + (position' - position) = position' + 0 by omega, stands, Option.some.injEq] at same
  change separator = _ at same
  apply absent
  rw [same]
  exact List.getElem_mem within

end OccursAt

namespace FirstFrom

variable {pattern text : List α} {start start' position position' : Nat}

theorem position_le (first : FirstFrom pattern text start position) (occurs : OccursAt pattern text position')
    (later : start ≤ position') : position ≤ position' :=
  Nat.le_of_not_lt fun earlier => first.first position' later earlier occurs

theorem unique (first : FirstFrom pattern text start position)
    (first' : FirstFrom pattern text start position') : position = position' :=
  Nat.le_antisymm (first.position_le first'.occurs first'.from_start)
    (first'.position_le first.occurs first.from_start)

/-- A search that starts later finds the same occurrence as long as it starts in front of it. -/
theorem of_later (first : FirstFrom pattern text start position) (later : start ≤ start')
    (before : start' ≤ position) : FirstFrom pattern text start' position :=
  ⟨before, first.occurs, fun earlier reached => first.first earlier (Nat.le_trans later reached)⟩

/-- A search that starts earlier finds it too if nothing occurs before. -/
theorem of_earlier (first : FirstFrom pattern text start' position) (earlier : start ≤ start')
    (absent : ∀ between, start ≤ between → between < start' → ¬ OccursAt pattern text between) :
    FirstFrom pattern text start position := by
  refine ⟨Nat.le_trans earlier first.from_start, first.occurs, fun between reached before => ?_⟩
  by_cases passed : between < start'
  · exact absent between reached passed
  · exact first.first between (Nat.le_of_not_lt passed) before

end FirstFrom

theorem avoids_iff_forall_not_occursAt {pattern gap rest : List α} :
    Avoids pattern gap rest ↔ ∀ position < gap.length, ¬ OccursAt pattern (gap ++ rest) position := by
  induction gap with
  | nil => simp
  | cons head tail inductionHypothesis =>
      rw [Avoids.cons_iff, inductionHypothesis]
      constructor
      · intro avoids position within
        cases position with
        | zero => exact avoids.1
        | succ position => exact avoids.2 position (Nat.lt_of_succ_lt_succ within)
      · intro absent
        exact ⟨absent 0 (Nat.succ_pos _), fun position within => absent (position + 1) (Nat.succ_lt_succ within)⟩

theorem occursAt_drop_iff {pattern text : List α} {start offset : Nat} :
    OccursAt pattern (text.drop start) offset ↔ OccursAt pattern text (start + offset) := by
  rw [OccursAt, List.drop_drop, OccursAt]

/-- A search through the rest of a text returns its first occurrence there. -/
theorem cut_drop_iff [DecidableEq α] {pattern text before after : List α} {start : Nat} (nonempty : pattern ≠ []) :
    cut pattern (text.drop start) = some (before, after) ↔
      ∃ position, FirstFrom pattern text start position ∧ before = segment text start position ∧
        after = text.drop (position + pattern.length) := by
  constructor
  · intro found
    rcases cut_sound found with ⟨split, avoids⟩
    have absent := avoids_iff_forall_not_occursAt.mp avoids
    rw [← split] at absent
    refine ⟨start + before.length, ⟨Nat.le_add_right _ _, ?_, ?_⟩, ?_, ?_⟩
    · rw [OccursAt, ← List.drop_drop, split, List.drop_left]
      exact List.prefix_append _ _
    · intro earlier reached passed occurs
      rcases Nat.exists_eq_add_of_le reached with ⟨offset, rfl⟩
      exact absent offset (by omega) (occursAt_drop_iff.mpr occurs)
    · rw [segment, Nat.add_sub_cancel_left, split, List.take_left]
    · rw [Nat.add_assoc, ← List.drop_drop, split, ← List.drop_drop, List.drop_left, List.drop_left]
  · rintro ⟨position, first, rfl, rfl⟩
    rcases Nat.exists_eq_add_of_le first.from_start with ⟨offset, rfl⟩
    have short := first.occurs.stop_le nonempty
    have length : ((text.drop start).take offset).length = offset := by
      rw [List.length_take, List.length_drop]
      omega
    rcases occursAt_drop_iff.mpr first.occurs with ⟨rest, split⟩
    have whole : text.drop start = (text.drop start).take offset ++ (pattern ++ rest) := by
      rw [split, List.take_append_drop]
    have behind : text.drop (start + offset + pattern.length) = rest := by
      rw [← List.drop_drop, ← List.drop_drop, ← split, List.drop_left]
    have avoids : Avoids pattern ((text.drop start).take offset) (pattern ++ rest) := by
      apply avoids_iff_forall_not_occursAt.mpr
      intro position within occurs
      rw [← whole] at occurs
      rw [length] at within
      exact first.first (start + position) (Nat.le_add_right _ _) (by omega) (occursAt_drop_iff.mp occurs)
    have found := cut_of_avoids rest avoids
    rw [← whole] at found
    rw [found, segment, Nat.add_sub_cancel_left, behind]

theorem cut_iff [DecidableEq α] {pattern text before after : List α} (nonempty : pattern ≠ []) :
    cut pattern text = some (before, after) ↔
      ∃ position, FirstFrom pattern text 0 position ∧ before = segment text 0 position ∧
        after = text.drop (position + pattern.length) := by
  change cut pattern (text.drop 0) = some (before, after) ↔ _
  exact cut_drop_iff nonempty

/-! ## Stretches -/

theorem length_segment {text : List α} {start stop : Nat} (within : stop ≤ text.length) :
    (segment text start stop).length = stop - start := by
  rw [segment, List.length_take, List.length_drop]
  omega

/-- What a search passes over reaches to what it finds. -/
theorem FirstFrom.add_length_segment {pattern text : List α} {start position : Nat}
    (first : FirstFrom pattern text start position) (nonempty : pattern ≠ []) :
    start + (segment text start position).length = position := by
  have stop := first.occurs.stop_le nonempty
  have ordered := first.from_start
  rw [length_segment (by omega)]
  omega

/-- A stretch is inside of what a search passes over if it is between the two positions. -/
theorem FirstFrom.inside_segment_iff {pattern text : List α} {start position : Nat} {stretch : Stretch α}
    (first : FirstFrom pattern text start position) (nonempty : pattern ≠ []) :
    Inside stretch (start, segment text start position) ↔
      start ≤ stretch.1 ∧ stretch.1 + stretch.2.length ≤ position := by
  rw [Inside, first.add_length_segment nonempty]

theorem segment_standsIn (text : List α) (start stop : Nat) : StandsIn (start, segment text start stop) text :=
  List.take_prefix _ _

/-- Lines that follow each other, with their positions: there is one entry
between two lines. -/
def locateLines : Nat → List (List α) → List (Stretch α)
  | _, [] => []
  | position, line :: lines => (position, line) :: locateLines (position + line.length + 1) lines

theorem map_snd_locateLines (position : Nat) (lines : List (List α)) :
    (locateLines position lines).map Prod.snd = lines := by
  induction lines generalizing position with
  | nil => rfl
  | cons line lines inductionHypothesis => rw [locateLines, List.map_cons, inductionHypothesis]

namespace PieceOf

variable {piece stretch outer : Stretch α}

theorem trans (inner : PieceOf piece stretch) (within : PieceOf stretch outer) : PieceOf piece outer := by
  rcases inner with ⟨before, after, split, located⟩
  rcases within with ⟨before', after', split', located'⟩
  refine ⟨before' ++ before, after ++ after', ?_, ?_⟩
  · rw [split', split]
    simp only [List.append_assoc]
  · rw [located, located', List.length_append, Nat.add_assoc]

theorem inside (inner : PieceOf piece stretch) : Inside piece stretch := by
  rcases inner with ⟨before, after, split, located⟩
  rw [Inside, located, split, List.length_append, List.length_append]
  omega

/-- A piece of what stands in a text stands in it as well. -/
theorem standsIn {text : List α} (inner : PieceOf piece stretch) (stands : StandsIn stretch text) :
    StandsIn piece text := by
  rcases inner with ⟨before, after, split, located⟩
  rcases stands with ⟨rest, whole⟩
  refine ⟨after ++ rest, ?_⟩
  rw [located, ← List.drop_drop, ← whole, split, List.append_assoc, List.append_assoc, List.drop_left]

/-- Of two stretches of one text, the one inside is a piece of the other. -/
theorem of_inside {text : List α} (stands : StandsIn piece text) (stands' : StandsIn outer text)
    (inside : Inside piece outer) : PieceOf piece outer := by
  rcases Nat.exists_eq_add_of_le inside.1 with ⟨offset, located⟩
  have fits := inside.2
  have within : piece.2 <+: outer.2.drop offset := by
    apply List.prefix_of_prefix_length_le stands
    · have later := stands'.drop offset
      rwa [List.drop_drop, ← located] at later
    · rw [List.length_drop]
      omega
  rcases within with ⟨after, split⟩
  refine ⟨outer.2.take offset, after, ?_, ?_⟩
  · rw [split, List.take_append_drop]
  · rw [located, List.length_take]
    have shorter := congrArg List.length split
    rw [List.length_append, List.length_drop] at shorter
    omega

end PieceOf

/-- A line is a piece of what the lines make up. -/
theorem pieceOf_of_mem_locateLines (separator : α) {position : Nat} {lines : List (List α)} {line : Stretch α}
    (member : line ∈ locateLines position lines) :
    PieceOf line (position, [separator].intercalate lines) := by
  induction lines generalizing position with
  | nil => cases member
  | cons head lines inductionHypothesis =>
      rcases List.mem_cons.mp member with rfl | later
      · cases lines with
        | nil => exact ⟨[], [], by simp [List.intercalate], rfl⟩
        | cons next lines =>
            exact ⟨[], [separator] ++ [separator].intercalate (next :: lines),
              by rw [List.intercalate_cons_cons]; simp, rfl⟩
      · rcases inductionHypothesis later with ⟨before, after, split, located⟩
        cases lines with
        | nil => cases later
        | cons next lines =>
            simp only at split located
            refine ⟨head ++ separator :: before, after, ?_, ?_⟩
            · rw [List.intercalate_cons_cons, split]
              simp
            · rw [located, List.length_append, List.length_cons]
              omega

/-- Every line has a position. -/
theorem exists_mem_locateLines {lines : List (List α)} {line : List α} (member : line ∈ lines) (position : Nat) :
    ∃ located ∈ locateLines position lines, located.2 = line := by
  rw [← map_snd_locateLines position lines] at member
  exact List.mem_map.mp member

end

end Foundations
