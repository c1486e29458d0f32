import Rabb1tClaw.Foundations.Substring

namespace Foundations

/-!
# Texts with delimited blocks

A scanner for blocks repeats three moves: find an opener, find a closer
behind it, resume behind the closer.  Scanners of one format can still
disagree, because they differ in where the search for the closer begins and
in what they drop before they resume.  Both choices are fields of
`Delimiters`: `overlap` is the end of the opener that the closer search reads
again, and `resume` separates what is dropped after a closer from the text in
which the scan continues.

`Laid` relates a text to the sequence of gaps and blocks that such a scanner
finds.  Every text has exactly one layout, so a property of a scanner is
proved by induction on the layout and compared across scanners of the same
format by comparing layouts.
-/

structure Delimiters (α : Type) where
  opener : List α
  closer : List α
  /-- The end of the opener that the search for a closer reads again. -/
  overlap : List α
  /-- What is dropped after a closer, and the text in which the scan resumes. -/
  resume : List α → List α × List α
  opener_ne : opener ≠ []
  closer_ne : closer ≠ []
  overlap_le : overlap.length ≤ opener.length
  resume_append : ∀ rest, (resume rest).1 ++ (resume rest).2 = rest

/-- The gaps and blocks of a text in order. -/
inductive Layout (α : Type) where
  | plain (text : List α)
  | unclosed (gap body : List α)
  | block (gap body trailing : List α) (rest : Layout α)

variable {α : Type} [DecidableEq α]

/-- The layout a scanner finds in a text. -/
inductive Laid (d : Delimiters α) : List α → Layout α → Prop
  | plain {text : List α} (opens : cut d.opener text = none) : Laid d text (.plain text)
  | unclosed {text gap after : List α} (opens : cut d.opener text = some (gap, after))
      (closes : cut d.closer (d.overlap ++ after) = none) : Laid d text (.unclosed gap after)
  | block {text gap after body rest : List α} {layout : Layout α}
      (opens : cut d.opener text = some (gap, after))
      (closes : cut d.closer (d.overlap ++ after) = some (body, rest))
      (later : Laid d (d.resume rest).2 layout) :
      Laid d text (.block gap body (d.resume rest).1 layout)

namespace Delimiters

/-- The scan resumes in a strictly shorter text. -/
theorem resume_length_lt (d : Delimiters α) {text gap after body rest : List α}
    (opens : cut d.opener text = some (gap, after))
    (closes : cut d.closer (d.overlap ++ after) = some (body, rest)) :
    (d.resume rest).2.length < text.length := by
  have resumed := congrArg List.length (d.resume_append rest)
  have closed := congrArg List.length (cut_sound closes).1
  have opened := congrArg List.length (cut_sound opens).1
  have positive := List.length_pos_iff.mpr d.closer_ne
  have short := d.overlap_le
  simp only [List.length_append] at resumed closed opened
  omega

end Delimiters

/-- Read a text as gaps and blocks. -/
def scan (d : Delimiters α) (text : List α) : Layout α :=
  match _opens : cut d.opener text with
  | none => .plain text
  | some (gap, after) =>
      match _closes : cut d.closer (d.overlap ++ after) with
      | none => .unclosed gap after
      | some (body, rest) => .block gap body (d.resume rest).1 (scan d (d.resume rest).2)
termination_by text.length
decreasing_by exact d.resume_length_lt _opens _closes

/-- The relation describes the function: every text has its scan as layout. -/
theorem scan_laid (d : Delimiters α) (text : List α) : Laid d text (scan d text) := by
  induction size : text.length using Nat.strongRecOn generalizing text with
  | ind size inductionHypothesis =>
      rw [scan]
      split
      · rename_i opens
        exact .plain opens
      · rename_i gap after opens
        split
        · rename_i closes
          exact .unclosed opens closes
        · rename_i body rest closes
          have shorter := d.resume_length_lt opens closes
          exact .block opens closes (inductionHypothesis _ (size ▸ shorter) _ rfl)

namespace Laid

variable {d : Delimiters α}

/-- The scan is deterministic. -/
theorem unique {text : List α} {first second : Layout α} (left : Laid d text first)
    (right : Laid d text second) : first = second := by
  induction left generalizing second with
  | plain opens =>
      cases right with
      | plain => rfl
      | unclosed opens' => rw [opens] at opens'; cases opens'
      | block opens' => rw [opens] at opens'; cases opens'
  | unclosed opens closes =>
      cases right with
      | plain opens' => rw [opens] at opens'; cases opens'
      | unclosed opens' => rw [opens] at opens'; cases opens'; rfl
      | block opens' closes' =>
          rw [opens] at opens'
          cases opens'
          rw [closes] at closes'
          cases closes'
  | block opens closes later inductionHypothesis =>
      cases right with
      | plain opens' => rw [opens] at opens'; cases opens'
      | unclosed opens' closes' =>
          rw [opens] at opens'
          cases opens'
          rw [closes] at closes'
          cases closes'
      | block opens' closes' later' =>
          rw [opens] at opens'
          cases opens'
          rw [closes] at closes'
          cases closes'
          rw [inductionHypothesis later']

/-- A layout found by the rules is the scan. -/
theorem scan_eq {text : List α} {layout : Layout α} (laid : Laid d text layout) :
    scan d text = layout :=
  (scan_laid d text).unique laid

end Laid

namespace Layout

/-- The number of closed blocks. -/
def blockCount : Layout α → Nat
  | plain _ => 0
  | unclosed _ _ => 0
  | block _ _ _ rest => rest.blockCount + 1

end Layout

/-- Every block consumes some of the text, so a scanner needs no more passes
than the text has entries. -/
theorem Laid.blockCount_le {d : Delimiters α} {text : List α} {layout : Layout α}
    (laid : Laid d text layout) : layout.blockCount ≤ text.length := by
  induction laid with
  | plain => exact Nat.zero_le _
  | unclosed => exact Nat.zero_le _
  | block opens closes later inductionHypothesis =>
      have shorter := d.resume_length_lt opens closes
      simp only [Layout.blockCount]
      omega

end Foundations
