import Rabb1tClaw.Foundations.Substring

namespace Foundations

/-!
# Patterns across the seams of joined pieces

Pieces of a text that do not contain a pattern can still contain it once they
are joined.  The occurrence then crosses a seam: it starts with the end of one
piece, covers the pieces behind it, and stops with the beginning of a later
one.  `Spliced` names these parts, and `infix_flatten_iff` says that nothing
else can go wrong.
-/

variable {α : Type}

/-- The end of a piece, the pieces behind it and the beginning of a later
piece make up the pattern. -/
def Spliced (pattern : List α) (pieces : List (List α)) : Prop :=
  ∃ before front tail middle head back after,
    pieces = before ++ (front ++ tail) :: (middle ++ (head ++ back) :: after) ∧
      tail ≠ [] ∧ head ≠ [] ∧ tail ++ (middle.flatten ++ head) = pattern

/-- A prefix of two joined lists stays in the first or continues into the
second. -/
theorem prefix_within_or_across {pattern front back : List α} (starts : pattern <+: front ++ back) :
    pattern <+: front ∨ ∃ head, head ≠ [] ∧ pattern = front ++ head ∧ head <+: back := by
  rcases List.prefix_or_prefix_of_prefix starts (List.prefix_append front back) with inside | beyond
  · exact .inl inside
  · rcases beyond with ⟨head, rfl⟩
    by_cases empty : head = []
    · rw [empty, List.append_nil]
      exact .inl List.prefix_rfl
    · exact .inr ⟨head, empty, rfl, (List.prefix_append_right_inj front).mp starts⟩

/-- A pattern whose first entry does not come again is not met in front of its
own occurrence, where the text before does not contain it. -/
theorem Avoids.of_absent {first : α} {tail gap : List α} (single : first ∉ tail)
    (absent : ¬ first :: tail <:+: gap) (rest : List α) :
    Avoids (first :: tail) gap (first :: tail ++ rest) := by
  apply Avoids.of_suffixes
  intro suffix ends nonempty starts
  rcases prefix_within_or_across starts with inside | ⟨head, more, whole, continues⟩
  · exact absent (inside.isInfix.trans ends.isInfix)
  · rcases List.exists_cons_of_ne_nil nonempty with ⟨entry, suffix, rfl⟩
    rcases List.exists_cons_of_ne_nil more with ⟨other, head, rfl⟩
    have again : other = first := (List.cons_prefix_cons.mp continues).1
    apply single
    rw [(List.cons.inj whole).2, again]
    simp

/-- An occurrence in two joined lists lies in one of them or crosses the
seam. -/
theorem infix_append_iff {pattern front back : List α} :
    pattern <:+: front ++ back ↔ pattern <:+: front ∨ pattern <:+: back ∨
      ∃ tail head, tail ≠ [] ∧ head ≠ [] ∧ tail ++ head = pattern ∧ tail <:+ front ∧ head <+: back := by
  constructor
  · intro occurs
    induction front with
    | nil => exact .inr (.inl occurs)
    | cons entry front inductionHypothesis =>
        rcases List.infix_cons_iff.mp occurs with starts | later
        · have starts' : pattern <+: (entry :: front) ++ back := starts
          rcases prefix_within_or_across starts' with
            inside | ⟨head, nonempty, whole, continues⟩
          · exact .inl inside.isInfix
          · exact .inr (.inr ⟨entry :: front, head, List.cons_ne_nil _ _, nonempty, whole.symm,
              List.suffix_refl _, continues⟩)
        · rcases inductionHypothesis later with inFront | inBack | ⟨tail, head, here, there, whole, ends, begins⟩
          · exact .inl (List.infix_cons inFront)
          · exact .inr (.inl inBack)
          · exact .inr (.inr ⟨tail, head, here, there, whole, ends.trans (List.suffix_cons _ _), begins⟩)
  · rintro (inFront | inBack | ⟨tail, head, _, _, rfl, ⟨before, rfl⟩, ⟨after, rfl⟩⟩)
    · exact List.infix_append_of_infix_left inFront
    · exact List.infix_append_of_infix_right inBack
    · exact ⟨before, after, by simp only [List.append_assoc]⟩

/-- A nonempty beginning of joined pieces covers some of them and ends inside
the next. -/
theorem prefix_flatten_iff {pattern : List α} (nonempty : pattern ≠ []) {pieces : List (List α)} :
    pattern <+: pieces.flatten ↔ ∃ middle head back after,
      pieces = middle ++ (head ++ back) :: after ∧ head ≠ [] ∧ middle.flatten ++ head = pattern := by
  constructor
  · intro starts
    induction pieces generalizing pattern with
    | nil => exact absurd (List.prefix_nil.mp starts) nonempty
    | cons piece pieces inductionHypothesis =>
        rcases prefix_within_or_across (List.flatten_cons ▸ starts) with
          ⟨back, rfl⟩ | ⟨rest, more, rfl, continues⟩
        · exact ⟨[], pattern, back, pieces, rfl, nonempty, rfl⟩
        · rcases inductionHypothesis more continues with ⟨middle, head, back, after, rfl, covers, rfl⟩
          refine ⟨piece :: middle, head, back, after, rfl, covers, ?_⟩
          rw [List.flatten_cons, List.append_assoc]
  · rintro ⟨middle, head, back, after, rfl, _, rfl⟩
    refine ⟨back ++ after.flatten, ?_⟩
    simp only [List.flatten_append, List.flatten_cons, List.append_assoc]

theorem Spliced.cons {pattern : List α} {pieces : List (List α)} (spliced : Spliced pattern pieces)
    (piece : List α) : Spliced pattern (piece :: pieces) := by
  rcases spliced with ⟨before, front, tail, middle, head, back, after, rfl, parts⟩
  exact ⟨piece :: before, front, tail, middle, head, back, after, rfl, parts⟩

theorem Spliced.occurs {pattern : List α} {pieces : List (List α)} (spliced : Spliced pattern pieces) :
    pattern <:+: pieces.flatten := by
  rcases spliced with ⟨before, front, tail, middle, head, back, after, rfl, _, _, rfl⟩
  refine ⟨before.flatten ++ front, back ++ after.flatten, ?_⟩
  simp only [List.flatten_append, List.flatten_cons, List.append_assoc]

/-- When no piece contains the pattern, joining the pieces creates it exactly
where parts of them make it up. -/
theorem infix_flatten_iff {pattern : List α} (nonempty : pattern ≠ []) {pieces : List (List α)}
    (absent : ∀ piece ∈ pieces, ¬ pattern <:+: piece) :
    pattern <:+: pieces.flatten ↔ Spliced pattern pieces := by
  refine ⟨fun occurs => ?_, Spliced.occurs⟩
  induction pieces with
  | nil => exact absurd (List.infix_nil.mp occurs) nonempty
  | cons piece pieces inductionHypothesis =>
      rw [List.flatten_cons] at occurs
      rcases infix_append_iff.mp occurs with inside | later | ⟨tail, rest, here, there, rfl, ⟨front, rfl⟩, begins⟩
      · exact absurd inside (absent piece List.mem_cons_self)
      · exact (inductionHypothesis (fun other member => absent other (List.mem_cons_of_mem _ member))
          later).cons piece
      · rcases (prefix_flatten_iff there).mp begins with ⟨middle, head, back, after, rfl, covers, rfl⟩
        exact ⟨[], front, tail, middle, head, back, after, rfl, here, covers, rfl⟩

end Foundations
