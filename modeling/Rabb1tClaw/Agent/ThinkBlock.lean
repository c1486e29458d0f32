import Mathlib.Data.List.TakeWhile
import Rabb1tClaw.Agent.BlockLayout

namespace Rabb1tClaw
namespace Agent

open Foundations

/-!
# Decisions about a leading think block

`checkThinkBlock` is called on a growing buffer until it decides.  This module
separates the two things it does at once.  `behindThink` finds the text
behind the closing tag and `Undecided` says whether more text could still
matter; both are stable under growth, so the decision does not depend on how
the text arrived.  The whitespace that is trimmed behind the closing tag is
not stable: it is the whitespace that has arrived by then.
-/

/-- The text behind the closing tag of a leading think block, or of an
orphaned closing tag. -/
def behindThink (text : Text) : Option Text :=
  if thinkOpen <+: text.trimStart ∨ thinkClose <+: text.trimStart then
    (cut thinkClose text.trimStart).map Prod.snd
  else
    none

/-- The text can still turn out to start with a think block. -/
def Undecided (text : Text) : Prop :=
  (thinkOpen <+: text.trimStart ∧ cut thinkClose text.trimStart = none) ∨
    text.trimStart <+: thinkOpen ∨ text.trimStart <+: thinkClose

instance (text : Text) : Decidable (Undecided text) :=
  inferInstanceAs (Decidable (_ ∨ _ ∨ _))

theorem thinkClose_ne_nil : thinkClose ≠ [] := by decide

/-- Specification of `checkThinkBlock`: it never panics, and it decides by
the text behind the closing tag. -/
theorem checkThinkBlock_eq (text : Text) :
    checkThinkBlock text = some
      (match behindThink text with
        | some after => .stripped after.trimStart
        | none => if Undecided text then .pending else .passThrough) := by
  unfold checkThinkBlock behindThink
  by_cases blank : text.trimStart = []
  · have undecided : Undecided text := by
      rw [Undecided, blank]
      exact Or.inr (Or.inl List.nil_prefix)
    rw [if_pos blank, blank, if_neg (by decide)]
    exact congrArg some (if_pos undecided).symm
  · simp only [if_neg blank, List.isPrefixOf_iff_prefix, Bool.or_eq_true]
    by_cases opens : thinkOpen <+: text.trimStart
    · simp only [opens, if_true, true_or]
      cases closes : cut thinkClose text.trimStart with
      | none =>
          have undecided : Undecided text := Or.inl ⟨opens, closes⟩
          simp [find_eq_none_of_cut closes, undecided]
      | some parts =>
          have split : text.trimStart = (parts.1 ++ thinkClose) ++ parts.2 := by
            rw [List.append_assoc]
            exact (cut_sound closes).1
          have width : Text.len parts.1 + 8 = Text.len (parts.1 ++ thinkClose) := by
            rw [Text.len_append]
            rfl
          simp [find_of_cut closes, sliceFrom_of_eq split width]
    · simp only [opens, if_false, false_or]
      by_cases closes : thinkClose <+: text.trimStart
      · rcases closes with ⟨after, isTrimmed⟩
        have found : cut thinkClose text.trimStart = some ([], after) := by
          rw [← isTrimmed, cut_pattern_append]
        have starts : thinkClose <+: text.trimStart := ⟨after, isTrimmed⟩
        simp [Text.stripPrefix_eq_some.mpr isTrimmed, found, starts]
      · have undecided : Undecided text ↔
            text.trimStart <+: thinkOpen ∨ text.trimStart <+: thinkClose := by
          simp [Undecided, opens]
        simp only [Text.stripPrefix_eq_none closes, closes, if_false, undecided]
        split <;> rfl

/-! ## Growth -/

theorem trimStart_append_of_ne {text : Text} (more : Text) (visible : text.trimStart ≠ []) :
    Text.trimStart (text ++ more) = text.trimStart ++ more := by
  unfold Text.trimStart at visible ⊢
  rw [List.dropWhile_append, if_neg (by simpa using visible)]

/-- Once the closing tag has arrived, everything later is behind it. -/
theorem behindThink_append {text after : Text} (more : Text) (found : behindThink text = some after) :
    behindThink (text ++ more) = some (after ++ more) := by
  unfold behindThink at found ⊢
  split at found
  · rename_i starts
    rcases Option.map_eq_some_iff.mp found with ⟨⟨inside, after'⟩, closes, rfl⟩
    have visible : text.trimStart ≠ [] := by
      intro empty
      have nothing := (cut_sound closes).1
      rw [empty] at nothing
      simp [thinkClose_ne_nil] at nothing
    have still : thinkOpen <+: text.trimStart ++ more ∨ thinkClose <+: text.trimStart ++ more :=
      starts.imp (fun opens => opens.trans (List.prefix_append _ _))
        (fun opens => opens.trans (List.prefix_append _ _))
    rw [trimStart_append_of_ne more visible, if_pos still, cut_append_of_some more closes]
    rfl
  · cases found

/-- A text that was passed through is passed through however it goes on. -/
theorem passThrough_append {text : Text} (more : Text) (absent : behindThink text = none)
    (decided : ¬ Undecided text) :
    behindThink (text ++ more) = none ∧ ¬ Undecided (text ++ more) := by
  have visible : text.trimStart ≠ [] := by
    intro empty
    apply decided
    rw [Undecided, empty]
    exact Or.inr (Or.inl List.nil_prefix)
  unfold behindThink at absent ⊢
  unfold Undecided at decided ⊢
  rw [trimStart_append_of_ne more visible]
  generalize text.trimStart = trimmed at absent decided ⊢
  simp only [not_or, not_and] at decided
  rcases decided with ⟨closed, notOpening, notClosing⟩
  have notOpen : ¬ thinkOpen <+: trimmed := by
    intro opens
    rw [if_pos (Or.inl opens), Option.map_eq_none_iff] at absent
    exact closed opens absent
  have notClose : ¬ thinkClose <+: trimmed := by
    rintro ⟨after, rfl⟩
    rw [if_pos (Or.inr (List.prefix_append _ _)), cut_pattern_append] at absent
    cases absent
  -- A tag and a text that is not a prefix of it differ at some character.
  have apart : ∀ tag : Text, ¬ tag <+: trimmed → ¬ trimmed <+: tag → ¬ tag <+: trimmed ++ more := by
    intro tag differs notShorter longer
    rcases List.prefix_or_prefix_of_prefix longer (List.prefix_append _ _) with here | here
    · exact differs here
    · exact notShorter here
  have openApart := apart thinkOpen notOpen notOpening
  have closeApart := apart thinkClose notClose notClosing
  constructor
  · exact if_neg (fun either => either.elim openApart closeApart)
  · rintro (⟨opens, _⟩ | opening | closing)
    · exact openApart opens
    · exact notOpening ((List.prefix_append _ _).trans opening)
    · exact notClosing ((List.prefix_append _ _).trans closing)

/-! ## The first closing tag -/

/-- A text can be cut right behind the closing tag that decides it. -/
theorem exists_tag_end {text after : Text} (found : behindThink text = some after) :
    ∃ front, text = front ++ after ∧ behindThink front = some [] := by
  have found' := found
  unfold behindThink at found'
  split at found'
  · rename_i starts
    rcases Option.map_eq_some_iff.mp found' with ⟨⟨inside, after'⟩, closes, rfl⟩
    have split := cut_sound closes
    have trimmed : text.trimStart = (inside ++ thinkClose) ++ after' := by
      rw [List.append_assoc]
      exact split.1
    have whole : text = (text.takeWhile Text.isWhitespace ++ (inside ++ thinkClose)) ++ after' := by
      rw [List.append_assoc, ← trimmed]
      exact List.takeWhile_append_dropWhile.symm
    refine ⟨text.takeWhile Text.isWhitespace ++ (inside ++ thinkClose), whole, ?_⟩
    · have visible : Text.trimStart (text.takeWhile Text.isWhitespace ++ (inside ++ thinkClose)) ≠ [] := by
        intro blank
        have inTag : '<' ∈ thinkClose := by decide
        have bracket : '<' ∈ text.takeWhile Text.isWhitespace ++ (inside ++ thinkClose) :=
          List.mem_append_right _ (List.mem_append_right _ inTag)
        exact absurd (List.dropWhile_eq_nil_iff.mp blank '<' bracket) (by decide)
      have skipped : Text.trimStart (text.takeWhile Text.isWhitespace ++ (inside ++ thinkClose)) =
          inside ++ thinkClose := by
        have grows := trimStart_append_of_ne after' visible
        rw [← whole, trimmed] at grows
        exact (List.append_cancel_right grows).symm
      have closed : cut thinkClose (inside ++ thinkClose) = some (inside, []) := by
        have avoids : Avoids thinkClose inside (thinkClose ++ []) :=
          split.2.of_tail after' [] (Nat.le_succ _)
        have found := cut_of_avoids [] avoids
        rwa [List.append_nil] at found
      have still : thinkOpen <+: inside ++ thinkClose ∨ thinkClose <+: inside ++ thinkClose := by
        rw [trimmed] at starts
        have shorten : ∀ tag : Text, tag.length ≤ thinkClose.length →
            tag <+: inside ++ thinkClose ++ after' → tag <+: inside ++ thinkClose := by
          intro tag short opens
          apply List.prefix_of_prefix_length_le opens (List.prefix_append _ _)
          rw [List.length_append]
          omega
        exact starts.imp (shorten thinkOpen (by decide)) (shorten thinkClose (Nat.le_refl _))
      rw [behindThink, skipped, if_pos still, closed]
      rfl
  · cases found'

end Agent
end Rabb1tClaw
