import Rabb1tClaw.Foundations.Words

namespace Rabb1tClaw
namespace Agent
namespace WordLimit

open Foundations

/-!
# The word limit of the memory

What the memory agent writes is cut to a number of words.  The cut is behind
the last word that is kept, and its place is computed from the address of
this word.  Where no word is kept there is no such address, and the text is
kept whole.  This is right for a text without words, and it is what a limit
of zero words does to every text.
-/

/-- `enforce_word_limit`, or `none` where the slice panics. -/
def enforceWordLimit (text : Text) (maxWords : Nat) : Option Text :=
  let stop := ((Text.splitWhitespace text).take maxWords).getLast?.map fun lastWord =>
    lastWord.1 + Text.len lastWord.2
  match stop with
  | some pos => if pos < Text.len text then Text.sliceTo text pos else some text
  | none => some text

/-- `EMPTY_SENTINEL`. -/
def emptySentinel : Text := "<!-- empty -->".toList

/-- The end of `run_memory_subagent`: the text that replaces the memory, if the
reply has anything worth it. -/
def rewrittenMemory (raw : Text) (maxWords : Nat) : Option (Option Text) :=
  let trimmed := Text.trim raw
  if trimmed = emptySentinel ∨ trimmed = [] then some none
  else (enforceWordLimit trimmed maxWords).map some

/-- The result is the beginning of the text that has the first words of the
text, as many as the limit allows. -/
structure Respects (text : Text) (maxWords : Nat) (result : Text) : Prop where
  starts : result <+: text
  within : (Text.words result).length ≤ maxWords
  exact : Text.words result = (Text.words text).take (min maxWords (Text.words text).length)

/-- A text with the words that it is to have respects the limit. -/
theorem respects_of_words {text result : Text} {maxWords : Nat} (starts : result <+: text)
    (kept : Text.words result = (Text.words text).take maxWords) : Respects text maxWords result := by
  have bounded : (Text.words text).take (min maxWords (Text.words text).length) =
      (Text.words text).take maxWords := by
    rw [← List.take_take, List.take_length]
  refine ⟨starts, ?_, kept.trans bounded.symm⟩
  rw [kept]
  exact List.length_take_le _ _

/-- Without a word that is kept the text is whole. -/
theorem enforceWordLimit_of_none {text : Text} {maxWords : Nat}
    (nothing : (Text.splitWhitespace text).take maxWords = []) :
    enforceWordLimit text maxWords = some text := by
  rw [enforceWordLimit, nothing]
  rfl

/-- The cut is behind the last word that is kept. -/
theorem enforceWordLimit_of_last {text word : Text} {maxWords start : Nat}
    (last : ((Text.splitWhitespace text).take maxWords).getLast? = some (start, word)) :
    ∃ result, enforceWordLimit text maxWords = some result ∧ Respects text maxWords result := by
  rcases Text.last_taken last with ⟨before, after, whole, place, kept⟩
  have stop : start + Text.len word = Text.len (before ++ word) := by
    rw [place, Nat.zero_add, Text.len_append]
  have returns : enforceWordLimit text maxWords =
      if start + Text.len word < Text.len text then Text.sliceTo text (start + Text.len word) else some text := by
    rw [enforceWordLimit, last]
    rfl
  rw [returns, stop]
  split
  · rw [whole, ← List.append_assoc, Text.sliceTo_append]
    exact ⟨_, rfl, respects_of_words (List.prefix_append _ _) (by rw [kept, whole, List.append_assoc])⟩
  · rename_i long
    have nothing : after = [] := by
      have grown := Text.len_append (before ++ word) after
      rw [whole, ← List.append_assoc, grown] at long
      exact Text.len_eq_zero_iff.mp (by omega)
    rw [nothing, List.append_nil] at whole
    exact ⟨text, rfl, respects_of_words List.prefix_rfl (whole ▸ kept)⟩

/-- A limit that allows a word is respected. -/
theorem enforceWordLimit_of_positive (text : Text) {maxWords : Nat} (positive : maxWords ≠ 0) :
    ∃ result, enforceWordLimit text maxWords = some result ∧ Respects text maxWords result := by
  cases last : ((Text.splitWhitespace text).take maxWords).getLast? with
  | none =>
      have nothing := List.getLast?_eq_none_iff.mp last
      have none := (List.take_eq_nil_iff.mp nothing).resolve_left positive
      have words : Text.words text = [] := by rw [Text.words, none, List.map_nil]
      refine ⟨text, enforceWordLimit_of_none nothing, respects_of_words List.prefix_rfl ?_⟩
      rw [words, List.take_nil]
  | some word => exact enforceWordLimit_of_last last

/-- A limit of no words keeps the text whole. -/
theorem enforceWordLimit_zero (text : Text) : enforceWordLimit text 0 = some text :=
  enforceWordLimit_of_none (List.take_zero ..)

theorem respects_zero_iff {text : Text} : Respects text 0 text ↔ Text.Blank text := by
  constructor
  · intro respects
    exact Text.words_eq_nil_iff.mp (List.length_eq_zero_iff.mp (Nat.le_zero.mp respects.within))
  · intro blank
    refine respects_of_words List.prefix_rfl ?_
    rw [Text.words_of_blank blank, List.take_nil]

/-- What is written to the memory respects a limit only if it allows a word,
for a text that is worth writing has one. -/
theorem rewrittenMemory_respects_iff {raw output : Text} {maxWords : Nat}
    (writes : rewrittenMemory raw maxWords = some (some output)) :
    Respects (Text.trim raw) maxWords output ↔ maxWords ≠ 0 := by
  rw [rewrittenMemory] at writes
  split at writes
  · cases writes
  · rename_i worth
    rcases Option.map_eq_some_iff.mp writes with ⟨_, returns, same⟩
    rcases Option.some.inj same with rfl
    have visible : ¬ Text.Blank (Text.trim raw) := fun blank => worth (.inr (Text.trim_eq_nil_of_blank blank))
    refine ⟨?_, fun positive => ?_⟩
    · rintro respects rfl
      rcases Option.some.inj ((enforceWordLimit_zero _).symm.trans returns) with rfl
      exact visible (respects_zero_iff.mp respects)
    · rcases enforceWordLimit_of_positive (Text.trim raw) positive with ⟨result, returns', respects⟩
      rcases Option.some.inj (returns.symm.trans returns') with rfl
      exact respects

/-- The limit is respected exactly if it allows a word or there is none. -/
theorem enforceWordLimit_respects_iff (text : Text) (maxWords : Nat) :
    (∃ result, enforceWordLimit text maxWords = some result ∧ Respects text maxWords result) ↔
      maxWords ≠ 0 ∨ Text.Blank text := by
  by_cases zero : maxWords = 0
  · subst zero
    rw [enforceWordLimit_zero]
    constructor
    · rintro ⟨_, returns, respects⟩
      rcases Option.some.inj returns with rfl
      exact .inr (respects_zero_iff.mp respects)
    · intro allowed
      exact ⟨text, rfl, respects_zero_iff.mpr (allowed.resolve_left fun positive => positive rfl)⟩
  · exact iff_of_true (enforceWordLimit_of_positive text zero) (.inl zero)

theorem enforceWordLimit_noWords :
    ¬ ∃ result, enforceWordLimit "likes tea".toList 0 = some result ∧ Respects "likes tea".toList 0 result := by
  rintro ⟨_, returns, respects⟩
  have whole : enforceWordLimit "likes tea".toList 0 = some "likes tea".toList := rfl
  rcases Option.some.inj (whole.symm.trans returns) with rfl
  exact absurd respects.within (by decide)

end WordLimit
end Agent
end Rabb1tClaw
