import Mathlib.Data.List.TakeWhile
import Rabb1tClaw.Foundations.Utf8

namespace Foundations

/-!
# Words with their offsets

`split_whitespace` yields slices of a text, and a slice knows where it starts.
`wordsFrom` is the scan behind it: it keeps the offset and the word that is
open, and closes a word at the next whitespace or at the end.

A text is a stretch of whitespace, or it has a first word with whitespace
before it and whitespace or the end behind it (`words_induction`).  The scan
reports exactly this first word (`wordsFrom_word`), so that facts about words
are proved by induction on the words, and only here on characters.
-/

namespace Text

/-- The words of a text that starts at an offset, each with the offset of its
start.  A word may be open. -/
def wordsFrom : Nat → Option (Nat × Text) → Text → List (Nat × Text)
  | _, none, [] => []
  | _, some word, [] => [word]
  | offset, none, char :: rest =>
      if isWhitespace char then wordsFrom (offset + char.utf8Size) none rest
      else wordsFrom (offset + char.utf8Size) (some (offset, [char])) rest
  | offset, some (start, word), char :: rest =>
      if isWhitespace char then (start, word) :: wordsFrom (offset + char.utf8Size) none rest
      else wordsFrom (offset + char.utf8Size) (some (start, word ++ [char])) rest

/-- `text.split_whitespace()`, each slice with the offset at which it starts. -/
def splitWhitespace (text : Text) : List (Nat × Text) := wordsFrom 0 none text

/-- The words themselves. -/
def words (text : Text) : List Text := (splitWhitespace text).map Prod.snd

/-- All of the text is whitespace. -/
def Blank (text : Text) : Prop := ∀ char ∈ text, isWhitespace char = true

/-- No character is whitespace, and there is one. -/
structure IsWord (word : Text) : Prop where
  solid : ∀ char ∈ word, isWhitespace char = false
  nonempty : word ≠ []

/-- Nothing continues a word that stands in front. -/
def Ends : Text → Prop
  | [] => True
  | char :: _ => isWhitespace char = true

instance (text : Text) : Decidable (Blank text) :=
  List.decidableBAll (fun char => isWhitespace char = true) text

theorem Ends.of_append {front back : Text} (ends : Ends (front ++ back)) : Ends front := by
  cases front with
  | nil => trivial
  | cons char front => exact ends

/-! ## What the scan does -/

theorem wordsFrom_blank {gap : Text} (blank : Blank gap) (offset : Nat) (rest : Text) :
    wordsFrom offset none (gap ++ rest) = wordsFrom (offset + len gap) none rest := by
  induction gap generalizing offset with
  | nil => rfl
  | cons char gap inductionHypothesis =>
      have later : Blank gap := fun other member => blank other (List.mem_cons_of_mem char member)
      rw [List.cons_append, wordsFrom, if_pos (blank char List.mem_cons_self), inductionHypothesis later,
        len_cons, Nat.add_assoc]

theorem wordsFrom_solid {word : Text} (solid : ∀ char ∈ word, isWhitespace char = false)
    (offset start : Nat) (front rest : Text) :
    wordsFrom offset (some (start, front)) (word ++ rest) =
      wordsFrom (offset + len word) (some (start, front ++ word)) rest := by
  induction word generalizing offset front with
  | nil => rw [List.append_nil]; rfl
  | cons char word inductionHypothesis =>
      have visible : ¬ isWhitespace char = true := by simp [solid char List.mem_cons_self]
      rw [List.cons_append, wordsFrom, if_neg visible,
        inductionHypothesis (fun other member => solid other (List.mem_cons_of_mem char member)),
        len_cons, Nat.add_assoc, List.append_assoc, List.singleton_append]

/-- A word is closed at its end. -/
theorem wordsFrom_ends {rest : Text} (ends : Ends rest) (offset start : Nat) (word : Text) :
    wordsFrom offset (some (start, word)) rest = (start, word) :: wordsFrom offset none rest := by
  cases rest with
  | nil => rfl
  | cons char rest =>
      have space : isWhitespace char = true := ends
      rw [wordsFrom, wordsFrom, if_pos space, if_pos space]

/-- The scan reports the first word and where it starts. -/
theorem wordsFrom_word {gap word rest : Text} (blank : Blank gap) (isWord : IsWord word) (ends : Ends rest)
    (offset : Nat) :
    wordsFrom offset none (gap ++ (word ++ rest)) =
      (offset + len gap, word) :: wordsFrom (offset + len gap + len word) none rest := by
  rw [wordsFrom_blank blank]
  rcases List.exists_cons_of_ne_nil isWord.nonempty with ⟨char, more, rfl⟩
  have visible : ¬ isWhitespace char = true := by simp [isWord.solid char List.mem_cons_self]
  rw [List.cons_append, wordsFrom, if_neg visible,
    wordsFrom_solid (fun other member => isWord.solid other (List.mem_cons_of_mem char member)),
    wordsFrom_ends ends, len_cons, List.singleton_append, Nat.add_assoc (offset + len gap)]

theorem wordsFrom_of_blank {text : Text} (blank : Blank text) (offset : Nat) :
    wordsFrom offset none text = [] := by
  have scanned := wordsFrom_blank blank offset []
  rwa [List.append_nil] at scanned

/-- A text begins with a stretch of characters of a kind, and another kind of
character is behind it. -/
theorem exists_stretch (kind : Char → Bool) (text : Text) :
    ∃ front back, text = front ++ back ∧ (∀ char ∈ front, kind char = true) ∧
      ∀ char more, back = char :: more → kind char = false := by
  refine ⟨text.takeWhile kind, text.dropWhile kind, List.takeWhile_append_dropWhile.symm,
    fun char member => List.mem_takeWhile_imp member, fun char more behind => ?_⟩
  have first := List.head?_dropWhile_not kind text
  rw [behind] at first
  exact first

/-- Induction over the words of a text. -/
theorem words_induction {motive : Text → Prop} (text : Text) (blank : ∀ gap, Blank gap → motive gap)
    (word : ∀ gap word rest, Blank gap → IsWord word → Ends rest → motive rest →
      motive (gap ++ (word ++ rest))) : motive text := by
  induction size : text.length using Nat.strongRecOn generalizing text with
  | ind size inductionHypothesis =>
      rcases exists_stretch isWhitespace text with ⟨gap, behind, rfl, isBlank, stops⟩
      cases behind with
      | nil => exact blank _ (by simpa [Blank] using isBlank)
      | cons first more =>
          rcases exists_stretch (fun char => !isWhitespace char) (first :: more) with
            ⟨letters, rest, split, solid, closes⟩
          have isWord : IsWord letters := by
            refine ⟨fun char member => by simpa using solid char member, ?_⟩
            rintro rfl
            have space := closes first more split.symm
            simp [stops first more rfl] at space
          have ends : Ends rest := by
            cases rest with
            | nil => trivial
            | cons char rest => simpa [Ends] using closes char rest rfl
          rw [split]
          refine word gap letters rest isBlank isWord ends (inductionHypothesis rest.length ?_ rest rfl)
          have positive := List.length_pos_iff.mpr isWord.nonempty
          rw [← size, split]
          simp only [List.length_append]
          omega

/-! ## The words of a text -/

/-- Where a text starts does not change its words. -/
theorem map_snd_wordsFrom (text : Text) (offset : Nat) : (wordsFrom offset none text).map Prod.snd = words text := by
  have anywhere : ∀ offset offset', (wordsFrom offset none text).map Prod.snd =
      (wordsFrom offset' none text).map Prod.snd := by
    induction text using words_induction with
    | blank gap isBlank =>
        intro offset offset'
        rw [wordsFrom_of_blank isBlank, wordsFrom_of_blank isBlank]
    | word gap word rest isBlank isWord ends inductionHypothesis =>
        intro offset offset'
        rw [wordsFrom_word isBlank isWord ends, wordsFrom_word isBlank isWord ends, List.map_cons, List.map_cons]
        exact congrArg _ (inductionHypothesis _ _)
  exact anywhere offset 0

theorem words_of_blank {text : Text} (blank : Blank text) : words text = [] := by
  rw [words, splitWhitespace, wordsFrom_of_blank blank]
  rfl

theorem words_cons {gap word rest : Text} (blank : Blank gap) (isWord : IsWord word) (ends : Ends rest) :
    words (gap ++ (word ++ rest)) = word :: words rest := by
  rw [words, splitWhitespace, wordsFrom_word blank isWord ends, List.map_cons, map_snd_wordsFrom]

/-- Only whitespace has no words. -/
theorem words_eq_nil_iff {text : Text} : words text = [] ↔ Blank text := by
  refine ⟨fun none => ?_, words_of_blank⟩
  induction text using words_induction with
  | blank gap isBlank => exact isBlank
  | word gap word rest isBlank isWord ends inductionHypothesis =>
      rw [words_cons isBlank isWord ends] at none
      cases none

/-- Whitespace around a text that has none at its ends is trimmed. -/
theorem trim_padded {gap gap' inner : Text} {first last : Char} (blank : Blank gap) (blank' : Blank gap')
    (starts : isWhitespace first = false) (ends : isWhitespace last = false) :
    trim (gap ++ (first :: (inner ++ [last]) ++ gap')) = first :: (inner ++ [last]) := by
  have starts' : ¬ isWhitespace first = true := by simp [starts]
  have ends' : ¬ isWhitespace last = true := by simp [ends]
  have front : trimStart (gap ++ (first :: (inner ++ [last]) ++ gap')) = first :: (inner ++ [last]) ++ gap' := by
    rw [trimStart, List.dropWhile_append_of_pos blank]
    exact List.dropWhile_cons_of_neg starts'
  have turned : (first :: (inner ++ [last]) ++ gap').reverse =
      gap'.reverse ++ last :: (first :: inner).reverse := by simp
  have blank'' : ∀ char ∈ gap'.reverse, isWhitespace char = true := fun char member =>
    blank' char (List.mem_reverse.mp member)
  rw [trim, front, trimEnd, turned, List.dropWhile_append_of_pos blank'', List.dropWhile_cons_of_neg ends']
  simp

theorem blank_of_trimEnd_eq_nil {text : Text} (empty : trimEnd text = []) : Blank text := by
  intro char member
  have dropped := List.dropWhile_eq_nil_iff.mp (List.reverse_eq_nil_iff.mp empty)
  exact dropped char (List.mem_reverse.mpr member)

/-- A text that was trimmed does not end with whitespace. -/
theorem trim_eq_nil_of_blank {text : Text} (blank : Blank (trim text)) : trim text = [] := by
  have last := List.head?_dropWhile_not isWhitespace (trimStart text).reverse
  cases ends : (trimStart text).reverse.dropWhile isWhitespace with
  | nil => rw [trim, trimEnd, ends, List.reverse_nil]
  | cons char more =>
      rw [ends] at last
      have space := blank char (by rw [trim, trimEnd, ends]; simp)
      exact absurd space (by simpa using last)

/-- Where the last of the first words ends, and what is before this place. -/
theorem last_taken {text word : Text} {offset count start : Nat}
    (last : ((wordsFrom offset none text).take count).getLast? = some (start, word)) :
    ∃ before after, text = before ++ (word ++ after) ∧ start = offset + len before ∧
      words (before ++ word) = (words text).take count := by
  induction text using words_induction generalizing offset count with
  | blank gap isBlank =>
      rw [wordsFrom_of_blank isBlank, List.take_nil] at last
      cases last
  | word gap first rest isBlank isWord ends inductionHypothesis =>
      rw [wordsFrom_word isBlank isWord ends] at last
      rw [words_cons isBlank isWord ends]
      cases count with
      | zero => cases last
      | succ count =>
          rw [List.take_succ_cons] at last ⊢
          cases later : (wordsFrom (offset + len gap + len first) none rest).take count with
          | nil =>
              rw [later] at last
              rcases Prod.mk.inj (Option.some.inj last) with ⟨rfl, rfl⟩
              have only := congrArg (List.map Prod.snd) later
              rw [List.map_take, map_snd_wordsFrom, List.map_nil] at only
              refine ⟨gap, rest, rfl, rfl, ?_⟩
              have single : words (gap ++ (first ++ [])) = first :: words [] := words_cons isBlank isWord trivial
              rw [List.append_nil] at single
              rw [single, only]
              rfl
          | cons second more =>
              rw [later, List.getLast?_cons_cons, ← later] at last
              rcases inductionHypothesis last with ⟨before, after, rfl, rfl, taken⟩
              refine ⟨gap ++ (first ++ before), after, by simp only [List.append_assoc], ?_, ?_⟩
              · simp only [len_append, Nat.add_assoc]
              · rw [← List.append_assoc] at ends
                rw [List.append_assoc, List.append_assoc, words_cons isBlank isWord ends.of_append, taken]

/-! ## Texts without whitespace at their ends -/

/-- No whitespace is at the start and none at the end. -/
structure Edged (text : Text) : Prop where
  starts : ∀ char, text.head? = some char → isWhitespace char = false
  ends : ∀ char, text.getLast? = some char → isWhitespace char = false

theorem head_dropWhile {text : Text} {char : Char} (first : (text.dropWhile isWhitespace).head? = some char) :
    isWhitespace char = false := by
  have visible := List.head?_dropWhile_not isWhitespace text
  rw [first] at visible
  exact visible

theorem edged_trim (text : Text) : Edged (trim text) where
  starts := by
    intro char first
    have front : trim text <+: trimStart text := by
      rw [trim, trimEnd, ← List.reverse_suffix, List.reverse_reverse]
      exact List.dropWhile_suffix _
    rcases List.head?_eq_some_iff.mp first with ⟨more, whole⟩
    rcases front with ⟨tail, same⟩
    rw [whole, List.cons_append] at same
    have leads : (text.dropWhile isWhitespace).head? = some char := List.head?_eq_some_iff.mpr ⟨_, same.symm⟩
    exact head_dropWhile leads
  ends := by
    intro char last
    rw [trim, trimEnd, List.getLast?_reverse] at last
    exact head_dropWhile last

/-- Such a text is not trimmed. -/
theorem trim_of_edged {text : Text} (edged : Edged text) : trim text = text := by
  have kept : ∀ line : Text, (∀ char, line.head? = some char → isWhitespace char = false) →
      line.dropWhile isWhitespace = line := by
    intro line starts
    cases line with
    | nil => rfl
    | cons char line =>
        apply List.dropWhile_cons_of_neg
        rw [starts char rfl]
        exact Bool.false_ne_true
  rw [trim, trimStart, kept text edged.starts, trimEnd, kept text.reverse, List.reverse_reverse]
  intro char first
  rw [List.head?_reverse] at first
  exact edged.ends char first

/-- What the scan reports are words. -/
theorem isWord_of_mem_wordsFrom {text word : Text} {offset start : Nat}
    (member : (start, word) ∈ wordsFrom offset none text) : IsWord word := by
  induction text using words_induction generalizing offset with
  | blank gap isBlank =>
      rw [wordsFrom_of_blank isBlank] at member
      cases member
  | word gap first rest isBlank isWord ends inductionHypothesis =>
      rw [wordsFrom_word isBlank isWord ends] at member
      rcases List.mem_cons.mp member with same | later
      · rcases Prod.mk.inj same with ⟨_, rfl⟩
        exact isWord
      · exact inductionHypothesis later

end Text
end Foundations
