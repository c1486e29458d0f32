namespace Foundations

/-!
# Separated parts of a growing list

A reader of lines sees a list grow at the end and may use a part of it once
the separator behind that part has arrived.  `completeParts` are these parts
and `openPart` is what follows the last separator.  When the list grows, the
complete parts stay, and only the open part is read again
(`completeParts_append`): a reader may therefore forget everything but the
open part.
-/

variable {α : Type} [BEq α] [LawfulBEq α]

/-- The parts of a list that a separator ends. -/
def completeParts (separator : α) (text : List α) : List (List α) :=
  (text.splitOn separator).dropLast

/-- The part behind the last separator. -/
def openPart (separator : α) (text : List α) : List α :=
  (text.splitOn separator).getLast (List.splitOn_ne_nil separator text)

variable {separator : α}

theorem completeParts_of_not_mem {text : List α} (absent : separator ∉ text) :
    completeParts separator text = [] := by
  rw [completeParts, List.splitOn_eq_singleton absent]
  rfl

theorem openPart_of_not_mem {text : List α} (absent : separator ∉ text) :
    openPart separator text = text := by
  simp only [openPart, List.splitOn_eq_singleton absent, List.getLast_singleton]

theorem completeParts_append_cons {part : List α} (absent : separator ∉ part) (rest : List α) :
    completeParts separator (part ++ separator :: rest) = part :: completeParts separator rest := by
  rw [completeParts, List.splitOn_append_cons_self_of_not_mem absent,
    List.dropLast_cons_of_ne_nil (List.splitOn_ne_nil separator rest)]
  rfl

theorem openPart_append_cons {part : List α} (absent : separator ∉ part) (rest : List α) :
    openPart separator (part ++ separator :: rest) = openPart separator rest := by
  simp only [openPart, List.splitOn_append_cons_self_of_not_mem absent]
  exact List.getLast_cons (List.splitOn_ne_nil separator rest)

/-- The first separator is found behind the first part. -/
theorem idxOf?_append_cons {part : List α} (absent : separator ∉ part) (rest : List α) :
    (part ++ separator :: rest).idxOf? separator = some part.length := by
  induction part with
  | nil => simp [List.idxOf?_cons]
  | cons head tail inductionHypothesis =>
      rw [List.mem_cons, not_or] at absent
      have differs : (head == separator) = false := beq_eq_false_iff_ne.mpr (Ne.symm absent.1)
      rw [List.cons_append, List.idxOf?_cons, inductionHypothesis absent.2, differs]
      rfl

/-- Induction over the parts of a list. -/
theorem parts_induction (separator : α) {motive : List α → Prop} (text : List α)
    (last : ∀ part, separator ∉ part → motive part)
    (next : ∀ part rest, separator ∉ part → motive rest → motive (part ++ separator :: rest)) :
    motive text := by
  induction size : text.length using Nat.strongRecOn generalizing text with
  | ind size inductionHypothesis =>
      by_cases occurs : separator ∈ text
      · rcases List.eq_append_cons_of_mem occurs with ⟨part, rest, rfl, absent⟩
        apply next part rest absent
        apply inductionHypothesis rest.length _ rest rfl
        rw [← size, List.length_append, List.length_cons]
        omega
      · exact last text occurs

theorem openPart_not_mem (text : List α) : separator ∉ openPart separator text := by
  induction text using parts_induction separator with
  | last part absent => rwa [openPart_of_not_mem absent]
  | next part rest absent inductionHypothesis => rwa [openPart_append_cons absent]

/-- More text completes parts of the open part only. -/
theorem completeParts_append (text more : List α) :
    completeParts separator (text ++ more) =
      completeParts separator text ++ completeParts separator (openPart separator text ++ more) := by
  induction text using parts_induction separator with
  | last part absent =>
      rw [completeParts_of_not_mem absent, openPart_of_not_mem absent, List.nil_append]
  | next part rest absent inductionHypothesis =>
      rw [List.append_assoc, List.cons_append, completeParts_append_cons absent,
        completeParts_append_cons absent, openPart_append_cons absent, inductionHypothesis,
        List.cons_append]

/-- The open part is the end of the text. -/
theorem openPart_suffix (separator : α) (text : List α) : openPart separator text <:+ text := by
  induction text using parts_induction separator with
  | last part absent => exact ⟨[], by rw [openPart_of_not_mem absent, List.nil_append]⟩
  | next part rest absent inductionHypothesis =>
      rw [openPart_append_cons absent]
      exact inductionHypothesis.trans ((List.suffix_cons separator rest).trans
        (List.suffix_append part _))

end Foundations
