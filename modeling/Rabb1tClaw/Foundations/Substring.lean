namespace Foundations

/-!
# First occurrences of a pattern in a list

A search for a pattern does two jobs at once: it names the text before the
first occurrence and the text after it.  `cut` returns both, and `Avoids`
says that no occurrence starts inside a given stretch.  Together they turn
statements about search offsets into statements about appended lists, and
only this module unfolds the search.

`Avoids` keeps the text that follows the stretch, because an occurrence may
start inside the stretch and end beyond it.  How much of that following text
matters is exactly the length of the pattern (`Avoids.of_tail`), which is
what makes a search stable when more text arrives.
-/

variable {α : Type} [DecidableEq α]

/-- Split a text around the first occurrence of a pattern. -/
def cut (pattern : List α) : List α → Option (List α × List α)
  | [] => if pattern = [] then some ([], []) else none
  | head :: tail =>
      if pattern.isPrefixOf (head :: tail) then
        some ([], (head :: tail).drop pattern.length)
      else
        (cut pattern tail).map fun parts => (head :: parts.1, parts.2)

/-- No occurrence of the pattern starts inside `gap` when `rest` follows. -/
def Avoids (pattern : List α) : List α → List α → Prop
  | [], _ => True
  | head :: tail, rest =>
      ¬ pattern <+: head :: (tail ++ rest) ∧ Avoids pattern tail rest

namespace Avoids

omit [DecidableEq α]

@[simp] theorem nil (pattern rest : List α) : Avoids pattern [] rest := trivial

@[simp] theorem cons_iff (pattern : List α) (head : α) (tail rest : List α) :
    Avoids pattern (head :: tail) rest ↔
      ¬ pattern <+: head :: (tail ++ rest) ∧ Avoids pattern tail rest := Iff.rfl

theorem append_iff (pattern first second rest : List α) :
    Avoids pattern (first ++ second) rest ↔
      Avoids pattern first (second ++ rest) ∧ Avoids pattern second rest := by
  induction first with
  | nil => simp
  | cons head tail inductionHypothesis =>
      simp only [List.cons_append, cons_iff, inductionHypothesis, List.append_assoc, and_assoc]

/-- An occurrence starting in the gap ends at most `pattern.length - 1`
entries beyond it, so nothing later can create or destroy one. -/
theorem of_tail {pattern gap near : List α} (far far' : List α)
    (enough : pattern.length ≤ near.length + 1)
    (avoids : Avoids pattern gap (near ++ far)) : Avoids pattern gap (near ++ far') := by
  induction gap with
  | nil => trivial
  | cons head tail inductionHypothesis =>
      refine ⟨?_, inductionHypothesis avoids.2⟩
      intro occurs
      apply avoids.1
      have short : pattern <+: head :: (tail ++ near) := by
        apply List.prefix_of_prefix_length_le occurs
        · exact ⟨far', by simp⟩
        · simp only [List.length_cons, List.length_append]
          omega
      exact short.trans ⟨far, by simp⟩

/-- A stretch without the pattern's first entry cannot start an occurrence. -/
theorem of_head_not_mem {first : α} {pattern gap : List α} (rest : List α)
    (absent : first ∉ gap) : Avoids (first :: pattern) gap rest := by
  induction gap with
  | nil => trivial
  | cons head tail inductionHypothesis =>
      rw [List.mem_cons, not_or] at absent
      refine ⟨?_, inductionHypothesis absent.2⟩
      intro occurs
      exact absent.1 (List.cons_prefix_cons.mp occurs).1

/-- A gap is avoided when no nonempty end of it starts an occurrence. -/
theorem of_suffixes {pattern gap rest : List α}
    (differs : ∀ suffix, suffix <:+ gap → suffix ≠ [] → ¬ pattern <+: suffix ++ rest) :
    Avoids pattern gap rest := by
  induction gap with
  | nil => trivial
  | cons head tail inductionHypothesis =>
      refine ⟨differs (head :: tail) (List.suffix_refl _) (List.cons_ne_nil _ _), ?_⟩
      apply inductionHypothesis
      intro suffix ends nonempty
      exact differs suffix (ends.trans (List.suffix_cons _ _)) nonempty

/-- An avoided gap does not contain the pattern. -/
theorem not_occurs {pattern gap rest : List α} (nonempty : pattern ≠ [])
    (avoids : Avoids pattern gap rest) : ¬ pattern <:+: gap := by
  induction gap with
  | nil => exact fun occurs => nonempty (List.infix_nil.mp occurs)
  | cons head tail inductionHypothesis =>
      intro occurs
      rcases List.infix_cons_iff.mp occurs with starts | later
      · exact avoids.1 (starts.trans ⟨rest, rfl⟩)
      · exact inductionHypothesis avoids.2 later

end Avoids

/-! ## The search and its specification -/

theorem cut_cons_of_starts {pattern : List α} {head : α} {tail : List α}
    (occurs : pattern <+: head :: tail) :
    cut pattern (head :: tail) = some ([], (head :: tail).drop pattern.length) := by
  rw [cut, if_pos (List.isPrefixOf_iff_prefix.mpr occurs)]

theorem cut_cons_of_not_starts {pattern : List α} {head : α} {tail : List α}
    (differs : ¬ pattern <+: head :: tail) :
    cut pattern (head :: tail) =
      (cut pattern tail).map fun parts => (head :: parts.1, parts.2) := by
  rw [cut, if_neg (fun found => differs (List.isPrefixOf_iff_prefix.mp found))]

/-- A search passes over a gap in which no occurrence starts. -/
theorem cut_append_of_avoids {pattern gap : List α} (rest : List α)
    (avoids : Avoids pattern gap rest) :
    cut pattern (gap ++ rest) =
      (cut pattern rest).map fun parts => (gap ++ parts.1, parts.2) := by
  induction gap with
  | nil => cases found : cut pattern rest <;> simp [found]
  | cons head tail inductionHypothesis =>
      rw [List.cons_append, cut_cons_of_not_starts avoids.1, inductionHypothesis avoids.2,
        Option.map_map]
      rfl

/-- An opener that starts inside a stretch is the first one. -/
theorem exists_cut_of_not_avoids {pattern gap rest : List α} (occurs : ¬ Avoids pattern gap rest) :
    ∃ before after, cut pattern (gap ++ rest) = some (before, after) ∧ before.length < gap.length := by
  induction gap with
  | nil => exact absurd trivial occurs
  | cons head tail inductionHypothesis =>
      by_cases here : pattern <+: head :: (tail ++ rest)
      · exact ⟨[], _, cut_cons_of_starts here, Nat.succ_pos _⟩
      · rcases inductionHypothesis (fun avoids => occurs ⟨here, avoids⟩) with
          ⟨before, after, found, short⟩
        refine ⟨head :: before, after, ?_, Nat.succ_lt_succ short⟩
        rw [List.cons_append, cut_cons_of_not_starts here, found]
        rfl

theorem cut_pattern_append (pattern rest : List α) :
    cut pattern (pattern ++ rest) = some ([], rest) := by
  cases pattern with
  | nil =>
      cases rest with
      | nil => rfl
      | cons head tail => exact cut_cons_of_starts (List.nil_prefix)
  | cons head tail =>
      have occurs : head :: tail <+: head :: (tail ++ rest) := ⟨rest, rfl⟩
      rw [List.cons_append, cut_cons_of_starts occurs]
      simp

/-- The reading direction: an avoided gap followed by the pattern is what
the search returns. -/
theorem cut_of_avoids {pattern gap : List α} (rest : List α)
    (avoids : Avoids pattern gap (pattern ++ rest)) :
    cut pattern (gap ++ (pattern ++ rest)) = some (gap, rest) := by
  rw [cut_append_of_avoids _ avoids, cut_pattern_append]
  simp

/-- A single entry is found where it first stands. -/
theorem cut_of_not_mem {first : α} {gap : List α} (absent : first ∉ gap) (rest : List α) :
    cut [first] (gap ++ first :: rest) = some (gap, rest) :=
  cut_of_avoids rest (Avoids.of_head_not_mem _ absent)

/-- The writing direction: what the search returns is an avoided gap, the
pattern and the remaining text. -/
theorem cut_sound {pattern text gap rest : List α} (found : cut pattern text = some (gap, rest)) :
    text = gap ++ (pattern ++ rest) ∧ Avoids pattern gap (pattern ++ rest) := by
  induction text generalizing gap with
  | nil =>
      by_cases empty : pattern = []
      · subst empty
        simp only [cut, if_true, Option.some.injEq, Prod.mk.injEq] at found
        rw [← found.1, ← found.2]
        exact ⟨rfl, trivial⟩
      · simp only [cut, if_neg empty, reduceCtorEq] at found
  | cons head tail inductionHypothesis =>
      by_cases occurs : pattern <+: head :: tail
      · rw [cut_cons_of_starts occurs] at found
        simp only [Option.some.injEq, Prod.mk.injEq] at found
        rw [← found.1, ← found.2]
        exact ⟨(List.prefix_iff_eq_append.mp occurs).symm, trivial⟩
      · rw [cut_cons_of_not_starts occurs] at found
        rcases Option.map_eq_some_iff.mp found with ⟨parts, inner, same⟩
        simp only [Prod.mk.injEq] at same
        rcases same with ⟨rfl, rfl⟩
        have split := inductionHypothesis inner
        refine ⟨by rw [List.cons_append, ← split.1], ?_, split.2⟩
        rwa [← split.1]

theorem cut_eq_none_iff {pattern text : List α} :
    cut pattern text = none ↔ ¬ pattern <:+: text := by
  constructor
  · intro missing occurs
    induction text with
    | nil =>
        have empty : pattern = [] := List.infix_nil.mp occurs
        simp [cut, empty] at missing
    | cons head tail inductionHypothesis =>
        by_cases here : pattern <+: head :: tail
        · rw [cut_cons_of_starts here] at missing
          cases missing
        · rw [cut_cons_of_not_starts here, Option.map_eq_none_iff] at missing
          rcases List.infix_cons_iff.mp occurs with starts | later
          · exact here starts
          · exact inductionHypothesis missing later
  · intro absent
    cases found : cut pattern text with
    | none => rfl
    | some parts =>
        exact absurd ⟨parts.1, parts.2, by rw [List.append_assoc]; exact (cut_sound found).1.symm⟩ absent

/-- Behind an occurrence there is at most what is behind the first one. -/
theorem exists_cut_of_occurs (pattern before after : List α) :
    ∃ first behind, cut pattern (before ++ (pattern ++ after)) = some (first, behind) ∧ after <:+ behind := by
  induction before with
  | nil => exact ⟨[], after, cut_pattern_append pattern after, List.suffix_rfl⟩
  | cons head tail inductionHypothesis =>
      by_cases here : pattern <+: head :: (tail ++ (pattern ++ after))
      · refine ⟨[], _, cut_cons_of_starts here, ?_⟩
        have short : pattern.length ≤ (head :: (tail ++ pattern)).length := by
          simp only [List.length_cons, List.length_append]
          omega
        have whole : head :: (tail ++ (pattern ++ after)) = head :: (tail ++ pattern) ++ after := by simp
        change after <:+ (head :: (tail ++ (pattern ++ after))).drop pattern.length
        rw [whole, List.drop_append_of_le_length short]
        exact List.suffix_append _ _
      · rcases inductionHypothesis with ⟨first, behind, found, covers⟩
        refine ⟨head :: first, behind, ?_, covers⟩
        rw [List.cons_append, cut_cons_of_not_starts here, found]
        rfl

/-- More text does not move an occurrence that has already been found. -/
theorem cut_append_of_some {pattern text gap rest : List α} (more : List α)
    (found : cut pattern text = some (gap, rest)) :
    cut pattern (text ++ more) = some (gap, rest ++ more) := by
  have split := cut_sound found
  have stable : Avoids pattern gap (pattern ++ (rest ++ more)) :=
    split.2.of_tail _ _ (Nat.le_succ _)
  calc
    cut pattern (text ++ more) = cut pattern (gap ++ (pattern ++ (rest ++ more))) := by
      rw [split.1]
      simp only [List.append_assoc]
    _ = some (gap, rest ++ more) := cut_of_avoids _ stable

theorem cut_length_lt {pattern text gap rest : List α} (nonempty : pattern ≠ [])
    (found : cut pattern text = some (gap, rest)) : rest.length < text.length := by
  have positive := List.length_pos_iff.mpr nonempty
  rw [(cut_sound found).1]
  simp only [List.length_append]
  omega

end Foundations
