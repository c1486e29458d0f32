import Mathlib.Data.List.Nodup

namespace Foundations

/-!
# First occurrences by a key

A loop that remembers the keys it has seen keeps an entry when its key is new.
What it keeps is stated here without the set: an entry stays, and everything
behind it with the same key goes.  `firsts_concat` is the rule for one more
pass of such a loop.
-/

variable {α β : Type} [DecidableEq β]

/-- The entries whose key does not occur before, in order. -/
def firsts (key : α → β) : List α → List α
  | [] => []
  | item :: items => item :: (firsts key items).filter fun other => key other ≠ key item

variable (key : α → β)

theorem key_mem_firsts_iff {items : List α} {value : β} :
    value ∈ (firsts key items).map key ↔ value ∈ items.map key := by
  induction items with
  | nil => rfl
  | cons item items inductionHypothesis =>
      rw [firsts, List.map_cons, List.map_cons, List.mem_cons, List.mem_cons, ← inductionHypothesis]
      by_cases same : value = key item
      · exact iff_of_true (.inl same) (.inl same)
      · refine or_congr Iff.rfl ?_
        simp only [List.mem_map, List.mem_filter, decide_eq_true_eq]
        constructor
        · rintro ⟨other, ⟨member, _⟩, rfl⟩
          exact ⟨other, member, rfl⟩
        · rintro ⟨other, member, rfl⟩
          exact ⟨other, ⟨member, same⟩, rfl⟩

theorem nodup_firsts (items : List α) : ((firsts key items).map key).Nodup := by
  induction items with
  | nil => exact List.nodup_nil
  | cons item items inductionHypothesis =>
      refine List.nodup_cons.mpr ⟨fun member => ?_, ?_⟩
      · rcases List.mem_map.mp member with ⟨other, kept, same⟩
        exact of_decide_eq_true (List.mem_filter.mp kept).2 same
      · exact inductionHypothesis.sublist (List.filter_sublist.map key)

/-- One more entry is kept when its key is new. -/
theorem firsts_concat (items : List α) (last : α) :
    firsts key (items ++ [last]) =
      if key last ∈ items.map key then firsts key items else firsts key items ++ [last] := by
  induction items with
  | nil => rfl
  | cons item items inductionHypothesis =>
      have among : key last ∈ (item :: items).map key ↔ key last = key item ∨ key last ∈ items.map key := by
        rw [List.map_cons, List.mem_cons]
      rw [List.cons_append, firsts, inductionHypothesis]
      by_cases seen : key last ∈ items.map key
      · rw [if_pos seen, if_pos (among.mpr (.inr seen)), firsts]
      · rw [if_neg seen, List.filter_append, List.filter_singleton]
        by_cases same : key last = key item
        · rw [if_pos (among.mpr (.inl same))]
          simp [same, firsts]
        · rw [if_neg fun present => (among.mp present).elim same seen]
          simp [same, firsts]

end Foundations
