import Mathlib.Data.Nat.Init

namespace Foundations

/-!
# Lists that take turns

The items of an alternating list have two kinds in turn.  Which kind an item
has depends on the parity of its position only, so a stretch of the list may be
exchanged for another one of the same parity that starts with the same kind.
-/

variable {α κ : Type}

/-- The kind whose turn it is at a position. -/
def turn (first second : κ) (position : Nat) : κ := if position % 2 = 0 then first else second

/-- The items have the first and the second kind in turn. -/
def Alternates (kind : α → κ) : κ → κ → List α → Prop
  | _, _, [] => True
  | first, second, item :: items => kind item = first ∧ Alternates kind second first items

instance decidableAlternates [DecidableEq κ] (kind : α → κ) (first second : κ) :
    (items : List α) → Decidable (Alternates kind first second items)
  | [] => isTrue trivial
  | _ :: items =>
      have : Decidable (Alternates kind second first items) := decidableAlternates kind second first items
      inferInstanceAs (Decidable (_ ∧ _))

@[simp] theorem turn_zero (first second : κ) : turn first second 0 = first := rfl

theorem turn_succ (first second : κ) (position : Nat) :
    turn first second (position + 1) = turn second first position := by
  rw [turn, turn]
  rcases Nat.mod_two_eq_zero_or_one position with even | odd
  · rw [if_neg (by omega), if_pos even]
  · rw [if_pos (by omega), if_neg (by omega)]

theorem turn_of_even {position : Nat} (first second : κ) (even : position % 2 = 0) :
    turn first second position = first := if_pos even

theorem turn_of_odd {position : Nat} (first second : κ) (odd : position % 2 = 1) :
    turn first second position = second := if_neg (by omega)

theorem turn_eq_first_iff {first second : κ} (different : first ≠ second) {position : Nat} :
    turn first second position = first ↔ position % 2 = 0 := by
  rcases Nat.mod_two_eq_zero_or_one position with even | odd
  · exact iff_of_true (turn_of_even first second even) even
  · refine iff_of_false ?_ (by omega)
    rw [turn_of_odd first second odd]
    exact different.symm

section

variable {kind : α → κ} {first second : κ}

/-- After the front, the turns go on from its length. -/
theorem alternates_append {front back : List α} :
    Alternates kind first second (front ++ back) ↔
      Alternates kind first second front ∧
        Alternates kind (turn first second front.length) (turn second first front.length) back := by
  induction front generalizing first second with
  | nil => exact ⟨fun alternates => ⟨trivial, alternates⟩, fun parts => parts.2⟩
  | cons item front inductionHypothesis =>
      rw [List.length_cons, turn_succ, turn_succ, List.cons_append, Alternates, Alternates,
        inductionHypothesis, and_assoc]

theorem alternates_singleton {item : α} : Alternates kind first second [item] ↔ kind item = first :=
  and_iff_left trivial

theorem alternates_pair {item next : α} :
    Alternates kind first second [item, next] ↔ kind item = first ∧ kind next = second :=
  and_congr_right fun _ => alternates_singleton

/-- A stretch of odd length may become one item of the kind it starts with. -/
theorem Alternates.replace {front middle back : List α} {item : α}
    (alternates : Alternates kind first second (front ++ middle ++ back))
    (odd : middle.length % 2 = 1) (same : kind item = turn first second front.length) :
    Alternates kind first second (front ++ [item] ++ back) := by
  rw [alternates_append, alternates_append] at alternates ⊢
  rcases alternates with ⟨⟨before, _⟩, after⟩
  refine ⟨⟨before, alternates_singleton.mpr same⟩, ?_⟩
  have parity : (front ++ [item]).length % 2 = (front ++ middle).length % 2 := by
    rw [List.length_append, List.length_append, List.length_singleton]
    omega
  rwa [turn, turn, parity]

/-- The kind of the last item. -/
theorem Alternates.getLast {items : List α} (alternates : Alternates kind first second items)
    (nonempty : items ≠ []) :
    items.getLast?.map kind = some (turn first second (items.length - 1)) := by
  induction items generalizing first second with
  | nil => exact absurd rfl nonempty
  | cons item items inductionHypothesis =>
      cases items with
      | nil => exact congrArg some alternates.1
      | cons next later =>
          rw [List.getLast?_cons_cons, inductionHypothesis alternates.2 (List.cons_ne_nil next later)]
          exact congrArg some (turn_succ first second later.length).symm

/-- An alternating list ends as it starts if and only if its length is odd. -/
theorem Alternates.ends_iff {items : List α} (alternates : Alternates kind first second items)
    (different : first ≠ second) :
    items.getLast?.map kind = some first ↔ items.length % 2 = 1 := by
  by_cases empty : items = []
  · subst empty
    exact iff_of_false (by rintro ⟨⟩) (by rintro ⟨⟩)
  · have positive := List.length_pos_iff.mpr empty
    rw [alternates.getLast empty, Option.some_inj, turn_eq_first_iff different]
    omega

end

end Foundations
