namespace Foundations

/-!
# Interleaved queues

Several parties each hold a queue of items and take turns.  `Draws` relates
the queues, the order of the turns, the items in the order in which they were
drawn, and the queues that are left.  It forgets everything else about the
parties, so a concurrent program whose steps each draw one item has a `Draws`
derivation for every run.

When every queue holds a pair or nothing, the drawn items are a sequence of
pairs exactly when the turns are: two turns of the same party in a row.
-/

variable {α : Type}

/-- Drawing from queues in an order of turns. -/
inductive Draws : List (List α) → List Nat → List α → List (List α) → Prop
  | nil (queues : List (List α)) : Draws queues [] [] queues
  | cons {queues final : List (List α)} {turn : Nat} {order : List Nat} {item : α}
      {queue drawn : List α} (first : queues[turn]? = some (item :: queue))
      (later : Draws (queues.set turn queue) order drawn final) :
      Draws queues (turn :: order) (item :: drawn) final

namespace Draws

variable {queues middle final : List (List α)} {order order' : List Nat} {drawn drawn' : List α}

theorem trans (first : Draws queues order drawn middle) (second : Draws middle order' drawn' final) :
    Draws queues (order ++ order') (drawn ++ drawn') final := by
  induction first with
  | nil => exact second
  | cons item later inductionHypothesis => exact .cons item (inductionHypothesis second)

/-- One more turn. -/
theorem concat (draws : Draws queues order drawn middle) {turn : Nat} {item : α} {queue : List α}
    (last : middle[turn]? = some (item :: queue)) :
    Draws queues (order ++ [turn]) (drawn ++ [item]) (middle.set turn queue) :=
  draws.trans (.cons last (.nil _))

theorem length_eq (draws : Draws queues order drawn final) : drawn.length = order.length := by
  induction draws with
  | nil => rfl
  | cons item later inductionHypothesis =>
      rw [List.length_cons, List.length_cons, inductionHypothesis]

end Draws

/-- A list of pairs: first and second, first and second, and so on. -/
inductive PairedBy (related : α → α → Prop) : List α → Prop
  | nil : PairedBy related []
  | cons {first second : α} {rest : List α} (pair : related first second)
      (later : PairedBy related rest) : PairedBy related (first :: second :: rest)

namespace PairedBy

variable {related : α → α → Prop}

theorem cons_cons_iff {first second : α} {rest : List α} :
    PairedBy related (first :: second :: rest) ↔ related first second ∧ PairedBy related rest := by
  constructor
  · rintro ⟨⟩
    exact ⟨‹_›, ‹_›⟩
  · rintro ⟨pair, later⟩
    exact .cons pair later

theorem append_iff {front rest : List α} (paired : PairedBy related front) :
    PairedBy related (front ++ rest) ↔ PairedBy related rest := by
  induction paired with
  | nil => rfl
  | cons pair later inductionHypothesis =>
      rw [List.cons_append, List.cons_append, cons_cons_iff, inductionHypothesis]
      exact and_iff_right pair

theorem map_iff {β : Type} {view : β → α} {list : List β} :
    PairedBy related (list.map view) ↔
      PairedBy (fun first second => related (view first) (view second)) list := by
  constructor
  · intro paired
    generalize same : list.map view = image at paired
    induction paired generalizing list with
    | nil =>
        rw [List.map_eq_nil_iff.mp same]
        exact .nil
    | cons pair later inductionHypothesis =>
        rcases List.map_eq_cons_iff.mp same with ⟨first, tail, rfl, rfl, same'⟩
        rcases List.map_eq_cons_iff.mp same' with ⟨second, rest, rfl, rfl, same''⟩
        exact .cons pair (inductionHypothesis same'')
  · intro paired
    induction paired with
    | nil => exact .nil
    | cons pair later inductionHypothesis => exact .cons pair inductionHypothesis

end PairedBy

/-- Every queue holds nothing or a pair, and no two queues start with
items that would make a pair. -/
structure PairQueues (related : α → α → Prop) (queues : List (List α)) : Prop where
  pairs : ∀ queue ∈ queues, queue = [] ∨ ∃ first second, queue = [first, second] ∧ related first second
  apart : ∀ first rest second rest', first :: rest ∈ queues → second :: rest' ∈ queues →
    ¬ related first second

/-- Emptying a queue keeps the condition. -/
theorem PairQueues.set_nil {related : α → α → Prop} {queues : List (List α)}
    (pairs : PairQueues related queues) (turn : Nat) : PairQueues related (queues.set turn []) where
  pairs := by
    intro queue member
    rcases List.mem_or_eq_of_mem_set member with before | rfl
    · exact pairs.pairs queue before
    · exact Or.inl rfl
  apart := by
    intro first rest second rest' left right
    rcases List.mem_or_eq_of_mem_set left with before | impossible
    · rcases List.mem_or_eq_of_mem_set right with before' | impossible
      · exact pairs.apart first rest second rest' before before'
      · cases impossible
    · cases impossible

/-- When all pairs are drawn, they lie side by side exactly when each party
takes its two turns in a row. -/
theorem pairedBy_draws_iff {related : α → α → Prop} {queues final : List (List α)}
    {order : List Nat} {drawn : List α} (pairs : PairQueues related queues)
    (draws : Draws queues order drawn final) (empty : ∀ queue ∈ final, queue = []) :
    PairedBy related drawn ↔ PairedBy (fun turn turn' => turn = turn') order := by
  induction size : order.length using Nat.strongRecOn generalizing queues order drawn with
  | ind size inductionHypothesis =>
      cases draws with
      | nil => exact iff_of_true .nil .nil
      | @cons _ _ turn order item queue drawn head later =>
          have here := List.mem_of_getElem? head
          rcases pairs.pairs _ here with impossible | ⟨first, second, isPair, joined⟩
          · cases impossible
          · rcases List.cons.inj isPair with ⟨rfl, rfl⟩
            cases later with
            | nil =>
                -- The second item would be left behind.
                have left := empty [second] (List.mem_of_getElem? (by
                  rw [List.getElem?_set_self (List.getElem?_eq_some_iff.mp head).1]))
                cases left
            | @cons _ _ turn' order item' queue' drawn head' later =>
                by_cases same : turn = turn'
                · subst same
                  rw [List.getElem?_set_self (List.getElem?_eq_some_iff.mp head).1] at head'
                  rcases List.cons.inj (Option.some.inj head') with ⟨rfl, rfl⟩
                  rw [List.set_set] at later
                  have shorter : order.length < (turn :: turn :: order).length := by
                    simp only [List.length_cons]
                    omega
                  rw [PairedBy.cons_cons_iff, PairedBy.cons_cons_iff,
                    inductionHypothesis order.length (size ▸ shorter) (pairs.set_nil turn) later rfl]
                  simp [joined]
                · rw [List.getElem?_set_ne same] at head'
                  have notPaired := pairs.apart _ _ _ _ here (List.mem_of_getElem? head')
                  rw [PairedBy.cons_cons_iff, PairedBy.cons_cons_iff]
                  exact iff_of_false (fun both => notPaired both.1) (fun both => same both.1)

end Foundations
