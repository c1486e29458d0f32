import Rabb1tClaw.Foundations.Machine

namespace Foundations

/-!
# Views of a machine

A machine may be looked at through a function of its state.  If every step
appears there as some steps of another machine, then every run appears as a
run of that machine.

Where several parties act on one state, the part of one party is such a view
if the party's own steps need nothing else and the steps of the others leave
it as it is.  Then the part at the end of a run is what the party's own steps
lead to, without the steps of the others (`run_own`).

What happened on the way is seen by an observer, who notes something at some
steps and nothing at the others (`observed`).
-/

namespace Machine

variable {σ τ α β : Type} {machine : Machine σ α} {other : Machine τ β} {allowed : σ → α → Prop}

theorem run_singleton (state : σ) (action : α) : machine.run state [action] = machine.step state action :=
  Option.bind_fun_some _

/-- Steps that appear as steps of another machine give runs that do. -/
theorem run_view {view : σ → τ} {translate : α → List β}
    (square : ∀ state action next, allowed state action → machine.step state action = some next →
      other.run (view state) (translate action) = some (view next))
    {start final : σ} {schedule : List α} (guarded : machine.Guarded allowed start schedule)
    (runs : machine.run start schedule = some final) :
    other.run (view start) (schedule.flatMap translate) = some (view final) := by
  induction schedule generalizing start with
  | nil => exact congrArg _ (congrArg view (Option.some.inj runs))
  | cons action actions inductionHypothesis =>
      rcases run_cons runs with ⟨next, step, rest⟩
      rw [List.flatMap_cons, run_append, square start action next guarded.1 step, Option.bind_some]
      exact inductionHypothesis (guarded.2 next step) rest

/-- A condition on the steps of the other machine holds of those that appear
as its steps. -/
theorem Guarded.of_view {other : Machine τ α} {view : σ → τ} {guard : τ → α → Prop}
    (square : ∀ state action next, machine.step state action = some next →
      other.step (view state) action = some (view next))
    {start : σ} {schedule : List α} (guarded : other.Guarded guard (view start) schedule) :
    machine.Guarded (fun state action => guard (view state) action) start schedule := by
  induction schedule generalizing start with
  | nil => trivial
  | cons action actions inductionHypothesis =>
      refine ⟨guarded.1, fun next step => ?_⟩
      exact inductionHypothesis (guarded.2 (view next) (square start action next step))

/-- The same where the steps of the other machine depend on the state. -/
theorem reaches_view {view : σ → τ}
    (square : ∀ state action next, allowed state action → machine.step state action = some next →
      other.Reaches (view state) (view next))
    {start final : σ} {schedule : List α} (guarded : machine.Guarded allowed start schedule)
    (runs : machine.run start schedule = some final) : other.Reaches (view start) (view final) := by
  induction schedule generalizing start with
  | nil =>
      rcases Option.some.inj runs with rfl
      exact .refl _
  | cons action actions inductionHypothesis =>
      rcases run_cons runs with ⟨next, step, rest⟩
      exact (square start action next guarded.1 step).trans
        (inductionHypothesis (guarded.2 next step) rest)

/-- A part that the steps of others leave as it is. -/
theorem run_own {view : σ → σ} {own : α → Bool}
    (determined : ∀ state action next, own action = true → allowed state action →
      machine.step state action = some next → machine.step (view state) action = some (view next))
    (undisturbed : ∀ state action next, own action = false → allowed state action →
      machine.step state action = some next → view next = view state)
    {start final : σ} {schedule : List α} (guarded : machine.Guarded allowed start schedule)
    (runs : machine.run start schedule = some final) :
    machine.run (view start) (schedule.filter own) = some (view final) := by
  induction schedule generalizing start with
  | nil => exact congrArg _ (congrArg view (Option.some.inj runs))
  | cons action actions inductionHypothesis =>
      rcases run_cons runs with ⟨next, step, rest⟩
      have later := inductionHypothesis (guarded.2 next step) rest
      cases mine : own action with
      | true =>
          rw [List.filter_cons_of_pos mine, run, determined start action next mine guarded.1 step]
          exact later
      | false =>
          rw [List.filter_cons_of_neg (by rw [mine]; exact Bool.false_ne_true),
            ← undisturbed start action next mine guarded.1 step]
          exact later

/-! ## Observers -/

/-- What an observer notes along a run. -/
def observed {ω : Type} (machine : Machine σ α) (notes : σ → α → Option ω) (state : σ) : List α → List ω
  | [] => []
  | action :: actions =>
      (notes state action).toList ++
        match machine.step state action with
        | some next => observed machine notes next actions
        | none => []

/-- One more step adds what is noted at this step. -/
theorem observed_concat {ω : Type} {notes : σ → α → Option ω} {start state : σ} {past : List α}
    (runs : machine.run start past = some state) (action : α) :
    machine.observed notes start (past ++ [action]) =
      machine.observed notes start past ++ (notes state action).toList := by
  induction past generalizing start with
  | nil =>
      rcases Option.some.inj runs with rfl
      rw [List.nil_append, observed, observed, List.nil_append]
      split
      · exact List.append_nil _
      · exact List.append_nil _
  | cons earlier past inductionHypothesis =>
      rcases run_cons runs with ⟨next, step, rest⟩
      rw [List.cons_append, observed, observed, step]
      simp only [inductionHypothesis rest, List.append_assoc]

/-- Run rule: an invariant of the state and of what was noted, under a
condition on the steps. -/
theorem observed_invariant {ω : Type} {notes : σ → α → Option ω} {guard : σ → α → Prop}
    {invariant : List ω → σ → Prop}
    (preserved : ∀ noted state action next, invariant noted state → guard state action →
      machine.step state action = some next → invariant (noted ++ (notes state action).toList) next)
    {start final : σ} {schedule : List α} (holds : invariant [] start)
    (guarded : machine.Guarded guard start schedule) (runs : machine.run start schedule = some final) :
    invariant (machine.observed notes start schedule) final := by
  have carried : ∀ past state action next,
      (machine.run start past = some state ∧ invariant (machine.observed notes start past) state) →
        guard state action → machine.step state action = some next →
          machine.run start (past ++ [action]) = some next ∧
            invariant (machine.observed notes start (past ++ [action])) next := by
    rintro past state action next ⟨reached, here⟩ allowed step
    refine ⟨run_concat_iff.mpr ⟨state, reached, step⟩, ?_⟩
    rw [observed_concat reached]
    exact preserved _ state action next here allowed step
  exact (run_invariant_guarded carried [] ⟨rfl, holds⟩ guarded runs).2

theorem Reaches.step {start next : σ} {action : α} (step : machine.step start action = some next) :
    machine.Reaches start next :=
  .cons step (.refl next)

end Machine

end Foundations
