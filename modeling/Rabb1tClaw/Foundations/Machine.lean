import Mathlib.Logic.Function.Basic

namespace Foundations

/-!
# Runs of a machine

A machine performs one action at a time, and an action may be disabled in a
state.  Concurrent parties are a machine whose actions name the party that
moves; a schedule of actions is then one interleaving, and a statement about
all runs is a statement about all interleavings.

The run rules below carry an invariant through a run.  The invariant may speak
about the actions performed so far, so that a property of the final state can
be related to the schedule.  Under a condition on the steps, a step only has
to preserve the invariant when it meets the condition, and the run has to meet
it throughout.  A condition that is exact for single steps is exact for runs.
-/

/-- Actions on a state; a disabled action has no result. -/
structure Machine (σ α : Type) where
  step : σ → α → Option σ

namespace Machine

variable {σ α : Type} (machine : Machine σ α)

/-- Perform a schedule of actions. -/
def run (state : σ) : List α → Option σ
  | [] => some state
  | action :: actions => (machine.step state action).bind fun next => run next actions

/-- Every step of a schedule meets a condition on the state and the action. -/
def Guarded (guard : σ → α → Prop) (state : σ) : List α → Prop
  | [] => True
  | action :: actions =>
      guard state action ∧
        ∀ next, machine.step state action = some next → Guarded guard next actions

/-- Every state of a run has a property. -/
def Throughout (property : σ → Prop) (state : σ) : List α → Prop
  | [] => property state
  | action :: actions =>
      property state ∧
        ∀ next, machine.step state action = some next → Throughout property next actions

variable {machine}

theorem run_cons {state final : σ} {action : α} {actions : List α}
    (runs : machine.run state (action :: actions) = some final) :
    ∃ next, machine.step state action = some next ∧ machine.run next actions = some final :=
  Option.bind_eq_some_iff.mp runs

theorem run_of_step {state next : σ} {action : α} (step : machine.step state action = some next)
    (actions : List α) : machine.run state (action :: actions) = machine.run next actions := by
  rw [run, step, Option.bind_some]

/-- Run rule under a condition on the steps. -/
theorem run_invariant_guarded {guard : σ → α → Prop} {invariant : List α → σ → Prop}
    (preserved : ∀ past state action next, invariant past state → guard state action →
      machine.step state action = some next → invariant (past ++ [action]) next)
    (past : List α) {schedule : List α} {start final : σ} (holds : invariant past start)
    (guarded : machine.Guarded guard start schedule) (runs : machine.run start schedule = some final) :
    invariant (past ++ schedule) final := by
  induction schedule generalizing past start with
  | nil =>
      rcases Option.some.inj runs with rfl
      rwa [List.append_nil]
  | cons action actions inductionHypothesis =>
      rcases run_cons runs with ⟨next, step, rest⟩
      have grown := inductionHypothesis (past ++ [action])
        (preserved past start action next holds guarded.1 step) (guarded.2 next step) rest
      rwa [List.append_assoc] at grown

/-- A condition may be exchanged for another that follows from it and from an
invariant. -/
theorem guarded_of_invariant {guard guard' : σ → α → Prop} {invariant : σ → Prop}
    (preserved : ∀ state action next, invariant state → guard state action →
      machine.step state action = some next → invariant next)
    (implies : ∀ state action, invariant state → guard state action → guard' state action)
    {start : σ} {schedule : List α} (holds : invariant start)
    (guarded : machine.Guarded guard start schedule) : machine.Guarded guard' start schedule := by
  induction schedule generalizing start with
  | nil => trivial
  | cons action actions inductionHypothesis =>
      refine ⟨implies start action holds guarded.1, fun next step => ?_⟩
      exact inductionHypothesis (preserved start action next holds guarded.1 step)
        (guarded.2 next step)

theorem guarded_cons {guard : σ → α → Prop} {state next : σ} {action : α} {actions : List α}
    (allowed : guard state action) (step : machine.step state action = some next)
    (later : machine.Guarded guard next actions) : machine.Guarded guard state (action :: actions) := by
  refine ⟨allowed, fun next' step' => ?_⟩
  rcases Option.some.inj (step.symm.trans step') with rfl
  exact later

theorem guarded_cons_some {guard : σ → α → Prop} {state next : σ} {action : α} {actions : List α}
    (step : machine.step state action = some next) :
    machine.Guarded guard state (action :: actions) ↔
      guard state action ∧ machine.Guarded guard next actions :=
  ⟨fun guarded => ⟨guarded.1, guarded.2 next step⟩,
    fun guarded => guarded_cons guarded.1 step guarded.2⟩

theorem guarded_cons_none {guard : σ → α → Prop} {state : σ} {action : α} {actions : List α}
    (step : machine.step state action = none) :
    machine.Guarded guard state (action :: actions) ↔ guard state action := by
  refine ⟨fun guarded => guarded.1, fun allowed => ⟨allowed, fun next enabled => ?_⟩⟩
  rw [step] at enabled
  cases enabled

/-- A condition on the steps can be checked along a run. -/
instance decidableGuarded {guard : σ → α → Prop} [∀ state action, Decidable (guard state action)] :
    (state : σ) → (schedule : List α) → Decidable (machine.Guarded guard state schedule)
  | _, [] => isTrue trivial
  | state, action :: actions =>
      match step : machine.step state action with
      | none => decidable_of_iff _ (guarded_cons_none step).symm
      | some next =>
          have : Decidable (machine.Guarded guard next actions) := decidableGuarded next actions
          decidable_of_iff _ (guarded_cons_some step).symm

/-- A condition that holds of the actions in every state. -/
theorem guarded_of_forall {guard : σ → α → Prop} {schedule : List α}
    (always : ∀ action ∈ schedule, ∀ state, guard state action) (state : σ) :
    machine.Guarded guard state schedule := by
  induction schedule generalizing state with
  | nil => trivial
  | cons action actions inductionHypothesis =>
      refine ⟨always action List.mem_cons_self state, fun next _ => ?_⟩
      exact inductionHypothesis (fun other member => always other (List.mem_cons_of_mem action member))
        next

/-- A condition that holds at every step of a run, given the steps before it. -/
theorem guarded_of_splits {guard : σ → α → Prop} {start : σ} {schedule : List α}
    (meets : ∀ before action later middle, schedule = before ++ action :: later →
      machine.run start before = some middle → guard middle action) :
    machine.Guarded guard start schedule := by
  induction schedule generalizing start with
  | nil => trivial
  | cons action actions inductionHypothesis =>
      refine ⟨meets [] action actions start rfl rfl, fun next step => ?_⟩
      apply inductionHypothesis
      intro before other later middle split runs
      refine meets (action :: before) other later middle (by rw [split]; rfl) ?_
      rw [run, step, Option.bind_some]
      exact runs

theorem Guarded.of_append {guard : σ → α → Prop} {start middle : σ} {first second : List α}
    (guarded : machine.Guarded guard start (first ++ second)) (runs : machine.run start first = some middle) :
    machine.Guarded guard middle second := by
  induction first generalizing start with
  | nil =>
      rcases Option.some.inj runs with rfl
      exact guarded
  | cons action actions inductionHypothesis =>
      rcases run_cons runs with ⟨next, step, rest⟩
      exact inductionHypothesis (guarded.2 next step) rest

theorem Guarded.append {guard : σ → α → Prop} {start middle : σ} {first second : List α}
    (guarded : machine.Guarded guard start first) (runs : machine.run start first = some middle)
    (later : machine.Guarded guard middle second) : machine.Guarded guard start (first ++ second) := by
  induction first generalizing start with
  | nil =>
      rcases Option.some.inj runs with rfl
      exact later
  | cons action actions inductionHypothesis =>
      rcases run_cons runs with ⟨next, step, rest⟩
      exact guarded_cons guarded.1 step (inductionHypothesis (guarded.2 next step) rest)

theorem Guarded.and {guard guard' : σ → α → Prop} {state : σ} {schedule : List α}
    (first : machine.Guarded guard state schedule) (second : machine.Guarded guard' state schedule) :
    machine.Guarded (fun state action => guard state action ∧ guard' state action) state schedule := by
  induction schedule generalizing state with
  | nil => trivial
  | cons action actions inductionHypothesis =>
      exact ⟨⟨first.1, second.1⟩, fun next step => inductionHypothesis (first.2 next step) (second.2 next step)⟩

/-- Run rule: what every step preserves holds at the end of every run. -/
theorem run_invariant {invariant : List α → σ → Prop}
    (preserved : ∀ past state action next, invariant past state →
      machine.step state action = some next → invariant (past ++ [action]) next)
    (past : List α) {schedule : List α} {start final : σ} (holds : invariant past start)
    (runs : machine.run start schedule = some final) : invariant (past ++ schedule) final :=
  run_invariant_guarded
    (fun past state action next here _ step => preserved past state action next here step) past
    holds (guarded_of_forall (fun _ _ _ => trivial) start) runs

/-- Run rule for a property of the state alone. -/
theorem run_keeps {invariant : σ → Prop}
    (preserved : ∀ state action next, invariant state → machine.step state action = some next →
      invariant next)
    {schedule : List α} {start final : σ} (holds : invariant start)
    (runs : machine.run start schedule = some final) : invariant final := by
  have carried : ∀ (past : List α) state action next, invariant state →
      machine.step state action = some next → invariant next :=
    fun _ state action next => preserved state action next
  exact run_invariant carried [] holds runs

/-- A property that follows from an invariant holds throughout a run that
meets the condition. -/
theorem throughout_of_guarded {guard : σ → α → Prop} {property invariant : σ → Prop}
    (preserved : ∀ state action next, invariant state → guard state action →
      machine.step state action = some next → invariant next)
    (implies : ∀ state, invariant state → property state) {start : σ} {schedule : List α}
    (holds : invariant start) (guarded : machine.Guarded guard start schedule) :
    machine.Throughout property start schedule := by
  induction schedule generalizing start with
  | nil => exact implies start holds
  | cons action actions inductionHypothesis =>
      refine ⟨implies start holds, fun next step => ?_⟩
      exact inductionHypothesis (preserved start action next holds guarded.1 step)
        (guarded.2 next step)

theorem Throughout.here {property : σ → Prop} {start : σ} {schedule : List α}
    (throughout : machine.Throughout property start schedule) : property start := by
  cases schedule with
  | nil => exact throughout
  | cons action actions => exact throughout.1

theorem throughout_iff_guarded {guard : σ → α → Prop} {property : σ → Prop} {schedule : List α}
    (sharp : ∀ state, ∀ action ∈ schedule, ∀ next, property state →
      machine.step state action = some next → (guard state action ↔ property next))
    {start final : σ} (holds : property start) (runs : machine.run start schedule = some final) :
    machine.Throughout property start schedule ↔ machine.Guarded guard start schedule := by
  induction schedule generalizing start with
  | nil => exact iff_of_true holds trivial
  | cons action actions inductionHypothesis =>
      rcases run_cons runs with ⟨next, step, rest⟩
      have here := sharp start action List.mem_cons_self next holds step
      have later (reached : property next) := inductionHypothesis
        (fun state other member => sharp state other (List.mem_cons_of_mem action member)) reached rest
      constructor
      · rintro ⟨_, onwards⟩
        have reached : property next := (onwards next step).here
        exact guarded_cons (here.mpr reached) step ((later reached).mp (onwards next step))
      · rintro ⟨allowed, onwards⟩
        have reached := here.mp allowed
        refine ⟨holds, fun next' step' => ?_⟩
        rcases Option.some.inj (step.symm.trans step') with rfl
        exact (later reached).mpr (onwards next step)

/-- A run meets a condition if a step that does not would lose a property that
the run keeps. -/
theorem guarded_of_throughout {guard : σ → α → Prop} {property invariant : σ → Prop}
    (preserved : ∀ state action next, invariant state → machine.step state action = some next →
      invariant next)
    (needs : ∀ state action next, invariant state → machine.step state action = some next →
      property next → guard state action)
    {start final : σ} {schedule : List α} (holds : invariant start)
    (runs : machine.run start schedule = some final)
    (throughout : machine.Throughout property start schedule) :
    machine.Guarded guard start schedule := by
  induction schedule generalizing start with
  | nil => trivial
  | cons action actions inductionHypothesis =>
      rcases run_cons runs with ⟨next, step, rest⟩
      have onwards := throughout.2 next step
      exact guarded_cons (needs start action next holds step onwards.here) step
        (inductionHypothesis (preserved start action next holds step) rest onwards)

/-- A run meets a condition if a step that does not would doom its final
state. -/
theorem guarded_of_doomed {guard : σ → α → Prop} {invariant doomed : σ → Prop}
    (preserved : ∀ state action next, invariant state → machine.step state action = some next →
      invariant next)
    (dooms : ∀ state action next, invariant state → ¬ guard state action →
      machine.step state action = some next → doomed next)
    (stays : ∀ state action next, doomed state → machine.step state action = some next → doomed next)
    {start final : σ} {schedule : List α} (holds : invariant start)
    (runs : machine.run start schedule = some final) (spared : ¬ doomed final) :
    machine.Guarded guard start schedule := by
  induction schedule generalizing start with
  | nil => trivial
  | cons action actions inductionHypothesis =>
      rcases run_cons runs with ⟨next, step, rest⟩
      have allowed : guard start action := by
        apply Classical.byContradiction
        intro refused
        exact spared (run_keeps stays (dooms start action next holds refused step) rest)
      exact guarded_cons allowed step
        (inductionHypothesis (preserved start action next holds step) rest)

/-- Where a condition leaves at most one action in each state, there is at most
one run to a state that it leaves none. -/
theorem run_unique {guard : σ → α → Prop} {final final' : σ}
    (single : ∀ state first second next next', guard state first → guard state second →
      machine.step state first = some next → machine.step state second = some next' → first = second)
    (ends : ∀ action next, guard final action → machine.step final action ≠ some next)
    (ends' : ∀ action next, guard final' action → machine.step final' action ≠ some next)
    {start : σ} {schedule schedule' : List α} (guarded : machine.Guarded guard start schedule)
    (guarded' : machine.Guarded guard start schedule') (runs : machine.run start schedule = some final)
    (runs' : machine.run start schedule' = some final') : schedule = schedule' := by
  induction schedule generalizing start schedule' with
  | nil =>
      rcases Option.some.inj runs with rfl
      cases schedule' with
      | nil => rfl
      | cons action actions =>
          rcases run_cons runs' with ⟨next, step, _⟩
          exact absurd step (ends action next guarded'.1)
  | cons action actions inductionHypothesis =>
      rcases run_cons runs with ⟨next, step, rest⟩
      cases schedule' with
      | nil =>
          rcases Option.some.inj runs' with rfl
          exact absurd step (ends' action next guarded.1)
      | cons action' actions' =>
          rcases run_cons runs' with ⟨next', step', rest'⟩
          rcases single start action action' next next' guarded.1 guarded'.1 step step' with rfl
          rcases Option.some.inj (step.symm.trans step') with rfl
          rw [inductionHypothesis (guarded.2 next step) (guarded'.2 next step) rest rest']

/-! ## Reachability -/

theorem run_append (state : σ) (first second : List α) :
    machine.run state (first ++ second) =
      (machine.run state first).bind fun middle => machine.run middle second := by
  induction first generalizing state with
  | nil => rfl
  | cons action actions inductionHypothesis =>
      rw [List.cons_append, run, run, Option.bind_assoc]
      exact congrArg _ (funext inductionHypothesis)

theorem run_concat_iff {start final : σ} {past : List α} {action : α} :
    machine.run start (past ++ [action]) = some final ↔
      ∃ state, machine.run start past = some state ∧ machine.step state action = some final := by
  rw [run_append, Option.bind_eq_some_iff]
  refine exists_congr fun state => and_congr_right fun _ => ?_
  have last : machine.run state [action] = machine.step state action := Option.bind_fun_some _
  rw [last]

variable (machine) in
/-- Some schedule leads from a state to another. -/
def Reaches (start final : σ) : Prop := ∃ schedule, machine.run start schedule = some final

theorem Reaches.refl (state : σ) : machine.Reaches state state := ⟨[], rfl⟩

theorem Reaches.trans {start middle final : σ} (first : machine.Reaches start middle)
    (second : machine.Reaches middle final) : machine.Reaches start final := by
  rcases first with ⟨earlier, toMiddle⟩
  rcases second with ⟨later, toFinal⟩
  refine ⟨earlier ++ later, ?_⟩
  rw [run_append, toMiddle, Option.bind_some, toFinal]

theorem Reaches.cons {start next final : σ} {action : α} (step : machine.step start action = some next)
    (rest : machine.Reaches next final) : machine.Reaches start final := by
  rcases rest with ⟨schedule, runs⟩
  refine ⟨action :: schedule, ?_⟩
  rw [run, step, Option.bind_some, runs]

/-- What can always be made smaller reaches the bottom. -/
theorem reaches_bottom {property : σ → Prop} (size : σ → Nat)
    (shrinks : ∀ state, property state → size state ≠ 0 → ∃ action next,
      machine.step state action = some next ∧ property next ∧ size next < size state)
    {start : σ} (holds : property start) :
    ∃ final, machine.Reaches start final ∧ property final ∧ size final = 0 := by
  induction measured : size start using Nat.strongRecOn generalizing start with
  | _ bound inductionHypothesis =>
      by_cases bottom : size start = 0
      · exact ⟨start, .refl start, holds, bottom⟩
      · rcases shrinks start holds bottom with ⟨action, next, step, kept, smaller⟩
        rcases inductionHypothesis (size next) (measured ▸ smaller) kept rfl with
          ⟨final, reached, property, zero⟩
        exact ⟨final, .cons step reached, property, zero⟩

end Machine

/-! ## Parts of a state by index -/

/-- A value at an index is the new one, or the index is another. -/
theorem update_eq_cases {ι β : Type} [DecidableEq ι] {values : ι → β} {index other : ι} {new value : β}
    (here : Function.update values index new other = value) :
    (other = index ∧ value = new) ∨ (other ≠ index ∧ values other = value) := by
  by_cases same : other = index
  · rw [same, Function.update_self] at here
    exact .inl ⟨same, here.symm⟩
  · rw [Function.update_of_ne same] at here
    exact .inr ⟨same, here⟩

/-- A change of another value leaves a value where it is. -/
theorem update_eq_of_ne {ι β : Type} [DecidableEq ι] {values : ι → β} {index other : ι} {new value : β}
    (differs : values index ≠ value) (there : values other = value) :
    Function.update values index new other = value := by
  rw [Function.update_of_ne]
  · exact there
  · rintro rfl
    exact differs there

/-- A change between other values changes nothing about who has a value. -/
theorem update_eq_iff_of_ne {ι β : Type} [DecidableEq ι] {values : ι → β} {index : ι} {new value : β}
    (before : values index ≠ value) (after : new ≠ value) (other : ι) :
    Function.update values index new other = value ↔ values other = value := by
  constructor
  · intro here
    rcases update_eq_cases here with ⟨_, same⟩ | ⟨_, there⟩
    · exact absurd same.symm after
    · exact there
  · intro there
    have differs : other ≠ index := by
      rintro rfl
      exact before there
    rw [Function.update_of_ne differs]
    exact there

end Foundations
