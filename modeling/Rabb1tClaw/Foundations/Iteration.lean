namespace Foundations

/-!
# Loops that may panic

A `loop` or `while` of the source is modelled by its body: one pass either
moves to a next state, finishes with a result, or panics (`none`).  `iterate`
repeats the body a bounded number of times and reports separately that the
bound was too small, so a bound can never be mistaken for a panic.

Proofs about loops do not mention the bound.  They build a `Settles`
derivation, which records how the loop ends and after how many passes, and
hand it to `iterate_of_settles` once.
-/

/-- What one pass through a loop body decides. -/
inductive Flow (σ ρ : Type) where
  | next (state : σ)
  | done (result : ρ)

/-- Change what the loop carries and what it finishes with. -/
def Flow.map {σ τ ρ υ : Type} (project : σ → τ) (finish : ρ → υ) : Flow σ ρ → Flow τ υ
  | next state => next (project state)
  | done result => done (finish result)

/-- How a computation with a bounded number of passes ends. -/
inductive Outcome (ρ : Type) where
  | returned (result : ρ)
  | panicked
  | unfinished
  deriving DecidableEq, Repr

namespace Outcome

variable {ρ τ : Type}

/-- Sequencing: a panic or an exhausted bound ends the whole computation. -/
def bind : Outcome ρ → (ρ → Outcome τ) → Outcome τ
  | returned result, continuation => continuation result
  | panicked, _ => panicked
  | unfinished, _ => unfinished

/-- A step that can only panic, seen as a computation. -/
def ofOption : Option ρ → Outcome ρ
  | some result => returned result
  | none => panicked

def map (transform : ρ → τ) (outcome : Outcome ρ) : Outcome τ :=
  outcome.bind fun result => returned (transform result)

@[simp] theorem bind_returned (result : ρ) (continuation : ρ → Outcome τ) :
    (returned result).bind continuation = continuation result := rfl

@[simp] theorem ofOption_some (result : ρ) : ofOption (some result) = returned result := rfl

@[simp] theorem map_returned (transform : ρ → τ) (result : ρ) :
    (returned result).map transform = returned (transform result) := rfl

end Outcome

variable {σ ρ : Type}

/-- Repeat a loop body at most the given number of times. -/
def iterate (body : σ → Option (Flow σ ρ)) : Nat → σ → Outcome ρ
  | 0, _ => .unfinished
  | passes + 1, state =>
      match body state with
      | none => .panicked
      | some (.done result) => .returned result
      | some (.next following) => iterate body passes following

/-- The loop started in a state ends in the outcome after so many passes. -/
inductive Settles (body : σ → Option (Flow σ ρ)) : Nat → σ → Outcome ρ → Prop
  | panic {state : σ} (stops : body state = none) : Settles body 1 state .panicked
  | done {state : σ} {result : ρ} (stops : body state = some (.done result)) :
      Settles body 1 state (.returned result)
  | next {state following : σ} {passes : Nat} {outcome : Outcome ρ}
      (moves : body state = some (.next following))
      (later : Settles body passes following outcome) :
      Settles body (passes + 1) state outcome

/-- A bound that covers the passes of a derivation gives its outcome. -/
theorem iterate_of_settles {body : σ → Option (Flow σ ρ)} {passes bound : Nat} {state : σ}
    {outcome : Outcome ρ} (settles : Settles body passes state outcome) (enough : passes ≤ bound) :
    iterate body bound state = outcome := by
  induction settles generalizing bound with
  | panic stops =>
      rcases Nat.exists_eq_add_of_le' enough with ⟨more, rfl⟩
      simp only [iterate, stops]
  | done stops =>
      rcases Nat.exists_eq_add_of_le' enough with ⟨more, rfl⟩
      simp only [iterate, stops]
  | next moves later inductionHypothesis =>
      rcases Nat.exists_eq_add_of_le' enough with ⟨more, rfl⟩
      rw [← Nat.add_assoc, iterate, moves]
      exact inductionHypothesis (Nat.le_add_left _ _)

/-- What every pass preserves holds of the result. -/
theorem iterate_invariant {body : σ → Option (Flow σ ρ)} {Holds : σ → Prop} {Result : ρ → Prop}
    (moves : ∀ state following, Holds state → body state = some (.next following) → Holds following)
    (stops : ∀ state result, Holds state → body state = some (.done result) → Result result)
    {passes : Nat} {state : σ} {result : ρ} (holds : Holds state)
    (returns : iterate body passes state = .returned result) : Result result := by
  induction passes generalizing state with
  | zero => cases returns
  | succ passes inductionHypothesis =>
      rw [iterate] at returns
      rcases step : body state with _ | ⟨following | last⟩
      · rw [step] at returns
        cases returns
      · rw [step] at returns
        exact inductionHypothesis (moves state following holds step) returns
      · rw [step] at returns
        rcases Outcome.returned.inj returns with rfl
        exact stops state last holds step

/-- Two loops whose passes agree up to a projection agree on the whole. -/
theorem iterate_map {τ υ : Type} {body : σ → Option (Flow σ ρ)} {body' : τ → Option (Flow τ υ)}
    (project : σ → τ) (finish : ρ → υ)
    (commutes : ∀ state, body' (project state) = (body state).map (Flow.map project finish))
    (passes : Nat) (state : σ) :
    iterate body' passes (project state) = (iterate body passes state).map finish := by
  induction passes generalizing state with
  | zero => rfl
  | succ passes inductionHypothesis =>
      rw [iterate, iterate, commutes]
      rcases body state with _ | ⟨following | last⟩
      · rfl
      · exact inductionHypothesis following
      · rfl

end Foundations
