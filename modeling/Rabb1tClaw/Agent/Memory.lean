import Mathlib.Data.List.Nodup
import Mathlib.Logic.Function.Basic
import Rabb1tClaw.Agent.Session
import Rabb1tClaw.Foundations.Machine

namespace Rabb1tClaw
namespace Agent

open Foundations

/-!
# Triggering the memory agent

A run that completes records the turn of the user and then its own, and spawns
a memory task.  The task counts the user turns of the session and starts an
extraction if their number is a multiple of the interval.  It counts when it
is scheduled, which may be after other runs of the device have recorded turns
of their own.  Then it sees a number that is not the one of its own turn.

A run is named by a number, and `ownNumber` is the number of its user turn.
-/

/-- `turn_count`. -/
def SessionStore.turnCount (store : SessionStore) (token : Text) : Nat :=
  (store.getHistory token).countP fun turn => turn.role = "user".toList

/-- The check of `maybe_run_memory_subagent`. -/
def runsMemory (turnInterval turnCount : Nat) : Bool :=
  !(turnCount = 0 || turnInterval = 0 || turnCount % turnInterval ≠ 0)

/-- What a run records. -/
structure CompletedRun where
  userMessage : Text
  cleanResponse : Text
  runId : Text
  deriving DecidableEq, Repr

inductive TriggerPhase where
  | streaming
  | userRecorded
  | spawned
  | checked
  deriving DecidableEq, Repr

structure MemoryTriggers where
  store : SessionStore
  phases : Nat → TriggerPhase
  /-- The runs in the order of their user turns. -/
  recorded : List Nat
  /-- The runs whose memory task has made its check, in this order. -/
  checked : List Nat
  /-- The turn counts at which an extraction was started. -/
  started : List Nat

inductive TriggerStep where
  | recordUser (run now : Nat)
  | recordAssistant (run now : Nat)
  | check (run : Nat)
  deriving DecidableEq, Repr

/-- The runs of one device and their memory tasks. -/
def memoryTriggers (token : Text) (runs : Nat → CompletedRun) (turnInterval : Nat) :
    Machine MemoryTriggers TriggerStep where
  step state
    | .recordUser run now =>
        if state.phases run = .streaming then
          some { state with
            store := (state.store.appendTurn token
              ⟨"user".toList, (runs run).userMessage, now, some (runs run).runId⟩).1
            phases := Function.update state.phases run .userRecorded
            recorded := state.recorded ++ [run] }
        else
          none
    | .recordAssistant run now =>
        if state.phases run = .userRecorded then
          some { state with
            store := (state.store.appendTurn token
              ⟨"assistant".toList, (runs run).cleanResponse, now, some (runs run).runId⟩).1
            phases := Function.update state.phases run .spawned }
        else
          none
    | .check run =>
        if state.phases run = .spawned then
          let turnCount := state.store.turnCount token
          some { state with
            phases := Function.update state.phases run .checked
            checked := state.checked ++ [run]
            started := state.started ++ if runsMemory turnInterval turnCount then [turnCount] else [] }
        else
          none

namespace MemoryTriggers

/-- No run has completed. -/
def start (store : SessionStore) : MemoryTriggers := ⟨store, fun _ => .streaming, [], [], []⟩

/-- The number of the user turn of a run. -/
def ownNumber (state : MemoryTriggers) (run : Nat) : Nat := state.recorded.idxOf run + 1

/-- A check sees the number of its own turn, or neither that number nor the one
that it sees is a multiple of the interval. -/
def Timely (token : Text) (turnInterval : Nat) (state : MemoryTriggers) : TriggerStep → Prop
  | .check run =>
      state.store.turnCount token = state.ownNumber run ∨
        (runsMemory turnInterval (state.store.turnCount token) = false ∧
          runsMemory turnInterval (state.ownNumber run) = false)
  | _ => True

instance (token : Text) (turnInterval : Nat) (state : MemoryTriggers) :
    (action : TriggerStep) → Decidable (state.Timely token turnInterval action)
  | .check _ => inferInstanceAs (Decidable (_ ∨ _))
  | .recordUser _ _ | .recordAssistant _ _ => isTrue trivial

/-- Every run that has recorded its turns has made its check. -/
def Settled (state : MemoryTriggers) : Prop := ∀ run ∈ state.recorded, state.phases run = .checked

instance (state : MemoryTriggers) : Decidable state.Settled :=
  inferInstanceAs (Decidable (∀ run ∈ state.recorded, state.phases run = .checked))

end MemoryTriggers

/-! ## Counting turns -/

theorem turnCount_appendTurn (store : SessionStore) (token : Text) (turn : ConversationTurn) :
    (store.appendTurn token turn).1.turnCount token =
      store.turnCount token + if turn.role = "user".toList then 1 else 0 := by
  rw [SessionStore.turnCount, (getHistory_appendTurn store token turn).1, List.countP_append,
    List.countP_singleton]
  simp only [decide_eq_true_eq]
  rfl

theorem runsMemory_iff {turnInterval turnCount : Nat} :
    runsMemory turnInterval turnCount = true ↔ 0 < turnCount ∧ 0 < turnInterval ∧ turnInterval ∣ turnCount := by
  simp [runsMemory, Nat.pos_iff_ne_zero, Nat.dvd_iff_mod_eq_zero, and_assoc]

/-- As many of the first numbers are multiples as the quotient says. -/
theorem length_multiples (turnInterval count : Nat) :
    (((List.range count).map (· + 1)).filter (runsMemory turnInterval)).length = count / turnInterval := by
  induction count with
  | zero => exact (Nat.zero_div turnInterval).symm
  | succ count inductionHypothesis =>
      rw [List.range_succ, List.map_append, List.filter_append, List.length_append, inductionHypothesis,
        Nat.succ_div]
      congr 1
      by_cases multiple : turnInterval ∣ count + 1
      · have positive := Nat.pos_of_dvd_of_pos multiple (Nat.succ_pos count)
        have runs := runsMemory_iff.mpr ⟨Nat.succ_pos count, positive, multiple⟩
        simp [runs, multiple]
      · have idle : runsMemory turnInterval (count + 1) = false := by
          rw [← Bool.not_eq_true, runsMemory_iff]
          exact fun runs => multiple runs.2.2
        simp [idle, multiple]

theorem map_idxOf_of_nodup {list : List Nat} (distinct : list.Nodup) :
    list.map (fun item => list.idxOf item + 1) = (List.range list.length).map (· + 1) := by
  apply List.ext_getElem
  · rw [List.length_map, List.length_map, List.length_range]
  · intro index within _
    rw [List.getElem_map, List.getElem_map, List.getElem_range,
      distinct.idxOf_getElem index (by rwa [List.length_map] at within)]

namespace MemoryTriggers

section

variable {token : Text} {runs : Nat → CompletedRun} {turnInterval : Nat} {state next : MemoryTriggers}

/-- The user turns are counted, and the checks so far were those of the runs'
own turns. -/
structure Counted (token : Text) (turnInterval : Nat) (state : MemoryTriggers) : Prop where
  count : state.store.turnCount token = state.recorded.length
  distinct : state.recorded.Nodup
  known : ∀ run, run ∈ state.recorded ↔ state.phases run ≠ .streaming
  once : state.checked.Nodup
  done : ∀ run, run ∈ state.checked ↔ state.phases run = .checked
  extractions : state.started = (state.checked.map state.ownNumber).filter (runsMemory turnInterval)

theorem counted_start {store : SessionStore} (fresh : store.turnCount token = 0) :
    Counted token turnInterval (start store) where
  count := fresh
  distinct := List.nodup_nil
  known := fun run => iff_of_false List.not_mem_nil fun streams => streams rfl
  once := List.nodup_nil
  done := fun run => iff_of_false List.not_mem_nil (by rintro ⟨⟩)
  extractions := rfl

theorem Counted.checked_recorded (counted : Counted token turnInterval state) {run : Nat}
    (member : run ∈ state.checked) : run ∈ state.recorded := by
  rw [counted.known run, (counted.done run).mp member]
  rintro ⟨⟩

/-- A task that has not made its check goes on to a phase before it. -/
theorem Counted.enter (counted : Counted token turnInterval state) {run : Nat} {phase : TriggerPhase}
    (unchecked : state.phases run ≠ .checked) (before : phase ≠ .checked) (other : Nat) :
    other ∈ state.checked ↔ Function.update state.phases run phase other = .checked := by
  rw [update_eq_iff_of_ne unchecked before]
  exact counted.done other

/-- A run that has recorded goes on to a phase behind it. -/
theorem Counted.leave (counted : Counted token turnInterval state) {run : Nat} {phase : TriggerPhase}
    (recorded : state.phases run ≠ .streaming) (after : phase ≠ .streaming) (other : Nat) :
    other ∈ state.recorded ↔ Function.update state.phases run phase other ≠ .streaming := by
  rw [ne_eq, update_eq_iff_of_ne recorded after]
  exact counted.known other

/-- A new run has the next number. -/
theorem Counted.recordUser {run now : Nat} (counted : Counted token turnInterval state)
    (steps : (memoryTriggers token runs turnInterval).step state (.recordUser run now) = some next) :
    Counted token turnInterval next := by
  rcases Option.ite_none_right_eq_some.mp steps with ⟨streams, same⟩
  rcases Option.some.inj same with rfl
  have absent : run ∉ state.recorded := fun member => (counted.known run).mp member streams
  refine ⟨?_, ?_, fun other => ?_, counted.once,
    counted.enter (by rw [streams]; rintro ⟨⟩) (by rintro ⟨⟩), ?_⟩
  · rw [turnCount_appendTurn, counted.count, if_pos rfl, List.length_append]
    rfl
  · apply counted.distinct.append (List.nodup_singleton run)
    intro other earlier last
    exact absent (List.mem_singleton.mp last ▸ earlier)
  · by_cases own : other = run
    · subst own
      simp
    · simp [own, counted.known other]
  · refine counted.extractions.trans (congrArg _ (List.map_congr_left fun other member => ?_))
    rw [ownNumber, ownNumber, List.idxOf_append_of_mem (counted.checked_recorded member)]

theorem Counted.recordAssistant {run now : Nat} (counted : Counted token turnInterval state)
    (steps : (memoryTriggers token runs turnInterval).step state (.recordAssistant run now) = some next) :
    Counted token turnInterval next := by
  rcases Option.ite_none_right_eq_some.mp steps with ⟨recordedUser, same⟩
  rcases Option.some.inj same with rfl
  refine ⟨?_, counted.distinct, counted.leave (by rw [recordedUser]; rintro ⟨⟩) (by rintro ⟨⟩), counted.once,
    counted.enter (by rw [recordedUser]; rintro ⟨⟩) (by rintro ⟨⟩), counted.extractions⟩
  rw [turnCount_appendTurn, counted.count]
  rfl

/-- A timely check starts an extraction exactly where its own number asks for
one. -/
theorem Counted.check {run : Nat} (counted : Counted token turnInterval state)
    (timely : state.Timely token turnInterval (.check run))
    (steps : (memoryTriggers token runs turnInterval).step state (.check run) = some next) :
    Counted token turnInterval next := by
  rcases Option.ite_none_right_eq_some.mp steps with ⟨spawned, same⟩
  rcases Option.some.inj same with rfl
  have unchecked : run ∉ state.checked := by
    rw [counted.done run, spawned]
    rintro ⟨⟩
  refine ⟨counted.count, counted.distinct, counted.leave (by rw [spawned]; rintro ⟨⟩) (by rintro ⟨⟩), ?_,
    fun other => ?_, ?_⟩
  · apply counted.once.append (List.nodup_singleton run)
    intro other earlier last
    exact unchecked (List.mem_singleton.mp last ▸ earlier)
  · by_cases own : other = run
    · subst own
      simp
    · simp [own, counted.done other]
  · change state.started ++ _ = ((state.checked ++ [run]).map state.ownNumber).filter (runsMemory turnInterval)
    rw [List.map_append, List.filter_append, ← counted.extractions, List.map_singleton]
    refine congrArg (state.started ++ ·) ?_
    rcases timely with own | ⟨idle, ownIdle⟩
    · rw [own, List.filter_singleton, cond_eq_ite]
    · rw [idle, List.filter_cons_of_neg (by rw [ownIdle]; simp)]
      rfl

/-- Step lemma: timely checks keep the count. -/
theorem Counted.step {action : TriggerStep} (counted : Counted token turnInterval state)
    (timely : state.Timely token turnInterval action)
    (steps : (memoryTriggers token runs turnInterval).step state action = some next) :
    Counted token turnInterval next := by
  cases action with
  | recordUser run now => exact counted.recordUser steps
  | recordAssistant run now => exact counted.recordAssistant steps
  | check run => exact counted.check timely steps

/-- When all checks are made, every multiple of the interval that was reached
has started one extraction, as long as the checks are timely. -/
theorem extractions_of_timely (store : SessionStore) (fresh : store.turnCount token = 0)
    {schedule : List TriggerStep} {final : MemoryTriggers}
    (timely : (memoryTriggers token runs turnInterval).Guarded (Timely token turnInterval) (start store)
      schedule)
    (completes : (memoryTriggers token runs turnInterval).run (start store) schedule = some final)
    (settled : final.Settled) :
    final.started.length = final.recorded.length / turnInterval ∧ final.started.Nodup ∧
      ∀ number, number ∈ final.started ↔
        0 < number ∧ number ≤ final.recorded.length ∧ 0 < turnInterval ∧ turnInterval ∣ number := by
  have preserved : ∀ (past : List TriggerStep) state action next, Counted token turnInterval state →
      Timely token turnInterval state action →
        (memoryTriggers token runs turnInterval).step state action = some next →
          Counted token turnInterval next :=
    fun _ _ _ _ counted timely steps => counted.step timely steps
  have counted : Counted token turnInterval final :=
    Machine.run_invariant_guarded preserved [] (counted_start fresh) timely completes
  have everyRun : final.checked.Perm final.recorded := by
    rw [List.perm_ext_iff_of_nodup counted.once counted.distinct]
    intro run
    exact ⟨counted.checked_recorded, fun member => (counted.done run).mpr (settled run member)⟩
  have numbers : final.recorded.map final.ownNumber =
      (List.range final.recorded.length).map (· + 1) := map_idxOf_of_nodup counted.distinct
  have started : final.started.Perm
      (((List.range final.recorded.length).map (· + 1)).filter (runsMemory turnInterval)) := by
    rw [counted.extractions, ← numbers]
    exact (everyRun.map _).filter _
  refine ⟨?_, ?_, fun number => ?_⟩
  · rw [started.length_eq, length_multiples]
  · rw [started.nodup_iff]
    exact (List.nodup_range.map fun _ _ => Nat.succ.inj).filter _
  · rw [started.mem_iff, List.mem_filter, runsMemory_iff, List.mem_map]
    constructor
    · rintro ⟨⟨index, within, rfl⟩, positive, rest⟩
      exact ⟨positive, List.mem_range.mp within, rest⟩
    · rintro ⟨positive, within, rest⟩
      refine ⟨⟨number - 1, List.mem_range.mpr (by omega), by omega⟩, positive, rest⟩

end

/-- A session without a turn. -/
def noTurns : SessionStore := ⟨fun _ => none, fun _ => none⟩

def sampleRuns (run : Nat) : CompletedRun := ⟨"hi".toList, "hello".toList, Nat.toDigits 10 run⟩

/-- Each task makes its check before the next run records. -/
def promptChecks : List TriggerStep :=
  [.recordUser 0 1, .recordAssistant 0 2, .check 0, .recordUser 1 3, .recordAssistant 1 4, .check 1]

/-- Both runs record before the tasks make their checks. -/
def lateChecks : List TriggerStep :=
  [.recordUser 0 1, .recordAssistant 0 2, .recordUser 1 3, .recordAssistant 1 4, .check 0, .check 1]

theorem promptChecks_run :
    ((memoryTriggers [] sampleRuns 2).run (start noTurns) promptChecks).any (fun final =>
      final.Settled ∧ final.recorded.length = 2) = true := by
  decide +kernel

theorem extractions_promptChecks :
    ∃ final, (memoryTriggers [] sampleRuns 2).run (start noTurns) promptChecks = some final ∧
      final.recorded.length = 2 ∧ final.started.length = 2 / 2 := by
  rcases (Option.any_eq_true _ _).mp promptChecks_run with ⟨final, completes, holds⟩
  rcases of_decide_eq_true holds with ⟨settled, two⟩
  have extracted := (extractions_of_timely noTurns rfl (by decide +kernel) completes settled).1
  exact ⟨final, completes, two, extracted.trans (by rw [two])⟩

theorem lateChecks_run :
    ((memoryTriggers [] sampleRuns 2).run (start noTurns) lateChecks).any (fun final =>
      final.Settled ∧ final.recorded.length = 2 ∧ final.started = [2, 2]) = true := by
  decide +kernel

/-- Two runs and an interval of two start two extractions. -/
theorem lateChecks_extract_twice :
    ∃ final, (memoryTriggers [] sampleRuns 2).run (start noTurns) lateChecks = some final ∧
      final.Settled ∧ final.recorded.length = 2 ∧
      final.started.length ≠ final.recorded.length / 2 := by
  rcases (Option.any_eq_true _ _).mp lateChecks_run with ⟨final, completes, holds⟩
  rcases of_decide_eq_true holds with ⟨settled, two, twice⟩
  exact ⟨final, completes, settled, two, by rw [two, twice]; decide⟩

end MemoryTriggers

end Agent
end Rabb1tClaw
