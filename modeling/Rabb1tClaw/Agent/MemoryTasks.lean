import Rabb1tClaw.Agent.Memory
import Rabb1tClaw.Agent.WordLimit

namespace Rabb1tClaw
namespace Agent

open Foundations
open WordLimit

/-!
# The memory tasks of a device

A memory task whose check asks for an extraction resolves its model, reads the
last turns of the history, loads the memory, sends both to the model and writes
what comes of the reply.  Without a model it ends at once.  All of this happens
while other runs record turns and other memory tasks are on their way.

If every task has a model, a run records its first turn only when the tasks of
the runs before have read theirs, and no task writes while another waits for its
model, then each exchange is read once, in order, and the memory is that of
extractions made one after the other (`memory_of_history`).
-/

/-- `load_session_memory`, of what the file holds. -/
def loadSessionMemory (file : Option Text) : Option Text :=
  file.bind fun content =>
    if Text.trim content = [] ∨ Text.trim content = emptySentinel then none else some content

/-- The turns that a task takes: the last, two for each run of the interval. -/
def recentTurns (turnInterval : Nat) (history : List ConversationTurn) : List ConversationTurn :=
  if turnInterval * 2 < history.length then history.drop (history.length - turnInterval * 2) else history

/-- `format_turns_for_subagent`. -/
def formatTurnsForSubagent (turns : List ConversationTurn) (existingMemory : Option Text) : Text :=
  existingMemory.elim [] (fun memory => "## Existing Memory\n\n".toList ++ memory ++ "\n\n---\n\n".toList) ++
    "## Recent Exchanges\n\n".toList ++
    turns.flatMap fun turn => "**".toList ++ turn.role ++ "**: ".toList ++ turn.content ++ "\n\n".toList

/-- What a task takes from elsewhere: whether a model resolves, the word limit,
and the reply to the content of its request; `none` is a failure. -/
structure MemoryInputs where
  hasModel : Bool
  maxWords : Nat
  reply : Text → Option Text

/-- The file behind a task that has loaded a memory. -/
def MemoryInputs.rewrite (inputs : MemoryInputs) (turns : List ConversationTurn) (existing file : Option Text) :
    Option Text :=
  match (inputs.reply (formatTurnsForSubagent turns existing)).bind fun raw =>
      rewrittenMemory raw inputs.maxWords with
  | some (some output) => some output
  | _ => file

inductive MemoryStage where
  | idle
  /-- The check has asked for an extraction. -/
  | started
  | read (turns : List ConversationTurn)
  | asking (turns : List ConversationTurn) (existing : Option Text)
  | finished
  deriving DecidableEq, Repr

def MemoryStage.UpToDate (file : Option Text) : MemoryStage → Prop
  | asking _ existing => existing = loadSessionMemory file
  | _ => True

instance (file : Option Text) : (stage : MemoryStage) → Decidable (stage.UpToDate file)
  | .asking _ existing => inferInstanceAs (Decidable (existing = loadSessionMemory file))
  | .idle | .started | .read _ | .finished => isTrue trivial

structure MemoryTasks where
  triggers : MemoryTriggers
  file : Option Text
  stages : Nat → MemoryStage
  /-- The tasks that have read the history, with what they have read. -/
  windows : List (Nat × List ConversationTurn)
  /-- The tasks that have finished, in this order. -/
  merges : List (Nat × List ConversationTurn)

inductive MemoryStep where
  | trigger (step : TriggerStep)
  /-- No model resolves. -/
  | abandon (run : Nat)
  | readHistory (run : Nat)
  | load (run : Nat)
  | finish (run : Nat)
  deriving DecidableEq, Repr

/-- The run that makes its check. -/
def TriggerStep.checks : TriggerStep → Option Nat
  | .check run => some run
  | _ => none

namespace MemoryTasks

def setStage (state : MemoryTasks) (run : Nat) (stage : MemoryStage) : MemoryTasks :=
  { state with stages := Function.update state.stages run stage }

def start (store : SessionStore) (file : Option Text) : MemoryTasks := ⟨.start store, file, fun _ => .idle, [], []⟩

end MemoryTasks

def memoryTasks (token : Text) (runs : Nat → CompletedRun) (turnInterval : Nat) (inputs : Nat → MemoryInputs) :
    Machine MemoryTasks MemoryStep where
  step state
    | .trigger step =>
        ((memoryTriggers token runs turnInterval).step state.triggers step).map fun triggers =>
          match step.checks with
          | some run =>
              if runsMemory turnInterval (state.triggers.store.turnCount token) then
                { state with triggers := triggers }.setStage run .started
              else
                { state with triggers := triggers }
          | none => { state with triggers := triggers }
    | .abandon run =>
        match state.stages run, (inputs run).hasModel with
        | .started, false => some (state.setStage run .finished)
        | _, _ => none
    | .readHistory run =>
        match state.stages run, (inputs run).hasModel with
        | .started, true =>
            let turns := recentTurns turnInterval (state.triggers.store.getHistory token)
            some ({ state with windows := state.windows ++ [(run, turns)] }.setStage run (.read turns))
        | _, _ => none
    | .load run =>
        match state.stages run with
        | .read turns => some (state.setStage run (.asking turns (loadSessionMemory state.file)))
        | _ => none
    | .finish run =>
        match state.stages run with
        | .asking turns existing =>
            some ({ state with
              file := (inputs run).rewrite turns existing state.file
              merges := state.merges ++ [(run, turns)] }.setStage run .finished)
        | _ => none

namespace MemoryTasks

/-- Nothing of a run is on its way that could read the history. -/
def HasRead (state : MemoryTasks) (run : Nat) : Prop :=
  state.triggers.phases run = .checked ∧ state.stages run ≠ .started

instance (state : MemoryTasks) (run : Nat) : Decidable (state.HasRead run) :=
  inferInstanceAs (Decidable (_ ∧ _))

/-- A run records its first turn when the tasks of those before have read
theirs. -/
def Prompt (state : MemoryTasks) : MemoryStep → Prop
  | .trigger (.recordUser _ _) => ∀ run ∈ state.triggers.recorded, state.HasRead run
  | _ => True

/-- A task writes when the memory that it has loaded is still what it would
load. -/
def Undisturbed (state : MemoryTasks) : MemoryStep → Prop
  | .finish run => (state.stages run).UpToDate state.file
  | _ => True

instance (state : MemoryTasks) : (action : MemoryStep) → Decidable (state.Prompt action)
  | .trigger (.recordUser _ _) => inferInstanceAs (Decidable (∀ run ∈ state.triggers.recorded, state.HasRead run))
  | .trigger (.recordAssistant _ _) | .trigger (.check _) | .abandon _ | .readHistory _ | .load _ | .finish _ =>
      isTrue trivial

instance (state : MemoryTasks) : (action : MemoryStep) → Decidable (state.Undisturbed action)
  | .finish run => inferInstanceAs (Decidable ((state.stages run).UpToDate state.file))
  | .trigger _ | .abandon _ | .readHistory _ | .load _ => isTrue trivial

/-- Every run has read, and every task that was started has finished. -/
def Settled (state : MemoryTasks) : Prop :=
  (∀ run ∈ state.triggers.recorded, state.HasRead run) ∧
    ∀ window ∈ state.windows, state.stages window.1 = .finished

instance (state : MemoryTasks) : Decidable state.Settled := inferInstanceAs (Decidable (_ ∧ _))

/-- A task on its own: it loads, asks and writes. -/
def merge (inputs : Nat → MemoryInputs) (file : Option Text) (window : Nat × List ConversationTurn) :
    Option Text :=
  (inputs window.1).rewrite window.2 (loadSessionMemory file) file

section

variable {token : Text} {runs : Nat → CompletedRun} {turnInterval : Nat} {inputs : Nat → MemoryInputs}
  {state next : MemoryTasks} {run : Nat}

/-! ## What a step does -/

/-- A step of the triggers, or of a task. -/
inductive Moves (token : Text) (runs : Nat → CompletedRun) (turnInterval : Nat) (inputs : Nat → MemoryInputs)
    (state : MemoryTasks) : MemoryStep → MemoryTasks → Prop
  | triggered {step : TriggerStep} {triggers : MemoryTriggers} {stages : Nat → MemoryStage}
      (steps : (memoryTriggers token runs turnInterval).step state.triggers step = some triggers)
      (starts : ∀ run, stages run = if step.checks = some run ∧
        runsMemory turnInterval (state.triggers.store.turnCount token) = true then .started else state.stages run) :
      Moves token runs turnInterval inputs state (.trigger step)
        { state with triggers := triggers, stages := stages }
  | abandoned {run : Nat} (started : state.stages run = .started) :
      Moves token runs turnInterval inputs state (.abandon run) (state.setStage run .finished)
  | readHistory {run : Nat} (started : state.stages run = .started) :
      Moves token runs turnInterval inputs state (.readHistory run)
        ({ state with windows := state.windows ++
          [(run, recentTurns turnInterval (state.triggers.store.getHistory token))] }.setStage run
            (.read (recentTurns turnInterval (state.triggers.store.getHistory token))))
  | loaded {run : Nat} {turns : List ConversationTurn} (read : state.stages run = .read turns) :
      Moves token runs turnInterval inputs state (.load run)
        (state.setStage run (.asking turns (loadSessionMemory state.file)))
  | finished {run : Nat} {turns : List ConversationTurn} {existing : Option Text}
      (asks : state.stages run = .asking turns existing) :
      Moves token runs turnInterval inputs state (.finish run)
        ({ state with
          file := (inputs run).rewrite turns existing state.file
          merges := state.merges ++ [(run, turns)] }.setStage run .finished)

theorem moves_of_step {action : MemoryStep}
    (steps : (memoryTasks token runs turnInterval inputs).step state action = some next) :
    Moves token runs turnInterval inputs state action next := by
  cases action with
  | trigger step =>
      rcases Option.map_eq_some_iff.mp steps with ⟨triggers, triggered, same⟩
      cases checks : step.checks with
      | none =>
          rw [checks] at same
          rcases same with rfl
          refine .triggered triggered fun run => ?_
          rw [checks]
          exact (if_neg (by rintro ⟨⟨⟩, _⟩)).symm
      | some checked =>
          rw [checks] at same
          simp only at same
          split at same
          · rename_i due
            rcases same with rfl
            refine .triggered triggered fun run => ?_
            rw [checks]
            by_cases own : run = checked
            · subst own
              rw [if_pos ⟨rfl, due⟩]
              exact Function.update_self ..
            · rw [if_neg fun both => own (Option.some.inj both.1).symm]
              exact Function.update_of_ne own ..
          · rename_i idle
            rcases same with rfl
            refine .triggered triggered fun run => ?_
            exact (if_neg fun both => idle both.2).symm
  | abandon run =>
      simp only [memoryTasks] at steps
      split at steps
      · rename_i started _
        rcases Option.some.inj steps with rfl
        exact .abandoned started
      · cases steps
  | readHistory run =>
      simp only [memoryTasks] at steps
      split at steps
      · rename_i started _
        rcases Option.some.inj steps with rfl
        exact .readHistory started
      · cases steps
  | load run =>
      simp only [memoryTasks] at steps
      split at steps
      · rename_i turns read
        rcases Option.some.inj steps with rfl
        exact .loaded read
      · cases steps
  | finish run =>
      simp only [memoryTasks] at steps
      split at steps
      · rename_i turns existing asks
        rcases Option.some.inj steps with rfl
        exact .finished asks
      · cases steps

/-! ## Every exchange is read once -/

/-- The history of the device. -/
def history (state : MemoryTasks) (token : Text) : List ConversationTurn :=
  state.triggers.store.getHistory token

/-- All runs so far have read, or need not. -/
structure Calm (token : Text) (turnInterval : Nat) (state : MemoryTasks) : Prop where
  read : ∀ run ∈ state.triggers.recorded, state.HasRead run
  turns : (state.history token).length = 2 * state.triggers.recorded.length
  windows : state.windows.length = state.triggers.recorded.length / turnInterval

/-- The last run is still to record its reply, to make its check or to read. -/
structure Busy (token : Text) (turnInterval : Nat) (state : MemoryTasks) (earlier : List Nat) (last : Nat) :
    Prop where
  recorded : state.triggers.recorded = earlier ++ [last]
  read : ∀ run ∈ earlier, state.HasRead run
  windows : state.windows.length = earlier.length / turnInterval
  stands : (state.triggers.phases last = .userRecorded ∧ (state.history token).length = 2 * earlier.length + 1) ∨
    ((state.triggers.phases last = .spawned ∨ (state.triggers.phases last = .checked ∧
        state.stages last = .started ∧ 0 < turnInterval ∧ turnInterval ∣ earlier.length + 1)) ∧
      (state.history token).length = 2 * earlier.length + 2)

/-- What was read is the front of the history. -/
structure Tiled (token : Text) (turnInterval : Nat) (state : MemoryTasks) : Prop where
  counted : state.triggers.Counted token turnInterval
  idle : ∀ run, state.triggers.phases run ≠ .checked → state.stages run = .idle
  tiles : (state.windows.map Prod.snd).flatten =
    (state.history token).take (2 * (turnInterval * state.windows.length))
  sizes : ∀ window ∈ state.windows, window.2.length = 2 * turnInterval
  rests : state.Calm token turnInterval ∨ ∃ earlier last, state.Busy token turnInterval earlier last

/-- A run that has not read is the last. -/
theorem Tiled.busy (tiled : state.Tiled token turnInterval) (known : run ∈ state.triggers.recorded)
    (unread : ¬ state.HasRead run) : ∃ earlier, state.Busy token turnInterval earlier run := by
  rcases tiled.rests with calm | ⟨earlier, last, busy⟩
  · exact absurd (calm.read run known) unread
  · rw [busy.recorded] at known
    rcases List.mem_append.mp known with before | same
    · exact absurd (busy.read run before) unread
    · rcases List.mem_singleton.mp same with rfl
      exact ⟨earlier, busy⟩

theorem Busy.length {earlier : List Nat} {last : Nat} (busy : state.Busy token turnInterval earlier last) :
    state.triggers.recorded.length = earlier.length + 1 := by
  rw [busy.recorded, List.length_append]
  rfl

theorem Busy.number {earlier : List Nat} (busy : state.Busy token turnInterval earlier run)
    (counted : state.triggers.Counted token turnInterval) : state.triggers.ownNumber run = earlier.length + 1 := by
  have distinct := counted.distinct
  rw [busy.recorded] at distinct
  have absent : run ∉ earlier := fun present => List.disjoint_of_nodup_append distinct present (List.mem_singleton_self run)
  rw [MemoryTriggers.ownNumber, busy.recorded, List.idxOf_append_of_notMem absent, List.idxOf_cons_self]

theorem recentTurns_eq (turnInterval : Nat) (turns : List ConversationTurn) :
    recentTurns turnInterval turns = turns.drop (turns.length - turnInterval * 2) := by
  rw [recentTurns]
  split
  · rfl
  · rename_i short
    rw [Nat.sub_eq_zero_of_le (Nat.le_of_not_lt short), List.drop_zero]

theorem Busy.unread {earlier : List Nat} (busy : state.Busy token turnInterval earlier run) :
    ¬ state.HasRead run := by
  rintro ⟨checked, notStarted⟩
  rcases busy.stands with ⟨recordedUser, _⟩ | ⟨spawned | ⟨_, started, _⟩, _⟩
  · cases checked.symm.trans recordedUser
  · cases checked.symm.trans spawned
  · exact notStarted started

/-- What was read is not more than there is. -/
theorem Calm.within (calm : state.Calm token turnInterval) :
    2 * (turnInterval * state.windows.length) ≤ (state.history token).length := by
  rw [calm.turns, calm.windows]
  exact Nat.mul_le_mul_left 2 (Nat.mul_div_le _ _)

theorem Busy.within {earlier : List Nat} {last : Nat} (busy : state.Busy token turnInterval earlier last) :
    2 * (turnInterval * state.windows.length) ≤ (state.history token).length := by
  have covered := Nat.mul_div_le earlier.length turnInterval
  rw [busy.windows]
  rcases busy.stands with ⟨_, turns⟩ | ⟨_, turns⟩ <;> rw [turns] <;> omega

theorem Tiled.recordUser {now : Nat} (tiled : state.Tiled token turnInterval)
    (prompt : state.Prompt (.trigger (.recordUser run now))) {triggers : MemoryTriggers}
    (steps : (memoryTriggers token runs turnInterval).step state.triggers (.recordUser run now) = some triggers) :
    { state with triggers := triggers }.Tiled token turnInterval := by
  have counted := tiled.counted.recordUser steps
  rcases Option.ite_none_right_eq_some.mp steps with ⟨streams, same⟩
  rcases Option.some.inj same with rfl
  have calm : state.Calm token turnInterval := by
    rcases tiled.rests with calm | ⟨earlier, last, busy⟩
    · exact calm
    · exact absurd (prompt last (by rw [busy.recorded]; simp)) busy.unread
  have grown := (getHistory_appendTurn state.triggers.store token
    ⟨"user".toList, (runs run).userMessage, now, some (runs run).runId⟩).1
  refine ⟨counted, ?_, ?_, tiled.sizes, .inr ⟨state.triggers.recorded, run, rfl, ?_, calm.windows, .inl ⟨?_, ?_⟩⟩⟩
  · intro other unchecked
    by_cases own : other = run
    · subst own
      exact tiled.idle other (by rw [streams]; rintro ⟨⟩)
    · refine tiled.idle other fun checked => unchecked ?_
      rw [← checked]
      exact Function.update_of_ne own ..
  · rw [history, grown]
    exact tiled.tiles.trans (List.take_append_of_le_length calm.within).symm
  · intro other member
    have differs : other ≠ run := by
      rintro rfl
      exact (tiled.counted.known other).mp member streams
    rcases calm.read other member with ⟨checked, notStarted⟩
    refine ⟨?_, notStarted⟩
    rw [← checked]
    exact Function.update_of_ne differs ..
  · exact Function.update_self ..
  · rw [history, grown, List.length_append]
    exact congrArg (· + 1) calm.turns

theorem Tiled.recordAssistant {now : Nat} (tiled : state.Tiled token turnInterval) {triggers : MemoryTriggers}
    (steps : (memoryTriggers token runs turnInterval).step state.triggers (.recordAssistant run now) =
      some triggers) : { state with triggers := triggers }.Tiled token turnInterval := by
  have counted := tiled.counted.recordAssistant steps
  rcases Option.ite_none_right_eq_some.mp steps with ⟨recordedUser, same⟩
  rcases Option.some.inj same with rfl
  have known : run ∈ state.triggers.recorded := by
    rw [tiled.counted.known run, recordedUser]
    rintro ⟨⟩
  have unread : ¬ state.HasRead run := fun read => by cases recordedUser.symm.trans read.1
  rcases tiled.busy known unread with ⟨earlier, busy⟩
  have grown := (getHistory_appendTurn state.triggers.store token
    ⟨"assistant".toList, (runs run).cleanResponse, now, some (runs run).runId⟩).1
  have turns : (state.history token).length = 2 * earlier.length + 1 := by
    rcases busy.stands with ⟨_, turns⟩ | ⟨spawned | ⟨checked, _⟩, _⟩
    · exact turns
    · cases recordedUser.symm.trans spawned
    · cases recordedUser.symm.trans checked
  refine ⟨counted, ?_, ?_, tiled.sizes, .inr ⟨earlier, run, busy.recorded, ?_, busy.windows, .inr ⟨.inl ?_, ?_⟩⟩⟩
  · intro other unchecked
    by_cases own : other = run
    · subst own
      exact tiled.idle other (by rw [recordedUser]; rintro ⟨⟩)
    · refine tiled.idle other fun checked => unchecked ?_
      rw [← checked]
      exact Function.update_of_ne own ..
  · rw [history, grown]
    exact tiled.tiles.trans (List.take_append_of_le_length busy.within).symm
  · intro other member
    rcases busy.read other member with ⟨checked, notStarted⟩
    have differs : other ≠ run := by
      rintro rfl
      cases recordedUser.symm.trans checked
    refine ⟨?_, notStarted⟩
    rw [← checked]
    exact Function.update_of_ne differs ..
  · exact Function.update_self ..
  · rw [history, grown, List.length_append]
    exact congrArg (· + 1) turns

/-- A check counts the turns up to its own: it starts a task exactly at a
multiple of the interval. -/
theorem Tiled.check (tiled : state.Tiled token turnInterval) {triggers : MemoryTriggers}
    {stages : Nat → MemoryStage}
    (steps : (memoryTriggers token runs turnInterval).step state.triggers (.check run) = some triggers)
    (starts : ∀ other, stages other = if some run = some other ∧
      runsMemory turnInterval (state.triggers.store.turnCount token) = true then .started
        else state.stages other) :
    { state with triggers := triggers, stages := stages }.Tiled token turnInterval := by
  have spawned : state.triggers.phases run = .spawned := (Option.ite_none_right_eq_some.mp steps).1
  have known : run ∈ state.triggers.recorded := by
    rw [tiled.counted.known run, spawned]
    rintro ⟨⟩
  have unread : ¬ state.HasRead run := fun read => by cases spawned.symm.trans read.1
  rcases tiled.busy known unread with ⟨earlier, busy⟩
  have count : state.triggers.store.turnCount token = earlier.length + 1 := tiled.counted.count.trans busy.length
  have counted := tiled.counted.check (.inl (count.trans (busy.number tiled.counted).symm)) steps
  rcases Option.some.inj (Option.ite_none_right_eq_some.mp steps).2 with rfl
  have turns : (state.history token).length = 2 * earlier.length + 2 := by
    rcases busy.stands with ⟨recordedUser, _⟩ | ⟨_, turns⟩
    · cases spawned.symm.trans recordedUser
    · exact turns
  have own : stages run = if runsMemory turnInterval (earlier.length + 1) = true then .started
      else state.stages run := by
    rw [starts run, count]
    simp only [true_and]
  have others : ∀ other, other ≠ run → stages other = state.stages other := by
    intro other differs
    rw [starts other, if_neg fun both => differs (Option.some.inj both.1).symm]
  have before : ∀ other ∈ earlier, Function.update state.triggers.phases run .checked other = .checked ∧
      stages other ≠ .started := by
    intro other member
    rcases busy.read other member with ⟨checked, notStarted⟩
    have differs : other ≠ run := by
      rintro rfl
      cases spawned.symm.trans checked
    rw [Function.update_of_ne differs, others other differs]
    exact ⟨checked, notStarted⟩
  refine ⟨counted, ?_, tiled.tiles, tiled.sizes, ?_⟩
  · intro other unchecked
    have differs : other ≠ run := by
      rintro rfl
      exact unchecked (Function.update_self ..)
    refine (others other differs).trans (tiled.idle other fun checked => unchecked ?_)
    rw [← checked]
    exact Function.update_of_ne differs ..
  · by_cases due : runsMemory turnInterval (earlier.length + 1) = true
    · rcases runsMemory_iff.mp due with ⟨_, positive, multiple⟩
      refine .inr ⟨earlier, run, busy.recorded, before, busy.windows, .inr ⟨.inr ⟨?_, ?_, positive, multiple⟩, turns⟩⟩
      · exact Function.update_self ..
      · exact own.trans (if_pos due)
    · refine .inl ⟨?_, ?_, ?_⟩
      · intro other member
        rw [busy.recorded] at member
        rcases List.mem_append.mp member with early | last
        · exact before other early
        · rcases List.mem_singleton.mp last with rfl
          have idle : stages other = .idle :=
            (own.trans (if_neg due)).trans (tiled.idle other (by rw [spawned]; rintro ⟨⟩))
          exact ⟨Function.update_self .., fun started => by cases idle.symm.trans started⟩
      · exact turns.trans (congrArg (2 * ·) busy.length).symm
      · refine busy.windows.trans ?_
        rw [busy.length, Nat.succ_div]
        split
        · rename_i multiple
          rcases Nat.eq_zero_or_pos turnInterval with rfl | positive
          · cases Nat.eq_zero_of_zero_dvd multiple
          · exact absurd (runsMemory_iff.mpr ⟨Nat.succ_pos _, positive, multiple⟩) due
        · rfl

/-- A task reads the turns behind those that were read. -/
theorem Tiled.readHistory (tiled : state.Tiled token turnInterval) (started : state.stages run = .started) :
    ({ state with windows := state.windows ++
      [(run, recentTurns turnInterval (state.triggers.store.getHistory token))] }.setStage run
        (.read (recentTurns turnInterval (state.triggers.store.getHistory token)))).Tiled token turnInterval := by
  have checked : state.triggers.phases run = .checked := by
    by_contra unchecked
    cases started.symm.trans (tiled.idle run unchecked)
  have known : run ∈ state.triggers.recorded := by
    rw [tiled.counted.known run, checked]
    rintro ⟨⟩
  rcases tiled.busy known (fun read => read.2 started) with ⟨earlier, busy⟩
  rcases busy.stands with ⟨recordedUser, _⟩ | ⟨spawned | ⟨_, _, positive, multiple⟩, turns⟩
  · cases checked.symm.trans recordedUser
  · cases checked.symm.trans spawned
  · rcases multiple with ⟨_ | before, same⟩
    · cases same
    · rw [Nat.mul_succ] at same
      have read : state.windows.length = before := by
        have last : earlier.length = turnInterval * before + (turnInterval - 1) := by omega
        rw [busy.windows, last, Nat.mul_add_div positive, Nat.div_eq_of_lt (Nat.sub_one_lt_of_lt positive),
          Nat.add_zero]
      have window : recentTurns turnInterval (state.history token) =
          (state.history token).drop (2 * (turnInterval * state.windows.length)) := by
        rw [recentTurns_eq, turns, read]
        congr 1
        omega
      have rest : ((state.history token).drop (2 * (turnInterval * state.windows.length))).length =
          2 * turnInterval := by
        rw [List.length_drop, turns, read]
        omega
      refine ⟨tiled.counted, ?_, ?_, ?_, .inl ⟨?_, ?_, ?_⟩⟩
      · intro other unchecked
        have differs : other ≠ run := by
          rintro rfl
          exact unchecked checked
        exact (Function.update_of_ne differs ..).trans (tiled.idle other unchecked)
      · have whole : (state.history token).length ≤ 2 * (turnInterval * (state.windows.length + 1)) := by
          rw [turns, read, Nat.mul_succ]
          omega
        change ((state.windows ++ [(run, recentTurns turnInterval (state.history token))]).map Prod.snd).flatten =
          (state.history token).take (2 * (turnInterval *
            (state.windows ++ [(run, recentTurns turnInterval (state.history token))]).length))
        rw [List.map_append, List.flatten_append, tiled.tiles, List.length_append, List.length_singleton,
          List.take_of_length_le whole, window]
        simp only [List.map_cons, List.map_nil, List.flatten_cons, List.flatten_nil, List.append_nil]
        exact List.take_append_drop _ _
      · intro other member
        rcases List.mem_append.mp member with earlier | now
        · exact tiled.sizes other earlier
        · rcases List.mem_singleton.mp now with rfl
          exact (congrArg List.length window).trans rest
      · intro other member
        by_cases own : other = run
        · subst own
          refine ⟨checked, fun starts => ?_⟩
          cases (Function.update_self ..).symm.trans starts
        · have known' : other ∈ earlier ++ [run] := busy.recorded ▸ member
          have early := (List.mem_append.mp known').resolve_right fun last => own (List.mem_singleton.mp last)
          refine ⟨(busy.read other early).1, fun starts => (busy.read other early).2 ?_⟩
          exact (Function.update_of_ne own ..).symm.trans starts
      · exact turns.trans (congrArg (2 * ·) busy.length).symm
      · change (state.windows ++ [_]).length = state.triggers.recorded.length / turnInterval
        rw [List.length_append, read, busy.length, same, ← Nat.mul_succ, Nat.mul_div_cancel_left _ positive]
        rfl

/-- What a task does later changes nothing about the turns. -/
theorem Tiled.goOn (tiled : state.Tiled token turnInterval) {stage : MemoryStage}
    (checked : state.triggers.phases run = .checked) (read : state.stages run ≠ .started)
    (after : stage ≠ .started) (file : Option Text) (merges : List (Nat × List ConversationTurn)) :
    ({ state with file := file, merges := merges }.setStage run stage).Tiled token turnInterval := by
  have kept : ∀ other, state.HasRead other →
      ({ state with file := file, merges := merges }.setStage run stage).HasRead other := by
    rintro other ⟨phase, notStarted⟩
    refine ⟨phase, fun starts => ?_⟩
    by_cases own : other = run
    · subst own
      exact after ((Function.update_self ..).symm.trans starts)
    · exact notStarted ((Function.update_of_ne own ..).symm.trans starts)
  refine ⟨tiled.counted, ?_, tiled.tiles, tiled.sizes, ?_⟩
  · intro other unchecked
    have differs : other ≠ run := by
      rintro rfl
      exact unchecked checked
    exact (Function.update_of_ne differs ..).trans (tiled.idle other unchecked)
  · rcases tiled.rests with calm | ⟨earlier, last, busy⟩
    · exact .inl ⟨fun other member => kept other (calm.read other member), calm.turns, calm.windows⟩
    · refine .inr ⟨earlier, last, busy.recorded, fun other member => kept other (busy.read other member),
        busy.windows, ?_⟩
      rcases busy.stands with recordedUser | ⟨spawned | ⟨phase, started, due⟩, turns⟩
      · exact .inl recordedUser
      · exact .inr ⟨.inl spawned, turns⟩
      · have differs : last ≠ run := by
          rintro rfl
          exact read started
        exact .inr ⟨.inr ⟨phase, (Function.update_of_ne differs ..).trans started, due⟩, turns⟩

/-- Step lemma. -/
theorem Tiled.step (tiled : state.Tiled token turnInterval) {action : MemoryStep} (prompt : state.Prompt action)
    (resolves : ∀ run, action ≠ .abandon run)
    (steps : (memoryTasks token runs turnInterval inputs).step state action = some next) :
    next.Tiled token turnInterval := by
  have begun : ∀ run, state.stages run ≠ .idle → state.triggers.phases run = .checked := by
    intro run busy
    by_contra unchecked
    exact busy (tiled.idle run unchecked)
  cases moves_of_step steps with
  | @triggered step triggers stages triggered starts =>
      cases step with
      | recordUser run now =>
          have same : stages = state.stages := funext fun other => (starts other).trans (if_neg (by rintro ⟨⟨⟩, _⟩))
          rw [same]
          exact tiled.recordUser prompt triggered
      | recordAssistant run now =>
          have same : stages = state.stages := funext fun other => (starts other).trans (if_neg (by rintro ⟨⟨⟩, _⟩))
          rw [same]
          exact tiled.recordAssistant triggered
      | check run => exact tiled.check triggered starts
  | abandoned => exact absurd rfl (resolves _)
  | readHistory started => exact tiled.readHistory started
  | @loaded run turns read =>
      apply tiled.goOn (begun run (by rw [read]; rintro ⟨⟩)) (by rw [read]; rintro ⟨⟩)
      rintro ⟨⟩
  | @finished run turns existing asks =>
      apply tiled.goOn (begun run (by rw [asks]; rintro ⟨⟩)) (by rw [asks]; rintro ⟨⟩)
      rintro ⟨⟩

/-! ## The memory is that of one extraction after the other -/

/-- The file is what the finished tasks make of it one after the other, and
each has finished with what it has read. -/
structure Serial (inputs : Nat → MemoryInputs) (initial : Option Text) (state : MemoryTasks) : Prop where
  file : state.file = state.merges.foldl (merge inputs) initial
  once : (state.windows.map Prod.fst).Nodup
  known : ∀ window ∈ state.windows, state.stages window.1 ≠ .idle ∧ state.stages window.1 ≠ .started
  holds : ∀ run turns, (state.stages run = .read turns ∨ ∃ existing, state.stages run = .asking turns existing) →
    (run, turns) ∈ state.windows
  merged : state.merges.Nodup
  done : ∀ window, window ∈ state.merges ↔ window ∈ state.windows ∧ state.stages window.1 = .finished

theorem serial_start (inputs : Nat → MemoryInputs) (store : SessionStore) (file : Option Text) :
    (start store file).Serial inputs file where
  file := rfl
  once := List.nodup_nil
  known := by rintro window ⟨⟩
  holds := by
    rintro run turns (read | ⟨existing, asks⟩)
    · cases read
    · cases asks
  merged := List.nodup_nil
  done := fun window => iff_of_false List.not_mem_nil fun both => List.not_mem_nil both.1

theorem stages_setStage (state : MemoryTasks) (run : Nat) (stage : MemoryStage) (other : Nat) :
    (other = run ∧ (state.setStage run stage).stages other = stage) ∨
      (other ≠ run ∧ (state.setStage run stage).stages other = state.stages other) := by
  by_cases own : other = run
  · subst own
    exact .inl ⟨rfl, Function.update_self ..⟩
  · exact .inr ⟨own, Function.update_of_ne own ..⟩

/-- A check changes nothing about the tasks that have read. -/
theorem Serial.triggered {initial : Option Text} (serial : state.Serial inputs initial)
    {triggers : MemoryTriggers} {stages : Nat → MemoryStage}
    (starts : ∀ run, stages run = state.stages run ∨ (state.stages run = .idle ∧ stages run = .started)) :
    { state with triggers := triggers, stages := stages }.Serial inputs initial := by
  have kept : ∀ window ∈ state.windows, stages window.1 = state.stages window.1 := by
    intro window member
    rcases starts window.1 with same | ⟨idle, _⟩
    · exact same
    · exact absurd idle (serial.known window member).1
  refine ⟨serial.file, serial.once, fun window member => ?_, fun run turns begun => ?_, serial.merged,
    fun window => ?_⟩
  · have same : stages window.1 ≠ .idle ∧ stages window.1 ≠ .started := by
      rw [kept window member]
      exact serial.known window member
    exact same
  · rcases starts run with same | ⟨_, started⟩
    · exact serial.holds run turns (same ▸ begun)
    · rcases begun with read | ⟨existing, asks⟩
      · cases started.symm.trans read
      · cases started.symm.trans asks
  · refine (serial.done window).trans (and_congr_right fun member => ?_)
    exact Iff.of_eq (congrArg (· = MemoryStage.finished) (kept window member).symm)

theorem Serial.readHistory {initial : Option Text} (serial : state.Serial inputs initial)
    (started : state.stages run = .started) (turns : List ConversationTurn) :
    ({ state with windows := state.windows ++ [(run, turns)] }.setStage run (.read turns)).Serial inputs
      initial := by
  have new : ∀ window ∈ state.windows, window.1 ≠ run := by
    rintro window member rfl
    exact (serial.known window member).2 started
  have kept : ∀ window ∈ state.windows, (state.setStage run (.read turns)).stages window.1 =
      state.stages window.1 := fun window member => Function.update_of_ne (new window member) ..
  have own : (state.setStage run (.read turns)).stages run = .read turns := Function.update_self ..
  refine ⟨serial.file, ?_, ?_, ?_, serial.merged, ?_⟩
  · change ((state.windows ++ [(run, turns)]).map Prod.fst).Nodup
    rw [List.map_append]
    refine serial.once.append (List.nodup_singleton _) fun other earlier last => ?_
    rcases List.mem_map.mp earlier with ⟨window, member, rfl⟩
    exact new window member (List.mem_singleton.mp last)
  · intro window member
    rcases List.mem_append.mp member with earlier | last
    · exact (kept window earlier).symm ▸ serial.known window earlier
    · rcases List.mem_singleton.mp last with rfl
      have read : (state.setStage run (.read turns)).stages run ≠ .idle ∧
          (state.setStage run (.read turns)).stages run ≠ .started := by
        rw [own]
        exact ⟨by rintro ⟨⟩, by rintro ⟨⟩⟩
      exact read
  · intro other turns' begun
    rcases stages_setStage state run (.read turns) other with ⟨rfl, here⟩ | ⟨_, there⟩
    · rcases begun with read | ⟨existing, asks⟩
      · rcases here.symm.trans read with ⟨⟩
        exact List.mem_append_right _ (List.mem_singleton_self _)
      · cases here.symm.trans asks
    · refine List.mem_append_left _ (serial.holds other turns' ?_)
      exact begun.imp there.symm.trans fun ⟨existing, asks⟩ => ⟨existing, there.symm.trans asks⟩
  · intro window
    constructor
    · intro member
      rcases (serial.done window).mp member with ⟨read, finished⟩
      exact ⟨List.mem_append_left _ read, (kept window read).trans finished⟩
    · rintro ⟨member, finished⟩
      rcases List.mem_append.mp member with earlier | last
      · exact (serial.done window).mpr ⟨earlier, (kept window earlier).symm.trans finished⟩
      · rcases List.mem_singleton.mp last with rfl
        cases own.symm.trans finished

theorem Serial.loaded {initial : Option Text} (serial : state.Serial inputs initial) {turns : List ConversationTurn}
    (read : state.stages run = .read turns) (existing : Option Text) :
    (state.setStage run (.asking turns existing)).Serial inputs initial := by
  have stands := stages_setStage state run (.asking turns existing)
  refine ⟨serial.file, serial.once, fun window member => ?_, fun other turns' begun => ?_, serial.merged,
    fun window => ?_⟩
  · rcases stands window.1 with ⟨_, here⟩ | ⟨_, there⟩
    · rw [here]
      exact ⟨by rintro ⟨⟩, by rintro ⟨⟩⟩
    · rw [there]
      exact serial.known window member
  · rcases stands other with ⟨rfl, here⟩ | ⟨_, there⟩
    · rcases begun with reads | ⟨existing', asks⟩
      · cases here.symm.trans reads
      · rcases here.symm.trans asks with ⟨⟩
        exact serial.holds other turns (.inl read)
    · exact serial.holds other turns'
        (begun.imp there.symm.trans fun ⟨existing, asks⟩ => ⟨existing, there.symm.trans asks⟩)
  · refine (serial.done window).trans (and_congr_right fun _ => ?_)
    rcases stands window.1 with ⟨own, here⟩ | ⟨_, there⟩
    · rw [here, own, read]
      exact iff_of_false (by rintro ⟨⟩) (by rintro ⟨⟩)
    · rw [there]

/-- A task that writes over what it has loaded has merged into the file. -/
theorem Serial.finished {initial : Option Text} (serial : state.Serial inputs initial)
    {turns : List ConversationTurn} {existing : Option Text} (asks : state.stages run = .asking turns existing)
    (current : existing = loadSessionMemory state.file) :
    ({ state with
      file := (inputs run).rewrite turns existing state.file
      merges := state.merges ++ [(run, turns)] }.setStage run .finished).Serial inputs initial := by
  have stands := stages_setStage state run .finished
  have member : (run, turns) ∈ state.windows := serial.holds run turns (.inr ⟨existing, asks⟩)
  have unmerged : (run, turns) ∉ state.merges := by
    intro merged
    cases asks.symm.trans ((serial.done (run, turns)).mp merged).2
  refine ⟨?_, serial.once, fun window known => ?_, fun other turns' begun => ?_, ?_, fun window => ?_⟩
  · change (inputs run).rewrite turns existing state.file =
      (state.merges ++ [(run, turns)]).foldl (merge inputs) initial
    rw [List.foldl_append, ← serial.file, current]
    rfl
  · rcases stands window.1 with ⟨_, here⟩ | ⟨_, there⟩
    · exact here.symm ▸ ⟨by rintro ⟨⟩, by rintro ⟨⟩⟩
    · exact there.symm ▸ serial.known window known
  · rcases stands other with ⟨rfl, here⟩ | ⟨_, there⟩
    · rcases begun with reads | ⟨existing', asks'⟩
      · cases here.symm.trans reads
      · cases here.symm.trans asks'
    · exact serial.holds other turns'
        (begun.imp there.symm.trans fun ⟨existing, asks⟩ => ⟨existing, there.symm.trans asks⟩)
  · refine serial.merged.append (List.nodup_singleton _) fun window earlier last => ?_
    rcases List.mem_singleton.mp last with rfl
    exact unmerged earlier
  · constructor
    · intro merged
      rcases List.mem_append.mp merged with earlier | last
      · rcases (serial.done window).mp earlier with ⟨known, finished⟩
        rcases stands window.1 with ⟨_, here⟩ | ⟨_, there⟩
        · exact ⟨known, here⟩
        · exact ⟨known, there.trans finished⟩
      · rcases List.mem_singleton.mp last with rfl
        exact ⟨member, Function.update_self ..⟩
    · rintro ⟨known, finished⟩
      rcases stands window.1 with ⟨own, _⟩ | ⟨_, there⟩
      · have same : window = (run, turns) := List.inj_on_of_nodup_map serial.once known member own
        exact List.mem_append_right _ (List.mem_singleton.mpr same)
      · exact List.mem_append_left _ ((serial.done window).mpr ⟨known, there.symm.trans finished⟩)

/-- Step lemma. -/
theorem Serial.step {initial : Option Text} (serial : state.Serial inputs initial)
    (idle : ∀ run, state.triggers.phases run ≠ .checked → state.stages run = .idle) {action : MemoryStep}
    (undisturbed : state.Undisturbed action) (resolves : ∀ run, action ≠ .abandon run)
    (steps : (memoryTasks token runs turnInterval inputs).step state action = some next) :
    next.Serial inputs initial := by
  cases moves_of_step steps with
  | @triggered step triggers stages triggered starts =>
      refine serial.triggered fun run => ?_
      rw [starts run]
      split
      · rename_i due
        cases step with
        | check checked =>
            rcases Option.some.inj due.1 with rfl
            have spawned := (Option.ite_none_right_eq_some.mp triggered).1
            exact .inr ⟨idle _ (by rw [spawned]; rintro ⟨⟩), rfl⟩
        | recordUser | recordAssistant => cases due.1
      · exact .inl rfl
  | abandoned => exact absurd rfl (resolves _)
  | readHistory started => exact serial.readHistory started _
  | loaded read => exact serial.loaded read _
  | @finished run turns existing asks =>
      have current : (state.stages run).UpToDate state.file := undisturbed
      rw [asks] at current
      exact serial.finished asks current

end

/-- A model that always says the same. -/
def sameReply (_ : Nat) : MemoryInputs := ⟨true, 2, fun _ => some "likes green tea".toList⟩

end MemoryTasks

end Agent
end Rabb1tClaw
