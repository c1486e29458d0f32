import Rabb1tClaw.Agent.MemoryTasks

namespace Rabb1tClaw
namespace Agent
namespace MemoryTasks

open Foundations
open WordLimit

/-!
# What the memory holds

Whatever the runs and the memory tasks of a device do and in whatever order,
the file holds what it held at first, or the words that the limit leaves of a
reply to a request about a stretch of the history; a limit of no words leaves
all of them.  A later task then finds a memory in it, with one exception: where
the limit is three words and whitespace and more follow `<!-- empty -->` in the
reply, the cut makes the sentinel of it (`forgets_iff`).
-/

/-- The cut leaves the sentinel of a reply that says more. -/
def Forgets (raw : Text) (maxWords : Nat) : Prop :=
  maxWords = 3 ∧ ∃ blank rest, Text.isWhitespace blank = true ∧ Text.trim raw = emptySentinel ++ blank :: rest

section

variable {raw output : Text} {maxWords : Nat}

/-! ## The sentinel -/

theorem isWord_opening : Text.IsWord "<!--".toList :=
  ⟨List.forall_iff_forall_mem.mp (by simp [Text.isWhitespace]), by simp⟩

theorem isWord_closing : Text.IsWord "-->".toList :=
  ⟨List.forall_iff_forall_mem.mp (by simp [Text.isWhitespace]), by simp⟩

theorem isWord_empty : Text.IsWord "empty".toList :=
  ⟨List.forall_iff_forall_mem.mp (by simp [Text.isWhitespace]), by simp⟩

/-- The words of a text that starts like the sentinel. -/
theorem words_like_sentinel {third rest : Text} (isWord : Text.IsWord third) (ends : Text.Ends rest) :
    Text.words ("<!-- empty ".toList ++ (third ++ rest)) =
      "<!--".toList :: "empty".toList :: third :: Text.words rest := by
  have nothing : Text.Blank [] := by decide
  have space : Text.Blank [' '] := by decide
  have gap : ∀ later, Text.Ends ([' '] ++ later) := fun _ => (by decide : Text.isWhitespace ' ' = true)
  have split : "<!-- empty ".toList ++ (third ++ rest) = [] ++ ("<!--".toList ++ ([' '] ++ ("empty".toList ++
      ([' '] ++ (third ++ rest))))) := rfl
  rw [split, Text.words_cons nothing isWord_opening (gap _), Text.words_cons space isWord_empty (gap _),
    Text.words_cons space isWord ends]

theorem words_sentinel {rest : Text} (ends : Text.Ends rest) :
    Text.words (emptySentinel ++ rest) = "<!--".toList :: "empty".toList :: "-->".toList :: Text.words rest := by
  have split : emptySentinel ++ rest = "<!-- empty ".toList ++ ("-->".toList ++ rest) := rfl
  rw [split]
  exact words_like_sentinel isWord_closing ends

/-- A text without whitespace at its end has a word where it goes on. -/
theorem words_ne_nil_of_edged {front rest : Text} (edged : Text.Edged (front ++ rest)) (more : rest ≠ []) :
    Text.words rest ≠ [] := by
  intro none
  have blank := Text.words_eq_nil_iff.mp none
  have last := edged.ends (rest.getLast more)
  rw [List.getLast?_append_of_ne_nil front more, List.getLast?_eq_some_getLast more] at last
  have visible := last rfl
  rw [blank _ (List.getLast_mem more)] at visible
  cases visible

/-- The cut is behind the last word that is kept. -/
theorem enforceWordLimit_ends {text : Text} {start : Nat} {word : Text}
    (last : ((Text.splitWhitespace text).take maxWords).getLast? = some (start, word))
    (returns : enforceWordLimit text maxWords = some output) :
    ∃ before, output = before ++ word ∧ output <+: text ∧
      Text.words output = (Text.words text).take maxWords := by
  rcases Text.last_taken last with ⟨before, after, whole, place, kept⟩
  have stop : start + Text.len word = Text.len (before ++ word) := by
    rw [place, Nat.zero_add, Text.len_append]
  have cuts : enforceWordLimit text maxWords =
      if start + Text.len word < Text.len text then Text.sliceTo text (start + Text.len word) else some text := by
    rw [enforceWordLimit, last]
    rfl
  rw [cuts, stop] at returns
  have front : output = before ++ word := by
    split at returns
    · rw [whole, ← List.append_assoc, Text.sliceTo_append] at returns
      exact (Option.some.inj returns).symm
    · rename_i long
      have nothing : after = [] := by
        have grown := Text.len_append (before ++ word) after
        rw [whole, ← List.append_assoc, grown] at long
        exact Text.len_eq_zero_iff.mp (by omega)
      rw [← Option.some.inj returns, whole, nothing, List.append_nil]
  refine ⟨before, front, ?_, front ▸ kept⟩
  rw [front, whole, ← List.append_assoc]
  exact List.prefix_append _ _

theorem edged_of_prefix {text front word : Text} (edged : Text.Edged text) (isWord : Text.IsWord word)
    (starts : front ++ word <+: text) : Text.Edged (front ++ word) where
  starts := by
    intro char first
    rcases starts with ⟨tail, rfl⟩
    apply edged.starts
    rw [List.head?_append, first]
    rfl
  ends := by
    intro char last
    rw [List.getLast?_append_of_ne_nil front isWord.nonempty] at last
    exact isWord.solid char (List.mem_of_getLast? last)

/-- What is written: a beginning of the trimmed reply, with the words that the
limit leaves, if it is one. -/
theorem rewrittenMemory_spec (writes : rewrittenMemory raw maxWords = some (some output)) :
    Text.trim raw ≠ emptySentinel ∧ output ≠ [] ∧ Text.Edged output ∧ output <+: Text.trim raw ∧
      (maxWords = 0 → output = Text.trim raw) ∧
      (maxWords ≠ 0 → Text.words output = (Text.words (Text.trim raw)).take maxWords) := by
  rw [rewrittenMemory] at writes
  split at writes
  · cases writes
  · rename_i worth
    rcases not_or.mp worth with ⟨notSentinel, some⟩
    rcases Option.map_eq_some_iff.mp writes with ⟨_, returns, same⟩
    rcases Option.some.inj same with rfl
    have edged := Text.edged_trim raw
    by_cases zero : maxWords = 0
    · subst zero
      rcases Option.some.inj ((enforceWordLimit_zero _).symm.trans returns) with rfl
      exact ⟨notSentinel, some, edged, List.prefix_rfl, fun _ => rfl, fun positive => absurd rfl positive⟩
    · have wordy : Text.words (Text.trim raw) ≠ [] := fun none =>
        some (Text.trim_eq_nil_of_blank (Text.words_eq_nil_iff.mp none))
      cases last : ((Text.splitWhitespace (Text.trim raw)).take maxWords).getLast? with
      | none =>
          have nothing := (List.take_eq_nil_iff.mp (List.getLast?_eq_none_iff.mp last)).resolve_left zero
          exact absurd (congrArg (List.map Prod.snd) nothing) wordy
      | some located =>
          rcases located with ⟨start, word⟩
          have isWord : Text.IsWord word :=
            Text.isWord_of_mem_wordsFrom (List.mem_of_mem_take (List.mem_of_getLast? last))
          rcases enforceWordLimit_ends last returns with ⟨before, rfl, starts, kept⟩
          refine ⟨notSentinel, ?_, edged_of_prefix edged isWord starts, starts, fun none => absurd none zero,
            fun _ => kept⟩
          exact List.append_ne_nil_of_right_ne_nil before isWord.nonempty

/-- A text behind the sentinel that goes on without a blank has another third
word. -/
theorem blank_of_words {rest : Text} {char : Char}
    (taken : Text.words emptySentinel = (Text.words (emptySentinel ++ char :: rest)).take maxWords) :
    Text.isWhitespace char = true := by
  by_contra visible
  rcases Text.exists_stretch (fun char => !Text.isWhitespace char) (char :: rest) with
    ⟨letters, later, split, solid, closes⟩
  have letter : letters ≠ [] := by
    rintro rfl
    have space := closes char rest split.symm
    rw [Bool.not_eq_false'] at space
    exact visible space
  have isWord : Text.IsWord ("-->".toList ++ letters) := by
    refine ⟨fun other member => ?_, List.append_ne_nil_of_left_ne_nil isWord_closing.nonempty _⟩
    rcases List.mem_append.mp member with early | late
    · exact isWord_closing.solid other early
    · simpa using solid other late
  have ends : Text.Ends later := by
    cases later with
    | nil => trivial
    | cons other later => simpa [Text.Ends] using closes other later rfl
  have whole : emptySentinel ++ char :: rest = "<!-- empty ".toList ++ (("-->".toList ++ letters) ++ later) := by
    rw [split]
    rfl
  have known : Text.words emptySentinel = ["<!--".toList, "empty".toList, "-->".toList] := by
    have exactly := words_sentinel (show Text.Ends [] from trivial)
    rwa [List.append_nil] at exactly
  rw [known, whole, words_like_sentinel isWord ends] at taken
  have third := congrArg (fun words : List Text => words[2]?) taken
  rw [List.getElem?_take] at third
  split at third
  · have same : "-->".toList = "-->".toList ++ letters := Option.some.inj third
    exact letter (List.append_cancel_left (same.symm.trans (List.append_nil _).symm))
  · cases third

/-- A written memory is not found again exactly if the cut has left the
sentinel. -/
theorem forgets_iff (writes : rewrittenMemory raw maxWords = some (some output)) :
    loadSessionMemory (some output) = none ↔ Forgets raw maxWords := by
  rcases rewrittenMemory_spec writes with ⟨notSentinel, visible, edged, starts, unlimited, limited⟩
  have loads : loadSessionMemory (some output) = none ↔ output = emptySentinel := by
    rw [loadSessionMemory, Option.bind_some, Text.trim_of_edged edged]
    constructor
    · intro nothing
      by_contra other
      rw [if_neg (not_or.mpr ⟨visible, other⟩)] at nothing
      cases nothing
    · intro sentinel
      exact if_pos (.inr sentinel)
  have known : Text.words emptySentinel = ["<!--".toList, "empty".toList, "-->".toList] := by
    have exactly := words_sentinel (show Text.Ends [] from trivial)
    rwa [List.append_nil] at exactly
  rw [loads]
  constructor
  · rintro rfl
    have positive : maxWords ≠ 0 := fun zero => notSentinel (unlimited zero).symm
    have taken := limited positive
    rcases starts with ⟨after, whole⟩
    cases after with
    | nil => exact absurd (whole.symm.trans (List.append_nil _)) notSentinel
    | cons char rest =>
        rw [← whole] at taken
        have blank := blank_of_words taken
        refine ⟨?_, char, rest, blank, whole.symm⟩
        have more := words_ne_nil_of_edged (whole ▸ Text.edged_trim raw) (List.cons_ne_nil char rest)
        have lengths := congrArg List.length taken
        rw [known, words_sentinel (show Text.Ends (char :: rest) from blank), List.length_take] at lengths
        have further := List.length_pos_iff.mpr more
        simp only [List.length_cons, List.length_nil] at lengths
        omega
  · rintro ⟨rfl, blank, rest, space, whole⟩
    have words := limited (by decide)
    have ends : Text.Ends (blank :: rest) := space
    rw [whole, words_sentinel ends] at words
    rw [whole] at starts
    rcases List.prefix_or_prefix_of_prefix starts (List.prefix_append emptySentinel (blank :: rest)) with
      short | long
    · have whole' : output = emptySentinel.take output.length := List.prefix_iff_eq_take.mp short
      have bound : output.length ≤ 14 := short.length_le
      have cuts : ∀ count ≤ 14, Text.words (emptySentinel.take count) =
          ["<!--".toList, "empty".toList, "-->".toList] → emptySentinel.take count = emptySentinel := by
        decide +kernel
      rw [whole'] at words
      exact whole'.trans (cuts output.length bound words)
    · rcases long with ⟨more, rfl⟩
      cases more with
      | nil => exact List.append_nil _
      | cons char more =>
          have same : char = blank := by
            have behind := (List.prefix_append_right_inj emptySentinel).mp starts
            exact (List.cons_prefix_cons.mp behind).1
          have ends' : Text.Ends (char :: more) := same ▸ space
          have further := words_ne_nil_of_edged edged (List.cons_ne_nil char more)
          rw [words_sentinel ends'] at words
          have none : Text.words (char :: more) = [] := (List.cons.inj (List.cons.inj (List.cons.inj words).2).2).2
          exact absurd none further

end

/-! ## The file -/

section

variable {token : Text} {runs : Nat → CompletedRun} {turnInterval : Nat} {inputs : Nat → MemoryInputs}
  {state next : MemoryTasks} {run : Nat}

/-- The file is as it was, or has been written from a reply. -/
def Written (inputs : Nat → MemoryInputs) (initial : Option Text) (state : MemoryTasks) : Prop :=
  state.file = initial ∨ ∃ run turns existing raw output, (run, turns) ∈ state.windows ∧
    (inputs run).reply (formatTurnsForSubagent turns existing) = some raw ∧
      rewrittenMemory raw (inputs run).maxWords = some (some output) ∧ state.file = some output

/-- What the tasks send is a stretch of the history, of no more than the
interval's turns. -/
structure Faithful (token : Text) (turnInterval : Nat) (inputs : Nat → MemoryInputs) (initial : Option Text)
    (state : MemoryTasks) : Prop where
  stretches : ∀ window ∈ state.windows, window.2 <:+: state.history token ∧ window.2.length ≤ 2 * turnInterval
  holds : ∀ run turns, (state.stages run = .read turns ∨ ∃ existing, state.stages run = .asking turns existing) →
    (run, turns) ∈ state.windows
  written : state.Written inputs initial

theorem rewrite_cases (inputs : MemoryInputs) (turns : List ConversationTurn) (existing file : Option Text) :
    inputs.rewrite turns existing file = file ∨
      ∃ raw output, inputs.reply (formatTurnsForSubagent turns existing) = some raw ∧
        rewrittenMemory raw inputs.maxWords = some (some output) ∧
        inputs.rewrite turns existing file = some output := by
  unfold MemoryInputs.rewrite
  split
  · rename_i output rewrites
    rcases Option.bind_eq_some_iff.mp rewrites with ⟨raw, replies, writes⟩
    exact .inr ⟨raw, output, replies, writes, rfl⟩
  · exact .inl rfl

theorem history_of_trigger {step : TriggerStep} {triggers : MemoryTriggers}
    (steps : (memoryTriggers token runs turnInterval).step state.triggers step = some triggers) :
    state.history token <+: triggers.store.getHistory token := by
  cases step with
  | recordUser run now =>
      rcases Option.some.inj (Option.ite_none_right_eq_some.mp steps).2 with rfl
      exact ⟨_, (getHistory_appendTurn _ token _).1.symm⟩
  | recordAssistant run now =>
      rcases Option.some.inj (Option.ite_none_right_eq_some.mp steps).2 with rfl
      exact ⟨_, (getHistory_appendTurn _ token _).1.symm⟩
  | check run =>
      rcases Option.some.inj (Option.ite_none_right_eq_some.mp steps).2 with rfl
      exact List.prefix_rfl

/-- Step lemma: no order of the steps matters. -/
theorem Faithful.step {initial : Option Text} (faithful : state.Faithful token turnInterval inputs initial)
    {action : MemoryStep} (steps : (memoryTasks token runs turnInterval inputs).step state action = some next) :
    next.Faithful token turnInterval inputs initial := by
  cases moves_of_step steps with
  | @triggered step triggers stages triggered starts =>
      have grown := history_of_trigger triggered
      refine ⟨fun window member => ?_, fun run turns begun => faithful.holds run turns ?_, faithful.written⟩
      · exact (faithful.stretches window member).imp_left fun stretch => stretch.trans grown.isInfix
      · have same : stages run = state.stages run := by
          rw [starts run]
          split
          · rename_i due
            have started := (starts run).trans (if_pos due)
            rcases begun with read | ⟨existing, asks⟩
            · cases started.symm.trans read
            · cases started.symm.trans asks
          · rfl
        exact same ▸ begun
  | @abandoned run =>
      refine ⟨faithful.stretches, fun other turns begun => ?_, faithful.written⟩
      rcases stages_setStage state run .finished other with ⟨rfl, here⟩ | ⟨_, there⟩
      · rcases begun with read | ⟨existing, asks⟩
        · cases here.symm.trans read
        · cases here.symm.trans asks
      · exact faithful.holds other turns
          (begun.imp there.symm.trans fun ⟨existing, asks⟩ => ⟨existing, there.symm.trans asks⟩)
  | @readHistory run started =>
      refine ⟨fun window member => ?_, fun other turns begun => ?_, ?_⟩
      · rcases List.mem_append.mp member with earlier | last
        · exact faithful.stretches window earlier
        · rcases List.mem_singleton.mp last with rfl
          rw [recentTurns_eq]
          refine ⟨(List.drop_suffix _ _).isInfix, ?_⟩
          rw [List.length_drop]
          omega
      · rcases stages_setStage state run
          (.read (recentTurns turnInterval (state.triggers.store.getHistory token))) other with
          ⟨rfl, here⟩ | ⟨_, there⟩
        · rcases begun with read | ⟨existing, asks⟩
          · rcases here.symm.trans read with ⟨⟩
            exact List.mem_append_right _ (List.mem_singleton_self _)
          · cases here.symm.trans asks
        · exact List.mem_append_left _ (faithful.holds other turns
            (begun.imp there.symm.trans fun ⟨existing, asks⟩ => ⟨existing, there.symm.trans asks⟩))
      · refine faithful.written.imp_right ?_
        rintro ⟨writer, turns, existing, raw, output, member, rest⟩
        exact ⟨writer, turns, existing, raw, output, List.mem_append_left _ member, rest⟩
  | @loaded run turns read =>
      refine ⟨faithful.stretches, fun other turns' begun => ?_, faithful.written⟩
      rcases stages_setStage state run (.asking turns (loadSessionMemory state.file)) other with
        ⟨rfl, here⟩ | ⟨_, there⟩
      · rcases begun with reads | ⟨existing', asks⟩
        · cases here.symm.trans reads
        · rcases here.symm.trans asks with ⟨⟩
          exact faithful.holds other turns (.inl read)
      · exact faithful.holds other turns'
          (begun.imp there.symm.trans fun ⟨existing, asks⟩ => ⟨existing, there.symm.trans asks⟩)
  | @finished run turns existing asks =>
      refine ⟨faithful.stretches, fun other turns' begun => ?_, ?_⟩
      · rcases stages_setStage state run .finished other with ⟨rfl, here⟩ | ⟨_, there⟩
        · rcases begun with reads | ⟨existing', asks'⟩
          · cases here.symm.trans reads
          · cases here.symm.trans asks'
        · exact faithful.holds other turns'
            (begun.imp there.symm.trans fun ⟨existing, asks⟩ => ⟨existing, there.symm.trans asks⟩)
      · rcases rewrite_cases (inputs run) turns existing state.file with same | ⟨raw, output, replies, writes, result⟩
        · exact faithful.written.imp same.trans fun ⟨writer, read, loaded, raw, output, member, replies, writes, file⟩ =>
            ⟨writer, read, loaded, raw, output, member, replies, writes, same.trans file⟩
        · exact .inr ⟨run, turns, existing, raw, output, faithful.holds run turns (.inr ⟨existing, asks⟩), replies,
            writes, result⟩

/-- Whatever happens in whatever order, the memory is as it was, or it is what
the limit leaves of a reply about a stretch of the history.  Then it is not
empty, and a task that loads it finds it, unless the cut has left the
sentinel. -/
theorem memory_kept (store : SessionStore) (initial : Option Text) {schedule : List MemoryStep}
    {final : MemoryTasks}
    (completes : (memoryTasks token runs turnInterval inputs).run (start store initial) schedule = some final) :
    final.file = initial ∨ ∃ run turns existing raw output,
      turns <:+: final.history token ∧ turns.length ≤ 2 * turnInterval ∧
        (inputs run).reply (formatTurnsForSubagent turns existing) = some raw ∧ final.file = some output ∧
        output ≠ [] ∧ output <+: Text.trim raw ∧
        ((inputs run).maxWords = 0 → output = Text.trim raw) ∧
        ((inputs run).maxWords ≠ 0 →
          Text.words output = (Text.words (Text.trim raw)).take (inputs run).maxWords) ∧
        (loadSessionMemory final.file = none ↔ Forgets raw (inputs run).maxWords) := by
  have begins : (start store initial).Faithful token turnInterval inputs initial := by
    refine ⟨by rintro window ⟨⟩, ?_, .inl rfl⟩
    rintro run turns (read | ⟨existing, asks⟩)
    · cases read
    · cases asks
  have faithful : final.Faithful token turnInterval inputs initial :=
    Machine.run_keeps (fun _ _ _ here steps => here.step steps) begins completes
  refine faithful.written.imp_right ?_
  rintro ⟨run, turns, existing, raw, output, member, replies, writes, file⟩
  rcases faithful.stretches (run, turns) member with ⟨stretch, bound⟩
  rcases rewrittenMemory_spec writes with ⟨_, visible, _, starts, unlimited, limited⟩
  refine ⟨run, turns, existing, raw, output, stretch, bound, replies, file, visible, starts, unlimited, limited, ?_⟩
  rw [file]
  exact forgets_iff writes

end

/-- Also when the tasks overlap: the second loads before the first writes. -/
def overlappingWrites : List MemoryStep :=
  [.trigger (.recordUser 0 1), .trigger (.recordAssistant 0 2), .trigger (.recordUser 1 3),
    .trigger (.recordAssistant 1 4), .trigger (.check 0), .trigger (.check 1), .readHistory 1, .readHistory 0,
    .load 0, .load 1, .finish 0, .finish 1]

theorem overlappingWrites_run :
    ((memoryTasks [] MemoryTriggers.sampleRuns 1 sameReply).run (start MemoryTriggers.noTurns none)
      overlappingWrites).any (fun final => final.file = some "likes green".toList) = true := by
  decide +kernel

theorem memory_kept_sample :
    ∃ final turns, (memoryTasks [] MemoryTriggers.sampleRuns 1 sameReply).run (start MemoryTriggers.noTurns none)
        overlappingWrites = some final ∧ turns <:+: final.history [] ∧
      (loadSessionMemory final.file = none ↔ Forgets "likes green tea".toList 2) := by
  rcases (Option.any_eq_true _ _).mp overlappingWrites_run with ⟨final, completes, holds⟩
  have file := of_decide_eq_true holds
  rcases memory_kept MemoryTriggers.noTurns none completes with same | ⟨run, turns, existing, raw, output, kept⟩
  · cases file.symm.trans same
  · rcases kept with ⟨stretch, _, replies, _, _, _, _, _, forgets⟩
    rcases Option.some.inj replies with rfl
    exact ⟨final, turns, completes, stretch, forgets⟩

end MemoryTasks
end Agent
end Rabb1tClaw
