import Rabb1tClaw.Agent.Delivery
import Rabb1tClaw.Foundations.Splices

namespace Rabb1tClaw
namespace Agent

open Foundations
open Provider (StreamChunk)

/-!
# What the stripper guarantees

Two things can go wrong when blocks are removed from a response.  A block
directly behind another one makes the stripper step back over the newline that
it has already passed, and the slice between the two is none.  And the texts
around a removed block can make up an opener that was not there before.

Both are decided by the response alone: `Touching` looks for the closing
marker of a block with an opener on the next line, and `JoinsOpener` for an
opener put together from what is kept.
-/

/-! ## Blocks that touch -/

/-- The last block of a layout has no end. -/
def leavesOpen : Layout Char → Bool
  | .plain _ => false
  | .unclosed _ _ => true
  | .block _ _ _ rest => leavesOpen rest

/-- What comes behind the text belongs to a block. -/
def InsideBlock (text : Text) : Prop :=
  leavesOpen (scan stripDelimiters text) = true

/-- A block ends and another begins on the next line. -/
def Touching (response : Text) : Prop :=
  ∃ front back, response = front ++ (blockClose ++ '\n' :: (dispatchOpen ++ back)) ∧ InsideBlock front

theorem scan_of_unclosed {text gap after : Text} (opens : cut dispatchOpen text = some (gap, after))
    (closes : cut blockClose after = none) : scan stripDelimiters text = .unclosed gap after :=
  Laid.scan_eq (.unclosed opens closes)

theorem scan_of_block {text gap after body rest : Text}
    (opens : cut dispatchOpen text = some (gap, after)) (closes : cut blockClose after = some (body, rest)) :
    scan stripDelimiters text =
      .block gap body (dropNewline rest).1 (scan stripDelimiters (dropNewline rest).2) :=
  Laid.scan_eq (.block opens closes (scan_laid _ _))

theorem insideBlock_ne_nil {text : Text} (inside : InsideBlock text) : text ≠ [] := by
  rintro rfl
  have plain : scan stripDelimiters [] = .plain [] := Laid.scan_eq (.plain (by decide))
  rw [InsideBlock, plain] at inside
  cases inside

/-- A closing marker ends the block that a text is inside of. -/
theorem cut_blockClose_of_absent {body : Text} (absent : ¬ blockClose <:+: body) (rest : Text) :
    cut blockClose (body ++ (blockClose ++ rest)) = some (body, rest) := by
  apply cut_of_avoids
  rw [blockClose_eq] at absent ⊢
  exact Avoids.of_absent (by decide) absent rest

/-- The search for an opener does not depend on what follows it. -/
theorem cut_dispatchOpen_replace {text gap after : Text}
    (opens : cut dispatchOpen text = some (gap, after)) (other : Text) :
    cut dispatchOpen (gap ++ (dispatchOpen ++ other)) = some (gap, other) :=
  cut_of_avoids other ((cut_sound opens).2.of_tail _ _ (Nat.le_succ _))

/-- The newline that is dropped does not depend on what follows. -/
theorem dropNewline_replace {rest front more : Text} (resumed : (dropNewline rest).2 = front ++ more)
    (nonempty : front ≠ []) :
    dropNewline ((dropNewline rest).1 ++ front) = ((dropNewline rest).1, front) := by
  have whole : (dropNewline rest).1 ++ front ++ more = rest := by
    rw [List.append_assoc, ← resumed, dropNewline_append]
  have nonempty' : (dropNewline rest).1 ++ front ≠ [] := by simp [nonempty]
  have apart := dropNewline_append_of_ne_nil more nonempty'
  rw [whole] at apart
  have dropped := congrArg Prod.fst apart
  have left := congrArg Prod.snd apart
  simp only at dropped left
  rw [resumed] at left
  exact Prod.ext dropped.symm (List.append_cancel_right left).symm

/-- Where the stripper gets stuck, blocks touch, or the text begins with a
block behind a newline that is passed. -/
theorem touching_of_stuck {text : Text} {layout : Layout Char} (laid : Laid stripDelimiters text layout)
    {preceded : Bool} (blocked : stuck preceded layout = true) :
    preceded = true ∧ dispatchOpen <+: text ∨ Touching text := by
  induction laid generalizing preceded with
  | plain opens => cases blocked
  | @unclosed text gap after opens closes =>
      rcases Bool.and_eq_true_iff.mp blocked with ⟨newline, empty⟩
      refine .inl ⟨newline, after, ?_⟩
      rw [(cut_sound opens).1, List.isEmpty_iff.mp empty]
      rfl
  | @block text gap after body rest layout opens closes later inductionHypothesis =>
      rcases Bool.or_eq_true_iff.mp blocked with here | there
      · rcases Bool.and_eq_true_iff.mp here with ⟨newline, empty⟩
        refine .inl ⟨newline, after, ?_⟩
        rw [(cut_sound opens).1, List.isEmpty_iff.mp empty]
        rfl
      · have absent : ¬ blockClose <:+: body := (cut_sound closes).2.not_occurs stripDelimiters.closer_ne
        have whole : ∀ {resumed : Text}, (dropNewline rest).2 = resumed →
            text = gap ++ (dispatchOpen ++ (body ++ (blockClose ++ ((dropNewline rest).1 ++ resumed)))) := by
          rintro resumed rfl
          rw [dropNewline_append, (cut_sound opens).1]
          exact congrArg (fun after => gap ++ (dispatchOpen ++ after)) (cut_sound closes).1
        right
        rcases inductionHypothesis there with ⟨passed, back, begins⟩ | ⟨front, back, split, inside⟩
        · have newline : (dropNewline rest).1 = ['\n'] := by
            rcases dropNewline_fst rest with none | newline
            · change (!(dropNewline rest).1.isEmpty) = true at passed
              rw [none] at passed
              cases passed
            · exact newline
          refine ⟨gap ++ (dispatchOpen ++ body), back, ?_, ?_⟩
          · rw [whole begins.symm, newline]
            simp only [List.append_assoc, List.singleton_append]
          · rw [InsideBlock, scan_of_unclosed (cut_dispatchOpen_replace opens body) (cut_eq_none_iff.mpr absent)]
            rfl
        · change (dropNewline rest).2 = front ++ (blockClose ++ '\n' :: (dispatchOpen ++ back)) at split
          refine ⟨gap ++ (dispatchOpen ++ (body ++ (blockClose ++ ((dropNewline rest).1 ++ front)))), back, ?_, ?_⟩
          · rw [whole split]
            simp only [List.append_assoc]
          · rw [InsideBlock, scan_of_block (cut_dispatchOpen_replace opens _) (cut_blockClose_of_absent absent _),
              dropNewline_replace split (insideBlock_ne_nil inside)]
            exact inside

/-- Behind the end of a block the stripper gets stuck at an opener on the next
line. -/
theorem stuck_of_insideBlock {front : Text} {layout : Layout Char}
    (laid : Laid stripDelimiters front layout) (opened : leavesOpen layout = true) (preceded : Bool)
    (back : Text) :
    stuck preceded (scan stripDelimiters (front ++ (blockClose ++ '\n' :: (dispatchOpen ++ back)))) = true := by
  induction laid generalizing preceded with
  | plain opens => cases opened
  | @unclosed text gap after opens closes =>
      have opener := cut_pattern_append dispatchOpen back
      have next : ∃ layout, scan stripDelimiters (dispatchOpen ++ back) = layout ∧ stuck true layout = true := by
        cases ends : cut blockClose back with
        | none => exact ⟨_, scan_of_unclosed opener ends, rfl⟩
        | some parts => exact ⟨_, scan_of_block opener ends, rfl⟩
      rcases next with ⟨later, scanned, blocked⟩
      rw [scan_of_block (cut_append_of_some _ opens)
        (cut_blockClose_of_absent (cut_eq_none_iff.mp closes) ('\n' :: (dispatchOpen ++ back)))]
      simp only [dropNewline, scanned, stuck, List.isEmpty_cons, Bool.not_false, blocked, Bool.or_true]
  | @block text gap after body rest layout opens closes later inductionHypothesis =>
      have nonempty : (dropNewline rest).2 ≠ [] := by
        apply insideBlock_ne_nil
        exact (congrArg leavesOpen later.scan_eq).trans opened
      have rested : rest ≠ [] := by
        rintro rfl
        exact nonempty rfl
      rw [scan_of_block (cut_append_of_some _ opens) (cut_append_of_some _ closes),
        dropNewline_append_of_ne_nil _ rested]
      simp only [stuck]
      exact Bool.or_eq_true_iff.mpr (.inr (inductionHypothesis opened _))

theorem stuck_iff_touching (response : Text) :
    stuck false (scan stripDelimiters response) = true ↔ Touching response := by
  constructor
  · intro blocked
    rcases touching_of_stuck (scan_laid stripDelimiters response) blocked with ⟨impossible, _⟩ | touching
    · cases impossible
    · exact touching
  · rintro ⟨front, back, rfl, inside⟩
    exact stuck_of_insideBlock (scan_laid stripDelimiters front) inside false back

theorem stripTaskMarkers_of_touching {response : Text} (touching : Touching response) :
    stripTaskMarkers response = .panicked := by
  rw [stripTaskMarkers_eq (scan_laid _ response), if_pos ((stuck_iff_touching response).mpr touching)]

theorem stripTaskMarkers_of_apart {response : Text} (apart : ¬ Touching response) :
    stripTaskMarkers response = .returned (shown (scan stripDelimiters response)) := by
  rw [stripTaskMarkers_eq (scan_laid _ response),
    if_neg fun blocked => apart ((stuck_iff_touching response).mp blocked)]

theorem returns_iff_apart (response : Text) :
    (∃ clean, stripTaskMarkers response = .returned clean) ↔ ¬ Touching response := by
  constructor
  · rintro ⟨clean, returns⟩ touching
    rw [stripTaskMarkers_of_touching touching] at returns
    cases returns
  · intro apart
    exact ⟨_, stripTaskMarkers_of_apart apart⟩

/-! ## Runs whose stream reports its end -/

/-- What a run does when its stream reports `Done`: it streams the response,
and if the response can be stripped it concludes. -/
theorem streamAgentResponse_done (job : StreamJob) (texts : List Text) (later : List StreamChunk) :
    ∃ response seq streamed, fullResponse job texts = .returned response ∧
      (∀ effect ∈ streamed, Streamed (fun _ => True) effect) ∧
      (streamAgentResponse job (.ok (texts.map .text ++ .done :: later))).effects = streamed ++
        match stripTaskMarkers response with
        | .returned clean => ChunkLoop.recordExchange job response clean ++
            [.streamDone job.runId job.requestId job.sessionKey seq clean, .release job.dedupKey]
        | _ => [] := by
  rcases absorbed_onTexts job (absorbed_initial job) texts with ⟨loop, run, absorbed⟩
  rcases (absorbed_flushes job absorbed).flushed with ⟨remaining, filter, flushes, streamed⟩
  refine ⟨loop.responseAtDone, (remaining.elim loop (loop.emitDelta job)).seq,
    (remaining.elim loop (loop.emitDelta job)).effects, ?_, ?_, ?_⟩
  · rw [fullResponse, run, Outcome.map_returned]
  · exact fun effect member => (streamed effect member).mono fun _ _ => trivial
  · simp only [streamAgentResponse, receive_onTexts run, ChunkLoop.receive, ChunkLoop.onDone, flushes]
    exact conclude_effects job _ _

theorem Streamed.not_release {allowed : Text → Prop} {key : Option Text × Text} :
    ¬ Streamed allowed (.release key) := nofun

/-- The stripper returns exactly when no two blocks touch, and then the run
that called it sends its final message and releases its key. -/
theorem stripTaskMarkers_safe_iff (response : Text) :
    ((∃ clean, stripTaskMarkers response = .returned clean) ↔ ¬ Touching response) ∧
      ∀ job texts later, fullResponse job texts = .returned response →
        let effects := (streamAgentResponse job (.ok (texts.map .text ++ .done :: later))).effects
        ((∃ seq clean, .streamDone job.runId job.requestId job.sessionKey seq clean ∈ effects) ↔
            ¬ Touching response) ∧
          (.release job.dedupKey ∈ effects ↔ ¬ Touching response) := by
  refine ⟨returns_iff_apart response, ?_⟩
  intro job texts later full effects
  rcases streamAgentResponse_done job texts later with ⟨same, seq, streamed, full', early, run⟩
  rcases Outcome.returned.inj (full.symm.trans full') with rfl
  by_cases touching : Touching response
  · rw [stripTaskMarkers_of_touching touching, List.append_nil] at run
    simp only [effects, run, not_true_eq_false, iff_false, touching]
    constructor
    · rintro ⟨seq, clean, member⟩
      cases early _ member
    · exact fun member => Streamed.not_release (early _ member)
  · rw [stripTaskMarkers_of_apart touching] at run
    simp only [effects, run, touching, not_false_eq_true, iff_true]
    exact ⟨⟨seq, shown (scan stripDelimiters response), by simp⟩, by simp⟩

/-- Two blocks on adjacent lines. -/
def adjacentLines : Text := "@@dispatch\nx\n@@end\n@@dispatch\ny\n@@end".toList

/-- The stripper panics on adjacent blocks, and the run keeps its key. -/
theorem stripTaskMarkers_adjacentLines :
    stripTaskMarkers adjacentLines = .panicked ∧
      ∃ job texts, fullResponse job texts = .returned adjacentLines ∧
        .release job.dedupKey ∉ (streamAgentResponse job (finishedStream texts)).effects := by
  refine ⟨by decide +kernel, ⟨⟨[], [], [], none, [], (none, [])⟩, [adjacentLines], ?_⟩⟩
  decide +kernel

theorem stripTaskMarkers_safe_separateLines :
    let response := "@@dispatch\nx\n@@end\n\n@@dispatch\ny\n@@end".toList
    let job : StreamJob := ⟨[], [], [], none, [], (none, [])⟩
    (∃ clean, stripTaskMarkers response = .returned clean) ∧
      .release job.dedupKey ∈
        (streamAgentResponse job (.ok ([response].map .text ++ .done :: []))).effects := by
  intro response job
  have returns : stripTaskMarkers response = .returned [] := by decide +kernel
  have safe := stripTaskMarkers_safe_iff response
  have apart : ¬ Touching response := safe.1.mp ⟨_, returns⟩
  have full : fullResponse job [response] = .returned response := by decide +kernel
  exact ⟨⟨_, returns⟩, (safe.2 job [response] [] full).2.mpr apart⟩

/-! ## What is kept -/

/-- The stretches of the text outside its blocks, without the newlines that go
with the blocks. -/
def kept : Layout Char → List Text
  | .plain text => [text]
  | .unclosed gap _ => [chopNewline gap]
  | .block gap _ _ rest => chopNewline gap :: kept rest

theorem shown_eq_flatten (layout : Layout Char) : shown layout = (kept layout).flatten := by
  induction layout with
  | plain text => exact (List.append_nil text).symm
  | unclosed gap body => exact (List.append_nil _).symm
  | block gap body trailing rest inductionHypothesis =>
      rw [shown, kept, List.flatten_cons, inductionHypothesis]

theorem chopNewline_starts (gap : Text) : chopNewline gap <+: gap := by
  rcases exists_chopped gap with ⟨newline, _, split⟩
  exact ⟨newline, split.symm⟩

/-- No stretch contains an opener by itself. -/
theorem kept_clean {text : Text} {layout : Layout Char} (laid : Laid stripDelimiters text layout) :
    ∀ piece ∈ kept layout, ¬ dispatchOpen <:+: piece := by
  have chopped : ∀ {text gap after : Text}, cut dispatchOpen text = some (gap, after) →
      ¬ dispatchOpen <:+: chopNewline gap := by
    intro text gap after opens occurs
    exact (cut_sound opens).2.not_occurs stripDelimiters.opener_ne
      (occurs.trans (chopNewline_starts gap).isInfix)
  induction laid with
  | plain opens =>
      intro piece member
      rw [List.mem_singleton.mp member]
      exact cut_eq_none_iff.mp opens
  | unclosed opens closes =>
      intro piece member
      rw [List.mem_singleton.mp member]
      exact chopped opens
  | block opens closes later inductionHypothesis =>
      intro piece member
      rcases List.mem_cons.mp member with rfl | rest
      · exact chopped opens
      · exact inductionHypothesis piece rest

/-- The text on the sides of removed blocks makes up an opener. -/
def JoinsOpener (response : Text) : Prop :=
  Spliced dispatchOpen (kept (scan stripDelimiters response))

theorem dispatchOpen_in_shown_iff (response : Text) :
    dispatchOpen <:+: shown (scan stripDelimiters response) ↔ JoinsOpener response := by
  rw [shown_eq_flatten]
  exact infix_flatten_iff stripDelimiters.opener_ne (kept_clean (scan_laid _ response))

/-- What is shown is no longer than the text. -/
theorem shown_length_le {text : Text} {layout : Layout Char} (laid : Laid stripDelimiters text layout) :
    (shown layout).length ≤ text.length := by
  induction laid with
  | plain => exact Nat.le_refl _
  | @unclosed text gap after opens closes =>
      have chopped := (chopNewline_starts gap).length_le
      have whole := congrArg List.length (cut_sound opens).1
      simp only [shown, List.length_append] at whole ⊢
      omega
  | @block text gap after body rest layout opens closes later inductionHypothesis =>
      have chopped := (chopNewline_starts gap).length_le
      have whole := congrArg List.length (cut_sound opens).1
      have ended := cut_length_lt stripDelimiters.closer_ne closes
      have resumed := congrArg List.length (stripDelimiters.resume_append rest)
      change rest.length < after.length at ended
      simp only [shown, List.length_append] at whole resumed ⊢
      omega

/-- A text that stripping leaves unchanged has no opener. -/
theorem no_opener_of_unchanged {text : Text} (unchanged : stripTaskMarkers text = .returned text) :
    ¬ dispatchOpen <:+: text := by
  intro occurs
  have same := (shown_of_stripTaskMarkers (scan_laid _ text) unchanged).2
  have positive : 0 < dispatchOpen.length := by decide
  cases opens : cut dispatchOpen text with
  | none => exact cut_eq_none_iff.mp opens occurs
  | some parts =>
      rcases parts with ⟨gap, after⟩
      have chopped := (chopNewline_starts gap).length_le
      have whole := congrArg List.length (cut_sound opens).1
      have shorter : (shown (scan stripDelimiters text)).length < text.length := by
        cases closes : cut blockClose after with
        | none =>
            rw [scan_of_unclosed opens closes]
            simp only [shown, List.length_append] at whole ⊢
            omega
        | some ends =>
            rcases ends with ⟨body, rest⟩
            have later := shown_length_le (scan_laid stripDelimiters (dropNewline rest).2)
            have ended := cut_length_lt stripDelimiters.closer_ne closes
            have resumed := congrArg List.length (dropNewline_append rest)
            rw [scan_of_block opens closes]
            simp only [shown, List.length_append] at whole resumed later ⊢
            omega
      rw [same] at shorter
      exact Nat.lt_irrefl _ shorter

theorem unchanged_of_no_opener {text : Text} (absent : ¬ dispatchOpen <:+: text) :
    stripTaskMarkers text = .returned text :=
  stripTaskMarkers_eq (.plain (cut_eq_none_iff.mpr absent))

/-- A response that the stripper returns is free of openers, and stripping it
again changes nothing, exactly when the kept text does not make up an opener;
and so it is with the messages of the run. -/
theorem stripTaskMarkers_complete_iff {response clean : Text}
    (returns : stripTaskMarkers response = .returned clean) :
    (¬ dispatchOpen <:+: clean ↔ ¬ JoinsOpener response) ∧
      (stripTaskMarkers clean = .returned clean ↔ ¬ JoinsOpener response) ∧
      ∀ job texts later, fullResponse job texts = .returned response →
        let run := streamAgentResponse job (.ok (texts.map .text ++ .done :: later))
        (∀ message ∈ run.finalMessages ++ run.assistantTurns, ¬ dispatchOpen <:+: message) ↔
          ¬ JoinsOpener response := by
  have same := (shown_of_stripTaskMarkers (scan_laid _ response) returns).2
  have free : ¬ dispatchOpen <:+: clean ↔ ¬ JoinsOpener response := by
    rw [← dispatchOpen_in_shown_iff, same]
  refine ⟨free, ⟨fun unchanged => free.mp (no_opener_of_unchanged unchanged),
    fun apart => unchanged_of_no_opener (free.mpr apart)⟩, ?_⟩
  intro job texts later full run
  rcases streamAgentResponse_done job texts later with ⟨response', seq, streamed, full', early, effects⟩
  rcases Outcome.returned.inj (full.symm.trans full') with rfl
  have silent := filterMap_streamed early
  have recorded := recordExchange_turns job response clean
  rw [returns] at effects
  have finals : run.finalMessages = [clean] := by
    change (streamAgentResponse job _).effects.filterMap RunEffect.finalMessage? = _
    rw [effects, List.filterMap_append, silent.2, List.filterMap_append, recorded.2]
    rfl
  have turns : run.assistantTurns = job.deviceToken.toList.map fun _ => clean := by
    change (streamAgentResponse job _).effects.filterMap RunEffect.assistantTurn? = _
    rw [effects, List.filterMap_append, silent.1, List.filterMap_append, recorded.1]
    exact List.append_nil _
  rw [← free, finals, turns]
  constructor
  · intro all
    exact all clean List.mem_cons_self
  · intro absent message member
    rcases List.mem_append.mp member with final | turn
    · rw [List.mem_singleton.mp final]
      exact absent
    · rcases List.mem_map.mp turn with ⟨_, _, rfl⟩
      exact absent

/-- A block inside an opener. -/
def splitOpener : Text := "@@dis@@dispatch\nx\n@@endpatch\ny\n@@end".toList

/-- What is left of the response is a block. -/
theorem stripTaskMarkers_splitOpener :
    ∃ clean, stripTaskMarkers splitOpener = .returned clean ∧ dispatchOpen <:+: clean ∧
      stripTaskMarkers clean ≠ .returned clean := by
  refine ⟨"@@dispatch\ny\n@@end".toList, by decide +kernel, ⟨[], "y\n@@end".toList, by decide +kernel⟩, ?_⟩
  decide +kernel

theorem stripTaskMarkers_complete_oneBlock :
    let response := "a\n@@dispatch\nx\n@@end\nb".toList
    stripTaskMarkers response = .returned "ab".toList ∧ ¬ JoinsOpener response ∧
      stripTaskMarkers "ab".toList = .returned "ab".toList := by
  intro response
  have returns : stripTaskMarkers response = .returned "ab".toList := by decide +kernel
  have again : stripTaskMarkers "ab".toList = .returned "ab".toList := by decide +kernel
  exact ⟨returns, (stripTaskMarkers_complete_iff returns).2.1.mp again, again⟩

end Agent
end Rabb1tClaw
