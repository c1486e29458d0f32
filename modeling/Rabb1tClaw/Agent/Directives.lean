import Mathlib.Data.List.TakeWhile
import Rabb1tClaw.Agent.Advanced
import Rabb1tClaw.Foundations.Iteration
import Rabb1tClaw.Foundations.Utf8

namespace Rabb1tClaw
namespace Agent
namespace Directives

open Foundations
open Advanced (Directive directive? fence)

/-!
# Reading directives from a reply

The scanner of `parse_directives` keeps an offset into the reply, and computes
all others from slices that begin at it: the fence, the end of its line, the
content and the closing fence.  `parseDirectives` computes with these offsets
as the source does, where a slice may panic, and `Advanced.parseDirectives`
reads the same directives from the text that remains.

The offset always names a text in front that was read, so no slice panics.
A reply of texts and fenced blocks without other fences is read back.
-/

/-! ## The scanner -/

/-- The variables of the loop. -/
structure Scanner where
  searchFrom : Nat
  directives : List Directive
  deriving DecidableEq, Repr

/-- One pass of the loop. -/
def parseBody (response : Text) (state : Scanner) : Option (Flow Scanner (List Directive)) :=
  if state.searchFrom < Text.len response then do
    let remaining ← Text.sliceFrom response state.searchFrom
    match Text.find fence remaining with
    | none => some (.done state.directives)
    | some fenceStart =>
        let afterFence ← Text.sliceFrom remaining (fenceStart + 3)
        let typeEnd := (Text.find ['\n'] afterFence).getD (Text.len afterFence)
        let fenceType ← Text.sliceTo afterFence typeEnd
        let contentStart := if typeEnd < Text.len afterFence then typeEnd + 1 else typeEnd
        let behindLine ← Text.sliceFrom afterFence contentStart
        match Text.find fence behindLine with
        | none => some (.next { state with searchFrom := state.searchFrom + fenceStart + 3 })
        | some close =>
            let content ← Text.slice afterFence contentStart (contentStart + close)
            some (.next
              ⟨state.searchFrom + (fenceStart + 3 + contentStart + close + 3),
                state.directives ++ (directive? (Text.trim fenceType) (Text.trim content)).toList⟩)
  else
    some (.done state.directives)

/-- `parse_directives`. -/
def parseDirectives (response : Text) : Outcome (List Directive) :=
  iterate (parseBody response) (response.length + 1) ⟨0, []⟩

/-! ## The same on the text that remains -/

/-- The text behind the line of a fence. -/
def contentOf (afterFence : Text) : Text := (afterFence.dropWhile (· ≠ '\n')).drop 1

/-- The type of a fence. -/
def typeOf (afterFence : Text) : Text := afterFence.takeWhile (· ≠ '\n')

section

variable {text before afterFence content later : Text}

theorem read_of_no_fence (opens : cut fence text = none) : Advanced.parseDirectives text = [] := by
  rw [← Advanced.parseDirectivesWithin_eq (Nat.le_succ text.length), Advanced.parseDirectivesWithin, opens]

theorem read_of_unclosed (opens : cut fence text = some (before, afterFence))
    (closes : cut fence (contentOf afterFence) = none) :
    Advanced.parseDirectives text = Advanced.parseDirectives afterFence := by
  have shorter := cut_length_lt (by decide) opens
  rw [← Advanced.parseDirectivesWithin_eq (Nat.le_succ text.length), Advanced.parseDirectivesWithin, opens]
  simp only
  rw [contentOf] at closes
  rw [closes]
  exact Advanced.parseDirectivesWithin_eq (Nat.le_of_lt shorter)

theorem contentOf_length_le (afterFence : Text) : (contentOf afterFence).length ≤ afterFence.length :=
  ((List.drop_suffix 1 _).trans (List.dropWhile_suffix _)).length_le

theorem read_of_block (opens : cut fence text = some (before, afterFence))
    (closes : cut fence (contentOf afterFence) = some (content, later)) :
    Advanced.parseDirectives text =
      (directive? (Text.trim (typeOf afterFence)) (Text.trim content)).toList ++
        Advanced.parseDirectives later := by
  have shorter := cut_length_lt (by decide) opens
  have behind := cut_length_lt (by decide) closes
  have line := contentOf_length_le afterFence
  rw [← Advanced.parseDirectivesWithin_eq (Nat.le_succ text.length), Advanced.parseDirectivesWithin, opens]
  simp only
  rw [contentOf] at closes
  rw [closes, ← Advanced.parseDirectivesWithin_eq (show later.length ≤ text.length by omega)]
  rfl

/-! ## Offsets -/

theorem len_fence : Text.len fence = 3 := rfl

theorem fence_length : fence.length = 3 := rfl

theorem line_of_newline {line : Text} (absent : '\n' ∉ line) (rest : Text) :
    typeOf (line ++ '\n' :: rest) = line ∧ contentOf (line ++ '\n' :: rest) = rest := by
  have differs : ∀ char ∈ line, decide (char ≠ '\n') = true := by
    intro char member
    rw [decide_eq_true_iff]
    rintro rfl
    exact absent member
  constructor
  · rw [typeOf, List.takeWhile_append_of_pos differs]
    exact List.append_nil line
  · rw [contentOf, List.dropWhile_append_of_pos differs]
    rfl

theorem line_of_no_newline (absent : '\n' ∉ afterFence) :
    typeOf afterFence = afterFence ∧ contentOf afterFence = [] := by
  have differs : ∀ char ∈ afterFence, decide (char ≠ '\n') = true := by
    intro char member
    rw [decide_eq_true_iff]
    rintro rfl
    exact absent member
  constructor
  · exact List.takeWhile_eq_self_iff.mpr differs
  · rw [contentOf, List.dropWhile_eq_nil_iff.mpr differs]
    rfl

/-- Where the line of a fence ends, and where the content begins. -/
theorem line_offsets (afterFence : Text) :
    ∃ line, afterFence = line ++ contentOf afterFence ∧ typeOf afterFence <+: afterFence ∧
      (Text.find ['\n'] afterFence).getD (Text.len afterFence) = Text.len (typeOf afterFence) ∧
      (if Text.len (typeOf afterFence) < Text.len afterFence then Text.len (typeOf afterFence) + 1
        else Text.len (typeOf afterFence)) = Text.len line := by
  by_cases present : '\n' ∈ afterFence
  · rcases List.eq_append_cons_of_mem present with ⟨line, rest, rfl, absent⟩
    rcases line_of_newline absent rest with ⟨isType, isContent⟩
    have newline : Text.len ('\n' :: rest) = 1 + Text.len rest := rfl
    have width := Text.len_append line ('\n' :: rest)
    rw [isType, isContent]
    refine ⟨line ++ ['\n'], by simp, List.prefix_append _ _, ?_, ?_⟩
    · rw [Text.find_char absent, Option.getD_some]
    · rw [if_pos (by omega), Text.len_append]
      rfl
  · rcases line_of_no_newline present with ⟨isType, isContent⟩
    rw [isType, isContent]
    refine ⟨afterFence, (List.append_nil _).symm, List.prefix_rfl, ?_, if_neg (Nat.lt_irrefl _)⟩
    rw [Text.find_char_eq_none present, Option.getD_none]

/-- A pass that finds no fence is the last one. -/
theorem pass_of_no_fence (front : Text) (found : List Directive) (opens : cut fence text = none) :
    parseBody (front ++ text) ⟨Text.len front, found⟩ = some (.done found) := by
  simp only [parseBody, Text.sliceFrom_append, Option.bind_eq_bind, Option.bind_some, Text.find, opens,
    Option.map_none, ite_self]

/-- A pass that finds a fence reads the line behind it and looks for the closing
fence in what follows. -/
theorem pass_of_fence (front : Text) (found : List Directive) (opens : cut fence text = some (before, afterFence)) :
    ∃ line, afterFence = line ++ contentOf afterFence ∧
      parseBody (front ++ text) ⟨Text.len front, found⟩ =
        match cut fence (contentOf afterFence) with
        | none => some (.next ⟨Text.len front + Text.len before + 3, found⟩)
        | some (content, _) =>
            some (.next ⟨Text.len front + (Text.len before + 3 + Text.len line + Text.len content + 3),
              found ++ (directive? (Text.trim (typeOf afterFence)) (Text.trim content)).toList⟩) := by
  rcases line_offsets afterFence with ⟨line, split, ⟨tail, starts⟩, typeEnd, contentStart⟩
  have whole := (cut_sound opens).1
  have width : Text.len text = Text.len before + (3 + Text.len afterFence) := by
    rw [whole, Text.len_append, Text.len_append, len_fence]
  have inside : Text.len front < Text.len (front ++ text) := by
    rw [Text.len_append]
    omega
  have behindFence : Text.sliceFrom text (Text.len before + 3) = some afterFence := by
    rw [whole, ← List.append_assoc, ← len_fence, ← Text.len_append]
    exact Text.sliceFrom_append _ afterFence
  have onLine := Text.sliceTo_append (typeOf afterFence) tail
  rw [starts] at onLine
  have behindLine := Text.sliceFrom_append line (contentOf afterFence)
  rw [← split] at behindLine
  have starts' : Text.find fence text = some (Text.len before) := by rw [Text.find, opens]; rfl
  refine ⟨line, split, ?_⟩
  simp only [parseBody, if_pos inside, Text.sliceFrom_append, Option.bind_eq_bind, Option.bind_some, starts',
    behindFence, typeEnd, onLine, contentStart, behindLine]
  cases closes : cut fence (contentOf afterFence) with
  | none => rw [Text.find, closes]; rfl
  | some parts =>
      rcases parts with ⟨content, later⟩
      have found' : Text.find fence (contentOf afterFence) = some (Text.len content) := by
        rw [Text.find, closes]
        rfl
      have taken := Text.slice_append line content (fence ++ later)
      rw [← (cut_sound closes).1, ← split] at taken
      rw [found']
      simp only [taken, Option.bind_some]

/-- The loop reads the directives of the text that remains. -/
theorem scanner_settles (front text : Text) (found : List Directive) :
    ∃ passes ≤ text.length + 1, Settles (parseBody (front ++ text)) passes ⟨Text.len front, found⟩
      (.returned (found ++ Advanced.parseDirectives text)) := by
  induction size : text.length using Nat.strongRecOn generalizing front text found with
  | ind size inductionHypothesis =>
      cases opens : cut fence text with
      | none =>
          refine ⟨1, Nat.le_add_left 1 _, ?_⟩
          rw [read_of_no_fence opens, List.append_nil]
          exact .done (pass_of_no_fence front found opens)
      | some parts =>
          rcases parts with ⟨before, afterFence⟩
          have whole := (cut_sound opens).1
          have shorter := cut_length_lt (by decide) opens
          rcases pass_of_fence front found opens with ⟨line, split, pass⟩
          cases closes : cut fence (contentOf afterFence) with
          | none =>
              have read : front ++ text = front ++ (before ++ fence) ++ afterFence := by
                rw [whole]
                simp only [List.append_assoc]
              have width : Text.len front + Text.len before + 3 = Text.len (front ++ (before ++ fence)) := by
                rw [Text.len_append, Text.len_append, len_fence, Nat.add_assoc]
              rw [closes] at pass
              simp only [width] at pass
              rcases inductionHypothesis afterFence.length (size ▸ shorter) (front ++ (before ++ fence)) afterFence
                found rfl with ⟨passes, bounded, settles⟩
              rw [← read] at settles
              refine ⟨passes + 1, by omega, ?_⟩
              rw [read_of_unclosed opens closes]
              exact .next pass settles
          | some parts =>
              rcases parts with ⟨content, later⟩
              have behind := (cut_sound closes).1
              have shorter' := cut_length_lt (by decide) closes
              have line' := contentOf_length_le afterFence
              have read : front ++ text =
                  front ++ (before ++ (fence ++ (line ++ (content ++ fence)))) ++ later := by
                rw [whole, split, behind]
                simp only [List.append_assoc]
              have width : Text.len front + (Text.len before + 3 + Text.len line + Text.len content + 3) =
                  Text.len (front ++ (before ++ (fence ++ (line ++ (content ++ fence))))) := by
                simp only [Text.len_append, len_fence]
                omega
              rw [closes] at pass
              simp only [width] at pass
              rcases inductionHypothesis later.length (by omega)
                (front ++ (before ++ (fence ++ (line ++ (content ++ fence))))) later
                (found ++ (directive? (Text.trim (typeOf afterFence)) (Text.trim content)).toList) rfl with
                ⟨passes, bounded, settles⟩
              rw [← read] at settles
              refine ⟨passes + 1, by omega, ?_⟩
              rw [read_of_block opens closes, ← List.append_assoc]
              exact .next pass settles

/-- No slice panics, and the offsets read what the remaining text has. -/
theorem parseDirectives_eq (response : Text) :
    parseDirectives response = .returned (Advanced.parseDirectives response) := by
  rcases scanner_settles [] response [] with ⟨passes, bounded, settles⟩
  exact iterate_of_settles settles bounded

end

/-! ## Replies that are read back -/

/-- A text without a fence, behind which a fence is not read too early. -/
structure Plain (text : Text) : Prop where
  noFence : ¬ "```".toList <:+: text
  noBacktick : text.getLast? ≠ some '`'

/-- A fenced block and the text behind it. -/
structure FencedBlock where
  label : Text
  body : Text
  following : Text
  label_newline : '\n' ∉ label
  body_plain : Plain body
  following_plain : Plain following

/-- A reply of texts and blocks in turn. -/
structure Reply where
  opening : Text
  blocks : List FencedBlock
  opening_plain : Plain opening

def FencedBlock.text (block : FencedBlock) : Text :=
  "```".toList ++ (block.label ++ '\n' :: (block.body ++ "```".toList))

def Reply.text (reply : Reply) : Text :=
  reply.opening ++ reply.blocks.flatMap fun block => block.text ++ block.following

/-- The directive that a block spells out. -/
def FencedBlock.directive? (block : FencedBlock) : Option Directive :=
  let body := Text.trim block.body
  if Text.trim block.label = "code".toList then some (.code body)
  else if Text.trim block.label = "search".toList then some (.search body)
  else if Text.trim block.label = "question".toList then some (.question body)
  else if Text.trim block.label = "done".toList then some (.done body)
  else none

/-- A fence begins behind a plain text, and not inside of it. -/
theorem Plain.avoids {text : Text} (plain : Plain text) (rest : Text) : Avoids fence text (fence ++ rest) := by
  apply Avoids.of_suffixes
  rintro suffix ⟨before, split⟩ nonempty starts
  by_cases long : 3 ≤ suffix.length
  · have within : fence <+: suffix :=
      List.prefix_of_prefix_length_le starts (List.prefix_append suffix _) long
    exact plain.noFence (within.isInfix.trans ⟨before, [], by rw [List.append_nil, split]⟩)
  · have short : suffix <+: fence :=
      List.prefix_of_prefix_length_le (List.prefix_append suffix _) starts (by simp only [fence_length]; omega)
    have last : suffix.getLast nonempty = '`' := by
      have member := short.subset (List.getLast_mem nonempty)
      simpa [fence] using member
    apply plain.noBacktick
    rw [← split, List.getLast?_append, List.getLast?_eq_some_getLast nonempty, last]
    rfl

/-- A reply that ends with a plain text. -/
theorem read_of_plain {text : Text} (plain : Plain text) : Advanced.parseDirectives text = [] :=
  read_of_no_fence (cut_eq_none_iff.mpr plain.noFence)

/-- The block behind a plain text is read first. -/
theorem read_block {opening : Text} (plain : Plain opening) (block : FencedBlock) (rest : Text) :
    Advanced.parseDirectives (opening ++ (block.text ++ rest)) =
      block.directive?.toList ++ Advanced.parseDirectives rest := by
  have regroup : block.text ++ rest =
      fence ++ (block.label ++ '\n' :: (block.body ++ (fence ++ rest))) := by
    simp only [FencedBlock.text, fence, List.append_assoc, List.cons_append]
  have opens := cut_of_avoids (block.label ++ '\n' :: (block.body ++ (fence ++ rest))) (plain.avoids _)
  have closes := cut_of_avoids rest (block.body_plain.avoids rest)
  rcases line_of_newline block.label_newline (block.body ++ (fence ++ rest)) with ⟨isType, isContent⟩
  rw [← isContent] at closes
  rw [regroup, read_of_block opens closes, isType]
  rfl

/-- The directives of the blocks are read in order. -/
theorem read_blocks {opening : Text} (plain : Plain opening) (blocks : List FencedBlock) :
    Advanced.parseDirectives (opening ++ blocks.flatMap fun block => block.text ++ block.following) =
      blocks.filterMap FencedBlock.directive? := by
  induction blocks generalizing opening with
  | nil =>
      rw [List.flatMap_nil, List.append_nil]
      exact read_of_plain plain
  | cons block blocks inductionHypothesis =>
      rw [List.flatMap_cons, List.append_assoc, read_block plain, inductionHypothesis block.following_plain]
      cases named : block.directive? with
      | none => rw [List.filterMap_cons_none named]; rfl
      | some directive => rw [List.filterMap_cons_some named]; rfl

/-- A reply is read back exactly, and no text makes the scanner panic or run
on. -/
theorem parseDirectives_reads_back :
    (∀ reply : Reply, parseDirectives reply.text = .returned (reply.blocks.filterMap fun block =>
        if Text.trim block.label = "code".toList then some (.code (Text.trim block.body))
        else if Text.trim block.label = "search".toList then some (.search (Text.trim block.body))
        else if Text.trim block.label = "question".toList then some (.question (Text.trim block.body))
        else if Text.trim block.label = "done".toList then some (.done (Text.trim block.body))
        else none)) ∧
      ∀ response, ∃ directives, parseDirectives response = .returned directives := by
  refine ⟨fun reply => ?_, fun response => ⟨_, parseDirectives_eq response⟩⟩
  rw [parseDirectives_eq]
  exact congrArg Outcome.returned (read_blocks reply.opening_plain reply.blocks)

end Directives
end Agent
end Rabb1tClaw
