import Mathlib.Data.List.Basic
import Rabb1tClaw.Foundations.Utf8

namespace Rabb1tClaw
namespace Agent
namespace Search

open Foundations

/-!
# JSON in a reply

The plan of a search is cut out of a reply of a language model: out of a
fenced block with the tag for JSON, or else out of any fenced block, or else
from the first opening brace to the last closing one.

The two searches for braces know nothing of each other.  Where the last
closing brace stands before the first opening one, with something in between,
the slice ends before it starts, and the function panics.
-/

/-! ## The three strategies -/

def fence : Text := "```".toList

/-- `none` is a panic; without a block the next strategy is tried. -/
def fencedBlock (opener : Text) (width : Nat) (skip : Text → Option Text) (trimmed : Text) :
    Option (Option Text) :=
  match Text.find opener trimmed with
  | none => some none
  | some start => do
      let after ← Text.sliceFrom trimmed (start + width)
      let after ← skip after
      match Text.find fence after with
      | none => some none
      | some stop => (Text.sliceTo after stop).map fun block => some (Text.trim block)

/-- JSON within fences with the tag. -/
def jsonFence : Text → Option (Option Text) := fencedBlock "```json".toList 7 some

/-- Skip the rest of the line of the fence, if another line follows. -/
def skipTag (after : Text) : Option Text :=
  match Text.find ['\n'] after with
  | none => some after
  | some newline => Text.sliceFrom after (newline + 1)

/-- Plain fences. -/
def plainFence : Text → Option (Option Text) := fencedBlock "```".toList 3 skipTag

/-- A raw JSON object. -/
def rawObject (trimmed : Text) : Option Text :=
  match Text.find ['{'] trimmed with
  | none => some trimmed
  | some start =>
      match Text.rfind ['}'] trimmed with
      | none => some trimmed
      | some stop => Text.slice trimmed start (stop + 1)

/-- `extract_json`, or `none` where a slice panics. -/
def extractJson (response : Text) : Option Text :=
  let trimmed := Text.trim response
  match jsonFence trimmed with
  | none => none
  | some (some json) => some json
  | some none =>
      match plainFence trimmed with
      | none => none
      | some (some json) => some json
      | some none => rawObject trimmed

/-! ## When a slice panics -/

/-- What follows the line of a fence. -/
def behindLine (after : Text) : Text := ((cut ['\n'] after).map Prod.snd).getD after

/-- The text has an opening fence and, behind its tag, a closing one. -/
def Fenced (opener : Text) (behind : Text → Text) (text : Text) : Prop :=
  ∃ before after, text = before ++ (opener ++ after) ∧ fence <:+: behind after

/-- The last closing brace stands before the first opening one, and they do
not touch. -/
def BracesCross (text : Text) : Prop :=
  ∃ before middle after, text = before ++ '}' :: (middle ++ '{' :: after) ∧ middle ≠ [] ∧
    '{' ∉ before ++ middle ∧ '}' ∉ middle ++ after

/-- Neither kind of fence is there, and the braces cross. -/
def Crossed (response : Text) : Prop :=
  ¬ Fenced "```json".toList id (Text.trim response) ∧ ¬ Fenced "```".toList behindLine (Text.trim response) ∧
    BracesCross (Text.trim response)

/-! ## Fenced blocks -/

/-- A skip returns what is behind the tag, an end of the text that is the
longer, the longer the text. -/
structure Skips (skip : Text → Option Text) (behind : Text → Text) : Prop where
  returns : ∀ after, skip after = some (behind after)
  suffix : ∀ after, behind after <:+ after
  mono : ∀ {shorter after}, shorter <:+ after → behind shorter <:+ behind after

theorem skips_nothing : Skips some id := ⟨fun _ => rfl, fun _ => List.suffix_rfl, id⟩

theorem behindLine_of_line {line : Text} (absent : '\n' ∉ line) (rest : Text) :
    behindLine (line ++ '\n' :: rest) = rest := by
  rw [behindLine, cut_of_not_mem absent rest]
  rfl

theorem behindLine_of_no_line {after : Text} (absent : '\n' ∉ after) : behindLine after = after := by
  have nowhere : ¬ ['\n'] <:+: after := fun occurs => absent (occurs.subset List.mem_cons_self)
  rw [behindLine, cut_eq_none_iff.mpr nowhere]
  rfl

theorem skips_line : Skips skipTag behindLine where
  returns after := by
    by_cases present : '\n' ∈ after
    · rcases List.eq_append_cons_of_mem present with ⟨line, rest, rfl, absent⟩
      have width : Text.len line + 1 = Text.len (line ++ ['\n']) := by
        rw [Text.len_append]
        rfl
      rw [skipTag, Text.find_char absent, behindLine_of_line absent]
      simp only [width]
      rw [show line ++ '\n' :: rest = (line ++ ['\n']) ++ rest by simp]
      exact Text.sliceFrom_append _ rest
    · rw [skipTag, Text.find_char_eq_none present, behindLine_of_no_line present]
  suffix after := by
    by_cases present : '\n' ∈ after
    · rcases List.eq_append_cons_of_mem present with ⟨line, rest, rfl, absent⟩
      rw [behindLine_of_line absent]
      exact (List.suffix_cons _ _).trans (List.suffix_append _ _)
    · exact ⟨[], behindLine_of_no_line present⟩
  mono := by
    rintro shorter _ ⟨front, rfl⟩
    by_cases within : '\n' ∈ front
    · rcases List.eq_append_cons_of_mem within with ⟨line, rest, rfl, absent⟩
      rw [List.append_assoc, List.cons_append, behindLine_of_line absent]
      by_cases present : '\n' ∈ shorter
      · rcases List.eq_append_cons_of_mem present with ⟨line', rest', rfl, absent'⟩
        rw [behindLine_of_line absent']
        exact ((List.suffix_cons _ _).trans (List.suffix_append _ _)).trans (List.suffix_append _ _)
      · rw [behindLine_of_no_line present]
        exact List.suffix_append _ _
    · by_cases present : '\n' ∈ shorter
      · rcases List.eq_append_cons_of_mem present with ⟨line', rest', rfl, absent'⟩
        have absent : '\n' ∉ front ++ line' := by simp [within, absent']
        refine ⟨[], ?_⟩
        rw [List.nil_append, behindLine_of_line absent', ← List.append_assoc, behindLine_of_line absent]
      · have absent : '\n' ∉ front ++ shorter := by simp [within, present]
        rw [behindLine_of_no_line present, behindLine_of_no_line absent]
        exact List.suffix_append _ _

/-- Specification of the fenced block: it never panics, and it is there, inside
of the text, exactly when the text is fenced. -/
theorem fencedBlock_spec (opener : Text) {width : Nat} {skip : Text → Option Text} {behind : Text → Text}
    (skips : Skips skip behind) (size : Text.len opener = width) (text : Text) :
    (∃ json, fencedBlock opener width skip text = some (some json) ∧ json <:+: text ∧
        json.length + opener.length ≤ text.length ∧ Fenced opener behind text) ∨
      fencedBlock opener width skip text = some none ∧ ¬ Fenced opener behind text := by
  cases opens : cut opener text with
  | none =>
      refine .inr ⟨by rw [fencedBlock, Text.find, opens]; rfl, ?_⟩
      rintro ⟨before, after, rfl, _⟩
      exact cut_eq_none_iff.mp opens ⟨before, after, List.append_assoc _ _ _⟩
  | some parts =>
      rcases parts with ⟨before, after⟩
      have whole := (cut_sound opens).1
      have start : text.sliceFrom (Text.len before + width) = some after := by
        rw [← size, ← Text.len_append, whole, ← List.append_assoc]
        exact Text.sliceFrom_append _ after
      have skipped : fencedBlock opener width skip text =
          match Text.find fence (behind after) with
          | none => some none
          | some stop => (Text.sliceTo (behind after) stop).map fun block => some (Text.trim block) := by
        simp only [fencedBlock, Text.find, opens, Option.map_some, start, skips.returns, Option.bind_eq_bind,
          Option.bind_some]
      rw [skipped, Text.find]
      cases closes : cut fence (behind after) with
      | none =>
          refine .inr ⟨rfl, ?_⟩
          rintro ⟨before', after', rfl, fenced⟩
          rcases exists_cut_of_occurs opener before' after' with ⟨first, rest, found, covers⟩
          rcases (Prod.mk.injEq _ _ _ _).mp (Option.some.inj (opens.symm.trans found)) with ⟨rfl, rfl⟩
          exact cut_eq_none_iff.mp closes (fenced.trans (skips.mono covers).isInfix)
      | some halves =>
          rcases halves with ⟨block, rest⟩
          have split := (cut_sound closes).1
          have stop : Text.sliceTo (behind after) (Text.len block) = some block := by
            rw [split]
            exact Text.sliceTo_append block _
          have inner : block <:+: behind after := ⟨[], fence ++ rest, by rw [split, List.nil_append]⟩
          have within : Text.trim block <:+: after :=
            ((Text.trim_infix block).trans inner).trans (skips.suffix after).isInfix
          have outer : after <:+: text := ⟨before ++ opener, [], by rw [whole]; simp⟩
          refine .inl ⟨Text.trim block, ?_, within.trans outer, ?_, before, after, whole, ?_⟩
          · simp only [Option.map_some, stop]
          · have short := within.length_le
            rw [whole]
            simp only [List.length_append]
            omega
          · exact ⟨block, rest, by rw [split, List.append_assoc]⟩

theorem jsonFence_spec (text : Text) :
    (∃ json, jsonFence text = some (some json) ∧ json <:+: text ∧ json.length + 7 ≤ text.length ∧
        Fenced "```json".toList id text) ∨
      jsonFence text = some none ∧ ¬ Fenced "```json".toList id text :=
  fencedBlock_spec "```json".toList skips_nothing rfl text

theorem plainFence_spec (text : Text) :
    (∃ json, plainFence text = some (some json) ∧ json <:+: text ∧ json.length + 3 ≤ text.length ∧
        Fenced "```".toList behindLine text) ∨
      plainFence text = some none ∧ ¬ Fenced "```".toList behindLine text :=
  fencedBlock_spec "```".toList skips_line rfl text

/-! ## Braces -/

/-- What the two searches find, when they find something. -/
theorem exists_braces {text : Text} (opens : '{' ∈ text) (closes : '}' ∈ text) :
    (∃ before inner after, text = before ++ '{' :: (inner ++ '}' :: after) ∧ '{' ∉ before ∧ '}' ∉ after) ∨
      ∃ before middle after, text = before ++ '}' :: (middle ++ '{' :: after) ∧ '{' ∉ before ++ middle ∧
        '}' ∉ middle ++ after := by
  rcases List.eq_append_cons_of_mem opens with ⟨front, behind, split, first⟩
  rcases List.eq_append_cons_of_mem (List.mem_reverse.mpr closes) with ⟨backwards, forwards, turned, last⟩
  have split' : text = forwards.reverse ++ '}' :: backwards.reverse := by
    rw [← text.reverse_reverse, turned]
    simp
  have last' : '}' ∉ backwards.reverse := mt List.mem_reverse.mp last
  rcases List.append_eq_append_iff.mp (split.symm.trans split') with ⟨more, front', rest⟩ | ⟨more, front', rest⟩
  · cases more with
    | nil => cases (List.cons.inj rest).1
    | cons brace inner =>
        rcases List.cons.inj rest with ⟨rfl, rfl⟩
        exact .inl ⟨front, inner, _, split, first, last'⟩
  · cases more with
    | nil => cases (List.cons.inj rest).1
    | cons brace middle =>
        rcases List.cons.inj rest with ⟨rfl, tail⟩
        refine .inr ⟨forwards.reverse, middle, behind, ?_, ?_, ?_⟩
        · rw [split, front']
          simp
        · rw [front'] at first
          simpa using first
        · rw [tail] at last'
          simpa using last'

/-- Where the closing brace stands first, the searches find both braces. -/
theorem searches_turned {before middle after : Text} (first : '{' ∉ before ++ middle)
    (last : '}' ∉ middle ++ after) :
    Text.find ['{'] (before ++ '}' :: (middle ++ '{' :: after)) = some (Text.len before + 1 + Text.len middle) ∧
      Text.rfind ['}'] (before ++ '}' :: (middle ++ '{' :: after)) = some (Text.len before) := by
  have absent : '{' ∉ before ++ '}' :: middle := by simpa using first
  have absent' : '}' ∉ middle ++ '{' :: after := by simpa using last
  have whole : before ++ '}' :: (middle ++ '{' :: after) = (before ++ '}' :: middle) ++ '{' :: after := by simp
  have brace : Char.utf8Size '}' = 1 := rfl
  refine ⟨?_, Text.rfind_char before absent'⟩
  rw [whole, Text.find_char absent, Text.len_append, Text.len_cons, brace, Nat.add_assoc]

/-- Braces that cross are found in the wrong order. -/
theorem BracesCross.searches {text : Text} (cross : BracesCross text) :
    ∃ start stop, Text.find ['{'] text = some start ∧ Text.rfind ['}'] text = some stop ∧ stop + 1 < start := by
  rcases cross with ⟨before, middle, after, rfl, nonempty, first, last⟩
  rcases searches_turned first last with ⟨start, stop⟩
  have wide : Text.len middle ≠ 0 := mt Text.len_eq_zero_iff.mp nonempty
  exact ⟨_, _, start, stop, by omega⟩

theorem rawObject_of_searches {text : Text} {start stop : Nat} (starts : Text.find ['{'] text = some start)
    (stops : Text.rfind ['}'] text = some stop) : rawObject text = Text.slice text start (stop + 1) := by
  simp only [rawObject, starts, stops]

/-- An opening brace before the last closing one starts an object. -/
theorem rawObject_of_object {before inner after : Text} (first : '{' ∉ before) (last : '}' ∉ after) :
    rawObject (before ++ '{' :: (inner ++ '}' :: after)) = some ('{' :: inner ++ ['}']) := by
  have brace : Text.len ['}'] = 1 := rfl
  have regroup : before ++ '{' :: (inner ++ '}' :: after) = (before ++ '{' :: inner) ++ '}' :: after := by simp
  have starts := Text.find_char first (inner ++ '}' :: after)
  have stops : Text.rfind ['}'] (before ++ '{' :: (inner ++ '}' :: after)) =
      some (Text.len (before ++ '{' :: inner)) := by
    rw [regroup]
    exact Text.rfind_char _ last
  rw [rawObject_of_searches starts stops]
  refine Text.slice_eq_some_iff.mpr ⟨before, after, by simp, rfl, ?_⟩
  rw [Text.len_append, Text.len_append, brace, Nat.add_assoc]

/-- Braces that touch the wrong way around leave the empty slice between them. -/
theorem rawObject_of_touching {before after : Text} (first : '{' ∉ before) (last : '}' ∉ after) :
    rawObject (before ++ '}' :: '{' :: after) = some [] := by
  have first' : '{' ∉ before ++ [] := by simpa using first
  have last' : '}' ∉ [] ++ after := by simpa using last
  rcases searches_turned first' last' with ⟨starts, stops⟩
  refine (rawObject_of_searches starts stops).trans ?_
  refine Text.slice_eq_some_iff.mpr ⟨before ++ ['}'], '{' :: after, by simp, ?_, rfl⟩
  rw [Text.len_append]
  rfl

/-- Where the braces cross, the slice ends before it starts. -/
theorem rawObject_of_cross {text : Text} (cross : BracesCross text) : rawObject text = none := by
  rcases cross.searches with ⟨start, stop, starts, stops, inverted⟩
  rcases cross with ⟨before, middle, after, rfl, _, first, last⟩
  rcases Option.some.inj ((searches_turned first last).2.symm.trans stops) with rfl
  have width : Text.len before + 1 = Text.len (before ++ ['}']) := by
    rw [Text.len_append]
    rfl
  have whole : before ++ '}' :: (middle ++ '{' :: after) = (before ++ ['}']) ++ (middle ++ '{' :: after) := by
    simp
  rw [rawObject_of_searches starts stops, width, whole]
  rw [width] at inverted
  exact Text.slice_of_lt _ _ inverted

/-- Specification of the raw object: it panics exactly when the braces cross. -/
theorem rawObject_spec (text : Text) :
    (∃ json, rawObject text = some json ∧ json <:+: text ∧ ¬ BracesCross text) ∨
      rawObject text = none ∧ BracesCross text := by
  by_cases cross : BracesCross text
  · exact .inr ⟨rawObject_of_cross cross, cross⟩
  · by_cases opens : '{' ∈ text
    · by_cases closes : '}' ∈ text
      · rcases exists_braces opens closes with
          ⟨before, inner, after, rfl, first, last⟩ | ⟨before, middle, after, rfl, first, last⟩
        · exact .inl ⟨_, rawObject_of_object first last, ⟨before, after, by simp⟩, cross⟩
        · by_cases touching : middle = []
          · subst touching
            rw [List.append_nil] at first
            exact .inl ⟨[], rawObject_of_touching first last, List.nil_infix, cross⟩
          · exact absurd ⟨before, middle, after, rfl, touching, first, last⟩ cross
      · refine .inl ⟨text, ?_, List.infix_rfl, cross⟩
        rw [rawObject, Text.rfind_char_eq_none closes]
        cases Text.find ['{'] text <;> rfl
    · exact .inl ⟨text, by rw [rawObject, Text.find_char_eq_none opens], List.infix_rfl, cross⟩

/-- Specification of the function: it returns a part of the reply, or panics,
exactly when the braces cross outside of fences. -/
theorem extractJson_spec (response : Text) :
    (∃ json, extractJson response = some json ∧ json <:+: Text.trim response ∧ ¬ Crossed response) ∨
      extractJson response = none ∧ Crossed response := by
  simp only [extractJson]
  rcases jsonFence_spec (Text.trim response) with ⟨json, returns, within, _, fenced⟩ | ⟨passes, unfenced⟩
  · exact .inl ⟨json, by rw [returns], within, fun crossed => crossed.1 fenced⟩
  · rw [passes]
    rcases plainFence_spec (Text.trim response) with ⟨json, returns, within, _, fenced⟩ | ⟨passes', unfenced'⟩
    · exact .inl ⟨json, by rw [returns], within, fun crossed => crossed.2.1 fenced⟩
    · rw [passes']
      rcases rawObject_spec (Text.trim response) with ⟨json, returns, within, ordered⟩ | ⟨panics, cross⟩
      · exact .inl ⟨json, returns, within, fun crossed => ordered crossed.2.2⟩
      · exact .inr ⟨panics, unfenced, unfenced', cross⟩

end Search
end Agent
end Rabb1tClaw
