import Rabb1tClaw.Agent.BlockLayout

namespace Rabb1tClaw
namespace Agent

open Foundations

/-!
# The dispatch format as a data format

A response is free text around blocks, and a block is a JSON array of markers
between an opener and a closing marker.  `render` writes such a response; the
theorem of this module is that the parser reads it back.

The serializer is a parameter, like the parser of JSON.  What the format needs
of it is little: parsing undoes it on arrays of markers, its text has no raw
newline, and an array is written between brackets.  The first condition is
about contents, the other two keep the closing marker and the trimming away
from them.  Openers are different: nothing stops free text from containing
one, so the round trip is about responses in which the blocks' openers are the
only ones.
-/

/-- `serde_json::to_string` of an array of values. -/
abbrev RenderArray := List JsonValue → Text

/-- The JSON object of a marker, with its keys in the order of the map. -/
def markerValue : TaskMarker → JsonValue
  | .dispatch taskType desc =>
      .object [("desc".toList, .string desc), ("type".toList, .string taskType)]
  | .answer id answer =>
      .object [("answer".toList, .string answer), ("id".toList, .number (.posInt id.toUInt64))]

/-- A block of a response: the free text before it, and its markers. -/
structure Block where
  gap : Text
  markers : List TaskMarker
  deriving DecidableEq, Repr

namespace Block

/-- The content of a block. -/
def content (toString : RenderArray) (block : Block) : Text :=
  toString (block.markers.map markerValue)

end Block

/-- A response with the given blocks and the free text behind them. -/
def render (toString : RenderArray) (tail : Text) : List Block → Text
  | [] => tail
  | block :: blocks =>
      block.gap ++ (dispatchOpen ++ (block.content toString ++
        (blockClose ++ render toString tail blocks)))

/-- The positions of the blocks' openers in a response that starts at a
position. -/
def openerPositions (toString : RenderArray) (start : Nat) : List Block → List Nat
  | [] => []
  | block :: blocks =>
      let opener := start + block.gap.length
      opener :: openerPositions toString
        (opener + dispatchOpen.length + (block.content toString).length + blockClose.length) blocks

/-- Every opener in a text that starts at a position is one of the given
positions. -/
def OpenersAt (start : Nat) (text : Text) (positions : List Nat) : Prop :=
  ∀ before after, text = before ++ (dispatchOpen ++ after) → start + before.length ∈ positions

theorem openersAt_iff {start : Nat} {text : Text} {positions : List Nat} :
    OpenersAt start text positions ↔
      ∀ position < text.length, dispatchOpen <+: text.drop position → start + position ∈ positions := by
  constructor
  · rintro only position inside ⟨after, occurs⟩
    have here := only (text.take position) after (by rw [occurs, List.take_append_drop])
    rwa [List.length_take, Nat.min_eq_left (Nat.le_of_lt inside)] at here
  · intro only before after split
    have positive : 0 < dispatchOpen.length := by decide
    apply only before.length
    · rw [split]
      simp only [List.length_append]
      omega
    · rw [split, List.drop_left]
      exact List.prefix_append _ _

instance (start : Nat) (text : Text) (positions : List Nat) :
    Decidable (OpenersAt start text positions) :=
  decidable_of_iff _ openersAt_iff.symm

/-! ## Markers and their values -/

/-- An identifier that fits is not saturated. -/
theorem saturateU32_toUInt64 (id : UInt32) : saturateU32 id.toUInt64 = id := by
  have fits : id.toUInt64.toNat < UInt32.size := by
    rw [UInt32.toNat_toUInt64]
    exact id.toNat_lt
  rw [saturateU32, if_pos fits, UInt32.toUInt32_toUInt64]

theorem classifyMarker_markerValue (marker : TaskMarker) :
    classifyMarker (markerValue marker) = some marker := by
  cases marker with
  | dispatch taskType desc => rfl
  | answer id answer =>
      have read : classifyMarker (markerValue (.answer id answer)) =
          some (.answer (saturateU32 id.toUInt64) answer) := rfl
      rw [read, saturateU32_toUInt64]

theorem filterMap_markerValue (markers : List TaskMarker) :
    (markers.map markerValue).filterMap classifyMarker = markers := by
  induction markers with
  | nil => rfl
  | cons marker markers inductionHypothesis =>
      rw [List.map_cons, List.filterMap_cons, classifyMarker_markerValue, inductionHypothesis]

/-- Text between brackets has no white space to trim. -/
theorem trim_bracketed (inner : Text) : Text.trim ('[' :: (inner ++ [']'])) = '[' :: (inner ++ [']']) := by
  have front : Text.trimStart ('[' :: (inner ++ [']'])) = '[' :: (inner ++ [']']) :=
    List.dropWhile_cons_of_neg (by decide)
  have reversed : List.reverse ('[' :: (inner ++ [']'])) = ']' :: (inner.reverse ++ ['[']) := by
    simp
  rw [Text.trim, front, Text.trimEnd, reversed, List.dropWhile_cons_of_neg (by decide), ← reversed,
    List.reverse_reverse]

/-! ## The round trip -/

section RoundTrip

variable {toString : RenderArray} {fromStr : ParseArray}

/-- The layout of a rendered response. -/
def renderedLayout (toString : RenderArray) (tail : Text) : List Block → Layout Char
  | [] => .plain tail
  | block :: blocks =>
      .block block.gap (block.content toString) [] (renderedLayout toString tail blocks)

/-- Positions inside a rendered response lie behind its start. -/
theorem openerPositions_ge (start : Nat) (blocks : List Block) :
    ∀ position ∈ openerPositions toString start blocks, start ≤ position := by
  induction blocks generalizing start with
  | nil => exact fun _ member => absurd member List.not_mem_nil
  | cons block blocks inductionHypothesis =>
      intro position member
      rcases List.mem_cons.mp member with rfl | later
      · exact Nat.le_add_right _ _
      · have behind := inductionHypothesis _ position later
        omega

theorem avoids_gap {start : Nat} {text rest gap : Text} {positions : List Nat}
    (only : OpenersAt start text positions) (split : text = gap ++ rest)
    (behind : ∀ position ∈ positions, start + gap.length ≤ position) :
    Avoids dispatchOpen gap rest := by
  apply Avoids.of_suffixes
  rintro suffix ⟨before, isGap⟩ nonempty ⟨after, occurs⟩
  have here := only before after (by
    rw [split, ← isGap, List.append_assoc, occurs])
  have late := behind _ here
  have positive := List.length_pos_iff.mpr nonempty
  rw [← isGap, List.length_append] at late
  omega

/-- The parser finds the blocks of a rendered response and no others. -/
theorem render_laid (tail : Text) (blocks : List Block) (start : Nat)
    (noNewline : ∀ block ∈ blocks, '\n' ∉ block.content toString)
    (only : OpenersAt start (render toString tail blocks) (openerPositions toString start blocks)) :
    Laid parseDelimiters (render toString tail blocks) (renderedLayout toString tail blocks) := by
  induction blocks generalizing start with
  | nil =>
      apply Laid.plain
      rw [cut_eq_none_iff]
      rintro ⟨before, after, occurs⟩
      have impossible := only before after (by
        rw [← List.append_assoc]
        exact occurs.symm)
      cases impossible
  | cons block blocks inductionHypothesis =>
      have opens : Avoids dispatchOpen block.gap (dispatchOpen ++ (block.content toString ++
          (blockClose ++ render toString tail blocks))) := by
        apply avoids_gap only rfl
        intro position member
        rcases List.mem_cons.mp member with rfl | later
        · exact Nat.le_refl _
        · have behind := openerPositions_ge _ blocks position later
          omega
      have closes : Avoids blockClose (block.content toString)
          (blockClose ++ render toString tail blocks) :=
        Avoids.of_head_not_mem _ (noNewline block List.mem_cons_self)
      have later : OpenersAt (start + block.gap.length + dispatchOpen.length +
            (block.content toString).length + blockClose.length)
          (render toString tail blocks)
          (openerPositions toString (start + block.gap.length + dispatchOpen.length +
            (block.content toString).length + blockClose.length) blocks) := by
        intro before after occurs
        have here := only (block.gap ++ (dispatchOpen ++ (block.content toString ++
          (blockClose ++ before)))) after (by simp [render, occurs])
        simp only [List.length_append] at here
        rcases List.mem_cons.mp here with same | inside
        · have positive : 0 < dispatchOpen.length := by decide
          omega
        · have shifted : start + block.gap.length + dispatchOpen.length +
              (block.content toString).length + blockClose.length + before.length =
              start + (block.gap.length + (dispatchOpen.length +
                ((block.content toString).length + (blockClose.length + before.length)))) := by
            omega
          rw [shifted]
          exact inside
      exact .block (cut_of_avoids _ opens) (cut_of_avoids _ closes)
        (inductionHypothesis _ (fun other member => noNewline other (List.mem_cons_of_mem _ member))
          later)

theorem markersOf_renderedLayout (tail : Text) (blocks : List Block)
    (undoes : ∀ block ∈ blocks,
      fromStr (block.content toString) = some (block.markers.map markerValue))
    (bracketed : ∀ block ∈ blocks, ∃ inner, block.content toString = '[' :: (inner ++ [']'])) :
    markersOf fromStr (renderedLayout toString tail blocks) = blocks.flatMap Block.markers := by
  induction blocks with
  | nil => rfl
  | cons block blocks inductionHypothesis =>
      rcases bracketed block List.mem_cons_self with ⟨inner, written⟩
      have trimmed : Text.trim (block.content toString) = block.content toString := by
        rw [written, trim_bracketed]
      have here : blockMarkers fromStr (Text.trim (block.content toString)) = block.markers := by
        rw [trimmed, blockMarkers, undoes block List.mem_cons_self]
        exact filterMap_markerValue block.markers
      rw [renderedLayout, markersOf, here, List.flatMap_cons,
        inductionHypothesis (fun other member => undoes other (List.mem_cons_of_mem _ member))
          (fun other member => bracketed other (List.mem_cons_of_mem _ member))]

end RoundTrip

/-- The dispatch format round-trips: the parser returns the markers of the
blocks in order. -/
theorem parse_render (toString : RenderArray) (fromStr : ParseArray) (blocks : List Block)
    (tail : Text)
    (undoes : ∀ block ∈ blocks,
      fromStr (toString (block.markers.map markerValue)) = some (block.markers.map markerValue))
    (noNewline : ∀ block ∈ blocks, '\n' ∉ toString (block.markers.map markerValue))
    (bracketed : ∀ block ∈ blocks,
      ∃ inner, toString (block.markers.map markerValue) = '[' :: (inner ++ [']']))
    (only : OpenersAt 0 (render toString tail blocks) (openerPositions toString 0 blocks)) :
    parseTaskMarkers fromStr (render toString tail blocks) =
      .returned (blocks.flatMap Block.markers) := by
  rw [parseTaskMarkers_eq fromStr (render_laid tail blocks 0 noNewline only),
    markersOf_renderedLayout tail blocks undoes bracketed]

/-- An empty block, and one whose description ends with a closing marker. -/
def sampleBlocks : List Block :=
  [⟨"hi\n".toList, []⟩, ⟨"\n".toList, [.dispatch "code".toList "a\n@@end".toList]⟩]

/-- The compact text of the second block escapes the newline. -/
def sampleJson : Text :=
  "[\x7b\"desc\":\"a\\n@@end\",\"type\":\"code\"\x7d]".toList

theorem parse_render_sample :
    parseTaskMarkers
        (fun text =>
          if text = ['[', ']'] then some []
          else if text = sampleJson then
            some [markerValue (.dispatch "code".toList "a\n@@end".toList)]
          else none)
        (render (fun values => if values.isEmpty then ['[', ']'] else sampleJson)
          "bye".toList sampleBlocks) =
      .returned (sampleBlocks.flatMap Block.markers) := by
  apply parse_render
  · intro block member
    rcases List.mem_cons.mp member with rfl | later
    · rfl
    · rw [List.mem_singleton.mp later]
      rfl
  · intro block member
    rcases List.mem_cons.mp member with rfl | later
    · decide
    · rw [List.mem_singleton.mp later]
      decide
  · intro block member
    rcases List.mem_cons.mp member with rfl | later
    · exact ⟨[], rfl⟩
    · rw [List.mem_singleton.mp later]
      exact ⟨"\x7b\"desc\":\"a\\n@@end\",\"type\":\"code\"\x7d".toList, rfl⟩
  · decide

end Agent
end Rabb1tClaw
