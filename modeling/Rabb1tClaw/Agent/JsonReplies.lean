import Rabb1tClaw.Agent.ExtractJson
import Rabb1tClaw.Foundations.JsonText

namespace Rabb1tClaw
namespace Agent
namespace Search

open Foundations

/-!
# Bare JSON replies

The plan of a search is asked for as JSON and nothing else, and a reply that
is one object is to be taken as it is.  The strategies for fenced blocks come
first, and they look into the strings of the object as well.  Where a string
has fences of its own, what stands between them is taken for the reply.

JSON has no backticks outside of its strings.  An object is therefore taken
whole by every serializer unless one of its strings has a fence.
-/

/-- No fenced block is found in the text. -/
def Unfenced (text : Text) : Prop :=
  ¬ Fenced "```json".toList id text ∧ ¬ Fenced "```".toList behindLine text

theorem unfenced_of_absent {text : Text} (absent : ¬ fence <:+: text) : Unfenced text := by
  constructor
  · rintro ⟨before, after, rfl, _⟩
    exact absent ⟨before, "json".toList ++ after, by rw [List.append_assoc]; rfl⟩
  · rintro ⟨before, after, rfl, _⟩
    exact absent ⟨before, after, List.append_assoc _ _ _⟩

/-- The object of a reply that is nothing but an object. -/
theorem extractJson_of_unfenced {inner : Text} {text : Text} (braces : text = '{' :: (inner ++ ['}']))
    (unfenced : Unfenced text) {response : Text} (trimmed : Text.trim response = text) :
    extractJson response = some text := by
  rcases jsonFence_spec text with ⟨_, _, _, _, fenced⟩ | ⟨passes, _⟩
  · exact absurd fenced unfenced.1
  · rcases plainFence_spec text with ⟨_, _, _, _, fenced⟩ | ⟨passes', _⟩
    · exact absurd fenced unfenced.2
    · have whole : rawObject ([] ++ '{' :: (inner ++ '}' :: [])) = some ('{' :: inner ++ ['}']) :=
        rawObject_of_object List.not_mem_nil List.not_mem_nil
      rw [List.nil_append, List.cons_append, ← braces] at whole
      simp only [extractJson, trimmed, passes, passes', whole]

/-- A fenced block is shorter than the text around it. -/
theorem extractJson_of_fenced {text : Text} (fenced : ¬ Unfenced text) {response : Text}
    (trimmed : Text.trim response = text) :
    ∃ json, extractJson response = some json ∧ json.length < text.length := by
  rcases jsonFence_spec text with ⟨json, returns, _, short, _⟩ | ⟨passes, untagged⟩
  · refine ⟨json, ?_, by omega⟩
    simp only [extractJson, trimmed, returns]
  · rcases plainFence_spec text with ⟨json, returns, _, short, _⟩ | ⟨_, plain⟩
    · refine ⟨json, ?_, by omega⟩
      simp only [extractJson, trimmed, passes, returns]
    · exact absurd ⟨untagged, plain⟩ fenced

section

variable {members : List (Text × Json)} {text gap gap' : Text}

/-- Whitespace around an object is trimmed. -/
theorem trim_object (serializes : Json.Serializes (.object members) text) (blank : Text.Blank gap)
    (blank' : Text.Blank gap') : Text.trim (gap ++ (text ++ gap')) = text := by
  rcases serializes.braces with ⟨inner, rfl⟩
  exact Text.trim_padded blank blank' (by decide) (by decide)

/-- An object without fences in its strings is taken whole, however it is
written. -/
theorem extractJson_of_plain_strings (serializes : Json.Serializes (.object members) text)
    (plain : ∀ content ∈ Json.memberStrings members, ¬ fence <:+: content) (blank : Text.Blank gap)
    (blank' : Text.Blank gap') : extractJson (gap ++ (text ++ gap')) = some text := by
  have absent : ¬ List.replicate (2 + 1) '`' <:+: text := by
    intro occurs
    rcases serializes.run_within (by decide) occurs with ⟨content, member, inside⟩
    exact plain content member inside
  rcases serializes.braces with ⟨inner, braces⟩
  exact extractJson_of_unfenced braces (unfenced_of_absent absent) (trim_object serializes blank blank')

/-- A bare object is taken whole, and parses to itself, exactly if its text has
no fenced block. -/
theorem extractJson_whole_iff (serializes : Json.Serializes (.object members) text) (blank : Text.Blank gap)
    (blank' : Text.Blank gap') (fromStr : Text → Option Json) (reads : fromStr text = some (.object members)) :
    (extractJson (gap ++ (text ++ gap')) = some text ∧
        (extractJson (gap ++ (text ++ gap'))).bind fromStr = some (.object members)) ↔
      Unfenced text := by
  have trimmed := trim_object serializes blank blank'
  constructor
  · rintro ⟨whole, _⟩
    apply Classical.byContradiction
    intro fenced
    rcases extractJson_of_fenced fenced trimmed with ⟨json, returns, short⟩
    rcases Option.some.inj (whole.symm.trans returns) with rfl
    exact Nat.lt_irrefl _ short
  · intro unfenced
    rcases serializes.braces with ⟨inner, braces⟩
    have whole := extractJson_of_unfenced braces unfenced trimmed
    exact ⟨whole, by rw [whole, Option.bind_some, reads]⟩

end

/-- The compact text of an object with one string. -/
def oneString (key content : Text) : Text :=
  '{' :: ('"' :: (key ++ ['"']) ++ ':' :: ('"' :: (content ++ ['"']))) ++ ['}']

theorem serializes_oneString {key content : Text} (plainKey : Json.Unescaped key)
    (plain : Json.Unescaped content) :
    Json.Serializes (.object [(key, .string content)]) (oneString key content) := by
  have noGap : Json.Gap [] := fun char member => absurd member List.not_mem_nil
  have members := Json.SerializesMembers.last noGap (.of_plain plainKey) noGap noGap
    (.string (.of_plain plain)) noGap
  simp only [List.nil_append, List.append_nil] at members
  exact .object members

theorem extractJson_whole_oneString :
    extractJson ("\n".toList ++ (oneString "depth".toList "quick".toList ++ [' '])) =
      some (oneString "depth".toList "quick".toList) := by
  have serializes : Json.Serializes (.object [("depth".toList, .string "quick".toList)])
      (oneString "depth".toList "quick".toList) := serializes_oneString (by decide) (by decide)
  have unfenced : Unfenced (oneString "depth".toList "quick".toList) := unfenced_of_absent (by decide)
  let fromStr : Text → Option Json := fun text =>
    if text = oneString "depth".toList "quick".toList then
      some (.object [("depth".toList, .string "quick".toList)])
    else
      none
  exact ((extractJson_whole_iff serializes (by decide) (by decide) fromStr (if_pos rfl)).mpr unfenced).1

/-- A question about fences loses everything around them. -/
theorem extractJson_fencesInString :
    ∃ object, Json.Serializes (.object object) (oneString "q".toList "what is ```a``` for".toList) ∧
      extractJson (oneString "q".toList "what is ```a``` for".toList) = some "a".toList :=
  ⟨_, serializes_oneString (by decide) (by decide), by decide +kernel⟩

end Search
end Agent
end Rabb1tClaw
