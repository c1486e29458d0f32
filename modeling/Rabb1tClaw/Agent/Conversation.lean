import Rabb1tClaw.Foundations.Alternation
import Rabb1tClaw.Foundations.Utf8

namespace Rabb1tClaw
namespace Agent

open Foundations

/-!
# The conversation of a sub-agent

A sub-agent sends a list of messages with every request for a completion.  A
provider expects that the user and the assistant take turns in it, and that
the user begins and ends.
-/

/-- `ChatMessage`. -/
structure ChatMessage where
  role : Text
  content : Text
  deriving DecidableEq, Repr

namespace ChatMessage

def fromUser (content : Text) : ChatMessage := ⟨"user".toList, content⟩

def fromAssistant (content : Text) : ChatMessage := ⟨"assistant".toList, content⟩

/-- The user and the assistant take turns, and the user begins. -/
abbrev TakeTurns (messages : List ChatMessage) : Prop :=
  Alternates ChatMessage.role "user".toList "assistant".toList messages

/-- What a provider expects of the messages of a request. -/
structure WellFormed (messages : List ChatMessage) : Prop where
  turns : TakeTurns messages
  starts : messages.head?.map ChatMessage.role = some "user".toList
  ends : messages.getLast?.map ChatMessage.role = some "user".toList

theorem user_ne_assistant : "user".toList ≠ "assistant".toList := by decide

theorem wellFormed_iff {messages : List ChatMessage} :
    WellFormed messages ↔ TakeTurns messages ∧ messages.length % 2 = 1 := by
  constructor
  · intro formed
    exact ⟨formed.turns, (formed.turns.ends_iff user_ne_assistant).mp formed.ends⟩
  · rintro ⟨turns, odd⟩
    refine ⟨turns, ?_, (turns.ends_iff user_ne_assistant).mpr odd⟩
    cases messages with
    | nil => cases odd
    | cons message messages => exact congrArg some turns.1

instance (messages : List ChatMessage) : Decidable (WellFormed messages) :=
  decidable_of_iff _ wellFormed_iff.symm

theorem wellFormed_question (content : Text) : WellFormed [fromUser content] :=
  wellFormed_iff.mpr ⟨⟨rfl, trivial⟩, rfl⟩

namespace WellFormed

variable {messages : List ChatMessage}

/-- The next message is one of the assistant. -/
theorem append (formed : WellFormed messages) (later : List ChatMessage) :
    TakeTurns (messages ++ later) ↔
      Alternates ChatMessage.role "assistant".toList "user".toList later := by
  rcases wellFormed_iff.mp formed with ⟨turns, odd⟩
  rw [TakeTurns, alternates_append, turn_of_odd _ _ odd, turn_of_odd _ _ odd]
  exact and_iff_right turns

/-- A reply and its answer keep the form. -/
theorem exchange (formed : WellFormed messages) (reply answer : Text) :
    WellFormed (messages ++ [fromAssistant reply, fromUser answer]) := by
  rw [wellFormed_iff, formed.append, alternates_pair, List.length_append]
  have odd := (wellFormed_iff.mp formed).2
  refine ⟨⟨rfl, rfl⟩, ?_⟩
  rw [List.length_cons, List.length_singleton]
  omega

/-- A reply without an answer breaks it. -/
theorem not_reply (formed : WellFormed messages) (reply : Text) :
    ¬ WellFormed (messages ++ [fromAssistant reply]) := by
  rw [wellFormed_iff, List.length_append, List.length_singleton]
  have odd := (wellFormed_iff.mp formed).2
  omega

end WellFormed

end ChatMessage

end Agent
end Rabb1tClaw
