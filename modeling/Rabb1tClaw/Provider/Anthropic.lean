import Rabb1tClaw.Agent.Resolution

namespace Rabb1tClaw
namespace Provider

open Foundations
open Config
open Agent (ChatMessage ChatRequest)

/-!
# The body of an Anthropic request

The system prompt stands outside the messages.  With thinking enabled, the
temperature is left out, and the budget has to be smaller than the bound on
the tokens of the reply.
-/

structure AnthropicThinking where
  thinkingType : Text
  budgetTokens : Nat
  deriving DecidableEq, Repr

structure AnthropicRequest where
  model : Text
  messages : List ChatMessage
  maxTokens : Nat
  system : Option Text
  temperature : Option FloatBits
  topP : Option FloatBits
  thinking : Option AnthropicThinking
  stream : Bool

/-- The last system message, or else the system prompt of the request. -/
def anthropicSystem (request : ChatRequest) : Option Text :=
  request.messages.foldl
    (fun system message => if message.role = "system".toList then some message.content else system)
    request.system

/-- The body that `chat_stream` builds. -/
def anthropicBody (request : ChatRequest) : AnthropicRequest :=
  let thinking := request.thinking.bind fun thinking =>
    if thinking.enabled then
      some ⟨"enabled".toList, thinking.budgetTokens.getD Cli.defaultThinkingBudgetTokensAnthropic⟩
    else none
  { model := request.model
    messages := request.messages.filter fun message => message.role ≠ "system".toList
    maxTokens := request.maxTokens.getD Cli.defaultModelMaxTokens
    system := anthropicSystem request
    temperature := if thinking.isSome then none else request.temperature
    topP := request.topP
    thinking
    stream := true }

/-- The budget for thinking is smaller than the bound on the reply. -/
def AnthropicRequest.RespectsBudget (body : AnthropicRequest) : Prop :=
  ∀ thinking ∈ body.thinking, thinking.budgetTokens < body.maxTokens

instance (body : AnthropicRequest) : Decidable body.RespectsBudget :=
  inferInstanceAs (Decidable (∀ thinking ∈ body.thinking, thinking.budgetTokens < body.maxTokens))

/-- Whether the budget is respected depends on the bound and on thinking only. -/
theorem respectsBudget_anthropicBody {request : ChatRequest} :
    (anthropicBody request).RespectsBudget ↔ ∀ thinking ∈ request.thinking, thinking.enabled = true →
      thinking.budgetTokens.getD Cli.defaultThinkingBudgetTokensAnthropic <
        request.maxTokens.getD Cli.defaultModelMaxTokens := by
  rw [AnthropicRequest.RespectsBudget, anthropicBody]
  cases request.thinking with
  | none => exact iff_of_true (by rintro _ ⟨⟩) (by rintro _ ⟨⟩)
  | some thinking =>
      rw [Option.bind_some]
      cases enabled : thinking.enabled with
      | false =>
          refine iff_of_true (by rintro _ ⟨⟩) ?_
          rintro _ ⟨⟩ contradictory
          rw [enabled] at contradictory
          cases contradictory
      | true =>
          constructor
          · rintro small _ ⟨⟩ _
            exact small _ rfl
          · rintro small _ ⟨⟩
            exact small thinking rfl enabled

end Provider
end Rabb1tClaw
