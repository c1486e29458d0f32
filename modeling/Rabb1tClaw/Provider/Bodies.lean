import Mathlib.Data.List.Induction
import Rabb1tClaw.Provider.Anthropic

namespace Rabb1tClaw
namespace Provider

open Foundations
open Config
open Agent (ChatMessage ChatRequest LlmProvider)

/-!
# What a provider is told

Both APIs are sent the same request in bodies of different shape.  A body for
Anthropic has the system prompt apart from the messages.  A body for OpenAI has
it in front of them, under a role of its own, so that its reader finds the same
two parts again (`OpenAiRequest.dialogue`).

A message of the request may have that role as well.  OpenAI never sees such a
message, and Anthropic sees the last of them in place of the system prompt.
The bodies tell the same exactly where this makes no difference
(`dialogues_agree_iff`).
-/

/-! ## The body of an OpenAI request -/

structure ChatTemplateKwargs where
  enableThinking : Bool
  deriving DecidableEq, Repr

structure OpenAiRequest where
  model : Text
  messages : List ChatMessage
  maxTokens : Option Nat
  maxCompletionTokens : Option Nat
  temperature : Option FloatBits
  topP : Option FloatBits
  frequencyPenalty : Option FloatBits
  presencePenalty : Option FloatBits
  reasoningEffort : Option Text
  chatTemplateKwargs : Option ChatTemplateKwargs
  stream : Bool

/-- The role of a system prompt. -/
def IsSystem (message : ChatMessage) : Prop := message.role = "system".toList

instance (message : ChatMessage) : Decidable (IsSystem message) :=
  inferInstanceAs (Decidable (message.role = "system".toList))

/-- The body that `chat_stream` builds for OpenAI. -/
def openaiBody (toLowercase : Text → Text) (request : ChatRequest) : OpenAiRequest :=
  let system := (request.system.map fun system => (⟨"system".toList, system⟩ : ChatMessage)).toList
  let reasoning := Cli.isReasoningModel toLowercase request.model
  { model := request.model
    messages := system ++ request.messages.filter fun message => ¬ IsSystem message
    -- a reasoning model has another name for the bound, and sets its own temperature
    maxTokens := if reasoning then none else request.maxTokens
    maxCompletionTokens := if reasoning then request.maxTokens else none
    temperature := if reasoning then none else request.temperature
    topP := request.topP
    frequencyPenalty := request.frequencyPenalty
    presencePenalty := request.presencePenalty
    reasoningEffort := if reasoning then request.reasoningEffort else none
    chatTemplateKwargs := request.thinking.map fun thinking => ⟨thinking.enabled⟩
    stream := true }

/-! ## The HTTP request -/

inductive RequestBody where
  | openai (body : OpenAiRequest)
  | anthropic (body : AnthropicRequest)

/-- An HTTP POST with a body of JSON. -/
structure HttpRequest where
  url : Text
  headers : List (Text × Text)
  body : RequestBody

/-- `chat_stream` up to the request that it sends. -/
def chatStream (toLowercase : Text → Text) : LlmProvider → ChatRequest → HttpRequest
  | .openai baseUrl apiKey, request =>
      { url := baseUrl ++ "/chat/completions".toList
        headers := [("Authorization".toList, "Bearer ".toList ++ apiKey),
          ("Content-Type".toList, "application/json".toList)]
        body := .openai (openaiBody toLowercase request) }
  | .anthropic baseUrl apiKey, request =>
      { url := baseUrl ++ "/messages".toList
        headers := [("x-api-key".toList, apiKey), ("anthropic-version".toList, "2023-06-01".toList),
          ("Content-Type".toList, "application/json".toList)]
        body := .anthropic (anthropicBody request) }

/-! ## Dialogues -/

/-- What a model is told, in whatever shape. -/
structure Dialogue where
  system : Option Text
  messages : List ChatMessage
  deriving DecidableEq, Repr

/-- A first message with the role of the system is the system prompt. -/
def OpenAiRequest.dialogue (body : OpenAiRequest) : Dialogue :=
  match body.messages with
  | [] => ⟨none, []⟩
  | first :: later => if IsSystem first then ⟨some first.content, later⟩ else ⟨none, first :: later⟩

def AnthropicRequest.dialogue (body : AnthropicRequest) : Dialogue := ⟨body.system, body.messages⟩

def RequestBody.dialogue : RequestBody → Dialogue
  | .openai body => body.dialogue
  | .anthropic body => body.dialogue

section

variable {request : ChatRequest}

theorem dialogue_openaiBody (toLowercase : Text → Text) (request : ChatRequest) :
    (openaiBody toLowercase request).dialogue =
      ⟨request.system, request.messages.filter fun message => ¬ IsSystem message⟩ := by
  have shape : (openaiBody toLowercase request).messages =
      (request.system.map fun system => (⟨"system".toList, system⟩ : ChatMessage)).toList ++
        request.messages.filter fun message => ¬ IsSystem message := rfl
  rw [OpenAiRequest.dialogue, shape]
  cases request.system with
  | some system => exact if_pos rfl
  | none =>
      rw [Option.map_none, Option.toList_none, List.nil_append]
      split
      · rename_i nothing
        rw [nothing]
      · rename_i first later kept
        have member : first ∈ request.messages.filter fun message => ¬ IsSystem message := by
          rw [kept]
          exact List.mem_cons_self
        have plain : ¬ IsSystem first := of_decide_eq_true (List.mem_filter.mp member).2
        rw [if_neg plain, kept]

/-- The last message with the role of the system is the prompt for Anthropic. -/
theorem anthropicSystem_eq (request : ChatRequest) :
    anthropicSystem request =
      ((request.messages.filter fun message => IsSystem message).getLast?.map ChatMessage.content).or
        request.system := by
  rw [anthropicSystem]
  induction request.messages using List.reverseRecOn with
  | nil => rfl
  | append_singleton messages message inductionHypothesis =>
      rw [List.foldl_append, inductionHypothesis, List.filter_append]
      by_cases isSystem : IsSystem message
      · have own : ([message].filter fun message => IsSystem message) = [message] :=
          List.filter_eq_self.mpr fun one member => by
            rw [List.mem_singleton.mp member]
            exact decide_eq_true isSystem
        rw [own, List.getLast?_concat]
        exact if_pos isSystem
      · have dropped : ([message].filter fun message => IsSystem message) = [] :=
          List.filter_eq_nil_iff.mpr fun one member => by
            rw [List.mem_singleton.mp member]
            exact fun holds => isSystem (of_decide_eq_true holds)
        rw [dropped, List.append_nil]
        exact if_neg isSystem

/-- Both APIs tell the same if and only if no message has the role of the
system, or the last that has it repeats the system prompt. -/
theorem dialogues_agree_iff (toLowercase : Text → Text) (request : ChatRequest) :
    (openaiBody toLowercase request).dialogue = (anthropicBody request).dialogue ↔
      ∀ last ∈ (request.messages.filter fun message => IsSystem message).getLast?,
        request.system = some last.content := by
  have told : (anthropicBody request).dialogue =
      ⟨anthropicSystem request, request.messages.filter fun message => ¬ IsSystem message⟩ := rfl
  rw [dialogue_openaiBody, told, Dialogue.mk.injEq, and_iff_left rfl, anthropicSystem_eq]
  cases (request.messages.filter fun message => IsSystem message).getLast? with
  | none => exact iff_of_true rfl (by rintro _ ⟨⟩)
  | some last =>
      constructor
      · rintro same _ ⟨⟩
        exact same
      · intro repeats
        exact repeats last rfl

/-- Where no message has the role of the system, a provider of either kind is
told the request. -/
theorem dialogue_chatStream (toLowercase : Text → Text) (provider : LlmProvider)
    (plain : ∀ message ∈ request.messages, ¬ IsSystem message) :
    (chatStream toLowercase provider request).body.dialogue = ⟨request.system, request.messages⟩ := by
  have all : (request.messages.filter fun message => ¬ IsSystem message) = request.messages :=
    List.filter_eq_self.mpr fun message member => decide_eq_true (plain message member)
  have openai : (openaiBody toLowercase request).dialogue = ⟨request.system, request.messages⟩ := by
    rw [dialogue_openaiBody, all]
  cases provider with
  | openai baseUrl apiKey => exact openai
  | anthropic baseUrl apiKey =>
      have agree := dialogues_agree_iff toLowercase request
      refine (agree.mpr fun last found => ?_).symm.trans openai
      have member := List.mem_filter.mp (List.mem_of_getLast? found)
      exact absurd (of_decide_eq_true member.2) (plain last member.1)

end

end Provider
end Rabb1tClaw
