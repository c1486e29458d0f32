import Rabb1tClaw.Agent.Conversation
import Rabb1tClaw.Cli.Defaults

namespace Rabb1tClaw
namespace Agent

open Foundations
open Config

/-!
# Resolving the model of an agent

An agent uses the model that it names or else the active one.  What its block
says about a parameter takes precedence over what the model says.
-/

/-- `ThinkingParams`. -/
abbrev ThinkingParams := ThinkingConfig

structure ChatRequest where
  model : Text
  messages : List ChatMessage
  system : Option Text
  maxTokens : Option Nat
  temperature : Option FloatBits
  topP : Option FloatBits
  frequencyPenalty : Option FloatBits
  presencePenalty : Option FloatBits
  reasoningEffort : Option Text
  thinking : Option ThinkingParams

/-- Which provider is created, and from what. -/
inductive LlmProvider where
  | anthropic (baseUrl apiKey : Text)
  | openai (baseUrl apiKey : Text)
  deriving DecidableEq, Repr

def trimEndSlashes (url : Text) : Text := (url.reverse.dropWhile (· = '/')).reverse

def createProvider (apiType baseUrl apiKey : Text) : LlmProvider :=
  if apiType = "anthropic-messages".toList ∨ apiType = "anthropic".toList then
    .anthropic (trimEndSlashes baseUrl) apiKey
  else
    .openai (trimEndSlashes baseUrl) apiKey

structure ResolvedAgentModel where
  provider : LlmProvider
  providerName : Text
  modelId : Text
  maxTokens : Option Nat
  temperature : Option FloatBits
  topP : Option FloatBits
  frequencyPenalty : Option FloatBits
  presencePenalty : Option FloatBits
  reasoningEffort : Option Text
  thinking : Option ThinkingParams
  contextTokens : Nat

/-- Make the first byte upper case, if it is a character of its own. -/
def capitalizeAscii : Text → Text
  | [] => []
  | char :: rest => if char.utf8Size = 1 then char.toUpper :: rest else char :: rest

/-- `resolve_agent_model`. -/
def resolveAgentModel (config : GatewayConfig) (kind : AgentKind) : Option ResolvedAgentModel := do
  let agentConfig := config.agentConfig kind
  let modelKey ← (config.agentModel kind).or config.activeModel
  let model ← config.models.lookup modelKey
  let provider ← config.providers.lookup model.provider
  some {
    provider := createProvider provider.api provider.baseUrl provider.apiKey
    providerName := provider.name.getD (capitalizeAscii provider.api)
    modelId := model.modelId
    maxTokens := (agentConfig.bind AgentConfig.maxTokens).or model.maxTokens
    temperature := (agentConfig.bind AgentConfig.temperature).or model.temperature
    topP := (agentConfig.bind AgentConfig.topP).or model.topP
    frequencyPenalty := (agentConfig.bind AgentConfig.frequencyPenalty).or model.frequencyPenalty
    presencePenalty := (agentConfig.bind AgentConfig.presencePenalty).or model.presencePenalty
    reasoningEffort := (agentConfig.bind AgentConfig.reasoningEffort).or model.reasoningEffort
    thinking := (agentConfig.bind AgentConfig.thinking).or model.thinking
    contextTokens :=
      ((agentConfig.bind AgentConfig.contextTokens).or model.contextTokens).getD Cli.defaultContextTokens }

/-- Build a request from the resolved parameters. -/
def ResolvedAgentModel.chatRequest (resolved : ResolvedAgentModel) (messages : List ChatMessage)
    (system : Option Text) : ChatRequest where
  model := resolved.modelId
  messages
  system
  maxTokens := resolved.maxTokens
  temperature := resolved.temperature
  topP := resolved.topP
  frequencyPenalty := resolved.frequencyPenalty
  presencePenalty := resolved.presencePenalty
  reasoningEffort := resolved.reasoningEffort
  thinking := resolved.thinking

/-- A model is resolved if and only if the references lead to a model and to
its provider. -/
theorem resolveAgentModel_isSome_iff {config : GatewayConfig} {kind : AgentKind} :
    (resolveAgentModel config kind).isSome = true ↔
      ∃ key model, (config.agentModel kind).or config.activeModel = some key ∧
        config.models.lookup key = some model ∧ model.provider ∈ config.providers := by
  simp only [resolveAgentModel, Option.isSome_iff_exists, Option.bind_eq_bind, Option.bind_eq_some_iff]
  constructor
  · rintro ⟨_, key, named, model, found, provider, present, _⟩
    exact ⟨key, model, named, found, mem_iff_lookup.mpr ⟨provider, present⟩⟩
  · rintro ⟨key, model, named, found, known⟩
    rcases mem_iff_lookup.mp known with ⟨provider, present⟩
    exact ⟨_, key, named, model, found, provider, present, rfl⟩

end Agent
end Rabb1tClaw
