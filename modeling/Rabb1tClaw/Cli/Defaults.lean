import Rabb1tClaw.Config.Gateway
import Rabb1tClaw.Foundations.Substring

namespace Rabb1tClaw
namespace Cli

open Foundations
open Config

/-!
# Default parameters

A new model gets parameters by its tier, and every agent gets the values that
its block leaves open.  Neither touches what an agent says about its model.

Lower case is that of Unicode, and comes as a function.
-/

/-! ## Constants -/

def defaultContextTokens : Nat := 200000
def defaultTaskLogMaxEntries : Nat := 50

/-- The bits of `0.0`. -/
def zeroTemperature : FloatBits := 0

def defaultCodeMaxTokens : Nat := 16384
def defaultCodeMaxConcurrent : Nat := 2
def defaultCodeMaxIterations : Nat := 5
def defaultCodeMaxOutputTokens : Nat := 500
def defaultCodeExecTimeoutSecs : Nat := 120
def defaultMemoryMaxTokens : Nat := 1024
def defaultMemoryTurnInterval : Nat := 5
def defaultMemoryMaxWords : Nat := 500

def defaultReasoningMaxTokensOpenai : Nat := 16384
def defaultThinkingMaxTokensAnthropic : Nat := 16384
def defaultOssReasoningMaxTokens : Nat := 8192
def defaultModelMaxTokens : Nat := 4096
def defaultThinkingBudgetTokensAnthropic : Nat := 10000
def defaultReasoningEffortOpenai : Text := "medium".toList

def defaultAdvancedMaxSteps : Nat := 20
def defaultAdvancedTotalTimeoutSecs : Nat := 900
def defaultAdvancedCodeMaxIterations : Nat := 8
def defaultAdvancedCodeMaxOutputTokens : Nat := 500
def defaultAdvancedMaxConcurrent : Nat := 1
def defaultSearchMaxConcurrent : Nat := 3
def defaultSearchMaxResults : Nat := 10
def defaultSearchMaxNews : Nat := 5
def defaultSearchMaxPeopleAlsoAsk : Nat := 5
def defaultSearchMaxTotalTokens : Nat := 16000
def defaultSearchMaxTotalTokensThorough : Nat := 32000
def defaultSearchMaxPageTokens : Nat := 4000
def defaultSearchFetchTimeoutSecs : Nat := 15

/-! ## Tiers -/

inductive ModelTier where
  | reasoning
  | thinking
  | ossReasoning
  | standard
  deriving DecidableEq, Repr

def removedThinking : List Text :=
  ["claude-opus-4-7".toList, "claude-opus-4-8".toList, "claude-opus-5".toList, "claude-sonnet-5".toList,
    "claude-haiku-5".toList, "claude-fable-5".toList, "claude-mythos-5".toList]

def supportedThinking : List Text :=
  ["claude-3-7".toList, "claude-opus-4".toList, "claude-sonnet-4".toList, "claude-haiku-4".toList]

section

variable (toLowercase : Text → Text)

/-- Whether an Anthropic model accepts a thinking budget. -/
def anthropicSupportsExtendedThinking (modelId : Text) : Bool :=
  let id := toLowercase modelId
  if removedThinking.any fun start => start.isPrefixOf id then false
  else supportedThinking.any fun start => start.isPrefixOf id

/-- Whether a model is a reasoning model of OpenAI. -/
def isReasoningModel (model : Text) : Bool :=
  ["o1".toList, "o3".toList, "o4".toList, "gpt-5".toList].any fun start =>
    start.isPrefixOf (toLowercase model)

def detectTier (apiType modelId : Text) : ModelTier :=
  let id := toLowercase modelId
  if apiType = "openai".toList ∧ isReasoningModel toLowercase modelId = true then .reasoning
  else if apiType = "anthropic".toList then
    if anthropicSupportsExtendedThinking toLowercase modelId then .thinking else .standard
  else if apiType = "openai".toList ∧
      ["deepseek-r1".toList, "qwq".toList, "kimi".toList].any (fun word => (cut word id).isSome) = true then
    .ossReasoning
  else .standard

/-- Apply smart defaults to a model based on its tier. -/
def applySmartDefaults (model : ModelConfig) (apiType : Text) : ModelConfig :=
  match detectTier toLowercase apiType model.modelId with
  | .reasoning =>
      { model with
        maxTokens := some defaultReasoningMaxTokensOpenai
        reasoningEffort := some defaultReasoningEffortOpenai }
  | .thinking =>
      { model with
        maxTokens := some defaultThinkingMaxTokensAnthropic
        thinking := some ⟨true, some defaultThinkingBudgetTokensAnthropic⟩ }
  | .ossReasoning =>
      { model with
        maxTokens := some defaultOssReasoningMaxTokens
        thinking := some ⟨true, none⟩ }
  | .standard => { model with maxTokens := some defaultModelMaxTokens }

@[simp] theorem applySmartDefaults_provider (model : ModelConfig) (apiType : Text) :
    (applySmartDefaults toLowercase model apiType).provider = model.provider := by
  unfold applySmartDefaults
  split <;> rfl

@[simp] theorem applySmartDefaults_modelId (model : ModelConfig) (apiType : Text) :
    (applySmartDefaults toLowercase model apiType).modelId = model.modelId := by
  unfold applySmartDefaults
  split <;> rfl

end

/-! ## Agents -/

def populateMain (main : AgentConfig) : AgentConfig :=
  { main with
    contextTokens := main.contextTokens.or (some defaultContextTokens)
    reasoningEffort := main.reasoningEffort.or (some defaultReasoningEffortOpenai)
    taskLogMaxEntries := main.taskLogMaxEntries.or (some defaultTaskLogMaxEntries) }

def populateCode (code : AgentConfig) : AgentConfig :=
  { code with
    temperature := code.temperature.or (some zeroTemperature)
    maxTokens := code.maxTokens.or (some defaultCodeMaxTokens)
    reasoningEffort := code.reasoningEffort.or (some defaultReasoningEffortOpenai)
    maxConcurrent := code.maxConcurrent.or (some defaultCodeMaxConcurrent)
    maxIterations := code.maxIterations.or (some defaultCodeMaxIterations)
    maxOutputTokens := code.maxOutputTokens.or (some defaultCodeMaxOutputTokens)
    execTimeoutSecs := code.execTimeoutSecs.or (some defaultCodeExecTimeoutSecs) }

def populateMemory (memory : AgentConfig) : AgentConfig :=
  { memory with
    temperature := memory.temperature.or (some zeroTemperature)
    maxTokens := memory.maxTokens.or (some defaultMemoryMaxTokens)
    reasoningEffort := memory.reasoningEffort.or (some defaultReasoningEffortOpenai)
    turnInterval := memory.turnInterval.or (some defaultMemoryTurnInterval)
    maxWords := memory.maxWords.or (some defaultMemoryMaxWords) }

def populateSearch (search : AgentConfig) : AgentConfig :=
  { search with
    reasoningEffort := search.reasoningEffort.or (some defaultReasoningEffortOpenai)
    maxConcurrent := search.maxConcurrent.or (some defaultSearchMaxConcurrent)
    maxResults := search.maxResults.or (some defaultSearchMaxResults)
    maxNews := search.maxNews.or (some defaultSearchMaxNews)
    maxPeopleAlsoAsk := search.maxPeopleAlsoAsk.or (some defaultSearchMaxPeopleAlsoAsk)
    maxTotalTokens := search.maxTotalTokens.or (some defaultSearchMaxTotalTokens)
    maxTotalTokensThorough := search.maxTotalTokensThorough.or (some defaultSearchMaxTotalTokensThorough)
    maxPageTokens := search.maxPageTokens.or (some defaultSearchMaxPageTokens)
    fetchTimeoutSecs := search.fetchTimeoutSecs.or (some defaultSearchFetchTimeoutSecs) }

def populateAdvanced (advanced : AgentConfig) : AgentConfig :=
  { advanced with
    reasoningEffort := advanced.reasoningEffort.or (some defaultReasoningEffortOpenai)
    maxConcurrent := advanced.maxConcurrent.or (some defaultAdvancedMaxConcurrent)
    maxIterations := advanced.maxIterations.or (some defaultAdvancedMaxSteps)
    execTimeoutSecs := advanced.execTimeoutSecs.or (some defaultAdvancedTotalTimeoutSecs)
    maxOutputTokens := advanced.maxOutputTokens.or (some defaultAdvancedCodeMaxOutputTokens) }

/-- Populate the agents with default limits. -/
def populateDefaultAgents (config : GatewayConfig) : GatewayConfig :=
  let agents := config.agents.getD {}
  { config with
    agents := some {
      main := some (populateMain (agents.main.getD {}))
      code := some (populateCode (agents.code.getD {}))
      memory := some (populateMemory (agents.memory.getD {}))
      search := some (populateSearch (agents.search.getD {}))
      advanced := some (populateAdvanced (agents.advanced.getD {})) } }

/-- No agent gets another model. -/
theorem agentModel_populateDefaultAgents (config : GatewayConfig) (kind : AgentKind) :
    (populateDefaultAgents config).agentModel kind = config.agentModel kind := by
  have unset : ∀ agent : Option AgentConfig, (agent.getD {}).model = agent.bind AgentConfig.model := by
    intro agent
    cases agent <;> rfl
  unfold GatewayConfig.agentModel GatewayConfig.agentConfig
  cases agents : config.agents with
  | none => cases kind <;> simp [populateDefaultAgents, agents] <;> rfl
  | some agents' => cases kind <;> simp [populateDefaultAgents, agents] <;> exact unset _

end Cli
end Rabb1tClaw
