import Mathlib.Data.List.AList
import Rabb1tClaw.Foundations.Utf8

namespace Rabb1tClaw
namespace Config

open Foundations

/-!
# The gateway configuration

`config.yaml` maps names to providers and keys to models.  A model names its
provider, the configuration names the active model, and an agent may name a
model of its own.
-/

/-- The bits of a 32-bit float, which is only copied. -/
abbrev FloatBits := UInt32

structure GatewaySettings where
  port : Nat := 18789
  bind : Text := "127.0.0.1".toList
  deriving DecidableEq, Repr

structure ProviderConfig where
  api : Text
  baseUrl : Text
  apiKey : Text
  name : Option Text
  deriving DecidableEq, Repr

structure ThinkingConfig where
  enabled : Bool
  budgetTokens : Option Nat
  deriving DecidableEq, Repr

structure ModelConfig where
  provider : Text
  modelId : Text
  maxTokens : Option Nat := none
  temperature : Option FloatBits := none
  topP : Option FloatBits := none
  frequencyPenalty : Option FloatBits := none
  presencePenalty : Option FloatBits := none
  reasoningEffort : Option Text := none
  contextTokens : Option Nat := none
  thinking : Option ThinkingConfig := none
  deriving DecidableEq, Repr

structure AgentConfig where
  model : Option Text := none
  maxTokens : Option Nat := none
  temperature : Option FloatBits := none
  topP : Option FloatBits := none
  frequencyPenalty : Option FloatBits := none
  presencePenalty : Option FloatBits := none
  reasoningEffort : Option Text := none
  thinking : Option ThinkingConfig := none
  -- operational limits
  maxConcurrent : Option Nat := none
  maxIterations : Option Nat := none
  maxOutputTokens : Option Nat := none
  execTimeoutSecs : Option Nat := none
  turnInterval : Option Nat := none
  maxWords : Option Nat := none
  maxResults : Option Nat := none
  maxNews : Option Nat := none
  maxPeopleAlsoAsk : Option Nat := none
  maxTotalTokens : Option Nat := none
  maxTotalTokensThorough : Option Nat := none
  maxPageTokens : Option Nat := none
  fetchTimeoutSecs : Option Nat := none
  contextTokens : Option Nat := none
  taskLogMaxEntries : Option Nat := none

structure AgentsSection where
  main : Option AgentConfig := none
  code : Option AgentConfig := none
  memory : Option AgentConfig := none
  search : Option AgentConfig := none
  advanced : Option AgentConfig := none

inductive AgentKind where
  | main
  | code
  | memory
  | search
  | advanced
  deriving DecidableEq, Repr

structure GatewayConfig where
  gateway : GatewaySettings := {}
  providers : AList fun _ : Text => ProviderConfig
  models : AList fun _ : Text => ModelConfig
  activeModel : Option Text := none
  agents : Option AgentsSection := none

namespace GatewayConfig

/-- The configuration when there is no file. -/
def empty : GatewayConfig := { providers := ∅, models := ∅ }

/-- Typed access to the block of an agent. -/
def agentConfig (config : GatewayConfig) (kind : AgentKind) : Option AgentConfig :=
  config.agents.bind fun agents =>
    match kind with
    | .main => agents.main
    | .code => agents.code
    | .memory => agents.memory
    | .search => agents.search
    | .advanced => agents.advanced

/-- The model that an agent names. -/
def agentModel (config : GatewayConfig) (kind : AgentKind) : Option Text :=
  (config.agentConfig kind).bind AgentConfig.model

end GatewayConfig

/-- The keys of a map are those with an entry. -/
theorem mem_iff_lookup {α β : Type} [DecidableEq α] {map : AList fun _ : α => β} {key : α} :
    key ∈ map ↔ ∃ value, map.lookup key = some value :=
  AList.lookup_isSome.symm.trans Option.isSome_iff_exists

end Config
end Rabb1tClaw
