import Rabb1tClaw.Cli.Commands
import Rabb1tClaw.Provider.Anthropic

namespace Rabb1tClaw
namespace Cli

open Foundations
open Config
open Agent (ChatMessage resolveAgentModel)
open Provider (AnthropicRequest anthropicBody respectsBudget_anthropicBody)

/-!
# Requests of an initialized gateway

Initialization gives a model and the agents parameters that have to fit when a
request takes some from one and some from the other.  They do, except for the
memory agent.  Its bound on the reply is smaller than the budget of a model
that thinks, and the budget is not made smaller for it.
-/

/-- The agents after an initialization. -/
def defaultAgents : AgentsSection where
  main := some (populateMain {})
  code := some (populateCode {})
  memory := some (populateMemory {})
  search := some (populateSearch {})
  advanced := some (populateAdvanced {})

/-- The providers are known ones, and the models have the defaults for them. -/
structure Supplied (tables : CharacterTables) (config : GatewayConfig) : Prop where
  providers : ∀ name provider, config.providers.lookup name = some provider →
    ∃ known ∈ knownProviders, known.key = name ∧ provider.api = known.apiType
  models : ∀ key model, config.models.lookup key = some model →
    ∃ known ∈ knownProviders, ∃ modelId, model =
      applySmartDefaults tables.toLowercase { provider := known.key, modelId } known.apiType

/-- A configuration to which only `init` has contributed. -/
structure Initialized (tables : CharacterTables) (config : GatewayConfig) : Prop
    extends Supplied tables config where
  agents : config.agents = some defaultAgents ∨ config.agents = none ∧ ∀ key, key ∉ config.models

theorem initialized_empty (tables : CharacterTables) : Initialized tables .empty where
  providers := by rintro name provider ⟨⟩
  models := by rintro key model ⟨⟩
  agents := .inr ⟨rfl, fun key => AList.notMem_empty key⟩

theorem mem_discoverApiKeys {environment : Environment} {found : KnownProvider × Text}
    (member : found ∈ discoverApiKeys environment) : found.1 ∈ knownProviders := by
  rw [discoverApiKeys] at member
  refine List.foldlRecOn (motive := fun founds => ∀ found ∈ founds, found.1 ∈ knownProviders)
    knownProviders _ ?_ ?_ found member
  · intro found member
    rcases List.mem_flatMap.mp member with ⟨entry, _, member⟩
    rcases List.mem_map.mp member with ⟨known, matching, rfl⟩
    exact (List.mem_filter.mp matching).1
  · intro founds holds known listed found member
    split at member
    · exact holds found member
    · split at member
      · exact holds found member
      · split at member
        · exact holds found member
        · rcases List.mem_append.mp member with earlier | now
          · exact holds found earlier
          · rcases List.mem_singleton.mp now with rfl
            exact listed

/-! ## What `init` does -/

section

variable {tables : CharacterTables} {config : GatewayConfig}

theorem Supplied.addKnownProvider (supplied : Supplied tables config) {found : KnownProvider × Text}
    (known : found.1 ∈ knownProviders) : Supplied tables (Cli.addKnownProvider config found) where
  providers := by
    intro name provider present
    by_cases same : name = found.1.key
    · subst same
      rw [Cli.addKnownProvider, AList.lookup_insert] at present
      exact ⟨found.1, known, rfl, Option.some.inj present ▸ rfl⟩
    · rw [Cli.addKnownProvider, AList.lookup_insert_ne same] at present
      exact supplied.providers name provider present
  models := supplied.models

theorem Supplied.addPickedModel {state : GatewayConfig × Bool} (supplied : Supplied tables state.1)
    {known : KnownProvider} (listed : known ∈ knownProviders) (picked : Option Text) :
    Supplied tables (Cli.addPickedModel tables known state picked).1 := by
  cases picked with
  | none => exact supplied
  | some modelId =>
      refine ⟨supplied.providers, fun key model found => ?_⟩
      by_cases same : key = sanitizeModelKey tables modelId
      · subst same
        rw [Cli.addPickedModel, AList.lookup_insert] at found
        exact ⟨known, listed, modelId, (Option.some.inj found).symm⟩
      · rw [Cli.addPickedModel, AList.lookup_insert_ne same] at found
        exact supplied.models key model found

theorem agents_addPickedModel (tables : CharacterTables) (known : KnownProvider)
    (state : GatewayConfig × Bool) (picked : Option Text) :
    (addPickedModel tables known state picked).1.agents = state.1.agents := by
  cases picked <;> rfl

/-- The models are chosen by now, and nothing is said about the agents. -/
theorem Supplied.addPickedModels (supplied : Supplied tables config) (picked : Nat → Option Text)
    {foundKeys : List (KnownProvider × Text)} (listed : ∀ found ∈ foundKeys, found.1 ∈ knownProviders) :
    Supplied tables (Cli.addPickedModels tables picked foundKeys config) ∧
      (Cli.addPickedModels tables picked foundKeys config).agents = config.agents := by
  refine List.foldlRecOn (motive := fun state : GatewayConfig × Bool =>
    Supplied tables state.1 ∧ state.1.agents = config.agents) foundKeys.zipIdx _ ⟨supplied, rfl⟩ ?_
  rintro state ⟨sound, same⟩ entry member
  refine ⟨sound.addPickedModel (listed entry.1 (List.fst_mem_of_mem_zipIdx member)) _, ?_⟩
  rw [agents_addPickedModel, same]

theorem Initialized.populated (initialized : Initialized tables config) {modelled : GatewayConfig}
    (same : modelled.agents = config.agents) :
    (populateDefaultAgents modelled).agents = some defaultAgents := by
  rcases initialized.agents with populated | ⟨missing, _⟩
  · rw [populateDefaultAgents, same, populated]
    rfl
  · rw [populateDefaultAgents, same, missing]
    rfl

theorem Initialized.init (initialized : Initialized tables config) {answers : InitAnswers}
    {next : GatewayConfig} (initializes : cmdInit tables config answers = some next) :
    Initialized tables next := by
  rw [cmdInit] at initializes
  split at initializes
  · exact Option.some.inj initializes ▸ initialized
  · rcases Option.ite_none_right_eq_some.mp initializes with ⟨_, same⟩
    rcases Option.some.inj same with rfl
    have listed : ∀ found ∈ discoverApiKeys answers.environment, found.1 ∈ knownProviders :=
      fun _ member => mem_discoverApiKeys member
    have connected := List.foldlRecOn
      (motive := fun current => Supplied tables current ∧ current.agents = config.agents)
      (discoverApiKeys answers.environment) Cli.addKnownProvider
      (b := { config with gateway :=
        { config.gateway with bind := bindAddress answers.lanIps answers.bindChoice } })
      ⟨⟨initialized.providers, initialized.models⟩, rfl⟩
      fun current holds found member => ⟨holds.1.addKnownProvider (listed found member), holds.2⟩
    have modelled := connected.1.addPickedModels answers.picked listed
    have chosen : ∀ {current : GatewayConfig} (keys : List Text) (choice : Text),
        Supplied tables current → Supplied tables (chooseActive current keys choice) ∧
          (chooseActive current keys choice).agents = current.agents := by
      intro current keys choice supplied
      rw [chooseActive]
      split
      · exact ⟨⟨supplied.providers, supplied.models⟩, rfl⟩
      · exact ⟨supplied, rfl⟩
    have active := chosen answers.modelKeys answers.activeChoice modelled.1
    refine ⟨⟨active.1.providers, active.1.models⟩, .inl ?_⟩
    exact initialized.populated (active.2.trans (modelled.2.trans connected.2))

/-- A configuration after any number of initializations. -/
theorem initialized_run {answers : List InitAnswers} {final : GatewayConfig}
    (runs : (configuring tables).run .empty (answers.map .init) = some final) :
    Initialized tables final := by
  have preserved : ∀ (past : List ConfigCommand) config command next, Initialized tables config →
      (∃ answers, command = .init answers) → (configuring tables).step config command = some next →
        Initialized tables next := by
    rintro past config command next initialized ⟨answers, rfl⟩ steps
    exact initialized.init steps
  refine Machine.run_invariant_guarded preserved [] (initialized_empty tables)
    (Machine.guarded_of_forall ?_ _) runs
  intro command member _
  rcases List.mem_map.mp member with ⟨answers, _, rfl⟩
  exact ⟨answers, rfl⟩

/-! ## The budget -/

/-- A new model of Anthropic thinks if it can. -/
theorem applySmartDefaults_anthropic (toLowercase : Text → Text) (provider modelId : Text) :
    let model := applySmartDefaults toLowercase { provider, modelId } "anthropic".toList
    model.thinking =
        (if anthropicSupportsExtendedThinking toLowercase modelId then
          some ⟨true, some defaultThinkingBudgetTokensAnthropic⟩
        else none) ∧
      model.maxTokens =
        some (if anthropicSupportsExtendedThinking toLowercase modelId then
          defaultThinkingMaxTokensAnthropic
        else defaultModelMaxTokens) := by
  have tier : detectTier toLowercase "anthropic".toList modelId =
      if anthropicSupportsExtendedThinking toLowercase modelId then .thinking else .standard := by
    rw [detectTier, if_neg (fun both => absurd both.1 (by decide)), if_pos rfl]
  rw [applySmartDefaults, tier]
  cases anthropicSupportsExtendedThinking toLowercase modelId <;> exact ⟨rfl, rfl⟩

theorem apiType_of_key {first second : KnownProvider} (firstKnown : first ∈ knownProviders)
    (secondKnown : second ∈ knownProviders) (same : first.key = second.key) :
    first.apiType = second.apiType := by
  have agree : (knownProviders.all fun first => knownProviders.all fun second =>
      first.key ≠ second.key || first.apiType = second.apiType) = true := by decide
  have here := List.all_eq_true.mp (List.all_eq_true.mp agree first firstKnown) second secondKnown
  simpa [same] using here

theorem apiType_of_anthropic {known : KnownProvider} (listed : known ∈ knownProviders)
    {baseUrl apiKey url key : Text}
    (creates : Agent.createProvider known.apiType baseUrl apiKey = .anthropic url key) :
    known.apiType = "anthropic".toList := by
  have types : (knownProviders.all fun known =>
      known.apiType = "anthropic".toList || known.apiType = "openai".toList) = true := by decide
  rcases (Bool.or_eq_true _ _).mp (List.all_eq_true.mp types known listed) with anthropic | openai
  · exact of_decide_eq_true anthropic
  · rw [of_decide_eq_true openai, Agent.createProvider, if_neg (by decide)] at creates
    cases creates

/-- No agent says anything about thinking. -/
theorem thinking_defaultAgents {config : GatewayConfig} (agents : config.agents = some defaultAgents)
    (kind : AgentKind) : (config.agentConfig kind).bind AgentConfig.thinking = none := by
  rw [GatewayConfig.agentConfig, agents]
  cases kind <;> rfl

/-- Two agents have a bound on the reply of their own. -/
theorem maxTokens_defaultAgents {config : GatewayConfig} (agents : config.agents = some defaultAgents)
    (kind : AgentKind) : (config.agentConfig kind).bind AgentConfig.maxTokens =
      match kind with
      | .code => some defaultCodeMaxTokens
      | .memory => some defaultMemoryMaxTokens
      | .main | .search | .advanced => none := by
  rw [GatewayConfig.agentConfig, agents]
  cases kind <;> rfl

/-- The parameters of a model and of the agent that uses it fit, unless the
agent is the one for the memory and the model thinks. -/
theorem initialized_respectsBudget_iff {answers : List InitAnswers} {final : GatewayConfig}
    (runs : (configuring tables).run .empty (answers.map .init) = some final) {kind : AgentKind}
    {resolved : Agent.ResolvedAgentModel} (resolves : resolveAgentModel final kind = some resolved)
    {url apiKey : Text} (anthropic : resolved.provider = .anthropic url apiKey)
    (messages : List ChatMessage) (system : Option Text) :
    (anthropicBody (resolved.chatRequest messages system)).RespectsBudget ↔
      ¬ (kind = .memory ∧
        anthropicSupportsExtendedThinking tables.toLowercase resolved.modelId = true) := by
  have initialized := initialized_run runs
  simp only [resolveAgentModel, Option.bind_eq_bind, Option.bind_eq_some_iff] at resolves
  rcases resolves with ⟨key, _, model, found, provider, present, same⟩
  rcases Option.some.inj same with rfl
  rcases initialized.models key model found with ⟨known, listed, modelId, rfl⟩
  rcases initialized.providers _ provider present with ⟨supplier, supplies, named, api⟩
  rw [applySmartDefaults_provider] at named
  have type : known.apiType = "anthropic".toList := by
    rw [← apiType_of_key supplies listed named]
    rw [api] at anthropic
    exact apiType_of_anthropic supplies anthropic
  have agents : final.agents = some defaultAgents := by
    rcases initialized.agents with populated | ⟨_, none⟩
    · exact populated
    · exact absurd (mem_iff_lookup.mpr ⟨_, found⟩) (none key)
  have parameters := applySmartDefaults_anthropic tables.toLowercase known.key modelId
  simp only [respectsBudget_anthropicBody, Agent.ResolvedAgentModel.chatRequest,
    thinking_defaultAgents agents, maxTokens_defaultAgents agents, Option.none_or, type,
    applySmartDefaults_modelId, parameters]
  cases anthropicSupportsExtendedThinking tables.toLowercase modelId <;> cases kind <;> decide

end

/-! ## A model that thinks -/

/-- An initialization that picks a model of Anthropic. -/
def thinkingAnswers : InitAnswers where
  environment := ⟨[("ANTHROPIC_API_KEY".toList, "sk".toList)], fun _ => none⟩
  lanIps := []
  bindChoice := []
  picked := fun _ => some "claude-sonnet-4-5".toList
  modelKeys := ["claude-sonnet-4-5".toList]
  activeChoice := []

theorem main_respectsBudget :
    ∃ final resolved, (configuring .ascii).run .empty [.init thinkingAnswers] = some final ∧
      resolveAgentModel final .main = some resolved ∧ resolved.modelId = "claude-sonnet-4-5".toList ∧
      (anthropicBody (resolved.chatRequest [] none)).RespectsBudget := by
  have evaluates : ((configuring .ascii).run .empty [.init thinkingAnswers]).any (fun final =>
      (resolveAgentModel final .main).any fun resolved =>
        resolved.provider = .anthropic "https://api.anthropic.com/v1".toList "sk".toList ∧
          resolved.modelId = "claude-sonnet-4-5".toList) = true := by
    decide +kernel
  rcases (Option.any_eq_true _ _).mp evaluates with ⟨final, runs, resolves⟩
  rcases (Option.any_eq_true _ _).mp resolves with ⟨resolved, found, holds⟩
  rcases of_decide_eq_true holds with ⟨anthropic, modelId⟩
  refine ⟨final, resolved, runs, found, modelId, ?_⟩
  have iff := @initialized_respectsBudget_iff .ascii [thinkingAnswers] final runs .main resolved found _ _
    anthropic [] none
  exact iff.mpr (by rintro ⟨⟨⟩, _⟩)

/-- The memory agent gets a larger budget than its reply may have tokens. -/
theorem memory_exceeds_budget :
    ∃ final resolved, (configuring .ascii).run .empty [.init thinkingAnswers] = some final ∧
      resolveAgentModel final .memory = some resolved ∧
      ¬ (anthropicBody (resolved.chatRequest [] none)).RespectsBudget := by
  have evaluates : ((configuring .ascii).run .empty [.init thinkingAnswers]).any (fun final =>
      (resolveAgentModel final .memory).any fun resolved =>
        ¬ (anthropicBody (resolved.chatRequest [] none)).RespectsBudget) = true := by
    decide +kernel
  rcases (Option.any_eq_true _ _).mp evaluates with ⟨final, runs, resolves⟩
  rcases (Option.any_eq_true _ _).mp resolves with ⟨resolved, found, holds⟩
  exact ⟨final, resolved, runs, found, of_decide_eq_true holds⟩

end Cli
end Rabb1tClaw
