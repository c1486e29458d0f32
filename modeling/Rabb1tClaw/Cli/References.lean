import Rabb1tClaw.Agent.Resolution
import Rabb1tClaw.Cli.Commands

namespace Rabb1tClaw
namespace Cli

open Foundations
open Config
open Agent (resolveAgentModel resolveAgentModel_isSome_iff)

/-!
# References in the configuration

Models name their providers, the active model and the agents name models.
The commands keep these references resolvable, with one exception.  A command
that removes models finds another active model, but an agent that names a
removed model goes on naming it, and is then without a model although others
may be left.
-/

/-- Every reference leads to a model or a provider, and a model is active if
there is one. -/
structure Resolvable (config : GatewayConfig) : Prop where
  providers : ∀ key model, config.models.lookup key = some model → model.provider ∈ config.providers
  agents : ∀ kind key, config.agentModel kind = some key → key ∈ config.models
  active : ∀ key, config.activeModel = some key → key ∈ config.models
  unset : config.activeModel = none → ∀ key, key ∉ config.models

/-- Every agent has a model as long as there is one. -/
def AgentsServed (config : GatewayConfig) : Prop :=
  (∃ key, key ∈ config.models) → ∀ kind, (resolveAgentModel config kind).isSome = true

/-- No agent names a model that the command removes. -/
def SparesAgents (config : GatewayConfig) : ConfigCommand → Prop
  | .modelsRemove key _ => ∀ kind, config.agentModel kind ≠ some key
  | .providersRemove name _ => ∀ kind key model, config.agentModel kind = some key →
      config.models.lookup key = some model → model.provider ≠ name
  | _ => True

theorem Resolvable.agentsServed {config : GatewayConfig} (resolvable : Resolvable config) :
    AgentsServed config := by
  rintro ⟨present, member⟩ kind
  rw [resolveAgentModel_isSome_iff]
  have named : ∃ key, (config.agentModel kind).or config.activeModel = some key ∧ key ∈ config.models := by
    cases own : config.agentModel kind with
    | some key => exact ⟨key, rfl, resolvable.agents kind key own⟩
    | none =>
        cases active : config.activeModel with
        | some key => exact ⟨key, rfl, resolvable.active key active⟩
        | none => exact absurd member (resolvable.unset active present)
  rcases named with ⟨key, named, known⟩
  rcases mem_iff_lookup.mp known with ⟨model, found⟩
  exact ⟨key, model, named, found, resolvable.providers key model found⟩

/-! ## Commands that add -/

theorem mem_of_chosen {α : Type} {items : List α} {number : Nat} {item : α}
    (picked : chosen items number = some item) : item ∈ items := by
  rw [chosen] at picked
  split at picked
  · cases picked
  · exact List.mem_of_getElem? picked

theorem mem_connected {foundKeys : List (KnownProvider × Text)} {found : KnownProvider × Text}
    (member : found ∈ foundKeys) (config : GatewayConfig) :
    found.1.key ∈ (foundKeys.foldl addKnownProvider config).providers := by
  rcases List.append_of_mem member with ⟨before, after, rfl⟩
  rw [List.foldl_append, List.foldl_cons]
  refine List.foldlRecOn (motive := fun config => found.1.key ∈ config.providers) after addKnownProvider
    ?_ fun config present other _ => ?_
  · exact AList.mem_insert _ |>.mpr (.inl rfl)
  · exact AList.mem_insert _ |>.mpr (.inr present)

namespace Resolvable

variable {config : GatewayConfig}

theorem insertProvider (resolvable : Resolvable config) (name : Text) (provider : ProviderConfig) :
    Resolvable { config with providers := config.providers.insert name provider } where
  providers := fun key model found =>
    AList.mem_insert _ |>.mpr (.inr (resolvable.providers key model found))
  agents := resolvable.agents
  active := resolvable.active
  unset := resolvable.unset

/-- A model of a known provider may be added, if it becomes active or another
one is. -/
theorem insertModel (resolvable : Resolvable config) {key : Text} {model : ModelConfig}
    {activeModel : Option Text} (known : model.provider ∈ config.providers)
    (activates : activeModel = some key ∨ activeModel = config.activeModel ∧ activeModel ≠ none) :
    Resolvable { config with models := config.models.insert key model, activeModel } where
  providers := by
    intro other model' found
    by_cases same : other = key
    · subst same
      rw [AList.lookup_insert] at found
      exact Option.some.inj found ▸ known
    · rw [AList.lookup_insert_ne same] at found
      exact resolvable.providers other model' found
  agents := fun kind other named => AList.mem_insert _ |>.mpr (.inr (resolvable.agents kind other named))
  active := by
    rintro other rfl
    rcases activates with new | ⟨same, _⟩
    · exact AList.mem_insert _ |>.mpr (.inl (Option.some.inj new))
    · exact AList.mem_insert _ |>.mpr (.inr (resolvable.active other same.symm))
  unset := by
    rintro rfl
    rcases activates with new | ⟨_, set⟩
    · cases new
    · exact absurd rfl set

theorem activate (resolvable : Resolvable config) {key : Text} (known : key ∈ config.models) :
    Resolvable { config with activeModel := some key } where
  providers := resolvable.providers
  agents := resolvable.agents
  active := by
    rintro other ⟨⟩
    exact known
  unset := by rintro ⟨⟩

theorem populateDefaultAgents (resolvable : Resolvable config) :
    Resolvable (Cli.populateDefaultAgents config) where
  providers := resolvable.providers
  agents := fun kind key named =>
    resolvable.agents kind key (agentModel_populateDefaultAgents config kind ▸ named)
  active := resolvable.active
  unset := resolvable.unset

theorem chooseActive (resolvable : Resolvable config) {modelKeys : List Text}
    (order : modelKeys.Perm config.models.keys) (choice : Text) :
    Resolvable (Cli.chooseActive config modelKeys choice) := by
  rw [Cli.chooseActive]
  split
  · cases picked : chosen modelKeys ((parseUsize choice).getD 1) with
    | none => exact resolvable
    | some key =>
        exact resolvable.activate (order.subset (mem_of_chosen picked))
  · exact resolvable

/-- What holds while models are added: once one is added, one is active. -/
def Adding (config : GatewayConfig) (state : GatewayConfig × Bool) : Prop :=
  Resolvable state.1 ∧ state.1.providers = config.providers ∧ (state.2 = false → state.1.activeModel ≠ none)

theorem addPickedModel {tables : CharacterTables} {state : GatewayConfig × Bool}
    (adding : Adding config state) {known : KnownProvider} (present : known.key ∈ config.providers)
    (picked : Option Text) : Adding config (Cli.addPickedModel tables known state picked) := by
  rcases adding with ⟨sound, same, set⟩
  cases picked with
  | none => exact ⟨sound, same, set⟩
  | some modelId =>
      rcases state with ⟨current, first⟩
      have connected : known.key ∈ current.providers := same ▸ present
      cases first with
      | true =>
          refine ⟨sound.insertModel ?_ (.inl rfl), same, fun _ => by rintro ⟨⟩⟩
          rwa [applySmartDefaults_provider]
      | false =>
          refine ⟨sound.insertModel ?_ (.inr ⟨rfl, set rfl⟩), same, fun _ => set rfl⟩
          rwa [applySmartDefaults_provider]

theorem addPickedModels (resolvable : Resolvable config) (tables : CharacterTables)
    (picked : Nat → Option Text) {foundKeys : List (KnownProvider × Text)}
    (known : ∀ found ∈ foundKeys, found.1.key ∈ config.providers) :
    Resolvable (Cli.addPickedModels tables picked foundKeys config) := by
  have start : Adding config (config, true) := ⟨resolvable, rfl, fun first => Bool.noConfusion first⟩
  have added := List.foldlRecOn (motive := Adding config) foundKeys.zipIdx
    (fun state entry => Cli.addPickedModel tables entry.1.1 state (picked entry.2)) start
    fun state adding entry member =>
      addPickedModel adding (known entry.1 (List.fst_mem_of_mem_zipIdx member)) (picked entry.2)
  exact added.1

theorem init (resolvable : Resolvable config) {tables : CharacterTables} {answers : InitAnswers}
    {next : GatewayConfig} (initializes : cmdInit tables config answers = some next) :
    Resolvable next := by
  rw [cmdInit] at initializes
  split at initializes
  · exact Option.some.inj initializes ▸ resolvable
  · rcases Option.ite_none_right_eq_some.mp initializes with ⟨order, same⟩
    rcases Option.some.inj same with rfl
    have bound : Resolvable { config with gateway :=
        { config.gateway with bind := bindAddress answers.lanIps answers.bindChoice } } :=
      { resolvable with }
    have connected := List.foldlRecOn (motive := Resolvable) (discoverApiKeys answers.environment)
      addKnownProvider bound fun _ sound _ _ => sound.insertProvider _ _
    have modelled := connected.addPickedModels tables answers.picked fun found member =>
      mem_connected member _
    exact (modelled.chooseActive order answers.activeChoice).populateDefaultAgents

theorem providersAdd (resolvable : Resolvable config) (tables : CharacterTables)
    (answers : AddProviderAnswers) : Resolvable (cmdProvidersAdd tables config answers) := by
  rw [cmdProvidersAdd]
  split
  · exact resolvable
  · dsimp only
    split
    · exact resolvable
    · exact resolvable.insertProvider _ _

theorem modelsAdd (resolvable : Resolvable config) {tables : CharacterTables}
    {answers : AddModelAnswers} {next : GatewayConfig}
    (adds : cmdModelsAdd tables config answers = some next) : Resolvable next := by
  rw [cmdModelsAdd] at adds
  rcases Option.ite_none_right_eq_some.mp adds with ⟨_, adds⟩
  split at adds
  · exact Option.some.inj adds ▸ resolvable
  · rename_i providerKey _
    rcases Option.map_eq_some_iff.mp adds with ⟨provider, found, rfl⟩
    dsimp only
    generalize (if answers.keyInput = [] then _ else answers.keyInput) = modelKey
    split
    · exact resolvable
    · refine resolvable.insertModel ?_ ?_
      · rw [applySmartDefaults_provider]
        exact mem_iff_lookup.mpr ⟨provider, found⟩
      · split
        · exact .inl rfl
        · rename_i several
          refine .inr ⟨rfl, fun unset => several ?_⟩
          exact List.eq_nil_iff_forall_not_mem.mpr (resolvable.unset unset)

theorem modelsSetActive (resolvable : Resolvable config) (key : Text) :
    Resolvable (cmdModelsSetActive config key) := by
  rw [cmdModelsSetActive]
  split
  · rename_i known
    exact resolvable.activate known
  · exact resolvable

end Resolvable

/-! ## Commands that remove -/

theorem lookup_removeModels {models : AList fun _ : Text => ModelConfig} {keys : List Text} {key : Text} :
    (removeModels models keys).lookup key = if key ∈ keys then none else models.lookup key := by
  induction keys generalizing models with
  | nil => rfl
  | cons removed keys inductionHypothesis =>
      rw [removeModels, List.foldl_cons, ← removeModels, inductionHypothesis]
      by_cases later : key ∈ keys
      · rw [if_pos later, if_pos (List.mem_cons_of_mem removed later)]
      · rw [if_neg later]
        by_cases same : key = removed
        · subst same
          rw [AList.lookup_erase, if_pos List.mem_cons_self]
        · rw [AList.lookup_erase_ne same, if_neg]
          exact List.not_mem_cons_of_ne_of_not_mem same later

theorem mem_orphanedModels {config : GatewayConfig} {name key : Text} :
    key ∈ orphanedModels config name ↔
      ∃ model, config.models.lookup key = some model ∧ model.provider = name := by
  rw [orphanedModels, List.mem_map]
  constructor
  · rintro ⟨⟨key, model⟩, member, rfl⟩
    rcases List.mem_filter.mp member with ⟨present, orphaned⟩
    exact ⟨model, AList.mem_lookup_iff.mpr present, of_decide_eq_true orphaned⟩
  · rintro ⟨model, found, orphaned⟩
    refine ⟨⟨key, model⟩, List.mem_filter.mpr ⟨AList.mem_lookup_iff.mp found, ?_⟩, rfl⟩
    exact decide_eq_true orphaned

/-- The models that stay with a provider removed are those of the others. -/
theorem lookup_removeOrphaned {config : GatewayConfig} {name key : Text} {model : ModelConfig} :
    (removeModels config.models (orphanedModels config name)).lookup key = some model ↔
      config.models.lookup key = some model ∧ model.provider ≠ name := by
  rw [lookup_removeModels]
  simp only [mem_orphanedModels]
  constructor
  · intro found
    rcases Option.ite_none_left_eq_some.mp found with ⟨kept, found⟩
    exact ⟨found, fun orphaned => kept ⟨model, found, orphaned⟩⟩
  · rintro ⟨found, kept⟩
    rw [if_neg, found]
    rintro ⟨other, found', orphaned⟩
    rcases Option.some.inj (found.symm.trans found') with rfl
    exact kept orphaned

theorem agentModel_congr {config next : GatewayConfig} (same : next.agents = config.agents)
    (kind : AgentKind) : next.agentModel kind = config.agentModel kind := by
  rw [GatewayConfig.agentModel, GatewayConfig.agentModel, GatewayConfig.agentConfig,
    GatewayConfig.agentConfig, same]

/-- What is left after a removal is resolvable if and only if every model that
an agent names is left. -/
theorem Resolvable.remove_iff {config next : GatewayConfig} (resolvable : Resolvable config)
    {order : List Text} (agents : next.agents = config.agents)
    (kept : ∀ key model, next.models.lookup key = some model →
      config.models.lookup key = some model ∧ model.provider ∈ next.providers)
    (lists : order.Perm next.models.keys)
    (active : next.activeModel =
      config.activeModel.bind fun active => if active ∈ next.models then some active else order.head?) :
    Resolvable next ↔ ∀ kind key, config.agentModel kind = some key → key ∈ next.models := by
  constructor
  · intro still kind key named
    exact still.agents kind key ((agentModel_congr agents kind).trans named)
  · intro named
    refine ⟨fun key model found => (kept key model found).2, fun kind key own => ?_, fun key selected => ?_,
      fun unset key member => ?_⟩
    · exact named kind key ((agentModel_congr agents kind).symm.trans own)
    · rw [active] at selected
      rcases Option.bind_eq_some_iff.mp selected with ⟨before, _, repaired⟩
      split at repaired
      · rename_i present
        exact Option.some.inj repaired ▸ present
      · exact lists.subset (List.mem_of_head? repaired)
    · rcases mem_iff_lookup.mp member with ⟨model, found⟩
      rw [active] at unset
      cases before : config.activeModel with
      | none =>
          have present : key ∈ config.models := mem_iff_lookup.mpr ⟨model, (kept key model found).1⟩
          exact resolvable.unset before key present
      | some selected =>
          rw [before, Option.bind_some] at unset
          split at unset
          · cases unset
          · rw [List.head?_eq_none_iff.mp unset] at lists
            have listed := lists.symm.subset (AList.mem_keys.mp member)
            cases listed

theorem Resolvable.modelsRemove {config next : GatewayConfig} (resolvable : Resolvable config) {key : Text}
    {order : List Text} (removes : cmdModelsRemove config key order = some next) :
    (∀ kind, config.agentModel kind ≠ some key) ↔ Resolvable next := by
  rw [cmdModelsRemove] at removes
  split at removes
  · rename_i present
    rcases Option.ite_none_right_eq_some.mp removes with ⟨lists, same⟩
    rcases Option.some.inj same with rfl
    refine Iff.trans ?_ (Iff.symm (resolvable.remove_iff ?_ ?_ lists ?_))
    · constructor
      · intro spared kind other named
        refine AList.mem_erase.mpr ⟨?_, resolvable.agents kind other named⟩
        rintro rfl
        exact spared kind named
      · intro named kind own
        exact (AList.mem_erase.mp (named kind key own)).1 rfl
    · rfl
    · intro other model found
      have different : other ≠ key := by
        rintro rfl
        rw [AList.lookup_erase] at found
        cases found
      rw [AList.lookup_erase_ne different] at found
      exact ⟨found, resolvable.providers other model found⟩
    · cases selected : config.activeModel with
      | none => rfl
      | some active =>
          have known := resolvable.active active selected
          rw [Option.bind_some]
          by_cases own : active = key
          · subst own
            rw [if_pos rfl, if_neg (fun member => (AList.mem_erase.mp member).1 rfl)]
          · rw [if_neg (fun same => own (Option.some.inj same)), if_pos (AList.mem_erase.mpr ⟨own, known⟩)]
  · rename_i absent
    rcases Option.some.inj removes with rfl
    refine iff_of_true (fun kind own => absent ?_) resolvable
    exact resolvable.agents kind key own

theorem Resolvable.providersRemove {config next : GatewayConfig} (resolvable : Resolvable config)
    {name : Text} {order : List Text} (removes : cmdProvidersRemove config name order = some next) :
    (∀ kind key model, config.agentModel kind = some key →
      config.models.lookup key = some model → model.provider ≠ name) ↔ Resolvable next := by
  rw [cmdProvidersRemove] at removes
  split at removes
  · rename_i present
    rcases Option.ite_none_right_eq_some.mp removes with ⟨lists, same⟩
    rcases Option.some.inj same with rfl
    refine Iff.trans ?_ (Iff.symm (resolvable.remove_iff ?_ ?_ lists ?_))
    · refine forall_congr' fun kind => forall_congr' fun key => ?_
      constructor
      · intro spared named
        rcases mem_iff_lookup.mp (resolvable.agents kind key named) with ⟨model, found⟩
        exact mem_iff_lookup.mpr ⟨model, lookup_removeOrphaned.mpr ⟨found, spared model named found⟩⟩
      · intro remains model named found
        rcases mem_iff_lookup.mp (remains named) with ⟨other, still⟩
        rcases lookup_removeOrphaned.mp still with ⟨found', kept⟩
        rcases Option.some.inj (found.symm.trans found') with rfl
        exact kept
    · rfl
    · intro key model found
      rcases lookup_removeOrphaned.mp found with ⟨before, kept⟩
      exact ⟨before, AList.mem_erase.mpr ⟨kept, resolvable.providers key model before⟩⟩
    · cases config.activeModel <;> rfl
  · rename_i absent
    rcases Option.some.inj removes with rfl
    refine iff_of_true (fun kind key model _ found orphaned => absent ?_) resolvable
    exact orphaned ▸ resolvable.providers key model found

/-! ## Runs of commands -/

/-- One command keeps the references if and only if it spares the agents. -/
theorem Resolvable.step_iff {tables : CharacterTables} {config next : GatewayConfig}
    {command : ConfigCommand} (resolvable : Resolvable config)
    (steps : (configuring tables).step config command = some next) :
    SparesAgents config command ↔ Resolvable next := by
  cases command with
  | init answers => exact iff_of_true trivial (resolvable.init steps)
  | providersAdd answers =>
      exact iff_of_true trivial (Option.some.inj steps ▸ resolvable.providersAdd tables answers)
  | providersRemove name order => exact resolvable.providersRemove steps
  | modelsAdd answers => exact iff_of_true trivial (resolvable.modelsAdd steps)
  | modelsRemove key order => exact resolvable.modelsRemove steps
  | modelsSetActive key =>
      exact iff_of_true trivial (Option.some.inj steps ▸ resolvable.modelsSetActive key)

/-- The references stay resolvable throughout, and every agent has a model, if
and only if no command removes a model that an agent names. -/
theorem configuring_resolvable_iff (tables : CharacterTables) {config final : GatewayConfig}
    {commands : List ConfigCommand} (resolvable : Resolvable config)
    (runs : (configuring tables).run config commands = some final) :
    (configuring tables).Throughout (fun config => Resolvable config ∧ AgentsServed config) config commands ↔
      (configuring tables).Guarded SparesAgents config commands := by
  refine Machine.throughout_iff_guarded ?_ ⟨resolvable, resolvable.agentsServed⟩ runs
  rintro current command _ next ⟨sound, _⟩ steps
  rw [sound.step_iff steps]
  exact (and_iff_left_of_imp Resolvable.agentsServed).symm

/-! ## An agent with a model of its own -/

/-- Two models, of which the memory agent names the one that is not active. -/
def twoModels : GatewayConfig where
  providers := (∅ : AList fun _ : Text => ProviderConfig).insert "openai".toList
    ⟨"openai".toList, "https://api.openai.com/v1".toList, "sk".toList, none⟩
  models := ((∅ : AList fun _ : Text => ModelConfig).insert "large".toList
    { provider := "openai".toList, modelId := "gpt-large".toList }).insert "small".toList
    { provider := "openai".toList, modelId := "gpt-small".toList }
  activeModel := some "large".toList
  agents := some { memory := some { model := some "small".toList } }

theorem twoModels_resolvable : Resolvable twoModels where
  providers := by
    have known : ∀ entry ∈ twoModels.models.entries, entry.2.provider ∈ twoModels.providers := by decide
    intro key model found
    exact known ⟨key, model⟩ (AList.mem_lookup_iff.mp found)
  agents := by
    intro kind key named
    cases kind with
    | memory =>
        rcases Option.some.inj named with rfl
        decide
    | _ => cases named
  active := by
    rintro key ⟨⟩
    decide
  unset := by rintro ⟨⟩

/-- The model that no agent names is removed. -/
def sparingCommands : List ConfigCommand :=
  [.modelsSetActive "small".toList, .modelsRemove "large".toList ["small".toList]]

theorem sparingCommands_run : ((configuring .ascii).run twoModels sparingCommands).isSome = true := by
  decide +kernel

theorem configuring_twoModels :
    (configuring .ascii).Throughout (fun config => Resolvable config ∧ AgentsServed config) twoModels
      sparingCommands := by
  rcases Option.isSome_iff_exists.mp sparingCommands_run with ⟨final, runs⟩
  refine (configuring_resolvable_iff .ascii twoModels_resolvable runs).mpr ⟨trivial, ?_⟩
  rintro activated ⟨⟩
  refine ⟨fun kind => ?_, fun _ _ => trivial⟩
  cases kind <;> decide

/-- Removing the model of the memory agent leaves the agent without one. -/
theorem modelsRemove_strands_agent :
    Resolvable twoModels ∧ ∃ next,
      (configuring .ascii).step twoModels (.modelsRemove "small".toList ["large".toList]) = some next ∧
        "large".toList ∈ next.models ∧ resolveAgentModel next .memory = none ∧ ¬ Resolvable next := by
  have removes : (cmdModelsRemove twoModels "small".toList ["large".toList]).any (fun next =>
      "large".toList ∈ next.models ∧ (resolveAgentModel next .memory).isNone = true) = true := by
    decide +kernel
  rcases (Option.any_eq_true _ _).mp removes with ⟨next, steps, holds⟩
  rcases of_decide_eq_true holds with ⟨left, stranded⟩
  refine ⟨twoModels_resolvable, next, steps, left, Option.isNone_iff_eq_none.mp stranded, fun sound => ?_⟩
  have served := sound.agentsServed ⟨_, left⟩ .memory
  rw [Option.isNone_iff_eq_none.mp stranded] at served
  cases served

end Cli
end Rabb1tClaw
