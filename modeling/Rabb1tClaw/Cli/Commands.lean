import Rabb1tClaw.Cli.Defaults
import Rabb1tClaw.Foundations.Machine

namespace Rabb1tClaw
namespace Cli

open Foundations
open Config

/-!
# Commands that change the configuration

The commands load the configuration, change it and save it.  What the user
answers, what a provider lists and in which order a map iterates come with the
command.  A command that breaks off does not save.
-/

/-! ## Inputs -/

/-- The Unicode functions on which keys depend. -/
structure CharacterTables where
  toLowercase : Text → Text
  isAlphanumeric : Char → Bool

/-- The functions on ASCII text. -/
def CharacterTables.ascii : CharacterTables := ⟨List.map Char.toLower, Char.isAlphanum⟩

structure KnownProvider where
  envVar : Text
  key : Text
  apiType : Text
  baseUrl : Text
  displayName : Text
  deriving DecidableEq, Repr

/-- `KNOWN_PROVIDERS`. -/
def knownProviders : List KnownProvider :=
  [⟨"OPENAI_API_KEY".toList, "openai".toList, "openai".toList,
      "https://api.openai.com/v1".toList, "OpenAI".toList⟩,
    ⟨"ANTHROPIC_API_KEY".toList, "anthropic".toList, "anthropic".toList,
      "https://api.anthropic.com/v1".toList, "Anthropic".toList⟩,
    ⟨"DEEPINFRA_API_KEY".toList, "deepinfra".toList, "openai".toList,
      "https://api.deepinfra.com/v1/openai".toList, "DeepInfra".toList⟩]

/-- The entries of the `.env` file and the environment. -/
structure Environment where
  envFile : List (Text × Text)
  lookupVariable : Text → Option Text

/-- Discover API keys, first those of the file. -/
def discoverApiKeys (environment : Environment) : List (KnownProvider × Text) :=
  let fromFile := environment.envFile.flatMap fun entry =>
    (knownProviders.filter fun known => entry.1 = known.envVar ∧ entry.2 ≠ []).map fun known =>
      (known, entry.2)
  knownProviders.foldl
    (fun found known =>
      if found.any fun entry => entry.1.key = known.key then found
      else
        match environment.lookupVariable known.envVar with
        | none => found
        | some value => if value = [] then found else found ++ [(known, value)])
    fromFile

/-- `parse::<usize>` of an answer. -/
def parseUsize (answer : Text) : Option Nat :=
  let digits := if ['+'].isPrefixOf answer then answer.drop 1 else answer
  if digits = [] ∨ digits.any (fun char => !char.isDigit) = true then none
  else
    let value := digits.foldl (fun value char => 10 * value + (char.toNat - '0'.toNat)) 0
    if value < UInt64.size then some value else none

/-- The item with a number that counts from one. -/
def chosen {α : Type} (items : List α) (number : Nat) : Option α :=
  if number = 0 then none else items[number - 1]?

/-- Sanitize a model id into a key. -/
def sanitizeModelKey (tables : CharacterTables) (modelId : Text) : Text :=
  let lastPart := (modelId.reverse.takeWhile (· ≠ '/')).reverse
  let dashed := (tables.toLowercase lastPart).map fun char =>
    if tables.isAlphanumeric char || char = '-' then char else '-'
  ((dashed.dropWhile (· = '-')).reverse.dropWhile (· = '-')).reverse

/-! ## `init` -/

structure InitAnswers where
  environment : Environment
  lanIps : List Text
  bindChoice : Text
  /-- What `pick_model` returns for the provider at each position. -/
  picked : Nat → Option Text
  /-- The keys of the models in the order of the map. -/
  modelKeys : List Text
  activeChoice : Text

def bindAddress (lanIps : List Text) (choice : Text) : Text :=
  if choice = "1".toList then "0.0.0.0".toList
  else
    match (parseUsize choice).bind fun number => if 2 ≤ number then lanIps[number - 2]? else none with
    | some address => address
    | none => "127.0.0.1".toList

def addKnownProvider (config : GatewayConfig) (found : KnownProvider × Text) : GatewayConfig :=
  let provider : ProviderConfig :=
    ⟨found.1.apiType, found.1.baseUrl, found.2, some found.1.displayName⟩
  { config with providers := config.providers.insert found.1.key provider }

/-- Add the model that was picked for a provider; the first one becomes active. -/
def addPickedModel (tables : CharacterTables) (known : KnownProvider) (state : GatewayConfig × Bool) :
    Option Text → GatewayConfig × Bool
  | none => state
  | some modelId =>
      let modelKey := sanitizeModelKey tables modelId
      let model := applySmartDefaults tables.toLowercase { provider := known.key, modelId } known.apiType
      let activeModel := if state.2 then some modelKey else state.1.activeModel
      ({ state.1 with models := state.1.models.insert modelKey model, activeModel }, false)

/-- Choose the active model if there are several. -/
def chooseActive (config : GatewayConfig) (modelKeys : List Text) (choice : Text) : GatewayConfig :=
  if 1 < modelKeys.length then
    { config with activeModel :=
        (chosen modelKeys ((parseUsize choice).getD 1)).or config.activeModel }
  else config

def addPickedModels (tables : CharacterTables) (picked : Nat → Option Text)
    (foundKeys : List (KnownProvider × Text)) (config : GatewayConfig) : GatewayConfig :=
  (foundKeys.zipIdx.foldl
    (fun state entry => addPickedModel tables entry.1.1 state (picked entry.2)) (config, true)).1

def cmdInit (tables : CharacterTables) (config : GatewayConfig) (answers : InitAnswers) :
    Option GatewayConfig :=
  let foundKeys := discoverApiKeys answers.environment
  if foundKeys = [] then some config
  else
    let bound := { config with gateway :=
      { config.gateway with bind := bindAddress answers.lanIps answers.bindChoice } }
    let connected := foundKeys.foldl addKnownProvider bound
    let modelled := addPickedModels tables answers.picked foundKeys connected
    if answers.modelKeys.Perm modelled.models.keys then
      some (populateDefaultAgents (chooseActive modelled answers.modelKeys answers.activeChoice))
    else
      none

/-! ## `providers` -/

structure AddProviderAnswers where
  choice : Text
  name : Text
  url : Text
  api : Text
  environment : Environment
  typedKey : Text

/-- The provider of a choice: its type, address, key and name. -/
def chosenProvider (tables : CharacterTables) (answers : AddProviderAnswers) :
    Option (Text × Text × Text × Text) :=
  let number := (parseUsize answers.choice).getD 0
  match chosen knownProviders number with
  | some known => some (known.apiType, known.baseUrl, known.key, known.displayName)
  | none =>
      if number = knownProviders.length + 1 then
        some (if answers.api = [] then "openai".toList else answers.api, answers.url,
          (tables.toLowercase answers.name).map (fun char => if char = ' ' then '-' else char), answers.name)
      else none

def resolveApiKey (environment : Environment) (providerKey typedKey : Text) : Text :=
  match (discoverApiKeys environment).find? fun entry => entry.1.key = providerKey with
  | some entry => entry.2
  | none => typedKey

def cmdProvidersAdd (tables : CharacterTables) (config : GatewayConfig) (answers : AddProviderAnswers) :
    GatewayConfig :=
  match chosenProvider tables answers with
  | none => config
  | some (api, baseUrl, providerKey, displayName) =>
      let apiKey := resolveApiKey answers.environment providerKey answers.typedKey
      if apiKey = [] then config
      else { config with providers :=
        config.providers.insert providerKey ⟨api, baseUrl, apiKey, some displayName⟩ }

/-- The models without those of some keys. -/
def removeModels (models : AList fun _ : Text => ModelConfig) (keys : List Text) :
    AList fun _ : Text => ModelConfig :=
  keys.foldl (fun models key => models.erase key) models

/-- The keys of the models that reference a provider. -/
def orphanedModels (config : GatewayConfig) (name : Text) : List Text :=
  (config.models.entries.filter fun entry => entry.2.provider = name).map Sigma.fst

/-- The command and the order in which the remaining models iterate. -/
def cmdProvidersRemove (config : GatewayConfig) (name : Text) (order : List Text) :
    Option GatewayConfig :=
  if name ∈ config.providers then
    let models := removeModels config.models (orphanedModels config name)
    let activeModel :=
      match config.activeModel with
      | some active => if active ∈ models then some active else order.head?
      | none => none
    if order.Perm models.keys then
      some { config with providers := config.providers.erase name, models, activeModel }
    else none
  else some config

/-! ## `models` -/

structure AddModelAnswers where
  /-- The names of the providers in the order of the map. -/
  providerKeys : List Text
  choice : Text
  /-- What `pick_model` returns. -/
  picked : Option Text
  typedId : Text
  keyInput : Text

def cmdModelsAdd (tables : CharacterTables) (config : GatewayConfig) (answers : AddModelAnswers) :
    Option GatewayConfig :=
  if answers.providerKeys.Perm config.providers.keys then
    match chosen answers.providerKeys ((parseUsize answers.choice).getD 1) with
    | none => some config
    | some providerKey =>
        (config.providers.lookup providerKey).map fun provider =>
          let modelId := answers.picked.getD answers.typedId
          let modelKey :=
            if answers.keyInput = [] then sanitizeModelKey tables modelId else answers.keyInput
          if modelId = [] ∨ modelKey ∈ config.models then config
          else
            let model :=
              applySmartDefaults tables.toLowercase { provider := providerKey, modelId } provider.api
            let activeModel := if config.models.keys = [] then some modelKey else config.activeModel
            { config with models := config.models.insert modelKey model, activeModel }
  else none

def cmdModelsRemove (config : GatewayConfig) (key : Text) (order : List Text) : Option GatewayConfig :=
  if key ∈ config.models then
    let models := config.models.erase key
    let activeModel := if config.activeModel = some key then order.head? else config.activeModel
    if order.Perm models.keys then some { config with models, activeModel } else none
  else some config

def cmdModelsSetActive (config : GatewayConfig) (key : Text) : GatewayConfig :=
  if key ∈ config.models then { config with activeModel := some key } else config

/-! ## All commands -/

inductive ConfigCommand where
  | init (answers : InitAnswers)
  | providersAdd (answers : AddProviderAnswers)
  | providersRemove (name : Text) (order : List Text)
  | modelsAdd (answers : AddModelAnswers)
  | modelsRemove (key : Text) (order : List Text)
  | modelsSetActive (key : Text)

/-- Commands on the saved configuration. -/
def configuring (tables : CharacterTables) : Machine GatewayConfig ConfigCommand where
  step config
    | .init answers => cmdInit tables config answers
    | .providersAdd answers => some (cmdProvidersAdd tables config answers)
    | .providersRemove name order => cmdProvidersRemove config name order
    | .modelsAdd answers => cmdModelsAdd tables config answers
    | .modelsRemove key order => cmdModelsRemove config key order
    | .modelsSetActive key => some (cmdModelsSetActive config key)

end Cli
end Rabb1tClaw
