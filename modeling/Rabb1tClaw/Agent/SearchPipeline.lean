import Rabb1tClaw.Agent.ExtractJson
import Rabb1tClaw.Agent.Resolution
import Rabb1tClaw.Agent.SearchResults
import Rabb1tClaw.Agent.Tracking

namespace Rabb1tClaw
namespace Agent
namespace Search

open Foundations
open Config

/-!
# The search agent

A search asks a model for a plan, sends the requests of the plan, fetches the
pages that are found, puts as much as the budget allows into one text and asks
the model again, for an answer from this text.

Each phase up to the last goes on when something fails: without a plan the
query itself is searched for, and a request or a page that fails is left out.
The last one does not.  Without a model it fails, although the text is there.
-/

/-! ## Limits and plans -/

structure SearchLimits where
  maxResults : Nat
  maxNews : Nat
  maxPeopleAlsoAsk : Nat
  maxTotalTokens : Nat
  maxTotalTokensThorough : Nat
  maxPageTokens : Nat
  fetchTimeoutSecs : Nat

/-- `SearchLimits::from_config`. -/
def SearchLimits.fromConfig (config : GatewayConfig) : SearchLimits :=
  let search := config.agentConfig .search
  { maxResults := (search.bind AgentConfig.maxResults).getD Cli.defaultSearchMaxResults
    maxNews := (search.bind AgentConfig.maxNews).getD Cli.defaultSearchMaxNews
    maxPeopleAlsoAsk := (search.bind AgentConfig.maxPeopleAlsoAsk).getD Cli.defaultSearchMaxPeopleAlsoAsk
    maxTotalTokens := (search.bind AgentConfig.maxTotalTokens).getD Cli.defaultSearchMaxTotalTokens
    maxTotalTokensThorough :=
      (search.bind AgentConfig.maxTotalTokensThorough).getD Cli.defaultSearchMaxTotalTokensThorough
    maxPageTokens := (search.bind AgentConfig.maxPageTokens).getD Cli.defaultSearchMaxPageTokens
    fetchTimeoutSecs := (search.bind AgentConfig.fetchTimeoutSecs).getD Cli.defaultSearchFetchTimeoutSecs }

structure AnalyzedQuery where
  q : Text
  type : Text
  gl : Option Text
  hl : Option Text
  tbs : Option Text
  location : Option Text
  deriving DecidableEq, Repr

structure AnalyzeOutput where
  depth : Text
  queries : List AnalyzedQuery
  deriving DecidableEq, Repr

/-- Fallback when there is no plan. -/
def defaultPlan (query : Text) : AnalyzeOutput :=
  ⟨"thorough".toList, [⟨query, "search".toList, none, none, none, none⟩]⟩

/-- A variant of a query with another type and time filter. -/
def makeVariant (query : AnalyzedQuery) (type : Text) (tbs : Option Text) : AnalyzedQuery :=
  { query with type, tbs }

/-- A quick plan has one search for each query, another three. -/
def searchQueries (plan : AnalyzeOutput) : List AnalyzedQuery :=
  plan.queries.flatMap fun query =>
    if plan.depth = "quick".toList then
      [makeVariant query "search".toList (some "qdr:d".toList)]
    else
      [makeVariant query "search".toList query.tbs,
        makeVariant query "search".toList (some "qdr:d".toList), makeVariant query "news".toList none]

/-- What is posted to the search engine. -/
structure SerperRequest where
  endpoint : Text
  apiKey : Text
  q : Text
  num : Nat
  gl : Option Text
  hl : Option Text
  tbs : Option Text
  location : Option Text

/-- The request of `fetch_serper`. -/
def serperRequest (apiKey : Text) (query : AnalyzedQuery) (num : Nat) : SerperRequest where
  endpoint :=
    if query.type = "news".toList then "https://google.serper.dev/news".toList
    else "https://google.serper.dev/search".toList
  apiKey
  q := query.q
  num
  gl := query.gl
  hl := query.hl
  tbs := query.tbs
  location := query.location

/-! ## The context -/

/-- The fetched content, or else the snippet. -/
def contentSection (result : EnrichedResult) : Text :=
  if result.content = [] then result.snippet else result.content

def contextEntry (result : EnrichedResult) : Text :=
  let datePart := if result.date = [] then [] else "\nDate: ".toList ++ result.date
  "Title: ".toList ++ result.title ++ "\nURL: ".toList ++ result.url ++ datePart ++
    "\nSnippet: ".toList ++ result.snippet ++ "\nContent: ".toList ++ contentSection result ++ ['\n']

/-- Entries up to the first that exceeds the budget. -/
def contextParts (countTokens : Text → Nat) (maxTotalTokens : Nat) : Nat → List EnrichedResult → List Text
  | _, [] => []
  | totalTokens, result :: results =>
      let entry := contextEntry result
      if totalTokens + countTokens entry > maxTotalTokens then
        []
      else
        entry :: contextParts countTokens maxTotalTokens (totalTokens + countTokens entry) results

def createContext (countTokens : Text → Nat) (results : List EnrichedResult) (maxTotalTokens : Nat) : Text :=
  List.intercalate ['\n'] (contextParts countTokens maxTotalTokens 0 results)

/-! ## The pipeline -/

/-- What a search takes from elsewhere. -/
structure SearchWorld where
  /-- The variable `SERP_API_KEY`. -/
  apiKey : Option Text
  config : GatewayConfig
  /-- The texts of the two compiled-in prompts. -/
  analyzePrompt : Text
  synthesizePrompt : Text
  /-- The reply to a request, collected from its stream. -/
  chat : LlmProvider → ChatRequest → Except Text Text
  /-- `serde_json::from_str::<AnalyzeOutput>`. -/
  parsePlan : Text → Except Text AnalyzeOutput
  /-- The response to a request, which may differ for two equal requests. -/
  fetchSerper : Nat → SerperRequest → Except Text SerperResponse
  fetchAndExtract : Text → Nat → Except Text Text
  /-- How a JSON value is printed. -/
  display : JsonValue → Text
  truncate : Text → Nat → Text
  countTokens : Text → Nat

namespace SearchWorld

variable (world : SearchWorld)

/-- The model of the search agent. -/
def resolved : Option ResolvedAgentModel := resolveAgentModel world.config .search

/-- `call_llm`. -/
def callLlm (resolved : ResolvedAgentModel) (systemPrompt userContent : Text) : Except Text Text :=
  world.chat resolved.provider (resolved.chatRequest [.fromUser userContent] (some systemPrompt))

/-- The plan in a JSON text. -/
def readPlan (json response : Text) : Except Text AnalyzeOutput :=
  match world.parsePlan json with
  | .error error => .error ("plan JSON parse error: ".toList ++ error ++ " — raw: ".toList ++ response)
  | .ok output =>
      if output.queries = [] then
        .error "plan returned empty queries".toList
      else
        .ok { output with
          depth :=
            if output.depth = "quick".toList ∨ output.depth = "thorough".toList then output.depth
            else "thorough".toList }

/-- `phase1_analyze`, or `none` where it panics. -/
def phase1Analyze (resolved : ResolvedAgentModel) (query : Text) : Option (Except Text AnalyzeOutput) :=
  match world.callLlm resolved world.analyzePrompt query with
  | .error error => some (.error error)
  | .ok response => (extractJson response).map fun json => world.readPlan json response

/-- The plan of a search. -/
def plan (query : Text) : Option AnalyzeOutput :=
  match world.resolved with
  | none => some (defaultPlan query)
  | some resolved =>
      (world.phase1Analyze resolved query).map fun
        | .ok plan => plan
        | .error _ => defaultPlan query

/-- The responses to the requests of a plan, in order. -/
def responses (limits : SearchLimits) (apiKey : Text) (plan : AnalyzeOutput) :
    List (Except Text SerperResponse) :=
  let requests := (searchQueries plan).map fun query =>
    serperRequest apiKey query (if query.type = "news".toList then limits.maxNews else limits.maxResults)
  requests.zipIdx.map fun request => world.fetchSerper request.2 request.1

def fetching (limits : SearchLimits) : Fetching :=
  ⟨world.fetchAndExtract, world.truncate, limits.maxPageTokens, limits.fetchTimeoutSecs⟩

/-- The raw context: the phases between the two calls of the model. -/
def rawContext (limits : SearchLimits) (apiKey : Text) (plan : AnalyzeOutput) : Option (Except Text Text) :=
  let allResults := collectAndDedup world.display (world.responses limits apiKey plan) limits.maxPeopleAlsoAsk
  if allResults = [] then
    some (.error "no search results found".toList)
  else
    match enrichResults (world.fetching limits) allResults with
    | none => none
    | some enriched =>
        if enriched = [] then
          some (.error "no results could be enriched".toList)
        else
          let totalBudget :=
            if plan.depth = "thorough".toList then limits.maxTotalTokensThorough else limits.maxTotalTokens
          some (.ok (createContext world.countTokens enriched totalBudget))

def synthInput (query rawContext : Text) : Text :=
  "## Original Query\n\n".toList ++ query ++ "\n\n## Search Results\n\n".toList ++ rawContext

/-- The last phase. -/
def synthesize (query rawContext : Text) : Except Text Text :=
  match world.resolved with
  | none => .error "no search model configured for synthesis".toList
  | some resolved => world.callLlm resolved world.synthesizePrompt (synthInput query rawContext)

/-- `run_search_inner`, or `none` where it panics. -/
def runSearchInner (limits : SearchLimits) (query : Text) : Option (Except Text Text) :=
  match world.apiKey with
  | none => some (.error "SERP_API_KEY not set".toList)
  | some apiKey =>
      match world.plan query with
      | none => none
      | some plan =>
          match world.rawContext limits apiKey plan with
          | none => none
          | some (.error error) => some (.error error)
          | some (.ok rawContext) => some (world.synthesize query rawContext)

end SearchWorld

/-! ## The task of a search -/

/-- What `run_search` changes. -/
structure SearchRecords where
  tracker : BackgroundTracker SearchQueryStatus
  taskLog : Option Text

/-- The status that a search ends with, and the event for the task log. -/
def searchEnd (queryId : UInt32) : Except Text Text → SearchQueryStatus × Text
  | .ok context =>
      (.completed context, "completed #".toList ++ Background.showId queryId ++ " — ".toList ++ context)
  | .error error =>
      (.failed error, "failed #".toList ++ Background.showId queryId ++ " — ".toList ++ error)

/-- A call of `run_search`: the device and the id of the query, and what the
clock says when it ends. -/
structure SearchCall where
  devicePrefix : Text
  queryId : UInt32
  query : Text
  limits : SearchLimits
  taskLogMax : Nat
  now : UInt64
  stamp : Text

/-- `run_search`.  When the pipeline panics the task is gone, and with it what
was to follow. -/
def SearchWorld.runSearch (world : SearchWorld) (call : SearchCall) (records : SearchRecords) : SearchRecords :=
  match world.runSearchInner call.limits call.query with
  | none => records
  | some result =>
      let ending := searchEnd call.queryId result
      { tracker := records.tracker.complete call.devicePrefix call.queryId ending.1 call.now
        taskLog := some (appendLog records.taskLog call.stamp ending.2 call.taskLogMax) }

/-! ## Where the pipeline ends -/

/-- Some successful response has a result with a link. -/
def Served (responses : List (Except Text SerperResponse)) : Prop :=
  ∃ response hit, .ok response ∈ responses ∧ hit ∈ response.organic ++ response.news ∧ hit.url ≠ []

/-- With a link there is a result. -/
theorem Served.collected {responses : List (Except Text SerperResponse)} (served : Served responses)
    (display : JsonValue → Text) (maxPaa : Nat) : collectAndDedup display responses maxPaa ≠ [] := by
  rcases served with ⟨response, hit, member, found, linked⟩
  rcases collectAndDedup_labelled display responses maxPaa with ⟨collected, labelled, collects, holds⟩
  intro empty
  have unlabelled : labelled = [] := List.map_eq_nil_iff.mp (holds.results.symm.trans (collects.symm.trans empty))
  have links := holds.links
  rw [unlabelled] at links
  have nothing := List.map_eq_nil_iff.mp links.symm
  have present : hit.url ∈ (firsts SerperOrganic.url (Search.linked (hits responses))).map SerperOrganic.url := by
    rw [key_mem_firsts_iff]
    refine List.mem_map_of_mem (List.mem_filter.mpr ⟨?_, decide_eq_true linked⟩)
    exact List.mem_flatMap.mpr ⟨.ok response, member, found⟩
  rw [nothing] at present
  cases present

namespace SearchWorld

variable {world : SearchWorld} {limits : SearchLimits} {query apiKey : Text}

/-- The reply to the request for a plan, if one is made and does not fail. -/
def planReply (world : SearchWorld) (query : Text) : Option Text :=
  match world.resolved with
  | none => none
  | some resolved => (world.callLlm resolved world.analyzePrompt query).toOption

/-- The plan is missing only when no JSON can be cut out of the reply. -/
theorem plan_eq_none_iff :
    world.plan query = none ↔ ∃ reply, world.planReply query = some reply ∧ Crossed reply := by
  rw [plan, planReply]
  cases world.resolved with
  | none => simp
  | some resolved =>
      simp only [Option.map_eq_none_iff, phase1Analyze]
      cases world.callLlm resolved world.analyzePrompt query with
      | error error => simp [Except.toOption]
      | ok reply =>
          simp only [Except.toOption, Option.map_eq_none_iff, Option.some.injEq, exists_eq_left']
          rcases extractJson_spec reply with ⟨json, returns, _, safe⟩ | ⟨panics, crossed⟩
          · exact iff_of_false (by rw [returns]; nofun) safe
          · exact iff_of_true panics crossed

theorem rawContext_ne_none (limits : SearchLimits) (apiKey : Text) (plan : AnalyzeOutput) :
    world.rawContext limits apiKey plan ≠ none := by
  simp only [rawContext, Fetching.enrichResults_eq]
  split
  · nofun
  · split <;> nofun

/-- With a link there is a context. -/
theorem rawContext_of_served {plan : AnalyzeOutput} (served : Served (world.responses limits apiKey plan)) :
    ∃ context, world.rawContext limits apiKey plan = some (.ok context) := by
  have found := served.collected world.display limits.maxPeopleAlsoAsk
  simp only [rawContext, Fetching.enrichResults_eq, if_neg found]
  exact ⟨_, if_neg fun empty => found (List.map_eq_nil_iff.mp empty)⟩

/-- The pipeline panics only where the plan is missing. -/
theorem runSearchInner_eq_none_iff (key : world.apiKey = some apiKey) :
    world.runSearchInner limits query = none ↔ world.plan query = none := by
  simp only [runSearchInner, key]
  cases world.plan query with
  | none => exact iff_of_true rfl rfl
  | some plan =>
      simp only
      rcases context : world.rawContext limits apiKey plan with _ | error | raw
      · exact absurd context (rawContext_ne_none limits apiKey plan)
      · exact iff_of_false nofun nofun
      · exact iff_of_false nofun nofun

/-- With a result with a link, and as long as the last call of the model does
not fail, a search succeeds exactly when there is a model and its plan does not
panic. -/
theorem runSearchInner_degrades_iff (world : SearchWorld) (limits : SearchLimits) (query : Text)
    {apiKey : Text} (key : world.apiKey = some apiKey)
    (served : ∀ plan, world.plan query = some plan → Served (world.responses limits apiKey plan))
    (answers : ∀ plan context resolved, world.plan query = some plan →
      world.rawContext limits apiKey plan = some (.ok context) → world.resolved = some resolved →
        ∃ answer, world.callLlm resolved world.synthesizePrompt (synthInput query context) = .ok answer) :
    (∃ text, world.runSearchInner limits query = some (.ok text) ∧
        (world.resolved = none → ∃ plan, world.plan query = some plan ∧
          world.rawContext limits apiKey plan = some (.ok text))) ↔
      world.resolved.isSome = true ∧ ∀ reply, world.planReply query = some reply → ¬ Crossed reply := by
  cases planned : world.plan query with
  | none =>
      have panics : world.runSearchInner limits query = none := (runSearchInner_eq_none_iff key).mpr planned
      rcases plan_eq_none_iff.mp planned with ⟨reply, replied, crossed⟩
      refine iff_of_false ?_ fun safe => safe.2 reply replied crossed
      rintro ⟨text, returns, _⟩
      rw [panics] at returns
      cases returns
  | some plan =>
      have safe : ∀ reply, world.planReply query = some reply → ¬ Crossed reply := by
        intro reply replied crossed
        rw [plan_eq_none_iff.mpr ⟨reply, replied, crossed⟩] at planned
        cases planned
      rcases rawContext_of_served (served plan planned) with ⟨context, assembled⟩
      have ends : world.runSearchInner limits query = some (world.synthesize query context) := by
        simp only [runSearchInner, key, planned, assembled]
      rw [ends, synthesize]
      cases resolves : world.resolved with
      | none =>
          refine iff_of_false ?_ fun model => nomatch model.1
          rintro ⟨text, returns, _⟩
          cases returns
      | some resolved =>
          rcases answers plan context resolved planned assembled resolves with ⟨answer, replied⟩
          exact iff_of_true ⟨answer, congrArg some replied, nofun⟩ ⟨rfl, safe⟩

end SearchWorld

/-! ## One request that succeeds -/

def sampleConfig (activeModel : Option Text) : GatewayConfig where
  providers := AList.insert "p".toList ⟨"anthropic".toList, "http://p".toList, [], none⟩ ∅
  models := AList.insert "m".toList { provider := "p".toList, modelId := "m1".toList } ∅
  activeModel

def sampleHit : SerperOrganic :=
  ⟨some "Weather".toList, some "http://w".toList, some "Rain.".toList, none⟩

/-- Of the requests to the search engine only the second succeeds, and no page
can be fetched. -/
def sampleWorld (activeModel : Option Text) (planReply : Text) : SearchWorld where
  apiKey := some "k".toList
  config := sampleConfig activeModel
  analyzePrompt := "Plan.".toList
  synthesizePrompt := "Answer.".toList
  chat _ request := .ok (if request.system = some "Plan.".toList then planReply else "It rains.".toList)
  parsePlan _ := .error "expected value".toList
  fetchSerper position _ :=
    if position = 1 then .ok ⟨[sampleHit], [], none, []⟩ else .error "503".toList
  fetchAndExtract _ _ := .error "404".toList
  display _ := []
  truncate text _ := text
  countTokens := List.length

def sampleLimits : SearchLimits := .fromConfig .empty

theorem sampleWorld_served (activeModel : Option Text) (planReply : Text) :
    Served ((sampleWorld activeModel planReply).responses sampleLimits "k".toList
      (defaultPlan "weather".toList)) := by
  refine ⟨⟨[sampleHit], [], none, []⟩, sampleHit, ?_, List.mem_cons_self, by decide⟩
  exact List.mem_cons_of_mem _ List.mem_cons_self

/-- A plan that cannot be read, failed requests and a failed page do not matter. -/
theorem runSearchInner_unreadablePlan :
    ∃ text, (sampleWorld (some "m".toList) "no idea".toList).runSearchInner sampleLimits "weather".toList =
      some (.ok text) := by
  have planned : (sampleWorld (some "m".toList) "no idea".toList).plan "weather".toList =
      some (defaultPlan "weather".toList) := by decide +kernel
  have degrades := (SearchWorld.runSearchInner_degrades_iff (sampleWorld (some "m".toList) "no idea".toList)
    sampleLimits "weather".toList rfl ?_ ?_).mpr ⟨by decide +kernel, ?_⟩
  · rcases degrades with ⟨text, returns, _⟩
    exact ⟨text, returns⟩
  · intro plan same
    rcases Option.some.inj (planned.symm.trans same) with rfl
    exact sampleWorld_served _ _
  · exact fun _ _ _ _ _ _ => ⟨_, rfl⟩
  · rintro reply replied crossed
    rw [SearchWorld.plan_eq_none_iff.mpr ⟨reply, replied, crossed⟩] at planned
    cases planned

/-- Without a model the raw context is assembled and lost. -/
theorem runSearchInner_noModel :
    (sampleWorld none []).resolved = none ∧
      (sampleWorld none []).plan "weather".toList = some (defaultPlan "weather".toList) ∧
      Served ((sampleWorld none []).responses sampleLimits "k".toList (defaultPlan "weather".toList)) ∧
      (sampleWorld none []).rawContext sampleLimits "k".toList (defaultPlan "weather".toList) =
        some (.ok "Title: Weather\nURL: http://w\nSnippet: Rain.\nContent: Rain.\n".toList) ∧
      (sampleWorld none []).runSearchInner sampleLimits "weather".toList =
        some (.error "no search model configured for synthesis".toList) := by
  exact ⟨rfl, rfl, sampleWorld_served _ _, by decide +kernel, by decide +kernel⟩

/-! ## The slot of a search -/

section

variable {world : SearchWorld} {call : SearchCall} {records : SearchRecords} {response : Text}
  {maxConcurrent maxRetained : Nat} {state : Tracking SearchQueryStatus} {devicePrefix : Text} {id : UInt32}

/-- The query of an active task holds a slot. -/
theorem exists_running_of_active (follows : Tracking.Follows maxConcurrent maxRetained state)
    (active : state.isActive devicePrefix id = true) :
    ∃ item ∈ state.tracker.getRunning devicePrefix, item.id = id := by
  rcases List.any_eq_true.mp active with ⟨task, here, isTask⟩
  have pair : (task.id, task.description) ∈ (state.tracker.getRunning devicePrefix).map
      fun item => (item.id, item.description) := by
    rw [follows.running]
    exact List.mem_map.mpr ⟨task, here, rfl⟩
  rcases List.mem_map.mp pair with ⟨item, running, ids⟩
  exact ⟨item, running, (congrArg Prod.fst ids).trans (of_decide_eq_true isTask)⟩

/-- A query that is completed holds none. -/
theorem id_ne_of_complete (follows : Tracking.Follows maxConcurrent maxRetained state)
    (active : state.isActive devicePrefix id = true) {status : SearchQueryStatus}
    (finished : TaskStatus.isRunning status = false) (now : UInt64) :
    ∀ item ∈ (state.tracker.complete devicePrefix id status now).getRunning devicePrefix, item.id ≠ id := by
  intro item running
  have changed := follows.changed_complete devicePrefix id status now
  have entries := changed.running (fun _ => finished) fun item member => follows.running_of_active active member
  have member := List.mem_map_of_mem (f := fun item => (item.id, item.description)) running
  rw [entries] at member
  simpa using (List.mem_filter.mp member).2

theorem searchEnd_finished (queryId : UInt32) (result : Except Text Text) :
    TaskStatus.isRunning (searchEnd queryId result).1 = false := by
  cases result <;> rfl

/-- A panic leaves everything as it is. -/
theorem runSearch_of_crossed (key : world.apiKey ≠ none) (replied : world.planReply call.query = some response)
    (crossed : Crossed response) : world.runSearch call records = records := by
  rcases Option.ne_none_iff_exists'.mp key with ⟨apiKey, key⟩
  have panics : world.runSearchInner call.limits call.query = none :=
    (SearchWorld.runSearchInner_eq_none_iff key).mpr (SearchWorld.plan_eq_none_iff.mpr ⟨response, replied, crossed⟩)
  rw [SearchWorld.runSearch, panics]

/-- Otherwise the query is completed. -/
theorem runSearch_of_not_crossed (key : world.apiKey ≠ none)
    (replied : world.planReply call.query = some response) (safe : ¬ Crossed response) :
    ∃ status, TaskStatus.isRunning status = false ∧ ∀ records, (world.runSearch call records).tracker =
      records.tracker.complete call.devicePrefix call.queryId status call.now := by
  rcases Option.ne_none_iff_exists'.mp key with ⟨apiKey, key⟩
  rcases returns : world.runSearchInner call.limits call.query with _ | result
  · rcases SearchWorld.plan_eq_none_iff.mp ((SearchWorld.runSearchInner_eq_none_iff key).mp returns) with
      ⟨reply, replied', crossed⟩
    rcases Option.some.inj (replied.symm.trans replied') with rfl
    exact absurd crossed safe
  · refine ⟨(searchEnd call.queryId result).1, searchEnd_finished _ _, fun records => ?_⟩
    rw [SearchWorld.runSearch, returns]

end

/-- No slice of `extract_json` panics, and the search that asked for the plan
frees its slot, exactly when the braces of the reply do not cross. -/
theorem extractJson_safe_iff (response : Text) :
    ((∃ json, extractJson response = some json ∧ json <:+: Text.trim response) ↔ ¬ Crossed response) ∧
      ∀ (world : SearchWorld) (call : SearchCall) (taskLog : Option Text) (maxConcurrent maxRetained : Nat)
        (schedule : List (TrackerCall SearchQueryStatus)) (state : Tracking SearchQueryStatus),
        world.apiKey ≠ none → world.planReply call.query = some response →
          (tracking maxConcurrent maxRetained).run .empty schedule = some state →
            state.isActive call.devicePrefix call.queryId = true →
              ((∀ item ∈ (world.runSearch call ⟨state.tracker, taskLog⟩).tracker.getRunning call.devicePrefix,
                item.id ≠ call.queryId) ↔ ¬ Crossed response) := by
  constructor
  · rcases extractJson_spec response with ⟨json, returns, within, safe⟩ | ⟨panics, crossed⟩
    · exact iff_of_true ⟨json, returns, within⟩ safe
    · refine iff_of_false ?_ (not_not_intro crossed)
      rintro ⟨json, returns, _⟩
      rw [panics] at returns
      cases returns
  · intro world call taskLog maxConcurrent maxRetained schedule state key replied runs active
    have follows : Tracking.Follows maxConcurrent maxRetained state :=
      Machine.run_keeps (fun _ _ _ here steps => Tracking.Follows.step here steps) Tracking.follows_empty runs
    by_cases crossed : Crossed response
    · refine iff_of_false ?_ (not_not_intro crossed)
      rw [runSearch_of_crossed key replied crossed]
      intro freed
      rcases exists_running_of_active follows active with ⟨item, running, same⟩
      exact freed item running same
    · refine iff_of_true ?_ crossed
      rcases runSearch_of_not_crossed key replied crossed with ⟨status, finished, completed⟩
      rw [completed ⟨state.tracker, taskLog⟩]
      exact id_ne_of_complete follows active finished call.now

/-- A closing brace, a blank and an opening brace. -/
def crossedReply : Text := "\x7d \x7b".toList

def sampleCall : SearchCall := ⟨"a".toList, 1, "weather".toList, sampleLimits, 50, 20, "12:00:00".toList⟩

def oneSearch : List (TrackerCall SearchQueryStatus) := [.register "a".toList 1 "weather".toList 10]

theorem oneSearch_run : ((tracking 3 50).run .empty oneSearch).any (fun state : Tracking SearchQueryStatus =>
    state.isActive "a".toList 1 = true ∧
      ∃ item ∈ ((sampleWorld (some "m".toList) crossedReply).runSearch sampleCall
        ⟨state.tracker, none⟩).tracker.getRunning "a".toList, item.id = 1) = true := by
  decide +kernel

/-- The panic stops the search for good, and its query goes on running. -/
theorem extractJson_crossedBraces :
    extractJson crossedReply = none ∧
      (sampleWorld (some "m".toList) crossedReply).planReply "weather".toList = some crossedReply ∧
      ∃ state, (tracking 3 50).run .empty oneSearch = some state ∧ state.isActive "a".toList 1 = true ∧
        ∃ item ∈ ((sampleWorld (some "m".toList) crossedReply).runSearch sampleCall
          ⟨state.tracker, none⟩).tracker.getRunning "a".toList, item.id = 1 := by
  rcases (Option.any_eq_true _ _).mp oneSearch_run with ⟨state, runs, holds⟩
  exact ⟨by decide +kernel, by decide +kernel, state, runs, of_decide_eq_true holds⟩

end Search
end Agent
end Rabb1tClaw
