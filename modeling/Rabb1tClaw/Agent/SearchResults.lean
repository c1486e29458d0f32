import Rabb1tClaw.Agent.Markers
import Rabb1tClaw.Foundations.FirstOccurrences

namespace Rabb1tClaw
namespace Agent
namespace Search

open Foundations

/-!
# The results of a search

The responses of the search engine are collected into one list, in which a
link occurs once, and the text of each page is put to its link.  The pages are
fetched side by side and their texts come back by position, over a list of
positions that leaves out the entries without a page.

`Labelled` says of every entry where it comes from, which the source does not
record: a link may well start with the character that marks entries without a
page.
-/

/-! ## Responses -/

structure SerperOrganic where
  title : Option Text
  link : Option Text
  snippet : Option Text
  date : Option Text
  deriving DecidableEq, Repr

/-- The attributes are in the order in which the map gives them. -/
structure SerperKnowledgeGraph where
  title : Option Text
  description : Option Text
  attributes : List (Text × JsonValue)

structure SerperPeopleAlsoAsk where
  question : Option Text
  snippet : Option Text

structure SerperResponse where
  organic : List SerperOrganic
  news : List SerperOrganic
  knowledgeGraph : Option SerperKnowledgeGraph
  peopleAlsoAsk : List SerperPeopleAlsoAsk

structure SearchResult where
  title : Text
  url : Text
  snippet : Text
  date : Text
  deriving DecidableEq, Repr

structure EnrichedResult where
  title : Text
  url : Text
  snippet : Text
  date : Text
  content : Text
  deriving DecidableEq, Repr

namespace SerperOrganic

def url (hit : SerperOrganic) : Text := hit.link.getD []

def result (hit : SerperOrganic) : SearchResult :=
  ⟨hit.title.getD [], hit.url, hit.snippet.getD [], hit.date.getD []⟩

end SerperOrganic

/-- The text of an attribute; `display` is how a value other than a string is printed. -/
def attributeText (display : JsonValue → Text) (entry : Text × JsonValue) : Text :=
  entry.1 ++ ": ".toList ++ entry.2.asStr.getD (display entry.2)

namespace SerperKnowledgeGraph

def body (display : JsonValue → Text) (graph : SerperKnowledgeGraph) : Text :=
  let description := graph.description.getD []
  if graph.attributes = [] then
    description
  else
    (if description = [] then [] else description ++ " | ".toList) ++
      List.intercalate " | ".toList (graph.attributes.map (attributeText display))

def result (display : JsonValue → Text) (graph : SerperKnowledgeGraph) (title : Text) : SearchResult :=
  ⟨title, "#knowledge_graph".toList, graph.body display, []⟩

end SerperKnowledgeGraph

namespace SerperPeopleAlsoAsk

def text (paa : SerperPeopleAlsoAsk) : Text := paa.question.getD []

def result (paa : SerperPeopleAlsoAsk) : SearchResult :=
  ⟨"Q: ".toList ++ paa.text, "#people_also_ask".toList, paa.snippet.getD [], []⟩

end SerperPeopleAlsoAsk

/-! ## Collecting -/

/-- What `collect_and_dedup` has when it comes to a response. -/
structure Collected where
  seenUrls : List Text
  results : List SearchResult
  hasKg : Bool
  paaCount : Nat

namespace Collected

def empty : Collected := ⟨[], [], false, 0⟩

/-- Only the first knowledge graph with a title. -/
def addKnowledgeGraph (display : JsonValue → Text) (collected : Collected) (response : SerperResponse) :
    Collected :=
  if collected.hasKg then
    collected
  else
    match response.knowledgeGraph with
    | none => collected
    | some graph =>
        match graph.title with
        | none => collected
        | some title =>
            { collected with results := collected.results ++ [graph.result display title], hasKg := true }

def addHit (collected : Collected) (hit : SerperOrganic) : Collected :=
  if hit.url ≠ [] ∧ collected.seenUrls.contains hit.url = false then
    { collected with
      seenUrls := collected.seenUrls ++ [hit.url]
      results := collected.results ++ [hit.result] }
  else
    collected

def addQuestions (maxPaa : Nat) : Collected → List SerperPeopleAlsoAsk → Collected
  | collected, [] => collected
  | collected, paa :: rest =>
      if collected.paaCount ≥ maxPaa then
        collected
      else if paa.text ≠ [] then
        addQuestions maxPaa
          { collected with results := collected.results ++ [paa.result], paaCount := collected.paaCount + 1 } rest
      else
        addQuestions maxPaa collected rest

def addResponse (display : JsonValue → Text) (maxPaa : Nat) (collected : Collected) :
    Except Text SerperResponse → Collected
  | .error _ => collected
  | .ok response =>
      addQuestions maxPaa
        ((response.organic ++ response.news).foldl addHit (collected.addKnowledgeGraph display response))
        response.peopleAlsoAsk

end Collected

def collectAndDedup (display : JsonValue → Text) (responses : List (Except Text SerperResponse)) (maxPaa : Nat) :
    List SearchResult :=
  (responses.foldl (Collected.addResponse display maxPaa) .empty).results

/-! ## Enriching -/

/-- Entries without a page have a URL that starts with a number sign. -/
def hasPage (url : Text) : Bool := !(['#'].isPrefixOf url)

/-- How pages are fetched, and how long their text may be. -/
structure Fetching where
  /-- `fetch_and_extract`. -/
  fetchAndExtract : Text → Nat → Except Text Text
  /-- Cuts a text to a number of tokens. -/
  truncate : Text → Nat → Text
  maxPageTokens : Nat
  fetchTimeoutSecs : Nat

/-- `fetch_content`. -/
abbrev FetchContent := Nat → Option Text

/-- The positions of the entries with a page. -/
def fetchIndices (results : List SearchResult) : List Nat :=
  (results.zipIdx.filter fun entry => hasPage entry.1.url).map Prod.snd

namespace Fetching

variable (fetching : Fetching)

def fetch (result : SearchResult) : Except Text Text :=
  fetching.fetchAndExtract result.url fetching.fetchTimeoutSecs

def fetchAll (results : List SearchResult) : List Nat → Option (List (Except Text Text))
  | [] => some []
  | i :: indices =>
      match results[i]? with
      | none => none
      | some result => (fetchAll results indices).map (fetching.fetch result :: ·)

/-- Put the outcomes, each with its number, to the positions.  The log line for
a failure reads the result, too. -/
def attach (results : List SearchResult) (indices : List Nat) :
    FetchContent → List (Except Text Text × Nat) → Option FetchContent
  | content, [] => some content
  | content, (outcome, j) :: rest =>
      match indices[j]? with
      | none => none
      | some i =>
          match outcome with
          | .ok text =>
              attach results indices
                (Function.update content i (some (fetching.truncate text fetching.maxPageTokens))) rest
          | .error _ => results[i]?.bind fun _ => attach results indices content rest

end Fetching

/-- The entries from a position on take their content out of the map. -/
def enrichFrom : Nat → FetchContent → List SearchResult → List EnrichedResult
  | _, _, [] => []
  | i, content, result :: results =>
      if hasPage result.url then
        ⟨result.title, result.url, result.snippet, result.date, (content i).getD []⟩ ::
          enrichFrom (i + 1) (Function.update content i none) results
      else
        ⟨result.title, result.url, result.snippet, result.date, result.snippet⟩ ::
          enrichFrom (i + 1) content results

/-- `enrich_results`, or `none` where an index is out of bounds. -/
def enrichResults (fetching : Fetching) (results : List SearchResult) : Option (List EnrichedResult) := do
  let indices := fetchIndices results
  let fetched ← fetching.fetchAll results indices
  let content ← fetching.attach results indices (fun _ => none) fetched.zipIdx
  some (enrichFrom 0 content results)

/-! ## The index into the results -/

namespace Fetching

variable (fetching : Fetching)

/-- The text of the page of a result, or nothing if it could not be fetched. -/
def pageText (result : SearchResult) : Text :=
  match fetching.fetch result with
  | .ok text => fetching.truncate text fetching.maxPageTokens
  | .error _ => []

/-- A result with its content. -/
def enrich (result : SearchResult) : EnrichedResult :=
  ⟨result.title, result.url, result.snippet, result.date,
    if hasPage result.url then fetching.pageText result else result.snippet⟩

/-- What is fetched for a position. -/
def outcome (results : List SearchResult) (i : Nat) : Except Text Text :=
  match results[i]? with
  | some result => fetching.fetch result
  | none => .error []

/-- What the map holds at a position when its outcome is there. -/
def stored (results : List SearchResult) (content : FetchContent) (i : Nat) : Option Text :=
  match fetching.outcome results i with
  | .ok text => some (fetching.truncate text fetching.maxPageTokens)
  | .error _ => content i

variable {fetching} {results : List SearchResult}

theorem fetchAll_eq {indices : List Nat} (inside : ∀ i ∈ indices, i < results.length) :
    fetching.fetchAll results indices = some (indices.map (fetching.outcome results)) := by
  induction indices with
  | nil => rfl
  | cons i indices inductionHypothesis =>
      have there := List.getElem?_eq_getElem (inside i List.mem_cons_self)
      rw [fetchAll, there]
      simp only [inductionHypothesis fun j later => inside j (List.mem_cons_of_mem i later), Option.map_some,
        List.map_cons, outcome, there]

/-- Every outcome is put to the position that it was fetched for. -/
theorem attach_eq {indices before rest : List Nat} (whole : indices = before ++ rest)
    (inside : ∀ i ∈ indices, i < results.length) (content : FetchContent) :
    fetching.attach results indices content ((rest.map (fetching.outcome results)).zipIdx before.length) =
      some fun i => if i ∈ rest then fetching.stored results content i else content i := by
  induction rest generalizing before content with
  | nil => simp [attach]
  | cons i rest inductionHypothesis =>
      have here : indices[before.length]? = some i := by
        rw [whole, List.getElem?_append_right (Nat.le_refl _), Nat.sub_self]
        rfl
      have whole' : indices = (before ++ [i]) ++ rest := by
        rw [whole, List.append_assoc]
        rfl
      have later := inductionHypothesis whole'
      rw [List.length_append, List.length_singleton] at later
      have there : ∃ result, results[i]? = some result :=
        ⟨_, List.getElem?_eq_getElem (inside i (whole ▸ List.mem_append_right _ List.mem_cons_self))⟩
      rcases there with ⟨result, there⟩
      rw [List.map_cons, List.zipIdx_cons, attach, here]
      cases fetched : fetching.outcome results i with
      | ok text =>
          simp only [later]
          congr 1
          funext k
          by_cases same : k = i
          · subst same
            simp [stored, fetched]
          · simp [same, stored]
      | error error =>
          simp only [there, Option.bind_some, later]
          congr 1
          funext k
          by_cases same : k = i
          · subst same
            simp [stored, fetched]
          · simp [same]

theorem mem_fetchIndices_iff {i : Nat} :
    i ∈ fetchIndices results ↔ ∃ result, results[i]? = some result ∧ hasPage result.url = true := by
  simp only [fetchIndices, List.mem_map, List.mem_filter, Prod.exists, List.mem_zipIdx_iff_getElem?]
  constructor
  · rintro ⟨result, _, ⟨there, page⟩, rfl⟩
    exact ⟨result, there, page⟩
  · rintro ⟨result, there, page⟩
    exact ⟨result, i, ⟨there, page⟩, rfl⟩

theorem enrichFrom_eq {later : List SearchResult} {i : Nat} {content : FetchContent}
    (holds : ∀ k result, later[k]? = some result → hasPage result.url = true →
      (content (i + k)).getD [] = fetching.pageText result) :
    enrichFrom i content later = later.map fetching.enrich := by
  induction later generalizing i content with
  | nil => rfl
  | cons result later inductionHypothesis =>
      rw [enrichFrom, List.map_cons, enrich]
      split
      · rename_i page
        have here : (content i).getD [] = fetching.pageText result := holds 0 result rfl page
        rw [here]
        congr 1
        apply inductionHypothesis
        intro k other there page
        rw [Function.update_of_ne (by omega), Nat.add_assoc, Nat.add_comm 1]
        exact holds (k + 1) other there page
      · congr 1
        apply inductionHypothesis
        intro k other there page
        rw [Nat.add_assoc, Nat.add_comm 1]
        exact holds (k + 1) other there page

/-- Every result gets the text of its own page. -/
theorem enrichResults_eq (fetching : Fetching) (results : List SearchResult) :
    enrichResults fetching results = some (results.map fetching.enrich) := by
  have inside : ∀ i ∈ fetchIndices results, i < results.length := by
    intro i member
    rcases mem_fetchIndices_iff.mp member with ⟨result, there, _⟩
    exact (List.getElem?_eq_some_iff.mp there).1
  have attached : fetching.attach results (fetchIndices results) (fun _ => none)
      (((fetchIndices results).map (fetching.outcome results)).zipIdx 0) = _ :=
    attach_eq (List.nil_append (fetchIndices results)).symm inside fun _ => none
  simp only [enrichResults, fetchAll_eq inside, attached, Option.bind_eq_bind, Option.bind_some]
  congr 1
  apply enrichFrom_eq
  intro k result there page
  rw [Nat.zero_add, if_pos (mem_fetchIndices_iff.mpr ⟨result, there, page⟩)]
  simp only [stored, outcome, pageText, there]
  cases fetching.fetch result <;> rfl

end Fetching

/-! ## Where entries come from -/

inductive Source where
  | link
  | knowledgeGraph
  | question
  deriving DecidableEq, Repr

/-- The entries from a source, in order. -/
def entriesOf {α : Type} (source : Source) (labelled : List (Source × α)) : List α :=
  (labelled.filter fun entry => entry.1 = source).map Prod.snd

theorem entriesOf_concat {α : Type} (source other : Source) (labelled : List (Source × α)) (entry : α) :
    entriesOf source (labelled ++ [(other, entry)]) =
      if other = source then entriesOf source labelled ++ [entry] else entriesOf source labelled := by
  by_cases same : other = source <;> simp [entriesOf, same]

theorem entriesOf_map {α β : Type} (source : Source) (change : α → β) (labelled : List (Source × α)) :
    entriesOf source (labelled.map fun entry => (entry.1, change entry.2)) =
      (entriesOf source labelled).map change := by
  simp only [entriesOf, List.filter_map, List.map_map]
  rfl

/-- The organic results and the news of the successful responses. -/
def hits (responses : List (Except Text SerperResponse)) : List SerperOrganic :=
  responses.flatMap fun
    | .ok response => response.organic ++ response.news
    | .error _ => []

/-- The results with a link. -/
def linked (found : List SerperOrganic) : List SerperOrganic := found.filter fun hit => hit.url ≠ []

theorem linked_concat (found : List SerperOrganic) (hit : SerperOrganic) :
    linked (found ++ [hit]) = if hit.url ≠ [] then linked found ++ [hit] else linked found := by
  by_cases nonempty : hit.url ≠ [] <;> simp [linked, nonempty]

/-- An entry that is the knowledge graph of a response. -/
def IsKnowledgeGraph (display : JsonValue → Text) (responses : List (Except Text SerperResponse))
    (entry : SearchResult) : Prop :=
  ∃ response graph title, .ok response ∈ responses ∧ response.knowledgeGraph = some graph ∧
    graph.title = some title ∧ entry = ⟨title, "#knowledge_graph".toList, graph.body display, []⟩

/-- An entry that is a question of a response. -/
def IsQuestion (responses : List (Except Text SerperResponse)) (entry : SearchResult) : Prop :=
  ∃ response paa question, .ok response ∈ responses ∧ paa ∈ response.peopleAlsoAsk ∧
    paa.question = some question ∧ question ≠ [] ∧
    entry = ⟨"Q: ".toList ++ question, "#people_also_ask".toList, paa.snippet.getD [], []⟩

/-- What has been collected when the results `found` have been seen, with the
source of each entry. -/
structure Labelled (display : JsonValue → Text) (responses : List (Except Text SerperResponse)) (maxPaa : Nat)
    (found : List SerperOrganic) (collected : Collected) (labelled : List (Source × SearchResult)) : Prop where
  results : collected.results = labelled.map Prod.snd
  links : entriesOf .link labelled = (firsts SerperOrganic.url (linked found)).map SerperOrganic.result
  seen : ∀ url, url ∈ collected.seenUrls ↔ url ∈ (linked found).map SerperOrganic.url
  graphs : (entriesOf .knowledgeGraph labelled).length = if collected.hasKg then 1 else 0
  isGraph : ∀ entry ∈ entriesOf .knowledgeGraph labelled, IsKnowledgeGraph display responses entry
  questions : (entriesOf .question labelled).length = collected.paaCount
  isQuestion : ∀ entry ∈ entriesOf .question labelled, IsQuestion responses entry
  bounded : collected.paaCount ≤ maxPaa

section

variable {display : JsonValue → Text} {responses : List (Except Text SerperResponse)} {maxPaa : Nat}
  {found : List SerperOrganic} {collected : Collected} {labelled : List (Source × SearchResult)}

theorem labelled_empty : Labelled display responses maxPaa [] .empty [] :=
  ⟨rfl, rfl, fun _ => Iff.rfl, rfl, nofun, rfl, nofun, Nat.zero_le _⟩

/-- Step lemma: the knowledge graph of a response. -/
theorem Labelled.addKnowledgeGraph (holds : Labelled display responses maxPaa found collected labelled)
    {response : SerperResponse} (member : .ok response ∈ responses) :
    ∃ labelled', Labelled display responses maxPaa found (collected.addKnowledgeGraph display response)
      labelled' := by
  unfold Collected.addKnowledgeGraph
  split
  · exact ⟨labelled, holds⟩
  · rename_i first
    split
    · exact ⟨labelled, holds⟩
    · rename_i graph known
      split
      · exact ⟨labelled, holds⟩
      · rename_i title titled
        have none := holds.graphs
        rw [if_neg first] at none
        refine ⟨labelled ++ [(.knowledgeGraph, graph.result display title)], ?_, ?_, holds.seen, ?_, ?_, ?_, ?_,
          holds.bounded⟩
        · simp only [holds.results, List.map_append, List.map_singleton]
        · simpa [entriesOf_concat] using holds.links
        · rw [entriesOf_concat, if_pos rfl, List.length_append, none]
          rfl
        · intro entry here
          rw [entriesOf_concat, if_pos rfl, List.eq_nil_of_length_eq_zero none] at here
          rcases List.mem_singleton.mp here with rfl
          exact ⟨response, graph, title, member, known, titled, rfl⟩
        · simpa [entriesOf_concat] using holds.questions
        · simpa [entriesOf_concat] using holds.isQuestion

/-- Step lemma: a result is kept when its link is there and new. -/
theorem Labelled.addHit (holds : Labelled display responses maxPaa found collected labelled)
    (hit : SerperOrganic) :
    ∃ labelled', Labelled display responses maxPaa (found ++ [hit]) (collected.addHit hit) labelled' := by
  unfold Collected.addHit
  split
  · rename_i new
    have grown := linked_concat found hit
    rw [if_pos new.1] at grown
    have fresh : hit.url ∉ (linked found).map SerperOrganic.url := by
      rw [← holds.seen, ← List.contains_iff_mem, new.2]
      exact Bool.false_ne_true
    refine ⟨labelled ++ [(.link, hit.result)], ?_, ?_, ?_, ?_, ?_, ?_, ?_, holds.bounded⟩
    · simp only [holds.results, List.map_append, List.map_singleton]
    · rw [entriesOf_concat, if_pos rfl, grown, firsts_concat, if_neg fresh, List.map_append, holds.links]
      rfl
    · intro url
      rw [grown, List.map_append, List.mem_append, List.mem_append, holds.seen]
      rfl
    · simpa [entriesOf_concat] using holds.graphs
    · simpa [entriesOf_concat] using holds.isGraph
    · simpa [entriesOf_concat] using holds.questions
    · simpa [entriesOf_concat] using holds.isQuestion
  · rename_i old
    have same : firsts SerperOrganic.url (linked (found ++ [hit])) = firsts SerperOrganic.url (linked found) ∧
        ∀ url, url ∈ (linked (found ++ [hit])).map SerperOrganic.url ↔
          url ∈ (linked found).map SerperOrganic.url := by
      rw [linked_concat]
      split
      · rename_i nonempty
        have seen : hit.url ∈ (linked found).map SerperOrganic.url :=
          (holds.seen _).mp (List.contains_iff_mem.mp (Bool.of_not_eq_false fun fresh => old ⟨nonempty, fresh⟩))
        refine ⟨by rw [firsts_concat, if_pos seen], fun url => ?_⟩
        rw [List.map_append, List.mem_append]
        refine ⟨fun present => present.elim id fun last => ?_, .inl⟩
        rcases List.mem_singleton.mp last with rfl
        exact seen
      · exact ⟨rfl, fun _ => Iff.rfl⟩
    refine ⟨labelled, holds.results, ?_, ?_, holds.graphs, holds.isGraph, holds.questions, holds.isQuestion,
      holds.bounded⟩
    · rw [same.1]
      exact holds.links
    · intro url
      rw [same.2]
      exact holds.seen url

theorem Labelled.addHits (holds : Labelled display responses maxPaa found collected labelled)
    (more : List SerperOrganic) :
    ∃ labelled', Labelled display responses maxPaa (found ++ more) (more.foldl Collected.addHit collected)
      labelled' := by
  induction more generalizing found collected labelled with
  | nil => exact ⟨labelled, by rw [List.append_nil]; exact holds⟩
  | cons hit more inductionHypothesis =>
      rcases holds.addHit hit with ⟨labelled', holds'⟩
      rcases inductionHypothesis holds' with ⟨labelled'', holds''⟩
      rw [List.append_assoc] at holds''
      exact ⟨labelled'', holds''⟩

theorem isQuestion_result {response : SerperResponse} (member : .ok response ∈ responses)
    {paa : SerperPeopleAlsoAsk} (asked : paa ∈ response.peopleAlsoAsk) (nonempty : paa.text ≠ []) :
    IsQuestion responses paa.result := by
  rw [SerperPeopleAlsoAsk.text] at nonempty
  cases text : paa.question with
  | none =>
      rw [text] at nonempty
      exact absurd rfl nonempty
  | some question =>
      rw [text] at nonempty
      refine ⟨response, paa, question, member, asked, text, nonempty, ?_⟩
      rw [SerperPeopleAlsoAsk.result, SerperPeopleAlsoAsk.text, text, Option.getD_some]

/-- Run lemma of the inner loop: questions are added up to the limit. -/
theorem Labelled.addQuestions (holds : Labelled display responses maxPaa found collected labelled)
    {response : SerperResponse} (member : .ok response ∈ responses) {more : List SerperPeopleAlsoAsk}
    (asked : ∀ paa ∈ more, paa ∈ response.peopleAlsoAsk) :
    ∃ labelled', Labelled display responses maxPaa found (collected.addQuestions maxPaa more) labelled' := by
  induction more generalizing collected labelled with
  | nil => exact ⟨labelled, holds⟩
  | cons paa more inductionHypothesis =>
      have later : ∀ paa ∈ more, paa ∈ response.peopleAlsoAsk :=
        fun other here => asked other (List.mem_cons_of_mem _ here)
      rw [Collected.addQuestions]
      split
      · exact ⟨labelled, holds⟩
      · rename_i room
        split
        · rename_i nonempty
          have asks : Labelled display responses maxPaa found
              { collected with
                results := collected.results ++ [paa.result]
                paaCount := collected.paaCount + 1 }
              (labelled ++ [(.question, paa.result)]) := by
            refine ⟨?_, ?_, holds.seen, ?_, ?_, ?_, ?_, ?_⟩
            · simp only [holds.results, List.map_append, List.map_singleton]
            · simpa [entriesOf_concat] using holds.links
            · simpa [entriesOf_concat] using holds.graphs
            · simpa [entriesOf_concat] using holds.isGraph
            · rw [entriesOf_concat, if_pos rfl, List.length_append, holds.questions]
              rfl
            · intro entry here
              rw [entriesOf_concat, if_pos rfl] at here
              rcases List.mem_append.mp here with before | last
              · exact holds.isQuestion entry before
              · rcases List.mem_singleton.mp last with rfl
                exact isQuestion_result member (asked paa List.mem_cons_self) nonempty
            · exact Nat.lt_of_not_le room
          exact inductionHypothesis asks later
        · exact inductionHypothesis holds later

/-- Step lemma of the outer loop. -/
theorem Labelled.addResponse (holds : Labelled display responses maxPaa found collected labelled)
    {response : Except Text SerperResponse} (member : response ∈ responses) :
    ∃ labelled', Labelled display responses maxPaa (found ++ hits [response])
      (collected.addResponse display maxPaa response) labelled' := by
  cases response with
  | error error => exact ⟨labelled, by rw [hits, List.flatMap_singleton, List.append_nil]; exact holds⟩
  | ok response =>
      rcases holds.addKnowledgeGraph member with ⟨labelled₁, holds₁⟩
      rcases holds₁.addHits (response.organic ++ response.news) with ⟨labelled₂, holds₂⟩
      rcases holds₂.addQuestions member fun _ here => here with ⟨labelled₃, holds₃⟩
      rw [hits, List.flatMap_singleton]
      exact ⟨labelled₃, holds₃⟩

/-- Run lemma: the responses are collected one after the other. -/
theorem Labelled.addResponses (holds : Labelled display responses maxPaa found collected labelled)
    {more : List (Except Text SerperResponse)} (members : ∀ response ∈ more, response ∈ responses) :
    ∃ labelled', Labelled display responses maxPaa (found ++ hits more)
      (more.foldl (Collected.addResponse display maxPaa) collected) labelled' := by
  induction more generalizing found collected labelled with
  | nil => exact ⟨labelled, by rw [hits, List.flatMap_nil, List.append_nil]; exact holds⟩
  | cons response more inductionHypothesis =>
      rcases holds.addResponse (members response List.mem_cons_self) with ⟨labelled', holds'⟩
      rcases inductionHypothesis holds' fun other later => members other (List.mem_cons_of_mem _ later) with
        ⟨labelled'', holds''⟩
      refine ⟨labelled'', ?_⟩
      rw [List.append_assoc, hits, hits, ← List.flatMap_append] at holds''
      exact holds''

end

/-- What the collected results are. -/
theorem collectAndDedup_labelled (display : JsonValue → Text) (responses : List (Except Text SerperResponse))
    (maxPaa : Nat) : ∃ collected labelled,
      collectAndDedup display responses maxPaa = collected.results ∧
        Labelled display responses maxPaa (hits responses) collected labelled := by
  have empty : Labelled display responses maxPaa [] .empty [] := labelled_empty
  rcases empty.addResponses fun _ here => here with ⟨labelled, holds⟩
  exact ⟨_, labelled, rfl, holds⟩

/-! ## The enriched list -/

theorem mem_linked_iff {found : List SerperOrganic} {url : Text} :
    url ∈ (linked found).map SerperOrganic.url ↔ url ≠ [] ∧ ∃ hit ∈ found, hit.link = some url := by
  simp only [linked, List.mem_map, List.mem_filter, decide_eq_true_eq]
  constructor
  · rintro ⟨hit, ⟨member, nonempty⟩, rfl⟩
    refine ⟨nonempty, hit, member, ?_⟩
    rw [SerperOrganic.url] at nonempty ⊢
    cases link : hit.link with
    | none => exact absurd (by rw [link]; rfl) nonempty
    | some url => rfl
  · rintro ⟨nonempty, hit, member, link⟩
    have same : hit.url = url := by rw [SerperOrganic.url, link, Option.getD_some]
    exact ⟨hit, ⟨member, same ▸ nonempty⟩, same⟩

/-- What a result with a link becomes. -/
theorem enrich_result (fetching : Fetching) (hit : SerperOrganic) :
    fetching.enrich hit.result =
      ⟨hit.title.getD [], hit.link.getD [], hit.snippet.getD [], hit.date.getD [],
        if (hit.link.getD []).head? = some '#' then hit.snippet.getD []
        else match fetching.fetchAndExtract (hit.link.getD []) fetching.fetchTimeoutSecs with
          | .ok text => fetching.truncate text fetching.maxPageTokens
          | .error _ => []⟩ := by
  have page : hasPage (hit.link.getD []) = true ↔ (hit.link.getD []).head? ≠ some '#' := by
    cases hit.link.getD [] with
    | nil => exact iff_of_true rfl (by simp)
    | cons first rest =>
        rw [show hasPage (first :: rest) = !('#' == first && true) from rfl, List.head?_cons]
        simpa using ne_comm
  rw [Fetching.enrich, SerperOrganic.result, SerperOrganic.url]
  by_cases special : (hit.link.getD []).head? = some '#'
  · rw [if_pos special, if_neg fun holds => page.mp holds special]
  · rw [if_neg special, if_pos (page.mpr special)]
    rfl

/-- An entry without a page has its snippet as content. -/
theorem enrich_special (fetching : Fetching) {result : SearchResult} (special : hasPage result.url = false) :
    fetching.enrich result = ⟨result.title, result.url, result.snippet, result.date, result.snippet⟩ := by
  rw [Fetching.enrich, special]
  rfl

/-- Each link of the organic results and the news has exactly one entry, in
order of first occurrence and with the fields of that occurrence.  Its content
is what was fetched for this link, cut to the bound, or nothing if that failed.
Besides, there are at most one knowledge graph and at most `maxPaa` questions. -/
theorem enrichResults_lists_links (display : JsonValue → Text) (responses : List (Except Text SerperResponse))
    (maxPaa : Nat) (fetching : Fetching) :
    ∃ labelled : List (Source × EnrichedResult),
      enrichResults fetching (collectAndDedup display responses maxPaa) = some (labelled.map Prod.snd) ∧
      entriesOf .link labelled = ((firsts SerperOrganic.url (linked (hits responses))).map fun hit =>
        ⟨hit.title.getD [], hit.link.getD [], hit.snippet.getD [], hit.date.getD [],
          if (hit.link.getD []).head? = some '#' then hit.snippet.getD []
          else match fetching.fetchAndExtract (hit.link.getD []) fetching.fetchTimeoutSecs with
            | .ok text => fetching.truncate text fetching.maxPageTokens
            | .error _ => []⟩) ∧
      ((entriesOf .link labelled).map EnrichedResult.url).Nodup ∧
      (∀ url, url ∈ (entriesOf .link labelled).map EnrichedResult.url ↔
        url ≠ [] ∧ ∃ hit ∈ hits responses, hit.link = some url) ∧
      (entriesOf .knowledgeGraph labelled).length ≤ 1 ∧
      (∀ entry ∈ entriesOf .knowledgeGraph labelled, ∃ result, IsKnowledgeGraph display responses result ∧
        entry = ⟨result.title, result.url, result.snippet, result.date, result.snippet⟩) ∧
      (entriesOf .question labelled).length ≤ maxPaa ∧
      ∀ entry ∈ entriesOf .question labelled, ∃ result, IsQuestion responses result ∧
        entry = ⟨result.title, result.url, result.snippet, result.date, result.snippet⟩ := by
  rcases collectAndDedup_labelled display responses maxPaa with ⟨collected, labelled, collects, holds⟩
  have entries := fun source => entriesOf_map source fetching.enrich labelled
  have links : entriesOf .link (labelled.map fun entry => (entry.1, fetching.enrich entry.2)) =
      (firsts SerperOrganic.url (linked (hits responses))).map fun hit => fetching.enrich hit.result := by
    rw [entries, holds.links, List.map_map]
    rfl
  have urls : (entriesOf .link (labelled.map fun entry => (entry.1, fetching.enrich entry.2))).map
      EnrichedResult.url = (firsts SerperOrganic.url (linked (hits responses))).map SerperOrganic.url := by
    rw [links, List.map_map]
    rfl
  refine ⟨labelled.map fun entry => (entry.1, fetching.enrich entry.2), ?_, ?_, ?_, fun url => ?_, ?_, ?_,
    ?_, ?_⟩
  · rw [collects, Fetching.enrichResults_eq, holds.results, List.map_map, List.map_map]
    rfl
  · rw [links]
    exact List.map_congr_left fun hit _ => enrich_result fetching hit
  · rw [urls]
    exact nodup_firsts _ _
  · rw [urls, key_mem_firsts_iff]
    exact mem_linked_iff
  · rw [entries, List.length_map, holds.graphs]
    split <;> decide
  · intro entry member
    rw [entries] at member
    rcases List.mem_map.mp member with ⟨result, here, rfl⟩
    have isGraph := holds.isGraph result here
    rcases isGraph with ⟨_, _, _, _, _, _, rfl⟩
    exact ⟨_, holds.isGraph _ here, enrich_special fetching rfl⟩
  · rw [entries, List.length_map, holds.questions]
    exact holds.bounded
  · intro entry member
    rw [entries] at member
    rcases List.mem_map.mp member with ⟨result, here, rfl⟩
    have isQuestion := holds.isQuestion result here
    rcases isQuestion with ⟨_, _, _, _, _, _, _, rfl⟩
    exact ⟨_, holds.isQuestion _ here, enrich_special fetching rfl⟩

end Search
end Agent
end Rabb1tClaw
