import Rabb1tClaw.Agent.StreamLayout

namespace Rabb1tClaw
namespace Agent

open Foundations

/-!
# The slices of the live filter

The filter returns slices of the response.  `drain` knows their texts only;
here each slice keeps the offset at which it was taken, so that one can say
that the slices of a stream do not overlap.  Every pass of the loop takes at
most one slice, and it takes it where the pass begins.

`filterRun` is the filter as it is driven over the chunks of a response: a
drain for each chunk, and the flush.  Its projection to the texts is
`liveStream`.
-/

/-- A slice of the response: where it starts, and its text. -/
structure Slice where
  start : Nat
  text : Text
  deriving DecidableEq, Repr

def Slice.stop (slice : Slice) : Nat := slice.start + slice.text.len

/-- The variables of the draining loop, with located slices. -/
structure SliceState where
  filter : MarkerFilter
  slices : List Slice
  deriving DecidableEq, Repr

def SliceState.erase (state : SliceState) : DrainState :=
  ⟨state.filter, state.slices.map Slice.text⟩

/-- Add what a pass sends: it is cut off where the pass begins. -/
def SliceState.advance (state : SliceState) (after : DrainState) : SliceState :=
  ⟨after.filter, state.slices ++ after.deltas.map (Slice.mk state.filter.committed)⟩

/-- One pass of the draining loop. -/
def sliceBody (fullResponse : Text) (state : SliceState) : Option (Flow SliceState SliceState) :=
  (drainBody fullResponse ⟨state.filter, []⟩).map (Flow.map state.advance state.advance)

/-- `MarkerFilter::drain` with the offsets of the slices. -/
def drainSlices (filter : MarkerFilter) (fullResponse : Text) : Outcome SliceState :=
  iterate (sliceBody fullResponse) (2 * fullResponse.length + 2) ⟨filter, []⟩

/-- A call of `drain`: the response so far, the filter behind the call and what it returns. -/
structure DrainCall where
  fullResponse : Text
  filter : MarkerFilter
  slices : List Slice

/-- The calls of `drain` for the chunks of a response. -/
def drainCalls (fullResponse : Text) (filter : MarkerFilter) : List Text → Outcome (List DrainCall)
  | [] => .returned []
  | chunk :: chunks =>
      let grown := fullResponse ++ chunk
      (drainSlices filter grown).bind fun drained =>
        (drainCalls grown drained.filter chunks).map (⟨grown, drained.filter, drained.slices⟩ :: ·)

/-- All calls on a filter: a drain for each chunk, and the flush. -/
structure FilterRun where
  drains : List DrainCall
  flushed : Option Slice

namespace FilterRun

/-- What is sent, in order. -/
def slices (run : FilterRun) : List Slice :=
  run.drains.flatMap DrainCall.slices ++ run.flushed.toList

def text (run : FilterRun) : Text :=
  run.slices.flatMap Slice.text

end FilterRun

/-- The filter behind all calls of `drain`. -/
def filterBehind (filter : MarkerFilter) (drains : List DrainCall) : MarkerFilter :=
  (drains.getLast?.map DrainCall.filter).getD filter

/-- A new filter, driven over the chunks of a response. -/
def filterRun (chunks : List Text) : Outcome FilterRun :=
  (drainCalls [] .new chunks).bind fun drains =>
    let filter := filterBehind .new drains
    (Outcome.ofOption (flush filter chunks.flatten)).map fun flushed =>
      ⟨drains, flushed.1.map (Slice.mk filter.committed)⟩

/-! ## The texts of the slices -/

/-- What a pass decides does not depend on what was sent before. -/
theorem drainBody_append (full : Text) (filter : MarkerFilter) (deltas : List Text) :
    drainBody full ⟨filter, deltas⟩ = (drainBody full ⟨filter, []⟩).map
      (Flow.map (fun after => ⟨after.filter, deltas ++ after.deltas⟩)
        (fun after => ⟨after.filter, deltas ++ after.deltas⟩)) := by
  rcases filter with ⟨committed, eating⟩
  simp only [drainBody]
  cases full.sliceFrom committed with
  | none => rfl
  | some remaining =>
      simp only [Option.bind_eq_bind, Option.bind_some]
      by_cases empty : remaining = []
      · simp [empty, Flow.map]
      · rw [if_neg empty, if_neg empty]
        cases eating with
        | true =>
            simp only [if_true]
            cases Text.find blockClose remaining with
            | none => simp [Flow.map]
            | some pos =>
                simp only
                split
                · simp [Flow.map]
                · cases remaining.byteAt (pos + blockClose.len) <;> simp [Flow.map]
        | false =>
            simp only [Bool.false_eq_true, if_false]
            cases findDispatchStart remaining with
            | none => rfl
            | some found =>
                simp only [Option.bind_some]
                cases found with
                | none =>
                    simp only
                    split
                    · cases remaining.sliceTo (safeEmitEnd remaining) <;> simp [Flow.map]
                    · simp [Flow.map]
                | some pos =>
                    simp only
                    split
                    · cases remaining.sliceTo pos <;> simp [Flow.map]
                    · simp [Flow.map]

theorem sliceBody_erase (full : Text) (state : SliceState) :
    drainBody full state.erase = (sliceBody full state).map (Flow.map SliceState.erase SliceState.erase) := by
  rw [SliceState.erase, drainBody_append, sliceBody, Option.map_map]
  apply congrFun
  apply congrArg
  funext flow
  cases flow <;> simp [Flow.map, SliceState.erase, SliceState.advance, Function.comp_def]

/-- Without the offsets, the calls of `drain` are those of the model of the
loop. -/
theorem drain_eq_drainSlices (filter : MarkerFilter) (full : Text) :
    drain filter full = (drainSlices filter full).map SliceState.erase :=
  iterate_map SliceState.erase SliceState.erase (sliceBody_erase full) _ ⟨filter, []⟩

/-! ## The places of the slices -/

/-- The slices are stretches of the response between two offsets: none is
empty, and they follow one another without overlap. -/
structure Located (full : Text) (start stop : Nat) (slices : List Slice) : Prop where
  reads : ∀ slice ∈ slices, slice.text ≠ [] ∧ full.slice slice.start slice.stop = some slice.text
  ordered : slices.Pairwise fun earlier later => earlier.stop ≤ later.start
  within : ∀ slice ∈ slices, start ≤ slice.start ∧ slice.stop ≤ stop
  forward : start ≤ stop

namespace Located

variable {full : Text} {start middle stop : Nat} {slices later : List Slice}

theorem nil (forward : start ≤ stop) : Located full start stop [] :=
  ⟨nofun, .nil, nofun, forward⟩

theorem append (first : Located full start middle slices) (second : Located full middle stop later) :
    Located full start stop (slices ++ later) where
  reads := by
    intro slice member
    rcases List.mem_append.mp member with early | late
    · exact first.reads slice early
    · exact second.reads slice late
  ordered := by
    refine List.pairwise_append.mpr ⟨first.ordered, second.ordered, ?_⟩
    intro slice early slice' late
    exact Nat.le_trans (first.within slice early).2 (second.within slice' late).1
  within := by
    intro slice member
    rcases List.mem_append.mp member with early | late
    · have bounds := first.within slice early
      exact ⟨bounds.1, Nat.le_trans bounds.2 second.forward⟩
    · have bounds := second.within slice late
      exact ⟨Nat.le_trans first.forward bounds.1, bounds.2⟩
  forward := Nat.le_trans first.forward second.forward

/-- Slices stay where they are when the response grows. -/
theorem grow (located : Located full start stop slices) (more : Text) :
    Located (full ++ more) start stop slices where
  reads slice member := ⟨(located.reads slice member).1,
    Text.slice_append_of_some (located.reads slice member).2 more⟩
  ordered := located.ordered
  within := located.within
  forward := located.forward

/-- What is sent from a prefix on, up to a longer prefix. -/
theorem sendable {before sent before' rest' : Text} (whole : full = before' ++ rest')
    (covers : before ++ sent <+: before') :
    Located full before.len before'.len ((sendable sent).map (Slice.mk before.len)) := by
  rcases covers with ⟨skipped, rfl⟩
  have forward : before.len ≤ Text.len (before ++ sent ++ skipped) := by
    simp only [Text.len_append]
    omega
  unfold Agent.sendable
  split
  · exact nil forward
  · rename_i nonempty
    have split : full = before ++ (sent ++ (skipped ++ rest')) := by
      rw [whole]
      simp only [List.append_assoc]
    refine ⟨?_, List.pairwise_singleton _ _, ?_, forward⟩
    · intro slice member
      rw [List.mem_singleton.mp member]
      exact ⟨nonempty, Text.slice_eq_some_iff.mpr ⟨before, skipped ++ rest', split, rfl, rfl⟩⟩
    · intro slice member
      rw [List.mem_singleton.mp member]
      refine ⟨Nat.le_refl _, ?_⟩
      simp only [Slice.stop, Text.len_append]
      omega

end Located

/-- A pass sends at most the text right behind what it has committed, and
commits it. -/
def Advances (full before : Text) (after : DrainState) : Prop :=
  ∃ before' rest' sent, full = before' ++ rest' ∧ after.filter.committed = before'.len ∧
    before ++ sent <+: before' ∧ after.deltas = sendable sent

theorem advances_stay {full before rest : Text} (whole : full = before ++ rest) (eating : Bool) :
    Advances full before ⟨⟨before.len, eating⟩, []⟩ :=
  ⟨before, rest, [], whole, rfl, ⟨[], by rw [List.append_nil, List.append_nil]⟩, rfl⟩

/-- Every pass of the loop advances. -/
theorem drainBody_advances {full before rest : Text} (whole : full = before ++ rest) (eating : Bool) :
    ∃ after, Advances full before after ∧
      (drainBody full ⟨⟨before.len, eating⟩, []⟩ = some (.next after) ∨
        drainBody full ⟨⟨before.len, eating⟩, []⟩ = some (.done after)) := by
  by_cases empty : rest = []
  · subst empty
    exact ⟨_, advances_stay whole eating, .inr (drainBody_of_empty [] (by simpa using whole) eating)⟩
  · cases eating with
    | true =>
        cases closes : cut blockClose rest with
        | none => exact ⟨_, advances_stay whole true, .inr (drainBody_of_no_closer [] whole empty closes)⟩
        | some parts =>
            rcases parts with ⟨body, behind⟩
            by_cases atEnd : behind = []
            · subst atEnd
              exact ⟨_, advances_stay whole true, .inr (drainBody_of_closer_at_end [] whole closes)⟩
            · refine ⟨_, ⟨before ++ body ++ blockClose ++ (dropNewline behind).1, (dropNewline behind).2, [],
                ?_, rfl, ?_, rfl⟩, .inl (drainBody_of_closer [] whole closes atEnd)⟩
              · rw [List.append_assoc _ (dropNewline behind).1, dropNewline_append, whole, (cut_sound closes).1]
                simp only [List.append_assoc]
              · simp only [List.append_nil, List.append_assoc]
                exact List.prefix_append _ _
    | false =>
        cases opens : cut dispatchOpen rest with
        | none =>
            rcases safeEmitEnd_withheld rest with ⟨front, held, safe, split, _⟩
            refine ⟨_, ⟨before ++ front, held, front, ?_, rfl, List.prefix_rfl, List.nil_append _⟩,
              .inr (drainBody_of_no_opener [] whole empty opens split safe)⟩
            rw [whole, split, List.append_assoc]
        | some parts =>
            rcases parts with ⟨gap, after⟩
            rcases exists_chopped gap with ⟨newline, _, chopped⟩
            refine ⟨_, ⟨before ++ chopNewline gap, newline ++ (dispatchOpen ++ after), chopNewline gap, ?_, rfl,
              List.prefix_rfl, List.nil_append _⟩, .inl (drainBody_of_opener [] whole opens)⟩
            rw [whole, (cut_sound opens).1, List.append_assoc, ← List.append_assoc (chopNewline gap), ← chopped]

/-- The slices of a drain so far lie between where it started and where it is. -/
def LocatedSince (full : Text) (start : Nat) (state : SliceState) : Prop :=
  ∃ before rest, full = before ++ rest ∧ state.filter.committed = before.len ∧
    Located full start before.len state.slices

theorem LocatedSince.pass {full : Text} {start : Nat} {state following : SliceState}
    (located : LocatedSince full start state)
    (passes : sliceBody full state = some (.next following) ∨ sliceBody full state = some (.done following)) :
    LocatedSince full start following := by
  rcases state with ⟨⟨committed, eating⟩, slices⟩
  rcases located with ⟨before, rest, whole, rfl, located⟩
  rcases drainBody_advances whole eating with
    ⟨after, ⟨before', rest', sent, whole', committed, covers, sends⟩, pass⟩
  have same : following = SliceState.advance ⟨⟨before.len, eating⟩, slices⟩ after := by
    rcases pass with moves | stops
    · simp [sliceBody, moves, Flow.map] at passes
      exact passes.symm
    · simp [sliceBody, stops, Flow.map] at passes
      exact passes.symm
  rw [same]
  refine ⟨before', rest', whole', committed, ?_⟩
  rw [SliceState.advance, sends]
  exact located.append (.sendable whole' covers)

/-- Specification of a drain with its slices. -/
theorem drainSlices_spec {full : Text} (before rest : Text) (whole : full = before ++ rest) (eating : Bool) :
    ∃ before' rest' eating' slices, full = before' ++ rest' ∧
      drainSlices ⟨before.len, eating⟩ full = .returned ⟨⟨before'.len, eating'⟩, slices⟩ ∧
      Located full before.len before'.len slices ∧ Drains eating rest (slices.map Slice.text) eating' rest' := by
  rcases drain_spec before rest whole eating with ⟨before', rest', eating', sent, whole', drains, effect⟩
  rw [drain_eq_drainSlices] at drains
  rcases returns : drainSlices ⟨before.len, eating⟩ full with ⟨⟨filter, slices⟩⟩ | _ | _
  · rw [returns] at drains
    have same := Outcome.returned.inj drains
    rcases (DrainState.mk.injEq _ _ _ _).mp same with ⟨rfl, rfl⟩
    have located : LocatedSince full before.len ⟨⟨before'.len, eating'⟩, slices⟩ := by
      have moves : ∀ state following, LocatedSince full before.len state →
          sliceBody full state = some (.next following) → LocatedSince full before.len following :=
        fun state following located step => located.pass (.inl step)
      have stops : ∀ state result, LocatedSince full before.len state →
          sliceBody full state = some (.done result) → LocatedSince full before.len result :=
        fun state result located step => located.pass (.inr step)
      have start : LocatedSince full before.len ⟨⟨before.len, eating⟩, []⟩ :=
        ⟨before, rest, whole, rfl, .nil (Nat.le_refl _)⟩
      exact iterate_invariant moves stops start returns
    rcases located with ⟨before'', rest'', _, committed, located⟩
    refine ⟨before', rest', eating', slices, whole', rfl, ?_, effect⟩
    rw [← committed] at located
    exact located
  · rw [returns] at drains
    cases drains
  · rw [returns] at drains
    cases drains

/-! ## The whole stream -/

/-- The text that calls of `drain` send. -/
def sentText (drains : List DrainCall) : Text :=
  (drains.flatMap DrainCall.slices).flatMap Slice.text

theorem sentText_cons (call : DrainCall) (drains : List DrainCall) :
    sentText (call :: drains) = call.slices.flatMap Slice.text ++ sentText drains := by
  rw [sentText, List.flatMap_cons, List.flatMap_append]
  rfl

/-- The text sent up to a call and what is left unsent make up a text.  Inside
a block nothing of it is left.  Outside, it is the end of the response so far,
and no more than the start of an opener. -/
def DrainCall.HoldsBack (call : DrainCall) (sent whole : Text) : Prop :=
  ∃ unsent, sent ++ unsent = whole ∧
    if call.filter.eating then unsent = []
    else call.fullResponse.sliceFrom call.filter.committed = some unsent ∧
      (unsent <+: '\n' :: dispatchOpen ∨ unsent <+: dispatchOpen)

/-- What the drains of further chunks do to a response that is sent up to `before`. -/
structure Drove (full before rest : Text) (eating : Bool) (chunks : List Text) (drains : List DrainCall)
    (before' rest' : Text) (eating' : Bool) : Prop where
  whole : full ++ chunks.flatten = before' ++ rest'
  behind : filterBehind ⟨before.len, eating⟩ drains = ⟨before'.len, eating'⟩
  located : Located (full ++ chunks.flatten) before.len before'.len (drains.flatMap DrainCall.slices)
  shows : ∀ more, shownFrom eating (rest ++ chunks.flatten ++ more) =
    sentText drains ++ shownFrom eating' (rest' ++ more)
  drained : Drained eating' rest'
  count : drains.length = chunks.length
  holdsBack : ∀ (index : Nat) (call : DrainCall), drains[index]? = some call →
    call.fullResponse = full ++ (chunks.take (index + 1)).flatten ∧
      call.HoldsBack (sentText (drains.take (index + 1)))
        (shownFrom eating (rest ++ (chunks.take (index + 1)).flatten))

theorem filterBehind_cons (filter : MarkerFilter) (call : DrainCall) (drains : List DrainCall) :
    filterBehind filter (call :: drains) = filterBehind call.filter drains := by
  rw [filterBehind, filterBehind, List.getLast?_cons]
  cases drains.getLast? <;> rfl

/-- What a drain leaves of the text that it was to show. -/
theorem holdsBack_of_drains {full before rest sent : Text} {eating : Bool} {slices : List Slice}
    (whole : full = before ++ rest) (drained : Drained eating rest) :
    DrainCall.HoldsBack ⟨full, ⟨before.len, eating⟩, slices⟩ sent (sent ++ shownFrom eating rest) := by
  refine ⟨shownFrom eating rest, rfl, ?_⟩
  cases eating with
  | true => exact drained.hidden rfl
  | false =>
      have unsent : shownFrom false rest = rest :=
        shownFrom_of_no_opener (cut_eq_none_iff.mpr (drained.closed rfl))
      rw [unsent]
      exact ⟨sliceFrom_of_eq whole rfl, drained.held rfl⟩

/-- Run lemma: the drains of any chunks return, and what they send lies in order. -/
theorem drainCalls_spec {full before rest : Text} (whole : full = before ++ rest) {eating : Bool}
    (drained : Drained eating rest) (chunks : List Text) :
    ∃ drains before' rest' eating', drainCalls full ⟨before.len, eating⟩ chunks = .returned drains ∧
      Drove full before rest eating chunks drains before' rest' eating' := by
  induction chunks generalizing full before rest eating with
  | nil =>
      refine ⟨[], before, rest, eating, rfl, ?_, rfl, .nil (Nat.le_refl _), ?_, drained, rfl,
        by rintro index call ⟨⟩⟩
      · rw [List.flatten_nil, List.append_nil, whole]
      · intro more
        rw [List.flatten_nil, List.append_nil]
        rfl
  | cons chunk chunks inductionHypothesis =>
      have grown : full ++ chunk = before ++ (rest ++ chunk) := by rw [whole, List.append_assoc]
      rcases drainSlices_spec before (rest ++ chunk) grown eating with
        ⟨middle, between, mode, slices, split, drains, located, effect⟩
      rcases inductionHypothesis split effect.drained with ⟨calls, before', rest', eating', later, drove⟩
      have joined : full ++ chunk ++ chunks.flatten = full ++ (chunk :: chunks).flatten := by
        rw [List.flatten_cons, List.append_assoc]
      refine ⟨⟨full ++ chunk, ⟨middle.len, mode⟩, slices⟩ :: calls, before', rest', eating', ?_,
        joined ▸ drove.whole, ?_, ?_, ?_, drove.drained, congrArg (· + 1) drove.count, ?_⟩
      · simp only [drainCalls, drains, Outcome.bind_returned, later, Outcome.map_returned]
      · rw [filterBehind_cons]
        exact drove.behind
      · rw [← joined]
        exact (located.grow chunks.flatten).append drove.located
      · intro more
        have first := effect.shows (chunks.flatten ++ more)
        have second := drove.shows more
        simp only [List.append_assoc, ← List.flatMap_def] at first second
        simp only [List.flatten_cons, sentText_cons, List.append_assoc]
        rw [first, second]
      · intro index call found
        cases index with
        | zero =>
            rcases Option.some.inj found with rfl
            have shows := effect.shows []
            simp only [List.append_nil, ← List.flatMap_def] at shows
            rw [List.take_succ_cons, List.take_succ_cons, List.take_zero, List.take_zero, List.flatten_singleton,
              sentText_cons, sentText, List.flatMap_nil, List.flatMap_nil, List.append_nil, shows]
            exact ⟨rfl, holdsBack_of_drains split effect.drained⟩
        | succ index =>
            rcases drove.holdsBack index call found with ⟨response, unsent, same, left⟩
            have shows := effect.shows (chunks.take (index + 1)).flatten
            simp only [← List.flatMap_def] at shows
            rw [List.take_succ_cons, List.take_succ_cons, List.flatten_cons, ← List.append_assoc,
              ← List.append_assoc, shows, sentText_cons, ← same]
            exact ⟨response, unsent, List.append_assoc .., left⟩

/-- What the flush sends lies behind what is committed. -/
theorem flush_located {full before rest : Text} (whole : full = before ++ rest) {eating : Bool}
    {sent : Option Text} {filter : MarkerFilter} (flushes : flush ⟨before.len, eating⟩ full = some (sent, filter)) :
    Located full before.len full.len (sent.map (Slice.mk before.len)).toList := by
  have forward : before.len ≤ full.len := by
    rw [whole, Text.len_append]
    omega
  rw [flush] at flushes
  split at flushes
  · rcases (Prod.mk.injEq _ _ _ _).mp (Option.some.inj flushes) with ⟨rfl, _⟩
    exact .nil forward
  · rename_i unsent
    simp only [sliceFrom_of_eq whole rfl, Option.map_some, Option.some.injEq, Prod.mk.injEq] at flushes
    rcases flushes with ⟨rfl, _⟩
    have nonempty : rest ≠ [] := by
      rintro rfl
      apply unsent
      rw [whole, List.append_nil]
      simp
    have covers : before ++ rest <+: full := whole ▸ List.prefix_rfl
    have located := Located.sendable (List.append_nil full).symm covers
    rw [Agent.sendable, if_neg nonempty] at located
    exact located

/-- What holds of the calls on a filter: the slices show the response and lie in order, and each
drain leaves unsent at most the start of an opener. -/
structure Filtered (chunks : List Text) (run : FilterRun) : Prop where
  shows : run.text = shown (scan streamDelimiters chunks.flatten)
  located : Located chunks.flatten 0 (Text.len chunks.flatten) run.slices
  count : run.drains.length = chunks.length
  holdsBack : ∀ (index : Nat) (call : DrainCall), run.drains[index]? = some call →
    call.fullResponse = (chunks.take (index + 1)).flatten ∧
      call.HoldsBack (sentText (run.drains.take (index + 1))) (shown (scan streamDelimiters call.fullResponse))

theorem filterRun_returns (chunks : List Text) :
    ∃ run, filterRun chunks = .returned run ∧ Filtered chunks run := by
  have start : ([] : Text) = [] ++ [] := rfl
  rcases drainCalls_spec start (.of_empty false) chunks with
    ⟨drains, before, rest, eating, calls, drove⟩
  have whole := drove.whole
  rw [List.nil_append] at whole
  rcases flush_spec before rest whole drove.drained with ⟨sent, filter, flushes, same, _⟩
  have located := drove.located
  rw [List.nil_append] at located
  have everything := drove.shows []
  simp only [List.append_nil, List.nil_append] at everything
  refine ⟨⟨drains, sent.map (Slice.mk before.len)⟩, ?_, ?_, located.append (flush_located whole flushes),
    drove.count, fun index call found => ?_⟩
  · have behind : filterBehind .new drains = ⟨before.len, eating⟩ := drove.behind
    have called : drainCalls [] .new chunks = .returned drains := calls
    rw [filterRun, called, Outcome.bind_returned]
    simp only [behind, flushes, Outcome.ofOption_some, Outcome.map_returned]
  · change _ = shownFrom false chunks.flatten
    rw [FilterRun.text, FilterRun.slices, List.flatMap_append, everything, ← same]
    cases sent <;> simp [sentText]
  · rcases drove.holdsBack index call found with ⟨response, held⟩
    rw [List.nil_append] at response
    rw [List.nil_append, ← response] at held
    exact ⟨response, held⟩

/-- The text of all slices is what the stream sends. -/
theorem liveStream_eq_filterRun (chunks : List Text) :
    liveStream chunks = (filterRun chunks).map FilterRun.text := by
  rcases filterRun_returns chunks with ⟨run, returns, filtered⟩
  rw [liveStream_eq, returns, Outcome.map_returned, filtered.shows]

/-- The filter never panics.  However a response is cut into chunks, the slices
make up what a scan of the whole response shows; they are stretches of the
response in order, without overlap and none empty.  After each drain the text
sent so far is what a scan of the response so far shows, but for the start of
an opener at its end. -/
theorem filterRun_ignores_chunks (chunks : List Text) :
    ∃ run, filterRun chunks = .returned run ∧
      run.text = shown (scan streamDelimiters chunks.flatten) ∧
      Located chunks.flatten 0 (Text.len chunks.flatten) run.slices ∧
      run.drains.length = chunks.length ∧
      ∀ (index : Nat) (call : DrainCall), run.drains[index]? = some call →
        call.fullResponse = (chunks.take (index + 1)).flatten ∧
          call.HoldsBack (sentText (run.drains.take (index + 1)))
            (shown (scan streamDelimiters call.fullResponse)) := by
  rcases filterRun_returns chunks with ⟨run, returns, filtered⟩
  exact ⟨run, returns, filtered.shows, filtered.located, filtered.count, filtered.holdsBack⟩

/-- A block in the second of three chunks. -/
example :
    (filterRun ["Sure.\n".toList, "@@dispatch\nx\n@@e".toList, "nd\nDone.".toList]).map FilterRun.slices =
      .returned [⟨0, "Sure.".toList⟩, ⟨25, "Done.".toList⟩] := by
  decide +kernel

end Agent
end Rabb1tClaw
