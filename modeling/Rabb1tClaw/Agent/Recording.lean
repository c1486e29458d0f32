import Rabb1tClaw.Agent.Session
import Rabb1tClaw.Foundations.Interleaving

namespace Rabb1tClaw
namespace Agent

open Foundations

/-!
# Concurrent recording

Whatever the interleaving, memory is right: it holds the turns in the order
of the appends (`Progress`).  The disk is another matter.  A snapshot is as
old as the append it was taken at, and the file holds the snapshot that was
written last, so memory and file agree at the end exactly when the last write
is the one that belongs to the last append (`persisted_iff`).
-/

section

variable {codec : SessionCodec}

/-! ## What a step can do -/

theorem recording_append {state next : Recording} {index now : Nat}
    (step : (recording codec).step state (.append index now) = some next) :
    ∃ token call calls, state.recorders[index]? = some ⟨token, call :: calls, none⟩ ∧
      next = ⟨(state.store.appendTurn token (call.turn now)).1, state.recorders.set index
        ⟨token, calls, some (state.store.appendTurn token (call.turn now)).2⟩⟩ := by
  simp only [recording] at step
  split at step
  · rename_i token call calls found
    exact ⟨token, call, calls, found, (Option.some.inj step).symm⟩
  · cases step

theorem recording_save {state next : Recording} {index : Nat} {nonce : Nonce}
    (step : (recording codec).step state (.save index nonce) = some next) :
    ∃ token calls snapshot path, state.recorders[index]? = some ⟨token, calls, some snapshot⟩ ∧
      conversationPath token = some path ∧
      next = ⟨{ state.store with
          disk := fun other =>
            if other = path then some (codec.sealSession token nonce snapshot)
            else state.store.disk other },
        state.recorders.set index ⟨token, calls, none⟩⟩ := by
  simp only [recording] at step
  split at step
  · rename_i token calls snapshot found
    rcases Option.map_eq_some_iff.mp step with ⟨store, saved, rfl⟩
    rcases Option.map_eq_some_iff.mp saved with ⟨path, isPath, rfl⟩
    exact ⟨token, calls, snapshot, path, found, isPath, rfl⟩
  · cases step

theorem getElem?_set_cases {recorders : List Recorder} {index other : Nat} {old changed found : Recorder}
    (before : recorders[index]? = some old) (after : (recorders.set index changed)[other]? = some found) :
    (other = index ∧ found = changed) ∨ (other ≠ index ∧ recorders[other]? = some found) := by
  by_cases same : index = other
  · subst same
    rw [List.getElem?_set_self (List.getElem?_eq_some_iff.mp before).1] at after
    exact Or.inl ⟨rfl, (Option.some.inj after).symm⟩
  · rw [List.getElem?_set_ne same] at after
    exact Or.inr ⟨fun equal => same equal.symm, after⟩

/-! ## Memory -/

/-- The call behind a turn. -/
def callOf (turn : ConversationTurn) : RecordCall :=
  ⟨turn.role, turn.content, turn.runId⟩

def queues (recorders : List Recorder) : List (List RecordCall) :=
  recorders.map Recorder.calls

/-- After some steps of one device's recorders, memory holds what it held at
the start and the turns of the appends in their order. -/
structure Progress (token : Text) (start : Recording) (order : List Nat) (state : Recording)
    (turns : List ConversationTurn) : Prop where
  tokens : ∀ recorder ∈ state.recorders, recorder.token = token
  draws : Draws (queues start.recorders) order (turns.map callOf) (queues state.recorders)
  history : state.store.getHistory token = start.store.getHistory token ++ turns
  present : order ≠ [] → state.store.sessions token =
    some ⟨start.store.getHistory token ++ turns⟩

theorem queues_set {recorders : List Recorder} {index : Nat} {recorder changed : Recorder}
    (before : recorders[index]? = some recorder) (calls : changed.calls = recorder.calls) :
    queues (recorders.set index changed) = queues recorders := by
  have inside := (List.getElem?_eq_some_iff.mp before).1
  rw [queues, List.map_set, calls]
  apply List.ext_getElem?
  intro other
  by_cases same : index = other
  · subst same
    rw [List.getElem?_set_self (by rwa [List.length_map]), queues, List.getElem?_map, before]
    rfl
  · rw [List.getElem?_set_ne same]
    rfl

theorem tokens_set {recorders : List Recorder} {token : Text} {index : Nat} {changed : Recorder}
    (tokens : ∀ recorder ∈ recorders, recorder.token = token) (same : changed.token = token) :
    ∀ recorder ∈ recorders.set index changed, recorder.token = token := by
  intro recorder member
  rcases List.mem_or_eq_of_mem_set member with before | rfl
  · exact tokens recorder before
  · exact same

theorem Progress.append {token : Text} {start state next : Recording} {order : List Nat}
    {turns : List ConversationTurn} (progress : Progress token start order state turns)
    {index now : Nat} (step : (recording codec).step state (.append index now) = some next) :
    ∃ turn, Progress token start (order ++ [index]) next (turns ++ [turn]) := by
  rcases recording_append step with ⟨owner, call, calls, found, rfl⟩
  obtain rfl : owner = token := progress.tokens _ (List.mem_of_getElem? found)
  have appended := getHistory_appendTurn state.store owner (call.turn now)
  have head : (queues state.recorders)[index]? = some (call :: calls) := by
    rw [queues, List.getElem?_map, found]
    rfl
  refine ⟨call.turn now, tokens_set progress.tokens rfl, ?_, ?_, ?_⟩
  · have drawn := progress.draws.concat head
    rw [List.map_append, show queues (state.recorders.set index _) = _ from List.map_set]
    exact drawn
  · rw [appended.1, progress.history, List.append_assoc]
  · intro _
    rw [appended.2.1, ← List.append_assoc, ← progress.history, ← appended.2.2]

theorem Progress.save {token : Text} {start state next : Recording} {order : List Nat}
    {turns : List ConversationTurn} (progress : Progress token start order state turns)
    {index : Nat} {nonce : Nonce}
    (step : (recording codec).step state (.save index nonce) = some next) :
    Progress token start order next turns := by
  rcases recording_save step with ⟨owner, calls, snapshot, path, found, isPath, rfl⟩
  have isOwner : owner = token := progress.tokens _ (List.mem_of_getElem? found)
  refine ⟨tokens_set progress.tokens isOwner, ?_, progress.history, progress.present⟩
  have same : queues (state.recorders.set index ⟨owner, calls, none⟩) = queues state.recorders :=
    queues_set found rfl
  simp only [same]
  exact progress.draws

/-- The recorders that append in a schedule, in order. -/
def appends (schedule : List RecordStep) : List Nat :=
  schedule.filterMap RecordStep.appender

/-- The recorders that save in a schedule, in order. -/
def saves (schedule : List RecordStep) : List Nat :=
  schedule.filterMap RecordStep.saver

theorem appends_concat (past : List RecordStep) (step : RecordStep) :
    appends (past ++ [step]) = appends past ++ step.appender.toList := by
  rw [appends, List.filterMap_append]
  cases step <;> rfl

theorem saves_concat (past : List RecordStep) (step : RecordStep) :
    saves (past ++ [step]) = saves past ++ step.saver.toList := by
  rw [saves, List.filterMap_append]
  cases step <;> rfl

theorem progress_start {token : Text} {start : Recording}
    (tokens : ∀ recorder ∈ start.recorders, recorder.token = token) :
    Progress token start [] start [] :=
  ⟨tokens, .nil _, (List.append_nil _).symm, fun nonempty => absurd rfl nonempty⟩

/-- Memory is right in every interleaving. -/
theorem progress_of_run {token : Text} {start final : Recording} {schedule : List RecordStep}
    (tokens : ∀ recorder ∈ start.recorders, recorder.token = token)
    (runs : (recording codec).run start schedule = some final) :
    ∃ turns, Progress token start (appends schedule) final turns := by
  have preserved : ∀ past state action next,
      (∃ turns, Progress token start (appends past) state turns) →
        (recording codec).step state action = some next →
          ∃ turns, Progress token start (appends (past ++ [action])) next turns := by
    rintro past state action next ⟨turns, progress⟩ step
    rw [appends_concat]
    cases action with
    | append index now =>
        rcases progress.append step with ⟨turn, grown⟩
        exact ⟨turns ++ [turn], grown⟩
    | save index nonce =>
        refine ⟨turns, ?_⟩
        rw [show (RecordStep.save index nonce).appender.toList = [] from rfl, List.append_nil]
        exact progress.save step
  have initial : ∃ turns, Progress token start (appends []) start turns :=
    ⟨[], progress_start tokens⟩
  exact Machine.run_invariant preserved [] initial runs

/-! ## The file -/

/-- A session as it was after an append of a recorder, with the appends that
came later. -/
def Captured (base : List ConversationTurn) (order : List Nat) (turns : List ConversationTurn)
    (index : Nat) (session : ConversationSession) (later : List Nat) : Prop :=
  ∃ earlier, order = earlier ++ index :: later ∧
    session.turns = base ++ turns.take (earlier.length + 1)

theorem Captured.concat {base turns : List ConversationTurn} {order later : List Nat} {index : Nat}
    {session : ConversationSession} (captured : Captured base order turns index session later)
    (aligned : turns.length = order.length) (turn : ConversationTurn) (other : Nat) :
    Captured base (order ++ [other]) (turns ++ [turn]) index session (later ++ [other]) := by
  rcases captured with ⟨earlier, split, same⟩
  refine ⟨earlier, by rw [split, List.append_assoc, List.cons_append], ?_⟩
  have inside : earlier.length + 1 ≤ turns.length := by
    rw [aligned, split, List.length_append, List.length_cons]
    omega
  rw [List.take_append_of_le_length inside, same]

/-- The newest append. -/
theorem captured_last {base turns : List ConversationTurn} {order : List Nat}
    (aligned : turns.length = order.length) {turn : ConversationTurn} {index : Nat}
    {session : ConversationSession} (whole : session.turns = base ++ (turns ++ [turn])) :
    Captured base (order ++ [index]) (turns ++ [turn]) index session [] := by
  refine ⟨order, rfl, ?_⟩
  rw [whole, List.take_of_length_le (by rw [List.length_append, aligned]; exact Nat.le_refl _)]

/-- A recorder has a snapshot to write. -/
def Owes (state : Recording) (index : Nat) : Prop :=
  ∃ recorder, state.recorders[index]? = some recorder ∧ recorder.snapshot ≠ none

/-- What is known of snapshots and file after some steps. -/
structure Written (codec : SessionCodec) (token : Text) (start : Recording) (past : List RecordStep)
    (state : Recording) (turns : List ConversationTurn) : Prop where
  pending : ∀ index recorder session, state.recorders[index]? = some recorder →
    recorder.snapshot = some session →
      ∃ later, Captured (start.store.getHistory token) (appends past) turns index session later ∧
        index ∉ later
  file : ∀ index, (saves past).getLast? = some index →
    ∃ session later, Captured (start.store.getHistory token) (appends past) turns index session later ∧
      fileSession codec state.store token = some session ∧ (index ∈ later → Owes state index)
  owed : ∀ index ∈ appends past, index ∈ saves past ∨ Owes state index

theorem Progress.aligned {token : Text} {start state : Recording} {order : List Nat}
    {turns : List ConversationTurn} (progress : Progress token start order state turns) :
    turns.length = order.length := by
  have drawn := progress.draws.length_eq
  rwa [List.length_map] at drawn

theorem Owes.set_of_ne {state : Recording} {index other : Nat} (owes : Owes state other)
    (differs : index ≠ other) (changed : Recorder) (store : SessionStore) :
    Owes ⟨store, state.recorders.set index changed⟩ other := by
  rcases owes with ⟨recorder, found, pending⟩
  exact ⟨recorder, by rw [List.getElem?_set_ne differs]; exact found, pending⟩

/-- Step lemma for an append: its snapshot is the newest, and all others have
one more append behind them. -/
theorem Written.append {token : Text} {start state next : Recording} {past : List RecordStep}
    {turns : List ConversationTurn} (progress : Progress token start (appends past) state turns)
    (written : Written codec token start past state turns) {index now : Nat}
    (step : (recording codec).step state (.append index now) = some next) :
    ∃ turn, Progress token start (appends (past ++ [.append index now])) next (turns ++ [turn]) ∧
      Written codec token start (past ++ [.append index now]) next (turns ++ [turn]) := by
  rcases progress.append step with ⟨turn, grown⟩
  have order : appends (past ++ [.append index now]) = appends past ++ [index] := appends_concat past _
  have saved : saves (past ++ [.append index now]) = saves past := by
    rw [saves_concat]
    exact List.append_nil _
  refine ⟨turn, order ▸ grown, ?_⟩
  rcases recording_append step with ⟨owner, call, calls, found, rfl⟩
  obtain rfl : owner = token := progress.tokens _ (List.mem_of_getElem? found)
  have appended := getHistory_appendTurn state.store owner (call.turn now)
  have inside := (List.getElem?_eq_some_iff.mp found).1
  have owes : Owes ⟨(state.store.appendTurn owner (call.turn now)).1, state.recorders.set index
      ⟨owner, calls, some (state.store.appendTurn owner (call.turn now)).2⟩⟩ index :=
    ⟨_, List.getElem?_set_self inside, Option.some_ne_none _⟩
  have newest : (state.store.appendTurn owner (call.turn now)).2.turns =
      start.store.getHistory owner ++ (turns ++ [turn]) := by
    rw [appended.2.2, ← appended.1]
    exact grown.history
  refine ⟨?_, ?_, ?_⟩
  · intro other recorder session here pending
    rw [order]
    rcases getElem?_set_cases found here with ⟨rfl, rfl⟩ | ⟨_, before⟩
    · rcases Option.some.inj pending with rfl
      exact ⟨[], captured_last progress.aligned newest, List.not_mem_nil⟩
    · rcases written.pending other recorder session before pending with ⟨later, captured, absent⟩
      refine ⟨later ++ [index], captured.concat progress.aligned turn index, ?_⟩
      intro member
      rcases List.mem_append.mp member with early | late
      · exact absent early
      · rename_i differs
        exact differs (List.mem_singleton.mp late)
  · intro other last
    rw [saved] at last
    rw [order]
    rcases written.file other last with ⟨session, later, captured, file, owed⟩
    refine ⟨session, later ++ [index], captured.concat progress.aligned turn index, file, ?_⟩
    intro member
    by_cases same : index = other
    · exact same ▸ owes
    · rcases List.mem_append.mp member with early | late
      · exact (owed early).set_of_ne same _ _
      · exact absurd (List.mem_singleton.mp late).symm same
  · intro other member
    rw [saved]
    rw [order] at member
    by_cases same : index = other
    · exact Or.inr (same ▸ owes)
    · rcases List.mem_append.mp member with early | late
      · exact (written.owed other early).imp_right fun owed => owed.set_of_ne same _ _
      · exact absurd (List.mem_singleton.mp late).symm same

/-- Step lemma for a save: the file holds the recorder's last append. -/
theorem Written.save (lawful : codec.Lawful) {token : Text} {start state next : Recording}
    {past : List RecordStep} {turns : List ConversationTurn}
    (progress : Progress token start (appends past) state turns)
    (written : Written codec token start past state turns) {index : Nat} {nonce : Nonce}
    (step : (recording codec).step state (.save index nonce) = some next) :
    Progress token start (appends (past ++ [.save index nonce])) next turns ∧
      Written codec token start (past ++ [.save index nonce]) next turns := by
  have order : appends (past ++ [.save index nonce]) = appends past := by
    rw [appends_concat]
    exact List.append_nil _
  have saved : saves (past ++ [.save index nonce]) = saves past ++ [index] := saves_concat past _
  refine ⟨order ▸ progress.save step, ?_⟩
  rcases recording_save step with ⟨owner, calls, snapshot, path, found, isPath, rfl⟩
  obtain rfl : owner = token := progress.tokens _ (List.mem_of_getElem? found)
  rcases written.pending index _ snapshot found rfl with ⟨later, captured, absent⟩
  refine ⟨?_, ?_, ?_⟩
  · intro other recorder session here pending
    rw [order]
    rcases getElem?_set_cases found here with ⟨rfl, rfl⟩ | ⟨_, before⟩
    · cases pending
    · exact written.pending other recorder session before pending
  · intro other last
    rw [saved, List.getLast?_concat, Option.some.injEq] at last
    subst last
    rw [order]
    exact ⟨snapshot, later, captured, fileSession_saved lawful state.store isPath nonce snapshot,
      fun member => absurd member absent⟩
  · intro other member
    rw [order] at member
    rw [saved]
    by_cases same : index = other
    · exact Or.inl (List.mem_append_right _ (List.mem_singleton.mpr same.symm))
    · rcases written.owed other member with early | owed
      · exact Or.inl (List.mem_append_left _ early)
      · exact Or.inr (owed.set_of_ne same _ _)

theorem written_start {token : Text} {start : Recording}
    (fresh : ∀ recorder ∈ start.recorders, recorder.snapshot = none) :
    Written codec token start [] start [] where
  pending := by
    intro index recorder session here pending
    rw [fresh recorder (List.mem_of_getElem? here)] at pending
    cases pending
  file := fun index last => by cases last
  owed := fun index member => by cases member

theorem written_of_run (lawful : codec.Lawful) {token : Text} {start final : Recording}
    {schedule : List RecordStep} (tokens : ∀ recorder ∈ start.recorders, recorder.token = token)
    (fresh : ∀ recorder ∈ start.recorders, recorder.snapshot = none)
    (runs : (recording codec).run start schedule = some final) :
    ∃ turns, Progress token start (appends schedule) final turns ∧
      Written codec token start schedule final turns := by
  have preserved : ∀ past state action next,
      (∃ turns, Progress token start (appends past) state turns ∧
        Written codec token start past state turns) →
      (recording codec).step state action = some next →
      ∃ turns, Progress token start (appends (past ++ [action])) next turns ∧
        Written codec token start (past ++ [action]) next turns := by
    rintro past state action next ⟨turns, progress, written⟩ step
    cases action with
    | append index now =>
        rcases written.append progress step with ⟨turn, grown, written'⟩
        exact ⟨turns ++ [turn], grown, written'⟩
    | save index nonce => exact ⟨turns, written.save lawful progress step⟩
  have initial : ∃ turns, Progress token start (appends []) start turns ∧
      Written codec token start [] start turns :=
    ⟨[], progress_start tokens, written_start fresh⟩
  exact Machine.run_invariant preserved [] initial runs

/-- A schedule has steps only if it appends or saves. -/
theorem eq_nil_of_no_steps {schedule : List RecordStep} (noAppend : appends schedule = [])
    (noSave : saves schedule = []) : schedule = [] := by
  cases schedule with
  | nil => rfl
  | cons step schedule => cases step <;> simp [appends, saves, RecordStep.appender, RecordStep.saver] at *

/-- A captured session is the newest exactly when no append came later. -/
theorem Captured.newest_iff {base turns : List ConversationTurn} {order later : List Nat} {index : Nat}
    {session : ConversationSession} (captured : Captured base order turns index session later)
    (aligned : turns.length = order.length) (absent : index ∉ later) :
    session.turns = base ++ turns ↔ order.getLast? = some index := by
  rcases captured with ⟨earlier, rfl, same⟩
  rw [List.length_append, List.length_cons] at aligned
  rw [same]
  cases later with
  | nil =>
      rw [List.length_nil] at aligned
      refine iff_of_true ?_ List.getLast?_concat
      rw [List.take_of_length_le (by omega)]
  | cons next later =>
      rw [List.length_cons] at aligned
      refine iff_of_false ?_ ?_
      · intro whole
        have lengths := congrArg List.length (List.append_cancel_left whole)
        rw [List.length_take] at lengths
        omega
      · intro last
        apply absent
        rw [List.getLast?_append, List.getLast?_cons_cons] at last
        cases found : (next :: later).getLast? with
        | none => simp at found
        | some value =>
            rw [found, Option.some_or, Option.some.injEq] at last
            exact last ▸ List.mem_of_getLast? found

/-- Once all calls on a device have completed, the file holds the session in
memory exactly when the call that saved last is the call that appended last. -/
theorem persisted_iff (codec : SessionCodec) (lawful : codec.Lawful) (token : Text)
    (start final : Recording) (schedule : List RecordStep)
    (tokens : ∀ recorder ∈ start.recorders, recorder.token = token)
    (fresh : ∀ recorder ∈ start.recorders, recorder.snapshot = none)
    (idle : schedule = [] → Persisted codec start.store token)
    (runs : (recording codec).run start schedule = some final) (completed : final.Completed) :
    Persisted codec final.store token ↔
      (saves schedule).getLast? = (appends schedule).getLast? := by
  rcases written_of_run lawful tokens fresh runs with ⟨turns, progress, written⟩
  have settled : ∀ index, ¬ Owes final index := by
    rintro index ⟨recorder, found, owes⟩
    exact owes (completed recorder (List.mem_of_getElem? found)).2
  by_cases none_appended : appends schedule = []
  · have none_saved : saves schedule = [] := by
      cases last : (saves schedule).getLast? with
      | none => exact List.getLast?_eq_none_iff.mp last
      | some index =>
          rcases written.file index last with ⟨session, later, ⟨earlier, split, _⟩, _⟩
          rw [none_appended] at split
          simp at split
    rcases eq_nil_of_no_steps none_appended none_saved with rfl
    rcases Option.some.inj runs with rfl
    exact iff_of_true (idle rfl) rfl
  · rcases List.exists_mem_of_ne_nil _ none_appended with ⟨first, member⟩
    have saved := (written.owed first member).resolve_right (settled first)
    cases last : (saves schedule).getLast? with
    | none =>
        rw [List.getLast?_eq_none_iff.mp last] at saved
        cases saved
    | some index =>
        rcases written.file index last with ⟨session, later, captured, file, owed⟩
        have absent : index ∉ later := fun inLater => settled index (owed inLater)
        rw [Persisted, file, progress.present none_appended, Option.some.injEq, eq_comm (a := some index),
          ← captured.newest_iff progress.aligned absent]
        constructor
        · intro same
          rw [same]
        · intro same
          cases session
          exact congrArg ConversationSession.mk same

end

/-- Two calls on a device without a session. -/
def twoCalls (token : Text) (first second : RecordCall) : Recording where
  store := ⟨fun _ => none, fun _ => none⟩
  recorders := [⟨token, [first], none⟩, ⟨token, [second], none⟩]

/-- Two calls that save in the other order leave the older session on disk. -/
theorem twoCalls_reordered {codec : SessionCodec} (lawful : codec.Lawful) {token path : Text}
    (isPath : conversationPath token = some path) (first second : RecordCall) (nonce : Nonce) :
    ∃ final, (recording codec).run (twoCalls token first second)
        [.append 0 1, .append 1 2, .save 1 nonce, .save 0 nonce] = some final ∧
      final.Completed ∧ fileSession codec final.store token = some ⟨[first.turn 1]⟩ ∧
      final.store.sessions token = some ⟨[first.turn 1, second.turn 2]⟩ := by
  have read := SessionCodec.readSession_sealSession lawful token nonce ⟨[first.turn 1]⟩
  simp [Machine.run, recording, twoCalls, SessionStore.saveSession, SessionStore.appendTurn,
    ConversationSession.addTurn, ConversationSession.new, Recording.Completed, fileSession, isPath, read]

theorem device01_path :
    conversationPath "device01".toList = some "device01/conversation.enc".toList := by
  decide

def zeroNonce : Nonce := ⟨List.replicate 12 0, rfl⟩

/-- The second call saves first: its turn is missing on disk. -/
theorem save_order_loses_turn :
    ∃ final, (recording sampleCodec).run
        (twoCalls "device01".toList ⟨"user".toList, "a".toList, none⟩ ⟨"user".toList, "b".toList, none⟩)
        [.append 0 1, .append 1 2, .save 1 zeroNonce, .save 0 zeroNonce] = some final ∧
      final.Completed ∧ ¬ Persisted sampleCodec final.store "device01".toList := by
  rcases twoCalls_reordered sampleCodec_lawful device01_path ⟨"user".toList, "a".toList, none⟩
    ⟨"user".toList, "b".toList, none⟩ zeroNonce with ⟨final, runs, completed, file, memory⟩
  refine ⟨final, runs, completed, ?_⟩
  rw [Persisted, file, memory]
  decide

/-- Two calls that save in the order in which they appended. -/
def ordered (nonce : Nonce) : List RecordStep :=
  [.append 0 1, .append 1 2, .save 0 nonce, .save 1 nonce]

theorem twoCalls_ordered (codec : SessionCodec) {token path : Text}
    (isPath : conversationPath token = some path) (first second : RecordCall) (nonce : Nonce) :
    ∃ final, (recording codec).run (twoCalls token first second) (ordered nonce) = some final ∧
      final.Completed := by
  simp [Machine.run, recording, twoCalls, ordered, SessionStore.saveSession, SessionStore.appendTurn,
    Recording.Completed, isPath]

theorem persisted_iff_twoCalls :
    ∃ final, (recording sampleCodec).run
        (twoCalls "device01".toList ⟨"user".toList, "a".toList, none⟩ ⟨"user".toList, "b".toList, none⟩)
        (ordered zeroNonce) = some final ∧
      (Persisted sampleCodec final.store "device01".toList ↔
        (saves (ordered zeroNonce)).getLast? = (appends (ordered zeroNonce)).getLast?) := by
  rcases twoCalls_ordered sampleCodec device01_path ⟨"user".toList, "a".toList, none⟩
    ⟨"user".toList, "b".toList, none⟩ zeroNonce with ⟨final, runs, completed⟩
  exact ⟨final, runs, persisted_iff sampleCodec sampleCodec_lawful "device01".toList _ final
    (ordered zeroNonce) (by simp [twoCalls]) (by simp [twoCalls]) (fun empty => by cases empty) runs
    completed⟩

end Agent
end Rabb1tClaw
