import Rabb1tClaw.Agent.Restoration

namespace Rabb1tClaw
namespace Agent

open Foundations
open Config (Device DeviceStore PairedStore)

/-!
# Loads that fail

A conversation file that cannot be read at a restart is skipped, and stays as
it is on disk.  The next `record_message` of the device starts a new session
in memory, and its save replaces the file.  The turns on disk survive exactly
when no message is recorded while a session is on disk and not in memory
(`history_kept_iff`).

The devices are fixed here: the steps are records and restarts.
-/

namespace ArchiveStep

/-- Messages are recorded and the server is restarted. -/
def InService : ArchiveStep → Prop
  | record .. => True
  | restart .. => True
  | onboard .. => False
  | revoke .. => False

theorem InService.freshId {action : ArchiveStep} (inService : action.InService) (state : Archive) :
    state.FreshId action := by
  cases action with
  | onboard draws displayName => exact absurd inService id
  | revoke idOrToken => trivial
  | record token call now nonce => trivial
  | restart listing unreadable => trivial

end ArchiveStep

namespace Archive

/-- Devices that are paired, and nothing recorded. -/
def ofDevices (devices : PairedStore) : Archive where
  devices := devices
  store := ⟨fun _ => none, fun _ => none⟩
  directories := []
  onboarded := devices.devices.entries.map fun entry => entry.2.token

/-- A record for a paired device without a session in memory finds no session
on disk. -/
def KeepsFile (codec : SessionCodec) (state : Archive) : ArchiveStep → Prop
  | .record token _ _ _ => state.devices.Authorizes token → state.store.sessions token = none →
      fileSession codec state.store token = none
  | _ => True

end Archive

/-- What was on disk before a restart is in the history in the end, followed
by what was recorded after the restart. -/
def HistoryKept (codec : SessionCodec) (devices : PairedStore) (schedule : List ArchiveStep)
    (restarted : Archive) : Prop :=
  ∀ before listing unreadable later middle, schedule = before ++ .restart listing unreadable :: later →
    (archive codec).run (.ofDevices devices) before = some middle →
    ∀ token session, devices.Authorizes token → fileSession codec middle.store token = some session →
      restarted.store.getHistory token = session.turns ++ recordedWith token later

section

variable {codec : SessionCodec} {devices : PairedStore}

/-- A server at work on fixed devices. -/
structure Serving (codec : SessionCodec) (devices : PairedStore) (state : Archive) : Prop where
  consistent : state.Consistent codec
  paired : state.devices = devices
  written : ∀ token ∈ state.onboarded, ∀ session,
    fileSession codec state.store token = some session → session.turns ≠ []

theorem fileSession_ofDevices (token : Text) :
    fileSession codec (Archive.ofDevices devices).store token = none := by
  rw [fileSession]
  cases conversationPath token <;> rfl

namespace Serving

theorem handed {state : Archive} (serving : Serving codec devices state) {token : Text}
    (authorized : devices.Authorizes token) : token ∈ state.onboarded :=
  serving.consistent.authorized_mem (serving.paired ▸ authorized)

/-- A session that is in memory is the one on disk. -/
theorem getHistory_eq {state : Archive} (serving : Serving codec devices state) {token : Text}
    {session : ConversationSession} (file : fileSession codec state.store token = some session)
    (present : state.store.sessions token ≠ none) : state.store.getHistory token = session.turns := by
  exact getHistory_of_sessions (((serving.consistent.synced token).resolve_left present).trans file)

/-- What a step does to the file of a device: nothing, or it puts the history
in memory with a turn behind it there, and into memory. -/
theorem file_step (lawful : codec.Lawful) {state next : Archive} (serving : Serving codec devices state)
    {token : Text} (handed : token ∈ state.onboarded) {action : ArchiveStep}
    (inService : action.InService) (moves : (archive codec).step state action = some next) :
    (action.turnOf token = none ∧
        fileSession codec next.store token = fileSession codec state.store token) ∨
      ∃ turn, action.turnOf token = some turn ∧
        fileSession codec next.store token = some ⟨state.store.getHistory token ++ [turn]⟩ ∧
        next.store.sessions token = some ⟨state.store.getHistory token ++ [turn]⟩ := by
  cases action with
  | onboard draws displayName => exact absurd inService id
  | revoke idOrToken => exact absurd inService id
  | restart listing unreadable =>
      rcases archive_restart serving.consistent.listed moves with ⟨sessions, rfl, _⟩
      exact Or.inl ⟨rfl, rfl⟩
  | record owner call now nonce =>
      rcases archive_record moves with ⟨handed', start, starts, rfl⟩
      by_cases same : owner = token
      · subst same
        exact Or.inr ⟨call.turn now, if_pos rfl, fileSession_recordedStore _ _ _ lawful starts,
          sessions_recordedStore _ _ _⟩
      · refine Or.inl ⟨if_neg same, fileSession_recordedStore_other _ _ _ ?_⟩
        intro begins
        exact same (serving.consistent.token_eq handed handed' (begins.trans starts.symm)).symm

theorem start (codec : SessionCodec) (devices : PairedStore) :
    Serving codec devices (.ofDevices devices) where
  consistent := {
    owned := by
      intro token handed
      rcases List.mem_map.mp handed with ⟨entry, member, rfl⟩
      exact ⟨entry.1, entry.2, AList.mem_lookup_iff.mpr member, rfl⟩
    complete := by
      intro id device found
      exact List.mem_map.mpr ⟨⟨id, device⟩, AList.mem_lookup_iff.mp found, rfl⟩
    known := fun token present => absurd rfl present
    used := fun path present => absurd rfl present
    listed := fun start present => absurd rfl present
    synced := fun token => Or.inl rfl }
  paired := rfl
  written := by
    intro token _ session file
    rw [fileSession_ofDevices] at file
    cases file

theorem onboarded_step {state next : Archive} {action : ArchiveStep} (inService : action.InService)
    (listed : state.Listed) (moves : (archive codec).step state action = some next) :
    next.onboarded = state.onboarded ∧ next.devices = state.devices := by
  cases action with
  | onboard draws displayName => exact absurd inService id
  | revoke idOrToken => exact absurd inService id
  | restart listing unreadable =>
      rcases archive_restart listed moves with ⟨sessions, rfl, _⟩
      exact ⟨rfl, rfl⟩
  | record owner call now nonce =>
      rcases archive_record moves with ⟨_, start, _, rfl⟩
      exact ⟨rfl, rfl⟩

/-- Step lemma. -/
theorem step (lawful : codec.Lawful) {state next : Archive} (serving : Serving codec devices state)
    {action : ArchiveStep} (inService : action.InService)
    (moves : (archive codec).step state action = some next) : Serving codec devices next := by
  rcases onboarded_step inService serving.consistent.listed moves with ⟨onboarded, paired⟩
  refine ⟨serving.consistent.step lawful (inService.freshId state) moves, paired.trans serving.paired, ?_⟩
  intro token handed session file
  rw [onboarded] at handed
  rcases serving.file_step lawful handed inService moves with ⟨_, same⟩ | ⟨turn, _, written, _⟩
  · exact serving.written token handed session (same.symm.trans file)
  · rcases Option.some.inj (written.symm.trans file) with rfl
    simp

theorem run (lawful : codec.Lawful) {state final : Archive} (serving : Serving codec devices state)
    {schedule : List ArchiveStep} (inService : ∀ action ∈ schedule, action.InService)
    (runs : (archive codec).run state schedule = some final) : Serving codec devices final :=
  have preserved : ∀ (_ : List ArchiveStep) state action next, Serving codec devices state →
      action.InService → (archive codec).step state action = some next → Serving codec devices next :=
    fun _ _ _ _ here allowed moves => here.step lawful allowed moves
  Machine.run_invariant_guarded preserved [] serving
    (Machine.guarded_of_forall (fun action member _ => inService action member) state) runs

end Serving

/-- In the middle of a run, the server is at work and the rest is still to
come. -/
theorem serving_split (lawful : codec.Lawful) {schedule before later : List ArchiveStep}
    {middle final : Archive} (inService : ∀ action ∈ schedule, action.InService)
    (runs : (archive codec).run (.ofDevices devices) schedule = some final)
    (split : schedule = before ++ later)
    (reaches : (archive codec).run (.ofDevices devices) before = some middle) :
    Serving codec devices middle ∧ (∀ action ∈ later, action.InService) ∧
      (archive codec).run middle later = some final := by
  subst split
  rw [Machine.run_append, reaches] at runs
  refine ⟨?_, fun action member => inService action (List.mem_append_right before member), runs⟩
  exact (Serving.start codec devices).run lawful
    (fun action member => inService action (List.mem_append_left later member)) reaches

/-! ## Files that are kept -/

theorem keepsFile_turnOf {state : Archive} {action : ArchiveStep} (keeps : state.KeepsFile codec action)
    {token : Text} {turn : ConversationTurn} (records : action.turnOf token = some turn)
    (authorized : state.devices.Authorizes token) (absent : state.store.sessions token = none) :
    fileSession codec state.store token = none := by
  cases action with
  | record owner call now nonce =>
      rw [ArchiveStep.turnOf] at records
      split at records
      · rename_i same
        subst same
        exact keeps authorized absent
      · cases records
  | onboard draws displayName => cases records
  | revoke idOrToken => cases records
  | restart listing unreadable => cases records

/-- Run lemma: a session on disk keeps its turns, and gets those that are
recorded. -/
theorem file_kept (lawful : codec.Lawful) {token : Text} (authorized : devices.Authorizes token)
    {turns : List ConversationTurn} {state final : Archive} (serving : Serving codec devices state)
    (file : fileSession codec state.store token = some ⟨turns⟩) {schedule : List ArchiveStep}
    (inService : ∀ action ∈ schedule, action.InService)
    (keeps : (archive codec).Guarded (Archive.KeepsFile codec) state schedule)
    (runs : (archive codec).run state schedule = some final) :
    fileSession codec final.store token = some ⟨turns ++ recordedWith token schedule⟩ := by
  have preserved : ∀ past state action next,
      (Serving codec devices state ∧
        fileSession codec state.store token = some ⟨turns ++ recordedWith token past⟩) →
      (state.KeepsFile codec action ∧ action.InService) →
      (archive codec).step state action = some next →
      Serving codec devices next ∧
        fileSession codec next.store token = some ⟨turns ++ recordedWith token (past ++ [action])⟩ := by
    rintro past state action next ⟨serving, file⟩ ⟨keeps, inService⟩ moves
    refine ⟨serving.step lawful inService moves, ?_⟩
    rcases serving.file_step lawful (serving.handed authorized) inService moves with
      ⟨silent, same⟩ | ⟨turn, records, written, _⟩
    · rw [same, recordedWith_silent past silent]
      exact file
    · have present : state.store.sessions token ≠ none := by
        intro absent
        rw [keepsFile_turnOf keeps records (serving.paired ▸ authorized) absent] at file
        cases file
      rw [written, serving.getHistory_eq file present, recordedWith_concat, records, List.append_assoc]
      rfl
  have guarded := keeps.and
    (Machine.guarded_of_forall (fun action member _ => inService action member) state)
  have initial : fileSession codec state.store token = some ⟨turns ++ recordedWith token []⟩ := by
    rw [file]
    exact congrArg (fun all => some (ConversationSession.mk all)) (List.append_nil turns).symm
  exact (Machine.run_invariant_guarded preserved [] ⟨serving, initial⟩ guarded runs).2

/-- A restart that reads everything has the turns on disk. -/
theorem getHistory_restarted {state restarted : Archive} (serving : Serving codec devices state)
    {listing : List Text} (restarts : (archive codec).step state (.restart listing []) = some restarted)
    {token : Text} (authorized : devices.Authorizes token) {session : ConversationSession}
    (file : fileSession codec state.store token = some session) :
    restarted.store.getHistory token = session.turns := by
  rcases archive_restart serving.consistent.listed restarts with ⟨sessions, rfl, found⟩
  have loads : Loads state.devices.toDeviceStore [] token :=
    ⟨serving.paired ▸ authorized, fun start _ member => by cases member⟩
  exact getHistory_of_sessions (((found token).1 loads).trans file)

/-! ## Files that are lost -/

/-- Run lemma: a file has no more turns than it started with and were recorded
since. -/
theorem file_length_le (lawful : codec.Lawful) {token : Text} (authorized : devices.Authorizes token)
    {session : ConversationSession} {state final : Archive} (serving : Serving codec devices state)
    (file : fileSession codec state.store token = some session) {schedule : List ArchiveStep}
    (inService : ∀ action ∈ schedule, action.InService)
    (runs : (archive codec).run state schedule = some final) :
    ∃ kept, fileSession codec final.store token = some kept ∧
      kept.turns.length ≤ session.turns.length + (recordedWith token schedule).length := by
  have preserved : ∀ past state action next,
      (Serving codec devices state ∧ ∃ kept, fileSession codec state.store token = some kept ∧
        kept.turns.length ≤ session.turns.length + (recordedWith token past).length) →
      action.InService → (archive codec).step state action = some next →
      Serving codec devices next ∧ ∃ kept, fileSession codec next.store token = some kept ∧
        kept.turns.length ≤ session.turns.length + (recordedWith token (past ++ [action])).length := by
    rintro past state action next ⟨serving, kept, file, bound⟩ inService moves
    refine ⟨serving.step lawful inService moves, ?_⟩
    rcases serving.file_step lawful (serving.handed authorized) inService moves with
      ⟨silent, same⟩ | ⟨turn, records, written, _⟩
    · refine ⟨kept, same.trans file, ?_⟩
      rw [recordedWith_silent past silent]
      exact bound
    · refine ⟨_, written, ?_⟩
      have remembered : (state.store.getHistory token).length ≤ kept.turns.length := by
        by_cases absent : state.store.sessions token = none
        · rw [getHistory_of_absent absent]
          exact Nat.zero_le _
        · rw [serving.getHistory_eq file absent]
      rw [recordedWith_concat, records, List.length_append, List.length_append]
      simp only [List.length_singleton, Option.toList_some]
      omega
  have guarded : (archive codec).Guarded (fun _ action => action.InService) state schedule :=
    Machine.guarded_of_forall (fun action member _ => inService action member) state
  exact (Machine.run_invariant_guarded preserved [] ⟨serving, session, file, Nat.le_add_right _ _⟩
    guarded runs).2

/-- Run lemma: a session on disk that is not in memory was there before a
restart. -/
theorem unloaded_since_restart (lawful : codec.Lawful) {token : Text}
    (authorized : devices.Authorizes token) {schedule : List ArchiveStep} {final : Archive}
    (inService : ∀ action ∈ schedule, action.InService)
    (runs : (archive codec).run (.ofDevices devices) schedule = some final)
    {session : ConversationSession} (file : fileSession codec final.store token = some session)
    (absent : final.store.sessions token = none) :
    ∃ before listing unreadable later middle, schedule = before ++ .restart listing unreadable :: later ∧
      (archive codec).run (.ofDevices devices) before = some middle ∧
      fileSession codec middle.store token = some session := by
  induction schedule using List.reverseRecOn generalizing final with
  | nil =>
      rcases Option.some.inj runs with rfl
      rw [fileSession_ofDevices] at file
      cases file
  | append_singleton past action inductionHypothesis =>
      rcases Machine.run_concat_iff.mp runs with ⟨state, earlier, moves⟩
      have calm : ∀ other ∈ past, other.InService :=
        fun other member => inService other (List.mem_append_left _ member)
      have allowed := inService action (List.mem_append_right past List.mem_cons_self)
      have serving := (Serving.start codec devices).run lawful calm earlier
      rcases serving.file_step lawful (serving.handed authorized) allowed moves with
        ⟨silent, same⟩ | ⟨turn, _, _, present⟩
      · have before := same.symm.trans file
        cases action with
        | onboard draws displayName => exact absurd allowed id
        | revoke idOrToken => exact absurd allowed id
        | restart listing unreadable =>
            exact ⟨past, listing, unreadable, [], state, rfl, earlier, before⟩
        | record owner call now nonce =>
            have differs : token ≠ owner := by
              rintro rfl
              rw [ArchiveStep.turnOf, if_pos rfl] at silent
              cases silent
            have absent' : state.store.sessions token = none := by
              rcases archive_record moves with ⟨_, start, _, rfl⟩
              rwa [sessions_recordedStore_other _ _ _ differs] at absent
            rcases inductionHypothesis calm earlier before absent' with
              ⟨before', listing, unreadable, later, middle, rfl, reaches, present⟩
            refine ⟨before', listing, unreadable, later ++ [.record owner call now nonce], middle, ?_,
              reaches, present⟩
            rw [List.append_assoc, List.cons_append]
      · rw [present] at absent
        cases absent

/-- A record over a session that is not in memory leaves a history that is too
short: the file starts over with one turn. -/
theorem history_length_lt (lawful : codec.Lawful) {token : Text} (authorized : devices.Authorizes token)
    {state next final restarted : Archive} (serving : Serving codec devices state)
    {session : ConversationSession} (file : fileSession codec state.store token = some session)
    (absent : state.store.sessions token = none) {call : RecordCall} {now : Nat} {nonce : Nonce}
    (moves : (archive codec).step state (.record token call now nonce) = some next)
    {later : List ArchiveStep} (inService : ∀ action ∈ later, action.InService)
    (runs : (archive codec).run next later = some final) {listing : List Text}
    (restarts : (archive codec).step final (.restart listing []) = some restarted) :
    (restarted.store.getHistory token).length <
      session.turns.length + (recordedWith token (.record token call now nonce :: later)).length := by
  have serves : (ArchiveStep.record token call now nonce).InService := trivial
  have serving' := serving.step lawful serves moves
  have written : fileSession codec next.store token = some ⟨[call.turn now]⟩ := by
    rcases archive_record moves with ⟨_, start, starts, rfl⟩
    rw [fileSession_recordedStore _ _ _ lawful starts, getHistory_of_absent absent, List.nil_append]
  rcases file_length_le lawful authorized serving' written inService runs with ⟨left, file', bound⟩
  have counted : (recordedWith token (.record token call now nonce :: later)).length =
      (recordedWith token later).length + 1 := by
    have turn : (ArchiveStep.record token call now nonce).turnOf token = some (call.turn now) := if_pos rfl
    rw [recordedWith, List.filterMap_cons_some turn, List.length_cons, recordedWith]
  have nonempty := List.length_pos_iff.mpr
    (serving.written token (serving.handed authorized) session file)
  rw [getHistory_restarted (serving'.run lawful inService runs) restarts authorized file', counted]
  rw [List.length_singleton] at bound
  omega

/-- In a run of records and restarts, every turn that was on disk before a
restart is in the history after a later restart that reads all files, with
the turns recorded in between behind it, exactly when no record is made for a
device whose session is on disk and not in memory. -/
theorem history_kept_iff (codec : SessionCodec) (lawful : codec.Lawful) (devices : PairedStore)
    (schedule : List ArchiveStep) (final restarted : Archive) (listing : List Text)
    (inService : ∀ step ∈ schedule, step.InService)
    (runs : (archive codec).run (.ofDevices devices) schedule = some final)
    (restarts : (archive codec).step final (.restart listing []) = some restarted) :
    HistoryKept codec devices schedule restarted ↔
      (archive codec).Guarded (Archive.KeepsFile codec) (.ofDevices devices) schedule := by
  have serving := (Serving.start codec devices).run lawful inService runs
  constructor
  · intro kept
    apply Machine.guarded_of_splits
    intro before action later middle split reaches
    rcases serving_split lawful inService runs split reaches with ⟨here, allowed, onwards⟩
    rcases Machine.run_cons onwards with ⟨next, moves, rest⟩
    cases action with
    | onboard draws displayName => trivial
    | revoke idOrToken => trivial
    | restart listing' unreadable => trivial
    | record token call now nonce =>
        intro authorized absent
        rw [here.paired] at authorized
        cases file : fileSession codec middle.store token with
        | none => rfl
        | some session =>
            have calm : ∀ step ∈ before, step.InService := by
              intro step member
              exact inService step (split ▸ List.mem_append_left _ member)
            rcases unloaded_since_restart lawful authorized calm reaches file absent with
              ⟨before', listing', unreadable, later', middle', rfl, reaches', there⟩
            have history := kept before' listing' unreadable
              (later' ++ .record token call now nonce :: later) middle'
              (by rw [split, List.append_assoc, List.cons_append]) reaches' token session authorized there
            have short := history_length_lt lawful authorized here file absent moves
              (fun step member => allowed step (List.mem_cons_of_mem _ member)) rest restarts
            rw [history, List.length_append, recordedWith, List.filterMap_append, List.length_append,
              ← recordedWith, ← recordedWith] at short
            omega
  · intro keeps before listing' unreadable later middle split reaches token session authorized file
    rcases serving_split lawful inService runs split reaches with ⟨here, allowed, onwards⟩
    rw [split] at keeps
    have file' := file_kept lawful authorized here file allowed (keeps.of_append reaches) onwards
    exact getHistory_restarted serving restarts authorized file'

end

/-! ## A device that records after a failed load -/

/-- One paired device. -/
def pairedDevice : PairedStore :=
  ((PairedStore.empty.onboard (drawsOf tokenA 1) []).map Prod.fst).getD .empty

def goodbye : RecordCall := ⟨"user".toList, "goodbye".toList, none⟩

/-- A record, a restart that may fail to read its file, and another record. -/
def acrossRestart (unreadable : List Text) : List ArchiveStep :=
  [.record tokenA.text hello 2 zeroNonce, .restart [tokenA.text.take 8] unreadable,
    .record tokenA.text goodbye 3 zeroNonce]

theorem acrossRestart_runs (unreadable : List Text) :
    ∃ final, (archive keyedCodec).run (.ofDevices pairedDevice) (acrossRestart unreadable) = some final ∧
      ∃ restarted, (archive keyedCodec).step final (.restart [tokenA.text.take 8] []) = some restarted :=
  ⟨_, rfl, _, rfl⟩

theorem history_kept_iff_acrossRestart :
    ∃ final restarted,
      (archive keyedCodec).run (.ofDevices pairedDevice) (acrossRestart []) = some final ∧
      (archive keyedCodec).step final (.restart [tokenA.text.take 8] []) = some restarted ∧
      (HistoryKept keyedCodec pairedDevice (acrossRestart []) restarted ↔
        (archive keyedCodec).Guarded (Archive.KeepsFile keyedCodec) (.ofDevices pairedDevice)
          (acrossRestart [])) := by
  rcases acrossRestart_runs [] with ⟨final, runs, restarted, restarts⟩
  have inService : ∀ step ∈ acrossRestart [], step.InService := by
    simp [acrossRestart, ArchiveStep.InService]
  exact ⟨final, restarted, runs, restarts, history_kept_iff keyedCodec keyedCodec_lawful pairedDevice
    (acrossRestart []) final restarted _ inService runs restarts⟩

/-- A record after a load that failed puts the new turn where the session was. -/
theorem overwritten_after_failed_load {codec : SessionCodec} (lawful : codec.Lawful)
    {devices : PairedStore} {state loaded recorded : Archive} (serving : Serving codec devices state)
    {token start : Text} (authorized : devices.Authorizes token)
    (starts : tokenPrefix token = some start) {listing unreadable : List Text}
    (failed : start ∈ unreadable)
    (loads : (archive codec).step state (.restart listing unreadable) = some loaded) {call : RecordCall}
    {now : Nat} {nonce : Nonce}
    (records : (archive codec).step loaded (.record token call now nonce) = some recorded) :
    fileSession codec recorded.store token = some ⟨[call.turn now]⟩ := by
  have serves : (ArchiveStep.restart listing unreadable).InService := trivial
  have serving' := serving.step lawful serves loads
  rcases archive_restart serving.consistent.listed loads with ⟨sessions, rfl, found⟩
  have absent : sessions token = none :=
    (found token).2 fun loads => loads.2 start starts failed
  have serves' : (ArchiveStep.record token call now nonce).InService := trivial
  rcases serving'.file_step lawful (serving'.handed authorized) serves' records with
    ⟨silent, _⟩ | ⟨turn, same, written, _⟩
  · rw [ArchiveStep.turnOf, if_pos rfl] at silent
    cases silent
  · rw [ArchiveStep.turnOf, if_pos rfl] at same
    rcases Option.some.inj same with rfl
    rw [written, getHistory_of_absent absent]
    rfl

/-- The turn that was on disk before the failed load is gone after the load
that reads everything. -/
theorem failed_load_loses_turn :
    keyedCodec.Lawful ∧ keyedCodec.Keyed ∧ pairedDevice.Authorizes tokenA.text ∧
      ∃ before loaded recorded restarted session turn,
        (archive keyedCodec).step (.ofDevices pairedDevice) (.record tokenA.text hello 2 zeroNonce) =
          some before ∧
        fileSession keyedCodec before.store tokenA.text = some session ∧ turn ∈ session.turns ∧
        (archive keyedCodec).step before (.restart [tokenA.text.take 8] [tokenA.text.take 8]) =
          some loaded ∧
        (archive keyedCodec).step loaded (.record tokenA.text goodbye 3 zeroNonce) = some recorded ∧
        (archive keyedCodec).step recorded (.restart [tokenA.text.take 8] []) = some restarted ∧
        turn ∉ restarted.store.getHistory tokenA.text := by
  have authorized : pairedDevice.Authorizes tokenA.text := by decide +kernel
  refine ⟨keyedCodec_lawful, keyedCodec_keyed, authorized, ?_⟩
  rcases acrossRestart_runs [tokenA.text.take 8] with ⟨final, runs, restarted, restarts⟩
  rcases Machine.run_cons runs with ⟨before, first, rest⟩
  rcases Machine.run_cons rest with ⟨loaded, second, rest'⟩
  rcases Machine.run_cons rest' with ⟨recorded, third, done⟩
  rcases Option.some.inj done with rfl
  have serves : (ArchiveStep.record tokenA.text hello 2 zeroNonce).InService := trivial
  have empty := Serving.start keyedCodec pairedDevice
  have serving := empty.step keyedCodec_lawful serves first
  rcases empty.file_step keyedCodec_lawful (empty.handed authorized) serves first with
    ⟨silent, _⟩ | ⟨turn, same, written, _⟩
  · cases silent
  rcases Option.some.inj same with rfl
  have file := overwritten_after_failed_load keyedCodec_lawful serving authorized tokenA.tokenPrefix_text
    List.mem_cons_self second third
  have serves' : ∀ step ∈ (acrossRestart [tokenA.text.take 8]).drop 1, step.InService := by
    simp [acrossRestart, ArchiveStep.InService]
  have later := serving.run keyedCodec_lawful serves' rest
  refine ⟨before, loaded, recorded, restarted, _, hello.turn 2, first, written, ?_, second, third,
    restarts, ?_⟩
  · exact List.mem_append_right _ List.mem_cons_self
  · rw [getHistory_restarted later restarts authorized file]
    decide

end Agent
end Rabb1tClaw
