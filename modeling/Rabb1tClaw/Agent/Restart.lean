import Rabb1tClaw.Agent.Loading

namespace Rabb1tClaw
namespace Agent

open Foundations
open Config (Device DeviceStore Draws GeneratedToken PairedStore createDevice createDevice_deviceId
  createDevice_spec generateDeviceId)

/-!
# Sessions across restarts

In memory a session is found by the full token, on disk by the prefix of the
token.  `archive` is the machine of everything that touches either: devices
are onboarded and revoked, messages are recorded one after the other, and the
server is restarted.  A restart forgets what is in memory and loads the disk.

The two ways of finding a session agree as long as the tokens that have been
handed out belong to devices in the store (`Archive.Consistent`).  A device
that is added under the id of another breaks this: the other device is gone,
and its prefix can be drawn again while its connection still records.
-/

/-- The devices, their sessions, and the directories that they have.  The
tokens handed out so far are remembered. -/
structure Archive where
  devices : PairedStore
  store : SessionStore
  directories : List Text
  onboarded : List Text

/-- A restart sees the directories in a listing, and may be unable to read
the conversations in some of them. -/
inductive ArchiveStep where
  | onboard (draws : Draws) (displayName : Text)
  | revoke (idOrToken : Text)
  | record (token : Text) (call : RecordCall) (now : Nat) (nonce : Nonce)
  | restart (listing unreadable : List Text)

section

variable (codec : SessionCodec)

/-- `record_message`, with no other call in between. -/
def recordMessage (store : SessionStore) (token : Text) (turn : ConversationTurn) (nonce : Nonce) :
    Option SessionStore :=
  let appended := store.appendTurn token turn
  appended.1.saveSession codec token nonce appended.2

def archive : Machine Archive ArchiveStep where
  step state
    | .onboard draws displayName =>
        (state.devices.onboard draws displayName).map fun added =>
          { state with devices := added.1, onboarded := state.onboarded ++ [added.2.token] }
    | .revoke idOrToken => some { state with devices := state.devices.revoke idOrToken }
    | .record token call now nonce =>
        if state.onboarded.contains token then
          (tokenPrefix token).bind fun start =>
            (recordMessage codec state.store token (call.turn now) nonce).map fun store =>
              { state with store, directories := start :: state.directories }
        else none
    | .restart listing unreadable =>
        if state.directories.all listing.contains then
          (loadFromDisk codec state.devices.toDeviceStore
            (listing.map (dirEntry state.store.disk state.directories unreadable))).map fun sessions =>
              { state with store := ⟨sessions, state.store.disk⟩ }
        else none

end

namespace ArchiveStep

/-- The turn that a step records with a token. -/
def turnOf (token : Text) : ArchiveStep → Option ConversationTurn
  | record owner call now _ => if owner = token then some (call.turn now) else none
  | _ => none

/-- All reads of the step succeed. -/
def Readable : ArchiveStep → Prop
  | restart _ unreadable => unreadable = []
  | _ => True

end ArchiveStep

/-- The turns that a schedule records with a token. -/
def recordedWith (token : Text) (schedule : List ArchiveStep) : List ConversationTurn :=
  schedule.filterMap (ArchiveStep.turnOf token)

namespace Archive

/-- Nothing is paired or recorded. -/
def empty : Archive := ⟨.empty, ⟨fun _ => none, fun _ => none⟩, [], []⟩

/-- An onboarding takes an id that no device has. -/
def FreshId (state : Archive) : ArchiveStep → Prop
  | .onboard draws _ => ∀ id, generateDeviceId draws.nowMs draws.id = some id →
      state.devices.devices.lookup id = none
  | _ => True

/-- Every conversation file is in a directory. -/
def Listed (state : Archive) : Prop :=
  ∀ start, state.store.disk (start ++ "/conversation.enc".toList) ≠ none → start ∈ state.directories

/-- Memory and disk agree about the tokens that were handed out. -/
structure Consistent (codec : SessionCodec) (state : Archive) : Prop where
  owned : ∀ token ∈ state.onboarded, ∃ id device,
    state.devices.devices.lookup id = some device ∧ device.token = token
  complete : ∀ id device, state.devices.devices.lookup id = some device →
    device.token ∈ state.onboarded
  known : ∀ token, state.store.sessions token ≠ none → token ∈ state.onboarded
  used : ∀ path, state.store.disk path ≠ none →
    ∃ token ∈ state.onboarded, conversationPath token = some path
  listed : state.Listed
  synced : ∀ token, state.store.sessions token = none ∨
    state.store.sessions token = fileSession codec state.store token

end Archive

/-! ## Recording in memory and on disk -/

section

variable {codec : SessionCodec}

/-- What `record_message` leaves for a token with a prefix. -/
def recordedStore (codec : SessionCodec) (store : SessionStore) (token start : Text)
    (turn : ConversationTurn) (nonce : Nonce) : SessionStore where
  sessions := (store.appendTurn token turn).1.sessions
  disk := fun path =>
    if path = start ++ "/conversation.enc".toList then
      some (codec.sealSession token nonce (store.appendTurn token turn).2)
    else store.disk path

theorem recordMessage_eq_some {store saved : SessionStore} {token start : Text} {turn : ConversationTurn}
    {nonce : Nonce} (starts : tokenPrefix token = some start)
    (records : recordMessage codec store token turn nonce = some saved) :
    saved = recordedStore codec store token start turn nonce := by
  rcases Option.map_eq_some_iff.mp records with ⟨path, isPath, rfl⟩
  rw [conversationPath, starts, Option.map_some, Option.some.injEq] at isPath
  rw [← isPath]
  rfl

variable (store : SessionStore) {token start : Text} (turn : ConversationTurn) (nonce : Nonce)

theorem disk_recordedStore (path : Text) :
    (recordedStore codec store token start turn nonce).disk path =
      if path = start ++ "/conversation.enc".toList then
        some (codec.sealSession token nonce (store.appendTurn token turn).2)
      else store.disk path := rfl

theorem sessions_recordedStore :
    (recordedStore codec store token start turn nonce).sessions token =
      some ⟨store.getHistory token ++ [turn]⟩ := by
  rcases getHistory_appendTurn store token turn with ⟨_, present, turns⟩
  rw [recordedStore, present, ← turns]

theorem fileSession_recordedStore (lawful : codec.Lawful) (starts : tokenPrefix token = some start) :
    fileSession codec (recordedStore codec store token start turn nonce) token =
      some ⟨store.getHistory token ++ [turn]⟩ := by
  rcases getHistory_appendTurn store token turn with ⟨_, _, turns⟩
  rw [fileSession_of_named starts, disk_recordedStore, if_pos rfl, Option.bind_some,
    SessionCodec.readSession_sealSession lawful, ← turns]

theorem sessions_recordedStore_other {other : Text} (differs : other ≠ token) :
    (recordedStore codec store token start turn nonce).sessions other = store.sessions other := by
  rw [recordedStore, SessionStore.appendTurn]
  exact if_neg differs

theorem fileSession_recordedStore_other {other : Text} (apart : tokenPrefix other ≠ some start) :
    fileSession codec (recordedStore codec store token start turn nonce) other =
      fileSession codec store other := by
  cases begins : tokenPrefix other with
  | none => simp only [fileSession, conversationPath, begins, Option.map_none, Option.bind_none]
  | some begin =>
      have elsewhere : begin ++ "/conversation.enc".toList ≠ start ++ "/conversation.enc".toList := by
        intro same
        exact apart (begins.trans (congrArg some (List.append_cancel_right same)))
      rw [fileSession_of_named begins, fileSession_of_named begins, disk_recordedStore, if_neg elsewhere]

end

/-! ## Steps -/

section

variable {codec : SessionCodec}

theorem archive_onboard {state next : Archive} {draws : Draws} {displayName : Text}
    (step : (archive codec).step state (.onboard draws displayName) = some next) :
    ∃ created, createDevice state.devices.toDeviceStore draws displayName = some created ∧
      next.devices.toDeviceStore = state.devices.addDevice created ∧ next.store = state.store ∧
      next.directories = state.directories ∧ next.onboarded = state.onboarded ++ [created.token] := by
  rcases Option.map_eq_some_iff.mp step with ⟨added, onboards, rfl⟩
  rcases Option.map_eq_some_iff.mp onboards with ⟨⟨created, creates⟩, _, rfl⟩
  exact ⟨created, creates, rfl, rfl, rfl, rfl⟩

theorem archive_record {state next : Archive} {token : Text} {call : RecordCall} {now : Nat}
    {nonce : Nonce} (step : (archive codec).step state (.record token call now nonce) = some next) :
    token ∈ state.onboarded ∧ ∃ start, tokenPrefix token = some start ∧
      next = { state with
        store := recordedStore codec state.store token start (call.turn now) nonce
        directories := start :: state.directories } := by
  simp only [archive] at step
  split at step
  · rename_i handed
    rcases Option.bind_eq_some_iff.mp step with ⟨start, starts, records⟩
    rcases Option.map_eq_some_iff.mp records with ⟨saved, saves, rfl⟩
    rw [recordMessage_eq_some starts saves]
    exact ⟨List.contains_iff_mem.mp handed, start, starts, rfl⟩
  · cases step

theorem contains_of_all {names listing : List Text} (all : names.all listing.contains = true) :
    ∀ name ∈ names, name ∈ listing :=
  fun name member => List.contains_iff_mem.mp (List.all_eq_true.mp all name member)

theorem archive_restart {state next : Archive} {listing unreadable : List Text} (listed : state.Listed)
    (step : (archive codec).step state (.restart listing unreadable) = some next) :
    ∃ sessions, next = { state with store := ⟨sessions, state.store.disk⟩ } ∧
      ∀ token, (Loads state.devices.toDeviceStore unreadable token →
          sessions token = fileSession codec state.store token) ∧
        (¬ Loads state.devices.toDeviceStore unreadable token → sessions token = none) := by
  simp only [archive] at step
  split at step
  · rename_i covers
    rcases Option.map_eq_some_iff.mp step with ⟨sessions, loads, rfl⟩
    rcases loadFromDisk_spec codec state.devices.separate (contains_of_all covers) listed
      unreadable with ⟨sessions', loads', found⟩
    rcases Option.some.inj (loads.symm.trans loads') with rfl
    exact ⟨sessions, rfl, found⟩
  · cases step

variable (codec) in
/-- Loading does not fail. -/
theorem restart_enabled {state : Archive} {listing : List Text} (listed : state.Listed)
    (covers : ∀ name ∈ state.directories, name ∈ listing) (unreadable : List Text) :
    ∃ next, (archive codec).step state (.restart listing unreadable) = some next := by
  rcases loadFromDisk_spec codec state.devices.separate covers listed unreadable with
    ⟨sessions, loads, _⟩
  have shown : state.directories.all listing.contains = true :=
    List.all_eq_true.mpr fun name member => List.contains_iff_mem.mpr (covers name member)
  exact ⟨_, by simp only [archive, if_pos shown, loads, Option.map_some]; rfl⟩

/-- Step lemma: no step adds a file outside of the directories. -/
theorem listed_step {state next : Archive} (listed : state.Listed) {action : ArchiveStep}
    (moves : (archive codec).step state action = some next) : next.Listed := by
  cases action with
  | onboard draws displayName =>
      rcases archive_onboard moves with ⟨created, _, _, store, directories, _⟩
      rw [Archive.Listed, store, directories]
      exact listed
  | revoke idOrToken =>
      rcases Option.some.inj moves with rfl
      exact listed
  | record token call now nonce =>
      rcases archive_record moves with ⟨_, start, _, rfl⟩
      intro begin present
      rw [disk_recordedStore] at present
      split at present
      · rename_i here
        rw [List.append_cancel_right here]
        exact List.mem_cons_self
      · exact List.mem_cons_of_mem start (listed begin present)
  | restart listing unreadable =>
      rcases archive_restart listed moves with ⟨sessions, rfl, _⟩
      exact listed

theorem listed_of_run {schedule : List ArchiveStep} {start final : Archive} (listed : start.Listed)
    (runs : (archive codec).run start schedule = some final) : final.Listed :=
  Machine.run_invariant (fun _ _ _ _ here moves => listed_step here moves) [] listed runs

end

/-! ## Consistency -/

section

variable {codec : SessionCodec}

namespace Archive.Consistent

theorem start (codec : SessionCodec) : empty.Consistent codec where
  owned := fun token handed => by cases handed
  complete := fun id device found => by cases found
  known := fun token present => absurd rfl present
  used := fun path present => absurd rfl present
  listed := fun start present => absurd rfl present
  synced := fun token => Or.inl rfl

/-- Tokens that were handed out have prefixes of their own. -/
theorem token_eq {state : Archive} (consistent : state.Consistent codec) {token other : Text}
    (handed : token ∈ state.onboarded) (handed' : other ∈ state.onboarded)
    (same : tokenPrefix token = tokenPrefix other) : token = other := by
  rcases consistent.owned token handed with ⟨id, device, found, rfl⟩
  rcases consistent.owned other handed' with ⟨id', device', found', rfl⟩
  obtain rfl := state.devices.separate.apart id id' device device' found found' same
  rw [Option.some.inj (found.symm.trans found')]

theorem authorized_mem {state : Archive} (consistent : state.Consistent codec) {token : Text}
    (authorized : state.devices.Authorizes token) : token ∈ state.onboarded := by
  rcases DeviceStore.authorizes_iff.mp authorized with ⟨id, device, found, _, rfl⟩
  exact consistent.complete id device found

/-- No file exists under a prefix that no device has. -/
theorem disk_unused {state : Archive} (consistent : state.Consistent codec) {start : Text}
    (unused : ∀ id device, state.devices.devices.lookup id = some device →
      tokenPrefix device.token ≠ some start) :
    state.store.disk (start ++ "/conversation.enc".toList) = none := by
  by_contra present
  rcases consistent.used _ present with ⟨token, handed, isPath⟩
  rcases consistent.owned token handed with ⟨id, device, found, rfl⟩
  rcases Option.map_eq_some_iff.mp isPath with ⟨begin, begins, same⟩
  rw [List.append_cancel_right same] at begins
  exact unused id device found begins

/-- A device that is added under a fresh id takes a prefix without a file. -/
theorem onboard {state next : Archive} (consistent : state.Consistent codec) {draws : Draws}
    {displayName : Text} (fresh : FreshId state (.onboard draws displayName))
    (step : (archive codec).step state (.onboard draws displayName) = some next) :
    next.Consistent codec := by
  rcases archive_onboard step with ⟨created, creates, devices, store, directories, onboarded⟩
  have vacant := fresh created.deviceId (createDevice_deviceId creates)
  refine ⟨?_, ?_, ?_, ?_, ?_, ?_⟩
  · intro token handed
    rw [onboarded] at handed
    rw [devices]
    simp only [DeviceStore.lookup_addDevice]
    rcases List.mem_append.mp handed with early | new
    · rcases consistent.owned token early with ⟨id, device, found, same⟩
      refine ⟨id, device, ?_, same⟩
      rw [if_neg ?_]
      · exact found
      · rintro rfl
        rw [vacant] at found
        cases found
    · exact ⟨created.deviceId, created, if_pos rfl, (List.mem_singleton.mp new).symm⟩
  · intro id device found
    rw [devices, DeviceStore.lookup_addDevice] at found
    rw [onboarded]
    split at found
    · rcases Option.some.inj found with rfl
      exact List.mem_append_right _ List.mem_cons_self
    · exact List.mem_append_left _ (consistent.complete id device found)
  · intro token present
    rw [store] at present
    rw [onboarded]
    exact List.mem_append_left _ (consistent.known token present)
  · intro path present
    rw [store] at present
    rw [onboarded]
    rcases consistent.used path present with ⟨token, handed, isPath⟩
    exact ⟨token, List.mem_append_left _ handed, isPath⟩
  · exact listed_step consistent.listed step
  · intro token
    rw [store]
    exact consistent.synced token

theorem revoke {state : Archive} (consistent : state.Consistent codec) (idOrToken : Text) :
    { state with devices := state.devices.revoke idOrToken }.Consistent codec where
  owned := by
    intro token handed
    rcases consistent.owned token handed with ⟨id, device, found, rfl⟩
    have found' := DeviceStore.lookup_revokeDevice state.devices.toDeviceStore idOrToken id
    rw [found, Option.map_some] at found'
    refine ⟨id, _, found', ?_⟩
    split <;> rfl
  complete := by
    intro id device found
    have origin := DeviceStore.lookup_revokeDevice state.devices.toDeviceStore idOrToken id
    rcases Option.map_eq_some_iff.mp (origin.symm.trans found) with ⟨before, found', rfl⟩
    have handed := consistent.complete id before found'
    split <;> exact handed
  known := consistent.known
  used := consistent.used
  listed := consistent.listed
  synced := consistent.synced

theorem record (lawful : codec.Lawful) {state next : Archive} (consistent : state.Consistent codec)
    {token : Text} {call : RecordCall} {now : Nat} {nonce : Nonce}
    (step : (archive codec).step state (.record token call now nonce) = some next) :
    next.Consistent codec := by
  rcases archive_record step with ⟨handed, start, starts, rfl⟩
  refine ⟨consistent.owned, consistent.complete, ?_, ?_, ?_, ?_⟩
  · intro other present
    by_cases same : other = token
    · exact same ▸ handed
    · rw [sessions_recordedStore_other _ _ _ same] at present
      exact consistent.known other present
  · intro path present
    rw [disk_recordedStore] at present
    split at present
    · rename_i here
      exact ⟨token, handed, by rw [conversationPath, starts, Option.map_some, here]⟩
    · exact consistent.used path present
  · exact listed_step consistent.listed step
  · intro other
    by_cases same : other = token
    · subst same
      rw [sessions_recordedStore, fileSession_recordedStore _ _ _ lawful starts]
      exact Or.inr rfl
    · rw [sessions_recordedStore_other _ _ _ same]
      by_cases absent : state.store.sessions other = none
      · exact Or.inl absent
      · have apart : tokenPrefix other ≠ some start := by
          intro begins
          exact same (consistent.token_eq (consistent.known other absent) handed
            (begins.trans starts.symm))
        rw [fileSession_recordedStore_other _ _ _ apart]
        exact consistent.synced other

theorem restart {state next : Archive} (consistent : state.Consistent codec)
    {listing unreadable : List Text}
    (step : (archive codec).step state (.restart listing unreadable) = some next) :
    next.Consistent codec := by
  rcases archive_restart consistent.listed step with ⟨sessions, rfl, found⟩
  have loaded : ∀ token, sessions token = none ∨
      Loads state.devices.toDeviceStore unreadable token ∧
        sessions token = fileSession codec state.store token := by
    intro token
    by_cases loads : Loads state.devices.toDeviceStore unreadable token
    · exact Or.inr ⟨loads, (found token).1 loads⟩
    · exact Or.inl ((found token).2 loads)
  refine ⟨consistent.owned, consistent.complete, ?_, consistent.used, consistent.listed, ?_⟩
  · intro token present
    rcases loaded token with absent | ⟨loads, _⟩
    · exact absurd absent present
    · exact consistent.authorized_mem loads.1
  · intro token
    exact (loaded token).imp_right And.right

/-- Step lemma: everything but an onboarding under a taken id keeps memory
and disk in agreement. -/
theorem step (lawful : codec.Lawful) {state next : Archive} (consistent : state.Consistent codec)
    {action : ArchiveStep} (fresh : FreshId state action)
    (moves : (archive codec).step state action = some next) : next.Consistent codec := by
  cases action with
  | onboard draws displayName => exact consistent.onboard fresh moves
  | revoke idOrToken =>
      rcases Option.some.inj moves with rfl
      exact consistent.revoke idOrToken
  | record token call now nonce => exact consistent.record lawful moves
  | restart listing unreadable => exact consistent.restart moves

end Archive.Consistent

end

end Agent
end Rabb1tClaw
