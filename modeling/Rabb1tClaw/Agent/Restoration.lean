import Rabb1tClaw.Agent.Recording
import Rabb1tClaw.Agent.Restart

namespace Rabb1tClaw
namespace Agent

open Foundations
open Config (Device DeviceStore Draws GeneratedToken createDevice createDevice_deviceId
  createDevice_spec)

/-!
# Histories of paired devices

As long as no device takes the id of another, a paired device has all of its
turns after any number of restarts, and nothing of any other device
(`histories_survive_restarts`).  The file that a new device will use does not
exist yet, as no device in the store has its prefix, and every file belongs to
a device in the store.
-/

section

variable {codec : SessionCodec}

/-- Every paired device has the turns that were recorded with its token, in
memory and on disk. -/
structure Restored (codec : SessionCodec) (past : List ArchiveStep) (state : Archive) : Prop where
  consistent : state.Consistent codec
  current : ∀ token, state.devices.Authorizes token →
    state.store.sessions token = fileSession codec state.store token
  history : ∀ token, state.devices.Authorizes token →
    state.store.getHistory token = recordedWith token past
  quiet : ∀ token, token ∉ state.onboarded → recordedWith token past = []

theorem recordedWith_concat (token : Text) (past : List ArchiveStep) (action : ArchiveStep) :
    recordedWith token (past ++ [action]) = recordedWith token past ++ (action.turnOf token).toList := by
  rw [recordedWith, List.filterMap_append, recordedWith]
  cases recorded : action.turnOf token <;> simp [recorded]

theorem recordedWith_silent {token : Text} (past : List ArchiveStep) {action : ArchiveStep}
    (silent : action.turnOf token = none) :
    recordedWith token (past ++ [action]) = recordedWith token past := by
  rw [recordedWith_concat, silent]
  exact List.append_nil _

namespace Restored

theorem start (codec : SessionCodec) : Restored codec [] .empty where
  consistent := .start codec
  current := fun token authorized => by
    rcases authorized with ⟨entry, member, _⟩
    cases member
  history := fun token authorized => by
    rcases authorized with ⟨entry, member, _⟩
    cases member
  quiet := fun token unknown => rfl

theorem onboard {past : List ArchiveStep} {state next : Archive} (restored : Restored codec past state)
    {draws : Draws} {displayName : Text} (fresh : state.FreshId (.onboard draws displayName))
    (step : (archive codec).step state (.onboard draws displayName) = some next) :
    Restored codec (past ++ [.onboard draws displayName]) next := by
  have consistent := restored.consistent.onboard fresh step
  rcases archive_onboard step with ⟨created, creates, devices, store, _, onboarded⟩
  rcases createDevice_spec creates with ⟨_, start, starts, unused⟩
  have handed : created.token ∉ state.onboarded := by
    intro member
    rcases restored.consistent.owned _ member with ⟨id, device, found, same⟩
    exact unused id device found (same ▸ starts)
  have silent : state.store.sessions created.token = none := by
    by_contra present
    exact handed (restored.consistent.known _ present)
  have blank : fileSession codec state.store created.token = none := by
    rw [fileSession_of_named starts, restored.consistent.disk_unused unused, Option.bind_none]
  have early : ∀ token, next.devices.Authorizes token →
      token = created.token ∨ state.devices.Authorizes token := by
    intro token authorized
    rcases DeviceStore.authorizes_iff.mp authorized with ⟨id, device, found, active, same⟩
    rw [devices, DeviceStore.lookup_addDevice] at found
    split at found
    · rcases Option.some.inj found with rfl
      exact Or.inl same.symm
    · exact Or.inr (DeviceStore.authorizes_iff.mpr ⟨id, device, found, active, same⟩)
  refine ⟨consistent, ?_, ?_, ?_⟩
  · intro token authorized
    rw [store]
    rcases early token authorized with rfl | before
    · rw [silent, blank]
    · exact restored.current token before
  · intro token authorized
    rw [store, recordedWith_silent past rfl]
    rcases early token authorized with rfl | before
    · rw [getHistory_of_absent silent, restored.quiet _ handed]
    · exact restored.history token before
  · intro token unknown
    rw [recordedWith_silent past rfl]
    rw [onboarded] at unknown
    exact restored.quiet token fun member => unknown (List.mem_append_left _ member)

theorem revoke {past : List ArchiveStep} {state : Archive} (restored : Restored codec past state)
    (idOrToken : Text) :
    Restored codec (past ++ [.revoke idOrToken])
      { state with devices := state.devices.revoke idOrToken } := by
  have before : ∀ token, (state.devices.revoke idOrToken).Authorizes token →
      state.devices.Authorizes token := by
    intro token authorized
    rcases DeviceStore.authorizes_iff.mp authorized with ⟨id, device, found, active, same⟩
    have origin := DeviceStore.lookup_revokeDevice state.devices.toDeviceStore idOrToken id
    rcases Option.map_eq_some_iff.mp (origin.symm.trans found) with ⟨device', found', rfl⟩
    split at active
    · cases active
    · rename_i spared
      rw [if_neg spared] at same
      exact DeviceStore.authorizes_iff.mpr ⟨id, device', found', active, same⟩
  refine ⟨restored.consistent.revoke idOrToken, ?_, ?_, ?_⟩
  · intro token authorized
    exact restored.current token (before token authorized)
  · intro token authorized
    rw [recordedWith_silent past rfl]
    exact restored.history token (before token authorized)
  · intro token unknown
    rw [recordedWith_silent past rfl]
    exact restored.quiet token unknown

theorem record (lawful : codec.Lawful) {past : List ArchiveStep} {state next : Archive}
    (restored : Restored codec past state) {token : Text} {call : RecordCall} {now : Nat} {nonce : Nonce}
    (step : (archive codec).step state (.record token call now nonce) = some next) :
    Restored codec (past ++ [.record token call now nonce]) next := by
  have consistent := restored.consistent.record lawful step
  rcases archive_record step with ⟨handed, start, starts, rfl⟩
  have grown : recordedWith token (past ++ [.record token call now nonce]) =
      recordedWith token past ++ [call.turn now] := by
    rw [recordedWith_concat, ArchiveStep.turnOf, if_pos rfl]
    rfl
  have unchanged : ∀ other, other ≠ token →
      recordedWith other (past ++ [.record token call now nonce]) = recordedWith other past := by
    intro other differs
    exact recordedWith_silent past (if_neg (Ne.symm differs))
  refine ⟨consistent, ?_, ?_, ?_⟩
  · intro other authorized
    by_cases same : other = token
    · subst same
      rw [sessions_recordedStore, fileSession_recordedStore _ _ _ lawful starts]
    · have apart : tokenPrefix other ≠ some start := by
        intro begins
        exact same (restored.consistent.token_eq (restored.consistent.authorized_mem authorized) handed
          (begins.trans starts.symm))
      rw [sessions_recordedStore_other _ _ _ same, fileSession_recordedStore_other _ _ _ apart]
      exact restored.current other authorized
  · intro other authorized
    by_cases same : other = token
    · subst same
      rw [getHistory_of_sessions (sessions_recordedStore _ _ _), grown,
        ← restored.history other authorized]
    · rw [unchanged other same, SessionStore.getHistory, sessions_recordedStore_other _ _ _ same]
      exact restored.history other authorized
  · intro other unknown
    have differs : other ≠ token := by
      rintro rfl
      exact unknown handed
    rw [unchanged other differs]
    exact restored.quiet other unknown

theorem restart {past : List ArchiveStep} {state next : Archive} (restored : Restored codec past state)
    {listing : List Text} (step : (archive codec).step state (.restart listing []) = some next) :
    Restored codec (past ++ [.restart listing []]) next := by
  have consistent := restored.consistent.restart step
  rcases archive_restart restored.consistent.listed step with ⟨sessions, rfl, found⟩
  have loaded : ∀ token, state.devices.Authorizes token →
      sessions token = state.store.sessions token := by
    intro token authorized
    have loads : Loads state.devices.toDeviceStore [] token :=
      ⟨authorized, fun start _ member => by cases member⟩
    rw [(found token).1 loads, restored.current token authorized]
  refine ⟨consistent, ?_, ?_, ?_⟩
  · intro token authorized
    exact (loaded token authorized).trans (restored.current token authorized)
  · intro token authorized
    rw [recordedWith_silent past rfl, ← restored.history token authorized]
    exact congrArg (fun session => (Option.map ConversationSession.turns session).getD [])
      (loaded token authorized)
  · intro token unknown
    rw [recordedWith_silent past rfl]
    exact restored.quiet token unknown

/-- Step lemma. -/
theorem step (lawful : codec.Lawful) {past : List ArchiveStep} {state next : Archive}
    (restored : Restored codec past state) {action : ArchiveStep}
    (allowed : state.FreshId action ∧ action.Readable)
    (moves : (archive codec).step state action = some next) :
    Restored codec (past ++ [action]) next := by
  cases action with
  | onboard draws displayName => exact restored.onboard allowed.1 moves
  | revoke idOrToken =>
      rcases Option.some.inj moves with rfl
      exact restored.revoke idOrToken
  | record token call now nonce => exact restored.record lawful moves
  | restart listing unreadable =>
      obtain rfl : unreadable = [] := allowed.2
      exact restored.restart moves

end Restored

/-- The token of a revoked device is the token of no other device. -/
theorem not_authorizes_revoked {state : Archive} {id : Text} {device : Device}
    (found : state.devices.devices.lookup id = some device) (revoked : device.revoked = true) :
    ¬ state.devices.Authorizes device.token := by
  intro authorized
  rcases DeviceStore.authorizes_iff.mp authorized with ⟨id', device', found', active, same⟩
  obtain rfl := state.devices.separate.apart id' id device' device found' found (by rw [same])
  rcases Option.some.inj (found.symm.trans found') with rfl
  rw [revoked] at active
  cases active

end

/-- In a run in which every onboarding takes a fresh id and every read
succeeds, a paired device has exactly the turns that were recorded with its
token.  A restart loads no session of a revoked device. -/
theorem histories_survive_restarts (codec : SessionCodec) (lawful : codec.Lawful)
    (schedule : List ArchiveStep) (final : Archive) (readable : ∀ step ∈ schedule, step.Readable)
    (fresh : (archive codec).Guarded Archive.FreshId .empty schedule)
    (runs : (archive codec).run .empty schedule = some final) :
    (∀ token, final.devices.Authorizes token →
      final.store.getHistory token = recordedWith token schedule) ∧
    ∀ listing, (∀ name ∈ final.directories, name ∈ listing) →
      ∃ restarted, (archive codec).step final (.restart listing []) = some restarted ∧
        ∀ id device, final.devices.devices.lookup id = some device → device.revoked = true →
          restarted.store.sessions device.token = none := by
  have guarded := fresh.and (Machine.guarded_of_forall (fun step member _ => readable step member) Archive.empty)
  have restored : Restored codec schedule final :=
    Machine.run_invariant_guarded (fun past state action next here allowed step =>
      here.step lawful allowed step) [] (.start codec) guarded runs
  refine ⟨restored.history, fun listing covers => ?_⟩
  rcases restart_enabled codec restored.consistent.listed covers [] with ⟨restarted, step⟩
  refine ⟨restarted, step, fun id device found revoked => ?_⟩
  rcases archive_restart restored.consistent.listed step with ⟨sessions, rfl, loaded⟩
  exact (loaded device.token).2 fun loads => not_authorizes_revoked found revoked loads.1

/-! ## Devices that take an id -/

/-- A token of one digit and then another. -/
def tokenOf (first second : Char) (digits : first ∈ "0123456789abcdef".toList ∧
    second ∈ "0123456789abcdef".toList) : GeneratedToken where
  text := List.replicate 8 first ++ List.replicate 24 second
  length_eq := by rw [List.length_append, List.length_replicate, List.length_replicate]
  digits := by
    intro char member
    rcases List.mem_append.mp member with front | back
    · exact List.eq_of_mem_replicate front ▸ digits.1
    · exact List.eq_of_mem_replicate back ▸ digits.2

def tokenA : GeneratedToken := tokenOf 'a' 'a' (by decide)

def tokenB : GeneratedToken := tokenOf 'b' 'b' (by decide)

/-- The prefix of the first token, and other digits. -/
def tokenC : GeneratedToken := tokenOf 'a' 'c' (by decide)

/-- The one token that is drawn, at a time, with the same draw for the id. -/
def drawsOf (token : GeneratedToken) (nowMs : Nat) : Draws := ⟨[token], tokenB, nowMs⟩

def hello : RecordCall := ⟨"user".toList, "hello".toList, none⟩

/-- One device records and the server is restarted. -/
def oneDevice : List ArchiveStep :=
  [.onboard (drawsOf tokenA 1) [], .record tokenA.text hello 2 zeroNonce,
    .restart [tokenA.text.take 8] []]

theorem oneDevice_runs : ((archive keyedCodec).run .empty oneDevice).isSome = true := by
  decide +kernel

theorem histories_survive_restarts_oneDevice :
    ∃ final, (archive keyedCodec).run .empty oneDevice = some final ∧
      ∀ token, final.devices.Authorizes token →
        final.store.getHistory token = recordedWith token oneDevice := by
  rcases Option.isSome_iff_exists.mp oneDevice_runs with ⟨final, runs⟩
  have readable : ∀ step ∈ oneDevice, step.Readable := by
    simp [oneDevice, ArchiveStep.Readable]
  have fresh : (archive keyedCodec).Guarded Archive.FreshId .empty oneDevice :=
    ⟨fun _ _ => rfl, fun _ _ => ⟨trivial, fun _ _ => ⟨trivial, fun _ _ => trivial⟩⟩⟩
  exact ⟨final, runs,
    (histories_survive_restarts keyedCodec keyedCodec_lawful oneDevice final readable fresh runs).1⟩

/-- The second device takes the id of the first, and the third its prefix. -/
def takenId : List ArchiveStep :=
  [.onboard (drawsOf tokenA 1) [], .onboard (drawsOf tokenB 1) [], .onboard (drawsOf tokenC 2) [],
    .record tokenC.text hello 3 zeroNonce, .record tokenA.text hello 4 zeroNonce,
    .restart [tokenA.text.take 8] []]

theorem takenId_runs :
    ((archive keyedCodec).run .empty takenId).any fun final => final.devices.Authorizes tokenC.text := by
  decide +kernel

/-- A file that another device has overwritten is not loaded. -/
theorem overwritten_not_loaded {codec : SessionCodec} (keyed : codec.Keyed)
    {state recorded restarted : Archive} (listed : state.Listed) {token other : Text}
    (differs : token ≠ other) (same : tokenPrefix token = tokenPrefix other) {call : RecordCall}
    {now : Nat} {nonce : Nonce} {listing unreadable : List Text}
    (records : (archive codec).step state (.record other call now nonce) = some recorded)
    (restarts : (archive codec).step recorded (.restart listing unreadable) = some restarted) :
    restarted.store.getHistory token = [] := by
  have listed' := listed_step listed records
  rcases archive_record records with ⟨_, start, starts, rfl⟩
  rcases archive_restart listed' restarts with ⟨sessions, rfl, found⟩
  have unread : fileSession codec (recordedStore codec state.store other start (call.turn now) nonce)
      token = none := by
    rw [fileSession_of_named (same.trans starts), disk_recordedStore, if_pos rfl, Option.bind_some]
    exact SessionCodec.readSession_other keyed differs nonce _
  have absent : sessions token = none := by
    by_cases loads : Loads state.devices.toDeviceStore unreadable token
    · exact ((found token).1 loads).trans unread
    · exact (found token).2 loads
  exact getHistory_of_absent absent

/-- The replaced device records once more, and the history of the device that
has its prefix now is gone after a restart. -/
theorem takenId_loses_history :
    keyedCodec.Lawful ∧ keyedCodec.Keyed ∧ (∀ step ∈ takenId, step.Readable) ∧
      ∃ final, (archive keyedCodec).run .empty takenId = some final ∧
        final.devices.Authorizes tokenC.text ∧
        final.store.getHistory tokenC.text ≠ recordedWith tokenC.text takenId := by
  refine ⟨keyedCodec_lawful, keyedCodec_keyed, by simp [takenId, ArchiveStep.Readable], ?_⟩
  rcases (Option.any_eq_true _ _).mp takenId_runs with ⟨final, runs, authorized⟩
  refine ⟨final, runs, of_decide_eq_true authorized, ?_⟩
  have split : takenId = takenId.take 4 ++ takenId.drop 4 := (List.take_append_drop 4 takenId).symm
  rw [split, Machine.run_append] at runs
  rcases Option.bind_eq_some_iff.mp runs with ⟨middle, earlier, later⟩
  rcases Machine.run_cons later with ⟨recorded, records, rest⟩
  rcases Machine.run_cons rest with ⟨restarted, restarts, done⟩
  rcases Option.some.inj done with rfl
  have listed : middle.Listed := listed_of_run (fun start present => absurd rfl present) earlier
  rw [overwritten_not_loaded keyedCodec_keyed listed (by decide) (by decide) records restarts]
  intro empty
  have recordedOnce : (recordedWith tokenC.text takenId).length = 1 := by decide
  rw [← empty] at recordedOnce
  cases recordedOnce

end Agent
end Rabb1tClaw
