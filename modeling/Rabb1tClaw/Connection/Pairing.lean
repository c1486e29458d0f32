import Rabb1tClaw.Config.Onboarding
import Rabb1tClaw.Connection.Auth
import Rabb1tClaw.Foundations.Machine

namespace Rabb1tClaw
namespace Connection

open Foundations
open Agent (tokenPrefix)
open Config (Device DeviceStore Draws GeneratedToken createDevice)

/-!
# Authorization by paired devices

A store starts empty and is changed by onboarding and revocation.  Onboarding
looks at the prefixes in the store and inserts under a device id, so a device
whose id is drawn again is replaced.  The map may iterate in another order
whenever it is looked at.

Tokens stay separate throughout (`Paired`).  So the scan for a token cannot
find a second device that would decide otherwise, and what it answers does not
depend on the order.
-/

inductive PairingAction where
  /-- A device is created and added. -/
  | onboard (draws : Draws) (displayName : Text)
  /-- A device is revoked by its id or token. -/
  | revoke (idOrToken : Text)
  /-- From now on the map iterates in the order of another store. -/
  | reorder (other : DeviceStore)

def pairing : Machine DeviceStore PairingAction where
  step store
    | .onboard draws displayName => (createDevice store draws displayName).map store.addDevice
    | .revoke idOrToken => some (store.revokeDevice idOrToken).1
    | .reorder other =>
        if other.devices.entries.Perm store.devices.entries then some other else none

/-- `device_dir`: the directory of a device below the one of the gateway. -/
def deviceDir (configDir tokenPrefix : Text) : Text := configDir ++ '/' :: tokenPrefix

/-! ## Paired stores -/

/-- Every token was generated, and no two devices have the same prefix. -/
structure Paired (store : DeviceStore) : Prop where
  generated : ∀ id device, store.devices.lookup id = some device →
    ∃ draw : GeneratedToken, device.token = draw.text
  separate : store.Separate

theorem paired_empty : Paired ⟨∅⟩ := by
  refine ⟨?_, Config.PairedStore.empty.separate⟩
  intro id device found
  cases found

namespace Paired

variable {store next : DeviceStore}

theorem onboard (paired : Paired store) {draws : Draws} {displayName : Text} {created : Device}
    (creates : createDevice store draws displayName = some created) :
    Paired (store.addDevice created) := by
  refine ⟨?_, paired.separate.addDevice creates⟩
  intro id device found
  rw [Config.DeviceStore.lookup_addDevice] at found
  split at found
  · rcases Option.some.inj found with rfl
    rcases Config.createDevice_generated creates with ⟨draw, _, drawn⟩
    exact ⟨draw, drawn⟩
  · exact paired.generated id device found

theorem revoke (paired : Paired store) (idOrToken : Text) :
    Paired (store.revokeDevice idOrToken).1 := by
  refine ⟨?_, paired.separate.revokeDevice idOrToken⟩
  intro id device found
  rw [Config.DeviceStore.lookup_revokeDevice] at found
  rcases Option.map_eq_some_iff.mp found with ⟨before, present, rfl⟩
  rcases paired.generated id before present with ⟨draw, drawn⟩
  refine ⟨draw, ?_⟩
  split <;> exact drawn

theorem reorder (paired : Paired store) {other : DeviceStore}
    (rearranged : other.devices.entries.Perm store.devices.entries) : Paired other := by
  have same (id : Text) : other.devices.lookup id = store.devices.lookup id :=
    AList.perm_lookup rearranged
  refine ⟨?_, ?_, ?_⟩
  · intro id device found
    exact paired.generated id device (same id ▸ found)
  · intro id device found
    exact paired.separate.named id device (same id ▸ found)
  · intro id id' device device' found found'
    exact paired.separate.apart id id' device device' (same id ▸ found) (same id' ▸ found')

theorem step {action : PairingAction} (paired : Paired store)
    (steps : pairing.step store action = some next) : Paired next := by
  cases action with
  | onboard draws displayName =>
      rcases Option.map_eq_some_iff.mp steps with ⟨created, creates, rfl⟩
      exact paired.onboard creates
  | revoke idOrToken =>
      rcases Option.some.inj steps with rfl
      exact paired.revoke idOrToken
  | reorder other =>
      rcases Option.ite_none_right_eq_some.mp steps with ⟨rearranged, same⟩
      rcases Option.some.inj same with rfl
      exact paired.reorder rearranged

theorem of_run {schedule : List PairingAction} (runs : pairing.run ⟨∅⟩ schedule = some store) :
    Paired store :=
  Machine.run_keeps (fun _ _ _ paired steps => paired.step steps) paired_empty runs

/-- The storage prefix of a device has eight characters. -/
theorem tokenPrefix_device (paired : Paired store) {id : Text} {device : Device}
    (found : store.devices.lookup id = some device) :
    ∃ start, tokenPrefix device.token = some start ∧ start.length = 8 := by
  rcases paired.generated id device found with ⟨draw, drawn⟩
  refine ⟨draw.text.take 8, ?_, ?_⟩
  · rw [drawn, draw.tokenPrefix_text]
  · rw [List.length_take, draw.length_eq]
    rfl

/-- At most one device has a token. -/
theorem eq_of_token (paired : Paired store) {entry entry' : Sigma fun _ : Text => Device}
    (member : entry ∈ store.devices.entries) (member' : entry' ∈ store.devices.entries)
    (same : entry.2.token = entry'.2.token) : entry.2 = entry'.2 := by
  have found := AList.mem_lookup_iff.mpr member
  have found' := AList.mem_lookup_iff.mpr member'
  have sameId : entry.1 = entry'.1 :=
    paired.separate.apart entry.1 entry'.1 entry.2 entry'.2 found found' (congrArg tokenPrefix same)
  rw [sameId] at found
  exact Option.some.inj (found.symm.trans found')

/-- The prefix of a device, without the panic of a token that has none. -/
theorem tokenPrefix_eq_take (paired : Paired store) {entry : Sigma fun _ : Text => Device}
    (member : entry ∈ store.devices.entries) :
    tokenPrefix entry.2.token = some (entry.2.token.take 8) := by
  rcases paired.generated entry.1 entry.2 (AList.mem_lookup_iff.mpr member) with ⟨draw, drawn⟩
  rw [drawn, draw.tokenPrefix_text]

/-- A device is created as soon as an unused prefix is drawn. -/
theorem onboard_enabled (paired : Paired store) {draws : Draws} (displayName : Text)
    {draw : GeneratedToken} (drawn : draw ∈ draws.tokens)
    (unused : ∀ entry ∈ store.devices.entries,
      tokenPrefix entry.2.token ≠ tokenPrefix draw.text) :
    ∃ next, pairing.step store (.onboard draws displayName) = some next := by
  have taken : store.taken = some (store.devices.entries.map fun entry => entry.2.token.take 8) :=
    Config.mapM_of_forall fun entry member => paired.tokenPrefix_eq_take member
  have fresh : (tokenPrefix draw.text).any (fun start =>
      !(store.devices.entries.map fun entry => entry.2.token.take 8).contains start) = true := by
    rw [draw.tokenPrefix_text, Option.any_some, Bool.not_eq_true', ← Bool.not_eq_true,
      List.contains_iff_mem, List.mem_map]
    rintro ⟨entry, member, same⟩
    apply unused entry member
    rw [paired.tokenPrefix_eq_take member, same, draw.tokenPrefix_text]
  have found : (draws.tokens.find? fun draw => (tokenPrefix draw.text).any fun start =>
      !(store.devices.entries.map fun entry => entry.2.token.take 8).contains start).isSome :=
    List.find?_isSome.mpr ⟨draw, drawn, fresh⟩
  rcases Option.isSome_iff_exists.mp found with ⟨token, first⟩
  have named : Config.generateDeviceId draws.nowMs draws.id =
      some (Nat.toDigits 16 draws.nowMs ++ draws.id.text.take 16) := by
    rw [Config.generateDeviceId, draws.id.sliceTo_text (by decide), Option.map_some]
  have creates : createDevice store draws displayName =
      some ⟨Nat.toDigits 16 draws.nowMs ++ draws.id.text.take 16, displayName, token.text, false⟩ := by
    rw [createDevice, taken, Option.bind_eq_bind, Option.bind_some, first, Option.bind_eq_bind,
      Option.bind_some, named]
    rfl
  exact ⟨_, Option.map_eq_some_iff.mpr ⟨_, creates, rfl⟩⟩

/-- The one device with a token decides whether the token is authorized. -/
theorem authorizes_iff (paired : Paired store) {entry : Sigma fun _ : Text => Device}
    (member : entry ∈ store.devices.entries) :
    store.Authorizes entry.2.token ↔ entry.2.revoked = false := by
  refine ⟨?_, fun active => ⟨entry, member, active, rfl⟩⟩
  rintro ⟨other, here, active, same⟩
  rw [← paired.eq_of_token here member same]
  exact active

theorem revoked_iff (paired : Paired store) {entry : Sigma fun _ : Text => Device}
    (member : entry ∈ store.devices.entries) :
    (∃ other ∈ store.devices.entries, other.2.token = entry.2.token ∧ other.2.revoked = true) ↔
      entry.2.revoked = true := by
  refine ⟨?_, fun set => ⟨entry, member, rfl, set⟩⟩
  rintro ⟨other, here, same, set⟩
  rw [← paired.eq_of_token here member same]
  exact set

end Paired

/-! ## What the scan answers -/

section

variable {constantTimeEq : List UInt8 → List UInt8 → Bool}
variable (equality : ∀ first second, constantTimeEq first second = true ↔ first = second)

include equality

theorem validateDeviceToken_of_mem {store : DeviceStore} (paired : Paired store)
    {entry : Sigma fun _ : Text => Device} (member : entry ∈ store.devices.entries) :
    validateDeviceToken constantTimeEq store entry.2.token =
      if entry.2.revoked then .failed .revoked else .ok .deviceToken := by
  unfold validateDeviceToken
  split
  · rename_i id device found
    have equal : constantTimeEq device.token.bytes entry.2.token.bytes = true := by
      simpa using List.find?_some found
    have same : device = entry.2 := paired.eq_of_token (List.mem_of_find?_eq_some found) member
      (Text.bytes_injective ((equality _ _).mp equal))
    rw [same]
  · rename_i missed
    exact absurd ((equality _ _).mpr rfl) (List.find?_eq_none.mp missed entry member)

theorem validateDeviceToken_of_absent {store : DeviceStore} {token : Text}
    (absent : ∀ entry ∈ store.devices.entries, entry.2.token ≠ token) :
    validateDeviceToken constantTimeEq store token = .failed .invalidToken := by
  unfold validateDeviceToken
  split
  · rename_i id device found
    have equal : constantTimeEq device.token.bytes token.bytes = true := by
      simpa using List.find?_some found
    exact absurd (Text.bytes_injective ((equality _ _).mp equal))
      (absent _ (List.mem_of_find?_eq_some found))
  · rfl

/-- Every order of a store of paired devices gives the same answers. -/
theorem authorizeConnect_token {store order : DeviceStore} (paired : Paired store)
    (rearranged : order.devices.entries.Perm store.devices.entries)
    (populated : store.devices.entries ≠ []) (token : Text) (isLocal : Bool) :
    ((∃ method, authorizeConnect constantTimeEq order (some ⟨some token⟩) isLocal = .ok method) ↔
        store.Authorizes token) ∧
      (authorizeConnect constantTimeEq order (some ⟨some token⟩) isLocal = .failed .revoked ↔
        ∃ entry ∈ store.devices.entries, entry.2.token = token ∧ entry.2.revoked = true) ∧
      (authorizeConnect constantTimeEq order (some ⟨some token⟩) isLocal = .failed .invalidToken ↔
        ∀ entry ∈ store.devices.entries, entry.2.token ≠ token) := by
  have scans : authorizeConnect constantTimeEq order (some ⟨some token⟩) isLocal =
      validateDeviceToken constantTimeEq order token := by
    have someEntry : order.devices.entries.isEmpty = false := by
      rw [List.isEmpty_eq_false_iff]
      exact fun empty => populated (List.nil_perm.mp (empty ▸ rearranged))
    rw [authorizeConnect, someEntry, Bool.and_false]
    rfl
  rw [scans]
  by_cases known : ∃ entry ∈ store.devices.entries, entry.2.token = token
  · rcases known with ⟨entry, member, rfl⟩
    have present : ¬ ∀ other ∈ store.devices.entries, other.2.token ≠ entry.2.token :=
      fun absent => absent entry member rfl
    rw [validateDeviceToken_of_mem equality (paired.reorder rearranged)
      (rearranged.mem_iff.mpr member), paired.authorizes_iff member, paired.revoked_iff member]
    cases entry.2.revoked with
    | true => simp [present]
    | false => simp [present]
  · have absent : ∀ entry ∈ store.devices.entries, entry.2.token ≠ token :=
      fun entry member same => known ⟨entry, member, same⟩
    have refused : ¬ store.Authorizes token := by
      rintro ⟨entry, member, _, same⟩
      exact absent entry member same
    have unknown : ¬ ∃ entry ∈ store.devices.entries, entry.2.token = token ∧ entry.2.revoked = true := by
      rintro ⟨entry, member, same, _⟩
      exact absent entry member same
    rw [validateDeviceToken_of_absent equality fun entry member =>
      absent entry (rearranged.mem_iff.mp member)]
    exact ⟨iff_of_false (by rintro ⟨method, accepted⟩; cases accepted) refused,
      iff_of_false (by rintro ⟨⟩) unknown, iff_of_true rfl absent⟩

/-- Prefixes are separate in every store of paired devices, and a token is
accepted or refused by the flag of the one device that has it. -/
theorem paired_devices_authorize {schedule : List PairingAction} {store : DeviceStore}
    (runs : pairing.run ⟨∅⟩ schedule = some store) :
    (∀ id id' device device', store.devices.lookup id = some device →
        store.devices.lookup id' = some device' → id ≠ id' →
        device.token ≠ device'.token ∧
          ∃ start start', tokenPrefix device.token = some start ∧
            tokenPrefix device'.token = some start' ∧ start.length = 8 ∧ start'.length = 8 ∧
            start ≠ start' ∧ ∀ configDir, deviceDir configDir start ≠ deviceDir configDir start') ∧
      (store.devices.entries ≠ [] → ∀ order : DeviceStore,
        order.devices.entries.Perm store.devices.entries → ∀ token isLocal,
          ((∃ method, authorizeConnect constantTimeEq order (some ⟨some token⟩) isLocal = .ok method) ↔
              store.Authorizes token) ∧
            (authorizeConnect constantTimeEq order (some ⟨some token⟩) isLocal = .failed .revoked ↔
              ∃ entry ∈ store.devices.entries, entry.2.token = token ∧ entry.2.revoked = true) ∧
            (authorizeConnect constantTimeEq order (some ⟨some token⟩) isLocal =
                .failed .invalidToken ↔
              ∀ entry ∈ store.devices.entries, entry.2.token ≠ token)) := by
  have paired := Paired.of_run runs
  refine ⟨?_, fun populated order rearranged token isLocal =>
    authorizeConnect_token equality paired rearranged populated token isLocal⟩
  intro id id' device device' found found' differs
  have apart : tokenPrefix device.token ≠ tokenPrefix device'.token := fun same =>
    differs (paired.separate.apart id id' device device' found found' same)
  rcases paired.tokenPrefix_device found with ⟨start, starts, length⟩
  rcases paired.tokenPrefix_device found' with ⟨start', starts', length'⟩
  have distinct : start ≠ start' := by
    rintro rfl
    exact apart (starts.trans starts'.symm)
  refine ⟨fun same => apart (congrArg tokenPrefix same), start, start', starts, starts', length,
    length', distinct, fun configDir same => ?_⟩
  exact distinct (List.cons.inj (List.append_cancel_left same)).2

end

/-- A token of one digit. -/
def repeatedDigit (digit : Char) (isDigit : digit ∈ "0123456789abcdef".toList) : GeneratedToken where
  text := List.replicate 32 digit
  length_eq := List.length_replicate
  digits := fun _ member => List.eq_of_mem_replicate member ▸ isDigit

/-- Two devices are paired, and the token that is drawn for the second is the
one of the first before it is another.  Then the first is revoked. -/
def twoDevices : List PairingAction :=
  let first := repeatedDigit 'a' (by decide)
  let second := repeatedDigit 'b' (by decide)
  [.onboard ⟨[first], second, 1⟩ "R1".toList, .onboard ⟨[first, second], second, 2⟩ "R1".toList,
    .revoke first.text]

theorem twoDevices_runs :
    (pairing.run ⟨∅⟩ twoDevices).any (fun store =>
      store.devices.entries.length = 2 ∧ store.Authorizes (List.replicate 32 'b') ∧
        store.devices.entries.any fun entry =>
          entry.2.token = List.replicate 32 'a' && entry.2.revoked) = true := by
  decide +kernel

theorem paired_devices_authorize_twoDevices :
    ∃ store, pairing.run ⟨∅⟩ twoDevices = some store ∧
      (∃ method, authorizeConnect sameBytes store (some ⟨some (List.replicate 32 'b')⟩) false =
        .ok method) ∧
      authorizeConnect sameBytes store (some ⟨some (List.replicate 32 'a')⟩) false =
        .failed .revoked := by
  rcases (Option.any_eq_true _ _).mp twoDevices_runs with ⟨store, runs, holds⟩
  rcases of_decide_eq_true holds with ⟨two, active, revoked⟩
  rcases List.any_eq_true.mp revoked with ⟨entry, member, matches'⟩
  rcases Bool.and_eq_true_iff.mp matches' with ⟨same, set⟩
  have populated : store.devices.entries ≠ [] := fun empty => by rw [empty] at two; cases two
  have answers := (@paired_devices_authorize sameBytes (fun _ _ => beq_iff_eq) _ _ runs).2 populated
    store (List.Perm.refl _)
  exact ⟨store, runs, (answers _ false).1.mpr active,
    (answers _ false).2.1.mpr ⟨entry, member, of_decide_eq_true same, set⟩⟩

end Connection
end Rabb1tClaw
