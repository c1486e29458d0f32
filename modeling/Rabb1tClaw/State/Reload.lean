import Rabb1tClaw.State.Registry

namespace Rabb1tClaw
namespace State

open Foundations
open Config (Device DeviceStore)

/-!
# Reloading the devices

A reload compares the old store with the new one, entry by entry, and
disconnects the tokens of the entries that were revoked or deleted.  A session
is tied to a token, not to an entry.  The two agree as long as an entry keeps
its token.  An entry that gets another token is the exception: its old token
is no longer anybody's, and no comparison of entries brings it up
(`reload_disconnects_iff`).
-/

/-- The tokens of the devices that are revoked in the new store and were not
in the old one. -/
def newlyRevokedTokens (old new : DeviceStore) : List Text :=
  new.devices.entries.filterMap fun entry =>
    if entry.2.revoked then
      match old.devices.lookup entry.1 with
      | some device => if device.revoked then none else some entry.2.token
      | none => none
    else
      none

/-- The tokens of the devices that are in the old store only. -/
def deletedTokens (old new : DeviceStore) : List Text :=
  old.devices.entries.filterMap fun entry =>
    if entry.1 ∈ new.devices then none else some entry.2.token

def revokedTokens (old new : DeviceStore) : List Text :=
  newlyRevokedTokens old new ++ deletedTokens old new

namespace GatewayState

/-- `reload_devices`, given what `load_devices` returns. -/
def reloadDevices (state : GatewayState) : Except Text DeviceStore → Except Text GatewayState
  | .error message => .error message
  | .ok newDevices =>
      let tokens := revokedTokens state.deviceStore newDevices
      let replaced := { state with deviceStore := newDevices }
      .ok (if tokens.isEmpty then replaced else disconnectRevokedDevices replaced tokens)

end GatewayState

/-! ## What a reload looks at -/

/-- An entry was revoked, and carries the token in the new store. -/
def NewlyRevoked (old new : DeviceStore) (token : Text) : Prop :=
  ∃ id before after, old.devices.lookup id = some before ∧ before.revoked = false ∧
    new.devices.lookup id = some after ∧ after.revoked = true ∧ after.token = token

/-- An entry with the token was deleted. -/
def Deleted (old new : DeviceStore) (token : Text) : Prop :=
  ∃ id before, old.devices.lookup id = some before ∧ new.devices.lookup id = none ∧
    before.token = token

/-- Every entry that gave the token its authority now has another token. -/
def Rekeyed (old new : DeviceStore) (token : Text) : Prop :=
  ∀ id before, old.devices.lookup id = some before → before.revoked = false → before.token = token →
    ∃ after, new.devices.lookup id = some after ∧ after.token ≠ token

theorem mem_newlyRevokedTokens {old new : DeviceStore} {token : Text} :
    token ∈ newlyRevokedTokens old new ↔ NewlyRevoked old new token := by
  unfold newlyRevokedTokens
  rw [List.mem_filterMap]
  constructor
  · rintro ⟨⟨id, after⟩, member, found⟩
    have here := AList.mem_lookup_iff.mpr member
    split at found
    · rename_i revoked
      split at found
      · rename_i before known
        split at found
        · cases found
        · rename_i active
          exact ⟨id, before, after, known, Bool.eq_false_iff.mpr active, here, revoked,
            Option.some.inj found⟩
      · cases found
    · cases found
  · rintro ⟨id, before, after, known, active, here, revoked, same⟩
    refine ⟨⟨id, after⟩, AList.mem_lookup_iff.mp here, ?_⟩
    simp [revoked, known, active, same]

theorem mem_deletedTokens {old new : DeviceStore} {token : Text} :
    token ∈ deletedTokens old new ↔ Deleted old new token := by
  unfold deletedTokens
  rw [List.mem_filterMap]
  constructor
  · rintro ⟨⟨id, before⟩, member, found⟩
    split at found
    · cases found
    · rename_i absent
      exact ⟨id, before, AList.mem_lookup_iff.mpr member, AList.lookup_eq_none.mpr absent,
        Option.some.inj found⟩
  · rintro ⟨id, before, known, absent, same⟩
    refine ⟨⟨id, before⟩, AList.mem_lookup_iff.mp known, ?_⟩
    rw [if_neg (AList.lookup_eq_none.mp absent), same]

theorem mem_revokedTokens {old new : DeviceStore} {token : Text} :
    token ∈ revokedTokens old new ↔ NewlyRevoked old new token ∨ Deleted old new token := by
  rw [revokedTokens, List.mem_append, mem_newlyRevokedTokens, mem_deletedTokens]

/-- A token that loses its authority is brought up, unless it was merely
replaced by other tokens. -/
theorem revoked_of_lost {old new : DeviceStore} {token : Text}
    (lost : ¬ new.Authorizes token) (notRekeyed : ¬ Rekeyed old new token) :
    token ∈ revokedTokens old new := by
  rw [mem_revokedTokens]
  by_contra missed
  apply notRekeyed
  intro id before known active same
  cases here : new.devices.lookup id with
  | none => exact absurd (Or.inr ⟨id, before, known, here, same⟩) missed
  | some after =>
      refine ⟨after, rfl, ?_⟩
      intro kept
      cases revoked : after.revoked with
      | true => exact missed (Or.inl ⟨id, before, after, known, active, here, revoked, kept⟩)
      | false => exact lost (Config.DeviceStore.authorizes_iff.mpr ⟨id, after, here, revoked, kept⟩)

/-! ## Which sockets it stops -/

/-- The flag was set before, or the socket is registered under a token of an
entry that was revoked or deleted. -/
def Struck (state : GatewayState) (newDevices : DeviceStore) (socket : Nat) : Prop :=
  (state.sockets socket).shutdown = true ∨
    ∃ token connection, Registered state.activeConnections token connection ∧
      connection.socket = socket ∧
      (NewlyRevoked state.deviceStore newDevices token ∨ Deleted state.deviceStore newDevices token)

/-- The entries that changed tell what became of the token of a socket. -/
structure Tracked (state : GatewayState) (newDevices : DeviceStore) (token : Text) (socket : Nat) :
    Prop where
  kept : newDevices.Authorizes token → ¬ Struck state newDevices socket
  rekeyed : Rekeyed state.deviceStore newDevices token →
    newDevices.Authorizes token ∨ Struck state newDevices socket

/-- The check for an empty list of tokens only saves work. -/
theorem reloadDevices_ok (state : GatewayState) (newDevices : DeviceStore) :
    state.reloadDevices (.ok newDevices) =
      .ok (disconnectRevokedDevices { state with deviceStore := newDevices }
        (revokedTokens state.deviceStore newDevices)) := by
  unfold GatewayState.reloadDevices
  by_cases empty : (revokedTokens state.deviceStore newDevices).isEmpty = true
  · simp only [empty, if_true]
    rw [List.isEmpty_iff.mp empty]
    rfl
  · simp only [empty]
    rfl

/-- The struck sockets are those that a reload leaves flagged. -/
theorem shutdown_iff_struck (state : GatewayState) (newDevices : DeviceStore) (socket : Nat) :
    ((disconnectRevokedDevices { state with deviceStore := newDevices }
        (revokedTokens state.deviceStore newDevices)).sockets socket).shutdown = true ↔
      Struck state newDevices socket := by
  rw [disconnectRevokedDevices, shutdown_disconnectTargets, Struck]
  refine or_congr_right ⟨?_, ?_⟩
  · rintro ⟨target, member, same⟩
    rcases mem_disconnectTargets.mp member with ⟨token, revoked, registered⟩
    exact ⟨token, target, registered, same, mem_revokedTokens.mp revoked⟩
  · rintro ⟨token, connection, registered, same, revoked⟩
    exact ⟨connection, mem_disconnectTargets.mpr ⟨token, mem_revokedTokens.mpr revoked, registered⟩,
      same⟩

/-- After a reload the flag is set on exactly the connections that lost their
authorization, if and only if the changed entries tell what became of each
connection's token. -/
theorem reload_disconnects_iff (state : GatewayState) (newDevices : DeviceStore) :
    ∃ after, state.reloadDevices (.ok newDevices) = .ok after ∧
      ((∀ token connection, Registered after.activeConnections token connection →
          ((after.sockets connection.socket).shutdown = true ↔ ¬ newDevices.Authorizes token)) ↔
        ∀ token connection, Registered state.activeConnections token connection →
          Tracked state newDevices token connection.socket) := by
  refine ⟨_, reloadDevices_ok state newDevices, ?_⟩
  refine forall_congr' fun token => forall_congr' fun connection => forall_congr' fun registered => ?_
  rw [shutdown_iff_struck]
  constructor
  · intro agrees
    refine ⟨fun kept struck => agrees.mp struck kept, fun _ => ?_⟩
    by_cases kept : newDevices.Authorizes token
    · exact Or.inl kept
    · exact Or.inr (agrees.mpr kept)
  · intro tracked
    refine ⟨fun struck kept => tracked.kept kept struck, fun lost => ?_⟩
    by_cases rekeyed : Rekeyed state.deviceStore newDevices token
    · exact (tracked.rekeyed rekeyed).resolve_left lost
    · have revoked := revoked_of_lost lost rekeyed
      exact Or.inr ⟨token, connection, registered, rfl, mem_revokedTokens.mp revoked⟩

/-- A store with one device. -/
def oneDevice (token : Text) (revoked : Bool) : DeviceStore :=
  ⟨AList.singleton "d1".toList ⟨"d1".toList, "R1".toList, token, revoked⟩⟩

/-- A gateway with one device and one session of it. -/
def oneSession (token : Text) : GatewayState where
  deviceStore := oneDevice token false
  activeConnections := AList.singleton token [⟨"c1".toList, 0⟩]
  sockets := fun _ => ⟨false, false, ⟨[], true⟩⟩

theorem registered_oneSession {token other : Text} {connection : ActiveConnection} :
    Registered (oneSession token).activeConnections other connection ↔
      other = token ∧ connection = ⟨"c1".toList, 0⟩ := by
  unfold Registered oneSession
  constructor
  · rintro ⟨entries, found, member⟩
    have listed := AList.mem_lookup_iff.mp found
    rw [AList.singleton_entries, List.mem_singleton] at listed
    rcases Sigma.mk.inj listed with ⟨rfl, same⟩
    rcases eq_of_heq same with rfl
    exact ⟨rfl, List.mem_singleton.mp member⟩
  · rintro ⟨rfl, rfl⟩
    exact ⟨_, AList.mem_lookup_iff.mpr (List.mem_singleton.mpr rfl), List.mem_singleton.mpr rfl⟩

/-- A device is revoked and gets another token in one edit: the reload looks
for the new token, and the session goes on. -/
theorem revoked_device_keeps_session :
    (∀ token connection, Registered (oneSession "a".toList).activeConnections token connection →
        (oneSession "a".toList).deviceStore.Authorizes token) ∧
      ∃ after, (oneSession "a".toList).reloadDevices (.ok (oneDevice "b".toList true)) = .ok after ∧
        Registered after.activeConnections "a".toList ⟨"c1".toList, 0⟩ ∧
        (after.sockets 0).shutdown = false ∧
        ¬ (oneDevice "b".toList true).Authorizes "a".toList := by
  refine ⟨?_, _, rfl, registered_oneSession.mpr ⟨rfl, rfl⟩, rfl, by decide⟩
  intro token connection registered
  rcases registered_oneSession.mp registered with ⟨rfl, _⟩
  decide

end State
end Rabb1tClaw
