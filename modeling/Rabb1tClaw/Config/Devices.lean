import Mathlib.Data.List.AList
import Rabb1tClaw.Foundations.Utf8

namespace Rabb1tClaw
namespace Config

open Foundations

/-!
# Paired devices

`devices.yaml` maps device ids to devices.  The key of an entry, the token and
the revoked flag can be edited independently of each other, and nothing stops
two entries from carrying one token.

A map iterates in an order of its own, so the entries stand in that order.
-/

structure Device where
  deviceId : Text
  displayName : Text
  token : Text
  revoked : Bool
  deriving DecidableEq, Repr

structure DeviceStore where
  devices : AList fun _ : Text => Device

namespace DeviceStore

/-- Some unrevoked device has the token. -/
def Authorizes (store : DeviceStore) (token : Text) : Prop :=
  ∃ entry ∈ store.devices.entries, entry.2.revoked = false ∧ entry.2.token = token

instance (store : DeviceStore) (token : Text) : Decidable (store.Authorizes token) :=
  inferInstanceAs (Decidable (∃ entry ∈ store.devices.entries, _))

theorem authorizes_iff {store : DeviceStore} {token : Text} :
    store.Authorizes token ↔ ∃ id device, store.devices.lookup id = some device ∧
      device.revoked = false ∧ device.token = token := by
  constructor
  · rintro ⟨⟨id, device⟩, member, active, same⟩
    exact ⟨id, device, AList.mem_lookup_iff.mpr member, active, same⟩
  · rintro ⟨id, device, found, active, same⟩
    exact ⟨⟨id, device⟩, AList.mem_lookup_iff.mp found, active, same⟩

end DeviceStore

end Config
end Rabb1tClaw
