import Rabb1tClaw.Config.Devices
import Rabb1tClaw.Foundations.Utf8Decoding

namespace Rabb1tClaw
namespace Connection

open Foundations
open Config (Device DeviceStore)

/-!
# Authorization

A connect request is authorized by the token of an unrevoked device.  A local
client passes without a token while no device is paired.

The comparison of tokens in constant time is not part of the repository and
enters as a function on bytes.
-/

inductive AuthFailure where
  | revoked
  | invalidToken
  | needsPairing
  deriving DecidableEq, Repr

def AuthFailure.asStr : AuthFailure → Text
  | revoked => "device_revoked".toList
  | invalidToken => "device_token_invalid".toList
  | needsPairing => "device_token_missing".toList

inductive AuthMethod where
  | localClient
  | deviceToken
  deriving DecidableEq, Repr

inductive AuthResult where
  | ok (method : AuthMethod)
  | failed (failure : AuthFailure)
  deriving DecidableEq, Repr

structure ConnectAuth where
  token : Option Text
  deriving DecidableEq, Repr

section

variable (constantTimeEq : List UInt8 → List UInt8 → Bool)

/-- The first device with the token decides. -/
def validateDeviceToken (store : DeviceStore) (providedToken : Text) : AuthResult :=
  match store.devices.entries.find? fun entry =>
    constantTimeEq entry.2.token.bytes providedToken.bytes with
  | some ⟨_, device⟩ => if device.revoked then .failed .revoked else .ok .deviceToken
  | none => .failed .invalidToken

def authorizeConnect (store : DeviceStore) (connectAuth : Option ConnectAuth) (isLocal : Bool) :
    AuthResult :=
  if isLocal && store.devices.entries.isEmpty then
    .ok .localClient
  else
    match connectAuth.bind ConnectAuth.token with
    | some token => validateDeviceToken constantTimeEq store token
    | none => .failed .needsPairing

/-- Comparison of the bytes. -/
def sameBytes (first second : List UInt8) : Bool := first == second

variable {constantTimeEq}

/-- A session by token belongs to an unrevoked device. -/
theorem authorizeConnect_deviceToken
    (equality : ∀ first second, constantTimeEq first second = true ↔ first = second)
    {store : DeviceStore} {connectAuth : Option ConnectAuth} {isLocal : Bool}
    (authorized : authorizeConnect constantTimeEq store connectAuth isLocal = .ok .deviceToken) :
    ∃ token, connectAuth.bind ConnectAuth.token = some token ∧ store.Authorizes token := by
  unfold authorizeConnect at authorized
  split at authorized
  · cases authorized
  · split at authorized
    · rename_i token provided
      refine ⟨token, provided, ?_⟩
      unfold validateDeviceToken at authorized
      split at authorized
      · rename_i id device found
        split at authorized
        · cases authorized
        · rename_i active
          have equal : constantTimeEq device.token.bytes token.bytes = true := by
            simpa using List.find?_some found
          exact ⟨_, List.mem_of_find?_eq_some found, Bool.eq_false_iff.mpr active,
            Text.bytes_injective ((equality _ _).mp equal)⟩
      · cases authorized
    · cases authorized

/-- A session without a token has a local client, while no device is paired. -/
theorem authorizeConnect_localClient {store : DeviceStore} {connectAuth : Option ConnectAuth}
    {isLocal : Bool}
    (authorized : authorizeConnect constantTimeEq store connectAuth isLocal = .ok .localClient) :
    isLocal = true ∧ store.devices.entries = [] := by
  unfold authorizeConnect at authorized
  split at authorized
  · rename_i bypass
    rcases Bool.and_eq_true_iff.mp bypass with ⟨here, empty⟩
    exact ⟨here, List.isEmpty_iff.mp empty⟩
  · split at authorized
    · unfold validateDeviceToken at authorized
      split at authorized
      · split at authorized <;> cases authorized
      · cases authorized
    · cases authorized

end

end Connection
end Rabb1tClaw
