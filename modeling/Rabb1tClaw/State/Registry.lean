import Mathlib.Data.List.AList
import Mathlib.Logic.Function.Basic
import Rabb1tClaw.Config.Devices

namespace Rabb1tClaw
namespace State

open Foundations
open Config (Device DeviceStore)

/-!
# The connection registry

The registry lists the active connections of every device token, so that a
revocation can find them.  What an entry holds besides its id are handles: to
the outgoing channel of its socket, to the flag that stops the socket, and to
the notification that wakes it.  A socket that connects twice is registered
twice with the same handles, so an entry names its socket and the handles
stand with the socket.
-/

/-- A frame to the client: a response or an event as it is serialized, or the
frame that closes the socket. -/
inductive OutgoingFrame where
  | message (json : Text)
  | close (code : Nat) (reason : Text)
  deriving DecidableEq, Repr

def streamChannelCapacity : Nat := 100

/-- The bounded channel to the send task.  `receiving` tells whether that task
still holds its end. -/
structure OutgoingChannel where
  queue : List OutgoingFrame
  receiving : Bool
  deriving DecidableEq, Repr

/-- `try_send`, with its error ignored. -/
def OutgoingChannel.trySend (channel : OutgoingChannel) (frame : OutgoingFrame) : OutgoingChannel :=
  if channel.receiving && channel.queue.length < streamChannelCapacity then
    { channel with queue := channel.queue ++ [frame] }
  else
    channel

/-- What a socket shares with its entries in the registry. -/
structure Socket where
  shutdown : Bool
  notified : Bool
  tx : OutgoingChannel
  deriving DecidableEq, Repr

structure ActiveConnection where
  connId : Text
  socket : Nat
  deriving DecidableEq, Repr

abbrev ConnectionRegistry := AList fun _ : Text => List ActiveConnection

structure GatewayState where
  deviceStore : DeviceStore
  activeConnections : ConnectionRegistry
  sockets : Nat → Socket

/-- An entry of the registry. -/
def Registered (connections : ConnectionRegistry) (token : Text) (connection : ActiveConnection) : Prop :=
  ∃ entries, connections.lookup token = some entries ∧ connection ∈ entries

/-! ## Registration -/

def registerConnection (connections : ConnectionRegistry) (token : Text)
    (connection : ActiveConnection) : ConnectionRegistry :=
  connections.insert token ((connections.lookup token).getD [] ++ [connection])

def unregisterConnection (connections : ConnectionRegistry) (token connId : Text) : ConnectionRegistry :=
  match connections.lookup token with
  | none => connections
  | some entries =>
      let kept := entries.filter fun connection => connection.connId != connId
      if kept.isEmpty then connections.erase token else connections.insert token kept

theorem registered_registerConnection {connections : ConnectionRegistry} {token other : Text}
    {added connection : ActiveConnection} :
    Registered (registerConnection connections token added) other connection ↔
      Registered connections other connection ∨ (other = token ∧ connection = added) := by
  unfold Registered registerConnection
  by_cases same : other = token
  · subst same
    rw [AList.lookup_insert]
    cases connections.lookup other <;> simp
  · rw [AList.lookup_insert_ne same]
    simp [same]

theorem registered_of_unregisterConnection {connections : ConnectionRegistry}
    {token connId other : Text} {connection : ActiveConnection}
    (registered : Registered (unregisterConnection connections token connId) other connection) :
    Registered connections other connection := by
  unfold unregisterConnection at registered
  split at registered
  · exact registered
  · rename_i entries found
    rcases registered with ⟨kept, here, member⟩
    by_cases same : other = token
    · subst same
      simp only at here
      split at here
      · rw [AList.lookup_erase] at here
        cases here
      · rw [AList.lookup_insert] at here
        rcases Option.some.inj here with rfl
        exact ⟨entries, found, List.mem_of_mem_filter member⟩
    · simp only at here
      split at here
      · rw [AList.lookup_erase_ne same] at here
        exact ⟨kept, here, member⟩
      · rw [AList.lookup_insert_ne same] at here
        exact ⟨kept, here, member⟩

/-- The number of entries that a token has with an id. -/
def entryCount (connections : ConnectionRegistry) (token connId : Text) : Nat :=
  ((connections.lookup token).getD []).countP fun connection => connection.connId == connId

theorem entryCount_registerConnection (connections : ConnectionRegistry) (token other connId : Text)
    (added : ActiveConnection) :
    entryCount (registerConnection connections token added) other connId =
      entryCount connections other connId + if other = token ∧ added.connId = connId then 1 else 0 := by
  unfold entryCount registerConnection
  by_cases same : other = token
  · subst same
    rw [AList.lookup_insert, Option.getD_some, List.countP_append, List.countP_singleton]
    simp
  · rw [AList.lookup_insert_ne same]
    simp [same]

theorem entryCount_unregisterConnection (connections : ConnectionRegistry)
    (token other removed connId : Text) :
    entryCount (unregisterConnection connections token removed) other connId =
      if other = token ∧ removed = connId then 0 else entryCount connections other connId := by
  unfold entryCount unregisterConnection
  cases found : connections.lookup token with
  | none =>
      by_cases same : other = token
      · subst same
        simp [found]
      · simp [same]
  | some entries =>
      have counted : (entries.filter fun connection => connection.connId != removed).countP
          (fun connection => connection.connId == connId) =
            if removed = connId then 0 else
              entries.countP fun connection => connection.connId == connId := by
        rw [List.countP_filter]
        split
        · rename_i equal
          subst equal
          exact List.countP_eq_zero.mpr (by simp)
        · rename_i differs
          refine List.countP_congr fun connection _ => ?_
          simp only [Bool.and_eq_true, beq_iff_eq, bne_iff_ne]
          exact ⟨And.left, fun equal => ⟨equal, fun removed => differs (removed.symm.trans equal)⟩⟩
      by_cases same : other = token
      · subst same
        simp only [true_and, found, Option.getD_some]
        rw [← counted]
        split
        · rename_i empty
          rw [AList.lookup_erase, List.isEmpty_iff.mp empty]
          rfl
        · rw [AList.lookup_insert, Option.getD_some]
      · simp only [same, false_and, if_false]
        split
        · rw [AList.lookup_erase_ne same]
        · rw [AList.lookup_insert_ne same]

/-! ## Disconnection -/

/-- The flag is set, the socket is woken, and the close frame is sent if there
is room for it. -/
def Socket.disconnect (socket : Socket) : Socket :=
  ⟨true, true, socket.tx.trySend (.close 1008 "device_revoked".toList)⟩

/-- Disconnect the socket of a connection. -/
def disconnectTarget (sockets : Nat → Socket) (target : ActiveConnection) : Nat → Socket :=
  Function.update sockets target.socket (sockets target.socket).disconnect

/-- The connections of some tokens, cloned out of the registry. -/
def disconnectTargets (connections : ConnectionRegistry) (tokens : List Text) : List ActiveConnection :=
  (tokens.filterMap fun token => connections.lookup token).flatten

def disconnectRevokedDevices (state : GatewayState) (tokens : List Text) : GatewayState :=
  { state with
    sockets := (disconnectTargets state.activeConnections tokens).foldl disconnectTarget state.sockets }

theorem mem_disconnectTargets {connections : ConnectionRegistry} {tokens : List Text}
    {connection : ActiveConnection} :
    connection ∈ disconnectTargets connections tokens ↔
      ∃ token ∈ tokens, Registered connections token connection := by
  unfold disconnectTargets Registered
  rw [List.mem_flatten]
  constructor
  · rintro ⟨entries, listed, member⟩
    rcases List.mem_filterMap.mp listed with ⟨token, revoked, found⟩
    exact ⟨token, revoked, entries, found, member⟩
  · rintro ⟨token, revoked, entries, found, member⟩
    exact ⟨entries, List.mem_filterMap.mpr ⟨token, revoked, found⟩, member⟩

theorem shutdown_disconnectTarget (sockets : Nat → Socket) (target : ActiveConnection) (socket : Nat) :
    (disconnectTarget sockets target socket).shutdown = true ↔
      (sockets socket).shutdown = true ∨ target.socket = socket := by
  unfold disconnectTarget
  by_cases same : socket = target.socket
  · subst same
    rw [Function.update_self]
    exact iff_of_true rfl (Or.inr rfl)
  · rw [Function.update_of_ne same]
    exact (or_iff_left fun equal => same equal.symm).symm

/-- Exactly the sockets of the targets are flagged. -/
theorem shutdown_disconnectTargets (sockets : Nat → Socket) (targets : List ActiveConnection)
    (socket : Nat) :
    (targets.foldl disconnectTarget sockets socket).shutdown = true ↔
      (sockets socket).shutdown = true ∨ ∃ target ∈ targets, target.socket = socket := by
  induction targets generalizing sockets with
  | nil => simp
  | cons target targets inductionHypothesis =>
      rw [List.foldl_cons, inductionHypothesis, shutdown_disconnectTarget, or_assoc]
      simp

end State
end Rabb1tClaw
