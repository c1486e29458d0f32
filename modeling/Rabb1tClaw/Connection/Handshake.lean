import Rabb1tClaw.Agent.Session
import Rabb1tClaw.Connection.Auth
import Rabb1tClaw.Foundations.Machine
import Rabb1tClaw.State.Reload

namespace Rabb1tClaw
namespace Connection

open Foundations
open Config (DeviceStore)
open State

/-!
# Connecting during a reload

A connect request is authorized under the lock of the device store and
registered under the lock of the registry.  A reload computes the tokens that
lose their authority, replaces the store, looks up the connections of these
tokens, and disconnects them one by one.  `server` is the machine of these
steps, for any number of sockets and for reloads that follow each other: one
coordinator runs them.

A session escapes a revocation if the reload looks up its token between its
authorization and its registration.  A registration that does not come late
in this sense leaves nothing behind (`no_session_outruns_revocation`).
-/

/-- Where a socket's task stands.  After `granted`, the connection of an
authorized token is registered next. -/
inductive HandshakePhase where
  | receiving
  | granted (token : Text)
  | leaving
  | ended
  deriving DecidableEq, Repr

structure Handler where
  connId : Text
  isLocal : Bool
  authenticatedToken : Option Text
  phase : HandshakePhase
  deriving DecidableEq, Repr

/-- Where the reload in progress stands. -/
inductive ReloadPhase where
  | idle
  | computed (newDevices : DeviceStore) (tokens : List Text)
  | replaced (tokens : List Text)
  | disconnecting (targets : List ActiveConnection)

structure Server where
  gateway : GatewayState
  handlers : Nat → Handler
  reload : ReloadPhase

/-- A step of a socket's task, or of the reload. -/
inductive ServerStep where
  | authorize (socket : Nat) (connectAuth : Option ConnectAuth)
  | register (socket : Nat)
  | leave (socket : Nat)
  | unregister (socket : Nat)
  | compute (newDevices : DeviceStore)
  | replace
  | scan
  | disconnect

/-- `handle_connect` up to the registration.  The session belongs to the token
that was validated, and a local session belongs to none.  A token without a
prefix panics. -/
def Handler.authorize (constantTimeEq : List UInt8 → List UInt8 → Bool) (store : DeviceStore)
    (handler : Handler) (connectAuth : Option ConnectAuth) : Handler :=
  match authorizeConnect constantTimeEq store connectAuth handler.isLocal with
  | .ok method =>
      let deviceToken :=
        match method with
        | .deviceToken => connectAuth.bind ConnectAuth.token
        | .localClient => none
      match deviceToken with
      | none => { handler with authenticatedToken := none }
      | some token =>
          { handler with
            phase := if (Agent.tokenPrefix token).isSome then .granted token else .ended }
  | .failed .needsPairing => handler
  | .failed _ => { handler with phase := .leaving }

namespace Server

/-- The server after the start, with the id and the locality of each socket. -/
def start (store : DeviceStore) (peers : Nat → Text × Bool) : Server where
  gateway := ⟨store, ∅, fun _ => ⟨false, false, ⟨[], true⟩⟩⟩
  handlers socket := ⟨(peers socket).1, (peers socket).2, none, .receiving⟩
  reload := .idle

def setHandler (server : Server) (socket : Nat) (handler : Handler) : Server :=
  { server with handlers := Function.update server.handlers socket handler }

def setConnections (server : Server) (connections : ConnectionRegistry) : Server :=
  { server with gateway := { server.gateway with activeConnections := connections } }

end Server

def server (constantTimeEq : List UInt8 → List UInt8 → Bool) : Machine Server ServerStep where
  step state
    | .authorize socket connectAuth =>
        match (state.handlers socket).phase with
        | .receiving =>
            some (state.setHandler socket
              ((state.handlers socket).authorize constantTimeEq state.gateway.deviceStore connectAuth))
        | _ => none
    | .register socket =>
        match (state.handlers socket).phase with
        | .granted token =>
            some ((state.setConnections (registerConnection state.gateway.activeConnections token
              ⟨(state.handlers socket).connId, socket⟩)).setHandler socket
                { state.handlers socket with authenticatedToken := some token, phase := .receiving })
        | _ => none
    | .leave socket =>
        match (state.handlers socket).phase with
        | .receiving => some (state.setHandler socket { state.handlers socket with phase := .leaving })
        | _ => none
    | .unregister socket =>
        match (state.handlers socket).phase with
        | .leaving =>
            some ((state.setConnections (((state.handlers socket).authenticatedToken.map fun token =>
              unregisterConnection state.gateway.activeConnections token
                (state.handlers socket).connId).getD state.gateway.activeConnections)).setHandler socket
                  { state.handlers socket with phase := .ended })
        | _ => none
    | .compute newDevices =>
        match state.reload with
        | .idle =>
            some { state with
              reload := .computed newDevices (revokedTokens state.gateway.deviceStore newDevices) }
        | _ => none
    | .replace =>
        match state.reload with
        | .computed newDevices tokens =>
            some { state with
              gateway := { state.gateway with deviceStore := newDevices }
              reload := .replaced tokens }
        | _ => none
    | .scan =>
        match state.reload with
        | .replaced tokens =>
            some { state with
              reload :=
                if tokens.isEmpty then .idle
                else .disconnecting (disconnectTargets state.gateway.activeConnections tokens) }
        | _ => none
    | .disconnect =>
        match state.reload with
        | .disconnecting [] => some { state with reload := .idle }
        | .disconnecting (target :: targets) =>
            some { state with
              gateway := { state.gateway with
                sockets := disconnectTarget state.gateway.sockets target }
              reload := .disconnecting targets }
        | _ => none

section

variable {constantTimeEq : List UInt8 → List UInt8 → Bool}

/-! ## The steps of a reload -/

theorem run_disconnect (state : Server) (targets : List ActiveConnection)
    (disconnecting : state.reload = .disconnecting targets) :
    (server constantTimeEq).run state (List.replicate (targets.length + 1) .disconnect) =
      some { state with
        gateway := { state.gateway with sockets := targets.foldl disconnectTarget state.gateway.sockets }
        reload := .idle } := by
  induction targets generalizing state with
  | nil =>
      rw [List.length_nil, List.replicate_succ, Machine.run]
      simp only [server, disconnecting]
      rfl
  | cons target targets inductionHypothesis =>
      rw [List.length_cons, List.replicate_succ, Machine.run]
      simp only [server, disconnecting, Option.bind_some]
      exact inductionHypothesis _ rfl

/-- Without other steps in between, the steps of a reload are
`reload_devices`. -/
theorem run_reload (state : Server) (idle : state.reload = .idle) (newDevices : DeviceStore) :
    ∃ after count, state.gateway.reloadDevices (.ok newDevices) = .ok after ∧
      (server constantTimeEq).run state
          (.compute newDevices :: .replace :: .scan :: List.replicate count .disconnect) =
        some { state with gateway := after, reload := .idle } := by
  by_cases empty : (revokedTokens state.gateway.deviceStore newDevices).isEmpty = true
  · refine ⟨_, 0, rfl, ?_⟩
    simp only [Machine.run, server, idle, empty, if_true, Option.bind_some, List.replicate_zero]
  · refine ⟨_, (disconnectTargets state.gateway.activeConnections
      (revokedTokens state.gateway.deviceStore newDevices)).length + 1, rfl, ?_⟩
    simp only [Machine.run, server, idle, empty, Option.bind_some]
    exact run_disconnect _ _ rfl

/-! ## What a step can do -/

/-- The steps, one rule for each. -/
inductive Moves (constantTimeEq : List UInt8 → List UInt8 → Bool) (state : Server) :
    ServerStep → Server → Prop
  | authorize {socket : Nat} {connectAuth : Option ConnectAuth}
      (receiving : (state.handlers socket).phase = .receiving) :
      Moves constantTimeEq state (.authorize socket connectAuth) (state.setHandler socket
        ((state.handlers socket).authorize constantTimeEq state.gateway.deviceStore connectAuth))
  | register {socket : Nat} {token : Text} (granted : (state.handlers socket).phase = .granted token) :
      Moves constantTimeEq state (.register socket)
        ((state.setConnections (registerConnection state.gateway.activeConnections token
          ⟨(state.handlers socket).connId, socket⟩)).setHandler socket
            { state.handlers socket with authenticatedToken := some token, phase := .receiving })
  | leave {socket : Nat} (receiving : (state.handlers socket).phase = .receiving) :
      Moves constantTimeEq state (.leave socket)
        (state.setHandler socket { state.handlers socket with phase := .leaving })
  | unregister {socket : Nat} {connections : ConnectionRegistry}
      (shrinks : ∀ token connection, Registered connections token connection →
        Registered state.gateway.activeConnections token connection) :
      Moves constantTimeEq state (.unregister socket) ((state.setConnections connections).setHandler
        socket { state.handlers socket with phase := .ended })
  | compute {newDevices : DeviceStore} (idle : state.reload = .idle) :
      Moves constantTimeEq state (.compute newDevices) { state with
        reload := .computed newDevices (revokedTokens state.gateway.deviceStore newDevices) }
  | replace {newDevices : DeviceStore} {tokens : List Text}
      (computed : state.reload = .computed newDevices tokens) :
      Moves constantTimeEq state .replace { state with
        gateway := { state.gateway with deviceStore := newDevices }
        reload := .replaced tokens }
  | skip (replaced : state.reload = .replaced []) :
      Moves constantTimeEq state .scan { state with reload := .idle }
  | scan {tokens : List Text} (replaced : state.reload = .replaced tokens) :
      Moves constantTimeEq state .scan { state with
        reload := .disconnecting (disconnectTargets state.gateway.activeConnections tokens) }
  | disconnect {target : ActiveConnection} {targets : List ActiveConnection}
      (disconnecting : state.reload = .disconnecting (target :: targets)) :
      Moves constantTimeEq state .disconnect { state with
        gateway := { state.gateway with sockets := disconnectTarget state.gateway.sockets target }
        reload := .disconnecting targets }
  | finish (disconnecting : state.reload = .disconnecting []) :
      Moves constantTimeEq state .disconnect { state with reload := .idle }

theorem moves_of_step {state next : Server} {action : ServerStep}
    (step : (server constantTimeEq).step state action = some next) :
    Moves constantTimeEq state action next := by
  cases action with
  | authorize socket connectAuth =>
      simp only [server] at step
      split at step
      · rename_i receiving
        exact Option.some.inj step ▸ .authorize receiving
      · cases step
  | register socket =>
      simp only [server] at step
      split at step
      · rename_i token granted
        exact Option.some.inj step ▸ .register granted
      · cases step
  | leave socket =>
      simp only [server] at step
      split at step
      · rename_i receiving
        exact Option.some.inj step ▸ .leave receiving
      · cases step
  | unregister socket =>
      simp only [server] at step
      split at step
      · refine Option.some.inj step ▸ .unregister ?_
        intro token connection registered
        cases authenticated : (state.handlers socket).authenticatedToken with
        | none =>
            rw [authenticated] at registered
            exact registered
        | some owner =>
            rw [authenticated] at registered
            exact registered_of_unregisterConnection registered
      · cases step
  | compute newDevices =>
      simp only [server] at step
      split at step
      · rename_i idle
        exact Option.some.inj step ▸ .compute idle
      · cases step
  | replace =>
      simp only [server] at step
      split at step
      · rename_i newDevices tokens computed
        exact Option.some.inj step ▸ .replace computed
      · cases step
  | scan =>
      simp only [server] at step
      split at step
      · rename_i tokens replaced
        rcases Option.some.inj step with rfl
        split
        · rename_i empty
          exact .skip (List.isEmpty_iff.mp empty ▸ replaced)
        · exact .scan replaced
      · cases step
  | disconnect =>
      simp only [server] at step
      split at step
      · rename_i disconnecting
        exact Option.some.inj step ▸ .finish disconnecting
      · rename_i target targets disconnecting
        exact Option.some.inj step ▸ .disconnect disconnecting
      · cases step

/-! ## Covered sessions -/

/-- No device that is in both stores changes its token. -/
def KeepsTokens (old new : DeviceStore) : Prop :=
  ∀ id before after, old.devices.lookup id = some before → new.devices.lookup id = some after →
    after.token = before.token

theorem revoked_of_keepsTokens {old new : DeviceStore} (keeps : KeepsTokens old new) {token : Text}
    (authorized : old.Authorizes token) (lost : ¬ new.Authorizes token) :
    token ∈ revokedTokens old new := by
  refine revoked_of_lost lost fun rekeyed => ?_
  rcases DeviceStore.authorizes_iff.mp authorized with ⟨id, before, known, active, rfl⟩
  rcases rekeyed id before known active rfl with ⟨after, here, differs⟩
  exact differs (keeps id before after known here)

/-- The reload in progress will still stop a socket that is registered under
the token. -/
def ReloadPhase.Owes (token : Text) (socket : Nat) : ReloadPhase → Prop
  | idle => False
  | computed _ _ => False
  | replaced tokens => token ∈ tokens
  | disconnecting targets => ∃ target ∈ targets, target.socket = socket

/-- The socket is stopped, the token has authority, or the reload in progress
will stop the socket. -/
def Covered (state : Server) (token : Text) (socket : Nat) : Prop :=
  (state.gateway.sockets socket).shutdown = true ∨ state.gateway.deviceStore.Authorizes token ∨
    state.reload.Owes token socket

/-- A reload has compared its store with the current one, and the devices keep
their tokens. -/
def Compared (state : Server) : Prop :=
  ∀ newDevices tokens, state.reload = .computed newDevices tokens →
    tokens = revokedTokens state.gateway.deviceStore newDevices ∧
      KeepsTokens state.gateway.deviceStore newDevices

/-- A token that is looked up leads to the socket. -/
def Found (state : Server) (token : Text) (socket : Nat) : Prop :=
  ∀ tokens, state.reload = .replaced tokens → token ∈ tokens →
    ∃ connection, Registered state.gateway.activeConnections token connection ∧
      connection.socket = socket

/-- A stopped socket stays stopped, so a step has to answer for the other two
reasons only. -/
theorem Covered.change {state next : Server} {token : Text} {socket : Nat}
    (covered : Covered state token socket)
    (stays : (state.gateway.sockets socket).shutdown = true →
      (next.gateway.sockets socket).shutdown = true)
    (authorized : state.gateway.deviceStore.Authorizes token → Covered next token socket)
    (owed : state.reload.Owes token socket → Covered next token socket) :
    Covered next token socket := by
  rcases covered with stopped | before | owes
  · exact Or.inl (stays stopped)
  · exact authorized before
  · exact owed owes

/-- Step lemma: a covered socket stays covered, if the lookup finds it. -/
theorem Covered.step {state next : Server} {action : ServerStep} {token : Text} {socket : Nat}
    (covered : Covered state token socket) (compared : Compared state)
    (moves : Moves constantTimeEq state action next)
    (found : action = .scan → Found state token socket) : Covered next token socket := by
  cases moves with
  | authorize | register | leave | unregister => exact covered
  | compute idle =>
      rw [Covered, idle] at covered
      exact covered
  | @replace newDevices tokens computed =>
      refine covered.change id ?_ ?_
      · intro authorized
        rcases compared newDevices tokens computed with ⟨rfl, keeps⟩
        by_cases kept : newDevices.Authorizes token
        · exact Or.inr (Or.inl kept)
        · exact Or.inr (Or.inr (revoked_of_keepsTokens keeps authorized kept))
      · rw [computed]
        exact fun impossible => by cases impossible
  | skip replaced =>
      refine covered.change id (fun authorized => Or.inr (Or.inl authorized)) ?_
      rw [replaced]
      exact fun impossible => by cases impossible
  | @scan tokens replaced =>
      refine covered.change id (fun authorized => Or.inr (Or.inl authorized)) ?_
      rw [replaced]
      intro owed
      rcases found rfl tokens replaced owed with ⟨connection, registered, same⟩
      exact Or.inr (Or.inr ⟨connection, mem_disconnectTargets.mpr ⟨token, owed, registered⟩, same⟩)
  | @disconnect target targets disconnecting =>
      have flagged := shutdown_disconnectTarget state.gateway.sockets target socket
      refine covered.change (fun stopped => flagged.mpr (Or.inl stopped))
        (fun authorized => Or.inr (Or.inl authorized)) ?_
      rw [disconnecting]
      rintro ⟨other, member, same⟩
      rcases List.mem_cons.mp member with rfl | later
      · exact Or.inl (flagged.mpr (Or.inr same))
      · exact Or.inr (Or.inr ⟨other, later, same⟩)
  | finish disconnecting =>
      refine covered.change id (fun authorized => Or.inr (Or.inl authorized)) ?_
      rw [disconnecting]
      rintro ⟨other, impossible, _⟩
      cases impossible

/-! ## Runs -/

/-- A reload leaves the tokens of the devices alone. -/
def TokensKept (state : Server) : ServerStep → Prop
  | .compute newDevices => KeepsTokens state.gateway.deviceStore newDevices
  | _ => True

/-- A registration does not come late: at its step the token still has
authority, or the reload in progress has yet to look it up. -/
def InTime (state : Server) : ServerStep → Prop
  | .register socket =>
      ∀ token, (state.handlers socket).phase = .granted token → Covered state token socket
  | _ => True

theorem Compared.step {state next : Server} {action : ServerStep} (compared : Compared state)
    (kept : TokensKept state action) (moves : Moves constantTimeEq state action next) :
    Compared next := by
  cases moves with
  | authorize => exact compared
  | register => exact compared
  | leave => exact compared
  | unregister => exact compared
  | compute idle =>
      intro newDevices tokens computed
      rcases ReloadPhase.computed.inj computed with ⟨rfl, rfl⟩
      exact ⟨rfl, kept⟩
  | replace | skip | scan | disconnect | finish =>
      intro newDevices tokens computed
      cases computed

theorem registered_step {state next : Server} {action : ServerStep} {token : Text}
    {connection : ActiveConnection} (moves : Moves constantTimeEq state action next)
    (registered : Registered next.gateway.activeConnections token connection) :
    Registered state.gateway.activeConnections token connection ∨
      (action = .register connection.socket ∧
        (state.handlers connection.socket).phase = .granted token) := by
  cases moves with
  | register granted =>
      rcases registered_registerConnection.mp registered with before | ⟨rfl, rfl⟩
      · exact Or.inl before
      · exact Or.inr ⟨rfl, granted⟩
  | unregister shrinks => exact Or.inl (shrinks token connection registered)
  | authorize | leave | compute | replace | skip | scan | disconnect | finish =>
      exact Or.inl registered

/-- Every registered connection is covered. -/
structure Watched (state : Server) : Prop where
  compared : Compared state
  covered : ∀ token connection, Registered state.gateway.activeConnections token connection →
    Covered state token connection.socket

/-- Step lemma: what is registered in time is watched from then on. -/
theorem Watched.step {state next : Server} {action : ServerStep} (watched : Watched state)
    (kept : TokensKept state action) (inTime : InTime state action)
    (moves : Moves constantTimeEq state action next) : Watched next where
  compared := watched.compared.step kept moves
  covered := by
    intro token connection registered
    rcases registered_step moves registered with before | ⟨rfl, granted⟩
    · exact (watched.covered token connection before).step watched.compared moves
        fun _ _ _ _ => ⟨connection, before, rfl⟩
    · exact (inTime token granted).step watched.compared moves fun impossible => by cases impossible

theorem watched_start (store : DeviceStore) (peers : Nat → Text × Bool) :
    Watched (Server.start store peers) where
  compared := by
    intro newDevices tokens computed
    cases computed
  covered := by
    rintro token connection ⟨entries, found, _⟩
    rw [Server.start, AList.lookup_empty] at found
    cases found

end

/-- In a run in which no reload changes a token and no registration comes
late, a connection that is not stopped belongs to an unrevoked device of the
store, whenever no reload is in progress. -/
theorem no_session_outruns_revocation (constantTimeEq : List UInt8 → List UInt8 → Bool)
    (store : DeviceStore) (peers : Nat → Text × Bool) (schedule : List ServerStep) (final : Server)
    (guarded : (server constantTimeEq).Guarded
      (fun state action => TokensKept state action ∧ InTime state action) (.start store peers) schedule)
    (runs : (server constantTimeEq).run (.start store peers) schedule = some final)
    (idle : final.reload = .idle) :
    ∀ token connection, Registered final.gateway.activeConnections token connection →
      (final.gateway.sockets connection.socket).shutdown = false →
      final.gateway.deviceStore.Authorizes token := by
  have preserved : ∀ (_ : List ServerStep) state action next, Watched state →
      (TokensKept state action ∧ InTime state action) →
      (server constantTimeEq).step state action = some next → Watched next :=
    fun _ state action next watched guard step => watched.step guard.1 guard.2 (moves_of_step step)
  have watched : Watched final :=
    Machine.run_invariant_guarded preserved [] (watched_start store peers) guarded runs
  intro token connection registered unstopped
  have covered := watched.covered token connection registered
  rw [Covered, idle, unstopped] at covered
  rcases covered with impossible | authorized | impossible
  · cases impossible
  · exact authorized
  · cases impossible

/-- A server with one device, and sockets from elsewhere. -/
def oneDeviceServer : Server :=
  .start (oneDevice "a".toList false) fun _ => ("c1".toList, false)

/-- A reload that revokes the device and finds one session or none. -/
def revocation (sessions : Nat) : List ServerStep :=
  [.compute (oneDevice "a".toList true), .replace, .scan] ++
    List.replicate (sessions + 1) .disconnect

theorem revocation_keepsTokens (token : Text) :
    KeepsTokens (oneDevice token false) (oneDevice token true) := by
  intro id before after known here
  have first := AList.mem_lookup_iff.mp known
  have second := AList.mem_lookup_iff.mp here
  simp only [oneDevice, AList.singleton_entries, List.mem_singleton] at first second
  cases first
  cases second
  rfl

/-- The whole reload passes between the authorization and the registration. -/
theorem late_registration_outruns :
    KeepsTokens (oneDevice "a".toList false) (oneDevice "a".toList true) ∧
      ∃ final, (server sameBytes).run oneDeviceServer
          (.authorize 0 (some ⟨some "a".toList⟩) :: revocation 0 ++ [.register 0]) = some final ∧
        final.reload = .idle ∧ (∀ socket, (final.handlers socket).phase = .receiving) ∧
        Registered final.gateway.activeConnections "a".toList ⟨"c1".toList, 0⟩ ∧
        (final.gateway.sockets 0).shutdown = false ∧
        ¬ final.gateway.deviceStore.Authorizes "a".toList := by
  refine ⟨revocation_keepsTokens _, _, rfl, rfl, ?_, ⟨_, rfl, List.mem_singleton.mpr rfl⟩, rfl,
    by decide⟩
  intro socket
  by_cases first : socket = 0
  · subst first
    rfl
  · simp [Server.setHandler, Function.update_of_ne first, oneDeviceServer, Server.start,
      Server.setConnections]

/-- The sample run, where the registration comes first. -/
def earlyRegistration : List ServerStep :=
  .authorize 0 (some ⟨some "a".toList⟩) :: .register 0 :: revocation 1

theorem no_session_outruns_revocation_early :
    ∃ final, (server sameBytes).run oneDeviceServer earlyRegistration = some final ∧
      ∀ token connection, Registered final.gateway.activeConnections token connection →
        (final.gateway.sockets connection.socket).shutdown = false →
        final.gateway.deviceStore.Authorizes token := by
  have guarded : (server sameBytes).Guarded
      (fun state action => TokensKept state action ∧ InTime state action) oneDeviceServer
      earlyRegistration := by
    refine Machine.guarded_cons ⟨trivial, trivial⟩ rfl (Machine.guarded_cons ⟨trivial, ?_⟩ rfl
      (Machine.guarded_cons ⟨revocation_keepsTokens _, trivial⟩ rfl (Machine.guarded_of_forall ?_ _)))
    · intro token granted
      rcases HandshakePhase.granted.inj granted with rfl
      exact Or.inr (Or.inl (by decide))
    · simp [TokensKept, InTime]
  exact ⟨_, rfl, no_session_outruns_revocation sameBytes (oneDevice "a".toList false)
    (fun _ => ("c1".toList, false)) earlyRegistration _ guarded rfl rfl⟩

/-- A registration that comes late leaves a session without authority: the
condition cannot be dropped. -/
theorem session_escapes_of_late {constantTimeEq : List UInt8 → List UInt8 → Bool} {state next : Server}
    {socket : Nat} (step : (server constantTimeEq).step state (.register socket) = some next)
    (late : ¬ InTime state (.register socket)) :
    ∃ token connection, Registered next.gateway.activeConnections token connection ∧
      (next.gateway.sockets connection.socket).shutdown = false ∧
      ¬ next.gateway.deviceStore.Authorizes token := by
  cases moves_of_step step with
  | @register _ token granted =>
      have uncovered : ¬ Covered state token socket := by
        intro covered
        apply late
        intro other granted'
        rw [← HandshakePhase.granted.inj (granted.symm.trans granted')]
        exact covered
      refine ⟨token, _, registered_registerConnection.mpr (Or.inr ⟨rfl, rfl⟩), ?_, ?_⟩
      · exact Bool.eq_false_iff.mpr fun stopped => uncovered (Or.inl stopped)
      · exact fun authorized => uncovered (Or.inr (Or.inl authorized))

/-! ## Handshakes without a lookup -/

/-- A reload does not look up the token of a connection that stands between
its authorization and its registration. -/
def ScanWaits (state : Server) : ServerStep → Prop
  | .scan => ∀ tokens socket token, state.reload = .replaced tokens →
      (state.handlers socket).phase = .granted token → token ∉ tokens
  | _ => True

/-- Every granted token is covered. -/
structure Granted (state : Server) : Prop where
  compared : Compared state
  covered : ∀ socket token, (state.handlers socket).phase = .granted token →
    Covered state token socket

theorem authorize_granted {constantTimeEq : List UInt8 → List UInt8 → Bool}
    (equality : ∀ first second, constantTimeEq first second = true ↔ first = second)
    {store : DeviceStore} {handler : Handler} {connectAuth : Option ConnectAuth} {token : Text}
    (receiving : handler.phase = .receiving)
    (granted : (handler.authorize constantTimeEq store connectAuth).phase = .granted token) :
    store.Authorizes token := by
  unfold Handler.authorize at granted
  cases result : authorizeConnect constantTimeEq store connectAuth handler.isLocal with
  | failed failure =>
      rw [result] at granted
      cases failure with
      | needsPairing => cases receiving.symm.trans granted
      | revoked => cases granted
      | invalidToken => cases granted
  | ok method =>
      rw [result] at granted
      cases method with
      | localClient => cases receiving.symm.trans granted
      | deviceToken =>
          rcases authorizeConnect_deviceToken equality result with ⟨owner, provided, authorized⟩
          simp only [provided] at granted
          split at granted
          · rcases HandshakePhase.granted.inj granted with rfl
            exact authorized
          · cases granted

theorem phase_setHandler {state : Server} {socket other : Nat} {handler : Handler} {phase : HandshakePhase}
    (here : ((state.setHandler socket handler).handlers other).phase = phase) :
    (other = socket ∧ handler.phase = phase) ∨ (state.handlers other).phase = phase := by
  simp only [Server.setHandler] at here
  by_cases same : other = socket
  · subst same
    rw [Function.update_self] at here
    exact Or.inl ⟨rfl, here⟩
  · rw [Function.update_of_ne same] at here
    exact Or.inr here

/-- A token is granted in an authorization, by the store of that step. -/
theorem granted_step {constantTimeEq : List UInt8 → List UInt8 → Bool}
    (equality : ∀ first second, constantTimeEq first second = true ↔ first = second)
    {state next : Server} {action : ServerStep} (moves : Moves constantTimeEq state action next)
    {socket : Nat} {token : Text} (granted : (next.handlers socket).phase = .granted token) :
    (state.handlers socket).phase = .granted token ∨
      (next.gateway = state.gateway ∧ state.gateway.deviceStore.Authorizes token) := by
  cases moves with
  | authorize receiving =>
      rcases phase_setHandler granted with ⟨rfl, fresh⟩ | before
      · exact Or.inr ⟨rfl, authorize_granted equality receiving fresh⟩
      · exact Or.inl before
  | register | leave | unregister =>
      rcases phase_setHandler granted with ⟨_, impossible⟩ | before
      · cases impossible
      · exact Or.inl before
  | compute | replace | skip | scan | disconnect | finish => exact Or.inl granted

/-- Step lemma: granted tokens stay covered while no reload looks them up. -/
theorem Granted.step {constantTimeEq : List UInt8 → List UInt8 → Bool}
    (equality : ∀ first second, constantTimeEq first second = true ↔ first = second)
    {state next : Server} {action : ServerStep} (granted : Granted state)
    (kept : TokensKept state action) (waits : ScanWaits state action)
    (moves : Moves constantTimeEq state action next) : Granted next where
  compared := granted.compared.step kept moves
  covered := by
    intro socket token here
    rcases granted_step equality moves here with before | ⟨same, authorized⟩
    · refine (granted.covered socket token before).step granted.compared moves ?_
      rintro rfl tokens replaced member
      exact absurd member (waits tokens socket token replaced before)
    · exact Or.inr (Or.inl (same ▸ authorized))

/-- Where no reload looks up a token in the middle of its handshake, no
registration comes late. -/
theorem inTime_of_scanWaits {constantTimeEq : List UInt8 → List UInt8 → Bool}
    (equality : ∀ first second, constantTimeEq first second = true ↔ first = second)
    (store : DeviceStore) (peers : Nat → Text × Bool) (schedule : List ServerStep)
    (guarded : (server constantTimeEq).Guarded
      (fun state action => TokensKept state action ∧ ScanWaits state action) (.start store peers)
      schedule) :
    (server constantTimeEq).Guarded
      (fun state action => TokensKept state action ∧ InTime state action) (.start store peers)
      schedule := by
  have initial : Granted (.start store peers) :=
    ⟨(watched_start store peers).compared, fun _ _ impossible => by cases impossible⟩
  refine Machine.guarded_of_invariant ?_ ?_ initial guarded
  · intro state action next granted guard step
    exact granted.step equality guard.1 guard.2 (moves_of_step step)
  · intro state action granted guard
    refine ⟨guard.1, ?_⟩
    cases action with
    | register socket => exact granted.covered socket
    | authorize | leave | unregister | compute | replace | scan | disconnect => trivial

end Connection
end Rabb1tClaw
