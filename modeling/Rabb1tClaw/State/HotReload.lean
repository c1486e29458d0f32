import Rabb1tClaw.Config.Gateway
import Rabb1tClaw.Foundations.FileWatch
import Rabb1tClaw.State.Reload

namespace Rabb1tClaw
namespace State

open Foundations
open Config (Device DeviceStore GatewayConfig)

/-!
# Hot reload

The server loads both files, builds its state, and only then constructs the
coordinator, which records the modification times.  From then on it checks
the files in turn.  Meanwhile anybody may write them.

The checks never lose a write (`hotReload_converges_iff`).  A write between
loading and recording is lost until the next one.
-/

/-- A gateway without a connection. -/
def GatewayState.new (sockets : Nat → Socket) (deviceStore : DeviceStore) : GatewayState :=
  ⟨deviceStore, ∅, sockets⟩

/-- Put the devices that were loaded in the place of the old ones. -/
def GatewayState.replaceDevices (state : GatewayState) (newDevices : DeviceStore) : GatewayState :=
  match state.reloadDevices (.ok newDevices) with
  | .ok reloaded => reloaded
  | .error _ => state

theorem deviceStore_replaceDevices (state : GatewayState) (newDevices : DeviceStore) :
    (state.replaceDevices newDevices).deviceStore = newDevices := by
  rw [GatewayState.replaceDevices, reloadDevices_ok]
  rfl

/-- How YAML is parsed, and the sockets to come. -/
structure ServerInputs where
  parseConfig : Text → Except Text GatewayConfig
  parseDevices : Text → Except Text DeviceStore
  sockets : Nat → Socket

/-- `load_config` and `reload_config`. -/
def ServerInputs.configReader (inputs : ServerInputs) : Reader Text Text GatewayConfig GatewayConfig where
  parse := inputs.parseConfig
  absent := .empty
  view := id
  start := id
  install := fun _ newConfig => newConfig
  view_start := fun _ => rfl
  view_install := fun _ _ => rfl

/-- `load_devices` and `reload_devices`. -/
def ServerInputs.devicesReader (inputs : ServerInputs) : Reader Text Text DeviceStore GatewayState where
  parse := inputs.parseDevices
  absent := ⟨∅⟩
  view := GatewayState.deviceStore
  start := GatewayState.new inputs.sockets
  install := GatewayState.replaceDevices
  view_start := fun _ => rfl
  view_install := deviceStore_replaceDevices

/-- What the server does next. -/
inductive ServerTurn where
  | loadConfig
  | loadDevices
  | recordConfig
  | recordDevices
  | checkConfig
  | checkDevices
  deriving DecidableEq, Repr

structure HotReload where
  config : Watch Text GatewayConfig GatewayConfig
  devices : Watch Text DeviceStore GatewayState
  turn : ServerTurn

inductive HotReloadStep where
  | writeConfig (mtime : Nat) (text : Text)
  | writeDevices (mtime : Nat) (text : Text)
  | server

/-- A check goes on until it returns. -/
def ServerTurn.next (returned : Bool) : ServerTurn → ServerTurn
  | .loadConfig => .loadDevices
  | .loadDevices => .recordConfig
  | .recordConfig => .recordDevices
  | .recordDevices => .checkConfig
  | .checkConfig => if returned then .checkDevices else .checkConfig
  | .checkDevices => if returned then .checkConfig else .checkDevices

def returned {α μ : Type} : WatchPhase α μ → Bool
  | .idle _ _ => true
  | _ => false

/-- The server and the writers of its files. -/
def hotReload (inputs : ServerInputs) : Machine HotReload HotReloadStep where
  step state
    | .writeConfig mtime text =>
        (inputs.configReader.watch.step state.config (.write mtime text)).map fun config =>
          { state with config }
    | .writeDevices mtime text =>
        (inputs.devicesReader.watch.step state.devices (.write mtime text)).map fun devices =>
          { state with devices }
    | .server =>
        match state.turn with
        | .loadConfig | .recordConfig | .checkConfig =>
            (inputs.configReader.watch.step state.config .advance).map fun config =>
              { state with config, turn := state.turn.next (returned config.phase) }
        | .loadDevices | .recordDevices | .checkDevices =>
            (inputs.devicesReader.watch.step state.devices .advance).map fun devices =>
              { state with devices, turn := state.turn.next (returned devices.phase) }

namespace HotReload

def start (configFile devicesFile : StampedFile Text) : HotReload :=
  ⟨⟨configFile, .unloaded⟩, ⟨devicesFile, .unloaded⟩, .loadConfig⟩

/-- A check that finds a file unchanged is right to do so, whichever file it is. -/
def Converged (inputs : ServerInputs) (state : HotReload) : Prop :=
  inputs.configReader.Converged state.config ∧ inputs.devicesReader.Converged state.devices

/-- When a modification time is recorded, the file still has the content that
the server loaded. -/
def RecordsLoaded (inputs : ServerInputs) (state : HotReload) : HotReloadStep → Prop
  | .writeConfig _ _ | .writeDevices _ _ => True
  | .server =>
      match state.turn with
      | .loadConfig | .recordConfig | .checkConfig =>
          inputs.configReader.RecordsLoaded state.config .advance
      | .loadDevices | .recordDevices | .checkDevices =>
          inputs.devicesReader.RecordsLoaded state.devices .advance

section

variable {inputs : ServerInputs} {state next : HotReload} {action : HotReloadStep}

/-- Every step is one of one of the two watchers. -/
theorem step_parts (steps : (hotReload inputs).step state action = some next) :
    (∃ step, inputs.configReader.watch.step state.config step = some next.config ∧
      next.devices = state.devices ∧
      (RecordsLoaded inputs state action ↔ inputs.configReader.RecordsLoaded state.config step)) ∨
    ∃ step, inputs.devicesReader.watch.step state.devices step = some next.devices ∧
      next.config = state.config ∧
      (RecordsLoaded inputs state action ↔ inputs.devicesReader.RecordsLoaded state.devices step) := by
  cases action with
  | writeConfig mtime text =>
      rcases Option.map_eq_some_iff.mp steps with ⟨config, writes, rfl⟩
      exact .inl ⟨.write mtime text, writes, rfl, Iff.rfl⟩
  | writeDevices mtime text =>
      rcases Option.map_eq_some_iff.mp steps with ⟨devices, writes, rfl⟩
      exact .inr ⟨.write mtime text, writes, rfl, Iff.rfl⟩
  | server =>
      rcases state with ⟨config, devices, turn⟩
      cases turn with
      | loadConfig | recordConfig | checkConfig =>
          rcases Option.map_eq_some_iff.mp steps with ⟨advanced, advances, rfl⟩
          exact .inl ⟨.advance, advances, rfl, Iff.rfl⟩
      | loadDevices | recordDevices | checkDevices =>
          rcases Option.map_eq_some_iff.mp steps with ⟨advanced, advances, rfl⟩
          exact .inr ⟨.advance, advances, rfl, Iff.rfl⟩

/-- Both watchers are sound. -/
structure Sound (inputs : ServerInputs) (state : HotReload) : Prop where
  config : Reader.Sound inputs.configReader state.config
  devices : Reader.Sound inputs.devicesReader state.devices

theorem sound_start (inputs : ServerInputs) (configFile devicesFile : StampedFile Text) :
    Sound inputs (start configFile devicesFile) :=
  ⟨Reader.sound_unloaded _ configFile, Reader.sound_unloaded _ devicesFile⟩

theorem Sound.step (sound : Sound inputs state) (records : RecordsLoaded inputs state action)
    (steps : (hotReload inputs).step state action = some next) : Sound inputs next := by
  rcases step_parts steps with ⟨step, moves, same, recorded⟩ | ⟨step, moves, same, recorded⟩
  · exact ⟨sound.config.step (recorded.mp records) moves, same ▸ sound.devices⟩
  · exact ⟨same ▸ sound.config, sound.devices.step (recorded.mp records) moves⟩

theorem recordsLoaded_of_converged (steps : (hotReload inputs).step state action = some next)
    (converged : Converged inputs next) : RecordsLoaded inputs state action := by
  rcases step_parts steps with ⟨step, moves, _, recorded⟩ | ⟨step, moves, _, recorded⟩
  · exact recorded.mpr (Reader.recordsLoaded_of_converged moves converged.1)
  · exact recorded.mpr (Reader.recordsLoaded_of_converged moves converged.2)

end

/-- The server converges to the files throughout a run if and only if, when it
records their modification times, they still have the content that it loaded. -/
theorem hotReload_converges_iff (inputs : ServerInputs) (configFile devicesFile : StampedFile Text)
    {schedule : List HotReloadStep} {final : HotReload}
    (runs : (hotReload inputs).run (start configFile devicesFile) schedule = some final) :
    (hotReload inputs).Throughout (Converged inputs) (start configFile devicesFile) schedule ↔
      (hotReload inputs).Guarded (RecordsLoaded inputs) (start configFile devicesFile) schedule := by
  constructor
  · have needs : ∀ state action next, True → (hotReload inputs).step state action = some next →
        Converged inputs next → RecordsLoaded inputs state action :=
      fun _ _ _ _ steps converged => recordsLoaded_of_converged steps converged
    exact Machine.guarded_of_throughout (fun _ _ _ _ _ => trivial) needs trivial runs
  · exact Machine.throughout_of_guarded (fun _ _ _ sound records steps => sound.step records steps)
      (fun _ sound => ⟨sound.config.converged, sound.devices.converged⟩)
      (sound_start inputs configFile devicesFile)

/-! ## A revocation during startup -/

def pairedDevice (revoked : Bool) : DeviceStore :=
  ⟨(∅ : AList fun _ : Text => Device).insert "r1".toList ⟨"r1".toList, "R1".toList, "t".toList, revoked⟩⟩

/-- The devices file says whether its one device is revoked. -/
def sampleInputs : ServerInputs where
  parseConfig := fun _ => .ok .empty
  parseDevices := fun text =>
    if text = "revoked: true".toList then .ok (pairedDevice true)
    else if text = "revoked: false".toList then .ok (pairedDevice false)
    else .error "unknown text".toList
  sockets := fun _ => ⟨false, false, [], true⟩

def noFile : StampedFile Text := ⟨none, [], by rintro entry ⟨⟩⟩

def pairedFile : StampedFile Text := noFile.write 1 "revoked: false".toList

/-- The device is revoked after the server has recorded both times. -/
def lateRevocation : List HotReloadStep :=
  [.server, .server, .server, .server, .writeDevices 2 "revoked: true".toList]

/-- The device is revoked between loading and recording. -/
def earlyRevocation : List HotReloadStep :=
  [.server, .server, .writeDevices 2 "revoked: true".toList, .server, .server, .server, .server]

theorem hotReload_lateRevocation :
    (hotReload sampleInputs).Throughout (Converged sampleInputs) (start noFile pairedFile)
      lateRevocation := by
  refine (hotReload_converges_iff sampleInputs noFile pairedFile rfl).mpr ?_
  refine Machine.guarded_cons (by rintro _ ⟨⟩) rfl (Machine.guarded_cons (by rintro _ ⟨⟩) rfl ?_)
  refine Machine.guarded_cons ?_ rfl (Machine.guarded_cons ?_ rfl ⟨trivial, fun _ _ => trivial⟩)
  · rintro memory ⟨⟩
    rfl
  · rintro memory ⟨⟩
    rfl

/-- Two checks find nothing, and the device is not revoked for the server. -/
theorem earlyRevocation_diverges :
    ∃ final, (hotReload sampleInputs).run (start noFile pairedFile) earlyRevocation = some final ∧
      ¬ Converged sampleInputs final := by
  refine ⟨_, rfl, fun converged => ?_⟩
  have same := Except.ok.inj (converged.2 _ _ rfl rfl)
  have revoked : (pairedDevice true).devices.lookup "r1".toList =
      (pairedDevice false).devices.lookup "r1".toList :=
    congrArg (fun store : DeviceStore => store.devices.lookup "r1".toList) same
  exact absurd revoked (by decide)

end HotReload

end State
end Rabb1tClaw
