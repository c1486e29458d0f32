import Rabb1tClaw.Agent.Session
import Rabb1tClaw.Config.Devices

namespace Rabb1tClaw
namespace Config

open Foundations
open Agent (tokenPrefix conversationPath)

/-!
# Onboarding and revocation

A device is created with a token whose storage prefix no other device in the
store has, and is stored under a device id.  The prefix names the directory of
a device, so prefixes have to be separate (`DeviceStore.Separate`).

The generator of tokens and the clock are outside of the repository.  What
they return is an argument, and any value is possible.  A store that separates
its devices does so after every operation, which `PairedStore` records.
-/

/-- What `generate_token` returns: 32 hexadecimal digits. -/
structure GeneratedToken where
  text : Text
  length_eq : text.length = 32
  digits : ∀ char ∈ text, char ∈ "0123456789abcdef".toList

/-- `generate_device_id`. -/
def generateDeviceId (nowMs : Nat) (draw : GeneratedToken) : Option Text :=
  (draw.text.sliceTo 16).map fun random => Nat.toDigits 16 nowMs ++ random

/-- The random values and the time that one `create_device` sees: the tokens
in the order in which they are drawn, and the token for the device id. -/
structure Draws where
  tokens : List GeneratedToken
  id : GeneratedToken
  nowMs : Nat

/-- The prefixes of the devices in a store. -/
def DeviceStore.taken (store : DeviceStore) : Option (List Text) :=
  store.devices.entries.mapM fun entry => tokenPrefix entry.2.token

/-- `create_device`, if it returns: a stored token without a prefix panics,
and it goes on drawing while every prefix that it has drawn is taken. -/
def createDevice (store : DeviceStore) (draws : Draws) (displayName : Text) : Option Device := do
  let taken ← store.taken
  let token ← draws.tokens.find? fun draw =>
    (tokenPrefix draw.text).any fun start => !taken.contains start
  let deviceId ← generateDeviceId draws.nowMs draws.id
  return ⟨deviceId, displayName, token.text, false⟩

namespace DeviceStore

/-- `add_device`: a device that has the id already is replaced. -/
def addDevice (store : DeviceStore) (device : Device) : DeviceStore :=
  ⟨store.devices.insert device.deviceId device⟩

/-- The entry that `revoke_device` finds, by id first. -/
def findRevoked (store : DeviceStore) (idOrToken : Text) : Option (Text × Device) :=
  match store.devices.lookup idOrToken with
  | some device => some (idOrToken, device)
  | none =>
      (store.devices.entries.find? fun entry => entry.2.token = idOrToken).map fun entry =>
        (entry.1, entry.2)

/-- `revoke_device`, with the display name that it returns. -/
def revokeDevice (store : DeviceStore) (idOrToken : Text) : DeviceStore × Option Text :=
  match store.findRevoked idOrToken with
  | some (id, device) =>
      (⟨store.devices.replace id { device with revoked := true }⟩, some device.displayName)
  | none => (store, none)

/-- Every token has a prefix, and no two devices have the same one. -/
structure Separate (store : DeviceStore) : Prop where
  named : ∀ id device, store.devices.lookup id = some device →
    ∃ start, tokenPrefix device.token = some start
  apart : ∀ id id' device device', store.devices.lookup id = some device →
    store.devices.lookup id' = some device' →
    tokenPrefix device.token = tokenPrefix device'.token → id = id'

end DeviceStore

/-! ## Generated tokens -/

theorem utf8Size_of_hexDigit {char : Char} (digit : char ∈ "0123456789abcdef".toList) :
    char.utf8Size = 1 := by
  have narrow : ("0123456789abcdef".toList.all fun other => other.utf8Size = 1) = true := by decide
  exact of_decide_eq_true (List.all_eq_true.mp narrow char digit)

theorem len_of_hexDigits {text : Text} (digits : ∀ char ∈ text, char ∈ "0123456789abcdef".toList) :
    text.len = text.length := by
  induction text with
  | nil => rfl
  | cons char rest inductionHypothesis =>
      rw [Text.len_cons, utf8Size_of_hexDigit (digits char List.mem_cons_self),
        inductionHypothesis fun other member => digits other (List.mem_cons_of_mem char member),
        List.length_cons, Nat.add_comm]

namespace GeneratedToken

/-- No slice of a generated token panics. -/
theorem sliceTo_text (token : GeneratedToken) {count : Nat} (within : count ≤ 32) :
    token.text.sliceTo count = some (token.text.take count) := by
  have front : Text.len (token.text.take count) = count := by
    rw [len_of_hexDigits fun char member => token.digits char (List.mem_of_mem_take member),
      List.length_take, token.length_eq]
    exact Nat.min_eq_left within
  have sliced := Text.sliceTo_append (token.text.take count) (token.text.drop count)
  rwa [front, List.take_append_drop] at sliced

theorem tokenPrefix_text (token : GeneratedToken) :
    tokenPrefix token.text = some (token.text.take 8) := by
  rw [tokenPrefix, len_of_hexDigits token.digits, token.length_eq]
  exact token.sliceTo_text (by decide)

end GeneratedToken

/-! ## Created devices -/

theorem mem_of_mapM {α β : Type} {transform : α → Option β} {items : List α} {results : List β}
    (mapped : items.mapM transform = some results) {item : α} (member : item ∈ items) {result : β}
    (transformed : transform item = some result) : result ∈ results := by
  induction items generalizing results with
  | nil => cases member
  | cons head items inductionHypothesis =>
      rw [List.mapM_cons] at mapped
      rcases Option.bind_eq_some_iff.mp mapped with ⟨first, here, rest⟩
      rcases Option.bind_eq_some_iff.mp rest with ⟨others, later, same⟩
      rcases Option.some.inj same with rfl
      rcases List.mem_cons.mp member with rfl | inside
      · rcases Option.some.inj (here.symm.trans transformed) with rfl
        exact List.mem_cons_self
      · exact List.mem_cons_of_mem first (inductionHypothesis later inside)

theorem mapM_of_forall {α β : Type} {transform : α → Option β} {result : α → β} {items : List α}
    (transformed : ∀ item ∈ items, transform item = some (result item)) :
    items.mapM transform = some (items.map result) := by
  induction items with
  | nil => rfl
  | cons head items inductionHypothesis =>
      rw [List.mapM_cons, transformed head List.mem_cons_self,
        inductionHypothesis fun item member => transformed item (List.mem_cons_of_mem head member)]
      rfl

/-- A created device has a prefix that no device in the store has. -/
theorem createDevice_spec {store : DeviceStore} {draws : Draws} {displayName : Text} {created : Device}
    (creates : createDevice store draws displayName = some created) :
    created.revoked = false ∧
      ∃ start, tokenPrefix created.token = some start ∧
        ∀ id device, store.devices.lookup id = some device → tokenPrefix device.token ≠ some start := by
  rcases Option.bind_eq_some_iff.mp creates with ⟨taken, are, drawing⟩
  rcases Option.bind_eq_some_iff.mp drawing with ⟨token, drawn, naming⟩
  rcases Option.bind_eq_some_iff.mp naming with ⟨deviceId, _, same⟩
  rcases Option.some.inj same with rfl
  refine ⟨rfl, token.text.take 8, token.tokenPrefix_text, ?_⟩
  intro id device found starts
  have unused := List.find?_some drawn
  rw [token.tokenPrefix_text, Option.any_some, Bool.not_eq_true', ← Bool.not_eq_true,
    List.contains_iff_mem] at unused
  exact unused (mem_of_mapM are (AList.mem_lookup_iff.mp found) starts)

theorem createDevice_generated {store : DeviceStore} {draws : Draws} {displayName : Text}
    {created : Device} (creates : createDevice store draws displayName = some created) :
    ∃ draw ∈ draws.tokens, created.token = draw.text := by
  rcases Option.bind_eq_some_iff.mp creates with ⟨taken, _, drawing⟩
  rcases Option.bind_eq_some_iff.mp drawing with ⟨token, drawn, naming⟩
  rcases Option.bind_eq_some_iff.mp naming with ⟨deviceId, _, same⟩
  rcases Option.some.inj same with rfl
  exact ⟨token, List.mem_of_find?_eq_some drawn, rfl⟩

theorem createDevice_deviceId {store : DeviceStore} {draws : Draws} {displayName : Text}
    {created : Device} (creates : createDevice store draws displayName = some created) :
    generateDeviceId draws.nowMs draws.id = some created.deviceId := by
  rcases Option.bind_eq_some_iff.mp creates with ⟨taken, _, drawing⟩
  rcases Option.bind_eq_some_iff.mp drawing with ⟨token, _, naming⟩
  rcases Option.bind_eq_some_iff.mp naming with ⟨deviceId, isId, same⟩
  rcases Option.some.inj same with rfl
  exact isId

/-! ## What the operations leave -/

namespace DeviceStore

theorem lookup_addDevice (store : DeviceStore) (device : Device) (id : Text) :
    (store.addDevice device).devices.lookup id =
      if id = device.deviceId then some device else store.devices.lookup id := by
  split
  · rename_i same
    rw [same]
    exact AList.lookup_insert store.devices
  · rename_i differs
    exact AList.lookup_insert_ne differs

theorem dlookup_kreplace {α β : Type} [DecidableEq α] (key : α) (value : β) (other : α)
    (entries : List (Sigma fun _ : α => β)) :
    (entries.kreplace key value).dlookup other =
      if other = key then (entries.dlookup other).map fun _ => value else entries.dlookup other := by
  induction entries with
  | nil => simp [List.kreplace]
  | cons entry entries inductionHypothesis =>
      rcases entry with ⟨here, present⟩
      by_cases hit : key = here
      · subst hit
        have replaced : List.kreplace key value (⟨key, present⟩ :: entries) =
            (⟨key, value⟩ :: entries : List (Sigma fun _ : α => β)) :=
          List.lookmap_cons_some _ _ (if_pos rfl)
        rw [replaced]
        by_cases same : other = key
        · subst same
          rw [if_pos rfl, List.dlookup_cons_eq, List.dlookup_cons_eq, Option.map_some]
        · rw [if_neg same, List.dlookup_cons_ne _ _ same, List.dlookup_cons_ne _ _ same]
      · have kept : List.kreplace key value (⟨here, present⟩ :: entries) =
            (⟨here, present⟩ :: entries.kreplace key value : List (Sigma fun _ : α => β)) :=
          List.lookmap_cons_none _ _ (if_neg hit)
        rw [kept]
        by_cases same : other = here
        · subst same
          rw [if_neg (Ne.symm hit), List.dlookup_cons_eq, List.dlookup_cons_eq]
        · rw [List.dlookup_cons_ne _ _ same, List.dlookup_cons_ne _ _ same, inductionHypothesis]

theorem findRevoked_lookup {store : DeviceStore} {idOrToken id : Text} {device : Device}
    (found : store.findRevoked idOrToken = some (id, device)) :
    store.devices.lookup id = some device := by
  rw [findRevoked] at found
  split at found
  · rename_i byId
    cases found
    exact byId
  · rcases Option.map_eq_some_iff.mp found with ⟨entry, byToken, same⟩
    cases same
    exact AList.mem_lookup_iff.mpr (List.mem_of_find?_eq_some byToken)

/-- Revocation sets the flag of the device that it finds, and nothing else. -/
theorem lookup_revokeDevice (store : DeviceStore) (idOrToken id : Text) :
    (store.revokeDevice idOrToken).1.devices.lookup id =
      (store.devices.lookup id).map fun device =>
        if (store.findRevoked idOrToken).any fun found => found.1 = id then
          { device with revoked := true }
        else device := by
  rw [revokeDevice]
  cases finds : store.findRevoked idOrToken with
  | none => simp
  | some found =>
      rcases found with ⟨target, device⟩
      have present := findRevoked_lookup finds
      simp only [AList.lookup, AList.replace, dlookup_kreplace, Option.any_some, decide_eq_true_eq]
      by_cases same : id = target
      · subst same
        rw [AList.lookup] at present
        simp [present]
      · simp [same, Ne.symm same]

theorem Separate.prefix_of_authorized {store : DeviceStore} (separate : store.Separate) {token : Text}
    (authorized : store.Authorizes token) : ∃ start, tokenPrefix token = some start := by
  rcases authorizes_iff.mp authorized with ⟨id, device, found, _, rfl⟩
  exact separate.named id device found

theorem Separate.addDevice {store : DeviceStore} (separate : store.Separate) {draws : Draws}
    {displayName : Text} {created : Device} (creates : createDevice store draws displayName = some created) :
    (store.addDevice created).Separate := by
  rcases createDevice_spec creates with ⟨_, start, starts, unused⟩
  refine ⟨?_, ?_⟩
  · intro id device found
    rw [lookup_addDevice] at found
    split at found
    · rcases Option.some.inj found with rfl
      exact ⟨start, starts⟩
    · exact separate.named id device found
  · intro id id' device device' found found' same
    rw [lookup_addDevice] at found found'
    split at found <;> split at found'
    · rename_i first second
      exact first.trans second.symm
    · rcases Option.some.inj found with rfl
      exact absurd (same.symm.trans starts) (unused id' device' found')
    · rcases Option.some.inj found' with rfl
      exact absurd (same.trans starts) (unused id device found)
    · exact separate.apart id id' device device' found found' same

theorem Separate.revokeDevice {store : DeviceStore} (separate : store.Separate) (idOrToken : Text) :
    (store.revokeDevice idOrToken).1.Separate := by
  have origin : ∀ {id device}, (store.revokeDevice idOrToken).1.devices.lookup id = some device →
      ∃ before, store.devices.lookup id = some before ∧ device.token = before.token := by
    intro id device found
    rw [lookup_revokeDevice] at found
    rcases Option.map_eq_some_iff.mp found with ⟨before, present, rfl⟩
    refine ⟨before, present, ?_⟩
    split <;> rfl
  refine ⟨?_, ?_⟩
  · intro id device found
    rcases origin found with ⟨before, present, same⟩
    rw [same]
    exact separate.named id before present
  · intro id id' device device' found found' same
    rcases origin found with ⟨before, present, token⟩
    rcases origin found' with ⟨before', present', token'⟩
    rw [token, token'] at same
    exact separate.apart id id' before before' present present' same

end DeviceStore

/-! ## Stores of paired devices -/

/-- A store in which every device has a prefix of its own. -/
structure PairedStore extends DeviceStore where
  separate : toDeviceStore.Separate

namespace PairedStore

/-- No device is paired. -/
def empty : PairedStore where
  devices := ∅
  separate := by
    constructor
    · intro id device found
      cases found
    · intro id id' device device' found
      cases found

/-- What `cmd_onboard` does to the store: a device is created and added. -/
def onboard (store : PairedStore) (draws : Draws) (displayName : Text) : Option (PairedStore × Device) :=
  (createDevice store.toDeviceStore draws displayName).attach.map fun created =>
    (⟨store.addDevice created.1, store.separate.addDevice created.2⟩, created.1)

def revoke (store : PairedStore) (idOrToken : Text) : PairedStore :=
  ⟨(store.revokeDevice idOrToken).1, store.separate.revokeDevice idOrToken⟩

end PairedStore

end Config
end Rabb1tClaw
