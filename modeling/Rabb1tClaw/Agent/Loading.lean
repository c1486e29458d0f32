import Rabb1tClaw.Config.Onboarding

namespace Rabb1tClaw
namespace Agent

open Foundations
open Config (Device DeviceStore)

/-!
# Loading sessions from disk

`load_from_disk` fills a fresh session manager when the server starts.  It
maps the storage prefixes of the unrevoked devices back to their tokens, and
looks for a conversation file in every directory whose name is one of these
prefixes.  A file that cannot be read, decrypted or parsed is skipped.
-/

/-- `conversation.enc` in a directory. -/
inductive ConversationFile where
  | absent
  | unreadable
  | holds (data : List UInt8)
  deriving DecidableEq, Repr

/-- An entry of the configuration directory. -/
structure DirEntry where
  fileName : Text
  isDir : Bool
  conversation : ConversationFile
  deriving DecidableEq, Repr

def insertToken (map : AList fun _ : Text => Text) (entry : Sigma fun _ : Text => Device) :
    Option (AList fun _ : Text => Text) :=
  if entry.2.revoked then some map
  else (tokenPrefix entry.2.token).map fun start => map.insert start entry.2.token

/-- An entry as the disk has it.  The files of some directories cannot be
read at the moment. -/
def dirEntry (disk : Text → Option (List UInt8)) (directories unreadable : List Text) (name : Text) :
    DirEntry where
  fileName := name
  isDir := name ∈ directories
  conversation :=
    match disk (name ++ "/conversation.enc".toList) with
    | none => .absent
    | some data => if name ∈ unreadable then .unreadable else .holds data

/-- The tokens of the unrevoked devices, by prefix. -/
def tokenMap (store : DeviceStore) : Option (AList fun _ : Text => Text) :=
  store.devices.entries.foldlM insertToken ∅

section

variable (codec : SessionCodec)

/-- The session that an entry contributes, by its token. -/
def loadEntry (tokens : AList fun _ : Text => Text) (entry : DirEntry) :
    Option (Text × ConversationSession) :=
  if entry.isDir then
    (tokens.lookup entry.fileName).bind fun token =>
      match entry.conversation with
      | .absent => none
      | .unreadable => none
      | .holds data => (codec.readSession token data).map fun session => (token, session)
  else none

def insertSession (sessions : Text → Option ConversationSession) (loaded : Text × ConversationSession) :
    Text → Option ConversationSession :=
  fun token => if token = loaded.1 then some loaded.2 else sessions token

/-- `load_from_disk` into a fresh session manager. -/
def loadFromDisk (store : DeviceStore) (entries : List DirEntry) :
    Option (Text → Option ConversationSession) :=
  (tokenMap store).map fun tokens =>
    (entries.filterMap (loadEntry codec tokens)).foldl insertSession fun _ => none

end

/-! ## The tokens by prefix -/

/-- An unrevoked entry with a token, under a prefix. -/
def Carries (entry : Sigma fun _ : Text => Device) (start token : Text) : Prop :=
  entry.2.revoked = false ∧ entry.2.token = token ∧ tokenPrefix token = some start

/-- What a map holds once the entries are inserted: what one of them carries,
or else what it held. -/
def Supplies (known : AList fun _ : Text => Text) (entries : List (Sigma fun _ : Text => Device))
    (start token : Text) : Prop :=
  (∃ entry ∈ entries, Carries entry start token) ∨
    (known.lookup start = some token ∧ ∀ entry ∈ entries, ∀ other, ¬ Carries entry start other)

/-- An entry may be inserted before the others, as none of them has its
prefix. -/
theorem supplies_insert {entry : Sigma fun _ : Text => Device}
    {entries : List (Sigma fun _ : Text => Device)} {begin : Text}
    (carries : Carries entry begin entry.2.token)
    (apart : ∀ other ∈ entries, tokenPrefix entry.2.token = tokenPrefix other.2.token → entry = other)
    (known : AList fun _ : Text => Text) (start token : Text) :
    Supplies (known.insert begin entry.2.token) entries start token ↔
      Supplies known (entry :: entries) start token := by
  unfold Supplies
  by_cases same : start = begin
  · subst same
    rw [AList.lookup_insert]
    constructor
    · rintro (⟨other, member, carried⟩ | ⟨inserted, _⟩)
      · exact Or.inl ⟨other, List.mem_cons_of_mem entry member, carried⟩
      · rcases Option.some.inj inserted with rfl
        exact Or.inl ⟨entry, List.mem_cons_self, carries⟩
    · rintro (⟨other, member, carried⟩ | ⟨_, none_carries⟩)
      · rcases List.mem_cons.mp member with rfl | inside
        · by_cases again : ∃ twin ∈ entries, ∃ token', Carries twin start token'
          · rcases again with ⟨twin, inside, token', _, rfl, starts⟩
            exact Or.inl ⟨twin, inside, apart twin inside (carries.2.2.trans starts.symm) ▸ carried⟩
          · refine Or.inr ⟨congrArg some carried.2.1, ?_⟩
            intro twin inside token' carried'
            exact again ⟨twin, inside, token', carried'⟩
        · exact Or.inl ⟨other, inside, carried⟩
      · exact absurd carries (none_carries entry List.mem_cons_self entry.2.token)
  · have different : ∀ token, ¬ Carries entry start token := by
      rintro other ⟨_, rfl, starts⟩
      exact same (Option.some.inj (starts.symm.trans carries.2.2))
    rw [AList.lookup_insert_ne same]
    simp [different]

/-- Loop lemma: every entry is inserted. -/
theorem foldlM_insertToken {entries : List (Sigma fun _ : Text => Device)}
    (named : ∀ entry ∈ entries, ∃ start, tokenPrefix entry.2.token = some start)
    (apart : ∀ entry ∈ entries, ∀ other ∈ entries,
      tokenPrefix entry.2.token = tokenPrefix other.2.token → entry = other)
    (known : AList fun _ : Text => Text) :
    ∃ map, entries.foldlM insertToken known = some map ∧
      ∀ start token, map.lookup start = some token ↔ Supplies known entries start token := by
  induction entries generalizing known with
  | nil => exact ⟨known, rfl, by simp [Supplies]⟩
  | cons entry entries inductionHypothesis =>
      have later := inductionHypothesis
        (fun other member => named other (List.mem_cons_of_mem entry member))
        (fun first member second member' =>
          apart first (List.mem_cons_of_mem entry member) second (List.mem_cons_of_mem entry member'))
      rw [List.foldlM_cons, insertToken]
      cases revoked : entry.2.revoked with
      | true =>
          rcases later known with ⟨map, folds, holds⟩
          refine ⟨map, folds, fun start token => ?_⟩
          rw [holds]
          simp [Supplies, Carries, revoked]
      | false =>
          rcases named entry List.mem_cons_self with ⟨begin, begins⟩
          rcases later (known.insert begin entry.2.token) with ⟨map, folds, holds⟩
          refine ⟨map, ?_, fun start token => ?_⟩
          · rw [begins]
            exact folds
          · rw [holds]
            exact supplies_insert ⟨revoked, rfl, begins⟩
              (fun other member => apart entry List.mem_cons_self other (List.mem_cons_of_mem entry member))
              known start token

/-- The map has the token of an unrevoked device under its prefix. -/
theorem tokenMap_spec {store : DeviceStore} (separate : store.Separate) :
    ∃ map, tokenMap store = some map ∧ ∀ start token, map.lookup start = some token ↔
      store.Authorizes token ∧ tokenPrefix token = some start := by
  have named : ∀ entry ∈ store.devices.entries, ∃ start, tokenPrefix entry.2.token = some start := by
    intro entry member
    exact separate.named entry.1 entry.2 (AList.mem_lookup_iff.mpr member)
  have apart : ∀ entry ∈ store.devices.entries, ∀ other ∈ store.devices.entries,
      tokenPrefix entry.2.token = tokenPrefix other.2.token → entry = other := by
    rintro ⟨id, device⟩ member ⟨id', device'⟩ member' same
    have found := AList.mem_lookup_iff.mpr member
    have found' := AList.mem_lookup_iff.mpr member'
    obtain rfl := separate.apart id id' device device' found found' same
    rcases Option.some.inj (found.symm.trans found') with rfl
    rfl
  rcases foldlM_insertToken named apart ∅ with ⟨map, folds, holds⟩
  refine ⟨map, folds, fun start token => ?_⟩
  rw [holds, Supplies, DeviceStore.Authorizes]
  constructor
  · rintro (⟨entry, member, active, rfl, starts⟩ | ⟨impossible, _⟩)
    · exact ⟨⟨entry, member, active, rfl⟩, starts⟩
    · cases impossible
  · rintro ⟨⟨entry, member, active, rfl⟩, starts⟩
    exact Or.inl ⟨entry, member, active, rfl, starts⟩

/-! ## The sessions that are loaded -/

/-- Loop lemma: the sessions that are inserted are the expected ones. -/
theorem foldl_insertSession {expected : Text → Option ConversationSession}
    {loaded : List (Text × ConversationSession)}
    (agree : ∀ one ∈ loaded, expected one.1 = some one.2)
    (sessions : Text → Option ConversationSession) (token : Text) :
    loaded.foldl insertSession sessions token =
      if token ∈ loaded.map Prod.fst then expected token else sessions token := by
  induction loaded generalizing sessions with
  | nil => rfl
  | cons one loaded inductionHypothesis =>
      rw [List.foldl_cons, inductionHypothesis fun other member => agree other (List.mem_cons_of_mem one member)]
      by_cases later : token ∈ loaded.map Prod.fst
      · simp [later]
      · by_cases here : token = one.1
        · simp [here, insertSession, agree one List.mem_cons_self]
        · simp [later, here, insertSession]

section

variable {codec : SessionCodec}

/-- The session of a token that loading finds on disk. -/
def Loads (store : DeviceStore) (unreadable : List Text) (token : Text) : Prop :=
  store.Authorizes token ∧ ∀ start, tokenPrefix token = some start → start ∉ unreadable

theorem fileSession_of_named {stored : SessionStore} {token start : Text}
    (starts : tokenPrefix token = some start) :
    fileSession codec stored token =
      (stored.disk (start ++ "/conversation.enc".toList)).bind (codec.readSession token) := by
  rw [fileSession, conversationPath, starts, Option.map_some, Option.bind_some]

theorem loadEntry_dirEntry {store : DeviceStore} {tokens : AList fun _ : Text => Text}
    (maps : ∀ start token, tokens.lookup start = some token ↔
      store.Authorizes token ∧ tokenPrefix token = some start)
    (stored : SessionStore) (directories unreadable : List Text) {name token : Text}
    {session : ConversationSession} :
    loadEntry codec tokens (dirEntry stored.disk directories unreadable name) = some (token, session) ↔
      name ∈ directories ∧ tokenPrefix token = some name ∧ Loads store unreadable token ∧
        fileSession codec stored token = some session := by
  constructor
  · intro loaded
    rw [loadEntry] at loaded
    split at loaded
    · rename_i directory
      rcases Option.bind_eq_some_iff.mp loaded with ⟨token', mapped, contributes⟩
      rcases (maps name token').mp mapped with ⟨authorized, starts⟩
      split at contributes
      · cases contributes
      · cases contributes
      · rename_i data holds
        rcases Option.map_eq_some_iff.mp contributes with ⟨session', read, same⟩
        cases same
        simp only [dirEntry] at holds
        split at holds
        · cases holds
        · rename_i data' disk
          split at holds
          · cases holds
          · rename_i readable
            cases holds
            refine ⟨of_decide_eq_true directory, starts, ⟨authorized, ?_⟩, ?_⟩
            · intro start starts'
              rcases Option.some.inj (starts.symm.trans starts') with rfl
              exact readable
            · rw [fileSession_of_named starts, disk]
              exact read
    · cases loaded
  · rintro ⟨directory, starts, ⟨authorized, readable⟩, file⟩
    rw [fileSession_of_named starts] at file
    rcases Option.bind_eq_some_iff.mp file with ⟨data, disk, read⟩
    have mapped := (maps name token).mpr ⟨authorized, starts⟩
    simp only [loadEntry, dirEntry, directory, decide_true, if_true, mapped, Option.bind_some, disk,
      if_neg (readable name starts), read, Option.map_some]

variable (codec) in
/-- Loading finds the file of every unrevoked device that can be read, and
nothing else. -/
theorem loadFromDisk_spec {store : DeviceStore} (separate : store.Separate) {stored : SessionStore}
    {directories listing : List Text} (covers : ∀ name ∈ directories, name ∈ listing)
    (listed : ∀ name, stored.disk (name ++ "/conversation.enc".toList) ≠ none → name ∈ directories)
    (unreadable : List Text) :
    ∃ sessions, loadFromDisk codec store
        (listing.map (dirEntry stored.disk directories unreadable)) = some sessions ∧
      ∀ token, (Loads store unreadable token → sessions token = fileSession codec stored token) ∧
        (¬ Loads store unreadable token → sessions token = none) := by
  classical
  rcases tokenMap_spec separate with ⟨tokens, map, maps⟩
  refine ⟨_, by rw [loadFromDisk, map, Option.map_some], fun token => ?_⟩
  let expected (token : Text) : Option ConversationSession :=
    if Loads store unreadable token then fileSession codec stored token else none
  have agree : ∀ one ∈ (listing.map (dirEntry stored.disk directories unreadable)).filterMap
      (loadEntry codec tokens), expected one.1 = some one.2 := by
    rintro ⟨owner, session⟩ member
    rcases List.mem_filterMap.mp member with ⟨entry, present, loaded⟩
    rcases List.mem_map.mp present with ⟨name, _, rfl⟩
    rcases (loadEntry_dirEntry maps stored directories unreadable).mp loaded with ⟨_, _, loads, file⟩
    exact (if_pos loads).trans file
  rw [foldl_insertSession agree]
  split
  · refine ⟨fun loads => if_pos loads, fun refused => if_neg refused⟩
  · rename_i absent
    refine ⟨fun loads => ?_, fun _ => rfl⟩
    cases file : fileSession codec stored token with
    | none => rfl
    | some session =>
        rcases separate.prefix_of_authorized loads.1 with ⟨name, starts⟩
        have kept := file
        rw [fileSession_of_named starts] at kept
        rcases Option.bind_eq_some_iff.mp kept with ⟨data, disk, _⟩
        have directory := listed name (by rw [disk]; simp)
        have loaded := (loadEntry_dirEntry maps stored directories unreadable).mpr
          ⟨directory, starts, loads, file⟩
        apply absurd _ absent
        refine List.mem_map.mpr ⟨(token, session), ?_, rfl⟩
        exact List.mem_filterMap.mpr ⟨_, List.mem_map_of_mem (covers name directory), loaded⟩

end

end Agent
end Rabb1tClaw
