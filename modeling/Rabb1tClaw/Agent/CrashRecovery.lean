import Rabb1tClaw.Agent.FailedLoads
import Rabb1tClaw.Config.GatewayFiles

namespace Rabb1tClaw
namespace Agent

open Foundations
open Config (Device DeviceStore Disk DiskStep FileStep GatewayFile Moved PairedStore SecureCall WriteMove WritePhase
  Writer secureWrites)

/-!
# Conversations across crashes

A message is recorded in memory at once and on disk in the many steps of
`write_secure`, which may fail or be cut off anywhere, and which other calls
come between.  `serving` is the machine of all this, with restarts that load
what they find.

After a restart a device has a front of the history that it had before
(`crash_recovery`).  Where the calls of a device come to their renames in the
order in which they were made, all turns are in it that were saved.
-/

/-- The path of a file in the configuration directory, given as a text. -/
def pathUnder (base : FilePath) (path : Text) : FilePath :=
  base ++ (path.splitOn '/').map fun part => .normal (Text.bytes part)

structure Server where
  sessions : Text → Option ConversationSession
  disk : Disk
  /-- For each call of `write_secure` the token and the snapshot. -/
  saves : List (Text × ConversationSession)

/-- Memory and disk as the session store sees them. -/
def Server.view (base : FilePath) (server : Server) : SessionStore :=
  ⟨server.sessions, fun path => (server.disk.files.fileAt (pathUnder base path)).map Prod.fst⟩

inductive ServerStep where
  /-- The locked part of `record_message`; the call of `write_secure` begins. -/
  | record (token : Text) (call : RecordCall) (now : Nat) (nonce : Nonce) (uuid : Text) (createMode : Nat)
  | move (index : Nat) (move : WriteMove)
  /-- The process ends, and another starts. -/
  | restart (listing : List Text)

/-- An entry of the configuration directory. -/
def dirEntryAt (base : FilePath) (files : FileSystem) (name : Text) : DirEntry where
  fileName := name
  isDir := files (FilePath.join base (Text.bytes name)) = some .directory
  conversation :=
    match files.fileAt ((GatewayFile.conversation name).path base) with
    | none => .absent
    | some (data, _) => .holds data

/-- The directories of devices. -/
def deviceDirectories (devices : DeviceStore) (base : FilePath) (files : FileSystem) : List Text :=
  (devices.devices.entries.filterMap fun entry => tokenPrefix entry.2.token).filter fun start =>
    files (FilePath.join base (Text.bytes start)) = some .directory

section

variable (codec : SessionCodec) (devices : PairedStore) (base : FilePath)

/-- The call of `write_secure` in `save_session`. -/
def saveCall (token start : Text) (nonce : Nonce) (session : ConversationSession) (uuid : Text)
    (createMode : Nat) : SecureCall :=
  ⟨(GatewayFile.conversation start).path base, codec.sealSession token nonce session, uuid, createMode⟩

/-- What `record_message` has done once it has called `write_secure`. -/
def Server.recorded (server : Server) (token start : Text) (turn : ConversationTurn) (nonce : Nonce)
    (uuid : Text) (createMode : Nat) : Server :=
  let appended := (server.view base).appendTurn token turn
  let save := saveCall codec base token start nonce appended.2 uuid createMode
  { sessions := appended.1.sessions
    disk := { server.disk with writers := server.disk.writers ++ [⟨save, .called⟩] }
    saves := server.saves ++ [(token, appended.2)] }

def serving : Machine Server ServerStep where
  step server
    | .record token call now nonce uuid createMode =>
        if devices.Authorizes token then
          (tokenPrefix token).map fun start =>
            server.recorded codec base token start (call.turn now) nonce uuid createMode
        else none
    | .move index move =>
        (secureWrites.step server.disk (.move index move)).map fun disk => { server with disk := disk }
    | .restart listing =>
        let disk := server.disk.crash (List.range server.disk.writers.length)
        if (deviceDirectories devices.toDeviceStore base disk.files).all listing.contains then
          (loadFromDisk codec devices.toDeviceStore (listing.map (dirEntryAt base disk.files))).map fun sessions =>
            ⟨sessions, disk, server.saves⟩
        else none

end

namespace Server

/-- Nothing is in memory but what is on disk. -/
def start (codec : SessionCodec) (devices : PairedStore) (base : FilePath) (files : FileSystem) : Server :=
  let empty : Server := ⟨fun _ => none, .start files, []⟩
  { empty with
    sessions := fun token => if devices.Authorizes token then fileSession codec (empty.view base) token else none }

/-- The name that a save draws is new. -/
def Fresh (server : Server) : ServerStep → Prop
  | .record _ _ _ _ uuid _ => ∀ writer ∈ server.disk.writers,
      writer.call.uuid.length = uuid.length ∧ writer.call.uuid ≠ uuid
  | _ => True

/-- A save replaces a file when none that was made later has. -/
def InOrder (server : Server) : ServerStep → Prop
  | .move index .rename => ∀ writer ∈ server.disk.writers[index]?, ∀ entry ∈ server.disk.replaced,
      entry.2.path = writer.call.path → entry.1 < index
  | _ => True

instance (server : Server) : (step : ServerStep) → Decidable (server.Fresh step)
  | .record _ _ _ _ uuid _ => inferInstanceAs (Decidable (∀ writer ∈ server.disk.writers,
      writer.call.uuid.length = uuid.length ∧ writer.call.uuid ≠ uuid))
  | .move _ _ | .restart _ => isTrue trivial

instance (server : Server) : (step : ServerStep) → Decidable (server.InOrder step)
  | .move index .rename => inferInstanceAs (Decidable (∀ writer ∈ server.disk.writers[index]?,
      ∀ entry ∈ server.disk.replaced, entry.2.path = writer.call.path → entry.1 < index))
  | .move _ .makeDir | .move _ (.failDir _) | .move _ .create | .move _ .failCreate | .move _ .secure
  | .move _ .failSecure | .move _ (.write _) | .move _ .failWrite | .move _ .sync | .move _ .failSync
  | .move _ (.discard _) | .move _ .failRename | .move _ .finish | .record .. | .restart _ => isTrue trivial

/-- The turns that are on disk. -/
def savedTurns (codec : SessionCodec) (base : FilePath) (server : Server) (token : Text) :
    List ConversationTurn :=
  ((fileSession codec (server.view base) token).map ConversationSession.turns).getD []

/-- The turns that are in memory. -/
def history (server : Server) (base : FilePath) (token : Text) : List ConversationTurn :=
  (server.view base).getHistory token

end Server

/-- Prefixes are made of hexadecimal digits, as `generate_token` has them. -/
def HexPrefixes (devices : DeviceStore) : Prop :=
  ∀ token, devices.Authorizes token → ∀ start, tokenPrefix token = some start →
    ∀ char ∈ start, char ∈ "0123456789abcdef".toList

/-- A conversation is in a directory. -/
def Housed (base : FilePath) (files : FileSystem) : Prop :=
  ∀ start, files.fileAt ((GatewayFile.conversation start).path base) ≠ none →
    files (FilePath.join base (Text.bytes start)) = some .directory

section

variable {codec : SessionCodec} {devices : PairedStore} {base : FilePath} {server next : Server} {token start : Text}

/-! ## Where conversations are -/

theorem pathUnder_conversation (base : FilePath) (plain : '/' ∉ start) :
    pathUnder base (start ++ "/conversation.enc".toList) = (GatewayFile.conversation start).path base := by
  have inside : ∀ char ∈ start, (char == '/') = false := by
    intro char member
    exact beq_eq_false_iff_ne.mpr fun same => plain (same ▸ member)
  have name : ∀ char ∈ "conversation.enc".toList, (char == '/') = false := by
    have all : ("conversation.enc".toList.all fun char => !(char == '/')) = true := by decide
    intro char member
    have differs := List.all_eq_true.mp all char member
    rwa [Bool.not_eq_true'] at differs
  have text : "/conversation.enc".toList = '/' :: "conversation.enc".toList := rfl
  have split : (start ++ "/conversation.enc".toList).splitOn '/' = [start, "conversation.enc".toList] := by
    rw [text, List.splitOn_eq_splitOnP, List.splitOnP_append_cons_of_forall_mem inside '/' (beq_self_eq_true _),
      List.splitOnP_eq_singleton name]
  rw [pathUnder, split]
  exact (List.append_assoc base [.normal (Text.bytes start)] [.normal (Text.bytes "conversation.enc".toList)]).symm

theorem plain_of_hex (hex : ∀ char ∈ start, char ∈ "0123456789abcdef".toList) : '/' ∉ start := by
  intro member
  exact absurd (hex '/' member) (by decide)

theorem visible_of_hex (hex : ∀ char ∈ start, char ∈ "0123456789abcdef".toList) :
    (GatewayFile.conversation start).Visible := by
  intro dot
  exact absurd (hex '.' (List.mem_of_head? dot)) (by decide)

theorem conversation_injective {start start' : Text}
    (same : (GatewayFile.conversation start).path base = (GatewayFile.conversation start').path base) :
    start = start' :=
  Text.bytes_injective (FilePath.name_eq_of_join_eq (FilePath.dir_eq_of_join_eq same))

/-- The file of a device, as the session store reads it. -/
theorem fileSession_view (codec : SessionCodec) (server : Server) (hex : HexPrefixes devices.toDeviceStore)
    (authorized : devices.Authorizes token) (starts : tokenPrefix token = some start) :
    fileSession codec (server.view base) token =
      ((server.disk.files.fileAt ((GatewayFile.conversation start).path base)).map Prod.fst).bind
        (codec.readSession token) := by
  rw [fileSession_of_named starts, ← pathUnder_conversation base (plain_of_hex (hex token authorized start starts))]
  rfl

/-! ## What a restart loads -/

theorem loadEntry_dirEntryAt (hex : HexPrefixes devices.toDeviceStore) {tokens : AList fun _ : Text => Text}
    (maps : ∀ start token, tokens.lookup start = some token ↔
      devices.Authorizes token ∧ tokenPrefix token = some start)
    (server : Server) {name : Text} {session : ConversationSession} :
    loadEntry codec tokens (dirEntryAt base server.disk.files name) = some (token, session) ↔
      server.disk.files (FilePath.join base (Text.bytes name)) = some .directory ∧ tokenPrefix token = some name ∧
        devices.Authorizes token ∧ fileSession codec (server.view base) token = some session := by
  constructor
  · intro loaded
    rw [loadEntry] at loaded
    split at loaded
    · rename_i directory
      rcases Option.bind_eq_some_iff.mp loaded with ⟨token', mapped, contributes⟩
      rcases (maps name token').mp mapped with ⟨authorized, starts⟩
      split at contributes
      · cases contributes
      · cases contributes
      · rename_i data holds
        rcases Option.map_eq_some_iff.mp contributes with ⟨session', read, same⟩
        cases same
        simp only [dirEntryAt] at holds
        split at holds
        · cases holds
        · rename_i data' mode file
          cases holds
          refine ⟨of_decide_eq_true directory, starts, authorized, ?_⟩
          rw [fileSession_view codec server hex authorized starts, file]
          exact read
    · cases loaded
  · rintro ⟨directory, starts, authorized, file⟩
    rw [fileSession_view codec server hex authorized starts] at file
    rcases Option.bind_eq_some_iff.mp file with ⟨data, present, read⟩
    rcases Option.map_eq_some_iff.mp present with ⟨⟨content, mode⟩, isFile, rfl⟩
    have mapped := (maps name token).mpr ⟨authorized, starts⟩
    simp only [loadEntry, dirEntryAt, directory, decide_true, if_true, mapped, Option.bind_some, isFile, read,
      Option.map_some]

theorem mem_deviceDirectories (files : FileSystem) (authorized : devices.Authorizes token)
    (starts : tokenPrefix token = some start)
    (directory : files (FilePath.join base (Text.bytes start)) = some .directory) :
    start ∈ deviceDirectories devices.toDeviceStore base files := by
  rcases authorized with ⟨entry, member, _, rfl⟩
  refine List.mem_filter.mpr ⟨List.mem_filterMap.mpr ⟨entry, member, starts⟩, ?_⟩
  exact decide_eq_true directory

/-- Loading finds the conversation of every paired device, and nothing else. -/
theorem load_spec (codec : SessionCodec) (hex : HexPrefixes devices.toDeviceStore)
    (housed : Housed base server.disk.files) {listing : List Text}
    (covers : ∀ name ∈ deviceDirectories devices.toDeviceStore base server.disk.files, name ∈ listing) :
    ∃ sessions, loadFromDisk codec devices.toDeviceStore (listing.map (dirEntryAt base server.disk.files)) =
        some sessions ∧
      ∀ token, (devices.Authorizes token → sessions token = fileSession codec (server.view base) token) ∧
        (¬ devices.Authorizes token → sessions token = none) := by
  rcases tokenMap_spec devices.separate with ⟨tokens, map, maps⟩
  refine ⟨_, by rw [loadFromDisk, map, Option.map_some], fun token => ?_⟩
  let expected (token : Text) : Option ConversationSession :=
    if devices.Authorizes token then fileSession codec (server.view base) token else none
  have agree : ∀ one ∈ (listing.map (dirEntryAt base server.disk.files)).filterMap (loadEntry codec tokens),
      expected one.1 = some one.2 := by
    rintro ⟨owner, session⟩ member
    rcases List.mem_filterMap.mp member with ⟨entry, present, loaded⟩
    rcases List.mem_map.mp present with ⟨name, _, rfl⟩
    rcases (loadEntry_dirEntryAt hex maps server).mp loaded with ⟨_, _, authorized, file⟩
    exact (if_pos authorized).trans file
  rw [foldl_insertSession agree]
  split
  · exact ⟨fun authorized => if_pos authorized, fun refused => if_neg refused⟩
  · rename_i absent
    refine ⟨fun authorized => ?_, fun _ => rfl⟩
    cases file : fileSession codec (server.view base) token with
    | none => rfl
    | some session =>
        rcases devices.separate.prefix_of_authorized authorized with ⟨name, starts⟩
        have present : server.disk.files.fileAt ((GatewayFile.conversation name).path base) ≠ none := by
          intro none
          rw [fileSession_view codec server hex authorized starts, none] at file
          cases file
        have directory := housed name present
        have loaded := (loadEntry_dirEntryAt hex maps server).mpr ⟨directory, starts, authorized, file⟩
        have listed := covers name (mem_deviceDirectories server.disk.files authorized starts directory)
        apply absurd _ absent
        refine List.mem_map.mpr ⟨(token, session), ?_, rfl⟩
        exact List.mem_filterMap.mpr ⟨_, List.mem_map_of_mem listed, loaded⟩

/-- A prefix belongs to one paired device. -/
theorem token_of_prefix {other : Text} (authorized : devices.Authorizes token)
    (authorized' : devices.Authorizes other) (starts : tokenPrefix token = some start)
    (starts' : tokenPrefix other = some start) : token = other := by
  rcases tokenMap_spec devices.separate with ⟨tokens, _, maps⟩
  have here := (maps start token).mpr ⟨authorized, starts⟩
  have there := (maps start other).mpr ⟨authorized', starts'⟩
  exact Option.some.inj (here.symm.trans there)

/-! ## Memory is ahead of the disk -/

/-- Each call of `write_secure` saves a session of a device.  While it is going
its snapshot is a front of the history, and so is what is on disk. -/
structure Server.Orderly (codec : SessionCodec) (devices : PairedStore) (base : FilePath) (server : Server) :
    Prop where
  sound : ∃ files, server.disk.Sound files
  saves : ∀ (index : Nat) (writer : Writer), server.disk.writers[index]? = some writer →
    ∃ token session start nonce, server.saves[index]? = some (token, session) ∧ devices.Authorizes token ∧
      tokenPrefix token = some start ∧ writer.call.path = (GatewayFile.conversation start).path base ∧
      writer.call.content = codec.sealSession token nonce session
  lengths : server.saves.length = server.disk.writers.length
  housed : Housed base server.disk.files
  kept : ∀ token, devices.Authorizes token → server.savedTurns codec base token <+: server.history base token
  pending : ∀ (index : Nat) (writer : Writer) (token : Text) (session : ConversationSession),
    server.disk.writers[index]? = some writer → server.saves[index]? = some (token, session) →
      writer.phase.ended = false → session.turns <+: server.history base token

theorem Server.orderly_start (codec : SessionCodec) (devices : PairedStore) {files : FileSystem}
    (housed : Housed base files) : (Server.start codec devices base files).Orderly codec devices base where
  sound := ⟨files, Disk.sound_start files⟩
  saves := by rintro index writer ⟨⟩
  lengths := rfl
  housed := housed
  kept := by
    intro token authorized
    have loaded : (Server.start codec devices base files).sessions token =
        fileSession codec ((Server.start codec devices base files).view base) token := if_pos authorized
    have same : (Server.start codec devices base files).history base token =
        (Server.start codec devices base files).savedTurns codec base token := by
      rw [Server.savedTurns, ← loaded]
      rfl
    rw [same]
  pending := by rintro index writer token session ⟨⟩

section

variable {turn : ConversationTurn} {nonce : Nonce} {uuid : Text} {createMode : Nat}

theorem record_cases {call : RecordCall} {now : Nat}
    (steps : (serving codec devices base).step server (.record token call now nonce uuid createMode) = some next) :
    devices.Authorizes token ∧ ∃ start, tokenPrefix token = some start ∧
      next = server.recorded codec base token start (call.turn now) nonce uuid createMode := by
  rcases Option.ite_none_right_eq_some.mp steps with ⟨authorized, records⟩
  rcases Option.map_eq_some_iff.mp records with ⟨start, starts, rfl⟩
  exact ⟨authorized, start, starts, rfl⟩

theorem history_recorded :
    (server.recorded codec base token start turn nonce uuid createMode).history base token =
      server.history base token ++ [turn] :=
  (getHistory_appendTurn (server.view base) token turn).1

theorem history_recorded_other {other : Text} (differs : other ≠ token) :
    (server.recorded codec base token start turn nonce uuid createMode).history base other =
      server.history base other :=
  getHistory_appendTurn_other (server.view base) differs turn

/-- Histories only grow when a message is recorded. -/
theorem history_prefix_recorded (other : Text) :
    server.history base other <+:
      (server.recorded codec base token start turn nonce uuid createMode).history base other := by
  by_cases same : other = token
  · rw [same, history_recorded]
    exact List.prefix_append ..
  · rw [history_recorded_other same]

theorem save_recorded {index : Nat} {owner : Text} {session : ConversationSession}
    (found : (server.recorded codec base token start turn nonce uuid createMode).saves[index]? =
      some (owner, session)) :
    server.saves[index]? = some (owner, session) ∨
      (index = server.saves.length ∧ owner = token ∧ session.turns = server.history base token ++ [turn]) := by
  have split : (server.saves ++ [(token, ((server.view base).appendTurn token turn).2)])[index]? =
      some (owner, session) := found
  rcases Disk.concat_cases split with earlier | ⟨last, same⟩
  · exact .inl earlier
  · cases same
    exact .inr ⟨last, rfl, (getHistory_appendTurn (server.view base) token turn).2.2⟩

theorem Server.Orderly.recorded (orderly : server.Orderly codec devices base)
    (hex : HexPrefixes devices.toDeviceStore) (authorized : devices.Authorizes token)
    (starts : tokenPrefix token = some start)
    (fresh : ∀ writer ∈ server.disk.writers, writer.call.uuid.length = uuid.length ∧ writer.call.uuid ≠ uuid) :
    (server.recorded codec base token start turn nonce uuid createMode).Orderly codec devices base where
  sound := by
    rcases orderly.sound with ⟨files, sound⟩
    refine ⟨files, sound.begin fun writer member => ?_⟩
    rcases List.getElem?_of_mem member with ⟨index, found⟩
    rcases orderly.saves index writer found with ⟨owner, _, start', _, _, paired, starts', isPath, _⟩
    rcases fresh writer member with ⟨long, differs⟩
    constructor
    · exact Config.apart_of_uuids rfl isPath (visible_of_hex (hex owner paired start' starts')) long.symm
        fun same => differs same.symm
    · exact Config.apart_of_uuids isPath rfl (visible_of_hex (hex token authorized start starts)) long differs
  saves := by
    intro index writer found
    rcases Disk.concat_cases found with earlier | ⟨rfl, rfl⟩
    · rcases orderly.saves index writer earlier with ⟨owner, session, start', nonce', saved, rest⟩
      have inside := (List.getElem?_eq_some_iff.mp saved).1
      exact ⟨owner, session, start', nonce', (List.getElem?_append_left inside).trans saved, rest⟩
    · refine ⟨token, ((server.view base).appendTurn token turn).2, start, nonce, ?_, authorized, starts, rfl, rfl⟩
      rw [← orderly.lengths]
      exact List.getElem?_concat_length
  lengths := by
    change (server.saves ++ [_]).length = (server.disk.writers ++ [_]).length
    rw [List.length_append, List.length_append, orderly.lengths]
    rfl
  housed := orderly.housed
  kept := fun other paired => (orderly.kept other paired).trans (history_prefix_recorded other)
  pending := by
    intro index writer owner session found saved going
    rcases save_recorded saved with earlier | ⟨_, rfl, turns⟩
    · have inside := (List.getElem?_eq_some_iff.mp earlier).1
      rcases Disk.concat_cases found with before | ⟨last, _⟩
      · exact (orderly.pending index writer owner session before earlier going).trans (history_prefix_recorded owner)
      · rw [orderly.lengths] at inside
        omega
    · rw [turns, history_recorded]

end

/-! ## Steps of a save -/

section

variable {index : Nat} {call : SecureCall} {phase after : WritePhase} {move : WriteMove} {files : FileSystem}

/-- The server behind a step of one save. -/
def Server.moved (server : Server) (index : Nat) (call : SecureCall) (move : WriteMove) (files : FileSystem)
    (after : WritePhase) : Server :=
  { server with disk := server.disk.moved index call move files after }

/-- A rename puts its snapshot on disk; nothing else changes a conversation. -/
theorem fileSession_moved (lawful : codec.Lawful) (hex : HexPrefixes devices.toDeviceStore)
    (orderly : server.Orderly codec devices base) (found : server.disk.writers[index]? = some ⟨call, phase⟩)
    (moved : Moved call server.disk.files phase move files after) {owner : Text} {session : ConversationSession}
    (saved : server.saves[index]? = some (owner, session)) (authorized : devices.Authorizes token) :
    fileSession codec ((server.moved index call move files after).view base) token =
      if move = .rename ∧ owner = token then some session else fileSession codec (server.view base) token := by
  rcases orderly.saves index _ found with ⟨owner', session', start, nonce, saved', paired, starts, isPath, content⟩
  rcases Option.some.inj (saved.symm.trans saved') with ⟨⟩
  have isFile : call.path = (GatewayFile.conversation start).path base := isPath
  rcases devices.separate.prefix_of_authorized authorized with ⟨own, starts'⟩
  rw [fileSession_view codec (server.moved index call move files after) hex authorized starts']
  change ((files.fileAt ((GatewayFile.conversation own).path base)).map Prod.fst).bind _ = _
  split
  · rename_i renamed
    rcases renamed with ⟨renames, rfl⟩
    rcases Option.some.inj (starts.symm.trans starts') with rfl
    rcases moved.renames renames with ⟨rfl, _, target⟩
    rcases orderly.sound with ⟨initial, sound⟩
    have staged : server.disk.files call.tmp = some (.file call.content Config.secureMode) :=
      sound.stages index _ found
    have isContent : call.content = codec.sealSession owner nonce session := content
    rw [← isFile, FileSystem.fileAt_of_eq (target.trans staged), isContent]
    exact SessionCodec.readSession_sealSession lawful owner nonce session
  · rename_i other
    have untouched : files.fileAt ((GatewayFile.conversation own).path base) =
        server.disk.files.fileAt ((GatewayFile.conversation own).path base) := by
      refine moved.fileAt _ (Config.tmp_ne_path isFile _).symm fun renames same => ?_
      have alike := conversation_injective (same.trans isFile)
      subst alike
      exact other ⟨renames, token_of_prefix paired authorized starts starts'⟩
    rw [untouched, fileSession_view codec server hex authorized starts']

/-- The directory of a device is none of the files that a save touches. -/
theorem directory_moved (isFile : call.path = (GatewayFile.conversation start).path base)
    (moved : Moved call server.disk.files phase move files after) {other : Text}
    (directory : server.disk.files (FilePath.join base (Text.bytes other)) = some .directory) :
    files (FilePath.join base (Text.bytes other)) = some .directory := by
  have short : (FilePath.join base (Text.bytes other)).length = base.length + 1 := by simp [FilePath.join]
  have long : call.tmp.length = base.length + 2 := by
    rw [Config.tmp_of_path isFile]
    simp [GatewayFile.dir, FilePath.join]
  have long' : call.path.length = base.length + 2 := by
    rw [isFile]
    simp [GatewayFile.path, GatewayFile.dir, FilePath.join]
  rw [moved.stays _ (fun same => ?_) (fun _ same => ?_) (by rw [directory]; simp), directory]
  · rw [← same] at long
    omega
  · rw [← same] at long'
    omega

theorem Server.Orderly.moved (lawful : codec.Lawful) (hex : HexPrefixes devices.toDeviceStore)
    (orderly : server.Orderly codec devices base) (found : server.disk.writers[index]? = some ⟨call, phase⟩)
    (moved : Moved call server.disk.files phase move files after) :
    (server.moved index call move files after).Orderly codec devices base := by
  rcases orderly.saves index _ found with ⟨owner, session, start, nonce, saved, paired, starts, isPath, content⟩
  have isFile : call.path = (GatewayFile.conversation start).path base := isPath
  refine ⟨?_, fun other writer there => ?_, ?_, fun name present => ?_, fun token authorized => ?_, ?_⟩
  · rcases orderly.sound with ⟨initial, sound⟩
    exact ⟨initial, sound.moves found moved⟩
  · rcases Disk.writer_moved found there with ⟨before, earlier, same⟩
    rw [same]
    exact orderly.saves other before earlier
  · exact orderly.lengths.trans List.length_set.symm
  · refine directory_moved isFile moved ?_
    by_cases renamed : move = .rename ∧ name = start
    · rcases renamed with ⟨renames, rfl⟩
      have directory := (moved.renames renames).2.1
      rw [SecureCall.dir, isFile, GatewayFile.directoryOf_path] at directory
      exact directory
    · apply orderly.housed name
      have untouched := moved.fileAt ((GatewayFile.conversation name).path base) (Config.tmp_ne_path isFile _).symm
        fun renames same => renamed ⟨renames, conversation_injective (same.trans isFile)⟩
      rw [← untouched]
      exact present
  · rw [Server.savedTurns, fileSession_moved lawful hex orderly found moved saved authorized]
    split
    · rename_i renamed
      rcases renamed with ⟨_, rfl⟩
      exact orderly.pending index _ owner session found saved moved.going
    · exact orderly.kept token authorized
  · intro other writer token snapshot there saved' going
    rcases Disk.writer_set there with ⟨rfl, rfl⟩ | ⟨_, earlier⟩
    · exact orderly.pending other _ token snapshot found saved' moved.going
    · exact orderly.pending other writer token snapshot earlier saved' going

end

theorem move_cases {index : Nat} {move : WriteMove}
    (steps : (serving codec devices base).step server (.move index move) = some next) :
    ∃ call phase files after, server.disk.writers[index]? = some ⟨call, phase⟩ ∧
      Moved call server.disk.files phase move files after ∧ next = server.moved index call move files after := by
  rcases Option.map_eq_some_iff.mp steps with ⟨disk, moves, rfl⟩
  rcases Disk.move_cases moves with ⟨call, phase, files, after, found, moved, rfl⟩
  exact ⟨call, phase, files, after, found, moved, rfl⟩

/-! ## Restarts -/

/-- Nothing is going behind a crash. -/
theorem ended_crash {disk : Disk} {index : Nat} {writer : Writer}
    (found : (disk.crash (List.range disk.writers.length)).writers[index]? = some writer) :
    writer.phase.ended = true := by
  have inside : index < disk.writers.length := by
    have bound := (List.getElem?_eq_some_iff.mp found).1
    rwa [Disk.crash, List.length_mapIdx] at bound
  rw [Disk.crash, List.getElem?_mapIdx] at found
  rcases Option.map_eq_some_iff.mp found with ⟨before, _, rfl⟩
  rw [if_pos (List.mem_range.mpr inside), Writer.stop]
  split
  · rename_i ended
    exact ended
  · rfl

/-- A restart with a listing that has the directories of the devices. -/
theorem restart_spec (codec : SessionCodec) (hex : HexPrefixes devices.toDeviceStore)
    (housed : Housed base server.disk.files) {listing : List Text}
    (covers : ∀ name ∈ deviceDirectories devices.toDeviceStore base server.disk.files, name ∈ listing) :
    ∃ restarted, (serving codec devices base).step server (.restart listing) = some restarted ∧
      restarted.disk = server.disk.crash (List.range server.disk.writers.length) ∧
      restarted.saves = server.saves ∧
      ∀ token, devices.Authorizes token →
        restarted.sessions token = fileSession codec (server.view base) token := by
  rcases load_spec codec hex housed covers with ⟨sessions, loads, finds⟩
  have all : (deviceDirectories devices.toDeviceStore base server.disk.files).all listing.contains = true :=
    List.all_eq_true.mpr fun name member => List.contains_iff_mem.mpr (covers name member)
  refine ⟨⟨sessions, _, server.saves⟩, ?_, rfl, rfl, fun token authorized => (finds token).1 authorized⟩
  have restarts : (serving codec devices base).step server (.restart listing) =
      if (deviceDirectories devices.toDeviceStore base server.disk.files).all listing.contains then
        (loadFromDisk codec devices.toDeviceStore (listing.map (dirEntryAt base server.disk.files))).map fun sessions =>
          ⟨sessions, server.disk.crash (List.range server.disk.writers.length), server.saves⟩
      else none := rfl
  rw [restarts, if_pos all, loads]
  rfl

theorem restart_cases (hex : HexPrefixes devices.toDeviceStore) (housed : Housed base server.disk.files)
    {listing : List Text} (steps : (serving codec devices base).step server (.restart listing) = some next) :
    next.disk = server.disk.crash (List.range server.disk.writers.length) ∧ next.saves = server.saves ∧
      ∀ token, devices.Authorizes token → next.sessions token = fileSession codec (server.view base) token := by
  rcases Option.ite_none_right_eq_some.mp steps with ⟨all, _⟩
  have covers : ∀ name ∈ deviceDirectories devices.toDeviceStore base server.disk.files, name ∈ listing :=
    fun name member => List.contains_iff_mem.mp (List.all_eq_true.mp all name member)
  rcases restart_spec codec hex housed covers with ⟨restarted, steps', spec⟩
  rcases Option.some.inj (steps.symm.trans steps') with rfl
  exact spec

/-- A restart leaves the files. -/
theorem fileSession_restart (disk : next.disk = server.disk.crash (List.range server.disk.writers.length))
    (token : Text) : fileSession codec (next.view base) token = fileSession codec (server.view base) token := by
  have files : next.disk.files = server.disk.files := by
    rw [disk]
    rfl
  rw [Server.view, files]
  rfl

theorem Server.Orderly.restarted (orderly : server.Orderly codec devices base)
    (disk : next.disk = server.disk.crash (List.range server.disk.writers.length)) (saves : next.saves = server.saves)
    (loaded : ∀ token, devices.Authorizes token →
      next.sessions token = fileSession codec (server.view base) token) :
    next.Orderly codec devices base where
  sound := by
    rcases orderly.sound with ⟨files, sound⟩
    exact ⟨files, disk ▸ sound.crash _⟩
  saves := by
    intro index writer found
    rw [disk] at found
    rcases Disk.writer_crash found with ⟨before, earlier, same, _⟩
    rw [saves, same]
    exact orderly.saves index before earlier
  lengths := by
    rw [saves, disk, Disk.crash, List.length_mapIdx]
    exact orderly.lengths
  housed := by
    rw [disk]
    exact orderly.housed
  kept := by
    intro token authorized
    have same : next.history base token = next.savedTurns codec base token := by
      rw [Server.savedTurns, fileSession_restart disk, ← loaded token authorized]
      rfl
    rw [same]
  pending := by
    intro index writer token session found _ going
    rw [disk] at found
    rw [ended_crash found] at going
    cases going

/-- Step lemma. -/
theorem Server.Orderly.step (lawful : codec.Lawful) (hex : HexPrefixes devices.toDeviceStore)
    (orderly : server.Orderly codec devices base) {action : ServerStep} (fresh : server.Fresh action)
    (steps : (serving codec devices base).step server action = some next) : next.Orderly codec devices base := by
  cases action with
  | record token call now nonce uuid createMode =>
      rcases record_cases steps with ⟨authorized, start, starts, rfl⟩
      exact orderly.recorded hex authorized starts fresh
  | move index move =>
      rcases move_cases steps with ⟨call, phase, files, after, found, moved, rfl⟩
      exact orderly.moved lawful hex found moved
  | restart listing =>
      rcases restart_cases hex orderly.housed steps with ⟨disk, saves, loaded⟩
      exact orderly.restarted disk saves loaded

/-! ## What was saved stays saved -/

/-- A save has replaced its file, or may still do so. -/
def Server.Counts (server : Server) (index : Nat) : Prop :=
  index ∈ server.disk.replaced.map Prod.fst ∨
    ∃ writer, server.disk.writers[index]? = some writer ∧ writer.phase.ended = false

/-- The snapshots that have replaced a file are fronts of what is on disk, and
those of the saves that are going are in the order of the calls. -/
structure Server.Durable (codec : SessionCodec) (base : FilePath) (server : Server) : Prop where
  kept : ∀ entry ∈ server.disk.replaced, ∀ (token : Text) (session : ConversationSession),
    server.saves[entry.1]? = some (token, session) → session.turns <+: server.savedTurns codec base token
  ordered : ∀ (early late : Nat) (token : Text) (session session' : ConversationSession) (writer : Writer),
    early < late → server.saves[early]? = some (token, session) → server.saves[late]? = some (token, session') →
      server.disk.writers[late]? = some writer → writer.phase.ended = false → server.Counts early →
        session.turns <+: session'.turns

theorem Server.durable_start (codec : SessionCodec) (devices : PairedStore) (files : FileSystem) :
    (Server.start codec devices base files).Durable codec base where
  kept := by rintro entry ⟨⟩
  ordered := by rintro early late token session session' writer _ ⟨⟩

section

variable {turn : ConversationTurn} {nonce : Nonce} {uuid : Text} {createMode : Nat}

/-- A save that has replaced its file is of a device, whose file it is. -/
theorem Server.Orderly.replaced_save (orderly : server.Orderly codec devices base) {entry : Nat × SecureCall}
    (replaced : entry ∈ server.disk.replaced) {session : ConversationSession}
    (saved : server.saves[entry.1]? = some (token, session)) :
    devices.Authorizes token ∧ ∃ start, tokenPrefix token = some start ∧
      entry.2.path = (GatewayFile.conversation start).path base := by
  rcases orderly.sound with ⟨initial, sound⟩
  rcases sound.known entry replaced with ⟨phase, found, _⟩
  rcases orderly.saves entry.1 _ found with ⟨token', session', start, _, saved', paired, starts, isPath, _⟩
  rcases Option.some.inj (saved.symm.trans saved') with ⟨⟩
  exact ⟨paired, start, starts, isPath⟩

/-- What counts is in the history. -/
theorem Server.Durable.in_history (durable : server.Durable codec base) (orderly : server.Orderly codec devices base)
    {index : Nat} {session : ConversationSession} (saved : server.saves[index]? = some (token, session))
    (authorized : devices.Authorizes token) (counts : server.Counts index) :
    session.turns <+: server.history base token := by
  rcases counts with replaced | ⟨writer, found, going⟩
  · rcases List.mem_map.mp replaced with ⟨entry, member, rfl⟩
    exact (durable.kept entry member token session saved).trans (orderly.kept token authorized)
  · exact orderly.pending index writer token session found saved going

theorem Server.Durable.recorded (durable : server.Durable codec base) (orderly : server.Orderly codec devices base)
    (authorized : devices.Authorizes token) :
    (server.recorded codec base token start turn nonce uuid createMode).Durable codec base where
  kept := by
    intro entry member owner session saved
    rcases save_recorded saved with earlier | ⟨last, _⟩
    · exact durable.kept entry member owner session earlier
    · rcases orderly.sound with ⟨files, sound⟩
      rcases sound.known entry member with ⟨phase, found, _⟩
      have inside := (List.getElem?_eq_some_iff.mp found).1
      rw [last, orderly.lengths] at inside
      exact absurd inside (Nat.lt_irrefl _)
  ordered := by
    intro early late owner session session' writer before saved saved' found going counts
    have known : early < server.disk.writers.length := by
      have bound := (List.getElem?_eq_some_iff.mp saved').1
      change late < (server.saves ++ [_]).length at bound
      rw [List.length_append, List.length_singleton, orderly.lengths] at bound
      omega
    have earlier : server.saves[early]? = some (owner, session) := by
      rcases save_recorded saved with earlier | ⟨last, _⟩
      · exact earlier
      · rw [last, orderly.lengths] at known
        exact absurd known (Nat.lt_irrefl _)
    have counted : server.Counts early := by
      refine counts.imp_right ?_
      rintro ⟨other, there, going'⟩
      rcases Disk.concat_cases there with present | ⟨last, _⟩
      · exact ⟨other, present, going'⟩
      · omega
    rcases save_recorded saved' with earlier' | ⟨last, rfl, turns⟩
    · rcases Disk.concat_cases found with present | ⟨last, _⟩
      · exact durable.ordered early late owner session session' writer before earlier earlier' present going counted
      · have bound := (List.getElem?_eq_some_iff.mp earlier').1
        rw [orderly.lengths] at bound
        omega
    · rw [turns]
      exact (durable.in_history orderly earlier authorized counted).trans (List.prefix_append ..)

end

section

variable {index : Nat} {call : SecureCall} {phase after : WritePhase} {move : WriteMove} {files : FileSystem}

theorem counts_moved (found : server.disk.writers[index]? = some ⟨call, phase⟩)
    (moved : Moved call server.disk.files phase move files after) {other : Nat}
    (counts : (server.moved index call move files after).Counts other) : server.Counts other := by
  have own : server.Counts index := .inr ⟨_, found, moved.going⟩
  rcases counts with replaced | ⟨writer, there, going⟩
  · change other ∈ (server.disk.moved index call move files after).replaced.map Prod.fst at replaced
    rcases List.mem_map.mp replaced with ⟨entry, member, rfl⟩
    rcases Disk.mem_replaced_moved.mp member with earlier | ⟨_, rfl⟩
    · exact .inl (List.mem_map_of_mem earlier)
    · exact own
  · rcases Disk.writer_set there with ⟨rfl, rfl⟩ | ⟨_, earlier⟩
    · exact own
    · exact .inr ⟨writer, earlier, going⟩

theorem Server.Durable.moved (lawful : codec.Lawful) (hex : HexPrefixes devices.toDeviceStore)
    (durable : server.Durable codec base) (orderly : server.Orderly codec devices base)
    (found : server.disk.writers[index]? = some ⟨call, phase⟩)
    (moved : Moved call server.disk.files phase move files after)
    (inOrder : move = .rename → ∀ entry ∈ server.disk.replaced, entry.2.path = call.path → entry.1 < index) :
    (server.moved index call move files after).Durable codec base := by
  rcases orderly.saves index _ found with ⟨owner, session, start, nonce, saved, paired, starts, isPath, content⟩
  have isFile : call.path = (GatewayFile.conversation start).path base := isPath
  refine ⟨fun entry member token snapshot saved' => ?_, ?_⟩
  · rcases Disk.mem_replaced_moved.mp member with earlier | ⟨renames, rfl⟩
    · rcases orderly.replaced_save earlier saved' with ⟨authorized, start', starts', isPath'⟩
      rw [Server.savedTurns, fileSession_moved lawful hex orderly found moved saved authorized]
      split
      · rename_i renamed
        rcases renamed with ⟨renames, rfl⟩
        rcases Option.some.inj (starts.symm.trans starts') with rfl
        have before := inOrder renames entry earlier (isPath'.trans isFile.symm)
        exact durable.ordered entry.1 index owner snapshot session _ before saved' saved found moved.going
          (.inl (List.mem_map_of_mem earlier))
      · exact durable.kept entry earlier token snapshot saved'
    · rcases Option.some.inj (saved.symm.trans saved') with ⟨⟩
      rw [Server.savedTurns, fileSession_moved lawful hex orderly found moved saved paired, if_pos ⟨renames, rfl⟩]
      exact List.prefix_refl _
  · intro early late token snapshot snapshot' writer before saved' saved'' there going counts
    have counted := counts_moved found moved counts
    rcases Disk.writer_set there with ⟨rfl, rfl⟩ | ⟨_, earlier⟩
    · exact durable.ordered early late token snapshot snapshot' _ before saved' saved'' found moved.going counted
    · exact durable.ordered early late token snapshot snapshot' writer before saved' saved'' earlier going counted

end

theorem Server.Durable.restarted (durable : server.Durable codec base)
    (disk : next.disk = server.disk.crash (List.range server.disk.writers.length))
    (saves : next.saves = server.saves) : next.Durable codec base where
  kept := by
    intro entry member token session saved
    rw [disk] at member
    rw [saves] at saved
    rw [Server.savedTurns, fileSession_restart disk]
    exact durable.kept entry member token session saved
  ordered := by
    intro early late token session session' writer _ _ _ found going
    rw [disk] at found
    rw [ended_crash found] at going
    cases going

/-- Step lemma. -/
theorem Server.Durable.step (lawful : codec.Lawful) (hex : HexPrefixes devices.toDeviceStore)
    (durable : server.Durable codec base) (orderly : server.Orderly codec devices base) {action : ServerStep}
    (inOrder : server.InOrder action)
    (steps : (serving codec devices base).step server action = some next) : next.Durable codec base := by
  cases action with
  | record token call now nonce uuid createMode =>
      rcases record_cases steps with ⟨authorized, start, starts, rfl⟩
      exact durable.recorded orderly authorized
  | move index move =>
      rcases move_cases steps with ⟨call, phase, files, after, found, moved, rfl⟩
      refine durable.moved lawful hex orderly found moved fun renames entry member samePath => ?_
      subst renames
      exact inOrder _ found entry member samePath
  | restart listing =>
      rcases restart_cases hex orderly.housed steps with ⟨disk, saves, _⟩
      exact durable.restarted disk saves

/-- Whatever fails and wherever the process ends, a restart loads a front of the
history of each device; and if every save finds that no later one has replaced
its file, it loads all that a save which succeeded was to save. -/
theorem crash_recovery (lawful : codec.Lawful) (hex : HexPrefixes devices.toDeviceStore) {files : FileSystem}
    (housed : Housed base files) {schedule : List ServerStep} {final : Server}
    (fresh : (serving codec devices base).Guarded Server.Fresh (.start codec devices base files) schedule)
    (runs : (serving codec devices base).run (.start codec devices base files) schedule = some final)
    (authorized : devices.Authorizes token) :
    final.savedTurns codec base token <+: final.history base token ∧
      (∀ listing, (∀ name ∈ deviceDirectories devices.toDeviceStore base final.disk.files, name ∈ listing) →
        ∃ restarted, (serving codec devices base).step final (.restart listing) = some restarted ∧
          restarted.history base token = final.savedTurns codec base token) ∧
      ((serving codec devices base).Guarded Server.InOrder (.start codec devices base files) schedule →
        ∀ (index : Nat) (call : SecureCall) (session : ConversationSession),
          final.saves[index]? = some (token, session) → final.disk.writers[index]? = some ⟨call, .succeeded⟩ →
            session.turns <+: final.savedTurns codec base token) := by
  have begins : (Server.start codec devices base files).Orderly codec devices base :=
    Server.orderly_start codec devices housed
  have preserved : ∀ (_ : List ServerStep) (server : Server) action next, server.Orderly codec devices base →
      server.Fresh action → (serving codec devices base).step server action = some next →
        next.Orderly codec devices base :=
    fun _ _ _ _ orderly fresh steps => orderly.step lawful hex fresh steps
  have orderly : final.Orderly codec devices base :=
    Machine.run_invariant_guarded preserved [] begins fresh runs
  refine ⟨orderly.kept token authorized, fun listing covers => ?_, fun inOrder index call session saved found => ?_⟩
  · rcases restart_spec codec hex orderly.housed covers with ⟨restarted, steps, disk, saves, loaded⟩
    refine ⟨restarted, steps, ?_⟩
    rw [Server.savedTurns, ← loaded token authorized]
    rfl
  · have both : ∀ (_ : List ServerStep) (server : Server) action next,
        (server.Orderly codec devices base ∧ server.Durable codec base) →
          (server.Fresh action ∧ server.InOrder action) →
            (serving codec devices base).step server action = some next →
              next.Orderly codec devices base ∧ next.Durable codec base :=
      fun _ _ _ _ holds guards steps => ⟨holds.1.step lawful hex guards.1 steps,
        holds.2.step lawful hex holds.1 guards.2 steps⟩
    have durable := (Machine.run_invariant_guarded both [] ⟨begins, Server.durable_start codec devices files⟩
      (fresh.and inOrder) runs).2
    rcases orderly.sound with ⟨initial, sound⟩
    exact durable.kept (index, call) (sound.effective index _ found rfl) token session saved

/-! ## A save that nothing comes between -/

/-- A call that succeeds changes its target. -/
theorem fileAt_writeSecure {uuid : Text} {createMode : Nat} {files : FileSystem} {path : FilePath}
    {content : List UInt8} (staging : files (Config.stagingPath path uuid) = none) (other : FilePath) :
    (Config.writeSecure uuid createMode none files path content).2.fileAt other =
      if other = path then some (content, Config.secureMode) else files.fileAt other := by
  have plain : ∀ step, (none : Option FileStep) = some step → step = .rename := by
    intro step impossible
    cases impossible
  rcases Config.stage_succeeds none plain createMode
    (files.makeDirectories (Config.directoryOf path) (Config.directoryOf path).length)
    (Config.stagingPath path uuid) content with ⟨staged, succeeds, isStaged, others⟩
  have returns : (Config.writeSecure uuid createMode none files path content).2 =
      staged.rename (Config.stagingPath path uuid) path := by
    rw [Config.writeSecure_of_staged (by simp), succeeds]
    rfl
  rw [returns]
  split
  · rename_i target
    rw [target]
    exact FileSystem.fileAt_of_eq ((FileSystem.rename_target staged _ path).trans isStaged)
  · rename_i fromTarget
    by_cases isTmp : other = Config.stagingPath path uuid
    · subst isTmp
      exact FileSystem.fileAt_congr ((FileSystem.rename_source fromTarget).trans staging.symm)
    · rw [FileSystem.fileAt_congr (FileSystem.rename_other isTmp fromTarget),
        FileSystem.fileAt_congr (others other isTmp)]
      exact FileSystem.fileAt_makeDirectories ..

theorem pathUnder_injective {path path' : Text} (same : pathUnder base path = pathUnder base path') :
    path = path' := by
  have parts := List.append_cancel_left same
  have texts : path.splitOn '/' = path'.splitOn '/' := by
    refine List.map_injective_iff.mpr (fun part part' alike => ?_) parts
    exact Text.bytes_injective (Component.normal.inj alike)
  have whole : ['/'].intercalate (path.splitOn '/') = path := List.intercalate_splitOn '/'
  rw [← whole, texts, List.intercalate_splitOn]

/-- The steps of a save alone. -/
theorem run_save {index : Nat} {moves : List WriteMove} {disk : Disk}
    (runs : secureWrites.run server.disk (moves.map (DiskStep.move index)) = some disk) :
    (serving codec devices base).run server (moves.map (ServerStep.move index)) =
      some { server with disk := disk } := by
  induction moves generalizing server with
  | nil =>
      rcases Option.some.inj runs with rfl
      rfl
  | cons move moves inductionHypothesis =>
      rcases Machine.run_cons runs with ⟨middle, steps, rest⟩
      have step' : (serving codec devices base).step server (.move index move) =
          some { server with disk := middle } := by
        change (secureWrites.step server.disk (.move index move)).map _ = _
        rw [steps]
        rfl
      have later := @inductionHypothesis { server with disk := middle } rest
      rw [List.map_cons, Machine.run_of_step step', later]

/-- A message whose save nothing comes between is recorded as `recordMessage`
has it. -/
theorem uninterrupted_record (hex : HexPrefixes devices.toDeviceStore) (authorized : devices.Authorizes token)
    (starts : tokenPrefix token = some start) (call : RecordCall) (now : Nat) (nonce : Nonce) (uuid : Text)
    (createMode : Nat)
    (directory : server.disk.files.makeDirectories (FilePath.join base (Text.bytes start)) (base.length + 1)
      (FilePath.join base (Text.bytes start)) = some .directory)
    (staging : server.disk.files (Config.stagingPath ((GatewayFile.conversation start).path base) uuid) = none)
    (target : server.disk.files ((GatewayFile.conversation start).path base) ≠ some .directory) :
    ∃ save next, (serving codec devices base).run server
        (.record token call now nonce uuid createMode ::
          (Config.movesOf save none).map (ServerStep.move server.disk.writers.length)) = some next ∧
      recordMessage codec (server.view base) token (call.turn now) nonce = some (next.view base) := by
  let appended := (server.view base).appendTurn token (call.turn now)
  let save := saveCall codec base token start nonce appended.2 uuid createMode
  let recorded := server.recorded codec base token start (call.turn now) nonce uuid createMode
  have records : (serving codec devices base).step server (.record token call now nonce uuid createMode) =
      some recorded := by
    change (if devices.Authorizes token then (tokenPrefix token).map _ else none) = _
    rw [if_pos authorized, starts]
    rfl
  have begun : recorded.disk.writers[server.disk.writers.length]? = some ⟨save, .called⟩ :=
    List.getElem?_concat_length
  have isDir : save.dir = FilePath.join base (Text.bytes start) :=
    GatewayFile.directoryOf_path base (.conversation start)
  have makes : recorded.disk.files.makeDirectories save.dir save.dir.length save.dir = some .directory := by
    have depth : (FilePath.join base (Text.bytes start)).length = base.length + 1 := by simp [FilePath.join]
    rw [isDir, depth]
    exact directory
  have outside : ¬ save.tmp <+: save.dir := by
    rw [isDir]
    have visible := visible_of_hex (hex token authorized start starts)
    exact Config.tmp_outside rfl visible
  rcases Config.uninterrupted_writeSecure begun none makes staging target outside with
    ⟨disk, phase, runs, files, _, _⟩
  refine ⟨save, { recorded with disk := disk }, ?_, ?_⟩
  · rw [Machine.run_of_step records]
    exact run_save runs
  · have path : conversationPath token = some (start ++ "/conversation.enc".toList) := by
      rw [conversationPath, starts]
      rfl
    have plain := plain_of_hex (hex token authorized start starts)
    rw [recordMessage, SessionStore.saveSession, path, Option.map_some]
    refine congrArg (fun disk => some (⟨appended.1.sessions, disk⟩ : SessionStore)) ?_
    funext other
    have written : disk.files.fileAt (pathUnder base other) =
        if pathUnder base other = (GatewayFile.conversation start).path base then
          some (save.content, Config.secureMode)
        else server.disk.files.fileAt (pathUnder base other) := by
      rw [files]
      exact fileAt_writeSecure staging (pathUnder base other)
    change _ = (disk.files.fileAt (pathUnder base other)).map Prod.fst
    rw [written]
    by_cases same : other = start ++ "/conversation.enc".toList
    · rw [if_pos same, same, if_pos (pathUnder_conversation base plain)]
      rfl
    · rw [if_neg same, if_neg fun alike => same
        (pathUnder_injective (alike.trans (pathUnder_conversation base plain).symm))]
      rfl

end

/-! ## A codec that can be run -/

/-- Each character stands behind a mark, and each text in front of a stop. -/
def writeTexts : List Text → Text
  | [] => []
  | text :: texts => text.flatMap (fun char => ['x', char]) ++ '.' :: writeTexts texts

def readTexts (front : Text) : Text → Option (List Text)
  | [] => some []
  | '.' :: rest => (readTexts [] rest).map (front :: ·)
  | _ :: char :: rest => readTexts (front ++ [char]) rest
  | _ => none

theorem readTexts_text (front text rest : Text) :
    readTexts front (text.flatMap (fun char => ['x', char]) ++ '.' :: rest) =
      (readTexts [] rest).map ((front ++ text) :: ·) := by
  induction text generalizing front with
  | nil => simp [readTexts]
  | cons char text inductionHypothesis =>
      have step : readTexts front ('x' :: char :: (text.flatMap (fun char => ['x', char]) ++ '.' :: rest)) =
          readTexts (front ++ [char]) (text.flatMap (fun char => ['x', char]) ++ '.' :: rest) := rfl
      rw [List.flatMap_cons, List.append_assoc]
      refine step.trans ?_
      rw [inductionHypothesis, List.append_assoc]
      rfl

theorem readTexts_writeTexts (texts : List Text) : readTexts [] (writeTexts texts) = some texts := by
  induction texts with
  | nil => rfl
  | cons text texts inductionHypothesis =>
      rw [writeTexts, readTexts_text, inductionHypothesis]
      rfl

def turnTexts (turn : ConversationTurn) : List Text :=
  [turn.role, turn.content, List.replicate turn.timestampMs '|', turn.runId.elim [] ('+' :: ·)]

def readTurns : List Text → Option (List ConversationTurn)
  | [] => some []
  | role :: content :: timestamp :: runId :: rest =>
      (readTurns rest).map (⟨role, content, timestamp.length, if runId = [] then none else some runId.tail⟩ :: ·)
  | _ => none

theorem readTurns_turnTexts (turns : List ConversationTurn) : readTurns (turns.flatMap turnTexts) = some turns := by
  induction turns with
  | nil => rfl
  | cons turn turns inductionHypothesis =>
      rcases turn with ⟨role, content, timestamp, _ | runId⟩ <;>
        simp [turnTexts, readTurns, inductionHypothesis]

def plainCodec : SessionCodec where
  toYaml session := writeTexts (session.turns.flatMap turnTexts)
  fromYaml text := ((readTexts [] text).bind readTurns).map ConversationSession.mk
  encrypt := sampleCodec.encrypt
  decrypt := sampleCodec.decrypt

theorem plainCodec_lawful : plainCodec.Lawful where
  yaml session := by
    simp only [plainCodec, readTexts_writeTexts, Option.bind_some, readTurns_turnTexts, Option.map_some]
  cipher := sampleCodec_lawful.cipher
  tagged := sampleCodec_lawful.tagged

/-! ## A crash in a save -/

def homeDir : FilePath := [.root, .normal (Text.bytes "home".toList)]

/-- Nothing is in the configuration directory. -/
def emptyHome : FileSystem := fun path => if path = homeDir then some .directory else none

theorem emptyHome_housed : Housed homeDir emptyHome := by
  intro start present
  have absent : emptyHome ((GatewayFile.conversation start).path homeDir) = none := by
    refine if_neg fun same => ?_
    have long := congrArg List.length same
    simp [GatewayFile.path, GatewayFile.dir, FilePath.join] at long
  rw [FileSystem.fileAt, absent] at present
  exact absurd rfl present

theorem pairedDevice_hex : HexPrefixes pairedDevice.toDeviceStore := by
  have digits : (pairedDevice.devices.entries.all fun entry => (tokenPrefix entry.2.token).all fun start =>
      start.all "0123456789abcdef".toList.contains) = true := by decide +kernel
  rintro token ⟨entry, member, _, rfl⟩ start starts char inside
  have own := List.all_eq_true.mp digits entry member
  rw [starts] at own
  exact List.contains_iff_mem.mp (List.all_eq_true.mp own char inside)

/-- The first message is saved; the process ends while the second is written;
the third is recorded after the restart, and its rename fails. -/
def crashInSave : List ServerStep :=
  [.record tokenA.text hello 2 zeroNonce "0b9b1cd2".toList 0o644, .move 0 .makeDir, .move 0 .create, .move 0 .secure,
    .move 0 (.write 1000), .move 0 .sync, .move 0 .rename, .move 0 .finish,
    .record tokenA.text goodbye 3 zeroNonce "7f3d20aa".toList 0o644, .move 1 .makeDir, .move 1 .create,
    .move 1 .secure, .move 1 (.write 5), .restart [tokenA.text.take 8],
    .record tokenA.text goodbye 4 zeroNonce "c41e8b07".toList 0o644, .move 2 .makeDir, .move 2 .create,
    .move 2 .secure, .move 2 (.write 1000), .move 2 .sync, .move 2 .failRename]

theorem crashInSave_run :
    ((serving plainCodec pairedDevice homeDir).run (.start plainCodec pairedDevice homeDir emptyHome) crashInSave).any
      (fun final => final.history homeDir tokenA.text = [hello.turn 2, goodbye.turn 4] ∧
        final.savedTurns plainCodec homeDir tokenA.text = [hello.turn 2]) = true := by
  decide +kernel

theorem crash_recovery_sample :
    ∃ final restarted, (serving plainCodec pairedDevice homeDir).run
        (.start plainCodec pairedDevice homeDir emptyHome) crashInSave = some final ∧
      final.history homeDir tokenA.text = [hello.turn 2, goodbye.turn 4] ∧
      (serving plainCodec pairedDevice homeDir).step final (.restart [tokenA.text.take 8]) = some restarted ∧
      restarted.history homeDir tokenA.text = [hello.turn 2] ∧
      ∀ (index : Nat) (call : SecureCall) (session : ConversationSession),
        final.saves[index]? = some (tokenA.text, session) → final.disk.writers[index]? = some ⟨call, .succeeded⟩ →
          session.turns <+: [hello.turn 2] := by
  rcases (Option.any_eq_true _ _).mp crashInSave_run with ⟨final, runs, holds⟩
  rcases of_decide_eq_true holds with ⟨history, saved⟩
  have prefixes : ∀ name ∈ pairedDevice.devices.entries.filterMap (fun entry => tokenPrefix entry.2.token),
      name ∈ [tokenA.text.take 8] := by decide +kernel
  have recovers := crash_recovery plainCodec_lawful pairedDevice_hex emptyHome_housed (by decide +kernel) runs
    (show pairedDevice.Authorizes tokenA.text by decide +kernel)
  rcases recovers.2.1 [tokenA.text.take 8] (fun name member => prefixes name (List.mem_of_mem_filter member)) with
    ⟨restarted, restarts, loaded⟩
  refine ⟨final, restarted, runs, history, restarts, loaded.trans saved, fun index call session known succeeded => ?_⟩
  have kept := recovers.2.2 (by decide +kernel) index call session known succeeded
  rwa [saved] at kept

end Agent
end Rabb1tClaw
