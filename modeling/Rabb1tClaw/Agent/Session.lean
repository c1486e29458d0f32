import Mathlib.Logic.Equiv.List
import Rabb1tClaw.Foundations.Machine
import Rabb1tClaw.Foundations.Utf8Decoding

namespace Rabb1tClaw
namespace Agent

open Foundations

/-!
# Conversation sessions

A device has one session, kept in memory and on disk.  `record_message` takes
two steps that other calls may come between: under the lock it appends a turn
and takes a snapshot, and after releasing the lock it writes the snapshot.
`recording` is the machine whose actions are these steps, for any number of
callers that each record a queue of messages.

YAML and AES-GCM are not part of the repository.  They enter as functions,
and `SessionCodec.Lawful` says what is relied on: parsing undoes
serialization, decryption undoes encryption, and a ciphertext carries a tag.
Writes succeed.
-/

structure ConversationTurn where
  role : Text
  content : Text
  timestampMs : Nat
  runId : Option Text
  deriving DecidableEq, Repr

structure ConversationSession where
  turns : List ConversationTurn
  deriving DecidableEq, Repr

namespace ConversationSession

def new : ConversationSession := ⟨[]⟩

def addTurn (session : ConversationSession) (turn : ConversationTurn) : ConversationSession :=
  ⟨session.turns ++ [turn]⟩

end ConversationSession

/-! ## Encryption -/

/-- A nonce has twelve bytes. -/
structure Nonce where
  bytes : List UInt8
  length_eq : bytes.length = 12

/-- The serializer and the cipher under the key of a token. -/
structure SessionCodec where
  toYaml : ConversationSession → Text
  fromYaml : Text → Option ConversationSession
  encrypt : (token : Text) → (nonce plaintext : List UInt8) → List UInt8
  decrypt : (token : Text) → (nonce ciphertext : List UInt8) → Option (List UInt8)

namespace SessionCodec

structure Lawful (codec : SessionCodec) : Prop where
  yaml : ∀ session, codec.fromYaml (codec.toYaml session) = some session
  cipher : ∀ token nonce plaintext,
    codec.decrypt token nonce (codec.encrypt token nonce plaintext) = some plaintext
  tagged : ∀ token nonce plaintext, codec.encrypt token nonce plaintext ≠ []

/-- Data encrypted for one token is rejected for another. -/
def Keyed (codec : SessionCodec) : Prop :=
  ∀ token other nonce plaintext, other ≠ token →
    codec.decrypt other nonce (codec.encrypt token nonce plaintext) = none

variable (codec : SessionCodec)

/-- `encrypt_session`: the nonce and the ciphertext behind it. -/
def encryptSession (token : Text) (nonce : Nonce) (plaintext : List UInt8) : List UInt8 :=
  nonce.bytes ++ codec.encrypt token nonce.bytes plaintext

/-- `decrypt_session`. -/
def decryptSession (token : Text) (data : List UInt8) : Option Text :=
  if data.length > 12 then
    (codec.decrypt token (data.take 12) (data.drop 12)).bind Text.fromUtf8
  else
    none

/-- The bytes that `save_session` writes. -/
def sealSession (token : Text) (nonce : Nonce) (session : ConversationSession) : List UInt8 :=
  codec.encryptSession token nonce (codec.toYaml session).bytes

/-- A session as it is read from disk. -/
def readSession (token : Text) (data : List UInt8) : Option ConversationSession :=
  (codec.decryptSession token data).bind codec.fromYaml

variable {codec}

/-- What was sealed is read back. -/
theorem readSession_sealSession (lawful : codec.Lawful) (token : Text) (nonce : Nonce)
    (session : ConversationSession) :
    codec.readSession token (codec.sealSession token nonce session) = some session := by
  have long : (codec.sealSession token nonce session).length > 12 := by
    have positive := List.length_pos_iff.mpr
      (lawful.tagged token nonce.bytes (codec.toYaml session).bytes)
    rw [sealSession, encryptSession, List.length_append, nonce.length_eq]
    omega
  have front : (codec.sealSession token nonce session).take 12 = nonce.bytes :=
    List.take_left' nonce.length_eq
  have behind : (codec.sealSession token nonce session).drop 12 =
      codec.encrypt token nonce.bytes (codec.toYaml session).bytes :=
    List.drop_left' nonce.length_eq
  rw [readSession, decryptSession, if_pos long, front, behind, lawful.cipher, Option.bind_some,
    Text.fromUtf8_bytes, Option.bind_some, lawful.yaml]

theorem readSession_other {codec : SessionCodec} (keyed : codec.Keyed) {token other : Text}
    (differs : other ≠ token) (nonce : Nonce) (session : ConversationSession) :
    codec.readSession other (codec.sealSession token nonce session) = none := by
  have front : (codec.sealSession token nonce session).take 12 = nonce.bytes :=
    List.take_left' nonce.length_eq
  have behind : (codec.sealSession token nonce session).drop 12 =
      codec.encrypt token nonce.bytes (codec.toYaml session).bytes :=
    List.drop_left' nonce.length_eq
  rw [readSession, decryptSession, front, behind, keyed token other _ _ differs]
  split <;> rfl

end SessionCodec

/-- Sessions can be numbered. -/
@[reducible] def sessionEncodable : Encodable ConversationSession :=
  have : Encodable Char := .ofLeftInverse Char.toNat Char.ofNat Char.ofNat_toNat
  .ofLeftInverse
    (fun session : ConversationSession =>
      session.turns.map fun turn => (turn.role, turn.content, turn.timestampMs, turn.runId))
    (fun rows => ⟨rows.map fun row => ⟨row.1, row.2.1, row.2.2.1, row.2.2.2⟩⟩)
    (fun session => by simp [Function.comp_def])

/-- The laws can be met: a session is written as its number in tallies, and
a ciphertext is the plaintext with an empty tag. -/
def sampleCodec : SessionCodec where
  toYaml session := List.replicate (sessionEncodable.encode session) '|'
  fromYaml text := sessionEncodable.decode text.length
  encrypt _ _ plaintext := plaintext ++ List.replicate 16 0
  decrypt _ _ ciphertext := some (ciphertext.take (ciphertext.length - 16))

theorem sampleCodec_lawful : sampleCodec.Lawful where
  yaml session := by
    simp only [sampleCodec, List.length_replicate]
    exact sessionEncodable.encodek session
  cipher token nonce plaintext := by simp [sampleCodec]
  tagged token nonce plaintext := by simp [sampleCodec]

/-- A key in front of data, each of its bytes marked. -/
def lock : List UInt8 → List UInt8
  | [] => [0]
  | byte :: key => 1 :: byte :: lock key

def unlock (key data : List UInt8) : Option (List UInt8) :=
  if lock key <+: data then some (data.drop (lock key).length) else none

theorem eq_of_lock_append {key other data : List UInt8} (starts : lock other <+: lock key ++ data) :
    other = key := by
  induction other generalizing key with
  | nil =>
      cases key with
      | nil => rfl
      | cons byte key => simp [lock] at starts
  | cons byte other inductionHypothesis =>
      cases key with
      | nil => simp [lock] at starts
      | cons byte' key =>
          simp only [lock, List.cons_append, List.cons_prefix_cons, true_and] at starts
          rw [starts.1, inductionHypothesis starts.2]

/-- The laws can be met with keys: the token is locked in front of the data. -/
def keyedCodec : SessionCodec where
  toYaml := sampleCodec.toYaml
  fromYaml := sampleCodec.fromYaml
  encrypt token _ plaintext := lock token.bytes ++ plaintext
  decrypt token _ ciphertext := unlock token.bytes ciphertext

theorem keyedCodec_lawful : keyedCodec.Lawful where
  yaml := sampleCodec_lawful.yaml
  cipher token nonce plaintext := by simp [keyedCodec, unlock]
  tagged token nonce plaintext := by cases bytes : token.bytes <;> simp [keyedCodec, lock, bytes]

theorem keyedCodec_keyed : keyedCodec.Keyed := by
  intro token other nonce plaintext differs
  have rejected : ¬ lock other.bytes <+: lock token.bytes ++ plaintext := by
    intro starts
    exact differs (Text.bytes_injective (eq_of_lock_append starts))
  exact if_neg rejected

/-! ## The store -/

/-- `token_prefix`: a token whose eighth byte is inside a character panics. -/
def tokenPrefix (token : Text) : Option Text :=
  token.sliceTo (min token.len 8)

/-- `conversation_path`. -/
def conversationPath (token : Text) : Option Text :=
  (tokenPrefix token).map (· ++ "/conversation.enc".toList)

/-- The sessions in memory, by token, and the files on disk, by path. -/
structure SessionStore where
  sessions : Text → Option ConversationSession
  disk : Text → Option (List UInt8)

namespace SessionStore

/-- `get_history`. -/
def getHistory (store : SessionStore) (token : Text) : List ConversationTurn :=
  ((store.sessions token).map ConversationSession.turns).getD []

/-- The locked part of `record_message`: the turn is appended, and the
snapshot is the session with it. -/
def appendTurn (store : SessionStore) (token : Text) (turn : ConversationTurn) :
    SessionStore × ConversationSession :=
  let session := ((store.sessions token).getD .new).addTurn turn
  ({ store with sessions := fun other => if other = token then some session else store.sessions other },
    session)

/-- `save_session`. -/
def saveSession (codec : SessionCodec) (store : SessionStore) (token : Text) (nonce : Nonce)
    (session : ConversationSession) : Option SessionStore :=
  (conversationPath token).map fun path =>
    { store with
      disk := fun other =>
        if other = path then some (codec.sealSession token nonce session) else store.disk other }

end SessionStore

theorem getHistory_of_sessions {store : SessionStore} {token : Text} {session : ConversationSession}
    (present : store.sessions token = some session) : store.getHistory token = session.turns := by
  rw [SessionStore.getHistory, present]
  rfl

theorem getHistory_of_absent {store : SessionStore} {token : Text}
    (absent : store.sessions token = none) : store.getHistory token = [] := by
  rw [SessionStore.getHistory, absent]
  rfl

theorem getHistory_appendTurn (store : SessionStore) (token : Text) (turn : ConversationTurn) :
    (store.appendTurn token turn).1.getHistory token = store.getHistory token ++ [turn] ∧
      (store.appendTurn token turn).1.sessions token = some (store.appendTurn token turn).2 ∧
      (store.appendTurn token turn).2.turns = store.getHistory token ++ [turn] := by
  unfold SessionStore.appendTurn SessionStore.getHistory
  cases store.sessions token <;> simp [ConversationSession.addTurn, ConversationSession.new]

theorem getHistory_appendTurn_other (store : SessionStore) {token other : Text} (differs : other ≠ token)
    (turn : ConversationTurn) :
    (store.appendTurn token turn).1.getHistory other = store.getHistory other := by
  simp only [SessionStore.getHistory, SessionStore.appendTurn, if_neg differs]

/-- The file of a token, as it is read. -/
def fileSession (codec : SessionCodec) (store : SessionStore) (token : Text) :
    Option ConversationSession :=
  ((conversationPath token).bind store.disk).bind (codec.readSession token)

/-- What was saved last is what the file holds. -/
theorem fileSession_saved {codec : SessionCodec} (lawful : codec.Lawful) (store : SessionStore)
    {token path : Text} (isPath : conversationPath token = some path) (nonce : Nonce)
    (session : ConversationSession) :
    fileSession codec
      { store with
        disk := fun other =>
          if other = path then some (codec.sealSession token nonce session) else store.disk other }
      token = some session := by
  simp [fileSession, isPath, SessionCodec.readSession_sealSession lawful]

/-- The file of a token holds the session that memory holds. -/
def Persisted (codec : SessionCodec) (store : SessionStore) (token : Text) : Prop :=
  fileSession codec store token = store.sessions token

/-! ## Recording -/

/-- The arguments of one `record_message` call, except for the token. -/
structure RecordCall where
  role : Text
  content : Text
  runId : Option Text
  deriving DecidableEq, Repr

/-- The turn of a call at a time. -/
def RecordCall.turn (call : RecordCall) (now : Nat) : ConversationTurn :=
  ⟨call.role, call.content, now, call.runId⟩

/-- A caller: the calls it has still to make, one after the other, and the
snapshot that the call in progress has still to write. -/
structure Recorder where
  token : Text
  calls : List RecordCall
  snapshot : Option ConversationSession
  deriving DecidableEq, Repr

structure Recording where
  store : SessionStore
  recorders : List Recorder

/-- A step of a recorder: the locked part of its next call, or the write of
its snapshot. -/
inductive RecordStep where
  | append (index now : Nat)
  | save (index : Nat) (nonce : Nonce)

def recording (codec : SessionCodec) : Machine Recording RecordStep where
  step state
    | .append index now =>
        match state.recorders[index]? with
        | some ⟨token, call :: calls, none⟩ =>
            let appended := state.store.appendTurn token (call.turn now)
            some ⟨appended.1, state.recorders.set index ⟨token, calls, some appended.2⟩⟩
        | _ => none
    | .save index nonce =>
        match state.recorders[index]? with
        | some ⟨token, calls, some snapshot⟩ =>
            (state.store.saveSession codec token nonce snapshot).map fun store =>
              ⟨store, state.recorders.set index ⟨token, calls, none⟩⟩
        | _ => none

namespace Recording

/-- All calls have been made and all snapshots are written. -/
def Completed (state : Recording) : Prop :=
  ∀ recorder ∈ state.recorders, recorder.calls = [] ∧ recorder.snapshot = none

end Recording

namespace RecordStep

/-- The recorder that appends in a step. -/
def appender : RecordStep → Option Nat
  | append index _ => some index
  | save _ _ => none

/-- The recorder that saves in a step. -/
def saver : RecordStep → Option Nat
  | append _ _ => none
  | save index _ => some index

end RecordStep

end Agent
end Rabb1tClaw
