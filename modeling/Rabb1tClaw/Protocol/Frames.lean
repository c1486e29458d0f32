import Rabb1tClaw.Agent.Markers
import Rabb1tClaw.Connection.Auth

namespace Rabb1tClaw
namespace Protocol

open Foundations
open Agent (JsonValue)
open Connection (ConnectAuth)

/-!
# Frames of the protocol

The client sends requests, and the gateway sends responses and events.  A
response carries the id of the request that it answers; an event carries none.
The frame that closes the socket stands in the same queue as the others.

`serde` is not part of the repository: what it derives for the incoming types
enters as a `Decoder`.
-/

/-! ## From the client -/

/-- `IncomingFrame::Request`, the only incoming frame. -/
structure IncomingFrame where
  id : Text
  method : Text
  params : Option JsonValue

structure ConnectParams where
  auth : Option ConnectAuth
  deriving DecidableEq, Repr

structure AgentParams where
  message : Text
  idempotencyKey : Text
  deriving DecidableEq, Repr

/-- The derived deserializers.  An error is kept where its text is used. -/
structure Decoder where
  incomingFrame : Text → Except Text IncomingFrame
  connectParams : JsonValue → Option ConnectParams
  agentParams : JsonValue → Except Text AgentParams

/-- The requests of a table, by their text, and the fields of their
parameters. -/
def tableDecoder (requests : List (Text × IncomingFrame)) : Decoder where
  incomingFrame text :=
    match requests.lookup text with
    | some frame => .ok frame
    | none => .error "expected value at line 1 column 1".toList
  connectParams value :=
    some ⟨(value.get "auth".toList).map fun auth =>
      ⟨(auth.get "token".toList).bind JsonValue.asStr⟩⟩
  agentParams value :=
    match (value.get "message".toList).bind JsonValue.asStr,
      (value.get "idempotencyKey".toList).bind JsonValue.asStr with
    | some message, some idempotencyKey => .ok ⟨message, idempotencyKey⟩
    | none, _ => .error "missing field `message`".toList
    | _, none => .error "missing field `idempotencyKey`".toList

/-! ## To the client -/

structure ErrorShape where
  code : Text
  message : Text
  deriving DecidableEq, Repr

namespace ErrorShape

def invalidRequest (message : Text) : ErrorShape := ⟨"INVALID_REQUEST".toList, message⟩

def unauthorized (message : Text) : ErrorShape := ⟨"UNAUTHORIZED".toList, message⟩

def notFound (message : Text) : ErrorShape := ⟨"NOT_FOUND".toList, message⟩

def unavailable (message : Text) : ErrorShape := ⟨"UNAVAILABLE".toList, message⟩

def internal (message : Text) : ErrorShape := ⟨"INTERNAL_ERROR".toList, message⟩

end ErrorShape

/-- `ResponseFrame`: a payload or an error, as `ok` tells. -/
structure ResponseFrame where
  id : Text
  ok : Bool
  payload : Option JsonValue
  error : Option ErrorShape

namespace ResponseFrame

def success (id : Text) (payload : JsonValue) : ResponseFrame := ⟨id, true, some payload, none⟩

def failure (id : Text) (error : ErrorShape) : ResponseFrame := ⟨id, false, none, some error⟩

end ResponseFrame

structure EventFrame where
  event : Text
  payload : Option JsonValue
  seq : Option UInt64

namespace EventFrame

def new (event : Text) : EventFrame := ⟨event, none, none⟩

def withPayload (frame : EventFrame) (payload : JsonValue) : EventFrame :=
  { frame with payload := some payload }

/-- A field of the payload. -/
def field (frame : EventFrame) (key : Text) : Option JsonValue :=
  frame.payload.bind fun payload => payload.get key

end EventFrame

inductive OutgoingFrame where
  | response (frame : ResponseFrame)
  | event (frame : EventFrame)
  | close (code : Nat) (reason : Text)

/-- The response in a frame. -/
def OutgoingFrame.response? : OutgoingFrame → Option ResponseFrame
  | response frame => some frame
  | _ => none

/-- An unsigned number of a payload. -/
def unsigned (value : UInt64) : JsonValue := .number (.posInt value)

end Protocol
end Rabb1tClaw
