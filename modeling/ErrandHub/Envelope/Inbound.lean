/-
Envelopes from clients.

A frame is read as a record with a type and, if it likes, a room, a message and data. Whatever else it
says, a sender or a time among it, is skipped: those the hub supplies itself. A frame of a type that
clients have no use for, or of no type at all, is well formed but unknown.
-/
import ErrandHub.Envelope.Kind
import ErrandHub.Json.Record
import ErrandHub.Text.Utf8

namespace ErrandHub

/-- an envelope of a client -/
structure Inbound where
  kind : Kind
  /-- the room reference as it was sent -/
  room : Option Json
  message : Option String
  data : Option Json
  deriving Repr

/-- what a frame says -/
inductive Decoded where
  | envelope (e : Inbound)
  /-- a type that clients do not send, as it was spelled -/
  | unknown (type : String)
  deriving Repr

inductive DecodeError where
  | tooLarge (size limit : Nat)
  | malformed
  deriving DecidableEq, Repr

def DecodeError.message : DecodeError → String
  | .tooLarge size limit =>
    "message exceeds maximum size: len=" ++ toString size ++ " max=" ++ toString limit
  | .malformed => "json decode error"

namespace Inbound

def fieldNames : List String := ["type", "room", "message", "data"]

/-- the message, unless it is missing or blank -/
def text? (e : Inbound) : Option String := e.message.filter fun s => !Text.isBlank s

def ofTree? (t : Json.Tree) : Option Decoded := do
  let fields ← t.fields? fieldNames
  let type ← Json.Tree.required fields "type" Json.Tree.text?
  let room ← Json.Tree.optional fields "room" (Json.Tree.toJson? Json.Tree.levelsInRecord)
  let message ← Json.Tree.optional fields "message" Json.Tree.text?
  let data ← Json.Tree.optional fields "data" (Json.Tree.toJson? Json.Tree.levelsInRecord)
  match Kind.parse? type with
  | some kind => return if kind.fromClient then .envelope ⟨kind, room, message, data⟩ else .unknown type
  | none => return .unknown type

/-- read a text frame of at most so many bytes -/
def decode (limit : Nat) (frame : String) : Except DecodeError Decoded :=
  let size := Utf8.size frame
  if limit < size then .error (.tooLarge size limit)
  else
    match (Json.Tree.ofText? frame).bind ofTree? with
    | some d => .ok d
    | none => .error .malformed

end Inbound
end ErrandHub
