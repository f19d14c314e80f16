/-
Envelopes from the hub.

Every envelope that the hub sends carries the sender and the time that the hub put on it. Its text is an
object with the fields in a fixed order, those without a value left out; reading it back accepts what any
record accepts.
-/
import ErrandHub.Envelope.Kind
import ErrandHub.Identity
import ErrandHub.Json.Printer
import ErrandHub.Json.Record
import ErrandHub.Number.Word
import ErrandHub.Room.Id

namespace ErrandHub

/-- who sent an envelope, as the hub knows them -/
structure Sender where
  id : Identity
  role : Role
  deriving DecidableEq, Repr

/-- an envelope of the hub -/
structure Outbound where
  kind : Kind
  room : Option RoomId
  sender : Sender
  message : Option String
  data : Option Json
  /-- milliseconds since 1970 -/
  timestamp : Int64
  deriving Repr

namespace Sender

def fieldNames : List String := ["id", "role"]

def chars (s : Sender) : List Char :=
  Json.braces [("id", Json.quoted s.id.name), ("role", Json.quoted s.role.name)]

def ofTree? (t : Json.Tree) : Option Sender := do
  let fields ← t.fields? fieldNames
  let id ← Json.Tree.required fields "id" Json.Tree.text?
  let role ← Json.Tree.required fields "role" fun t => t.choice?.bind Role.ofName?
  return ⟨⟨id⟩, role⟩

end Sender

namespace Outbound

def fieldNames : List String := ["type", "room", "sender", "message", "data", "timestamp"]

/-- a written field, if it has a value -/
def field {α : Type} (name : String) (write : α → List Char) (value : Option α) : List (String × List Char) :=
  (value.map fun v => (name, write v)).toList

def fields (e : Outbound) : List (String × List Char) :=
  [("type", Json.quoted e.kind.name)]
    ++ field "room" (fun r : RoomId => Json.quoted r.text) e.room
    ++ [("sender", e.sender.chars)]
    ++ field "message" Json.quoted e.message
    ++ field "data" Json.chars e.data
    ++ [("timestamp", (toString e.timestamp.toInt).toList)]

def text (e : Outbound) : String := String.ofList (Json.braces e.fields)

def ofTree? (t : Json.Tree) : Option Outbound := do
  let fields ← t.fields? fieldNames
  let kind ← Json.Tree.required fields "type" fun t => t.choice?.bind Kind.ofName?
  let room ← Json.Tree.optional fields "room" fun t => t.text?.bind RoomId.ofText?
  let sender ← Json.Tree.required fields "sender" Sender.ofTree?
  let message ← Json.Tree.optional fields "message" Json.Tree.text?
  let data ← Json.Tree.optional fields "data" (Json.Tree.toJson? Json.Tree.levelsInRecord)
  let timestamp ← Json.Tree.required fields "timestamp" fun t => t.integer?.bind Word.signedOfInt?
  return ⟨kind, room, sender, message, data, timestamp⟩

def ofText? (s : String) : Option Outbound := (Json.Tree.ofText? s).bind ofTree?

end Outbound
end ErrandHub
