/-
Rooms named inside an envelope.

The room of an envelope is any JSON value. A string is sorted like any text, a natural number is a legacy
room, and an object stands for the first of its members `id`, `roomId` and `room_id` that is there and not
null. Objects may be wrapped around one another four deep.
-/
import ErrandHub.Room.Ref
import ErrandHub.Json.Basic

namespace ErrandHub.RoomRef

/-- the members that may hold the reference, the first one first -/
def idNames : List String := ["id", "roomId", "room_id"]

/-- the member of an object that holds the reference -/
def idMember? (members : List (String × Json)) : Option Json :=
  idNames.findSome? fun name => (Json.member? name members).filter fun v => !v.isNull

/-- sort a value around which so many more objects may be wrapped -/
def ofJsonWithin (levels : Nat) : Json → Except RoomError RoomRef
  | .string s => classify s
  | .number (.integer i) => if 0 ≤ i then .ok (.legacy (UInt64.ofNat i.toNat)) else .error (.invalidLegacyId i)
  | .number (.double _) => .error (.unsupported "fractional number")
  | .null => .error (.unsupported "null")
  | .bool _ => .error (.unsupported "boolean")
  | .array _ => .error (.unsupported "array")
  | .object members =>
    match levels with
    | 0 => .error .tooDeep
    | l + 1 =>
      match idMember? members with
      | none => .error .missingIdField
      | some inner => (ofJsonWithin l inner).map .object

def ofJson (v : Json) : Except RoomError RoomRef := ofJsonWithin maxNesting v

def roomOfJson (v : Json) : Except RoomError RoomId :=
  match ofJson v with
  | .ok r => r.room
  | .error e => .error e

end ErrandHub.RoomRef
