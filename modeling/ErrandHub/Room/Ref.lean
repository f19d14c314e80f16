/-
References to rooms, and the rooms they mean.

A client names a room by a short name, by a legacy number, by a free label, by the room id itself, or by
an object wrapped around one of these. Four rooms have a fixed short name and a fixed legacy number.
`RoomRef.classify` sorts a text into one of the first four: a well-known name first, then a text of digits
alone, then any form of a room id, and a label otherwise. `RoomRef.room` reduces a reference to the room it
means.

A label means a room by its hash: the first 16 bytes of a SHA-256 digest, with the version and the
variant of a room id of its kind put in. The version bits lie in the high half, so a label never means
a legacy room.
-/
import ErrandHub.Digest.Sha256
import ErrandHub.Room.Id
import ErrandHub.Text.Utf8

namespace ErrandHub

/-! ## Rooms with a fixed name -/

/-- a room that every client knows by name -/
inductive WellKnownRoom where
  | supportChat
  | orderHelp
  | customQuotes
  | payments
  deriving DecidableEq, Repr

namespace WellKnownRoom

def all : List WellKnownRoom := [.supportChat, .orderHelp, .customQuotes, .payments]

def name : WellKnownRoom → String
  | .supportChat => "support-chat"
  | .orderHelp => "order-help"
  | .customQuotes => "custom-quotes"
  | .payments => "payments"

def legacy : WellKnownRoom → UInt64
  | .supportChat => 1
  | .orderHelp => 2
  | .customQuotes => 3
  | .payments => 4

def room (r : WellKnownRoom) : RoomId := RoomId.ofLegacy r.legacy

/-- the well-known room of a short name, white space around it and ASCII case aside -/
def lookup (s : String) : Option WellKnownRoom :=
  all.find? fun r => r.name == Text.lower (Text.trim s)

end WellKnownRoom

/-! ## References -/

/-- a reference to a room, sorted by its shape -/
inductive RoomRef where
  | wellKnown (room : WellKnownRoom)
  | canonical (text : String)
  | legacy (number : UInt64)
  | label (text : String)
  | object (inner : RoomRef)
  deriving DecidableEq, Repr, Inhabited

inductive RoomError where
  | empty
  | invalidLegacyId (number : Int)
  | legacyOutOfRange (text : String)
  | invalidCanonical (text : String)
  | missingIdField
  | tooDeep
  | unsupported (shape : String)
  | notLegacy (room : RoomId)
  deriving DecidableEq, Repr

namespace RoomRef

/-- the objects that may be wrapped around one another in a reference -/
def maxNesting : Nat := 4

end RoomRef

namespace RoomError

def message : RoomError → String
  | .empty => "empty room reference"
  | .invalidLegacyId n => "legacy room id must be positive, got " ++ toString n
  | .legacyOutOfRange s => "legacy room id out of range: " ++ s
  | .invalidCanonical s => "invalid canonical room id: " ++ s
  | .missingIdField => "structured room reference has no id field"
  | .tooDeep => "structured room reference nested deeper than " ++ toString RoomRef.maxNesting
  | .unsupported shape => "unsupported room reference shape: " ++ shape
  | .notLegacy r => "room " ++ r.text ++ " has no legacy numeric id"

end RoomError

namespace RoomId

/-- the legacy number of a room, or the reason why it has none -/
def toLegacy (r : RoomId) : Except RoomError UInt64 :=
  match r.legacy? with
  | some n => .ok n
  | none => .error (.notLegacy r)

/-- the words that go before a label into its hash -/
def labelDomain : List UInt8 := Utf8.bytes "errand-room-label:"

/-- the room made of the first 16 bytes of a digest, marked as a hashed id -/
def ofDigest (bytes : List UInt8) : RoomId :=
  let marked := (bytes.take 16).zipIdx.map fun bi =>
    if bi.2 = 6 then (bi.1 &&& 0x0f) ||| 0x80
    else if bi.2 = 8 then (bi.1 &&& 0x3f) ||| 0x80
    else bi.1
  ofNat (Text.ofDigits 256 (marked.map UInt8.toNat))

/-- the room of a trimmed label -/
def ofLabel (label : String) : RoomId := ofDigest (Sha256.digest (labelDomain ++ Utf8.bytes label))

end RoomId

namespace RoomRef

/-- sort a trimmed text that is not empty -/
def classifyTrimmed (s : String) : Except RoomError RoomRef :=
  match WellKnownRoom.lookup s with
  | some known => .ok (.wellKnown known)
  | none =>
    match Text.decimal? s.toList with
    | some n => ((Word.ofNat? n).map fun w => .ok (.legacy w)).getD (.error (.legacyOutOfRange s))
    | none => .ok (if (RoomId.ofText? s).isSome then .canonical s else .label s)

/-- sort a text that names a room, white space around it aside -/
def classify (s : String) : Except RoomError RoomRef :=
  match Text.trimmed? s with
  | none => .error .empty
  | some t => classifyTrimmed t

def ofRoom (r : RoomId) : RoomRef := .canonical r.text

/-- the room that a reference means, inside so many objects -/
def roomAt (depth : Nat) : RoomRef → Except RoomError RoomId
  | .wellKnown known => .ok known.room
  | .canonical s =>
    match RoomId.ofText? (Text.trim s) with
    | some r => .ok r
    | none => .error (.invalidCanonical s)
  | .legacy n => if n = 0 then .error (.invalidLegacyId 0) else .ok (.ofLegacy n)
  | .label s =>
    match Text.trimmed? s with
    | some t => .ok (.ofLabel t)
    | none => .error .empty
  | .object inner => if depth < maxNesting then inner.roomAt (depth + 1) else .error .tooDeep

def room (r : RoomRef) : Except RoomError RoomId := r.roomAt 0

def roomOfText (s : String) : Except RoomError RoomId :=
  match classify s with
  | .ok r => r.room
  | .error e => .error e

end RoomRef
end ErrandHub
