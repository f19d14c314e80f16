/-
Room ids.

A room is a number of 128 bits. Its text is the number in 32 small hexadecimal digits, cut by hyphens
into groups of 8, 4, 4, 4 and 12. Reading accepts four forms of it, in either case: the bare digits,
the hyphenated text, the hyphenated text in braces, and the hyphenated text after `urn:uuid:`, which may be in either case too.

Legacy rooms are the numbers from 1 to 2^64 - 1: `ofLegacy` embeds such a number in the low half and
`legacy?` takes it out again.
-/
import ErrandHub.Identity
import ErrandHub.Number.Word
import ErrandHub.Text.Hidden

namespace ErrandHub

/-- a room, as a number of 128 bits -/
structure RoomId where
  bits : BitVec 128
  deriving DecidableEq, Repr

namespace RoomId

/-- the room with this number, taken modulo 2^128 -/
def ofNat (n : Nat) : RoomId := ⟨BitVec.ofNat 128 n⟩

def toNat (r : RoomId) : Nat := r.bits.toNat

def digits (r : RoomId) : List Char := (Text.toDigits 16 32 r.toNat).map Text.hexDigit

/-- cut 32 digits into the five groups of the written form -/
def hyphenate (ds : List Char) : List Char :=
  ds.take 8 ++ '-' :: (ds.drop 8).take 4 ++ '-' :: (ds.drop 12).take 4 ++ '-' :: (ds.drop 16).take 4
    ++ '-' :: ds.drop 20

def chars (r : RoomId) : List Char := hyphenate r.digits

def text (r : RoomId) : String := String.ofList r.chars

def ofDigits? (cs : List Char) : Option RoomId :=
  if cs.length = 32 then (cs.mapM Text.hexDigit?).map fun ds => ofNat (Text.ofDigits 16 ds) else none

def ofHyphenated? (cs : List Char) : Option RoomId :=
  let ds := cs.take 8 ++ (cs.drop 9).take 4 ++ (cs.drop 14).take 4 ++ (cs.drop 19).take 4 ++ cs.drop 24
  if hyphenate ds = cs then ofDigits? ds else none

/-- the words that may stand before the hyphenated form -/
def urn : List Char := "urn:uuid:".toList

/-- read any of the four forms of a room id -/
def ofChars? (cs : List Char) : Option RoomId :=
  if cs.length = 45 then
    if (cs.take 9).map Text.lowerChar = urn then ofHyphenated? (cs.drop 9) else none
  else if cs.length = 38 then
    if cs.head? = some '\x7b' && cs.getLast? = some '\x7d' then ofHyphenated? (cs.drop 1).dropLast else none
  else if cs.length = 36 then ofHyphenated? cs
  else ofDigits? cs

/-- read any form of a room id from a text without white space around it -/
def ofText? (s : String) : Option RoomId := ofChars? s.toList

/-- read a room id, white space around it aside -/
def parse (s : String) : Except IdError RoomId :=
  match Text.trimmed? s with
  | none => .error .empty
  | some t =>
    match ofText? t with
    | some r => .ok r
    | none => .error (.invalidFormat ("expected canonical room id, got " ++ Text.quote t))

/-- the room of a legacy number, in the low half of the id -/
def ofLegacy (n : UInt64) : RoomId := ofNat n.toNat

/-- the legacy number of a room that has one -/
def legacy? (r : RoomId) : Option UInt64 :=
  if 0 < r.toNat then Word.ofNat? r.toNat else none

end RoomId
end ErrandHub
