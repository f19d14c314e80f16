/-
What a written JSON value means.

A string means a text when its code units pair up; a numeral means an integer of 64 bits when it has
neither fraction nor exponent and fits, and a double otherwise. A value may nest containers only so deep,
and a numeral too great for a double means nothing: `toJson?` gives the value or none. The members of an
object are brought in order, and of several with one name the last counts.

The digits of a numeral are taken as long as they fit in 64 bits, further ones only move the point; the
result is one multiplication or division by a power of ten away from them, two below the least power.
-/
import ErrandHub.Json.Tree
import ErrandHub.Json.Basic
import ErrandHub.Number.Binary64
import ErrandHub.Number.Word

namespace ErrandHub.Json

/-- a text half read: its characters, last first, and a high surrogate that waits for its partner -/
structure Spelling where
  read : List Char := []
  high : Option Nat := none

namespace Spelling

/-- whether a code unit is the first of a pair -/
def isHigh (unit : Nat) : Bool := 0xD800 ≤ unit && unit ≤ 0xDBFF

/-- whether a code unit is the second of a pair -/
def isLow (unit : Nat) : Bool := 0xDC00 ≤ unit && unit ≤ 0xDFFF

def step (s : Spelling) (p : Piece) : Option Spelling :=
  match s.high, p with
  | none, .char c => some ⟨c :: s.read, none⟩
  | none, .code u =>
    if isHigh u then some ⟨s.read, some u⟩
    else if isLow u then none
    else some ⟨Char.ofNat u :: s.read, none⟩
  | some h, .code u =>
    if isLow u then some ⟨Char.ofNat (0x10000 + (h - 0xD800) * 0x400 + (u - 0xDC00)) :: s.read, none⟩ else none
  | _, _ => none

end Spelling

/-- the characters that the pieces of a string spell -/
def spell? (pieces : List Piece) : Option (List Char) :=
  match pieces.foldlM Spelling.step {} with
  | some ⟨read, none⟩ => some read.reverse
  | _ => none

/-- the text that the pieces of a string spell -/
def textOf? (pieces : List Piece) : Option String := (spell? pieces).map String.ofList

namespace Numeral

/-- take digits as long as the number fits in 64 bits -/
def absorb (n : Nat) : List Nat → Nat × List Nat
  | [] => (n, [])
  | d :: ds => if n * 10 + d < UInt64.size then absorb (n * 10 + d) ds else (n, d :: ds)

/-- a size divided by a power of ten, by the greatest one at a time -/
def divideTen (size : Nat) (power : Nat) : Nat :=
  let divide (p : Nat) := Binary64.div (Binary64.size (UInt64.ofNat size)) (Binary64.size (UInt64.ofNat (Binary64.ofNat (Nat.pow 10 p))))
  if power ≤ 308 then divide power
  else if size = 0 then 0
  else divideTen (divide 308) (power - 308)
termination_by power

/-- the size of `significand * 10 ^ exponent`, unless it is too great -/
def sizeOf? (significand : Nat) (exponent : Int) : Option Nat :=
  let size := Binary64.ofNat significand
  if exponent < 0 then some (divideTen size (-exponent).toNat)
  else if 308 < exponent then if size = 0 then some 0 else none
  else
    let product := Binary64.mul (Binary64.size (UInt64.ofNat size))
      (Binary64.size (UInt64.ofNat (Binary64.ofNat (Nat.pow 10 exponent.toNat))))
    if product < Binary64.infinity then some product else none

/-- the greatest exponent that is counted -/
def maxExponent : Nat := 0x7FFFFFFF

/-- the double that a numeral means -/
def double? (n : Numeral) : Option UInt64 :=
  let (significand, wholeLeft) := absorb 0 n.whole
  let (significand, fractionLeft) := absorb significand n.fraction
  let exponent := Int.ofNat wholeLeft.length - Int.ofNat (n.fraction.length - fractionLeft.length)
  let size? :=
    match n.exponent with
    | none => sizeOf? significand exponent
    | some (negative, digits) =>
      let e := Text.ofDigits 10 digits
      if maxExponent < e then if significand = 0 || negative then some 0 else none
      else sizeOf? significand (exponent + if negative then -Int.ofNat e else Int.ofNat e)
  size?.map (Binary64.withSign n.negative)

/-- the integer that a numeral means: without sign below 2^64, with it down to -2^63, and never a negative zero -/
def integer? (n : Numeral) : Option Int :=
  if n.fraction.isEmpty && n.exponent.isNone then
    let value := Text.ofDigits 10 n.whole
    if n.negative then if 0 < value && value ≤ Word.lowest then some (-Int.ofNat value) else none
    else if value < UInt64.size then some (Int.ofNat value) else none
  else none

/-- the number that a numeral means -/
def number? (n : Numeral) : Option Number :=
  match n.integer? with
  | some i => some (.integer i)
  | none => n.double?.map .double

end Numeral

namespace Tree

/-- the containers that may be open at once -/
def maxDepth : Nat := 127

mutual

/-- the value that a written value means, inside which so many containers may be open at once -/
def toJson? (levels : Nat) : Tree → Option Json
  | .null => some .null
  | .bool b => some (.bool b)
  | .numeral n => n.number?.map .number
  | .string pieces => (textOf? pieces).map .string
  | .array items =>
    match levels with
    | 0 => none
    | l + 1 => (items?  l [] items).map .array
  | .object members =>
    match levels with
    | 0 => none
    | l + 1 => (members? l [] members).map fun ms => .object (ofMembers ms)

/-- the values of written items, after those already read, last first -/
def items? (levels : Nat) (read : List Json) : List Tree → Option (List Json)
  | [] => some read.reverse
  | t :: ts =>
    match toJson? levels t with
    | some v => items? levels (v :: read) ts
    | none => none

/-- the members that are written, after those already read, last first -/
def members? (levels : Nat) (read : List (String × Json)) : List (List Piece × Tree) → Option (List (String × Json))
  | [] => some read.reverse
  | (name, t) :: ts =>
    match textOf? name, toJson? levels t with
    | some n, some v => members? levels ((n, v) :: read) ts
    | _, _ => none

end

end Tree

def ofText? (s : String) : Option Json := (Tree.ofText? s).bind (Tree.toJson? Tree.maxDepth)

end ErrandHub.Json
