/-
Blank characters, and ASCII letters and digits.

A character is blank when Unicode gives it the property White_Space: 25 code points, the line and
paragraph separators and the ideographic space among them, the zero-width characters not. `trim`
drops the blank characters at both ends of a text and keeps those inside. `isBlank` is the test
"nothing is left after trimming", said without `trim`.

Names on the wire are compared without regard to the case of the 26 ASCII letters, and of those
only. Numbers are written in the ASCII digits of base ten or sixteen.
-/
namespace ErrandHub.Text

/-! ## White space -/

/-- the code points with the property White_Space, as closed ranges -/
def blankRanges : List (Nat × Nat) :=
  [(0x09, 0x0D), (0x20, 0x20), (0x85, 0x85), (0xA0, 0xA0), (0x1680, 0x1680), (0x2000, 0x200A),
    (0x2028, 0x2029), (0x202F, 0x202F), (0x205F, 0x205F), (0x3000, 0x3000)]

def isBlankChar (c : Char) : Bool :=
  blankRanges.any fun r => r.1 ≤ c.toNat && c.toNat ≤ r.2

/-- drop the blank characters at both ends -/
def trimChars (s : List Char) : List Char :=
  ((s.dropWhile isBlankChar).reverse.dropWhile isBlankChar).reverse

def trim (s : String) : String := String.ofList (trimChars s.toList)

/-- a text without any character that is not white space -/
def isBlank (s : String) : Bool := s.toList.all isBlankChar

/-- the trimmed text, unless nothing is left of it -/
def trimmed? (s : String) : Option String := if isBlank s then none else some (trim s)

@[simp] theorem toList_trim (s : String) : (trim s).toList = trimChars s.toList := by
  simp [trim]

/-! ## ASCII letters and digits -/

/-- the small form of an ASCII capital, any other character as it is -/
def lowerChar (c : Char) : Char :=
  if 'A' ≤ c && c ≤ 'Z' then Char.ofNat (c.toNat + 32) else c

def lower (s : String) : String := String.ofList (s.toList.map lowerChar)

def digit? (c : Char) : Option Nat :=
  if '0' ≤ c && c ≤ '9' then some (c.toNat - '0'.toNat) else none

def isDigit (c : Char) : Bool := (digit? c).isSome

/-- the value of a hexadecimal digit in either case -/
def hexDigit? (c : Char) : Option Nat :=
  if '0' ≤ c && c ≤ '9' then some (c.toNat - '0'.toNat)
  else if 'a' ≤ c && c ≤ 'f' then some (c.toNat - 'a'.toNat + 10)
  else if 'A' ≤ c && c ≤ 'F' then some (c.toNat - 'A'.toNat + 10)
  else none

/-- the small hexadecimal digit of a value below sixteen -/
def hexDigit (n : Nat) : Char :=
  if n < 10 then Char.ofNat ('0'.toNat + n) else Char.ofNat ('a'.toNat + (n - 10))

/-- read digits of a base from the most significant on -/
def ofDigits (base : Nat) (digits : List Nat) : Nat :=
  digits.foldl (fun n d => n * base + d) 0

/-- the lowest `width` digits of a number in a base, most significant first -/
def toDigits (base : Nat) : (width : Nat) → Nat → List Nat
  | 0, _ => []
  | width + 1, n => toDigits base width (n / base) ++ [n % base]

/-- the hexadecimal digits of a number without leading zeros -/
def hexText (n : Nat) : List Char := Nat.toDigits 16 n

/-- read a text of decimal digits alone; a text without digits is no number -/
def decimal? (s : List Char) : Option Nat :=
  if s.isEmpty then none else (s.mapM digit?).map (ofDigits 10)

end ErrandHub.Text
