/-
JSON values as text.

The text is compact: no space between tokens. A string is escaped where it must be and nowhere else. A
double is written in the fewest digits that read back, plainly between a hundred-thousandth and ten
quadrillions and with an exponent outside, always with a point or an exponent to tell it from an integer.
-/
import ErrandHub.Json.Basic
import ErrandHub.Number.Shortest
import ErrandHub.Text.Basic

namespace ErrandHub

namespace Binary64

/-- exponents of the first digit that are written plainly, from the first to before the second -/
def plainRange : Int × Int := (-5, 16)

/-- digits with a point after so many of them, or zeros where there are too few -/
def plain (digits : List Char) (first : Int) : List Char :=
  if first < 0 then '0' :: '.' :: List.replicate (-first - 1).toNat '0' ++ digits
  else
    let n := first.toNat + 1
    let whole := digits.take n ++ List.replicate (n - digits.length) '0'
    let rest := digits.drop n
    whole ++ '.' :: if rest.isEmpty then ['0'] else rest

/-- digits with a point after the first and an exponent -/
def scientific (digits : List Char) (first : Int) : List Char :=
  let rest := digits.drop 1
  digits.take 1 ++ (if rest.isEmpty then [] else '.' :: rest) ++ 'e' :: (if first < 0 then '-' else '+') ::
    (toString first.natAbs).toList

def dropZeros (digits : List Char) : List Char := (digits.reverse.dropWhile (· = '0')).reverse

def chars (bits : UInt64) : List Char :=
  let s := size bits
  let sign := if isNegative bits then ['-'] else []
  if s.mantissa = 0 then sign ++ ['0', '.', '0']
  else
    let d := shortest s
    let all := (toString d.digits).toList
    let first := d.exponent + Int.ofNat all.length - 1
    let digits := dropZeros all
    sign ++ if plainRange.1 ≤ first && first < plainRange.2 then plain digits first else scientific digits first

end Binary64

def Number.chars : Number → List Char
  | .integer i => (toString i).toList
  | .double bits => Binary64.chars bits

namespace Json

def escape (c : Char) : List Char :=
  if c = '"' then ['\\', '"']
  else if c = '\\' then ['\\', '\\']
  else if c = '\x08' then ['\\', 'b']
  else if c = '\x0c' then ['\\', 'f']
  else if c = '\n' then ['\\', 'n']
  else if c = '\r' then ['\\', 'r']
  else if c = '\t' then ['\\', 't']
  else if c < ' ' then '\\' :: 'u' :: (Text.toDigits 16 4 c.toNat).map Text.hexDigit
  else [c]

/-- a written string -/
def quoted (s : String) : List Char := '"' :: s.toList.flatMap escape ++ ['"']

def commas : List (List Char) → List Char
  | [] => []
  | [p] => p
  | p :: rest => p ++ ',' :: commas rest

/-- written members in braces -/
def braces (members : List (String × List Char)) : List Char :=
  '\x7b' :: commas (members.map fun m => quoted m.1 ++ ':' :: m.2) ++ ['\x7d']

mutual

def chars : Json → List Char
  | .null => "null".toList
  | .bool b => if b then "true".toList else "false".toList
  | .number n => n.chars
  | .string s => quoted s
  | .array items => '[' :: commas (itemChars items) ++ [']']
  | .object members => braces (memberChars members)

def itemChars : List Json → List (List Char)
  | [] => []
  | v :: vs => chars v :: itemChars vs

def memberChars : List (String × Json) → List (String × List Char)
  | [] => []
  | (name, v) :: ms => (name, chars v) :: memberChars ms

end

def text (v : Json) : String := String.ofList v.chars

end Json
end ErrandHub
