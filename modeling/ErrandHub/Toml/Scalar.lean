/-
Numbers, truth values and dates of a TOML document.

A scalar is a run of characters without quotes. An integer has 64 bits and is written in base ten with a sign,
or in base sixteen, eight or two after a mark and without one; single underscores may stand between digits. Of
a float and of a date only the form is checked and that it exists: a float must be finite unless it is written
`inf` or `nan`, a day must be in its month.
-/
import ErrandHub.Number.Binary64
import ErrandHub.Number.Word
import ErrandHub.Text.Basic
import ErrandHub.Toml.Value

namespace ErrandHub.Toml

/-- the digits of a base with single underscores between them -/
def digits? (base : Nat) (s : List Char) : Option (List Nat) :=
  let rec go (afterDigit : Bool) : List Char → Option (List Nat)
    | [] => if afterDigit then some [] else none
    | c :: rest =>
      if c = '_' then if afterDigit then go false rest else none
      else
        match Text.hexDigit? c with
        | some d => if d < base then (go true rest).map (d :: ·) else none
        | none => none
  go false s

/-- split a sign off -/
def sign : List Char → Option Bool × List Char
  | '-' :: rest => (some true, rest)
  | '+' :: rest => (some false, rest)
  | s => (none, s)

/-- digits of base ten without a spare zero in front -/
def decimalDigits? (s : List Char) : Option (List Nat) :=
  match digits? 10 s with
  | some (0 :: _ :: _) => none
  | ds => ds

/-- an integer that fits in 64 bits -/
def fitting (i : Int) : Option Value := if Word.isSigned i then some (.integer i) else none

def integer? (s : List Char) : Option Value :=
  match s with
  | '0' :: 'x' :: rest => (digits? 16 rest).bind fun ds => fitting (Int.ofNat (Text.ofDigits 16 ds))
  | '0' :: 'o' :: rest => (digits? 8 rest).bind fun ds => fitting (Int.ofNat (Text.ofDigits 8 ds))
  | '0' :: 'b' :: rest => (digits? 2 rest).bind fun ds => fitting (Int.ofNat (Text.ofDigits 2 ds))
  | _ =>
    let (negative, rest) := sign s
    (decimalDigits? rest).bind fun ds =>
      let n := Int.ofNat (Text.ofDigits 10 ds)
      fitting (if negative = some true then -n else n)

/-- whether `digits * 10 ^ exponent` is a finite double -/
def isFinite (digits : List Nat) (exponent : Int) : Bool :=
  let n := Text.ofDigits 10 digits
  let size := Int.ofNat digits.length + exponent
  if n = 0 || size < 300 then true
  else if 400 < Int.ofNat (Nat.toDigits 10 n).length + exponent then false
  else Binary64.ofRatio (n * Nat.pow 10 exponent.toNat) (Nat.pow 10 (-exponent).toNat) < Binary64.infinity

/-- the exponent at the end of a float, zero if there is none -/
def exponent? : List Char → Option Int
  | [] => some 0
  | c :: rest =>
    if c = 'e' || c = 'E' then
      let (negative, rest) := sign rest
      (digits? 10 rest).map fun ds =>
        let n := Int.ofNat (Text.ofDigits 10 ds)
        if negative = some true then -n else n
    else none

def isExponentMark (c : Char) : Bool := c = 'e' || c = 'E'

def float? (s : List Char) : Option Value :=
  let (_, s) := sign s
  if s = ['i', 'n', 'f'] || s = ['n', 'a', 'n'] then some .float
  else
    let mantissa := s.takeWhile fun c => !isExponentMark c
    let rest := s.dropWhile fun c => !isExponentMark c
    let whole := mantissa.takeWhile (· ≠ '.')
    match decimalDigits? whole, mantissa.dropWhile (· ≠ '.'), exponent? rest with
    | some ds, [], some e => if rest.isEmpty then none else if isFinite ds e then some .float else none
    | some ds, _ :: fraction, some e =>
      match digits? 10 fraction with
      | some fs => if isFinite (ds ++ fs) (e - Int.ofNat fs.length) then some .float else none
      | none => none
    | _, _, _ => none

/-- the number of exactly so many digits -/
def field? (width : Nat) (s : List Char) : Option Nat :=
  if s.length = width then Text.decimal? s else none

/-- the days of a month -/
def daysIn (year month : Nat) : Nat :=
  if month = 2 then if year % 4 = 0 && (year % 100 ≠ 0 || year % 400 = 0) then 29 else 28
  else if month = 4 || month = 6 || month = 9 || month = 11 then 30
  else 31

def isDate (s : List Char) : Bool :=
  match field? 4 (s.take 4), field? 2 ((s.drop 5).take 2), field? 2 (s.drop 8) with
  | some year, some month, some day =>
    s[4]? = some '-' && s[7]? = some '-' && 1 ≤ month && month ≤ 12 && 1 ≤ day && day ≤ daysIn year month
  | _, _, _ => false

def isHourMinute (s : List Char) : Bool :=
  match field? 2 (s.take 2), field? 2 (s.drop 3) with
  | some hour, some minute => s[2]? = some ':' && hour ≤ 23 && minute ≤ 59
  | _, _ => false

/-- whether characters are the seconds of a time, which may be missing and may have a fraction -/
def isSeconds (s : List Char) : Bool :=
  match s with
  | [] => true
  | ':' :: rest =>
    let fraction := rest.drop 2
    (match field? 2 (rest.take 2) with | some n => n ≤ 60 | none => false)
      && (fraction.isEmpty
        || (fraction.head? = some '.' && 1 < fraction.length && (fraction.drop 1).all Text.isDigit))
  | _ => false

def isTime (s : List Char) : Bool := isHourMinute (s.take 5) && isSeconds (s.drop 5)

def isOffset (s : List Char) : Bool :=
  match s with
  | [] => true
  | [c] => c = 'Z' || c = 'z'
  | c :: rest => (c = '+' || c = '-') && isHourMinute rest

/-- whether a character starts an offset -/
def isOffsetMark (c : Char) : Bool := c = 'Z' || c = 'z' || c = '+' || c = '-'

/-- whether a character may stand between a date and a time -/
def isTimeMark (c : Char) : Bool := c = 'T' || c = 't' || c = ' '

def datetime? (s : List Char) : Option Value :=
  let time := s.drop 11
  let withDate := isDate (s.take 10)
    && (s.length = 10 || (((s[10]?).elim false isTimeMark) && isTime (time.takeWhile fun c => !isOffsetMark c)
      && isOffset (time.dropWhile fun c => !isOffsetMark c)))
  if withDate || isTime s then some .datetime else none

def scalar? (s : List Char) : Option Value :=
  if s = "true".toList then some (.bool true)
  else if s = "false".toList then some (.bool false)
  else (integer? s).orElse fun _ => (float? s).orElse fun _ => datetime? s

end ErrandHub.Toml
