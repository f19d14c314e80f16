/-
The shortest decimal that reads back as a double.

A decimal with few digits stands for a double when it lies in the interval of the numbers that are
rounded to that double. `shortest` looks at the grids of one digit, two digits and so on up to seventeen:
the first grid with a point in the interval gives the answer, of two points the nearer one, and of two
equally near ones the one with an even last digit. Only the two neighbours of the double on a grid can be
the nearest, so no other point is looked at.
-/
import ErrandHub.Number.Binary64

namespace ErrandHub.Binary64

/-- a decimal `digits * 10 ^ exponent` -/
structure Decimal where
  digits : Nat
  exponent : Int
  deriving DecidableEq, Repr

/-- a decimal as a quotient over a common denominator -/
def Decimal.ratio (d : Decimal) : Nat × Nat :=
  if 0 ≤ d.exponent then (d.digits * Nat.pow 10 d.exponent.toNat, 1)
  else (d.digits, Nat.pow 10 (-d.exponent).toNat)

/-- a number with the interval of numbers that are rounded to it, over one denominator -/
structure Target where
  low : Nat
  value : Nat
  high : Nat
  den : Nat
  /-- whether the ends belong to the interval -/
  closed : Bool

/-- the target of a size -/
def Size.target (s : Size) : Target :=
  let narrow := s.mantissa = hiddenBit && -1074 < s.exponent
  let e := s.exponent - 2
  let f := Nat.pow 2 e.toNat
  ⟨(4 * s.mantissa - if narrow then 1 else 2) * f, 4 * s.mantissa * f, (4 * s.mantissa + 2) * f, Nat.pow 2 (-e).toNat,
    s.mantissa % 2 = 0⟩

/-- whether a decimal lies in the interval -/
def Target.contains (t : Target) (d : Decimal) : Bool :=
  let (n, m) := d.ratio
  let x := n * t.den
  if t.closed then t.low * m ≤ x && x ≤ t.high * m else t.low * m < x && x < t.high * m

/-- whether a power of ten is at most the value -/
def Target.reaches (t : Target) (k : Int) : Bool :=
  let (n, m) := Decimal.ratio ⟨1, k⟩
  n * t.den ≤ t.value * m

/-- the exponent of the highest power of ten that is at most the value -/
def Target.magnitude (t : Target) : Int :=
  let bits := Int.ofNat t.value.log2 - Int.ofNat t.den.log2
  let guess := (bits * 30103).fdiv 100000
  ([guess + 1, guess, guess - 1].find? t.reaches).getD (guess - 2)

/-- the best point of the grid with this last place, if one lies in the interval -/
def Target.onGrid (t : Target) (place : Int) : Option Decimal :=
  let below := (if 0 ≤ place then t.value / (t.den * Nat.pow 10 place.toNat)
    else t.value * Nat.pow 10 (-place).toNat / t.den)
  let down : Decimal := ⟨below, place⟩
  let up : Decimal := ⟨below + 1, place⟩
  match t.contains down, t.contains up with
  | true, false => some down
  | false, true => some up
  | false, false => none
  | true, true =>
    let (n, m) := Decimal.ratio ⟨2 * below + 1, place⟩
    let half := n * t.den
    let value := 2 * t.value * m
    if value < half then some down
    else if half < value then some up
    else if below % 2 = 0 then some down else some up

/-- the shortest decimal that reads back as a size -/
def shortest (s : Size) : Decimal :=
  let t := s.target
  let k := t.magnitude
  ((List.range 17).findSome? fun n => t.onGrid (k - Int.ofNat n)).getD ⟨0, 0⟩

end ErrandHub.Binary64
