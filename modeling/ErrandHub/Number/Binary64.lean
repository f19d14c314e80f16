/-
Numbers of 64 bits with a floating point, computed exactly.

A double is kept as its 64 bits: a sign, eleven bits of exponent and 52 of fraction. Its size is
`mantissa * 2 ^ exponent`. Every result is the double nearest to the exact quotient of two natural
numbers, and of two equally near ones the one with an even last bit; nothing is computed by the machine's
own arithmetic.
-/
namespace ErrandHub.Binary64

/-- the size of a double, as `mantissa * 2 ^ exponent` -/
structure Size where
  mantissa : Nat
  exponent : Int
  deriving DecidableEq, Repr

def signBit : Nat := 0x8000000000000000

/-- the bit in front of the fraction -/
def hiddenBit : Nat := 0x10000000000000

def isNegative (bits : UInt64) : Bool := signBit ≤ bits.toNat

/-- the size of a double that is neither infinite nor undefined -/
def size (bits : UInt64) : Size :=
  let biased := bits.toNat / hiddenBit % 2048
  let fraction := bits.toNat % hiddenBit
  if biased = 0 then ⟨fraction, -1074⟩ else ⟨fraction + hiddenBit, Int.ofNat biased - 1075⟩

/-- the bits of infinity; every finite size has fewer -/
def infinity : Nat := 0x7FF * hiddenBit

/-- a quotient rounded to the nearest natural number, a half to the even one -/
def roundDiv (num den : Nat) : Nat :=
  let q := num / den
  let r := num % den
  if 2 * r < den then q else if den < 2 * r then q + 1 else if q % 2 = 0 then q else q + 1

/-- the numerator and denominator of `num / den / 2 ^ e` -/
def scale (num den : Nat) (e : Int) : Nat × Nat :=
  if 0 ≤ e then (num, den * Nat.pow 2 e.toNat) else (num * Nat.pow 2 (-e).toNat, den)

/-- the bits of the size nearest to a quotient, at most those of infinity -/
def ofRatio (num den : Nat) : Nat :=
  if num = 0 then 0
  else
    let guess := max (Int.ofNat num.log2 - Int.ofNat den.log2 - 52) (-1074)
    let (n, d) := scale num den guess
    let e := if n / d < hiddenBit && -1074 < guess then guess - 1 else guess
    let (n, d) := scale num den e
    min (roundDiv n d + (e + 1074).toNat * hiddenBit) infinity

/-- the bits of the size nearest to a natural number -/
def ofNat (n : Nat) : Nat := ofRatio n 1

/-- the bits of the size nearest to the product of two sizes -/
def mul (a b : Size) : Nat :=
  let e := a.exponent + b.exponent
  ofRatio (a.mantissa * b.mantissa * Nat.pow 2 e.toNat) (Nat.pow 2 (-e).toNat)

/-- the bits of the size nearest to the quotient of two sizes -/
def div (a b : Size) : Nat :=
  let e := a.exponent - b.exponent
  ofRatio (a.mantissa * Nat.pow 2 e.toNat) (b.mantissa * Nat.pow 2 (-e).toNat)

def withSign (negative : Bool) (size : Nat) : UInt64 :=
  UInt64.ofNat (if negative then size + signBit else size)

end ErrandHub.Binary64
