/-
Bytes as text in 64 characters: base64 in the alphabet for addresses, without padding.

Three bytes make four characters; one or two bytes at the end make two or three, whose spare bits are
zero. `decode` accepts exactly what `encode` writes: no padding, no character outside the alphabet, no
single character at the end and no spare bit set.
-/
namespace ErrandHub.Base64Url

/-- the character of six bits -/
def digit (n : Nat) : Char :=
  if n < 26 then Char.ofNat ('A'.toNat + n)
  else if n < 52 then Char.ofNat ('a'.toNat + (n - 26))
  else if n < 62 then Char.ofNat ('0'.toNat + (n - 52))
  else if n = 62 then '-'
  else '_'

def value? (c : Char) : Option Nat :=
  if 'A' ≤ c && c ≤ 'Z' then some (c.toNat - 'A'.toNat)
  else if 'a' ≤ c && c ≤ 'z' then some (c.toNat - 'a'.toNat + 26)
  else if '0' ≤ c && c ≤ '9' then some (c.toNat - '0'.toNat + 52)
  else if c = '-' then some 62
  else if c = '_' then some 63
  else none

def encode : List UInt8 → List Char
  | a :: b :: c :: rest =>
    let n := a.toNat * 65536 + b.toNat * 256 + c.toNat
    digit (n / 262144) :: digit (n / 4096 % 64) :: digit (n / 64 % 64) :: digit (n % 64) :: encode rest
  | [a, b] =>
    let n := a.toNat * 1024 + b.toNat * 4
    [digit (n / 4096), digit (n / 64 % 64), digit (n % 64)]
  | [a] =>
    let n := a.toNat * 16
    [digit (n / 64), digit (n % 64)]
  | [] => []

/-- the bytes of groups of six bits -/
def unpack : List Nat → Option (List UInt8)
  | w :: x :: y :: z :: rest => do
    let n := w * 262144 + x * 4096 + y * 64 + z
    let bytes ← unpack rest
    return UInt8.ofNat (n / 65536) :: UInt8.ofNat (n / 256 % 256) :: UInt8.ofNat (n % 256) :: bytes
  | [x, y, z] =>
    let n := x * 4096 + y * 64 + z
    if n % 4 = 0 then some [UInt8.ofNat (n / 1024), UInt8.ofNat (n / 4 % 256)] else none
  | [y, z] =>
    let n := y * 64 + z
    if n % 16 = 0 then some [UInt8.ofNat (n / 16)] else none
  | [_] => none
  | [] => some []

/-- read what `encode` writes -/
def decode (cs : List Char) : Option (List UInt8) := (cs.mapM value?).bind unpack

end ErrandHub.Base64Url
