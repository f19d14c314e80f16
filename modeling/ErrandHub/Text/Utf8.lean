/-
Characters as bytes.

`encode` writes characters in UTF-8. `decode` reads any bytes at all: it gives each character that
they spell, and `none` for each longest run of bytes that starts a character and breaks off, or for a
byte that starts none. The reader is a machine that takes one byte at a time and remembers the
character it is in the middle of.
-/
namespace ErrandHub.Utf8

/-- the bytes of one character -/
def encodeChar (c : Char) : List UInt8 :=
  let n := c.toNat
  if n < 0x80 then [UInt8.ofNat n]
  else if n < 0x800 then [UInt8.ofNat (0xC0 + n / 64), UInt8.ofNat (0x80 + n % 64)]
  else if n < 0x10000 then
    [UInt8.ofNat (0xE0 + n / 4096), UInt8.ofNat (0x80 + n / 64 % 64), UInt8.ofNat (0x80 + n % 64)]
  else
    [UInt8.ofNat (0xF0 + n / 262144), UInt8.ofNat (0x80 + n / 4096 % 64), UInt8.ofNat (0x80 + n / 64 % 64),
      UInt8.ofNat (0x80 + n % 64)]

def encode (cs : List Char) : List UInt8 := cs.flatMap encodeChar

def bytes (s : String) : List UInt8 := encode s.toList

/-- how many bytes a text takes -/
def size (s : String) : Nat := s.toList.foldl (fun n c => n + (encodeChar c).length) 0

/-- a character in the middle: its bits so far, the bytes to come, and the bounds of the next one -/
structure Pending where
  value : Nat
  missing : Nat
  low : Nat
  high : Nat

/-- a reader: what has been read, last first, and the character in the middle -/
structure Reader where
  read : List (Option Char) := []
  pending : Option Pending := none

namespace Reader

/-- take the first byte of a character -/
def start (r : Reader) (b : Nat) : Reader :=
  if b < 0x80 then ⟨some (Char.ofNat b) :: r.read, none⟩
  else if b < 0xC2 then ⟨none :: r.read, none⟩
  else if b < 0xE0 then ⟨r.read, some ⟨b - 0xC0, 1, 0x80, 0xBF⟩⟩
  else if b < 0xF0 then
    ⟨r.read, some ⟨b - 0xE0, 2, if b = 0xE0 then 0xA0 else 0x80, if b = 0xED then 0x9F else 0xBF⟩⟩
  else if b < 0xF5 then
    ⟨r.read, some ⟨b - 0xF0, 3, if b = 0xF0 then 0x90 else 0x80, if b = 0xF4 then 0x8F else 0xBF⟩⟩
  else ⟨none :: r.read, none⟩

def step (r : Reader) (byte : UInt8) : Reader :=
  let b := byte.toNat
  match r.pending with
  | none => r.start b
  | some p =>
    if p.low ≤ b && b ≤ p.high then
      let value := p.value * 64 + b % 64
      if p.missing ≤ 1 then ⟨some (Char.ofNat value) :: r.read, none⟩
      else ⟨r.read, some ⟨value, p.missing - 1, 0x80, 0xBF⟩⟩
    else start ⟨none :: r.read, none⟩ b

/-- what has been read once no byte follows -/
def finish (r : Reader) : List (Option Char) :=
  match r.pending with
  | none => r.read.reverse
  | some _ => (none :: r.read).reverse

end Reader

/-- the characters that bytes spell, and `none` where they spell none -/
def decode (bs : List UInt8) : List (Option Char) := (bs.foldl Reader.step {}).finish

/-- read bytes that spell characters and nothing else -/
def decode? (bs : List UInt8) : Option (List Char) := (decode bs).mapM id

/-- read bytes, with the replacement character where they spell none -/
def decodeLossy (bs : List UInt8) : List Char := (decode bs).map fun c => c.getD '\uFFFD'

end ErrandHub.Utf8
