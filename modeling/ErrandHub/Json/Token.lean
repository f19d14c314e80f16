/-
The tokens of a JSON text.

A text is read one symbol at a time, where a symbol is a character or, in bytes that are no text, the
absence of one. Such a stray symbol may stand inside a string and nowhere else. Strings are kept in
pieces as they were written, so that it can be decided later whether they spell a text; numerals are
kept digit by digit for the same reason.
-/
import ErrandHub.Text.Basic

namespace ErrandHub.Json

inductive Piece where
  /-- a character, written plainly or by a short escape -/
  | char (c : Char)
  /-- a code unit, written by four hexadecimal digits -/
  | code (unit : Nat)
  /-- bytes that spell no character -/
  | stray
  deriving DecidableEq, Repr

/-- a numeral digit by digit -/
structure Numeral where
  negative : Bool
  whole : List Nat
  /-- the digits after the point; a numeral without a point has none -/
  fraction : List Nat
  /-- the sign and the digits of the exponent -/
  exponent : Option (Bool × List Nat)
  deriving DecidableEq, Repr

inductive Token where
  | openArray
  | closeArray
  | openObject
  | closeObject
  | comma
  | colon
  | null
  | bool (value : Bool)
  | numeral (n : Numeral)
  | string (pieces : List Piece)
  deriving DecidableEq, Repr

namespace Numeral

/-- split the digits off the front of a text -/
def takeDigits (s : List Char) : List Nat × List Char :=
  ((s.takeWhile Text.isDigit).filterMap Text.digit?, s.dropWhile Text.isDigit)

/-- read the part after the mark of an exponent -/
def exponentOf (s : List Char) : Option (Bool × List Nat) :=
  let (negative, s) :=
    match s with
    | '-' :: rest => (true, rest)
    | '+' :: rest => (false, rest)
    | _ => (false, s)
  match takeDigits s with
  | ([], _) => none
  | (ds, []) => some (negative, ds)
  | _ => none

/-- read the part after the fraction: nothing, or an exponent -/
def withExponent (negative : Bool) (whole fraction : List Nat) : List Char → Option Numeral
  | [] => some ⟨negative, whole, fraction, none⟩
  | c :: rest =>
    if c = 'e' || c = 'E' then (exponentOf rest).map fun e => ⟨negative, whole, fraction, some e⟩ else none

/-- read the part after the sign: digits without a spare zero, a fraction, an exponent -/
def unsigned (negative : Bool) (s : List Char) : Option Numeral :=
  match takeDigits s with
  | ([], _) => none
  | (0 :: _ :: _, _) => none
  | (whole, '.' :: rest) =>
    match takeDigits rest with
    | ([], _) => none
    | (fraction, rest) => withExponent negative whole fraction rest
  | (whole, rest) => withExponent negative whole [] rest

def ofChars? : List Char → Option Numeral
  | '-' :: rest => unsigned true rest
  | s => unsigned false s

end Numeral

/-- what the lexer is in the middle of -/
inductive Lexing where
  | between
  | word (read : List Char)
  | numeral (read : List Char)
  | string (read : List Piece)
  | escape (read : List Piece)
  | code (read : List Piece) (missing value : Nat)
  | failed
  deriving Repr

/-- a lexer: the tokens so far, last first, and what it is in the middle of -/
structure Lexer where
  tokens : List Token := []
  lexing : Lexing := .between
  deriving Repr

namespace Lexer

/-- whether a character may stand between tokens -/
def isSpace (c : Char) : Bool := c = ' ' || c = '\t' || c = '\n' || c = '\r'

/-- whether a character belongs to a word -/
def isLetter (c : Char) : Bool := 'a' ≤ c && c ≤ 'z'

def inNumeral (c : Char) : Bool := Text.isDigit c || c = '-' || c = '+' || c = '.' || c = 'e' || c = 'E'

/-- the mark that a character is on its own -/
def mark? (c : Char) : Option Token :=
  if c = '[' then some .openArray
  else if c = ']' then some .closeArray
  else if c = '\x7b' then some .openObject
  else if c = '\x7d' then some .closeObject
  else if c = ',' then some .comma
  else if c = ':' then some .colon
  else none

def word? (w : String) : Option Token :=
  if w = "null" then some .null
  else if w = "true" then some (.bool true)
  else if w = "false" then some (.bool false)
  else none

/-- the character of a short escape -/
def escaped? (c : Char) : Option Char :=
  if c = '"' || c = '\\' || c = '/' then some c
  else if c = 'b' then some '\x08'
  else if c = 'f' then some '\x0c'
  else if c = 'n' then some '\n'
  else if c = 'r' then some '\r'
  else if c = 't' then some '\t'
  else none

def fail (l : Lexer) : Lexer := ⟨l.tokens, .failed⟩

def add (l : Lexer) : Option Token → Lexer
  | some t => ⟨t :: l.tokens, .between⟩
  | none => l.fail

/-- take a symbol between tokens -/
def begin (l : Lexer) : Option Char → Lexer
  | none => l.fail
  | some c =>
    if isSpace c then l
    else if c = '"' then ⟨l.tokens, .string []⟩
    else if isLetter c then ⟨l.tokens, .word [c]⟩
    else if Text.isDigit c || c = '-' then ⟨l.tokens, .numeral [c]⟩
    else l.add (mark? c)

/-- end the word or numeral that the lexer is in the middle of -/
def close (l : Lexer) : Lexer :=
  match l.lexing with
  | .word read => l.add (word? (String.ofList read.reverse))
  | .numeral read => l.add ((Numeral.ofChars? read.reverse).map .numeral)
  | _ => l

/-- take a symbol after a word or numeral -/
def resume (l : Lexer) (s : Option Char) : Lexer :=
  match l.close with
  | ⟨tokens, .between⟩ => begin ⟨tokens, .between⟩ s
  | failed => failed

def step (l : Lexer) (s : Option Char) : Lexer :=
  match l.lexing, s with
  | .failed, _ => l
  | .between, s => l.begin s
  | .word read, s =>
    match s with
    | some c => if isLetter c then ⟨l.tokens, .word (c :: read)⟩ else l.resume s
    | none => l.resume s
  | .numeral read, s =>
    match s with
    | some c => if inNumeral c then ⟨l.tokens, .numeral (c :: read)⟩ else l.resume s
    | none => l.resume s
  | .string read, none => ⟨l.tokens, .string (.stray :: read)⟩
  | .string read, some c =>
    if c = '"' then l.add (some (.string read.reverse))
    else if c = '\\' then ⟨l.tokens, .escape read⟩
    else if c < ' ' then l.fail
    else ⟨l.tokens, .string (.char c :: read)⟩
  | .escape read, some c =>
    if c = 'u' then ⟨l.tokens, .code read 4 0⟩
    else
      match escaped? c with
      | some d => ⟨l.tokens, .string (.char d :: read)⟩
      | none => l.fail
  | .code read missing value, some c =>
    match Text.hexDigit? c with
    | none => l.fail
    | some d =>
      if missing ≤ 1 then ⟨l.tokens, .string (.code (value * 16 + d) :: read)⟩
      else ⟨l.tokens, .code read (missing - 1) (value * 16 + d)⟩
  | .escape _, none => l.fail
  | .code .., none => l.fail

def finish (l : Lexer) : Option (List Token) :=
  match l.close with
  | ⟨tokens, .between⟩ => some tokens.reverse
  | _ => none

end Lexer

def tokens? (symbols : List (Option Char)) : Option (List Token) := (symbols.foldl Lexer.step {}).finish

end ErrandHub.Json
