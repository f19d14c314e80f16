/-
Texts and keys of a TOML document.

A text stands between double quotes, where backslashes escape, or between single quotes, where they do not; with
three quotes it may run over several lines. No text holds a control character except tabs and, over several
lines, line ends. A key is a run of plain characters or a text on one line, or several of these with dots
between.
-/
import ErrandHub.Text.Basic

namespace ErrandHub.Toml

/-- what has been read, and what is left -/
abbrev Read (α : Type) := Option (α × List Char)

/-- whether a character may not stand in a document outside of line ends -/
def isControl (c : Char) : Bool := (c < ' ' && c ≠ '\t') || c = '\x7f'

/-- the character of a code point in hexadecimal digits -/
def scalarOf? (digits : List Char) : Option Char :=
  (digits.mapM Text.hexDigit?).bind fun ds =>
    let n := Text.ofDigits 16 ds
    if n < 0xD800 || (0xDFFF < n && n < 0x110000) then some (Char.ofNat n) else none

/-- the character of a short escape -/
def shortEscape? (c : Char) : Option Char :=
  if c = 'b' then some '\x08'
  else if c = 't' then some '\t'
  else if c = 'n' then some '\n'
  else if c = 'f' then some '\x0c'
  else if c = 'r' then some '\r'
  else if c = 'e' then some '\x1b'
  else if c = '"' || c = '\\' then some c
  else none

/-- read an escape after its backslash -/
def escape? (s : List Char) : Read Char :=
  let hex (width : Nat) (rest : List Char) : Read Char :=
    if (rest.take width).length = width then (scalarOf? (rest.take width)).map (·, rest.drop width) else none
  match s with
  | [] => none
  | c :: rest =>
    if c = 'x' then hex 2 rest
    else if c = 'u' then hex 4 rest
    else if c = 'U' then hex 8 rest
    else (shortEscape? c).map (·, rest)

/-- a line end at the front -/
def lineEnd? : List Char → Option (List Char)
  | '\n' :: rest => some rest
  | '\r' :: '\n' :: rest => some rest
  | _ => none

/-- drop the line end that may follow opening quotes -/
def dropLineEnd (s : List Char) : List Char := (lineEnd? s).getD s

/-- whether a character separates words on a line -/
def isSpace (c : Char) : Bool := c = ' ' || c = '\t'

def dropSpaces (s : List Char) : List Char := s.dropWhile isSpace

/-- drop spaces and line ends at the front, in so many steps at most -/
def dropBlankLines : (fuel : Nat) → List Char → List Char
  | 0, s => s
  | fuel + 1, s =>
    match lineEnd? (dropSpaces s) with
    | some rest => dropBlankLines fuel rest
    | none => dropSpaces s

/-- read the rest of a text between double quotes on one line -/
def basic : (fuel : Nat) → (read : List Char) → List Char → Read String
  | 0, _, _ => none
  | _, _, [] => none
  | fuel + 1, read, c :: rest =>
    if c = '"' then some (String.ofList read.reverse, rest)
    else if c = '\\' then (escape? rest).bind fun (e, rest) => basic fuel (e :: read) rest
    else if isControl c then none
    else basic fuel (c :: read) rest

/-- read the rest of a text between single quotes on one line -/
def literal (s : List Char) : Read String :=
  let body := s.takeWhile (· ≠ '\'')
  match s.dropWhile (· ≠ '\'') with
  | [] => none
  | _ :: rest => if body.any isControl then none else some (String.ofList body, rest)

/-- the end of a text over several lines: three quotes, before which one or two may belong to the text -/
def closing? (quote : Char) (s : List Char) : Read (List Char) :=
  let n := (s.takeWhile (· = quote)).length
  if 3 ≤ n then
    let extra := min (n - 3) 2
    some (List.replicate extra quote, s.drop (extra + 3))
  else none

/-- read the rest of a text between three double quotes -/
def basicLines : (fuel : Nat) → (read : List Char) → List Char → Read String
  | 0, _, _ => none
  | _, _, [] => none
  | fuel + 1, read, c :: rest =>
    match closing? '"' (c :: rest) with
    | some (extra, rest) => some (String.ofList (read.reverse ++ extra), rest)
    | none =>
      if c = '\\' then
        if (lineEnd? (dropSpaces rest)).isSome then basicLines fuel read (dropBlankLines fuel rest)
        else (escape? rest).bind fun (e, rest) => basicLines fuel (e :: read) rest
      else
        match lineEnd? (c :: rest) with
        | some rest => basicLines fuel ((if c = '\r' then ['\n', '\r'] else ['\n']) ++ read) rest
        | none => if isControl c then none else basicLines fuel (c :: read) rest

/-- read the rest of a text between three single quotes -/
def literalLines : (fuel : Nat) → (read : List Char) → List Char → Read String
  | 0, _, _ => none
  | _, _, [] => none
  | fuel + 1, read, c :: rest =>
    match closing? '\'' (c :: rest) with
    | some (extra, rest) => some (String.ofList (read.reverse ++ extra), rest)
    | none =>
      match lineEnd? (c :: rest) with
      | some rest => literalLines fuel ((if c = '\r' then ['\n', '\r'] else ['\n']) ++ read) rest
      | none => if isControl c then none else literalLines fuel (c :: read) rest

def text? (s : List Char) : Option (Read String) :=
  match s with
  | '"' :: '"' :: '"' :: rest => some (basicLines (rest.length + 1) [] (dropLineEnd rest))
  | '\'' :: '\'' :: '\'' :: rest => some (literalLines (rest.length + 1) [] (dropLineEnd rest))
  | '"' :: rest => some (basic (rest.length + 1) [] rest)
  | '\'' :: rest => some (literal rest)
  | _ => none

/-- whether a character may stand in a key without quotes -/
def isBare (c : Char) : Bool :=
  ('a' ≤ c && c ≤ 'z') || ('A' ≤ c && c ≤ 'Z') || Text.isDigit c || c = '_' || c = '-'

def keyPart (s : List Char) : Read String :=
  match s with
  | '"' :: rest => basic (s.length + 1) [] rest
  | '\'' :: rest => literal rest
  | _ => if (s.takeWhile isBare).isEmpty then none else some (String.ofList (s.takeWhile isBare), s.dropWhile isBare)

/-- read a key, a part at a time, after the parts already read, last first -/
def key : (fuel : Nat) → (read : List String) → List Char → Read (List String)
  | 0, _, _ => none
  | fuel + 1, read, s =>
    (keyPart (dropSpaces s)).bind fun (part, rest) =>
      match dropSpaces rest with
      | '.' :: rest => key fuel (part :: read) rest
      | rest => some ((part :: read).reverse, rest)

/-- read a key with the spaces around it -/
def key? (s : List Char) : Read (List String) := key (s.length + 1) [] s

end ErrandHub.Toml
