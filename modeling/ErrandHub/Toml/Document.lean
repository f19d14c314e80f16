/-
TOML documents.

A document is a sequence of lines: headers, members and blank ones. `read` gives the members of the root table,
or none if the text is no document. Arrays and inline tables may nest 80 deep; within them lines may end and
comments stand wherever a space may, and a comma may follow the last element.
-/
import ErrandHub.Toml.Quoted
import ErrandHub.Toml.Scalar

namespace ErrandHub.Toml

/-- the arrays and inline tables that may be open at once -/
def maxDepth : Nat := 80

/-- drop spaces, comments and line ends at the front; a comment ends with its line -/
def dropFiller (inComment : Bool) : List Char → Option (List Char)
  | [] => some []
  | '\n' :: rest => dropFiller false rest
  | '\r' :: '\n' :: rest => dropFiller false rest
  | c :: rest =>
    if inComment then if isControl c then none else dropFiller true rest
    else if c = '#' then dropFiller true rest
    else if isSpace c then dropFiller false rest
    else some (c :: rest)

/-- whether nothing but spaces and a comment is left on a line -/
def endsLine (s : List Char) : Bool :=
  match dropSpaces s with
  | [] => true
  | c :: rest => c = '#' || (lineEnd? (c :: rest)).isSome

def inScalar (c : Char) : Bool := isBare c || c = '+' || c = '.' || c = ':'

/-- read a scalar; a date may have a space before its time -/
def scalar (s : List Char) : Read Value :=
  let word := s.takeWhile inScalar
  let rest := s.dropWhile inScalar
  match isDate word, rest with
  | true, ' ' :: c :: more =>
    if Text.isDigit c then
      (scalar? (word ++ ' ' :: (c :: more).takeWhile inScalar)).map (·, (c :: more).dropWhile inScalar)
    else (scalar? word).map (·, rest)
  | _, _ => (scalar? word).map (·, rest)

mutual

/-- read a value inside which so many containers may be opened -/
def value (levels : Nat) : (fuel : Nat) → List Char → Read Value
  | 0, _ => none
  | fuel + 1, s =>
    match text? s with
    | some r => r.map fun (t, rest) => (.string t, rest)
    | none =>
      match s, levels with
      | '[' :: rest, l + 1 => array l fuel [] rest
      | '\x7b' :: rest, l + 1 => inlineTable l fuel [] rest
      | '[' :: _, 0 => none
      | '\x7b' :: _, 0 => none
      | _, _ => scalar s

/-- read the rest of an array after the items already read, last first -/
def array (levels : Nat) : (fuel : Nat) → (read : List Value) → List Char → Read Value
  | 0, _, _ => none
  | fuel + 1, read, s =>
    (dropFiller false s).bind fun s =>
      match s with
      | ']' :: rest => some (.array read.reverse, rest)
      | _ =>
        (value levels fuel s).bind fun (v, rest) =>
          (dropFiller false rest).bind fun rest =>
            match rest with
            | ',' :: rest => array levels fuel (v :: read) rest
            | ']' :: rest => some (.array (v :: read).reverse, rest)
            | _ => none

/-- read the rest of an inline table after the members already read -/
def inlineTable (levels : Nat) : (fuel : Nat) → (read : Members) → List Char → Read Value
  | 0, _, _ => none
  | fuel + 1, read, s =>
    (dropFiller false s).bind fun s =>
      match s with
      | '\x7d' :: rest => some (.table .inline read, rest)
      | _ =>
        (key? s).bind fun (k, rest) =>
          match rest with
          | '=' :: rest =>
            (value levels fuel (dropSpaces rest)).bind fun (v, rest) =>
              (assign [] k v .inline read).bind fun read =>
                (dropFiller false rest).bind fun rest =>
                  match rest with
                  | ',' :: rest => inlineTable levels fuel read rest
                  | '\x7d' :: rest => some (.table .inline read, rest)
                  | _ => none
          | _ => none

end

/-- a document half read: the members of the root, and the header that is in force -/
structure Document where
  members : Members := []
  path : List String := []

namespace Document

/-- read a member of the table whose header is in force -/
def member (d : Document) (s : List Char) : Read Document :=
  (key? s).bind fun (k, rest) =>
    match rest with
    | '=' :: rest =>
      (value maxDepth (2 * rest.length + 2) (dropSpaces rest)).bind fun (v, rest) =>
        (assign d.path k v .header d.members).map fun ms => (⟨ms, d.path⟩, rest)
    | _ => none

/-- read a header after its opening brackets -/
def header (d : Document) (repeated : Bool) (s : List Char) : Read Document :=
  (key? s).bind fun (k, rest) =>
    let closed :=
      match repeated, rest with
      | false, ']' :: rest => some rest
      | true, ']' :: ']' :: rest => some rest
      | _, _ => none
    closed.bind fun rest => (openHeader repeated k d.members).map fun ms => (⟨ms, k⟩, rest)

def line (d : Document) (s : List Char) : Read Document :=
  match s with
  | '[' :: '[' :: rest => d.header true rest
  | '[' :: rest => d.header false rest
  | _ => d.member s

/-- read lines, so many at most -/
def lines : (fuel : Nat) → Document → List Char → Option Document
  | 0, _, _ => none
  | fuel + 1, d, s =>
    (dropFiller false s).bind fun s =>
      if s.isEmpty then some d
      else
        (d.line s).bind fun (d, rest) => if endsLine rest then lines fuel d rest else none

end Document

/-- the members of a document, which may start with a byte order mark -/
def read (s : List Char) : Option Members :=
  let s := if s.head? = some '\uFEFF' then s.drop 1 else s
  (Document.lines (s.length + 1) {} s).map Document.members

end ErrandHub.Toml
