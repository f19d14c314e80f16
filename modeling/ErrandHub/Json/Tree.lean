/-
A JSON text as it was written.

`Tree` keeps the members of an object in the order and number in which they stand, strings in pieces and
numerals digit by digit: it says that a text is well formed and leaves open what its parts mean. The
reader keeps the containers that are still open in a list of its own, so that texts nested to any depth
can be read.
-/
import ErrandHub.Json.Token

namespace ErrandHub.Json

/-- a value as it was written -/
inductive Tree where
  | null
  | bool (value : Bool)
  | numeral (n : Numeral)
  | string (pieces : List Piece)
  | array (items : List Tree)
  | object (members : List (List Piece × Tree))
  deriving Repr, Inhabited

/-- a container that is still open, its contents last first -/
inductive Frame where
  | array (items : List Tree)
  | object (members : List (List Piece × Tree))
  /-- an object whose last name still lacks its value -/
  | member (members : List (List Piece × Tree)) (name : List Piece)

/-- what must come next in the innermost open container -/
inductive Expected where
  | value
  | firstItem
  | firstName
  | name
  | colon
  | commaOrEnd
  deriving DecidableEq

inductive Builder where
  | building (expected : Expected) (frames : List Frame)
  | complete (tree : Tree)
  | failed

namespace Builder

/-- put a value where one was expected -/
def put (t : Tree) : List Frame → Builder
  | [] => .complete t
  | .array items :: frames => .building .commaOrEnd (.array (t :: items) :: frames)
  | .member members name :: frames => .building .commaOrEnd (.object ((name, t) :: members) :: frames)
  | .object _ :: _ => .failed

/-- take a token where a value is expected -/
def value (frames : List Frame) : Token → Builder
  | .null => put .null frames
  | .bool b => put (.bool b) frames
  | .numeral n => put (.numeral n) frames
  | .string pieces => put (.string pieces) frames
  | .openArray => .building .firstItem (.array [] :: frames)
  | .openObject => .building .firstName (.object [] :: frames)
  | _ => .failed

def close : List Frame → Token → Builder
  | .array items :: frames, .closeArray => put (.array items.reverse) frames
  | .object members :: frames, .closeObject => put (.object members.reverse) frames
  | _, _ => .failed

/-- take a token where a name is expected -/
def name : List Frame → Token → Builder
  | .object members :: frames, .string pieces => .building .colon (.member members pieces :: frames)
  | _, _ => .failed

/-- go on to the next part of the innermost container -/
def next : List Frame → Builder
  | .array items :: frames => .building .value (.array items :: frames)
  | .object members :: frames => .building .name (.object members :: frames)
  | _ => .failed

def step : Builder → Token → Builder
  | .failed, _ => .failed
  | .complete _, _ => .failed
  | .building .value frames, t => value frames t
  | .building .firstItem frames, t => if t = .closeArray then close frames t else value frames t
  | .building .firstName frames, t => if t = .closeObject then close frames t else name frames t
  | .building .name frames, t => name frames t
  | .building .colon frames, t => if t = .colon then .building .value frames else .failed
  | .building .commaOrEnd frames, t => if t = .comma then next frames else close frames t

def finish : Builder → Option Tree
  | .complete t => some t
  | _ => none

end Builder

namespace Tree

def ofTokens? (ts : List Token) : Option Tree := (ts.foldl Builder.step (.building .value [])).finish

def ofSymbols? (symbols : List (Option Char)) : Option Tree := (tokens? symbols).bind ofTokens?

def ofText? (s : String) : Option Tree := ofSymbols? (s.toList.map some)

end Tree
end ErrandHub.Json
