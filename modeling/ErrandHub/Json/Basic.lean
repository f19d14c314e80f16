/-
Values of JSON.

A number is an integer or the 64 bits of a double. An object is a list of members whose names rise in
the order of code points, each name once: `insert` keeps that order and replaces an earlier member of
the same name.
-/
namespace ErrandHub

inductive Number where
  | integer (value : Int)
  | double (bits : UInt64)
  deriving DecidableEq, Repr

inductive Json where
  | null
  | bool (value : Bool)
  | number (value : Number)
  | string (text : String)
  | array (items : List Json)
  | object (members : List (String × Json))
  deriving Repr, Inhabited

namespace Json

/-- put a member in its place among members in rising order, in place of one with its name -/
def insert (name : String) (value : Json) : List (String × Json) → List (String × Json)
  | [] => [(name, value)]
  | m :: rest =>
    if name < m.1 then (name, value) :: m :: rest
    else if name = m.1 then (name, value) :: rest
    else m :: insert name value rest

/-- the members of an object, from members in any order of which the last of each name counts -/
def ofMembers (members : List (String × Json)) : List (String × Json) :=
  members.foldl (fun ms m => insert m.1 m.2 ms) []

def member? (name : String) (members : List (String × Json)) : Option Json := members.lookup name

def isNull : Json → Bool
  | .null => true
  | _ => false

end Json
end ErrandHub
