/-
Records in JSON.

A record has named fields in a fixed order. It is written as an object, in which members of other names are
skipped and a field must not occur twice, or as an array of the fields in order, in which the last ones may
be missing and there must be no more. `fields?` gives the written values by name; what a missing field means
is for the record to say.
-/
import ErrandHub.Json.Meaning

namespace ErrandHub.Json.Tree

/-- the levels of containers that are left inside a record -/
def levelsInRecord : Nat := maxDepth - 1

/-- the members of an object by name, if every name spells a text -/
def named? (members : List (List Piece × Tree)) : Option (List (String × Tree)) :=
  members.mapM fun m => (textOf? m.1).map fun name => (name, m.2)

/-- whether the names of fields are all different -/
def distinct : List (String × Tree) → Bool
  | [] => true
  | m :: ms => !ms.any (fun n => n.1 == m.1) && distinct ms

/-- the written fields of a record with these field names -/
def fields? (names : List String) : Tree → Option (List (String × Tree))
  | .object members =>
    (named? members).bind fun ms =>
      let known := ms.filter fun m => names.contains m.1
      if distinct known then some known else none
  | .array items => if items.length ≤ names.length then some (names.zip items) else none
  | _ => none

/-- the text that a written value means -/
def text? : Tree → Option String
  | .string pieces => textOf? pieces
  | _ => none

/-- the integer that a written value means -/
def integer? : Tree → Option Int
  | .numeral n => n.integer?
  | _ => none

def required {α : Type} (fields : List (String × Tree)) (name : String) (read : Tree → Option α) : Option α :=
  (fields.lookup name).bind read

/-- read a field that may be missing or null -/
def optional {α : Type} (fields : List (String × Tree)) (name : String) (read : Tree → Option α) : Option (Option α) :=
  match fields.lookup name with
  | none => some none
  | some .null => some none
  | some t => (read t).map some

/-- the name of a written choice: a string, or an object with one member that is null -/
def choice? : Tree → Option String
  | .string pieces => textOf? pieces
  | .object [(name, .null)] => textOf? name
  | _ => none

end ErrandHub.Json.Tree
