/-
Values of a TOML document, and how tables come about.

A table is opened by a header, by the headers of tables inside it, or by dotted keys; one that is written
inline is complete as it stands. Each table is opened once, and only a table that dotted keys opened can be
added to by dotted keys. `edit` walks along a path of keys, opens the tables that are not there yet and
changes the last one; it fails where the rules forbid it.
-/
namespace ErrandHub.Toml

/-- how a table was opened -/
inductive Origin where
  /-- written inline -/
  | inline
  /-- by the header of a table inside it -/
  | implicit
  /-- by its own header -/
  | header
  /-- by dotted keys -/
  | dotted
  deriving DecidableEq, Repr

inductive Value where
  | string (text : String)
  | integer (value : Int)
  | float
  | bool (value : Bool)
  | datetime
  | array (items : List Value)
  | table (origin : Origin) (members : List (String × Value))
  /-- the tables under one repeated header, last one first -/
  | tables (elements : List (List (String × Value)))
  deriving Repr, Inhabited

abbrev Members := List (String × Value)

def replace (ms : Members) (key : String) (v : Value) : Members :=
  ms.map fun m => if m.1 = key then (key, v) else m

/-- change the table at the end of a path; each key of the path says whether it is part of a dotted key -/
def edit (f : Origin → Members → Option Members) : List (String × Bool) → Origin → Members → Option Members
  | [], origin, ms => f origin ms
  | (key, dotted) :: path, _, ms =>
    match ms.lookup key with
    | none =>
      let origin := if dotted then Origin.dotted else .implicit
      (edit f path origin []).map fun sub => ms ++ [(key, .table origin sub)]
    | some (.table origin sub) =>
      if origin = .inline || (dotted && origin = .header) then none
      else (edit f path origin sub).map fun sub => replace ms key (.table origin sub)
    | some (.tables (last :: before)) =>
      (edit f path .header last).map fun last => replace ms key (.tables (last :: before))
    | some _ => none

/-- add a member to a table, reached by a dotted key or not -/
def put (viaDots : Bool) (key : String) (v : Value) (origin : Origin) (ms : Members) : Option Members :=
  if viaDots && origin ≠ .dotted then none
  else if (ms.lookup key).isSome then none
  else some (ms ++ [(key, v)])

/-- open a table by its header -/
def openTable (key : String) (_ : Origin) (ms : Members) : Option Members :=
  match ms.lookup key with
  | none => some (ms ++ [(key, .table .header [])])
  | some (.table .implicit sub) => some (replace ms key (.table .header sub))
  | some _ => none

/-- open one more table under a repeated header -/
def openElement (key : String) (_ : Origin) (ms : Members) : Option Members :=
  match ms.lookup key with
  | none => some (ms ++ [(key, .tables [[]])])
  | some (.tables elements) => some (replace ms key (.tables ([] :: elements)))
  | some _ => none

/-- the last key of a dotted key and those before it -/
def splitLast : List String → Option (List String × String)
  | [] => none
  | [k] => some ([], k)
  | k :: ks => (splitLast ks).map fun p => (k :: p.1, p.2)

/-- add a member by a dotted key to the table at the end of a path -/
def assign (path : List String) (key : List String) (v : Value) (origin : Origin) (ms : Members) : Option Members :=
  (splitLast key).bind fun (before, last) =>
    edit (put (!before.isEmpty) last v) (path.map (·, false) ++ before.map (·, true)) origin ms

/-- open the table of a header -/
def openHeader (repeated : Bool) (key : List String) (ms : Members) : Option Members :=
  (splitLast key).bind fun (before, last) =>
    edit (if repeated then openElement last else openTable last) (before.map (·, false)) .header ms

end ErrandHub.Toml
