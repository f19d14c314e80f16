/-
Who a client is: roles, identities and session names.

A role is one of three and is read from a handful of names without regard to ASCII case. An identity
is the opaque name that the identity system gave a user; it may hold any characters but must not be
blank, and it is kept as given. `IdError` is the reason why a text names none of these.
-/
import ErrandHub.Text.Basic

namespace ErrandHub

inductive Role where
  | customer
  | staff
  | system
  deriving DecidableEq, Repr

/-- why a text is not the name of a role, an identity or a room -/
inductive IdError where
  | empty
  | unknownRole (name : String)
  | invalidFormat (detail : String)
  deriving DecidableEq, Repr

namespace IdError

def message : IdError → String
  | .empty => "empty value"
  | .unknownRole name => "unknown role: " ++ name
  | .invalidFormat detail => "invalid format: " ++ detail

end IdError

namespace Role

def all : List Role := [.customer, .staff, .system]

def name : Role → String
  | .customer => "customer"
  | .staff => "staff"
  | .system => "system"

/-- the names that are read as a role -/
def names : List (String × Role) :=
  [("customer", .customer), ("user", .customer), ("staff", .staff), ("admin", .staff), ("agent", .staff),
    ("system", .system), ("service", .system)]

def ofName? (s : String) : Option Role := all.find? fun r => r.name == s

/-- read a role from any of its names, white space around it and ASCII case aside -/
def parse (s : String) : Except IdError Role :=
  match Text.trimmed? s with
  | none => .error .empty
  | some t => ((names.lookup (Text.lower t)).map Except.ok).getD (.error (.unknownRole (Text.lower t)))

end Role

/-- the opaque name of a user -/
structure Identity where
  name : String
  deriving DecidableEq, Repr

namespace Identity

/-- read an identity: any text that is not blank, kept untrimmed -/
def parse (s : String) : Except IdError Identity :=
  if Text.isBlank s then .error .empty else .ok ⟨s⟩

/-- the identity of a caller that presents the service token -/
def system : Identity := ⟨"system"⟩

end Identity

/-- the name of one connection, different for every connection -/
structure SessionId where
  name : String
  deriving DecidableEq, Repr

end ErrandHub
