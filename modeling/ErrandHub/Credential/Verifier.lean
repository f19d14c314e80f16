/-
Who a credential stands for.

A verifier knows a service token, a secret that signs tokens, both or neither. The service token stands for
the hub's own system identity; a signed token stands for its subject, as a customer unless it names
another role. Either of them must not reach a log: a `Secret` shows itself redacted, and only `exposed` gives
the text away.
-/
import ErrandHub.Credential.Token

namespace ErrandHub

/-- a text that is redacted wherever it is shown -/
structure Secret where
  exposed : String
  deriving DecidableEq

namespace Secret

def shown (_ : Secret) : String := "<redacted>"

/-- what is shown in place of a secret where values are shown with their type -/
def inspected (s : Secret) : String := "SecretString(" ++ s.shown ++ ")"

end Secret

/-- who a credential stands for -/
structure Verified where
  identity : Identity
  role : Role
  deriving DecidableEq, Repr

/-- what credentials are checked against -/
structure Verifier where
  /-- the secret that signs tokens -/
  secret : Option Secret := none
  /-- the token of the sibling service -/
  service : Option Secret := none
  deriving DecidableEq

namespace Verifier

/-- whether any credential can be good -/
def isConfigured (v : Verifier) : Bool := v.secret.isSome || v.service.isSome

/-- whether a trimmed token is the service token -/
def isService (v : Verifier) (token : String) : Bool :=
  match v.service with
  | some s => Hmac.equal (Utf8.bytes s.exposed) (Utf8.bytes token)
  | none => false

def ofClaims (c : Claims) : Except AuthError Verified :=
  match (c.role.map Role.parse).getD (.ok .customer) with
  | .error e => .error (.role e)
  | .ok role =>
    match Identity.parse c.subject with
    | .error e => .error (.subject e)
    | .ok identity => .ok ⟨identity, role⟩

/-- who a credential stands for at a time in seconds since 1970 -/
def verify (v : Verifier) (now : Nat) (credential : String) : Except AuthError Verified :=
  match Text.trimmed? credential with
  | none => .error .missing
  | some token =>
    if v.isService token then .ok ⟨.system, .system⟩
    else
      match v.secret with
      | none => .error .notConfigured
      | some s =>
        match Token.claims now s.exposed token with
        | .error e => .error e
        | .ok c => ofClaims c

end Verifier
end ErrandHub
