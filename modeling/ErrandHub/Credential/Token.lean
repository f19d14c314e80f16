/-
Signed tokens.

A token claims a subject, an expiry in seconds since 1970 and, if it likes, a role by name. It is three parts
with dots between them: the version, the claims and a signature, the last two as bytes in base64. The signature
is the keyed digest of the second part as it stands. `issue` makes a token and `Token.claims` takes it apart
again: it checks the form first, then both encodings, the signature, the claims and at last the expiry, and the
first check that fails gives the reason.
-/
import ErrandHub.Digest.Base64Url
import ErrandHub.Digest.Sha256
import ErrandHub.Identity
import ErrandHub.Json.Printer
import ErrandHub.Json.Record
import ErrandHub.Number.Word
import ErrandHub.Text.Utf8

namespace ErrandHub

/-! ## Claims -/

/-- what a token claims -/
structure Claims where
  subject : String
  /-- seconds since 1970 -/
  expiry : UInt64
  role : Option String
  deriving DecidableEq, Repr

namespace Claims

def fieldNames : List String := ["sub", "exp", "role"]

def chars (c : Claims) : List Char :=
  Json.braces ([("sub", Json.quoted c.subject), ("exp", (toString c.expiry.toNat).toList)]
    ++ (c.role.map fun r => ("role", Json.quoted r)).toList)

def ofTree? (t : Json.Tree) : Option Claims := do
  let fields ← t.fields? fieldNames
  let subject ← Json.Tree.required fields "sub" Json.Tree.text?
  let expiry ← Json.Tree.required fields "exp" fun t => t.integer?.bind Word.ofInt?
  let role ← Json.Tree.optional fields "role" Json.Tree.text?
  return ⟨subject, expiry, role⟩

end Claims

/-! ## Tokens -/

inductive AuthError where
  | missing
  | notConfigured
  | format
  | payloadEncoding
  | signatureEncoding
  | signature
  | claims
  | expired
  | role (reason : IdError)
  | subject (reason : IdError)
  deriving DecidableEq, Repr

namespace AuthError

def message : AuthError → String
  | .missing => "missing token"
  | .notConfigured => "no token verifier configured"
  | .format => "invalid token format"
  | .payloadEncoding => "decode token payload"
  | .signatureEncoding => "decode token signature"
  | .signature => "invalid token signature"
  | .claims => "parse token claims"
  | .expired => "token expired"
  | .role _ => "token role"
  | .subject _ => "token subject"

/-- the reason with what lies behind it -/
def detail : AuthError → String
  | .role e => "token role: " ++ e.message
  | .subject e => "token subject: " ++ e.message
  | e => e.message

end AuthError

namespace Token

/-- the version that starts every token -/
def version : List Char := ['v', '1']

/-- the characters before the first dot, and those after it if there is one -/
def cut : List Char → List Char × Option (List Char)
  | [] => ([], none)
  | c :: rest => if c = '.' then ([], some rest) else ((c :: (cut rest).1), (cut rest).2)

/-- the second and third part of a token of three parts whose first is the version -/
def parts? (token : List Char) : Option (List Char × List Char) :=
  match cut token with
  | (first, some rest) =>
    match cut rest with
    | (payload, some signature) =>
      if first = version && !signature.contains '.' then some (payload, signature) else none
    | _ => none
  | _ => none

/-- the signature of a second part -/
def sign (secret : String) (payload : List Char) : List UInt8 := Hmac.sign (Utf8.bytes secret) (Utf8.encode payload)

def issue (claims : Claims) (secret : String) : String :=
  let payload := Base64Url.encode (Utf8.encode claims.chars)
  String.ofList (version ++ '.' :: payload ++ '.' :: Base64Url.encode (sign secret payload))

def claimsOf? (bytes : List UInt8) : Option Claims := (Json.Tree.ofSymbols? (Utf8.decode bytes)).bind Claims.ofTree?

/-- the claims of a token that is genuine and not expired at a time in seconds since 1970 -/
def claims (now : Nat) (secret : String) (token : String) : Except AuthError Claims :=
  match parts? token.toList with
  | none => .error .format
  | some (payload, signature) =>
    match Base64Url.decode payload with
    | none => .error .payloadEncoding
    | some bytes =>
      match Base64Url.decode signature with
      | none => .error .signatureEncoding
      | some given =>
        if !Hmac.equal (sign secret payload) given then .error .signature
        else
          match claimsOf? bytes with
          | none => .error .claims
          | some c => if c.expiry.toNat ≤ now then .error .expired else .ok c

end Token
end ErrandHub
