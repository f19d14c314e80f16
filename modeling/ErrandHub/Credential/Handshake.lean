/-
The request that opens a session.

The query of the request may hold a token and a room; of several pairs with one name the first counts.
Without a token pair the first authorization header is looked at. A blank token or room is none. `admission`
checks the credential before it looks at the room.
-/
import ErrandHub.Credential.Verifier
import ErrandHub.Room.Ref

namespace ErrandHub

/-- a request header value that consists of visible ASCII characters, spaces and tabs -/
def headerText? (value : List UInt8) : Option (List Char) :=
  value.mapM fun b => if b = 9 || (32 ≤ b && b < 127) then some (Char.ofNat b.toNat) else none

/-- the rest of a text that starts with a word -/
def afterWord? (word text : List Char) : Option (List Char) :=
  if text.take word.length = word then some (text.drop word.length) else none

namespace Query

/-- the byte of two hexadecimal digits -/
def byteOf? (high low : UInt8) : Option UInt8 :=
  match Text.hexDigit? (Char.ofNat high.toNat), Text.hexDigit? (Char.ofNat low.toNat) with
  | some h, some l => some (UInt8.ofNat (h * 16 + l))
  | _, _ => none

/-- the bytes that percent signs stand for among others, after those already read, last first -/
def unescapePercent (read : List UInt8) : List UInt8 → List UInt8
  | [] => read.reverse
  | 0x25 :: high :: low :: rest =>
    match byteOf? high low with
    | some b => unescapePercent (b :: read) rest
    | none => unescapePercent (0x25 :: read) (high :: low :: rest)
  | b :: rest => unescapePercent (b :: read) rest

/-- the bytes that a part of a query stands for; a plus sign stands for a space -/
def unescape (part : List UInt8) : List UInt8 := unescapePercent [] (part.map fun b => if b = 0x2B then 0x20 else b)

/-- the text that a part of a query stands for -/
def textOf (part : List UInt8) : String := String.ofList (Utf8.decodeLossy (unescape part))

/-- the pieces between separators, after those already read, last first -/
def split (separator : UInt8) (done : List (List UInt8)) (read : List UInt8) : List UInt8 → List (List UInt8)
  | [] => (read.reverse :: done).reverse
  | b :: rest =>
    if b = separator then split separator (read.reverse :: done) [] rest else split separator done (b :: read) rest

def pairOf (part : List UInt8) : String × String :=
  (textOf (part.takeWhile (· ≠ 0x3D)), textOf ((part.dropWhile (· ≠ 0x3D)).drop 1))

def pairs (query : List UInt8) : List (String × String) :=
  ((split 0x26 [] [] query).filter fun part => !part.isEmpty).map pairOf

/-- the query of a target: what follows the first question mark, up to a hash sign -/
def ofTarget (target : String) : List UInt8 :=
  Utf8.encode (((target.toList.takeWhile (· ≠ '#')).dropWhile (· ≠ '?')).drop 1)

end Query

/-- the credential and the room of a request -/
structure Handshake where
  token : Option String
  room : Option String
  deriving DecidableEq, Repr

inductive Rejection where
  | unauthorized (detail : String)
  | badRoom (reason : RoomError)
  deriving DecidableEq, Repr

/-- whom a request lets in, and where -/
structure Admission where
  who : Verified
  room : Option RoomId
  deriving DecidableEq, Repr

namespace Rejection

def status : Rejection → Nat
  | .unauthorized _ => 401
  | .badRoom _ => 400

def body : Rejection → String
  | .unauthorized _ => "unauthorized"
  | .badRoom e => "invalid room: " ++ e.message

end Rejection

namespace Handshake

/-- the schemes that a bearer token may come under -/
def schemes : List (List Char) := ["Bearer ".toList, "bearer ".toList]

/-- the token of an authorization header -/
def bearer? (value : List UInt8) : Option String :=
  (headerText? value).bind fun text =>
    (schemes.findSome? fun scheme => afterWord? scheme text).map fun t => String.ofList (Text.trimChars t)

def filled (s : Option String) : Option String := s.filter fun t => !Text.isBlank t

/-- the credential and the room of a query and of the authorization headers -/
def ofPairs (pairs : List (String × String)) (authorization : List (List UInt8)) : Handshake :=
  ⟨filled ((pairs.lookup "token").orElse fun _ => authorization.head?.bind bearer?), filled (pairs.lookup "room")⟩

/-- the credential and the room of a request target and of the authorization headers -/
def ofRequest (target : String) (authorization : List (List UInt8)) : Handshake :=
  ofPairs (Query.pairs (Query.ofTarget target)) authorization

/-- let a request in, or refuse it -/
def admission (h : Handshake) (verifier : Verifier) (now : Nat) : Except Rejection Admission :=
  match h.token with
  | none => .error (.unauthorized AuthError.missing.message)
  | some token =>
    match verifier.verify now token with
    | .error e => .error (.unauthorized e.detail)
    | .ok who =>
      match h.room with
      | none => .ok ⟨who, none⟩
      | some raw =>
        match RoomRef.roomOfText raw with
        | .error e => .error (.badRoom e)
        | .ok room => .ok ⟨who, some room⟩

end Handshake
end ErrandHub
