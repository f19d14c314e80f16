/-
The head of a request.

A head is a line with method, target and version, then lines with a header each, and a blank line. It arrives
byte by byte; the reader notices at the first wrong byte that it is malformed. Blanks around the value of a
header do not belong to it.
-/
import ErrandHub.Text.Basic
import ErrandHub.Text.Utf8
import ErrandHub.Credential.Handshake

namespace ErrandHub

structure RequestHead where
  method : List UInt8 := []
  target : List UInt8 := []
  version : List UInt8 := []
  /-- names and values, first one first -/
  headers : List (List UInt8 × List UInt8) := []
  deriving DecidableEq, Repr

namespace RequestHead

/-- where a reader is in a head -/
inductive Place where
  /-- before the method; blank lines are skipped -/
  | start
  | blankLine
  | method
  | target
  | version
  | firstLineEnd
  /-- before a header or the last line -/
  | lineStart
  | name
  | value
  | headerEnd
  | lastLine
  | complete
  | malformed
  deriving DecidableEq, Repr

structure Reader where
  place : Place := .start
  head : RequestHead := {}
  /-- the name of the header that is being read -/
  name : List UInt8 := []
  /-- the word that is being read, last byte first -/
  word : List UInt8 := []

def maxHeaders : Nat := 124

/-- the characters of a token besides letters and digits -/
def tokenSigns : List Char := ['!', '#', '$', '%', '&', '\x27', '*', '+', '-', '.', '^', '_', '\x60', '|', '~']

/-- whether a byte may stand in a method or in the name of a header -/
def isTokenByte (b : UInt8) : Bool :=
  let c := Char.ofNat b.toNat
  c.isAlphanum || tokenSigns.contains c

def isTargetByte (b : UInt8) : Bool := 33 ≤ b && b ≠ 127

def isValueByte (b : UInt8) : Bool := b = 9 || (32 ≤ b && b ≠ 127)

/-- whether a byte is a space or a tab -/
def isBlankByte (b : UInt8) : Bool := b = 32 || b = 9

/-- the value of a header without the blanks around it -/
def trimValue (value : List UInt8) : List UInt8 :=
  ((value.dropWhile isBlankByte).reverse.dropWhile isBlankByte).reverse

def versions : List (List UInt8) := [Utf8.bytes "HTTP/1.0", Utf8.bytes "HTTP/1.1"]

namespace Reader

def fail (r : Reader) : Reader := { r with place := .malformed }

def push (r : Reader) (b : UInt8) : Reader := { r with word := b :: r.word }

def goTo (r : Reader) (place : Place) : Reader := { r with place, word := [] }

/-- take the word for the value of the header, and go on -/
def endHeader (r : Reader) (place : Place) : Reader :=
  if r.head.headers.length < maxHeaders then
    { r with head := { r.head with headers := r.head.headers ++ [(r.name, trimValue r.word.reverse)] }, place, word := [] }
  else r.fail

/-- read one byte of the version or of the end of its line -/
def stepVersion (r : Reader) (b : UInt8) : Reader :=
  let word := (b :: r.word).reverse
  if versions.any fun v => word.isPrefixOf v then r.push b
  else if versions.contains r.word.reverse && (b = 13 || b = 10) then
    { r with head := { r.head with version := r.word.reverse }, place := if b = 13 then .firstLineEnd else .lineStart,
             word := [] }
  else r.fail

def step (r : Reader) (b : UInt8) : Reader :=
  match r.place with
  | .start =>
    if b = 13 then r.goTo .blankLine else if b = 10 then r
    else if isTokenByte b then (r.goTo .method).push b else r.fail
  | .blankLine => if b = 10 then r.goTo .start else r.fail
  | .method =>
    if b = 32 then { r with head := { r.head with method := r.word.reverse } }.goTo .target
    else if isTokenByte b then r.push b else r.fail
  | .target =>
    if b = 32 && !r.word.isEmpty then { r with head := { r.head with target := r.word.reverse } }.goTo .version
    else if isTargetByte b then r.push b else r.fail
  | .version => r.stepVersion b
  | .firstLineEnd => if b = 10 then r.goTo .lineStart else r.fail
  | .lineStart =>
    if b = 13 then r.goTo .lastLine else if b = 10 then r.goTo .complete
    else if isTokenByte b then (r.goTo .name).push b else r.fail
  | .name =>
    if b = 58 then { r with name := r.word.reverse }.goTo .value
    else if isTokenByte b then r.push b else r.fail
  | .value =>
    if b = 13 then r.endHeader .headerEnd else if b = 10 then r.endHeader .lineStart
    else if isValueByte b then r.push b else r.fail
  | .headerEnd => if b = 10 then r.goTo .lineStart else r.fail
  | .lastLine => if b = 10 then r.goTo .complete else r.fail
  | .complete | .malformed => r.fail

def read (bytes : List UInt8) : Reader := bytes.foldl step {}

end Reader

def textOf (bytes : List UInt8) : String := String.ofList (Utf8.decodeLossy bytes)

/-- the values of a header, whose name is given in lower case -/
def values (h : RequestHead) (name : String) : List (List UInt8) :=
  (h.headers.filter fun e => Text.lower (textOf e.1) = name).map Prod.snd

/-- the words of a header value, between spaces and commas -/
def words (text : List Char) : List String :=
  let (done, last) := text.foldr (fun c (done, word) =>
    if c = ' ' || c = ',' then (String.ofList word :: done, []) else (done, c :: word)) ([], [])
  String.ofList last :: done

/-- whether a request asks for a connection to be opened -/
def opensConnection (h : RequestHead) : Bool :=
  let first (name : String) : Option (List Char) := (h.values name).head?.bind headerText?
  h.method = Utf8.bytes "GET" && h.version = Utf8.bytes "HTTP/1.1" &&
    ((first "connection").any fun v => (words v).any fun w => Text.lower w = "upgrade") &&
    ((first "upgrade").any fun v => Text.lower (String.ofList v) = "websocket") &&
    (h.values "sec-websocket-version").head? = some (Utf8.bytes "13") && !(h.values "sec-websocket-key").isEmpty

/-- the credential and the room of a request -/
def handshake (h : RequestHead) : Handshake := Handshake.ofRequest (textOf h.target) (h.values "authorization")

end RequestHead
end ErrandHub
