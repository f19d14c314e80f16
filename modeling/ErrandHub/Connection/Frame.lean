/-
The frames of a connection.

The hub sends envelopes as text, pings, answers to pings and at last a closing frame. A client may send any
frame; what counts of those without text is their size.
-/
import ErrandHub.Envelope.Outbound
import ErrandHub.Text.Utf8

namespace ErrandHub

/-- a frame that the hub sends -/
inductive Frame where
  | text (envelope : Outbound)
  | ping
  /-- the answer to a ping with so many bytes -/
  | pong (bytes : Nat)
  | close
  deriving Repr

inductive ClientFrame where
  | text (text : String)
  /-- so many bytes that are no text -/
  | binary (bytes : Nat)
  /-- a ping with so many bytes -/
  | ping (bytes : Nat)
  | pong
  | close
  deriving DecidableEq, Repr

namespace Frame

def headerSize (content : Nat) : Nat := if content ≤ 125 then 2 else if content < 65536 then 4 else 10

def contentSize : Frame → Nat
  | .text e => Utf8.size e.text
  | .pong n => n
  | .ping | .close => 0

def size (f : Frame) : Nat := headerSize f.contentSize + f.contentSize

def totalSize : List Frame → Nat
  | [] => 0
  | f :: rest => f.size + totalSize rest

/-- the frames at the front that fit into so many bytes -/
def fitting (room : Nat) : List Frame → List Frame
  | [] => []
  | f :: rest => if f.size ≤ room then f :: fitting (room - f.size) rest else []

end Frame

def ClientFrame.contentSize : ClientFrame → Nat
  | .text t => Utf8.size t
  | .binary n | .ping n => n
  | .pong | .close => 0

end ErrandHub
