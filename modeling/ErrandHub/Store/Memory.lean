/-
What is stored of chat messages, and stores without a database.

A row keeps the room twice: its text, and its legacy number when it has one that fits in a signed column of
64 bits. Of the two stores one keeps messages in a list and can be made to fail; the other takes every message
and keeps none.
-/
import ErrandHub.Envelope.Outbound

namespace ErrandHub

/-! ## Rows -/

structure StoredMessage where
  room : RoomId
  sender : Sender
  body : String
  /-- milliseconds since 1970 -/
  createdAt : Int64
  deriving DecidableEq, Repr

namespace StoredMessage

/-- the row of an envelope, which has one when it has a room and a message -/
def ofEnvelope? (e : Outbound) : Option StoredMessage :=
  match e.room, e.message with
  | some room, some body => some ⟨room, e.sender, body, e.timestamp⟩
  | _, _ => none

def roomKey (m : StoredMessage) : String := m.room.text

/-- the column that holds the legacy number of the room, if it fits -/
def legacyKey? (m : StoredMessage) : Option Int64 :=
  m.room.legacy?.bind fun n => Word.signedOfInt? (Int.ofNat n.toNat)

end StoredMessage

/-! ## Stores -/

/-- a store with states of some type: what a message makes of a state, and whether it was stored -/
structure Store (σ : Type) where
  persist : StoredMessage → σ → σ × Bool

structure Memory where
  messages : List StoredMessage := []
  /-- whether the store refuses what it is given -/
  failing : Bool := false

namespace Store

/-- keep messages in a list, last one last -/
def memory : Store Memory where
  persist m s := if s.failing then (s, false) else ({ s with messages := s.messages ++ [m] }, true)

def disabled {σ : Type} : Store σ where
  persist _ s := (s, true)

end Store
end ErrandHub
