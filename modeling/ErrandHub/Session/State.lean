/-
Sessions and their outboxes.

An outbox holds the envelopes that wait for a session's writer, first come first served. It takes no more
than its capacity, which is at least one, and none at all once its receiving end is closed.

A session belongs to one connection of one identity. It carries the room that its reader takes it to be in,
its phase and its outbox. An envelope offered to it goes to the outbox while the phase is open.
-/
import ErrandHub.Envelope.Outbound
import ErrandHub.Session.Phase

namespace ErrandHub

/-! ## Outboxes -/

/-- the receiving end of an outbox -/
inductive Receiver where
  | listening
  /-- takes nothing new; what waits can still be taken -/
  | closed
  /-- gone, and what waited with it -/
  | dropped
  deriving DecidableEq, Repr

/-- what becomes of an envelope that is offered -/
inductive Delivery where
  | accepted
  | full
  | closed
  deriving DecidableEq, Repr

structure Outbox where
  capacity : Nat
  waiting : List Outbound := []
  receiver : Receiver := .listening
  deriving Repr

namespace Outbox

/-- an empty queue for so many envelopes, at least one -/
def ofCapacity (n : Nat) : Outbox := { capacity := max 1 n }

def offer (o : Outbox) (e : Outbound) : Outbox × Delivery :=
  if o.receiver ≠ .listening then (o, .closed)
  else if o.capacity ≤ o.waiting.length then (o, .full)
  else ({ o with waiting := o.waiting ++ [e] }, .accepted)

/-- take up to so many envelopes from the front -/
def take (o : Outbox) (n : Nat) : Outbox × List Outbound :=
  ({ o with waiting := o.waiting.drop n }, o.waiting.take n)

/-- refuse new envelopes -/
def close (o : Outbox) : Outbox :=
  match o.receiver with
  | .listening => { o with receiver := .closed }
  | _ => o

/-- give the receiving end up -/
def abandon (o : Outbox) : Outbox := { o with receiver := .dropped, waiting := [] }

end Outbox

/-! ## Sessions -/

structure Session where
  identity : Identity
  role : Role
  /-- the room that the reader takes the session to be in -/
  currentRoom : Option RoomId
  outbox : Outbox
  phase : Phase := .connecting
  deriving Repr

namespace Session

def offer (s : Session) (e : Outbound) : Session × Delivery :=
  if s.phase.isOpen then
    let (outbox, delivery) := s.outbox.offer e
    ({ s with outbox }, delivery)
  else (s, .closed)

/-- leave the open phases -/
def drain (s : Session) : Session := if s.phase.isOpen then { s with phase := .draining } else s

/-- begin to work, once connected -/
def activate (s : Session) : Session := if s.phase = .connecting then { s with phase := .active } else s

def close (s : Session) : Session := { s with phase := .closed }

def sender (s : Session) : Sender := ⟨s.identity, s.role⟩

/-- an envelope from the session at a time -/
def stamp (s : Session) (now : Int64) (kind : Kind) (room : Option RoomId) (message : Option String)
    (data : Option Json) : Outbound :=
  ⟨kind, room, s.sender, message, data, now⟩

end Session
end ErrandHub
