/-
Sessions, membership and the delivery of envelopes.

A session without a room is a listener. An envelope goes to the members of a room, to the listeners of a
role, or to both.

The board holds every session and the registry that says where the registered ones are. To route an envelope
is to ask the registry for the audience and to offer the envelope to each session of it once, the excluded one
aside. A session that cannot take it is drained and unregistered after all others had their turn, so that it
disturbs nobody. When the registry does not run there is no audience.

The audience "members and listeners" takes two questions, and the registry may change between them;
`recipientsAcross` makes both registries explicit.
-/
import ErrandHub.Envelope.Outbound
import ErrandHub.Registry
import ErrandHub.Session.State

namespace ErrandHub

/-! ## Audiences -/

/-- whom an envelope is sent to -/
inductive Audience where
  /-- the members of a room -/
  | room (room : RoomId)
  /-- the sessions of a role that are in no room -/
  | listeners (role : Role)
  /-- the members of a room and the listeners of a role -/
  | roomAndListeners (room : RoomId) (role : Role)
  deriving DecidableEq, Repr

namespace Audience

/-- the audience that an envelope implies: its room, or the staff that listens -/
def ofEnvelope (e : Outbound) : Audience :=
  match e.room with
  | some r => .room r
  | none => .listeners .staff

/-- the sessions of an audience, the members as one registry has them and the listeners as another -/
def recipientsAcross (first second : Registry) : Audience → List SessionId
  | .room q => first.members q
  | .listeners role => first.listeners role
  | .roomAndListeners q role => first.members q ++ second.listeners role

/-- the sessions of an audience -/
def recipients (r : Registry) (a : Audience) : List SessionId := a.recipientsAcross r r

end Audience

/-! ## The board -/

/-- all sessions, and where the registered ones are -/
structure Board where
  sessions : Table SessionId Session := {}
  registry : Registry := {}
  /-- whether the registry answers -/
  running : Bool := true

/-- what came of routing an envelope -/
structure RouteReport where
  /-- sessions that it was queued for -/
  delivered : Nat := 0
  /-- sessions that could not take it -/
  dropped : Nat := 0
  deriving DecidableEq, Repr

namespace Board

def session? (b : Board) (id : SessionId) : Option Session := b.sessions.get? id

def adjust (b : Board) (id : SessionId) (f : Session → Session) : Board :=
  { b with sessions := b.sessions.adjust id f }

def drain (b : Board) (id : SessionId) : Board := b.adjust id Session.drain

def offer (b : Board) (id : SessionId) (e : Outbound) : Board × Delivery :=
  match b.session? id with
  | none => (b, .closed)
  | some s => (b.adjust id fun s => (s.offer e).1, (s.offer e).2)

/-- offer an envelope to the session that it answers, which is drained if it cannot take it -/
def reply (b : Board) (id : SessionId) (e : Outbound) : Board :=
  match b.offer id e with
  | (b, .accepted) => b
  | (b, _) => b.drain id

def register (b : Board) (id : SessionId) (room : Option RoomId) : Board × Except RegistryError Registered :=
  match b.running, b.session? id with
  | true, some s =>
    let (registry, report) := b.registry.register id ⟨s.identity, s.role, room⟩
    ({ b with registry }, .ok report)
  | _, _ => (b, .error .unavailable)

/-- unregister a session, which drains it -/
def unregister (b : Board) (id : SessionId) : Board × Except RegistryError (Option Unregistered) :=
  if b.running then
    match b.registry.unregister id with
    | (registry, none) => ({ b with registry }, .ok none)
    | (registry, some report) => (({ b with registry } : Board).drain id, .ok (some report))
  else (b, .error .unavailable)

def join (b : Board) (id : SessionId) (room : RoomId) : Board × Except RegistryError Joined :=
  if b.running then
    let (registry, report) := b.registry.join id room
    ({ b with registry }, report)
  else (b, .error .unavailable)

def leave (b : Board) (id : SessionId) : Board × Except RegistryError (Option RoomId) :=
  if b.running then
    let (registry, report) := b.registry.leave id
    ({ b with registry }, report)
  else (b, .error .unavailable)

def onlineAmong (b : Board) (candidates : List Identity) : Except RegistryError (List Identity) :=
  if b.running then .ok (b.registry.onlineAmong candidates) else .error .unavailable

def counts (b : Board) : Except RegistryError (List (RoomId × Nat)) :=
  if b.running then .ok b.registry.counts else .error .unavailable

/-- offer an envelope to one of its recipients, and note those that cannot take it, last first -/
def offerTo (e : Outbound) (st : Board × List SessionId) (id : SessionId) : Board × List SessionId :=
  match st.1.offer id e with
  | (b, .accepted) => (b, st.2)
  | (b, .full) => (b.drain id, id :: st.2)
  | (b, .closed) => (b, id :: st.2)

/-- offer an envelope to each of these sessions once, the excluded one aside -/
def fanOut (b : Board) (recipients : List SessionId) (e : Outbound) (exclude : Option SessionId) :
    Board × RouteReport :=
  let targets := (recipients.filter fun id => some id ≠ exclude).eraseDups
  let (b, failed) := targets.foldl (offerTo e) (b, [])
  -- those that failed are withdrawn when all others have the envelope, in the order of their turns
  (failed.reverse.foldl (fun b id => (b.unregister id).1) b, ⟨targets.length - failed.length, failed.length⟩)

def routeTo (b : Board) (audience : Audience) (e : Outbound) (exclude : Option SessionId) : Board × RouteReport :=
  if b.running then b.fanOut (audience.recipients b.registry) e exclude else (b, {})

/-- send an envelope to the audience that it implies -/
def route (b : Board) (e : Outbound) (exclude : Option SessionId) : Board × RouteReport :=
  b.routeTo (.ofEnvelope e) e exclude

end Board
end ErrandHub
