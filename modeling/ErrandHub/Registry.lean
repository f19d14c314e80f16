/-
Which sessions are registered, and where they are.

Two tables tell the same story from both ends: the entry of a session records its room, if it is in one, and
the table of rooms lists the members of each room. A room is there as long as it has members. A session
without a room is a listener. Each operation keeps both tables in step and reports what it did.

`Command` names the four operations that change the tables, and `run` performs any number of them.
-/
import ErrandHub.Identity
import ErrandHub.Room.Id
import ErrandHub.Table

namespace ErrandHub

/-- what is known of a registered session -/
structure Entry where
  identity : Identity
  role : Role
  room : Option RoomId
  deriving DecidableEq, Repr

structure Registry where
  sessions : Table SessionId Entry := {}
  rooms : Table RoomId (List SessionId) := {}

inductive RegistryError where
  | notRegistered (id : SessionId)
  | unavailable
  deriving DecidableEq, Repr

def RegistryError.message : RegistryError → String
  | .notRegistered id => "session " ++ id.name ++ " is not registered"
  | .unavailable => "registry task is not running"

structure Registered where
  /-- whether the session is new -/
  inserted : Bool := false
  /-- whether its room had no members before -/
  roomCreated : Bool := false
  deriving DecidableEq, Repr

structure Unregistered where
  room : Option RoomId
  /-- whether the room has no members left -/
  roomPruned : Bool
  deriving DecidableEq, Repr

structure Joined where
  /-- the other room that the session left -/
  left : Option RoomId := none
  /-- whether the room had no members before -/
  roomCreated : Bool := false
  /-- whether the session was in the room already -/
  unchanged : Bool := false
  deriving DecidableEq, Repr

namespace Registry

/-- the sessions that the table of rooms lists for a room, none if there is no such room -/
def roster (rooms : Table RoomId (List SessionId)) (room : RoomId) : List SessionId := (rooms.get? room).getD []

/-- the registered sessions among those that are listed for a room -/
def members (r : Registry) (room : RoomId) : List SessionId := (roster r.rooms room).filter r.sessions.contains

/-- the sessions of a role that are in no room -/
def listeners (r : Registry) (role : Role) : List SessionId :=
  (r.sessions.entries.filter fun e => e.2.room.isNone && e.2.role = role).map Prod.fst

def roomOf (r : Registry) (id : SessionId) : Option RoomId := (r.sessions.get? id).bind Entry.room

/-- how many members each room has -/
def counts (r : Registry) : List (RoomId × Nat) := r.rooms.entries.map fun e => (e.1, e.2.length)

/-- which identities have a registered session -/
def onlineAmong (r : Registry) (candidates : List Identity) : List Identity :=
  candidates.filter fun i => r.sessions.values.any fun e => e.identity = i

/-- add a member to a room; whether the room had none before -/
def addMember (rooms : Table RoomId (List SessionId)) (room : RoomId) (id : SessionId) :
    Table RoomId (List SessionId) × Bool :=
  let ms := roster rooms room
  (rooms.insert room (if id ∈ ms then ms else id :: ms), ms.isEmpty)

/-- take a member from a room; whether the room has none left -/
def removeMember (rooms : Table RoomId (List SessionId)) (room : RoomId) (id : SessionId) :
    Table RoomId (List SessionId) × Bool :=
  match rooms.get? room with
  | none => (rooms, false)
  | some ms =>
    let rest := ms.erase id
    -- a room goes with its last member
    if rest.isEmpty then (rooms.erase room, true) else (rooms.insert room rest, false)

/-- add a session, in a room or in none; a session that is there already stays as it is -/
def register (r : Registry) (id : SessionId) (entry : Entry) : Registry × Registered :=
  if r.sessions.contains id then (r, {})
  else
    match entry.room with
    | none => (⟨r.sessions.insert id entry, r.rooms⟩, ⟨true, false⟩)
    | some room =>
      let (rooms, created) := addMember r.rooms room id
      (⟨r.sessions.insert id entry, rooms⟩, ⟨true, created⟩)

def unregister (r : Registry) (id : SessionId) : Registry × Option Unregistered :=
  match r.sessions.get? id with
  | none => (r, none)
  | some entry =>
    match entry.room with
    | none => (⟨r.sessions.erase id, r.rooms⟩, some ⟨none, false⟩)
    | some room =>
      let (rooms, pruned) := removeMember r.rooms room id
      (⟨r.sessions.erase id, rooms⟩, some ⟨some room, pruned⟩)

def join (r : Registry) (id : SessionId) (room : RoomId) : Registry × Except RegistryError Joined :=
  match r.sessions.get? id with
  | none => (r, .error (.notRegistered id))
  | some entry =>
    if entry.room = some room then (r, .ok ⟨none, false, true⟩)
    else
      let rooms :=
        match entry.room with
        | none => r.rooms
        | some prev => (removeMember r.rooms prev id).1
      let (rooms, created) := addMember rooms room id
      (⟨r.sessions.insert id { entry with room := some room }, rooms⟩, .ok ⟨entry.room, created, false⟩)

/-- take a session out of its room; the room that it left -/
def leave (r : Registry) (id : SessionId) : Registry × Except RegistryError (Option RoomId) :=
  match r.sessions.get? id with
  | none => (r, .error (.notRegistered id))
  | some entry =>
    match entry.room with
    | none => (r, .ok none)
    | some prev =>
      (⟨r.sessions.insert id { entry with room := none }, (removeMember r.rooms prev id).1⟩, .ok (some prev))

inductive Command where
  | register (id : SessionId) (entry : Entry)
  | unregister (id : SessionId)
  | join (id : SessionId) (room : RoomId)
  | leave (id : SessionId)
  deriving DecidableEq, Repr

inductive Report where
  | registered (report : Registered)
  | unregistered (report : Option Unregistered)
  | joined (report : Except RegistryError Joined)
  | left (report : Except RegistryError (Option RoomId))

def step (r : Registry) : Command → Registry × Report
  | .register id entry => let (r, report) := r.register id entry; (r, .registered report)
  | .unregister id => let (r, report) := r.unregister id; (r, .unregistered report)
  | .join id room => let (r, report) := r.join id room; (r, .joined report)
  | .leave id => let (r, report) := r.leave id; (r, .left report)

def run (r : Registry) (commands : List Command) : Registry := commands.foldl (fun r c => (r.step c).1) r

end Registry
end ErrandHub
