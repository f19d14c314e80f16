/-
The hub.

Clients send envelopes and the hub acts on them: a chat message is stored, sent to its room and to the staff
that listens, and announced to staff who are away; typing is shown to the room; joining and leaving move the
session and tell those concerned; a ping is answered. A frame that makes no sense changes nothing.

When a customer writes, everybody on the staff roster who has no session and is not the sender is sent a notice
with the first 80 characters of the message. Customers are on no roster, so nobody is notified of what staff
write.

The hub works over any store. What the store makes of a message has no bearing on delivery.
-/
import ErrandHub.Envelope.Inbound
import ErrandHub.Envelope.Outbound
import ErrandHub.Envelope.RoomMember
import ErrandHub.Hub.Board
import ErrandHub.Store.Memory

namespace ErrandHub

/-! ## Notices to staff who are away -/

structure Notice where
  recipient : Identity
  room : RoomId
  sender : Sender
  preview : String
  deriving DecidableEq, Repr

/-- who is notified, and whom a notice reaches -/
structure Notifier where
  /-- the staff roster; a notifier without one does nothing -/
  roster : Option (List Identity) := none
  /-- whether a notice to an identity arrives -/
  reaches : Identity → Bool := fun _ => true

namespace Notifier

/-- the characters of a message that a notice shows -/
def previewLength : Nat := 80

/-- those who may be notified of what somebody writes -/
def candidates (n : Notifier) (sender : Sender) : List Identity :=
  match n.roster, sender.role with
  | some roster, .customer => roster.filter fun i => i ≠ sender.id
  | _, _ => []

/-- the notices of a message, when these of the candidates are online -/
def notices (n : Notifier) (room : RoomId) (sender : Sender) (message : String) (online : List Identity) :
    List Notice :=
  ((n.candidates sender).filter fun i => !online.contains i).map fun i =>
    ⟨i, room, sender, String.ofList (message.toList.take previewLength)⟩

end Notifier

/-! ## The hub -/

structure Policy (σ : Type) where
  store : Store σ
  notifier : Notifier
  /-- bytes of the longest frame that is handled -/
  maxMessageBytes : Nat

structure Hub (σ : Type) where
  board : Board := {}
  store : σ
  /-- the notices that arrived, first one first -/
  notices : List Notice := []
  /-- milliseconds since 1970 -/
  now : Int64 := 0

inductive PublishError where
  | unsupportedKind (kind : Kind)
  | missingRoom
  | room (reason : RoomError)
  | emptyMessage
  deriving DecidableEq, Repr

def PublishError.message : PublishError → String
  | .unsupportedKind kind => "only message envelopes can be published, got " ++ kind.name
  | .missingRoom => "message has no room"
  | .room e => "invalid room: " ++ e.message
  | .emptyMessage => "message text is empty"

namespace Hub

variable {σ : Type}

/-- a hub without sessions, with or without a registry that answers -/
def start (store : σ) (now : Int64) (running : Bool) : Hub σ := { board := { running }, store, now }

def withBoard (h : Hub σ) (b : Board) : Hub σ := { h with board := b }

def adjust (h : Hub σ) (id : SessionId) (f : Session → Session) : Hub σ := h.withBoard (h.board.adjust id f)

/-- set the room that the reader of a session takes it to be in -/
def setCurrentRoom (h : Hub σ) (id : SessionId) (room : Option RoomId) : Hub σ :=
  h.adjust id fun s => { s with currentRoom := room }

/-- store a chat message -/
def persist (p : Policy σ) (h : Hub σ) (e : Outbound) : Hub σ :=
  match StoredMessage.ofEnvelope? e with
  | some m => { h with store := (p.store.persist m h.store).1 }
  | none => h

/-- notify those who are away of a chat message; how many were reached, unless nobody could be notified -/
def notify (p : Policy σ) (h : Hub σ) (e : Outbound) : Hub σ × Option Nat :=
  match e.room, e.message with
  | some room, some message =>
    let candidates := p.notifier.candidates e.sender
    if candidates.isEmpty then (h, none)
    else
      match h.board.onlineAmong candidates with
      | .error _ => (h, some 0)
      | .ok online =>
        let arrived := (p.notifier.notices room e.sender message online).filter fun n => p.notifier.reaches n.recipient
        ({ h with notices := h.notices ++ arrived }, some arrived.length)
  | _, _ => (h, none)

/-- send a chat message to its room and to the staff that listens -/
def deliverChat (h : Hub σ) (room : RoomId) (e : Outbound) (exclude : Option SessionId) : Hub σ × RouteReport :=
  let (b, report) := h.board.routeTo (.roomAndListeners room .staff) e exclude
  (h.withBoard b, report)

/-- the room that an envelope of a session may be sent to: the one that it names, or else the current one; a
customer may name no room but the current one -/
def postableRoom (s : Session) (raw : Option Json) : Option RoomId :=
  let room :=
    match raw with
    | some v => (RoomRef.roomOfJson v).toOption
    | none => s.currentRoom
  room.filter fun r => s.role ≠ .customer || s.currentRoom = some r

def onMessage (p : Policy σ) (h : Hub σ) (id : SessionId) (s : Session) (e : Inbound) : Hub σ :=
  match e.text?, postableRoom s e.room with
  | some message, some room =>
    let out := s.stamp h.now .message (some room) (some message) e.data
    -- the row is written before anybody sees the message, and who is away is looked up after it went out
    (notify p ((persist p h out).deliverChat room out (some id)).1 out).1
  | _, _ => h

def onTyping (h : Hub σ) (id : SessionId) (s : Session) (e : Inbound) : Hub σ :=
  match postableRoom s e.room with
  | some room => h.withBoard (h.board.route (s.stamp h.now e.kind (some room) none e.data) (some id)).1
  | none => h

/-- tell the staff that listens that a session opened a room -/
def announceOpened (h : Hub σ) (room : RoomId) (opener : Session) : Hub σ :=
  h.withBoard (h.board.routeTo (.listeners .staff) (opener.stamp h.now .roomOpened (some room) none none) none).1

def announceLeft (h : Hub σ) (room : RoomId) (s : Session) : Hub σ :=
  h.withBoard (h.board.route (s.stamp h.now .leaveRoom (some room) none none) none).1

def onJoin (h : Hub σ) (id : SessionId) (s : Session) (e : Inbound) : Hub σ :=
  match e.room.bind fun v => (RoomRef.roomOfJson v).toOption with
  | none => h
  | some room =>
    match h.board.join id room with
    | (_, .error _) => h
    | (b, .ok report) =>
      let h := (h.withBoard b).setCurrentRoom id (some room)
      let joined := s.stamp h.now .joinRoom (some room) none none
      -- the session has moved by now, so it gets the notice to its new room and not the one to its old room
      if report.unchanged then h.withBoard (h.board.reply id joined)
      else
        let h :=
          match report.left with
          | some prev => h.announceLeft prev s
          | none => h
        let h := h.withBoard (h.board.route joined none).1
        if report.roomCreated then h.announceOpened room s else h

def onLeave (h : Hub σ) (id : SessionId) (s : Session) : Hub σ :=
  match h.board.leave id with
  | (_, .error _) => h
  | (b, .ok none) => (h.withBoard b).setCurrentRoom id none
  | (b, .ok (some prev)) =>
    let h := (h.withBoard b).setCurrentRoom id none
    let h := h.withBoard (h.board.reply id (s.stamp h.now .leaveRoom (some prev) none none))
    h.announceLeft prev s

/-- act on an envelope of a session -/
def handle (p : Policy σ) (h : Hub σ) (id : SessionId) (e : Inbound) : Hub σ :=
  match h.board.session? id with
  | none => h
  | some s =>
    match e.kind with
    | .message => onMessage p h id s e
    | .typingStart | .typingStop => h.onTyping id s e
    | .joinRoom => h.onJoin id s e
    | .leaveRoom => h.onLeave id s
    | .ping => h.withBoard (h.board.reply id (s.stamp h.now .pong none none none))
    | .pong | .roomOpened => h

def handleText (p : Policy σ) (h : Hub σ) (id : SessionId) (frame : String) : Hub σ :=
  match Inbound.decode p.maxMessageBytes frame with
  | .ok (.envelope e) => handle p h id e
  | _ => h

/-- publish a chat message for somebody without a session: it is sent like any other, but neither stored nor
announced to staff who are away -/
def publish (h : Hub σ) (publisher : Sender) (e : Inbound) : Hub σ × Except PublishError RouteReport :=
  if e.kind ≠ .message then (h, .error (.unsupportedKind e.kind))
  else
    match e.room with
    | none => (h, .error .missingRoom)
    | some raw =>
      match RoomRef.roomOfJson raw with
      | .error reason => (h, .error (.room reason))
      | .ok room =>
        match e.text? with
        | none => (h, .error .emptyMessage)
        | some message =>
          let (h, report) := h.deliverChat room ⟨.message, some room, publisher, some message, e.data, h.now⟩ none
          (h, .ok report)

/-- let a new session in: register it in its current room, set it to work and announce the room that it opened -/
def connect (h : Hub σ) (id : SessionId) (s : Session) : Hub σ × Except RegistryError Registered :=
  let b := { h.board with sessions := h.board.sessions.insert id s }
  match b.register id s.currentRoom with
  -- a session that is not registered never gets to work
  | (b, .error e) => (h.withBoard (b.adjust id fun s => s.drain.close), .error e)
  | (b, .ok report) =>
    let h := h.withBoard (b.adjust id Session.activate)
    match report.roomCreated, s.currentRoom with
    | true, some room => (h.announceOpened room s, .ok report)
    | _, _ => (h, .ok report)

end Hub
end ErrandHub
