/-
The hub in service: connections, and time.

A service is a hub with its connections and a clock. Connections are opened by upgrade requests, which are given
up when they are not complete in time. What a client sends changes the hub, and the writers of all connections
then run as far as they get. Time moves only by `advance`, which stops at every moment at which something is due,
in order: a ping, a read or a write to be given up, an upgrade.
-/
import ErrandHub.Config.Basic
import ErrandHub.Connection.Basic
import ErrandHub.Connection.RequestHead
import ErrandHub.Hub.State
import ErrandHub.Store.Memory

namespace ErrandHub

structure Setup (σ : Type) where
  verifier : Verifier
  settings : SessionSettings
  store : Store σ
  notifier : Notifier

def Setup.policy {σ : Type} (p : Setup σ) : Policy σ := ⟨p.store, p.notifier, p.settings.maxMessageBytes.toNat⟩

/-- set a service up as configured: messages are kept as long as it runs if they are to be kept at all -/
def Setup.ofConfig (c : Config) : Setup Memory where
  verifier := c.server.verifier
  settings := c.session
  store := if c.persistence.enabled then .memory else .disabled
  notifier := { roster := if c.notify.enabled then some c.notify.staff else none }

structure Service (σ : Type) where
  hub : Hub σ
  connections : Table SessionId Connection := {}
  /-- upgrade requests that are not complete, and when they are given up -/
  upgrades : List (SessionId × Nat) := []
  /-- connections that were handled to their end, first one first -/
  ended : List SessionId := []
  /-- nanoseconds since the start -/
  now : Nat := 0

namespace Service

variable {σ : Type}

/-- the connection and the session of a name, as long as they are handled -/
def line? (v : Service σ) (id : SessionId) : Option (Connection × Session) :=
  if v.ended.contains id then none
  else
    match v.connections.get? id, v.hub.board.session? id with
    | some c, some s => some (c, s)
    | _, _ => none

def adjust (v : Service σ) (id : SessionId) (f : Connection → Connection) : Service σ :=
  { v with connections := v.connections.adjust id f }

def adjustSession (v : Service σ) (id : SessionId) (f : Session → Session) : Service σ :=
  { v with hub := v.hub.adjust id f }

def drain (v : Service σ) (id : SessionId) : Service σ := v.adjustSession id Session.drain

/-- run the writer of a connection as far as it gets -/
def runWriter (s : SessionSettings) (now : Nat) (v : Service σ) (id : SessionId) : Service σ :=
  match v.line? id with
  | none => v
  | some (c, session) =>
    if c.writer ≠ .idle then v
    else if session.phase.isOpen then
      let (c, rest) := c.writeAll s now session.outbox.waiting
      (v.adjust id fun _ => c.ping s now).adjustSession id fun x => { x with outbox := { x.outbox with waiting := rest } }
    else (v.adjust id fun _ => c.writeClose s now).adjustSession id fun x => { x with outbox := x.outbox.close }

/-- end the handling of a connection whose writer is done -/
def conclude (v : Service σ) (id : SessionId) : Service σ :=
  match v.line? id with
  | none => v
  | some (c, _) =>
    if c.writer = .done then
      let v := v.drain id
      let v := { v with hub := v.hub.withBoard (v.hub.board.unregister id).1, ended := v.ended ++ [id] }
      v.adjustSession id Session.close
    else v

def hearAnswer (s : SessionSettings) (now : Nat) (v : Service σ) (id : SessionId) : Service σ :=
  v.adjust id fun c => c.hearAnswer s now

/-- run the writers of all connections as far as they get, and hear what that brings -/
def settle (p : Setup σ) (now : Nat) (v : Service σ) : Service σ :=
  v.connections.keys.foldl (fun v id => ((v.runWriter p.settings now id).conclude id).hearAnswer p.settings now id) v

/-- give up a write that has hung for too long -/
def expireWrite (now : Nat) (v : Service σ) (id : SessionId) : Service σ :=
  match v.line? id with
  | none => v
  | some (c, _) =>
    let (c, failed) := c.expireWrite now
    let v := v.adjust id fun _ => c
    if failed then v.drain id else v

/-- give up a read that was due, and the session once its patience ends -/
def expireRead (s : SessionSettings) (now : Nat) (v : Service σ) (id : SessionId) : Service σ :=
  match v.line? id with
  | none => v
  | some (c, session) =>
    if session.phase.isOpen then
      let (c, silent) := c.expireRead s now
      let v := v.adjust id fun _ => c
      if silent then v.drain id else v
    else v

/-- let the timers of a connection go off that are due -/
def fire (s : SessionSettings) (now : Nat) (v : Service σ) (id : SessionId) : Service σ :=
  let v := v.expireWrite now id
  let readFirst := (v.connections.get? id).any fun c => c.readGoesFirst s
  let v := if readFirst then v.expireRead s now id else v
  (v.runWriter s now id).expireRead s now id

/-- let everything happen that is due at a time -/
def fireAll (p : Setup σ) (now : Nat) (v : Service σ) : Service σ :=
  let (late, waiting) := v.upgrades.partition fun u => u.2 ≤ now
  let v := { v with upgrades := waiting, ended := v.ended ++ late.map Prod.fst }
  (v.connections.keys.foldl (fire p.settings now) v).settle p now

def dues (v : Service σ) : List Nat :=
  v.upgrades.map Prod.snd ++ v.connections.keys.flatMap fun id =>
    match v.line? id with
    | some (c, session) => c.dues session.phase.isOpen
    | none => []

/-- the first of some times that is after one time and not after another -/
def nextDue? (now horizon : Nat) (times : List Nat) : Option Nat := (times.filter fun t => now < t && t ≤ horizon).min?

theorem nextDue?_bounds {now horizon t : Nat} {times : List Nat} (h : nextDue? now horizon times = some t) :
    now < t ∧ t ≤ horizon := by
  have hm := List.min?_mem h
  simpa using (List.mem_filter.1 hm).2

/-- let everything happen that is due from one time to another -/
def advanceTo (p : Setup σ) (now horizon : Nat) (v : Service σ) : Service σ :=
  match h : nextDue? now horizon v.dues with
  | none => v
  | some t =>
    have : now < t ∧ t ≤ horizon := nextDue?_bounds h
    advanceTo p t horizon (v.fireAll p t)
termination_by horizon - now

def advance (p : Setup σ) (v : Service σ) (d : Duration) : Service σ :=
  let horizon := v.now + d.nanos
  let v := advanceTo p v.now horizon v
  { v with now := horizon, hub := { v.hub with now := v.hub.now + Int64.ofNat (d.nanos / 1000000) } }

/-- open a connection for an upgrade request, or refuse to -/
def connect (p : Setup σ) (v : Service σ) (id : SessionId) (client : Client) (h : Handshake) :
    Service σ × Except Rejection Admission :=
  match h.admission p.verifier (v.hub.now.toInt / 1000).toNat with
  | .error r => ({ v with ended := v.ended ++ [id] }, .error r)
  | .ok a =>
    let session : Session :=
      { identity := a.who.identity, role := a.who.role, currentRoom := a.room,
        outbox := .ofCapacity p.settings.outboxCapacity.toNat }
    let c := Connection.opened p.settings v.now client
    match v.hub.connect id session with
    | (hub, .ok _) => (({ v with hub, connections := v.connections.insert id c }).settle p v.now, .ok a)
    | (hub, .error _) =>
      ({ v with hub, connections := v.connections.insert id { c with writer := .done }, ended := v.ended ++ [id] }, .ok a)

/-- what comes of the bytes of an upgrade request that nothing follows -/
inductive Upgrade where
  /-- more of it is waited for -/
  | incomplete
  /-- it is not answered -/
  | dropped
  | answered (answer : Except Rejection Admission)

/-- the first line of the answer, blank if there is none -/
def Upgrade.statusLine : Upgrade → String
  | .incomplete | .dropped => ""
  | .answered (.ok _) => "HTTP/1.1 101 Switching Protocols"
  | .answered (.error (.unauthorized _)) => "HTTP/1.1 401 Unauthorized"
  | .answered (.error (.badRoom _)) => "HTTP/1.1 400 Bad Request"

/-- take bytes for an upgrade request of a client that sends nothing else -/
def upgrade (p : Setup σ) (v : Service σ) (id : SessionId) (bytes : List UInt8) : Service σ × Upgrade :=
  let r := RequestHead.Reader.read bytes
  match r.place with
  | .complete =>
    if r.head.opensConnection then
      let (v, answer) := v.connect p id { answers := false } r.head.handshake
      (v, .answered answer)
    else ({ v with ended := v.ended ++ [id] }, .dropped)
  | .malformed => ({ v with ended := v.ended ++ [id] }, .dropped)
  | _ => ({ v with upgrades := v.upgrades ++ [(id, v.now + p.settings.handshakeTimeout.nanos)] }, .incomplete)

def handle (p : Setup σ) (v : Service σ) (id : SessionId) (f : ClientFrame) : Service σ :=
  if p.settings.socketFrameLimit.toNat < f.contentSize then v.drain id
  else
    let v := v.adjust id fun c => c.hear p.settings v.now
    match f with
    | .text t => { v with hub := v.hub.handleText p.policy id t }
    | .ping n => v.adjust id fun c => c.emit (.pong n)
    | .close => v.drain id
    | .binary _ | .pong => v

/-- take a frame from a client; whether the client could send it -/
def receive (p : Setup σ) (v : Service σ) (id : SessionId) (f : ClientFrame) : Service σ × Bool :=
  match v.line? id with
  | none => (v, false)
  | some (c, session) =>
    if c.presence ≠ .present then (v, false)
    else
      let v := if f = .close then v.adjust id fun c => { c with presence := .closed } else v
      ((if session.phase.isOpen then v.handle p id f else v).settle p v.now, true)

def startReading (p : Setup σ) (v : Service σ) (id : SessionId) : Service σ :=
  (v.adjust id Connection.startReading).settle p v.now

def vanish (p : Setup σ) (v : Service σ) (id : SessionId) : Service σ :=
  if v.upgrades.any fun u => u.1 = id then
    { v with upgrades := v.upgrades.filter fun u => u.1 ≠ id, ended := v.ended ++ [id] }
  else ((v.drain id).adjust id fun c => { c.endWriting with presence := .vanished }).settle p v.now

/-- whether a client has been told that its connection is over -/
def sawEnd (v : Service σ) (id : SessionId) : Bool :=
  v.ended.contains id && (v.connections.get? id).any fun c => c.client.reads && c.presence ≠ .vanished

end Service
end ErrandHub
