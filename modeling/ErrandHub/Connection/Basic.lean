/-
A connection between the hub and one client.

The writer of a connection sends what waits in the outbox, a ping whenever one is due, and at last a closing
frame. What a client does not read waits for it; when more waits than its buffer holds, the write hangs, and it
is given up after a while. A client that reads takes every frame at once.

All times are nanoseconds on the clock of the service.
-/
import ErrandHub.Connection.Frame
import ErrandHub.Session.Settings

namespace ErrandHub

/-- how a client treats what it is sent -/
structure Client where
  /-- whether it reads at all -/
  reads : Bool := true
  /-- whether it answers the pings that it reads -/
  answers : Bool := true
  /-- bytes that can wait for it -/
  buffer : Nat := 65536
  deriving Repr

inductive Presence where
  | present
  /-- it sent a closing frame -/
  | closed
  /-- it is gone without one -/
  | vanished
  deriving DecidableEq, Repr

/-- what a writer is at -/
inductive Writer where
  | idle
  /-- a write hangs until this time -/
  | writing (deadline : Nat)
  /-- the write of the closing frame hangs until this time -/
  | closing (deadline : Nat)
  | done
  deriving DecidableEq, Repr

structure Connection where
  client : Client
  presence : Presence := .present
  /-- frames that were written and not read, first one first -/
  unread : List Frame := []
  /-- frames that the client has read, first one first -/
  seen : List Frame := []
  writer : Writer := .idle
  /-- when a ping is due -/
  pingDue : Nat
  /-- when the read is given up -/
  readDue : Nat
  /-- reads given up in a row -/
  missed : Nat := 0
  /-- whether an answer of the client to a ping is on its way -/
  answering : Bool := false
  deriving Repr

namespace Connection

def opened (s : SessionSettings) (now : Nat) (client : Client) : Connection :=
  { client, pingDue := now + s.pingInterval.nanos, readDue := now + s.readDeadline.nanos }

/-- whether a client answers one of these frames -/
def elicits (client : Client) (frames : List Frame) : Bool :=
  client.answers && frames.any fun f => f matches .ping

def emit (c : Connection) (f : Frame) : Connection :=
  if c.client.reads then { c with seen := c.seen ++ [f], answering := c.answering || elicits c.client [f] }
  else { c with unread := c.unread ++ [f] }

/-- whether more waits for the client than its buffer holds -/
def isStuck (c : Connection) : Bool := c.client.buffer < Frame.totalSize c.unread

/-- write a frame, which may hang -/
def write (s : SessionSettings) (now : Nat) (c : Connection) (f : Frame) : Connection :=
  let c := c.emit f
  if c.isStuck then { c with writer := .writing (now + s.writeTimeout.nanos) } else c

/-- write envelopes until a write hangs, and leave the rest -/
def writeAll (s : SessionSettings) (now : Nat) : Connection → List Outbound → Connection × List Outbound
  | c, [] => (c, [])
  | c, e :: rest => if c.writer = .idle then writeAll s now (c.write s now (.text e)) rest else (c, e :: rest)

/-- how late a ping may be for the next one to keep its time -/
def pingTolerance : Nat := 5000000

/-- write a ping if one is due -/
def ping (s : SessionSettings) (now : Nat) (c : Connection) : Connection :=
  if c.writer = .idle && c.pingDue ≤ now then
    let last := if c.pingDue + pingTolerance < now then now else c.pingDue
    { c.write s now .ping with pingDue := last + s.pingInterval.nanos }
  else c

/-- end the writing: what did not fit into the buffer never arrives -/
def endWriting (c : Connection) : Connection :=
  { c with writer := .done, unread := Frame.fitting c.client.buffer c.unread }

/-- write the closing frame, unless the client is not there to hear it -/
def writeClose (s : SessionSettings) (now : Nat) (c : Connection) : Connection :=
  if c.presence ≠ .present then c.endWriting
  else
    let c := c.emit .close
    if c.isStuck then { c with writer := .closing (now + s.writeTimeout.nanos) } else c.endWriting

/-- give up a write that has hung for too long; whether there was one besides that of a closing frame -/
def expireWrite (now : Nat) (c : Connection) : Connection × Bool :=
  match c.writer with
  | .writing u => if u ≤ now then ({ c with writer := .idle }, true) else (c, false)
  | .closing u => if u ≤ now then (c.endWriting, false) else (c, false)
  | .idle | .done => (c, false)

/-- give up a read that was due; whether the session is given up with it -/
def expireRead (s : SessionSettings) (now : Nat) (c : Connection) : Connection × Bool :=
  if c.readDue ≤ now then
    match Liveness.next? s.patience c.missed .expired with
    | some missed => ({ c with missed, readDue := now + s.readDeadline.nanos }, false)
    | none => (c, true)
  else (c, false)

def hear (s : SessionSettings) (now : Nat) (c : Connection) : Connection :=
  { c with missed := 0, readDue := now + s.readDeadline.nanos }

/-- hear the answer to a ping, if one is on its way -/
def hearAnswer (s : SessionSettings) (now : Nat) (c : Connection) : Connection :=
  if c.answering then { c.hear s now with answering := false } else c

/-- have the client read all that waits for it, and all that is to come -/
def startReading (c : Connection) : Connection :=
  let writer : Writer :=
    match c.writer with
    | .writing _ => .idle
    | .closing _ => .done
    | w => w
  { c with client := { c.client with reads := true }, seen := c.seen ++ c.unread, unread := [], writer,
           answering := c.answering || elicits c.client c.unread }

/-- whether the read is given up before a ping that is due at the same time: the timer that was set first goes off
first -/
def readGoesFirst (s : SessionSettings) (c : Connection) : Bool :=
  c.readDue + s.pingInterval.nanos < c.pingDue + s.readDeadline.nanos

/-- when something is due, given whether the session is open -/
def dues (isOpen : Bool) (c : Connection) : List Nat :=
  match c.writer, isOpen with
  | .idle, true => [c.pingDue, c.readDue]
  | .writing u, true => [u, c.readDue]
  | .writing u, false | .closing u, _ => [u]
  | .idle, false | .done, _ => []

end Connection
end ErrandHub
