/-
Everything that can happen to a hub.

`Action` names what clients, publishers, writers and the service around it do to a hub. `step` performs one action
and reports what came of it; `run` performs any number of them, one after another.
-/
import ErrandHub.Hub.State

namespace ErrandHub.Hub

/-- something that happens to a hub -/
inductive Action where
  /-- a session comes up, and is not registered; one that is there already stays as it is -/
  | create (id : SessionId) (session : Session)
  /-- a session comes up and is let in; one that is there already stays as it is -/
  | connect (id : SessionId) (session : Session)
  | register (id : SessionId) (room : Option RoomId)
  | unregister (id : SessionId)
  | join (id : SessionId) (room : RoomId)
  | leave (id : SessionId)
  /-- somebody asks which identities are online -/
  | ask (candidates : List Identity)
  /-- a session sends a text frame -/
  | text (id : SessionId) (frame : String)
  /-- a session sends an envelope -/
  | envelope (id : SessionId) (e : Inbound)
  /-- somebody without a session publishes an envelope -/
  | publish (publisher : Sender) (e : Inbound)
  /-- a session is said to have opened a room -/
  | announce (id : SessionId) (room : RoomId)
  /-- an envelope is sent to an audience -/
  | route (audience : Audience) (e : Outbound) (exclude : Option SessionId)
  /-- an envelope is offered to one session -/
  | deliver (id : SessionId) (e : Outbound)
  /-- staff who are away are notified of an envelope -/
  | notify (e : Outbound)
  | drain (id : SessionId)
  | activate (id : SessionId)
  | close (id : SessionId)
  /-- the writer of a session takes envelopes from its outbox -/
  | take (id : SessionId) (count : Nat)
  /-- the writer of a session refuses new envelopes -/
  | refuse (id : SessionId)
  /-- the writer of a session goes, and the envelopes in its outbox with it -/
  | abandon (id : SessionId)
  /-- the clock shows another time -/
  | tick (now : Int64)

inductive Report where
  | done
  | registered (report : Except RegistryError Registered)
  | unregistered (report : Except RegistryError (Option Unregistered))
  | joined (report : Except RegistryError Joined)
  | left (report : Except RegistryError (Option RoomId))
  | online (identities : Except RegistryError (List Identity))
  | published (report : Except PublishError RouteReport)
  | routed (report : RouteReport)
  | offered (delivery : Delivery)
  | notified (count : Option Nat)
  /-- whether it was this action that ended the open phases -/
  | drained (now : Bool)
  | taken (envelopes : List Outbound)

variable {σ : Type}

def step (p : Policy σ) (h : Hub σ) : Action → Hub σ × Report
  | .create id session =>
    match h.board.session? id with
    | some _ => (h, .done)
    | none => (h.withBoard { h.board with sessions := h.board.sessions.insert id session }, .done)
  | .connect id session =>
    match h.board.session? id with
    | some _ => (h, .done)
    | none => let (h, r) := h.connect id session; (h, .registered r)
  | .register id room => let (b, r) := h.board.register id room; (h.withBoard b, .registered r)
  | .unregister id => let (b, r) := h.board.unregister id; (h.withBoard b, .unregistered r)
  | .join id room => let (b, r) := h.board.join id room; (h.withBoard b, .joined r)
  | .leave id => let (b, r) := h.board.leave id; (h.withBoard b, .left r)
  | .ask candidates => (h, .online (h.board.onlineAmong candidates))
  | .text id frame => (h.handleText p id frame, .done)
  | .envelope id e => (h.handle p id e, .done)
  | .publish publisher e => let (h, r) := h.publish publisher e; (h, .published r)
  | .announce id room =>
    match h.board.session? id with
    | some s => (h.announceOpened room s, .done)
    | none => (h, .done)
  | .route audience e exclude => let (b, r) := h.board.routeTo audience e exclude; (h.withBoard b, .routed r)
  | .deliver id e => let (b, d) := h.board.offer id e; (h.withBoard b, .offered d)
  | .notify e => let (h, n) := h.notify p e; (h, .notified n)
  | .drain id => (h.adjust id Session.drain, .drained ((h.board.session? id).any fun s => s.phase.isOpen))
  | .activate id => (h.adjust id Session.activate, .done)
  | .close id => (h.adjust id Session.close, .done)
  | .take id count =>
    (h.adjust id fun s => { s with outbox := (s.outbox.take count).1 },
      .taken (((h.board.session? id).map fun s => (s.outbox.take count).2).getD []))
  | .refuse id => (h.adjust id fun s => { s with outbox := s.outbox.close }, .done)
  | .abandon id => (h.adjust id fun s => { s with outbox := s.outbox.abandon }, .done)
  | .tick now => ({ h with now }, .done)

def run (p : Policy σ) (h : Hub σ) (actions : List Action) : Hub σ := actions.foldl (fun h a => (h.step p a).1) h

end ErrandHub.Hub
