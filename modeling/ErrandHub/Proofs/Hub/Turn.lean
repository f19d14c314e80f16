/-
What an action comes to: a change of its own, and then envelopes that are sent one after another.

A `Turn` says so as data: the board after the action's own change, the posts in order, and the chat message that is
stored and announced, if there is one. `step_board` says that the board after an action is what its turn comes to,
`handle_eq_perform` the same of everything that an envelope of a session does.
-/
import Mathlib.Tactic
import ErrandHub.Hub.Run
import ErrandHub.Proofs.Hub.Posting

namespace ErrandHub

/-- what an action comes to -/
structure Turn where
  /-- the board after the action's own change -/
  board : Board
  /-- the envelopes that are then sent, first one first -/
  posts : List Post := []
  /-- the chat message that is stored and announced to staff who are away -/
  chat : Option Outbound := none

namespace Turn

/-- the board once all is sent -/
def outcome (t : Turn) : Board := t.board.posts t.posts

/-- the envelopes that go into outboxes -/
def postings (t : Turn) : List Posting := t.board.postings t.posts

end Turn

namespace Hub

variable {σ : Type}

theorem board_persist (p : Policy σ) (h : Hub σ) (e : Outbound) : (persist p h e).board = h.board := by
  unfold persist
  split <;> rfl

/-- all that notifying those who are away does to the hub is in its notices -/
theorem notify_eq_notices (p : Policy σ) (h : Hub σ) (e : Outbound) :
    (notify p h e).1 = { h with notices := (notify p h e).1.notices } := by
  unfold notify
  split
  · simp only
    split_ifs
    · rfl
    · split <;> rfl
  · rfl

theorem board_notify (p : Policy σ) (h : Hub σ) (e : Outbound) : (notify p h e).1.board = h.board := by
  rw [notify_eq_notices]

theorem store_notify (p : Policy σ) (h : Hub σ) (e : Outbound) : (notify p h e).1.store = h.store := by
  rw [notify_eq_notices]

/-! ## Turns -/

/-- a chat message goes to its room and to the staff that listens, its sender aside -/
def messageTurn (h : Hub σ) (id : SessionId) (s : Session) (e : Inbound) : Turn :=
  match e.text?, postableRoom s e.room with
  | some message, some room =>
    let out := s.stamp h.now .message (some room) (some message) e.data
    ⟨h.board, [.route (.roomAndListeners room .staff) out (some id)], some out⟩
  | _, _ => { board := h.board }

/-- typing is shown to the room, its author aside -/
def typingTurn (h : Hub σ) (id : SessionId) (s : Session) (e : Inbound) : Turn :=
  match postableRoom s e.room with
  | some room =>
    { board := h.board, posts := [.route (.room room) (s.stamp h.now e.kind (some room) none e.data) (some id)] }
  | none => { board := h.board }

/-- the notice to the staff that listens that a session opened a room -/
def openedPost (now : Int64) (s : Session) (room : RoomId) : Post :=
  .route (.listeners .staff) (s.stamp now .roomOpened (some room) none none) none

/-- what is sent when a session has joined a room -/
def joinPosts (now : Int64) (id : SessionId) (s : Session) (room : RoomId) (report : Joined) : List Post :=
  let joined := s.stamp now .joinRoom (some room) none none
  if report.unchanged then [.reply id joined]
  else
    (report.left.toList.map fun prev => .route (.room prev) (s.stamp now .leaveRoom (some prev) none none) none)
      ++ .route (.room room) joined none
      :: if report.roomCreated then [openedPost now s room] else []

theorem mem_joinPosts {now : Int64} {id : SessionId} {s : Session} {room : RoomId} {report : Joined} {q : Post}
    (hq : q ∈ joinPosts now id s room report) :
    (report.unchanged = true ∧ q = .reply id (s.stamp now .joinRoom (some room) none none)) ∨
    (∃ prev, q = .route (.room prev) (s.stamp now .leaveRoom (some prev) none none) none) ∨
    q = .route (.room room) (s.stamp now .joinRoom (some room) none none) none ∨ q = openedPost now s room := by
  unfold joinPosts at hq
  simp only at hq
  split_ifs at hq with hunchanged hcreated
  · exact Or.inl ⟨hunchanged, List.mem_singleton.1 hq⟩
  · rcases List.mem_append.1 hq with hq | hq
    · obtain ⟨prev, -, rfl⟩ := List.mem_map.1 hq
      exact Or.inr (Or.inl ⟨prev, rfl⟩)
    · rcases List.mem_cons.1 hq with hq | hq
      · exact Or.inr (Or.inr (Or.inl hq))
      · exact Or.inr (Or.inr (Or.inr (List.mem_singleton.1 hq)))
  · rcases List.mem_append.1 hq with hq | hq
    · obtain ⟨prev, -, rfl⟩ := List.mem_map.1 hq
      exact Or.inr (Or.inl ⟨prev, rfl⟩)
    · exact Or.inr (Or.inr (Or.inl (List.mem_singleton.1 hq)))

/-- a session joins a room, and those concerned are told -/
def joinTurn (h : Hub σ) (id : SessionId) (s : Session) (e : Inbound) : Turn :=
  match e.room.bind fun v => (RoomRef.roomOfJson v).toOption with
  | none => { board := h.board }
  | some room =>
    match h.board.join id room with
    | (_, .error _) => { board := h.board }
    | (b, .ok report) =>
      { board := b.adjust id fun s => { s with currentRoom := some room }, posts := joinPosts h.now id s room report }

/-- a session leaves its room, and those concerned are told -/
def leaveTurn (h : Hub σ) (id : SessionId) (s : Session) : Turn :=
  match h.board.leave id with
  | (_, .error _) => { board := h.board }
  | (b, .ok none) => { board := b.adjust id fun s => { s with currentRoom := none } }
  | (b, .ok (some prev)) =>
    let left := s.stamp h.now .leaveRoom (some prev) none none
    { board := b.adjust id fun s => { s with currentRoom := none },
      posts := [.reply id left, .route (.room prev) left none] }

/-- what an envelope of a session comes to -/
def envelopeTurn (h : Hub σ) (id : SessionId) (e : Inbound) : Turn :=
  match h.board.session? id with
  | none => { board := h.board }
  | some s =>
    match e.kind with
    | .message => h.messageTurn id s e
    | .typingStart | .typingStop => h.typingTurn id s e
    | .joinRoom => h.joinTurn id s e
    | .leaveRoom => h.leaveTurn id s
    | .ping => { board := h.board, posts := [.reply id (s.stamp h.now .pong none none none)] }
    | .pong | .roomOpened => { board := h.board }

def publishTurn (h : Hub σ) (publisher : Sender) (e : Inbound) : Turn :=
  match e.room.bind fun v => (RoomRef.roomOfJson v).toOption, e.text? with
  | some room, some message =>
    if e.kind = .message then
      let out : Outbound := ⟨.message, some room, publisher, some message, e.data, h.now⟩
      { board := h.board, posts := [.route (.roomAndListeners room .staff) out none] }
    else { board := h.board }
  | _, _ => { board := h.board }

/-- a new session comes up and is registered, and the room that it opened is announced -/
def connectTurn (h : Hub σ) (id : SessionId) (s : Session) : Turn :=
  let b := { h.board with sessions := h.board.sessions.insert id s }
  match b.register id s.currentRoom with
  | (b, .error _) => { board := b.adjust id fun s => s.drain.close }
  | (b, .ok report) =>
    { board := b.adjust id Session.activate,
      posts :=
        match report.roomCreated, s.currentRoom with
        | true, some room => [openedPost h.now s room]
        | _, _ => [] }

/-- the envelope that an action brings from a session -/
def inbound? (p : Policy σ) : Action → Option (SessionId × Inbound)
  | .text id frame =>
    match Inbound.decode p.maxMessageBytes frame with
    | .ok (.envelope e) => some (id, e)
    | _ => none
  | .envelope id e => some (id, e)
  | _ => none

/-- what an envelope of a session comes to, if there is one -/
def inboundTurn (h : Hub σ) : Option (SessionId × Inbound) → Turn
  | some (id, e) => h.envelopeTurn id e
  | none => { board := h.board }

def turn (p : Policy σ) (h : Hub σ) (a : Action) : Turn :=
  match a with
  | .text .. | .envelope .. => h.inboundTurn (inbound? p a)
  | .create id s =>
    match h.board.session? id with
    | some _ => { board := h.board }
    | none => { board := { h.board with sessions := h.board.sessions.insert id s } }
  | .connect id s =>
    match h.board.session? id with
    | some _ => { board := h.board }
    | none => h.connectTurn id s
  | .register id room => { board := (h.board.register id room).1 }
  | .unregister id => { board := (h.board.unregister id).1 }
  | .join id room => { board := (h.board.join id room).1 }
  | .leave id => { board := (h.board.leave id).1 }
  | .publish publisher e => h.publishTurn publisher e
  | .announce id room =>
    match h.board.session? id with
    | some s => { board := h.board, posts := [openedPost h.now s room] }
    | none => { board := h.board }
  | .route audience e exclude => { board := h.board, posts := [.route audience e exclude] }
  | .deliver id e => { board := h.board, posts := [.offer id e] }
  | .drain id => { board := h.board.adjust id Session.drain }
  | .activate id => { board := h.board.adjust id Session.activate }
  | .close id => { board := h.board.adjust id Session.close }
  | .take id count => { board := h.board.adjust id fun s => { s with outbox := (s.outbox.take count).1 } }
  | .refuse id => { board := h.board.adjust id fun s => { s with outbox := s.outbox.close } }
  | .abandon id => { board := h.board.adjust id fun s => { s with outbox := s.outbox.abandon } }
  | .ask _ | .notify _ | .tick _ => { board := h.board }

/-- what holds of silence, and of whatever an envelope of a session comes to, holds of what is brought -/
theorem inboundTurn_induction {P : Turn → Prop} {h : Hub σ} (silent : P { board := h.board })
    (envelope : ∀ id e, P (h.envelopeTurn id e)) (brought : Option (SessionId × Inbound)) :
    P (h.inboundTurn brought) := by
  cases brought with
  | none => exact silent
  | some brought => exact envelope brought.1 brought.2

def postings (p : Policy σ) (h : Hub σ) (a : Action) : List Posting := (h.turn p a).postings

/-- carry out what an envelope of a session comes to: store the message, send, and notify those who are away -/
def perform (p : Policy σ) (h : Hub σ) (t : Turn) : Hub σ :=
  match t.chat with
  | none => h.withBoard t.outcome
  | some out => (notify p ((persist p h out).withBoard t.outcome) out).1

theorem board_perform (p : Policy σ) (h : Hub σ) (t : Turn) : (h.perform p t).board = t.outcome := by
  unfold perform
  split
  · rfl
  · rw [board_notify]
    rfl

theorem board_messageTurn (h : Hub σ) (id : SessionId) (s : Session) (e : Inbound) :
    (h.messageTurn id s e).board = h.board := by
  unfold messageTurn
  split <;> rfl

theorem board_typingTurn (h : Hub σ) (id : SessionId) (s : Session) (e : Inbound) :
    (h.typingTurn id s e).board = h.board := by
  unfold typingTurn
  split <;> rfl

theorem board_publishTurn (h : Hub σ) (publisher : Sender) (e : Inbound) :
    (h.publishTurn publisher e).board = h.board := by
  unfold publishTurn
  split
  · split_ifs <;> rfl
  · rfl

theorem chat_publishTurn (h : Hub σ) (publisher : Sender) (e : Inbound) : (h.publishTurn publisher e).chat = none := by
  unfold publishTurn
  split
  · split_ifs <;> rfl
  · rfl

/-! ## Actions are turns -/

theorem onMessage_eq_perform (p : Policy σ) (h : Hub σ) (id : SessionId) (s : Session) (e : Inbound) :
    onMessage p h id s e = h.perform p (h.messageTurn id s e) := by
  unfold onMessage messageTurn
  cases e.text? with
  | none => rfl
  | some message =>
    cases postableRoom s e.room with
    | none => rfl
    | some room =>
      simp only [perform, deliverChat, board_persist]
      rfl

theorem onTyping_eq_perform (p : Policy σ) (h : Hub σ) (id : SessionId) (s : Session) (e : Inbound) :
    h.onTyping id s e = h.perform p (h.typingTurn id s e) := by
  unfold onTyping typingTurn
  cases postableRoom s e.room <;> rfl

theorem onJoin_eq_perform (p : Policy σ) (h : Hub σ) (id : SessionId) (s : Session) (e : Inbound) :
    h.onJoin id s e = h.perform p (h.joinTurn id s e) := by
  unfold onJoin joinTurn
  cases e.room.bind fun v => (RoomRef.roomOfJson v).toOption with
  | none => rfl
  | some room =>
    rcases hj : h.board.join id room with ⟨b, reason | report⟩
    · simp only [hj]
      rfl
    · rcases report with ⟨left, roomCreated, unchanged⟩
      simp only [hj]
      cases unchanged with
      | true => rfl
      | false => cases left <;> cases roomCreated <;> rfl

theorem onLeave_eq_perform (p : Policy σ) (h : Hub σ) (id : SessionId) (s : Session) :
    h.onLeave id s = h.perform p (h.leaveTurn id s) := by
  unfold onLeave leaveTurn
  rcases h.board.leave id with ⟨b, reason | room⟩
  · rfl
  · cases room <;> rfl

/-- **Everything that an envelope of a session does is its turn.** -/
theorem handle_eq_perform (p : Policy σ) (h : Hub σ) (id : SessionId) (e : Inbound) :
    handle p h id e = h.perform p (h.envelopeTurn id e) := by
  unfold handle envelopeTurn
  cases h.board.session? id with
  | none => rfl
  | some s =>
    cases e.kind with
    | message => exact onMessage_eq_perform p h id s e
    | typingStart => exact onTyping_eq_perform p h id s e
    | typingStop => exact onTyping_eq_perform p h id s e
    | joinRoom => exact onJoin_eq_perform p h id s e
    | leaveRoom => exact onLeave_eq_perform p h id s
    | ping => rfl
    | pong => rfl
    | roomOpened => rfl

theorem handleText_of_decode (p : Policy σ) (h : Hub σ) (id : SessionId) {frame : String} {e : Inbound}
    (hdecoded : Inbound.decode p.maxMessageBytes frame = .ok (.envelope e)) :
    h.handleText p id frame = handle p h id e := by
  unfold handleText
  rw [hdecoded]

theorem turn_of_inbound (p : Policy σ) (h : Hub σ) {a : Action} {id : SessionId} {e : Inbound}
    (hin : inbound? p a = some (id, e)) : h.turn p a = h.envelopeTurn id e := by
  cases a with
  | text j frame => rw [turn, hin, inboundTurn]
  | envelope j e' => rw [turn, hin, inboundTurn]
  | _ => cases hin

/-- an action that brings an envelope of a session does what the turn of the envelope says, and nothing else -/
theorem step_eq_perform (p : Policy σ) (h : Hub σ) {a : Action} {id : SessionId} {e : Inbound}
    (hin : inbound? p a = some (id, e)) : (h.step p a).1 = h.perform p (h.turn p a) := by
  cases a with
  | text j frame =>
    simp only [inbound?] at hin
    split at hin
    · rename_i e' hdecode
      simp only [step, handleText, turn, inbound?, inboundTurn, hdecode, handle_eq_perform]
    · cases hin
  | envelope j e' => exact handle_eq_perform p h j e'
  | _ => cases hin

theorem publish_board (h : Hub σ) (publisher : Sender) (e : Inbound) :
    (h.publish publisher e).1.board = (h.publishTurn publisher e).outcome := by
  unfold publish publishTurn
  by_cases hk : e.kind = .message
  · rw [if_neg (not_not.2 hk)]
    cases e.room with
    | none => rfl
    | some raw =>
      cases hr : RoomRef.roomOfJson raw with
      | error reason =>
        simp only [hr, Except.toOption, Option.bind_some]
        rfl
      | ok room =>
        cases ht : e.text? with
        | none =>
          simp only [hr, Except.toOption, Option.bind_some]
          rfl
        | some message =>
          simp only [hr, hk, Except.toOption, Option.bind_some, if_true]
          rfl
  · rw [if_pos hk]
    split
    · rw [if_neg hk]
      rfl
    · rfl

/-- all that publishing an envelope does to the hub is on its board -/
theorem publish_eq_withBoard (h : Hub σ) (publisher : Sender) (e : Inbound) :
    (h.publish publisher e).1 = h.withBoard (h.publish publisher e).1.board := by
  unfold publish
  split_ifs
  · rfl
  · split
    · rfl
    · split
      · rfl
      · split <;> rfl

theorem connect_board (h : Hub σ) (id : SessionId) (s : Session) :
    (h.connect id s).1.board = (h.connectTurn id s).outcome := by
  unfold connect connectTurn
  simp only
  generalize Board.register { h.board with sessions := h.board.sessions.insert id s } id s.currentRoom = registered
  rcases registered with ⟨b, reason | report⟩
  · rfl
  · rcases report with ⟨inserted, roomCreated⟩
    cases roomCreated with
    | false => rfl
    | true => cases s.currentRoom <;> rfl

/-- **The board after an action is what its turn comes to.** -/
theorem step_board (p : Policy σ) (h : Hub σ) (a : Action) : (h.step p a).1.board = (h.turn p a).outcome := by
  cases a with
  | text id frame =>
    simp only [step, handleText, turn, inbound?, inboundTurn]
    rcases Inbound.decode p.maxMessageBytes frame with reason | decoded
    · rfl
    · cases decoded with
      | envelope e => simp only [handle_eq_perform, board_perform]
      | unknown type => rfl
  | envelope id e =>
    simp only [step, turn, inbound?, inboundTurn, handle_eq_perform, board_perform]
  | publish publisher e => exact h.publish_board publisher e
  | connect id s =>
    simp only [step, turn]
    cases h.board.session? id with
    | some _ => rfl
    | none => exact h.connect_board id s
  | create id s =>
    simp only [step, turn]
    cases h.board.session? id <;> rfl
  | announce id room =>
    simp only [step, turn]
    cases h.board.session? id <;> rfl
  | notify e => exact board_notify p h e
  | _ => rfl

/-- the board after an action is what the last posts of its turn make of the board that the first ones left -/
theorem step_board_of_split (p : Policy σ) {h : Hub σ} {a : Action} {sent rest : List Post}
    (hposts : (h.turn p a).posts = sent ++ rest) :
    (h.step p a).1.board = ((h.turn p a).board.posts sent).posts rest := by
  rw [step_board, Turn.outcome, Board.posts, hposts, List.foldl_append]
  rfl

end Hub
end ErrandHub
