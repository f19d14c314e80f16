/-
Whatever a hub says on behalf of somebody is from them.

The hub puts the sender on what it sends, stores and announces; a frame cannot. `OnlyFrom` says of a change of a hub
that everything it added, to an outbox, to the store or to the notices, is from one sender.

- `Turn.From`: all envelopes of a turn are from one sender. The turn of an envelope of a session is from that session
  (`envelopeTurn_from`), the turn of a published envelope from its publisher (`publishTurn_from`).
- `perform_onlyFrom`: to carry out such a turn adds only what is from that sender.
- `senders_not_spoofed`: the text frames of all sessions and all requests to the admin surface, in every state that a
  hub gets into.
-/
import Mathlib.Tactic
import ErrandHub.Hub.Admin
import ErrandHub.Proofs.Hub.Soundness

namespace ErrandHub

/-- store rows one after another -/
def Store.persistAll {σ : Type} (store : Store σ) (rows : List StoredMessage) (state : σ) : σ :=
  rows.foldl (fun state m => (store.persist m state).1) state

theorem StoredMessage.sender_of_ofEnvelope? {e : Outbound} {m : StoredMessage}
    (h : StoredMessage.ofEnvelope? e = some m) : m.sender = e.sender := by
  unfold StoredMessage.ofEnvelope? at h
  split at h
  · cases h
    rfl
  · cases h

theorem Notifier.sender_of_mem_notices {n : Notifier} {room : RoomId} {sender : Sender} {message : String}
    {online : List Identity} {notice : Notice} (h : notice ∈ n.notices room sender message online) :
    notice.sender = sender := by
  obtain ⟨i, -, rfl⟩ := List.mem_map.1 h
  rfl

namespace Board

variable {b b' : Board}

theorem envelope_of_mem_postings {qs : List Post} {d : Posting} (hd : d ∈ b.postings qs) :
    ∃ q ∈ qs, d.envelope = q.envelope := by
  induction qs generalizing b with
  | nil => cases hd
  | cons q qs ih =>
    rw [postings, List.mem_append] at hd
    rcases hd with hd | hd
    · obtain ⟨id, -, rfl⟩ := List.mem_map.1 hd
      exact ⟨q, List.mem_cons_self, rfl⟩
    · obtain ⟨q', hq', henvelope⟩ := ih hd
      exact ⟨q', List.mem_cons_of_mem q hq', henvelope⟩

theorem Moved.session_before {id j : SessionId} {t : Session} (m : b.Moved id b') (ht : b'.session? j = some t) :
    ∃ s, b.session? j = some s ∧ s.SameOwner t ∧ t.outbox = s.outbox := by
  have hadjust : ∀ (c : Board) (room : Option RoomId),
      (c.adjust id fun s => { s with currentRoom := room }).session? j = some t →
        ∃ s, c.session? j = some s ∧ s.SameOwner t ∧ t.outbox = s.outbox := by
    intro c room hc
    rw [session?_adjust] at hc
    split_ifs at hc with hj
    · obtain ⟨s, hs, rfl⟩ := Option.map_eq_some_iff.1 hc
      exact ⟨s, hs, ⟨rfl, rfl⟩, rfl⟩
    · exact ⟨t, hc, ⟨rfl, rfl⟩, rfl⟩
  cases m with
  | unchanged => exact ⟨t, ht, ⟨rfl, rfl⟩, rfl⟩
  | @stayed entry room => exact hadjust b room ht
  | @moved entry room r' => exact hadjust { b with registry := r' } room ht

end Board

/-- all envelopes of a turn are from one sender, and there are none if nobody is -/
structure Turn.From (t : Turn) (who : Option Sender) : Prop where
  posts : ∀ q ∈ t.posts, some q.envelope.sender = who
  chat : ∀ e, t.chat = some e → some e.sender = who

theorem Turn.from_silent (b : Board) (who : Option Sender) : ({ board := b } : Turn).From who := by
  refine ⟨fun q hq => ?_, fun e he => ?_⟩
  · cases hq
  · cases he

namespace Hub

variable {σ : Type}

/-! ## Turns -/

theorem joinPosts_from {now : Int64} {id : SessionId} {s : Session} {room : RoomId} {report : Joined} {q : Post}
    (hq : q ∈ joinPosts now id s room report) : q.envelope.sender = s.sender := by
  rcases mem_joinPosts hq with ⟨-, rfl⟩ | ⟨prev, rfl⟩ | rfl | rfl <;> rfl

theorem envelopeTurn_from (h : Hub σ) (id : SessionId) (e : Inbound) :
    (h.envelopeTurn id e).From ((h.board.session? id).map Session.sender) := by
  unfold envelopeTurn
  cases h.board.session? id with
  | none => exact Turn.from_silent _ _
  | some s =>
    -- whatever the turn says, it says in the name of the session
    have hone : ∀ (b : Board) (q : Post), q.envelope.sender = s.sender →
        ({ board := b, posts := [q] } : Turn).From (some s.sender) := by
      intro b q hq
      refine ⟨fun q' hq' => ?_, fun e he => by cases he⟩
      rw [List.mem_singleton.1 hq', hq]
    have htyping : (h.typingTurn id s e).From (some s.sender) := by
      unfold typingTurn
      split
      · exact hone _ _ rfl
      · exact Turn.from_silent _ _
    simp only [Option.map_some]
    cases e.kind with
    | message =>
      simp only [messageTurn]
      split
      · refine ⟨fun q hq => ?_, fun out hout => ?_⟩
        · rw [List.mem_singleton.1 hq]
          rfl
        · cases hout
          rfl
      · exact Turn.from_silent _ _
    | typingStart => exact htyping
    | typingStop => exact htyping
    | joinRoom =>
      simp only [joinTurn]
      split
      · exact Turn.from_silent _ _
      · split
        · exact Turn.from_silent _ _
        · exact ⟨fun q hq => congrArg some (joinPosts_from hq), fun e he => by cases he⟩
    | leaveRoom =>
      simp only [leaveTurn]
      split
      · exact Turn.from_silent _ _
      · exact Turn.from_silent _ _
      · refine ⟨fun q hq => ?_, fun e he => by cases he⟩
        rcases List.mem_cons.1 hq with rfl | hq
        · rfl
        · rw [List.mem_singleton.1 hq]
          rfl
    | ping => exact hone _ _ rfl
    | pong => exact Turn.from_silent _ _
    | roomOpened => exact Turn.from_silent _ _

theorem publishTurn_from (h : Hub σ) (publisher : Sender) (e : Inbound) :
    (h.publishTurn publisher e).From (some publisher) := by
  unfold publishTurn
  split
  · split_ifs
    · refine ⟨fun q hq => ?_, fun e he => by cases he⟩
      rw [List.mem_singleton.1 hq]
      rfl
    · exact Turn.from_silent _ _
  · exact Turn.from_silent _ _

/-- everything that publishing an envelope does is its turn -/
theorem publish_eq_perform (p : Policy σ) (h : Hub σ) (publisher : Sender) (e : Inbound) :
    (h.publish publisher e).1 = h.perform p (h.publishTurn publisher e) := by
  rw [publish_eq_withBoard, publish_board, perform, chat_publishTurn]

/-! ## What is stored and announced -/

theorem notices_notify (p : Policy σ) (h : Hub σ) (e : Outbound) :
    ∃ new, (notify p h e).1.notices = h.notices ++ new ∧ ∀ n ∈ new, n.sender = e.sender := by
  have hnone : ∃ new, h.notices = h.notices ++ new ∧ ∀ n ∈ new, n.sender = e.sender :=
    ⟨[], by simp, fun n hn => by cases hn⟩
  unfold notify
  split
  · simp only
    split_ifs
    · exact hnone
    · split
      · exact hnone
      · refine ⟨_, rfl, fun n hn => ?_⟩
        exact Notifier.sender_of_mem_notices (List.mem_filter.1 hn).1
  · exact hnone

theorem store_persist (p : Policy σ) (h : Hub σ) (e : Outbound) :
    ∃ rows, (persist p h e).store = p.store.persistAll rows h.store ∧ ∀ m ∈ rows, m.sender = e.sender := by
  unfold persist
  split
  · rename_i m hm
    refine ⟨[m], rfl, fun m' hm' => ?_⟩
    rw [List.mem_singleton.1 hm']
    exact StoredMessage.sender_of_ofEnvelope? hm
  · exact ⟨[], rfl, fun m hm => by cases hm⟩

theorem notices_persist (p : Policy σ) (h : Hub σ) (e : Outbound) : (persist p h e).notices = h.notices := by
  unfold persist
  split <;> rfl

/-- a change of a hub that adds only what is from one sender, and nothing if there is none -/
structure OnlyFrom (p : Policy σ) (h h' : Hub σ) (who : Option Sender) : Prop where
  /-- each session is whose it was, and its outbox is what it was and then envelopes from the sender -/
  sent : ∀ id t, h'.board.session? id = some t → ∃ s, h.board.session? id = some s ∧ s.SameOwner t ∧
    ∃ new, t.outbox.waiting = s.outbox.waiting ++ new ∧ ∀ e ∈ new, some e.sender = who
  /-- what the store was given are rows from the sender -/
  stored : ∃ rows, h'.store = p.store.persistAll rows h.store ∧ ∀ m ∈ rows, some m.sender = who
  /-- the notices are what they were and then notices from the sender -/
  announced : ∃ new, h'.notices = h.notices ++ new ∧ ∀ n ∈ new, some n.sender = who

theorem OnlyFrom.refl (p : Policy σ) (h : Hub σ) (who : Option Sender) : h.OnlyFrom p h who where
  sent _ t ht := ⟨t, ht, ⟨rfl, rfl⟩, [], by simp, fun e he => by cases he⟩
  stored := ⟨[], rfl, fun m hm => by cases hm⟩
  announced := ⟨[], by simp, fun n hn => by cases hn⟩

/-- to carry out a turn that is from one sender adds only what is from them -/
theorem perform_onlyFrom (p : Policy σ) {h : Hub σ} {t : Turn} {who : Option Sender} (hfrom : t.From who)
    (hconsistent : t.board.registry.Consistent) (hbefore : ∀ j u, t.board.session? j = some u →
      ∃ s, h.board.session? j = some s ∧ s.SameOwner u ∧ u.outbox = s.outbox) :
    h.OnlyFrom p (h.perform p t) who := by
  refine ⟨fun id u hu => ?_, ?_, ?_⟩
  -- outboxes: what was waiting, and then only envelopes of the posts
  · rw [board_perform, Turn.outcome] at hu
    cases hmid : t.board.session? id with
    | none =>
      rw [Board.session?_posts_of_none hconsistent t.posts hmid] at hu
      cases hu
    | some v =>
      obtain ⟨u', hu', hsame, hwaiting⟩ := Board.session?_posts hconsistent t.posts hmid
      rw [hu] at hu'
      cases hu'
      obtain ⟨s, hs, howner, houtbox⟩ := hbefore id v hmid
      refine ⟨s, hs, howner.trans hsame.toSameOwner, _, houtbox ▸ hwaiting, fun e he => ?_⟩
      obtain ⟨d, hd, rfl⟩ := List.mem_map.1 he
      obtain ⟨q, hq, henvelope⟩ := Board.envelope_of_mem_postings (List.mem_filter.1 hd).1
      rw [henvelope]
      exact hfrom.posts q hq
  · unfold perform
    split
    · exact ⟨[], rfl, fun m hm => by cases hm⟩
    · rename_i out hout
      -- rows and notices are made of the chat message of the turn alone, which is from the same sender
      obtain ⟨rows, hrows, hsender⟩ := store_persist p h out
      refine ⟨rows, ?_, fun m hm => ?_⟩
      · rw [store_notify]
        exact hrows
      · rw [hsender m hm]
        exact hfrom.chat out hout
  · unfold perform
    split
    · exact ⟨[], by simp [withBoard], fun n hn => by cases hn⟩
    · rename_i out hout
      obtain ⟨new, hnew, hsender⟩ := notices_notify p ((persist p h out).withBoard t.outcome) out
      refine ⟨new, ?_, fun n hn => ?_⟩
      · rw [hnew]
        exact congrArg (· ++ new) (notices_persist p h out)
      · rw [hsender n hn]
        exact hfrom.chat out hout

theorem handleText_onlyFrom (p : Policy σ) {h : Hub σ} (hs : h.board.Sound Session.Owns) (id : SessionId)
    (frame : String) : h.OnlyFrom p (h.handleText p id frame) ((h.board.session? id).map Session.sender) := by
  unfold handleText
  split
  · rename_i e _
    rw [handle_eq_perform]
    have hmoved := envelopeTurn_moved h id e
    refine perform_onlyFrom p (envelopeTurn_from h id e) ?_ fun j u hu => hmoved.session_before hu
    exact (hs.of_moved Session.tracks_owns hmoved).consistent
  · exact OnlyFrom.refl p h _

theorem publish_onlyFrom (p : Policy σ) {h : Hub σ} (hs : h.board.Sound Session.Owns) (publisher : Sender)
    (e : Inbound) : h.OnlyFrom p (h.publish publisher e).1 (some publisher) := by
  rw [h.publish_eq_perform p]
  refine perform_onlyFrom p (publishTurn_from h publisher e) ?_ fun j u hu => ?_
  · rw [board_publishTurn]
    exact hs.consistent
  · rw [board_publishTurn] at hu
    exact ⟨u, hu, ⟨rfl, rfl⟩, rfl⟩

end Hub

namespace Admin

variable {σ : Type}

/-- whom the credential of a request is verified to belong to -/
def publisher? (a : Setup) (r : Request) : Option Sender :=
  ((a.verifier.verify a.now (credential r.authorization)).toOption).map fun who => ⟨who.identity, who.role⟩

theorem publish_onlyFrom (p : Policy σ) (a : Setup) {h : Hub σ} (hs : h.board.Sound Session.Owns) (r : Request) :
    h.OnlyFrom p (publish a h r).1 (publisher? a r) := by
  unfold publish publisher?
  split
  · exact Hub.OnlyFrom.refl p h _
  · rename_i who hwho
    rw [hwho]
    split_ifs
    · exact Hub.OnlyFrom.refl p h _
    · split
      · exact Hub.OnlyFrom.refl p h _
      · split
        · exact Hub.OnlyFrom.refl p h _
        · exact Hub.OnlyFrom.refl p h _
        · rename_i e _
          have hpublished := Hub.publish_onlyFrom p hs ⟨who.identity, who.role⟩ e
          split <;> rename_i heq <;> rw [heq] at hpublished <;> exact hpublished

theorem answer_onlyFrom (p : Policy σ) (a : Setup) (ready : Bool) {h : Hub σ} (hs : h.board.Sound Session.Owns)
    (r : Request) : h.OnlyFrom p (answer a ready h r).1 (publisher? a r) := by
  unfold answer
  split
  · exact Hub.OnlyFrom.refl p h _
  · exact Hub.OnlyFrom.refl p h _
  · split <;> exact Hub.OnlyFrom.refl p h _
  · exact publish_onlyFrom p a hs r
  · exact Hub.OnlyFrom.refl p h _

end Admin

/-- **Senders cannot be spoofed.** Whatever a hub went through and whatever a text frame says, all that comes of the
frame, in outboxes, in the store and in notices, is from the session that sent it. All that comes of a published
envelope is from its publisher, and all that comes of a request to the admin surface from whom its credential is
verified to belong to. -/
theorem Hub.senders_not_spoofed {σ : Type} (p : Policy σ) (store : σ) (now : Int64) (running : Bool)
    (actions : List Hub.Action) :
    let h := Hub.run p (Hub.start store now running) actions
    (∀ id frame, h.OnlyFrom p (h.handleText p id frame) ((h.board.session? id).map Session.sender)) ∧
      (∀ publisher e, h.OnlyFrom p (h.publish publisher e).1 (some publisher)) ∧
      ∀ (a : Admin.Setup) (ready : Bool) (r : Admin.Request),
        h.OnlyFrom p (Admin.answer a ready h r).1 (Admin.publisher? a r) := by
  intro h
  have hs : h.board.Sound Session.Owns := Hub.run_owned p store now running actions
  refine ⟨fun id frame => ?_, fun publisher e => ?_, fun a ready r => ?_⟩
  · exact Hub.handleText_onlyFrom p hs id frame
  · exact Hub.publish_onlyFrom p hs publisher e
  · exact Admin.answer_onlyFrom p a ready hs r

end ErrandHub
