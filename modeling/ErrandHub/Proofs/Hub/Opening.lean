/-
Notices that a room was opened.

A room is opened when a session enters it that nobody was in (`Registry.Opened`), and the staff that listens is told so.
Clients cannot say so themselves: no text frame brings such an envelope, and a hub makes nothing of one that a session
sends. In a run in which nobody else forges such notices (`Action.forges`), all of them tell of openings.

- `opened_of_joined`, `opened_of_registered`: a room is opened when the registry reports it to be new.
- `opening_of_mem_posts`: what an action sends that says that a room was opened.
- `exists_pruning`: a room that is there at some time in a run and not at some later time was pruned in between.
- `pruned_between`: a room that is opened twice was pruned by the action that opened it first or by a later one.
- `room_openings_genuine`: all notices of a run, and the pruning that comes before a second one for the same room.
-/
import Mathlib.Tactic
import ErrandHub.Proofs.Envelope.Inbound
import ErrandHub.Proofs.Hub.Confidentiality
import ErrandHub.Proofs.Hub.Queue
import ErrandHub.Proofs.Registry.Operation

namespace ErrandHub

/-! ## Rooms that are opened -/

namespace Registry

/-- a session enters a room that nobody was in and that was not there, and is alone in it -/
structure Opened (r r' : Registry) (q : RoomId) (id : SessionId) : Prop where
  empty : r.members q = []
  absent : r.rooms.contains q = false
  /-- the session is in the room then, and nobody else is -/
  entered : ∀ j, j ∈ r'.members q ↔ j = id
  present : r'.rooms.contains q = true

variable {r : Registry}

theorem Consistent.absent_iff (h : Consistent r) (q : RoomId) : r.rooms.contains q = false ↔ r.members q = [] := by
  rw [← Bool.not_eq_true, h.contains_room_iff, h.members_eq, List.eq_nil_iff_forall_not_mem, not_exists]
  simp only [h.mem_roster_iff]

/-- an operation that brings its session to a room which it was not in, and nobody else is, opens the room -/
theorem opened_step (h : Consistent r) (c : Command) {q : RoomId} (halone : r.sharedWith c.session q = false)
    (hbefore : r.roomOf c.session ≠ some q) (hafter : (r.step c).1.roomOf c.session = some q) :
    Opened r (r.step c).1 q c.session := by
  have h' := step_consistent r c h
  have hothers : ∀ j, j ≠ c.session → r.roomOf j ≠ some q := by
    -- `sharedWith` counts the others alone, whatever room the session itself is in
    intro j hj hroom
    rw [(r.sharedWith_iff c.session q).2 ⟨j, hj, hroom⟩] at halone
    cases halone
  have hempty : r.members q = [] := by
    refine List.eq_nil_iff_forall_not_mem.2 fun j hj => ?_
    rw [h.members_eq, h.mem_roster_iff] at hj
    by_cases hself : j = c.session
    · exact hbefore (hself ▸ hj)
    · exact hothers j hself hj
  refine ⟨hempty, (h.absent_iff q).2 hempty, fun j => ?_, (h'.contains_room_iff q).2 ⟨_, hafter⟩⟩
  rw [h'.members_eq, h'.mem_roster_iff]
  constructor
  · intro hj
    by_contra hself
    refine hothers j hself ?_
    rw [roomOf, (step_confined r c).sessions j hself] at hj
    exact hj
  · rintro rfl
    exact hafter

theorem opened_of_joined (h : Consistent r) {id : SessionId} {q : RoomId} {report : Joined}
    (hreport : (r.join id q).2 = .ok report) (hcreated : report.roomCreated = true) :
    Opened r (r.join id q).1 q id := by
  have hsaid := report_step h (.join id q)
  have hentry := get?_step r (.join id q) id
  simp only [step, Command.session, if_pos, Command.entry] at hsaid hentry
  rw [hreport] at hsaid
  cases hid : r.sessions.get? id with
  | none =>
    rw [hid] at hsaid
    cases hsaid
  | some entry =>
    rw [hid, Command.report, Report.joined.injEq, Except.ok.injEq] at hsaid
    split_ifs at hsaid with hhere
    · rw [hsaid] at hcreated
      cases hcreated
    · rw [hsaid] at hcreated
      refine opened_step h (.join id q) (by simpa [Command.session] using hcreated) ?_ ?_
      · simpa [roomOf, Command.session, hid] using hhere
      · simp [roomOf, Command.session, step, hentry, hid]

theorem opened_of_registered (h : Consistent r) {id : SessionId} {entry : Entry}
    (hcreated : (r.register id entry).2.roomCreated = true) :
    ∃ q, entry.room = some q ∧ Opened r (r.register id entry).1 q id := by
  have hsaid := report_step h (.register id entry)
  have hentry := get?_step r (.register id entry) id
  simp only [step, Command.session, if_pos, Command.entry] at hsaid hentry
  cases hid : r.sessions.get? id with
  | some before =>
    rw [hid, Command.report, Report.registered.injEq] at hsaid
    rw [hsaid] at hcreated
    cases hcreated
  | none =>
    rw [hid, Command.report, Report.registered.injEq] at hsaid
    rw [hsaid] at hcreated
    obtain ⟨q, hq, halone⟩ := (Option.any_eq_true _ _).1 hcreated
    refine ⟨q, hq, opened_step h (.register id entry) (by simpa [Command.session] using halone) ?_ ?_⟩
    · simp [roomOf, Command.session, hid]
    · simp [roomOf, Command.session, step, hentry, hid, hq]

end Registry

/-! ## Boards -/

namespace Board

variable {b b' : Board}

theorem opened_of_joined (h : b.registry.Consistent) {id : SessionId} {q : RoomId} {report : Joined}
    (hjoin : b.join id q = (b', .ok report)) (hcreated : report.roomCreated = true) :
    Registry.Opened b.registry b'.registry q id := by
  unfold Board.join at hjoin
  split_ifs at hjoin
  · obtain ⟨rfl, hreport⟩ := Prod.mk.inj hjoin
    exact Registry.opened_of_joined h hreport hcreated
  · cases hjoin

theorem opened_of_registered (h : b.registry.Consistent) {id : SessionId} {room : Option RoomId} {report : Registered}
    (hregister : b.register id room = (b', .ok report)) (hcreated : report.roomCreated = true) :
    ∃ q, room = some q ∧ Registry.Opened b.registry b'.registry q id := by
  unfold Board.register at hregister
  split at hregister
  · obtain ⟨rfl, hreport⟩ := Prod.mk.inj hregister
    cases hreport
    exact Registry.opened_of_registered h hcreated
  · cases hregister

/-- an envelope that goes into an outbox is that of one of the posts, and its recipient was looked up when those before
had been sent -/
theorem split_of_mem_postings {qs : List Post} {d : Posting} (hd : d ∈ b.postings qs) :
    ∃ sent q rest, qs = sent ++ q :: rest ∧ d.recipient ∈ q.targets (b.posts sent) ∧
      d.registry = (b.posts sent).registry ∧ d.envelope = q.envelope := by
  induction qs generalizing b with
  | nil => cases hd
  | cons q qs ih =>
    rcases mem_postings_cons hd with ⟨hid, hregistry, henvelope⟩ | hd
    · exact ⟨[], q, qs, rfl, hid, hregistry, henvelope⟩
    · obtain ⟨sent, q', rest, rfl, hid, hregistry, henvelope⟩ := ih hd
      exact ⟨q :: sent, q', rest, rfl, hid, hregistry, henvelope⟩

/-- an envelope that is sent to the staff that listens goes to sessions of the staff that are in no room -/
theorem Sound.listener_of_mem_targets (h : b.Sound Session.Owns) {e : Outbound} {exclude : Option SessionId}
    {id : SessionId} (hid : id ∈ (Post.route (.listeners .staff) e exclude).targets b) :
    ∃ entry s, b.registry.sessions.get? id = some entry ∧ entry.room = none ∧ entry.role = .staff ∧
      b.session? id = some s ∧ s.role = .staff := by
  obtain ⟨entry, hentry, hplace⟩ := place_of_mem_targets h.consistent hid
  obtain ⟨hroom, hrole⟩ := (entry.place_eq_listeners_iff .staff).1 (List.mem_singleton.1 hplace)
  obtain ⟨s, hs, howns⟩ := h.known id entry hentry
  exact ⟨entry, s, hentry, hroom, hrole, hs, howns.role.trans hrole⟩

end Board

namespace Hub

variable {σ : Type}

/-! ## Actions that open rooms -/

/-- whether an action is somebody's from outside who says that a room was opened -/
def Action.forges : Action → Bool
  | .announce .. => true
  | .route _ e _ | .deliver _ e => e.kind = .roomOpened
  | _ => false

/-- an action opens a room: a session of the hub, or the one that comes up, enters it -/
structure Opening (p : Policy σ) (h : Hub σ) (a : Action) (q : RoomId) (id : SessionId) (s : Session) : Prop where
  /-- the room is opened before anything is sent, whatever teardown that brings about -/
  opened : Registry.Opened h.board.registry (h.turn p a).board.registry q id
  /-- the session is there already, or it comes up in this action -/
  opener : h.board.session? id = some s ∨ h.board.session? id = none ∧ a.brings? = some (id, s)

/-- of what is sent when a session joins a room, only the notice says that the room was opened -/
theorem eq_openedPost_of_mem_joinPosts {now : Int64} {id : SessionId} {s : Session} {room : RoomId} {report : Joined}
    {post : Post} (hpost : post ∈ joinPosts now id s room report) (hkind : post.envelope.kind = .roomOpened) :
    report.roomCreated = true ∧ post = openedPost now s room := by
  unfold joinPosts at hpost
  simp only at hpost
  split_ifs at hpost with hunchanged hcreated
  · rw [List.mem_singleton.1 hpost] at hkind
    cases hkind
  · rcases List.mem_append.1 hpost with hpost | hpost
    · obtain ⟨prev, -, rfl⟩ := List.mem_map.1 hpost
      cases hkind
    · rcases List.mem_cons.1 hpost with rfl | hpost
      · cases hkind
      · exact ⟨hcreated, List.mem_singleton.1 hpost⟩
  · rcases List.mem_append.1 hpost with hpost | hpost
    · obtain ⟨prev, -, rfl⟩ := List.mem_map.1 hpost
      cases hkind
    · rw [List.mem_singleton.1 hpost] at hkind
      cases hkind

theorem opened_of_mem_joinTurn {h : Hub σ} (hc : h.board.registry.Consistent) {id : SessionId} {s : Session}
    {e : Inbound} {post : Post} (hpost : post ∈ (h.joinTurn id s e).posts) (hkind : post.envelope.kind = .roomOpened) :
    ∃ q, post = openedPost h.now s q ∧ Registry.Opened h.board.registry (h.joinTurn id s e).board.registry q id := by
  unfold joinTurn at hpost ⊢
  split at hpost
  · cases hpost
  · rename_i q _
    split at hpost
    · cases hpost
    · rename_i b report hjoin
      obtain ⟨hcreated, rfl⟩ := eq_openedPost_of_mem_joinPosts hpost hkind
      have hopened : Registry.Opened h.board.registry b.registry q id := Board.opened_of_joined hc hjoin hcreated
      exact ⟨q, rfl, hopened⟩

theorem kind_of_mem_messageTurn {h : Hub σ} {id : SessionId} {s : Session} {e : Inbound} {post : Post}
    (hpost : post ∈ (h.messageTurn id s e).posts) : post.envelope.kind = .message := by
  unfold messageTurn at hpost
  split at hpost
  · rw [List.mem_singleton.1 hpost]
    rfl
  · cases hpost

theorem kind_of_mem_typingTurn {h : Hub σ} {id : SessionId} {s : Session} {e : Inbound} {post : Post}
    (hpost : post ∈ (h.typingTurn id s e).posts) : post.envelope.kind = e.kind := by
  unfold typingTurn at hpost
  split at hpost
  · rw [List.mem_singleton.1 hpost]
    rfl
  · cases hpost

theorem kind_of_mem_leaveTurn {h : Hub σ} {id : SessionId} {s : Session} {post : Post}
    (hpost : post ∈ (h.leaveTurn id s).posts) : post.envelope.kind = .leaveRoom := by
  unfold leaveTurn at hpost
  split at hpost
  · cases hpost
  · cases hpost
  · rcases List.mem_cons.1 hpost with rfl | hpost
    · rfl
    · rw [List.mem_singleton.1 hpost]
      rfl

/-- a session says that a room was opened by joining it, and not otherwise -/
theorem opened_of_mem_envelopeTurn {h : Hub σ} (hc : h.board.registry.Consistent) {id : SessionId} {e : Inbound}
    {post : Post} (hpost : post ∈ (h.envelopeTurn id e).posts) (hkind : post.envelope.kind = .roomOpened) :
    ∃ q s, post = openedPost h.now s q ∧ h.board.session? id = some s ∧
      Registry.Opened h.board.registry (h.envelopeTurn id e).board.registry q id := by
  unfold envelopeTurn at hpost ⊢
  cases hs : h.board.session? id with
  | none =>
    rw [hs] at hpost
    cases hpost
  | some s =>
    rw [hs] at hpost
    cases he : e.kind with
    | joinRoom =>
      simp only [he] at hpost ⊢
      obtain ⟨q, hq, hopened⟩ := opened_of_mem_joinTurn hc hpost hkind
      exact ⟨q, s, hq, rfl, hopened⟩
    | message =>
      simp only [he] at hpost
      cases (kind_of_mem_messageTurn hpost).symm.trans hkind
    | typingStart =>
      simp only [he] at hpost
      cases he.symm.trans ((kind_of_mem_typingTurn hpost).symm.trans hkind)
    | typingStop =>
      simp only [he] at hpost
      cases he.symm.trans ((kind_of_mem_typingTurn hpost).symm.trans hkind)
    | leaveRoom =>
      simp only [he] at hpost
      cases (kind_of_mem_leaveTurn hpost).symm.trans hkind
    | ping =>
      simp only [he] at hpost
      rw [List.mem_singleton.1 hpost] at hkind
      cases hkind
    | pong =>
      simp only [he] at hpost
      cases hpost
    | roomOpened =>
      simp only [he] at hpost
      cases hpost

theorem opened_of_mem_connectTurn {h : Hub σ} (hc : h.board.registry.Consistent) {id : SessionId} {s : Session}
    {post : Post} (hpost : post ∈ (h.connectTurn id s).posts) :
    ∃ q, post = openedPost h.now s q ∧ Registry.Opened h.board.registry (h.connectTurn id s).board.registry q id := by
  unfold connectTurn at hpost ⊢
  simp only at hpost ⊢
  split at hpost
  · cases hpost
  · rename_i b report hregister
    simp only at hpost
    split at hpost
    · rename_i q hcreated hroom
      obtain ⟨q', hq', hopened⟩ := Board.opened_of_registered
        (b := { h.board with sessions := h.board.sessions.insert id s }) hc hregister hcreated
      obtain rfl : q = q' := Option.some.inj (hroom.symm.trans hq')
      exact ⟨q, List.mem_singleton.1 hpost, hopened⟩
    · cases hpost

theorem kind_of_mem_publishTurn {h : Hub σ} {publisher : Sender} {e : Inbound} {post : Post}
    (hpost : post ∈ (h.publishTurn publisher e).posts) : post.envelope.kind = .message := by
  unfold publishTurn at hpost
  split at hpost
  · split_ifs at hpost
    · rw [List.mem_singleton.1 hpost]
      rfl
    · cases hpost
  · cases hpost

/-- **Notices tell of openings.** What an action sends that says that a room was opened, unless somebody forges it, is
the notice of the action's own session that it has just opened that room. -/
theorem opening_of_mem_posts (p : Policy σ) {h : Hub σ} (hc : h.board.registry.Consistent) {a : Action}
    (hhonest : a.forges = false) {post : Post} (hpost : post ∈ (h.turn p a).posts)
    (hkind : post.envelope.kind = .roomOpened) : ∃ q id s, post = openedPost h.now s q ∧ Opening p h a q id s := by
  -- frames and envelopes end in the same turn, with what they bring from a session
  have hin : h.turn p a = h.inboundTurn (inbound? p a) →
      ∃ q id s, post = openedPost h.now s q ∧ Opening p h a q id s := by
    intro heq
    rw [heq] at hpost
    rcases hbrought : inbound? p a with _ | ⟨id, e⟩
    · rw [hbrought] at hpost
      cases hpost
    · rw [hbrought] at hpost heq
      obtain ⟨q, s, hq, hs, hopened⟩ := opened_of_mem_envelopeTurn hc hpost hkind
      exact ⟨q, id, s, hq, heq ▸ hopened, Or.inl hs⟩
  cases a with
  | text id frame => exact hin rfl
  | envelope id e => exact hin rfl
  | connect id s =>
    cases hid : h.board.session? id with
    | some s' =>
      rw [turn, hid] at hpost
      cases hpost
    | none =>
      have hturn : h.turn p (.connect id s) = h.connectTurn id s := by
        simp only [turn, hid]
      rw [hturn] at hpost
      obtain ⟨q, hq, hopened⟩ := opened_of_mem_connectTurn hc hpost
      exact ⟨q, id, s, hq, hturn ▸ hopened, Or.inr ⟨hid, rfl⟩⟩
  | create id s =>
    simp only [turn] at hpost
    split at hpost <;> cases hpost
  | publish publisher e => cases (kind_of_mem_publishTurn hpost).symm.trans hkind
  | announce id room => cases hhonest
  | route audience e exclude =>
    rw [List.mem_singleton.1 hpost] at hkind
    cases hhonest.symm.trans (decide_eq_true hkind)
  | deliver id e =>
    rw [List.mem_singleton.1 hpost] at hkind
    cases hhonest.symm.trans (decide_eq_true hkind)
  | _ => cases hpost

/-! ## Events that tell of openings -/

/-- an event in which it is sent to the staff that listens that a room was opened -/
def Event.Announces (p : Policy σ) (q : RoomId) (e : Event σ) : Prop :=
  ∃ post ∈ (e.before.turn p e.action).posts, post.envelope.kind = .roomOpened ∧ post.envelope.room = some q

/-- an envelope that goes into an outbox tells that a session opens a room in the event -/
structure Event.Tells (p : Policy σ) (e : Event σ) (d : Posting) (q : RoomId) (id : SessionId) (s : Session) : Prop where
  opening : Opening p e.before e.action q id s
  /-- the envelope carries the room and is from that session -/
  envelope : d.envelope = ⟨.roomOpened, some q, s.sender, none, none, e.before.now⟩
  /-- when recipients are looked up, the one of the envelope is registered as staff and in no room -/
  listener : ∃ entry, d.registry.sessions.get? d.recipient = some entry ∧ entry.room = none ∧ entry.role = .staff
  /-- the session whose outbox it is in is one of the staff -/
  staff : ∃ t, e.after.board.session? d.recipient = some t ∧ t.role = .staff

theorem announces_opening (p : Policy σ) {h : Hub σ} (hs : h.board.Sound Session.Owns) {a : Action}
    (hhonest : a.forges = false) {q : RoomId} (hannounces : (h.event p a).Announces p q) :
    ∃ id s, Opening p h a q id s := by
  obtain ⟨post, hpost, hkind, hroom⟩ := hannounces
  obtain ⟨q', id, s, rfl, hopening⟩ := opening_of_mem_posts p hs.consistent hhonest hpost hkind
  obtain rfl : q' = q := Option.some.inj hroom
  exact ⟨id, s, hopening⟩

theorem tells_of_mem_postings (p : Policy σ) {h : Hub σ} (hs : h.board.Sound Session.Owns) {a : Action}
    (hhonest : a.forges = false) {d : Posting} (hd : d ∈ h.postings p a) (hkind : d.envelope.kind = .roomOpened) :
    ∃ q id s, (h.event p a).Tells p d q id s := by
  obtain ⟨sent, post, rest, hposts, hrecipient, hregistry, henvelope⟩ := Board.split_of_mem_postings hd
  have hpost : post ∈ (h.turn p a).posts := hposts ▸ List.mem_append_right sent List.mem_cons_self
  obtain ⟨q, id, s, rfl, hopening⟩ := opening_of_mem_posts p hs.consistent hhonest hpost (henvelope ▸ hkind)
  -- whatever was sent before, the recipient listens when the notice is sent, and it stays of the staff
  have hsent := (turn_owned p hs a).posts Session.tracks_owns sent
  obtain ⟨entry, t, hentry, hnone, hrole, ht, hstaff⟩ := hsent.listener_of_mem_targets hrecipient
  obtain ⟨u, hu, htu, -⟩ := Board.session?_posts hsent.consistent (openedPost h.now s q :: rest) ht
  refine ⟨q, id, s, hopening, henvelope, ⟨entry, hregistry ▸ hentry, hnone, hrole⟩, u, ?_, htu.role.trans hstaff⟩
  exact step_board_of_split p hposts ▸ hu

/-! ## Rooms that are pruned -/

/-- a room is there in an event, and is not there after it, and nobody is in it -/
structure Event.Prunes (p : Policy σ) (q : RoomId) (e : Event σ) : Prop where
  /-- it is there before the event, or else it is opened in it -/
  present : e.before.board.registry.rooms.contains q = true ∨
    (e.before.turn p e.action).board.registry.rooms.contains q = true
  absent : e.after.board.registry.rooms.contains q = false
  empty : e.after.board.registry.members q = []

/-- a room that is there, and is not there after some actions, is pruned by one of them -/
theorem exists_pruning (p : Policy σ) {h : Hub σ} (hs : h.board.Sound Session.Owns) {actions : List Action} {q : RoomId}
    (hhere : h.board.registry.rooms.contains q = true)
    (hgone : (run p h actions).board.registry.rooms.contains q = false) : ∃ e ∈ history p h actions, e.Prunes p q := by
  induction actions generalizing h with
  | nil => cases hhere.symm.trans hgone
  | cons a actions ih =>
    have hnext := step_owned p hs a
    -- the first action after which the room is not there any more is the one that prunes it
    cases hafter : (h.step p a).1.board.registry.rooms.contains q with
    | true =>
      obtain ⟨e, he, hprunes⟩ := ih hnext hafter hgone
      exact ⟨e, List.mem_cons_of_mem _ he, hprunes⟩
    | false =>
      exact ⟨h.event p a, List.mem_cons_self, Or.inl hhere, hafter, (hnext.consistent.absent_iff q).1 hafter⟩

/-- a room that is opened, and that is opened again after some actions, is pruned by the first of these openings itself
or by one of the actions -/
theorem pruned_between (p : Policy σ) {h : Hub σ} (hs : h.board.Sound Session.Owns) {a a' : Action}
    {actions : List Action} {q : RoomId} {id id' : SessionId} {s s' : Session} (hopening : Opening p h a q id s)
    (hagain : Opening p (run p (h.step p a).1 actions) a' q id' s') :
    ∃ e ∈ h.event p a :: history p (h.step p a).1 actions, e.Prunes p q := by
  have hnext := step_owned p hs a
  cases hafter : (h.step p a).1.board.registry.rooms.contains q with
  | true =>
    obtain ⟨e, he, hprunes⟩ := exists_pruning p hnext hafter hagain.opened.absent
    exact ⟨e, List.mem_cons_of_mem _ he, hprunes⟩
  | false =>
    -- the notice itself may have torn the session down, and then the room goes in the event that opened it
    exact ⟨h.event p a, List.mem_cons_self, Or.inr hopening.opened.present, hafter,
      (hnext.consistent.absent_iff q).1 hafter⟩

/-! ## Runs -/

/-- the events of a run in which all notices that a room was opened are genuine -/
structure OpeningsGenuine (p : Policy σ) (events : List (Event σ)) : Prop where
  /-- what waits before an event, and the postings to it, are what departs in the event and what waits after it, unless
  the session comes up with envelopes of its own -/
  outboxes : ∀ e ∈ events, ∀ id, (∀ s, e.action.brings? = some (id, s) → s.outbox.waiting = []) →
    e.before.board.waiting id ++ e.arrived p id = e.departed id ++ e.after.board.waiting id
  /-- an envelope that goes into an outbox and says that a room was opened tells of an opening in that event -/
  told : ∀ e ∈ events, ∀ d ∈ e.before.postings p e.action, d.envelope.kind = .roomOpened →
    ∃ q id s, e.Tells p d q id s
  /-- there is an opening, too, when there is nobody who listens -/
  announced : ∀ e ∈ events, ∀ q, e.Announces p q → ∃ id s, Opening p e.before e.action q id s
  /-- of two events that announce a room, the first itself prunes it, by tearing down whoever opened it, or one between
  the two does -/
  pruned : ∀ first e between e' last q, events = first ++ e :: (between ++ e' :: last) →
    e.Announces p q → e'.Announces p q → ∃ x ∈ e :: between, x.Prunes p q

theorem openingsGenuine_of_sound (p : Policy σ) {h : Hub σ} (hs : h.board.Sound Session.Owns) {actions : List Action}
    (hhonest : ∀ a ∈ actions, a.forges = false) : OpeningsGenuine p (history p h actions) := by
  have hevents : ∀ e ∈ history p h actions, ∃ g : Hub σ, ∃ a ∈ actions, g.board.Sound Session.Owns ∧ e = g.event p a :=
    fun e he => of_mem_history hs (fun g a _ hg => step_owned p hg a) he
  constructor
  case outboxes =>
    intro e he id hnew
    obtain ⟨g, a, -, hg, rfl⟩ := hevents e he
    exact waiting_step p hg id hnew
  case told =>
    intro e he d hd hkind
    obtain ⟨g, a, ha, hg, rfl⟩ := hevents e he
    exact tells_of_mem_postings p hg (hhonest a ha) hd hkind
  case announced =>
    intro e he q hannounces
    obtain ⟨g, a, ha, hg, rfl⟩ := hevents e he
    exact announces_opening p hg (hhonest a ha) hannounces
  case pruned =>
    intro first e between e' last q hsplit hannounces hannounces'
    -- the history is cut at the two events, and with it the actions
    obtain ⟨before, later, rfl, -, hrest⟩ := history_eq_append hsplit
    obtain ⟨a, later, rfl, rfl, hlater⟩ := history_eq_cons hrest.symm
    obtain ⟨middle, later, rfl, rfl, hlast⟩ := history_eq_append hlater.symm
    obtain ⟨a', later, rfl, rfl, -⟩ := history_eq_cons hlast.symm
    have hg := run_keeps_owned p hs before
    have hg' := run_keeps_owned p (step_owned p hg a) middle
    obtain ⟨id, s, hopening⟩ := announces_opening p hg (hhonest a (by simp)) hannounces
    obtain ⟨id', s', hagain⟩ := announces_opening p hg' (hhonest a' (by simp)) hannounces'
    exact pruned_between p hg hopening hagain

/-- **Notices that a room was opened are genuine.** No text frame brings one. In every run in which nobody from outside
forges them, each of them is sent in an event in which its session, alone, enters a room that nobody was in, and goes to
the staff that is in no room. When a later event announces the same room again, the room became empty and was pruned
before that: in an event between the two, or in the first of them already, if what it sent tore the session down. -/
theorem room_openings_genuine (p : Policy σ) (store : σ) (now : Int64) (running : Bool) (actions : List Action)
    (hhonest : ∀ a ∈ actions, a.forges = false) :
    (∀ limit frame e, Inbound.decode limit frame = .ok (.envelope e) → e.kind ≠ .roomOpened) ∧
      OpeningsGenuine p (history p (start store now running) actions) :=
  ⟨fun _ _ _ => Inbound.kind_ne_roomOpened, openingsGenuine_of_sound p (start_sound store now running) hhonest⟩

/-- ann opens a room by coming up in it and leaves it, and cannot say that she opened it once more; bob opens it again -/
theorem room_openings_genuine_reopened :
    let ann : SessionId := ⟨"ann"⟩
    let sue : SessionId := ⟨"sue"⟩
    let q := RoomId.ofNat 7
    let session (name : String) (role : Role) (room : Option RoomId) : Action :=
      .connect ⟨name⟩ { identity := ⟨name⟩, role, currentRoom := room, outbox := .ofCapacity 4 }
    let p : Policy Unit := ⟨Store.disabled, {}, 1000⟩
    let h : Hub Unit := start () 5 true
    let first := [session "sue" .staff none]
    let between : List Action :=
      [.envelope ann ⟨.leaveRoom, none, none, none⟩, .envelope ann ⟨.roomOpened, some (.string q.text), none, none⟩]
    let actions := first ++ session "ann" .customer (some q) :: (between ++ [session "bob" .customer (some q)])
    let events := history p h actions
    (∀ a ∈ actions, a.forges = false) ∧ OpeningsGenuine p events ∧ (∃ x ∈ events, x.Prunes p q) ∧
      ((run p h actions).board.waiting sue).map (fun e => (e.kind, e.room, e.sender.id.name)) =
        [(.roomOpened, some q, "ann"), (.roomOpened, some q, "bob")] := by
  intro ann sue q session p h first between actions events
  have hhonest : ∀ a ∈ actions, a.forges = false := by
    intro a ha
    simp only [actions, first, between, List.cons_append, List.nil_append, List.mem_cons, List.not_mem_nil, or_false] at ha
    rcases ha with rfl | rfl | rfl | rfl | rfl <;> rfl
  have hgenuine := (room_openings_genuine p () 5 true actions hhonest).2
  let g := (h.step p (session "sue" .staff none)).1
  let g' := run p (g.step p (session "ann" .customer (some q))).1 between
  have hann : (g.event p (session "ann" .customer (some q))).Announces p q := by
    unfold Event.Announces
    decide +kernel
  have hbob : (g'.event p (session "bob" .customer (some q))).Announces p q := by
    unfold Event.Announces
    decide +kernel
  have hsplit : events = history p h first ++ g.event p (session "ann" .customer (some q)) ::
      (history p (g.step p (session "ann" .customer (some q))).1 between ++
        g'.event p (session "bob" .customer (some q)) :: []) := rfl
  obtain ⟨x, hx, hprunes⟩ := hgenuine.pruned _ _ _ _ _ q hsplit hann hbob
  have hmem : x ∈ events := by
    rw [hsplit]
    exact List.mem_append_right _ (List.mem_append_left [_] hx)
  exact ⟨hhonest, hgenuine, ⟨x, hmem, hprunes⟩, by decide +kernel⟩

end Hub
end ErrandHub
