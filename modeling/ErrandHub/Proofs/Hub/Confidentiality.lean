/-
Envelopes of a room stay with those whom they are for.

What clients and publishers do to a hub is its traffic. Every envelope of a room that traffic puts into an outbox is
there for one of three reasons (`Posting.Reason`): its recipient is in the room, listens for the staff, or has just
left the room and is told so. The reasons are read off the registry as it is when the recipients are looked up, which
differs from post to post within one action.

- `Post.apt`: a post whose audience fits its envelope, whatever the registry. All posts are, but the answers to a
  session that joins the room it is in or leaves its room; those come first in their turns.
- `traffic_confined`: the outboxes after any traffic in any reachable state, and the reasons for what was added.
-/
import Mathlib.Tactic
import ErrandHub.Proofs.Hub.Soundness
import ErrandHub.Store.Memory

namespace ErrandHub

/-! ## Posts that fit their audience -/

/-- whether an envelope of a room may be shown to a session with this entry -/
def Entry.mayRead (entry : Entry) (e : Outbound) (q : RoomId) : Prop :=
  entry.room = some q ∨ entry.room = none ∧ entry.role = .staff ∧ (e.kind = .message ∨ e.kind = .roomOpened)

/-- whether everybody in a place may be shown an envelope of a room -/
def Place.mayRead (place : Place) (e : Outbound) (q : RoomId) : Prop :=
  place = .room q ∨ place = .listeners .staff ∧ (e.kind = .message ∨ e.kind = .roomOpened)

theorem Place.mayRead.entry {e : Outbound} {q : RoomId} {entry : Entry} (h : entry.place.mayRead e q) :
    entry.mayRead e q := by
  rcases h with h | ⟨h, hkind⟩
  · exact Or.inl ((entry.place_eq_room_iff q).1 h)
  · obtain ⟨hroom, hrole⟩ := (entry.place_eq_listeners_iff .staff).1 h
    exact Or.inr ⟨hroom, hrole, hkind⟩

/-- whether everybody whom a post is for may be shown its envelope, whatever the registry -/
def Post.apt : Post → Prop
  | .offer _ e | .reply _ e => e.room = none
  | .route audience e _ => ∀ q, e.room = some q → ∀ place ∈ audience.places, place.mayRead e q

theorem Post.apt_route_room (q : RoomId) (e : Outbound) (exclude : Option SessionId) (he : e.room = some q) :
    (Post.route (.room q) e exclude).apt := by
  intro q' hq' place hplace
  rw [he] at hq'
  cases hq'
  exact Or.inl (List.mem_singleton.1 hplace)

theorem Post.apt_route_listeners (e : Outbound) (exclude : Option SessionId) (he : e.kind = .roomOpened) :
    (Post.route (.listeners .staff) e exclude).apt := by
  intro q _ place hplace
  exact Or.inr ⟨List.mem_singleton.1 hplace, Or.inr he⟩

theorem Post.apt_route_roomAndListeners (q : RoomId) (e : Outbound) (exclude : Option SessionId)
    (hroom : e.room = some q) (hkind : e.kind = .message) :
    (Post.route (.roomAndListeners q .staff) e exclude).apt := by
  intro q' hq' place hplace
  rw [hroom] at hq'
  cases hq'
  rcases List.mem_cons.1 hplace with hplace | hplace
  · exact Or.inl hplace
  · exact Or.inr ⟨List.mem_singleton.1 hplace, Or.inl hkind⟩

/-- the recipient of an envelope of a room is registered, and may be shown it -/
def Posting.Fits (d : Posting) : Prop :=
  ∀ q, d.envelope.room = some q →
    ∃ entry, d.registry.sessions.get? d.recipient = some entry ∧ entry.mayRead d.envelope q

namespace Board

variable {b : Board}

theorem mem_postings_cons {q : Post} {qs : List Post} {d : Posting} (hd : d ∈ b.postings (q :: qs)) :
    (d.recipient ∈ q.targets b ∧ d.registry = b.registry ∧ d.envelope = q.envelope) ∨ d ∈ (b.post q).postings qs := by
  rw [postings, List.mem_append] at hd
  rcases hd with hd | hd
  · obtain ⟨id, hid, rfl⟩ := List.mem_map.1 hd
    exact Or.inl ⟨(List.mem_filter.1 hid).1, rfl, rfl⟩
  · exact Or.inr hd

theorem place_of_mem_targets (h : b.registry.Consistent) {audience : Audience} {e : Outbound}
    {exclude : Option SessionId} {id : SessionId} (hid : id ∈ (Post.route audience e exclude).targets b) :
    ∃ entry, b.registry.sessions.get? id = some entry ∧ entry.place ∈ audience.places := by
  simp only [Post.targets] at hid
  split_ifs at hid
  · obtain ⟨place, hplace, he⟩ := (audience.mem_recipients_iff h id).1 ((mem_targets _ _ _).1 hid).1
    obtain ⟨entry, hentry, rfl⟩ := Option.map_eq_some_iff.1 he
    exact ⟨entry, hentry, hplace⟩
  · cases hid

/-- the envelopes of posts that are apt fit their recipients, whatever becomes of the registry on the way -/
theorem fits_of_apt (h : b.registry.Consistent) {qs : List Post} (hqs : ∀ q ∈ qs, q.apt) :
    ∀ d ∈ b.postings qs, d.Fits := by
  induction qs generalizing b with
  | nil =>
    intro d hd
    cases hd
  | cons q qs ih =>
    intro d hd
    rcases mem_postings_cons hd with ⟨hid, hregistry, henvelope⟩ | hd
    · have hq := hqs q List.mem_cons_self
      intro room hroom
      rw [henvelope] at hroom
      rw [hregistry, henvelope]
      cases q with
      | offer id e => exact absurd (hq.symm.trans hroom) (by simp)
      | reply id e => exact absurd (hq.symm.trans hroom) (by simp)
      | route audience e exclude =>
        obtain ⟨entry, he, hplace⟩ := place_of_mem_targets h hid
        exact ⟨entry, he, (hq room hroom _ hplace).entry⟩
    · exact ih (consistent_post h q) (fun q' hq' => hqs q' (List.mem_cons_of_mem q hq')) d hd

/-- the registry that the recipients of an envelope are read from has no entry that was not there before -/
theorem get?_of_mem_postings {qs : List Post} {d : Posting} (hd : d ∈ b.postings qs) {id : SessionId} {entry : Entry}
    (he : d.registry.sessions.get? id = some entry) : b.registry.sessions.get? id = some entry := by
  induction qs generalizing b with
  | nil => cases hd
  | cons q qs ih =>
    rcases mem_postings_cons hd with ⟨-, hregistry, -⟩ | hd
    · rw [← hregistry]
      exact he
    · exact get?_post (ih hd)

/-! ## Outboxes that a change leaves alone -/

/-- every session was there before, with the same outbox -/
def KeepsOutboxes (b b' : Board) : Prop :=
  ∀ id t, b'.session? id = some t → ∃ s, b.session? id = some s ∧ t.outbox = s.outbox

theorem KeepsOutboxes.refl (b : Board) : b.KeepsOutboxes b := fun _ t ht => ⟨t, ht, rfl⟩

theorem KeepsOutboxes.trans {b c d : Board} (h : b.KeepsOutboxes c) (h' : c.KeepsOutboxes d) : b.KeepsOutboxes d := by
  intro id t ht
  obtain ⟨s, hs, hst⟩ := h' id t ht
  obtain ⟨r, hr, hrs⟩ := h id s hs
  exact ⟨r, hr, hst.trans hrs⟩

theorem keepsOutboxes_adjust (b : Board) (id : SessionId) {f : Session → Session}
    (hf : ∀ s, (f s).outbox = s.outbox) : b.KeepsOutboxes (b.adjust id f) := by
  intro j t ht
  rw [session?_adjust] at ht
  split_ifs at ht with hj
  · obtain ⟨s, hs, rfl⟩ := Option.map_eq_some_iff.1 ht
    exact ⟨s, hs, hf s⟩
  · exact ⟨t, ht, rfl⟩

theorem keepsOutboxes_register (b : Board) (id : SessionId) (room : Option RoomId) :
    b.KeepsOutboxes (b.register id room).1 := by
  unfold Board.register
  split <;> exact .refl b

theorem keepsOutboxes_unregister (b : Board) (id : SessionId) : b.KeepsOutboxes (b.unregister id).1 := by
  unfold Board.unregister
  split_ifs
  · split
    · exact .refl b
    · exact keepsOutboxes_adjust { b with registry := _ } id Session.outbox_drain
  · exact .refl b

theorem Moved.keepsOutboxes {b b' : Board} {id : SessionId} (m : b.Moved id b') : b.KeepsOutboxes b' := by
  cases m with
  | unchanged => exact .refl b
  | stayed => exact keepsOutboxes_adjust b id fun _ => rfl
  | @moved entry room r' => exact keepsOutboxes_adjust { b with registry := r' } id fun _ => rfl

end Board

namespace Hub

variable {σ : Type}

/-! ## Reasons -/

/-- whether an action is the doing of clients or of a publisher: a session is let in, sends or is unregistered, an
envelope is published or an opened room is announced -/
def Action.isTraffic : Action → Bool
  | .connect .. | .text .. | .envelope .. | .publish .. | .announce .. | .unregister _ => true
  | _ => false

end Hub

/-- why an envelope of a room is in the outbox of a session with some entry, after an action -/
inductive Posting.Reason {σ : Type} (p : Policy σ) (h : Hub σ) (a : Hub.Action) (d : Posting) (q : RoomId)
    (entry : Entry) : Prop where
  /-- the session is in the room -/
  | member (room : entry.room = some q)
  /-- the session is in no room and of the staff, and the envelope tells of a message or of an opened room -/
  | listener (room : entry.room = none) (role : entry.role = .staff)
      (kind : d.envelope.kind = .message ∨ d.envelope.kind = .roomOpened)
  /-- the session was in the room until, in this action, it asked to leave; it is told that it has left -/
  | ownLeave (e : Inbound) (s : Session) (asked : Hub.inbound? p a = some (d.recipient, e))
      (leaves : e.kind = .leaveRoom) (left : h.board.registry.roomOf d.recipient = some q)
      (kind : d.envelope.kind = .leaveRoom) (session : h.board.session? d.recipient = some s)
      (sender : d.envelope.sender = s.sender)

theorem Entry.mayRead.reason {σ : Type} {p : Policy σ} {h : Hub σ} {a : Hub.Action} {d : Posting} {q : RoomId}
    {entry : Entry} (hread : entry.mayRead d.envelope q) : d.Reason p h a q entry := by
  rcases hread with hroom | ⟨hroom, hrole, hkind⟩
  · exact .member hroom
  · exact .listener hroom hrole hkind

/-- the recipient of an envelope of a room is registered when the recipients are read, and there is a reason -/
def Posting.Confined {σ : Type} (p : Policy σ) (h : Hub σ) (a : Hub.Action) (d : Posting) : Prop :=
  ∀ q, d.envelope.room = some q →
    ∃ entry, d.registry.sessions.get? d.recipient = some entry ∧ d.Reason p h a q entry

theorem Posting.Fits.confined {σ : Type} {p : Policy σ} {h : Hub σ} {a : Hub.Action} {d : Posting} (hd : d.Fits) :
    d.Confined p h a := by
  intro q hq
  obtain ⟨entry, he, hread⟩ := hd q hq
  exact ⟨entry, he, hread.reason⟩

namespace Hub

variable {σ : Type}

/-! ## Turns -/

theorem joinTurn_confined (p : Policy σ) {h : Hub σ} (hs : h.board.Sound Session.Owns) (a : Action) (id : SessionId)
    (s : Session) (e : Inbound) : ∀ d ∈ (h.joinTurn id s e).postings, d.Confined p h a := by
  have hsound := hs.of_moved Session.tracks_owns (joinTurn_moved h id s e)
  revert hsound
  unfold joinTurn
  split
  · intro _ d hd
    cases hd
  · rename_i room _
    rcases h.board.join_cases id room with ⟨reason, he⟩ | ⟨entry, hid, hq, he⟩ | ⟨entry, r', created, hid, m, he⟩
    · rw [he]
      intro _ d hd
      cases hd
    · -- the session is where it wishes to be, and is told so
      rw [he]
      intro _ d hd q hdq
      rcases Board.mem_postings_cons hd with ⟨hrec, hregistry, henvelope⟩ | hd
      · rw [henvelope] at hdq
        cases hdq
        rw [hregistry, List.mem_singleton.1 hrec]
        exact ⟨entry, hid, .member hq⟩
      · cases hd
    · rw [he]
      intro hsound d hd
      refine (Board.fits_of_apt hsound.consistent ?_ d hd).confined
      intro q hq
      have hsent : q ∈ joinPosts h.now id s room ⟨entry.room, created, false⟩ := hq
      rcases mem_joinPosts hsent with ⟨hunchanged, -⟩ | ⟨prev, rfl⟩ | rfl | rfl
      · cases hunchanged
      · exact Post.apt_route_room prev _ none rfl
      · exact Post.apt_route_room room _ none rfl
      · exact Post.apt_route_listeners _ none rfl

theorem leaveTurn_confined (p : Policy σ) {h : Hub σ} (hs : h.board.Sound Session.Owns) {a : Action} {id : SessionId}
    {s : Session} {e : Inbound} (hin : inbound? p a = some (id, e)) (hkind : e.kind = .leaveRoom)
    (hsome : h.board.session? id = some s) : ∀ d ∈ (h.leaveTurn id s).postings, d.Confined p h a := by
  have hsound := hs.of_moved Session.tracks_owns (leaveTurn_moved h id s)
  revert hsound
  unfold leaveTurn
  rcases h.board.leave_cases id with ⟨reason, he⟩ | ⟨entry, hid, -, he⟩ | ⟨entry, q, r', hid, hq, m, he⟩
  · rw [he]
    intro _ d hd
    cases hd
  · rw [he]
    intro _ d hd
    cases hd
  · rw [he]
    intro hsound d hd
    rcases Board.mem_postings_cons hd with ⟨hrec, hregistry, henvelope⟩ | hd
    · -- the session is told that it has left, and is registered still
      have hd : d.recipient = id := List.mem_singleton.1 hrec
      intro q' hq'
      rw [henvelope] at hq'
      cases hq'
      refine ⟨{ entry with room := none }, ?_, ?_⟩
      · rw [hregistry, hd]
        exact (m.get? id).trans (if_pos rfl)
      · refine .ownLeave e s ?_ hkind ?_ ?_ ?_ ?_
        · rw [hd]
          exact hin
        · rw [hd]
          exact (Registry.roomOf_eq_some_iff _ _ _).2 ⟨entry, hid, hq⟩
        · rw [henvelope]
          rfl
        · rw [hd]
          exact hsome
        · rw [henvelope]
          rfl
    · refine (Board.fits_of_apt (Board.consistent_post hsound.consistent _) ?_ d hd).confined
      intro q' hq'
      rw [List.mem_singleton.1 hq']
      exact Post.apt_route_room q _ none rfl

theorem envelopeTurn_confined (p : Policy σ) {h : Hub σ} (hs : h.board.Sound Session.Owns) {a : Action}
    {id : SessionId} {e : Inbound} (hin : inbound? p a = some (id, e)) :
    ∀ d ∈ (h.envelopeTurn id e).postings, d.Confined p h a := by
  have hapt : ∀ q : Post, q.apt → ∀ d ∈ h.board.postings [q], d.Confined p h a := by
    intro q hq d hd
    exact (Board.fits_of_apt hs.consistent (by simpa using hq) d hd).confined
  have hnone : ∀ d ∈ h.board.postings [], d.Confined p h a := by
    intro d hd
    cases hd
  have htyping : ∀ s, ∀ d ∈ (h.typingTurn id s e).postings, d.Confined p h a := by
    intro s
    unfold typingTurn
    split
    · exact hapt _ (Post.apt_route_room _ _ _ rfl)
    · exact hnone
  unfold envelopeTurn
  split
  · exact hnone
  · rename_i s hsome
    split
    · unfold messageTurn
      split
      · exact hapt _ (Post.apt_route_roomAndListeners _ _ _ rfl rfl)
      · exact hnone
    · exact htyping s
    · exact htyping s
    · exact joinTurn_confined p hs a id s e
    · exact leaveTurn_confined p hs hin ‹_› hsome
    · exact hapt _ rfl
    · exact hnone
    · exact hnone

/-- whatever traffic puts into outboxes is there for a reason -/
theorem turn_confined (p : Policy σ) {h : Hub σ} (hs : h.board.Sound Session.Owns) {a : Action}
    (ha : a.isTraffic = true) : ∀ d ∈ h.postings p a, d.Confined p h a := by
  -- where no session speaks, it is enough that each post is apt for its audience
  have hapt : ∀ qs : List Post, (∀ q ∈ qs, q.apt) → ∀ d ∈ (h.turn p a).board.postings qs, d.Confined p h a :=
    fun qs hqs d hd => (Board.fits_of_apt (turn_owned p hs a).consistent hqs d hd).confined
  have hposts : (∀ q ∈ (h.turn p a).posts, q.apt) → ∀ d ∈ h.postings p a, d.Confined p h a := hapt _
  have hin : h.inboundTurn (inbound? p a) = h.turn p a → ∀ d ∈ h.postings p a, d.Confined p h a := by
    intro heq
    rw [postings, ← heq]
    unfold inboundTurn
    split
    · rename_i hin
      exact envelopeTurn_confined p hs hin
    · intro d hd
      cases hd
  cases a with
  | text id frame => exact hin rfl
  | envelope id e => exact hin rfl
  | connect id s =>
    refine hposts ?_
    simp only [turn, connectTurn]
    split
    · simp
    · split
      · simp
      · simp only
        split
        · intro q hq
          rw [List.mem_singleton.1 hq]
          exact Post.apt_route_listeners _ none rfl
        · simp
  | publish publisher e =>
    refine hposts ?_
    simp only [turn, publishTurn]
    split
    · split_ifs
      · intro q hq
        rw [List.mem_singleton.1 hq]
        exact Post.apt_route_roomAndListeners _ _ none rfl rfl
      · simp
    · simp
  | announce id room =>
    refine hposts ?_
    simp only [turn]
    split
    · intro q hq
      rw [List.mem_singleton.1 hq]
      exact Post.apt_route_listeners _ none rfl
    · simp
  | unregister id => exact hposts (by simp [turn])
  | _ => cases ha

theorem connectTurn_keepsOutboxes (h : Hub σ) (id : SessionId) (s : Session) :
    ({ h.board with sessions := h.board.sessions.insert id s } : Board).KeepsOutboxes (h.connectTurn id s).board := by
  have hreg := Board.keepsOutboxes_register { h.board with sessions := h.board.sessions.insert id s } id s.currentRoom
  unfold connectTurn
  simp only
  split <;> rename_i he <;> rw [he] at hreg
  · exact hreg.trans (Board.keepsOutboxes_adjust _ id fun t => t.outbox_drain)
  · refine hreg.trans (Board.keepsOutboxes_adjust _ id fun t => ?_)
    unfold Session.activate
    split_ifs <;> rfl

/-- what traffic changes on its own leaves the outboxes alone; a session that comes up brings its own -/
theorem turn_outboxes (p : Policy σ) (h : Hub σ) {a : Action} (ha : a.isTraffic = true) {id : SessionId} {t : Session}
    (ht : (h.turn p a).board.session? id = some t) :
    ∃ s, (h.board.session? id = some s ∨ h.board.session? id = none ∧ a = .connect id s) ∧ t.outbox = s.outbox := by
  -- only an action that brings a session can put an outbox there; all others keep those they find
  have hkeep : h.board.KeepsOutboxes (h.turn p a).board → ∃ s,
      (h.board.session? id = some s ∨ h.board.session? id = none ∧ a = .connect id s) ∧ t.outbox = s.outbox := by
    intro hk
    obtain ⟨s, hs, hst⟩ := hk id t ht
    exact ⟨s, Or.inl hs, hst⟩
  have hin : h.board.KeepsOutboxes (h.inboundTurn (inbound? p a)).board := by
    refine inboundTurn_induction (P := fun t => h.board.KeepsOutboxes t.board) (.refl _) (fun j e => ?_) _
    exact (envelopeTurn_moved h j e).keepsOutboxes
  cases a with
  | text j frame => exact hkeep hin
  | envelope j e => exact hkeep hin
  | unregister j => exact hkeep (h.board.keepsOutboxes_unregister j)
  | publish publisher e =>
    refine hkeep ?_
    simp only [turn, board_publishTurn]
    exact .refl _
  | announce j room =>
    refine hkeep ?_
    simp only [turn]
    split <;> exact .refl _
  | connect j s =>
    cases hj : h.board.session? j with
    | some s' =>
      refine hkeep ?_
      simp only [turn, hj]
      exact .refl _
    | none =>
      simp only [turn, hj] at ht
      obtain ⟨s', hs', hst⟩ := connectTurn_keepsOutboxes h j s id t ht
      rw [Board.session?, Table.get?_insert] at hs'
      split_ifs at hs' with hid
      · cases hs'
        subst hid
        exact ⟨s, Or.inr ⟨hj, rfl⟩, hst⟩
      · exact ⟨s', Or.inl hs', hst⟩
  | _ => cases ha

/-- an action that keeps envelopes of rooms to those whom they are for -/
structure Confidential (p : Policy σ) (h : Hub σ) (a : Action) : Prop where
  /-- each outbox is what it was, or what the session that came up brought, and then the postings to it -/
  outboxes : ∀ id t, (h.step p a).1.board.session? id = some t →
    ∃ s, (h.board.session? id = some s ∨ h.board.session? id = none ∧ a = .connect id s) ∧
      t.outbox.waiting = s.outbox.waiting ++ ((h.postings p a).filter fun d => d.recipient = id).map Posting.envelope
  /-- the recipient of an envelope of a room is registered when the recipients are read, and there is a reason -/
  reasons : ∀ d ∈ h.postings p a, ∀ q, d.envelope.room = some q →
    ∃ entry t, d.registry.sessions.get? d.recipient = some entry ∧
      (h.step p a).1.board.session? d.recipient = some t ∧ t.Owns entry ∧ d.Reason p h a q entry
  /-- nobody but staff gets more of a room that it is not in than the notice that somebody left it -/
  outsiders : ∀ d ∈ h.postings p a, ∀ q, d.envelope.room = some q → d.envelope.kind ≠ .leaveRoom →
    ∀ t, (h.step p a).1.board.session? d.recipient = some t → t.role ≠ .staff →
      d.registry.roomOf d.recipient = some q

/-- **Rooms are confidential.** Whatever a hub went through, traffic adds to the outbox of each session the postings to
it and nothing else, and every posting of a room goes to a session that is in the room, or listens for the staff to
what is for those who do, or is told that it has left. -/
theorem traffic_confidential (p : Policy σ) (store : σ) (now : Int64) (running : Bool) (actions : List Action)
    (a : Action) (ha : a.isTraffic = true) : (run p (start store now running) actions).Confidential p a := by
  set h := run p (start store now running) actions with hh
  have hs : h.board.Sound Session.Owns := run_owned p store now running actions
  have hturn : (h.turn p a).board.Sound Session.Owns := turn_owned p hs a
  have hboard : (h.step p a).1.board = (h.turn p a).board.posts (h.turn p a).posts := step_board p h a
  have hreasons : ∀ d ∈ h.postings p a, ∀ q, d.envelope.room = some q →
      ∃ entry t, d.registry.sessions.get? d.recipient = some entry ∧
        (h.step p a).1.board.session? d.recipient = some t ∧ t.Owns entry ∧ d.Reason p h a q entry := by
    intro d hd q hq
    obtain ⟨entry, he, hreason⟩ := turn_confined p hs ha d hd q hq
    obtain ⟨s, hsome, howns⟩ := hturn.known d.recipient entry (Board.get?_of_mem_postings hd he)
    obtain ⟨t, ht, hst, -⟩ := Board.session?_posts hturn.consistent (h.turn p a).posts hsome
    exact ⟨entry, t, he, by rw [hboard]; exact ht, Session.tracks_owns.reader s t entry hst howns, hreason⟩
  refine ⟨fun id t ht => ?_, hreasons, fun d hd q hq hkind t ht hrole => ?_⟩
  · rw [hboard] at ht
    cases hid : (h.turn p a).board.session? id with
    | none =>
      rw [Board.session?_posts_of_none hturn.consistent _ hid] at ht
      cases ht
    | some s =>
      obtain ⟨t', ht', -, hw⟩ := Board.session?_posts hturn.consistent (h.turn p a).posts hid
      rw [ht'] at ht
      cases ht
      obtain ⟨s', hs', hst⟩ := turn_outboxes p h ha hid
      refine ⟨s', hs', ?_⟩
      rw [hw, hst]
      rfl
  · obtain ⟨entry, t', he, ht', howns, hreason⟩ := hreasons d hd q hq
    rw [ht'] at ht
    cases ht
    rw [Registry.roomOf_eq_some_iff]
    rcases hreason with hroom | ⟨-, hstaff, -⟩ | ⟨-, -, -, -, -, hleave, -, -⟩
    · exact ⟨entry, he, hroom⟩
    · exact absurd (howns.role.trans hstaff) hrole
    · exact absurd hleave hkind

/-- a message to one of two rooms: the customer in it and the staff that listens get it, the other customer does not -/
theorem traffic_confidential_publish :
    let session (name : String) (role : Role) (room : Option RoomId) : Action :=
      .connect ⟨name⟩ { identity := ⟨name⟩, role, currentRoom := room, outbox := .ofCapacity 4 }
    let p : Policy Unit := ⟨Store.disabled, {}, 1000⟩
    let actions : List Action :=
      [session "ann" .customer (some (.ofNat 7)), session "bob" .customer (some (.ofNat 8)), session "sue" .staff none]
    let h := run p (start () 0 true) actions
    let a : Action := .publish ⟨⟨"desk"⟩, .system⟩ ⟨.message, some (.number (.integer 7)), some "hello", none⟩
    a.isTraffic = true ∧ h.Confidential p a ∧ (h.postings p a).map Posting.recipient = [⟨"ann"⟩, ⟨"sue"⟩] := by
  intro session p actions h a
  have ha : a.isTraffic = true := rfl
  exact ⟨ha, traffic_confidential p () 0 true actions a ha, by decide +kernel⟩

end Hub
end ErrandHub
