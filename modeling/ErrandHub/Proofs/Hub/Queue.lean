/-
Outboxes are bounded queues, first come first served, that end with the open phases.

What an action changes on its own moves phases on and leaves what waits alone (`Session.Matures`), unless the writer of a
session takes envelopes from its outbox or gives it up. What is then sent is appended, as long as the session is open and
the outbox has room (`Post.lives_receive`). So what waits before an action and what arrives in it is what departs in it
and what waits after it (`waiting_step`), and a run adds this up (`waiting_run`).

- `Event.departed`, `Event.arrived`: what leaves an outbox in an event, and what is put into it.
- `Event.ends`, `Event.drained`: whether a session leaves the open phases in an event, and whether `drain` says so.
- `Orderly`: the outbox of a session from a state on.
- `outboxes_are_queues`: every outbox is orderly, from every state that actions lead to, if sessions come up as new ones.
-/
import Mathlib.Tactic
import ErrandHub.Proofs.Hub.History
import ErrandHub.Proofs.Hub.Refusal

namespace ErrandHub

/-! ## One session -/

theorem Phase.isOpen_of_rank_le {a b : Phase} (h : a.rank ≤ b.rank) (hb : b.isOpen = true) : a.isOpen = true := by
  revert h hb
  cases a <;> cases b <;> decide

theorem Phase.rank_le_of_isOpen {a : Phase} (h : a.isOpen = true) : a.rank ≤ Phase.draining.rank := by
  revert h
  cases a <;> decide

namespace Session

/-- a session of which nothing changes but that its phase moves on and that its reader or its writer may stop -/
structure Matures (s t : Session) : Prop where
  phase : s.phase.rank ≤ t.phase.rank
  capacity : t.outbox.capacity = s.outbox.capacity
  waiting : t.outbox.waiting = s.outbox.waiting

/-- a session whose phase moves on and whose outbox keeps within its capacity -/
structure Lives (s t : Session) : Prop where
  phase : s.phase.rank ≤ t.phase.rank
  capacity : t.outbox.capacity = s.outbox.capacity
  bounded : s.outbox.waiting.length ≤ s.outbox.capacity → t.outbox.waiting.length ≤ t.outbox.capacity

theorem Matures.refl (s : Session) : s.Matures s := ⟨le_rfl, rfl, rfl⟩

theorem Matures.trans {s t u : Session} (h : s.Matures t) (h' : t.Matures u) : s.Matures u :=
  ⟨h.phase.trans h'.phase, h'.capacity.trans h.capacity, h'.waiting.trans h.waiting⟩

theorem Matures.lives {s t : Session} (h : s.Matures t) : s.Lives t where
  phase := h.phase
  capacity := h.capacity
  bounded hb := by
    rw [h.waiting, h.capacity]
    exact hb

theorem Lives.refl (s : Session) : s.Lives s := ⟨le_rfl, rfl, id⟩

theorem Lives.trans {s t u : Session} (h : s.Lives t) (h' : t.Lives u) : s.Lives u :=
  ⟨h.phase.trans h'.phase, h'.capacity.trans h.capacity, fun hb => h'.bounded (h.bounded hb)⟩

theorem Lives.not_open {s t : Session} (h : s.Lives t) (hs : s.phase.isOpen = false) : t.phase.isOpen = false := by
  by_contra hopen
  rw [Phase.isOpen_of_rank_le h.phase (Bool.not_eq_false _ ▸ hopen)] at hs
  cases hs

theorem matures_drain (s : Session) : s.Matures s.drain := by
  unfold drain
  split_ifs with hopen
  · exact ⟨Phase.rank_le_of_isOpen hopen, rfl, rfl⟩
  · exact .refl s

theorem matures_activate (s : Session) : s.Matures s.activate := by
  unfold activate
  split_ifs with hconnecting
  · refine ⟨?_, rfl, rfl⟩
    rw [hconnecting]
    exact (by decide : Phase.connecting.rank ≤ Phase.active.rank)
  · exact .refl s

theorem matures_close (s : Session) : s.Matures s.close := by
  refine ⟨?_, rfl, rfl⟩
  cases hs : s.phase <;> simp [close, Phase.rank]

theorem matures_refuse (s : Session) : s.Matures { s with outbox := s.outbox.close } := by
  refine ⟨le_rfl, ?_, ?_⟩ <;> simp only [Outbox.close] <;> split <;> rfl

theorem lives_enqueue {s : Session} (e : Outbound) (h : s.accepts = true) : s.Lives (s.enqueue e) where
  phase := le_rfl
  capacity := rfl
  bounded _ := by
    simp only [accepts, Bool.and_eq_true, decide_eq_true_eq] at h
    simpa [enqueue] using h.2

end Session

/-- a session that is sent something takes it or drains, or stays as it is -/
theorem Post.lives_receive (q : Post) (s : Session) : s.Lives (q.receive s) := by
  have hreceive : ∀ e, s.Lives (s.receive e) := by
    intro e
    unfold Session.receive
    split_ifs with ha
    · exact Session.lives_enqueue e ha
    · exact (Session.matures_drain s).lives
  cases q with
  | offer id e =>
    rw [Post.receive]
    cases ha : s.accepts with
    | true =>
      rw [Session.offer_of_accepts e ha]
      exact Session.lives_enqueue e ha
    | false =>
      rw [(Session.offer_of_not_accepts e ha).1]
      exact Session.Lives.refl s
  | reply id e => exact hreceive e
  | route audience e exclude => exact hreceive e

/-! ## One board -/

namespace Board

variable {b b' : Board}

/-- what waits for the writer of a session, nothing if there is no such session -/
def waiting (b : Board) (id : SessionId) : List Outbound := ((b.session? id).map fun s => s.outbox.waiting).getD []

def isOpen (b : Board) (id : SessionId) : Bool := (b.session? id).any fun s => s.phase.isOpen

theorem waiting_of_some {id : SessionId} {s : Session} (hs : b.session? id = some s) :
    b.waiting id = s.outbox.waiting := by
  rw [waiting, hs]
  rfl

theorem waiting_of_none {id : SessionId} (hid : b.session? id = none) : b.waiting id = [] := by
  rw [waiting, hid]
  rfl

/-- the envelopes that go into the outbox of one session when envelopes are sent one after another -/
def arrivals (b : Board) (qs : List Post) (id : SessionId) : List Outbound :=
  ((b.postings qs).filter fun d => d.recipient = id).map Posting.envelope

theorem arrivals_of_none (h : b.registry.Consistent) (qs : List Post) {id : SessionId} (hid : b.session? id = none) :
    b.arrivals qs id = [] := by
  induction qs generalizing b with
  | nil => rfl
  | cons q qs ih =>
    have hrest : (b.post q).session? id = none := by
      rw [session?_post h, hid]
      split_ifs <;> rfl
    have haccepts : ¬(id ∈ q.targets b ∧ b.accepts id = true) := by
      intro hc
      rw [accepts, hid] at hc
      cases hc.2
    have hhere := b.filter_postings q id
    rw [if_neg haccepts] at hhere
    rw [arrivals, postings, List.filter_append, List.map_append, List.filter_map]
    simp only [Function.comp_def, hhere]
    exact ih (consistent_post h q) hrest

theorem waiting_posts (h : b.registry.Consistent) (qs : List Post) (id : SessionId) :
    (b.posts qs).waiting id = b.waiting id ++ b.arrivals qs id := by
  cases hid : b.session? id with
  | none =>
    rw [waiting_of_none (session?_posts_of_none h qs hid), waiting_of_none hid, arrivals_of_none h qs hid]
    rfl
  | some s =>
    obtain ⟨t, ht, -, hwaiting⟩ := session?_posts h qs hid
    rw [waiting_of_some ht, waiting_of_some hid, hwaiting]
    rfl

theorem arrivals_of_not_open (h : b.registry.Consistent) (qs : List Post) {id : SessionId} {s : Session}
    (hs : b.session? id = some s) (hclosed : s.phase.isOpen = false) : b.arrivals qs id = [] := by
  have hwaiting := waiting_posts h qs id
  rw [waiting_of_some (session?_posts_of_not_open h qs hs hclosed), waiting_of_some hs] at hwaiting
  exact List.self_eq_append_right.1 hwaiting

theorem session?_posts_lives (h : b.registry.Consistent) (qs : List Post) {id : SessionId} {s : Session}
    (hs : b.session? id = some s) : ∃ t, (b.posts qs).session? id = some t ∧ s.Lives t := by
  induction qs generalizing b s with
  | nil => exact ⟨s, hs, .refl s⟩
  | cons q qs ih =>
    have hnext : ∃ t, (b.post q).session? id = some t ∧ s.Lives t := by
      rw [session?_post h, hs]
      split_ifs
      · exact ⟨_, rfl, q.lives_receive s⟩
      · exact ⟨s, rfl, .refl s⟩
    obtain ⟨t, ht, hst⟩ := hnext
    obtain ⟨u, hu, htu⟩ := ih (consistent_post h q) ht
    exact ⟨u, hu, hst.trans htu⟩

/-- the same sessions are there, and all that changes of them is their phases -/
def Matures (b b' : Board) : Prop := ∀ id, Option.Rel Session.Matures (b.session? id) (b'.session? id)

theorem matures_of_sessions (hsessions : b'.sessions = b.sessions) : b.Matures b' := by
  intro id
  rw [session?, session?, hsessions]
  cases b.sessions.get? id with
  | none => exact .none
  | some s => exact .some (.refl s)

theorem Matures.trans {c : Board} (h : b.Matures b') (h' : b'.Matures c) : b.Matures c := by
  intro id
  have hid := h id
  have hid' := h' id
  cases hb : b.session? id <;> cases hb' : b'.session? id <;> rw [hb, hb'] at hid <;> cases hid <;>
    cases hc : c.session? id <;> rw [hb', hc] at hid' <;> cases hid'
  · exact .none
  · exact .some (.trans ‹_› ‹_›)

theorem matures_adjust (b : Board) (id : SessionId) {f : Session → Session} (hf : ∀ s : Session, s.Matures (f s)) :
    b.Matures (b.adjust id f) := by
  intro j
  rw [session?_adjust]
  cases b.session? j with
  | none => split_ifs <;> exact .none
  | some s =>
    split_ifs
    · exact .some (hf s)
    · exact .some (.refl s)

theorem matures_register (b : Board) (id : SessionId) (room : Option RoomId) : b.Matures (b.register id room).1 := by
  refine matures_of_sessions ?_
  unfold Board.register
  split <;> rfl

theorem matures_unregister (b : Board) (id : SessionId) : b.Matures (b.unregister id).1 := by
  unfold Board.unregister
  split_ifs
  · split
    · exact matures_of_sessions rfl
    · exact matures_adjust { b with registry := _ } id Session.matures_drain
  · exact matures_of_sessions rfl

theorem matures_join (b : Board) (id : SessionId) (room : RoomId) : b.Matures (b.join id room).1 := by
  refine matures_of_sessions ?_
  unfold Board.join
  split_ifs <;> rfl

theorem matures_leave (b : Board) (id : SessionId) : b.Matures (b.leave id).1 := by
  refine matures_of_sessions ?_
  unfold Board.leave
  split_ifs <;> rfl

theorem Moved.matures {id : SessionId} (m : b.Moved id b') : b.Matures b' := by
  cases m with
  | unchanged => exact matures_of_sessions rfl
  | stayed => exact matures_adjust b id fun s => ⟨le_rfl, rfl, rfl⟩
  | @moved entry room r' => exact matures_adjust { b with registry := r' } id fun s => ⟨le_rfl, rfl, rfl⟩

/-- a session that was not there comes up, and then sessions mature -/
theorem matures_insert {j : SessionId} (s : Session) (hj : b.session? j = none)
    (m : ({ b with sessions := b.sessions.insert j s } : Board).Matures b') (id : SessionId) :
    Option.Rel Session.Matures (b.session? id) (b'.session? id) ∨
      b.session? id = none ∧ j = id ∧ ∃ t, b'.session? id = some t ∧ s.Matures t := by
  have hid := m id
  rw [session?, Table.get?_insert] at hid
  split_ifs at hid with hjd
  · right
    refine ⟨hjd ▸ hj, hjd, ?_⟩
    cases ht : b'.session? id <;> rw [ht] at hid <;> cases hid
    exact ⟨_, rfl, ‹_›⟩
  · exact Or.inl hid

end Board

/-! ## One action -/

namespace Hub

variable {σ : Type}

/-- the session that an action brings up, unless one of this name is there already -/
def Action.brings? : Action → Option (SessionId × Session)
  | .create id s | .connect id s => some (id, s)
  | _ => none

/-- whether an action is the writer's of a session that takes envelopes from the outbox, or gives the outbox up -/
def Action.clears (id : SessionId) : Action → Bool
  | .take j _ | .abandon j => j = id
  | _ => false

theorem connectTurn_matures (h : Hub σ) (id : SessionId) (s : Session) :
    ({ h.board with sessions := h.board.sessions.insert id s } : Board).Matures (h.connectTurn id s).board := by
  have hreg := Board.matures_register { h.board with sessions := h.board.sessions.insert id s } id s.currentRoom
  unfold connectTurn
  simp only
  split <;> rename_i he <;> rw [he] at hreg
  · exact hreg.trans (Board.matures_adjust _ id fun t => (t.matures_drain).trans (Session.matures_close _))
  · exact hreg.trans (Board.matures_adjust _ id Session.matures_activate)

/-- **What an action changes on its own.** A session that is there matures, unless its writer clears its outbox; one
that is not is not brought up but by an action that brings it. -/
theorem turn_matures (p : Policy σ) (h : Hub σ) {a : Action} {id : SessionId}
    (ha : a.clears id = true → h.board.session? id = none) :
    Option.Rel Session.Matures (h.board.session? id) ((h.turn p a).board.session? id) ∨
      ∃ s t, h.board.session? id = none ∧ a.brings? = some (id, s) ∧
        (h.turn p a).board.session? id = some t ∧ s.Matures t := by
  have hsame : ∀ {b : Board}, b.sessions = h.board.sessions →
      Option.Rel Session.Matures (h.board.session? id) (b.session? id) :=
    fun hsessions => Board.matures_of_sessions hsessions id
  have hin : h.board.Matures (h.inboundTurn (inbound? p a)).board := by
    refine inboundTurn_induction (P := fun t => h.board.Matures t.board) ?_ (fun j e => ?_) _
    · exact Board.matures_of_sessions rfl
    · exact (envelopeTurn_moved h j e).matures
  -- a session that comes up is put on the board first, and matures from there on
  have hbrought : ∀ {j : SessionId} {s : Session} {b : Board}, h.board.session? j = none → a.brings? = some (j, s) →
      ({ h.board with sessions := h.board.sessions.insert j s } : Board).Matures b →
      Option.Rel Session.Matures (h.board.session? id) (b.session? id) ∨
        ∃ s t, h.board.session? id = none ∧ a.brings? = some (id, s) ∧ b.session? id = some t ∧ s.Matures t := by
    intro j s b hj hbrings m
    rcases Board.matures_insert s hj m id with hid | ⟨hid, rfl, t, ht, hst⟩
    · exact Or.inl hid
    · exact Or.inr ⟨s, t, hid, hbrings, ht, hst⟩
  cases a with
  | text j frame => exact Or.inl (hin id)
  | envelope j e => exact Or.inl (hin id)
  | create j s =>
    simp only [turn]
    split
    · exact Or.inl (hsame rfl)
    · exact hbrought ‹_› rfl (Board.matures_of_sessions rfl)
  | connect j s =>
    simp only [turn]
    split
    · exact Or.inl (hsame rfl)
    · exact hbrought ‹_› rfl (h.connectTurn_matures j s)
  | register j room => exact Or.inl (h.board.matures_register j room id)
  | unregister j => exact Or.inl (h.board.matures_unregister j id)
  | join j room => exact Or.inl (h.board.matures_join j room id)
  | leave j => exact Or.inl (h.board.matures_leave j id)
  | publish publisher e =>
    simp only [turn, board_publishTurn]
    exact Or.inl (hsame rfl)
  | announce j room =>
    simp only [turn]
    split <;> exact Or.inl (hsame rfl)
  | drain j => exact Or.inl (h.board.matures_adjust j Session.matures_drain id)
  | activate j => exact Or.inl (h.board.matures_adjust j Session.matures_activate id)
  | close j => exact Or.inl (h.board.matures_adjust j Session.matures_close id)
  | refuse j => exact Or.inl (h.board.matures_adjust j Session.matures_refuse id)
  -- only these two take something out of an outbox, and by `ha` there is no session whose outbox it could be
  | take j count =>
    left
    simp only [turn]
    rw [Board.session?_adjust]
    split_ifs with hj
    · rw [ha (decide_eq_true hj)]
      exact .none
    · exact hsame rfl
  | abandon j =>
    left
    simp only [turn]
    rw [Board.session?_adjust]
    split_ifs with hj
    · rw [ha (decide_eq_true hj)]
      exact .none
    · exact hsame rfl
  | ask candidates => exact Or.inl (hsame rfl)
  | route audience e exclude => exact Or.inl (hsame rfl)
  | deliver j e => exact Or.inl (hsame rfl)
  | notify e => exact Or.inl (hsame rfl)
  | tick now => exact Or.inl (hsame rfl)

/-- what leaves the outbox of a session in an event: what its writer takes, or all that waits when the writer goes -/
def Event.departed (id : SessionId) (e : Event σ) : List Outbound :=
  match e.action, e.report with
  | .take j _, .taken envelopes => if j = id then envelopes else []
  | .abandon j, _ => if j = id then e.before.board.waiting id else []
  | _, _ => []

/-- what is put into the outbox of a session in an event -/
def Event.arrived (p : Policy σ) (id : SessionId) (e : Event σ) : List Outbound :=
  ((e.before.postings p e.action).filter fun d => d.recipient = id).map Posting.envelope

/-- whether a session leaves the open phases in an event -/
def Event.ends (id : SessionId) (e : Event σ) : Bool := e.before.board.isOpen id && !e.after.board.isOpen id

/-- whether a call of `drain` reports, in an event, that it has ended the open phases of a session -/
def Event.drained (id : SessionId) (e : Event σ) : Bool :=
  match e.action, e.report with
  | .drain j, .drained now => j = id && now
  | _, _ => false

theorem departed_eq_nil (p : Policy σ) (h : Hub σ) {a : Action} {id : SessionId}
    (ha : a.clears id = true → h.board.session? id = none) : (h.event p a).departed id = [] := by
  cases a with
  | take j count =>
    by_cases hj : j = id
    · subst hj
      simp [event, step, Event.departed, ha (decide_eq_true rfl)]
    · exact if_neg hj
  | abandon j =>
    by_cases hj : j = id
    · exact (if_pos hj).trans (Board.waiting_of_none (ha (decide_eq_true hj)))
    · exact if_neg hj
  | _ => rfl

/-- a writer that clears the outbox of its session takes from the front, and nothing else changes -/
theorem turn_clears (p : Policy σ) (h : Hub σ) {a : Action} {id : SessionId} (ha : a.clears id = true) {s : Session}
    (hs : h.board.session? id = some s) :
    ∃ t, (h.turn p a).board.session? id = some t ∧ t.phase = s.phase ∧ t.outbox.capacity = s.outbox.capacity ∧
      s.outbox.waiting = (h.event p a).departed id ++ t.outbox.waiting := by
  cases a with
  | take j count =>
    obtain rfl : j = id := of_decide_eq_true ha
    refine ⟨{ s with outbox := (s.outbox.take count).1 }, ?_, rfl, rfl, ?_⟩
    · simp [turn, Board.session?_adjust, hs]
    · simp [event, step, Event.departed, hs, Outbox.take]
  | abandon j =>
    obtain rfl : j = id := of_decide_eq_true ha
    refine ⟨{ s with outbox := s.outbox.abandon }, ?_, rfl, rfl, ?_⟩
    · simp [turn, Board.session?_adjust, hs]
    · simp [event, Event.departed, Board.waiting_of_some hs, Outbox.abandon]
  | _ => cases ha

/-- a session that is there stays there, whatever happens, and lives on -/
theorem turn_lives (p : Policy σ) (h : Hub σ) (a : Action) {id : SessionId} {s : Session}
    (hs : h.board.session? id = some s) : ∃ t, (h.turn p a).board.session? id = some t ∧ s.Lives t := by
  cases ha : a.clears id with
  | true =>
    obtain ⟨t, ht, hphase, hcapacity, hwaiting⟩ := h.turn_clears p ha hs
    refine ⟨t, ht, hphase ▸ le_rfl, hcapacity, fun hb => ?_⟩
    rw [hwaiting, List.length_append] at hb
    omega
  | false =>
    rcases h.turn_matures p (fun hc => absurd (ha.symm.trans hc) Bool.false_ne_true) with hrel | ⟨-, -, hnone, -⟩
    · rw [hs] at hrel
      cases ht : (h.turn p a).board.session? id <;> rw [ht] at hrel <;> cases hrel
      exact ⟨_, rfl, Session.Matures.lives ‹_›⟩
    · rw [hs] at hnone
      cases hnone

theorem step_lives (p : Policy σ) {h : Hub σ} (hsound : h.board.Sound Session.Owns) (a : Action) {id : SessionId}
    {s : Session} (hs : h.board.session? id = some s) :
    ∃ t, (h.step p a).1.board.session? id = some t ∧ s.Lives t := by
  obtain ⟨t, ht, hst⟩ := h.turn_lives p a hs
  obtain ⟨u, hu, htu⟩ := Board.session?_posts_lives (turn_owned p hsound a).consistent (h.turn p a).posts ht
  rw [step_board]
  exact ⟨u, hu, hst.trans htu⟩

theorem waiting_turn (p : Policy σ) (h : Hub σ) {a : Action} {id : SessionId}
    (hnew : ∀ s, a.brings? = some (id, s) → s.outbox.waiting = []) :
    h.board.waiting id = (h.event p a).departed id ++ (h.turn p a).board.waiting id := by
  by_cases ha : a.clears id = true → h.board.session? id = none
  · rw [departed_eq_nil p h ha, List.nil_append]
    rcases h.turn_matures p ha with hrel | ⟨s, t, hnone, hbrings, ht, hst⟩
    · cases hs : h.board.session? id <;> cases ht : (h.turn p a).board.session? id <;> rw [hs, ht] at hrel <;>
        cases hrel
      · rw [Board.waiting_of_none hs, Board.waiting_of_none ht]
      · rw [Board.waiting_of_some hs, Board.waiting_of_some ht]
        exact (Session.Matures.waiting ‹_›).symm
    · rw [Board.waiting_of_none hnone, Board.waiting_of_some ht, hst.waiting, hnew s hbrings]
  · obtain ⟨hclears, hsome⟩ := Classical.not_imp.1 ha
    obtain ⟨s, hs⟩ := Option.ne_none_iff_exists'.1 hsome
    obtain ⟨t, ht, -, -, hwaiting⟩ := h.turn_clears p hclears hs
    rw [Board.waiting_of_some hs, Board.waiting_of_some ht, hwaiting]

/-- **What waits before an action, and what arrives in it, is what departs in it, and what waits after it.** -/
theorem waiting_step (p : Policy σ) {h : Hub σ} (hsound : h.board.Sound Session.Owns) {a : Action} (id : SessionId)
    (hnew : ∀ s, a.brings? = some (id, s) → s.outbox.waiting = []) :
    h.board.waiting id ++ (h.event p a).arrived p id =
      (h.event p a).departed id ++ (h.step p a).1.board.waiting id := by
  have hposts : (h.step p a).1.board.waiting id = (h.turn p a).board.waiting id ++ (h.event p a).arrived p id := by
    rw [step_board]
    exact Board.waiting_posts (turn_owned p hsound a).consistent _ id
  rw [hposts, h.waiting_turn p hnew, List.append_assoc]

theorem arrived_of_not_open (p : Policy σ) {h : Hub σ} (hsound : h.board.Sound Session.Owns) (a : Action)
    {id : SessionId} {s : Session} (hs : h.board.session? id = some s) (hclosed : s.phase.isOpen = false) :
    (h.event p a).arrived p id = [] := by
  obtain ⟨t, ht, hst⟩ := h.turn_lives p a hs
  exact Board.arrivals_of_not_open (turn_owned p hsound a).consistent _ ht (hst.not_open hclosed)

theorem arrived_deliver_iff (p : Policy σ) (h : Hub σ) (id : SessionId) (out : Outbound) :
    (h.event p (.deliver id out)).arrived p id = [out] ↔
      (h.event p (.deliver id out)).report = .offered .accepted := by
  have harrived : (h.event p (.deliver id out)).arrived p id = if h.board.accepts id then [out] else [] := by
    cases ha : h.board.accepts id <;>
      simp [Event.arrived, event, postings, Turn.postings, turn, Board.postings, Post.targets, Post.envelope, ha]
  have hreport : (h.event p (.deliver id out)).report = .offered (h.board.offer id out).2 := rfl
  rw [harrived, hreport, Report.offered.injEq, Board.offer_eq_accepted_iff]
  split_ifs with ha <;> simp [ha]

theorem ends_of_drained (p : Policy σ) {h : Hub σ} {a : Action} {id : SessionId}
    (hd : (h.event p a).drained id = true) : (h.event p a).ends id = true := by
  cases a with
  | drain j =>
    simp only [Event.drained, event, step, Bool.and_eq_true, decide_eq_true_eq] at hd
    obtain ⟨rfl, hopen⟩ := hd
    have hafter : (h.step p (.drain j)).1.board.isOpen j = false := by
      rw [step_board, Board.isOpen]
      change ((h.board.adjust j Session.drain).session? j).any _ = false
      rw [Board.session?_adjust, if_pos rfl]
      cases h.board.session? j <;> simp
    simp only [Event.ends, event, hafter, Bool.not_false, Bool.and_true]
    exact hopen
  | _ => cases hd

/-! ## Runs -/

/-- sessions come up as new ones: not at work yet, with an empty outbox for as many envelopes as they are to hold -/
def BringsNew (capacity : SessionId → Nat) (actions : List Action) : Prop :=
  ∀ a ∈ actions, ∀ id s, a.brings? = some (id, s) →
    s.phase = .connecting ∧ s.outbox = .ofCapacity (capacity id)

/-- no outbox has more envelopes than it is to hold -/
def Roomy (capacity : SessionId → Nat) (b : Board) : Prop :=
  ∀ id s, b.session? id = some s →
    s.outbox.capacity = max 1 (capacity id) ∧ s.outbox.waiting.length ≤ s.outbox.capacity

variable {capacity : SessionId → Nat}

theorem BringsNew.mono {actions fewer : List Action} (hnew : BringsNew capacity actions)
    (hfewer : ∀ a ∈ fewer, a ∈ actions) : BringsNew capacity fewer := fun a ha => hnew a (hfewer a ha)

theorem BringsNew.single {a : Action} {actions : List Action} (hnew : BringsNew capacity actions) (ha : a ∈ actions) :
    BringsNew capacity [a] := hnew.mono fun _ hb => List.mem_singleton.1 hb ▸ ha

theorem BringsNew.tail {a : Action} {actions : List Action} (hnew : BringsNew capacity (a :: actions)) :
    BringsNew capacity actions := hnew.mono fun _ hb => List.mem_cons_of_mem a hb

theorem BringsNew.waiting {a : Action} (hnew : BringsNew capacity [a]) {id : SessionId} :
    ∀ s, a.brings? = some (id, s) → s.outbox.waiting = [] := by
  intro s hbrings
  rw [(hnew a List.mem_cons_self id s hbrings).2]
  rfl

theorem Roomy.length_waiting {b : Board} (h : Roomy capacity b) (id : SessionId) :
    (b.waiting id).length ≤ max 1 (capacity id) := by
  cases hid : b.session? id with
  | none =>
    rw [Board.waiting_of_none hid]
    exact Nat.zero_le _
  | some s =>
    obtain ⟨hcapacity, hlength⟩ := h id s hid
    rw [Board.waiting_of_some hid, ← hcapacity]
    exact hlength

theorem Roomy.posts {b : Board} (h : Roomy capacity b) (hb : b.registry.Consistent) (qs : List Post) :
    Roomy capacity (b.posts qs) := by
  intro id t ht
  cases hid : b.session? id with
  | none =>
    rw [Board.session?_posts_of_none hb qs hid] at ht
    cases ht
  | some s =>
    obtain ⟨t', ht', hst⟩ := Board.session?_posts_lives hb qs hid
    rw [ht] at ht'
    cases ht'
    obtain ⟨hcapacity, hlength⟩ := h id s hid
    exact ⟨hst.capacity.trans hcapacity, hst.bounded hlength⟩

theorem turn_roomy (p : Policy σ) {h : Hub σ} (hroomy : Roomy capacity h.board) {a : Action}
    (hnew : BringsNew capacity [a]) : Roomy capacity (h.turn p a).board := by
  intro id t ht
  cases hs : h.board.session? id with
  | some s =>
    obtain ⟨t', ht', hst⟩ := h.turn_lives p a hs
    rw [ht] at ht'
    cases ht'
    obtain ⟨hcapacity, hlength⟩ := hroomy id s hs
    exact ⟨hst.capacity.trans hcapacity, hst.bounded hlength⟩
  | none =>
    rcases h.turn_matures p (a := a) (fun _ => hs) with hrel | ⟨s, t', -, hbrings, ht', hst⟩
    · rw [hs, ht] at hrel
      cases hrel
    · rw [ht] at ht'
      cases ht'
      have houtbox := (hnew a List.mem_cons_self id s hbrings).2
      rw [hst.capacity, hst.waiting, houtbox]
      exact ⟨rfl, Nat.zero_le _⟩

theorem step_roomy (p : Policy σ) {h : Hub σ} (hsound : h.board.Sound Session.Owns) (hroomy : Roomy capacity h.board)
    {a : Action} (hnew : BringsNew capacity [a]) : Roomy capacity (h.step p a).1.board := by
  rw [step_board]
  exact (turn_roomy p hroomy hnew).posts (turn_owned p hsound a).consistent _

theorem run_roomy (p : Policy σ) {h : Hub σ} (hsound : h.board.Sound Session.Owns) (hroomy : Roomy capacity h.board)
    {actions : List Action} (hnew : BringsNew capacity actions) : Roomy capacity (run p h actions).board := by
  induction actions generalizing h with
  | nil => exact hroomy
  | cons a actions ih => exact ih (step_owned p hsound a) (step_roomy p hsound hroomy (hnew.single List.mem_cons_self)) hnew.tail

theorem run_lives (p : Policy σ) {h : Hub σ} (hsound : h.board.Sound Session.Owns) (actions : List Action)
    {id : SessionId} {s : Session} (hs : h.board.session? id = some s) :
    ∃ t, (run p h actions).board.session? id = some t ∧ s.Lives t := by
  induction actions generalizing h s with
  | nil => exact ⟨s, hs, .refl s⟩
  | cons a actions ih =>
    obtain ⟨t, ht, hst⟩ := step_lives p hsound a hs
    obtain ⟨u, hu, htu⟩ := ih (step_owned p hsound a) ht
    exact ⟨u, hu, hst.trans htu⟩

/-- **What waits before a run, and what arrives in it, is what departs in it, and what waits after it.** -/
theorem waiting_run (p : Policy σ) {h : Hub σ} (hsound : h.board.Sound Session.Owns) {actions : List Action}
    (hnew : BringsNew capacity actions) (id : SessionId) :
    h.board.waiting id ++ (history p h actions).flatMap (Event.arrived p id) =
      (history p h actions).flatMap (Event.departed id) ++ (run p h actions).board.waiting id := by
  induction actions generalizing h with
  | nil => simp [history, run]
  | cons a actions ih =>
    have hstep := waiting_step p hsound id (hnew.single List.mem_cons_self).waiting
    have hrest := ih (step_owned p hsound a) hnew.tail
    calc h.board.waiting id ++ (history p h (a :: actions)).flatMap (Event.arrived p id)
        = (h.board.waiting id ++ (h.event p a).arrived p id)
            ++ (history p (h.step p a).1 actions).flatMap (Event.arrived p id) := by
          rw [history, List.flatMap_cons, List.append_assoc]
      _ = (h.event p a).departed id ++ ((h.step p a).1.board.waiting id
            ++ (history p (h.step p a).1 actions).flatMap (Event.arrived p id)) := by
          rw [hstep, List.append_assoc]
      _ = (history p h (a :: actions)).flatMap (Event.departed id) ++ (run p h (a :: actions)).board.waiting id := by
          rw [hrest, history, List.flatMap_cons, List.append_assoc]
          rfl

/-- nothing ever arrives again for a session that has left the open phases -/
theorem arrived_run_of_not_open (p : Policy σ) {h : Hub σ} (hsound : h.board.Sound Session.Owns)
    (actions : List Action) {id : SessionId} {s : Session} (hs : h.board.session? id = some s)
    (hclosed : s.phase.isOpen = false) : (history p h actions).flatMap (Event.arrived p id) = [] := by
  induction actions generalizing h s with
  | nil => rfl
  | cons a actions ih =>
    obtain ⟨t, ht, hst⟩ := step_lives p hsound a hs
    rw [history, List.flatMap_cons, arrived_of_not_open p hsound a hs hclosed]
    exact ih (step_owned p hsound a) ht (hst.not_open hclosed)

theorem countP_ends_of_not_open (p : Policy σ) {h : Hub σ} (hsound : h.board.Sound Session.Owns)
    (actions : List Action) {id : SessionId} {s : Session} (hs : h.board.session? id = some s)
    (hclosed : s.phase.isOpen = false) : (history p h actions).countP (Event.ends id) = 0 := by
  induction actions generalizing h s with
  | nil => rfl
  | cons a actions ih =>
    obtain ⟨t, ht, hst⟩ := step_lives p hsound a hs
    have hnot : ¬(h.event p a).ends id = true := by
      simp [Event.ends, event, Board.isOpen, hs, hclosed]
    rw [history, List.countP_cons_of_neg hnot]
    exact ih (step_owned p hsound a) ht (hst.not_open hclosed)

theorem countP_ends_le_one (p : Policy σ) {h : Hub σ} (hsound : h.board.Sound Session.Owns) (actions : List Action)
    (id : SessionId) : (history p h actions).countP (Event.ends id) ≤ 1 := by
  induction actions generalizing h with
  | nil => exact Nat.zero_le 1
  | cons a actions ih =>
    have hsound' := step_owned p hsound a
    rw [history]
    by_cases hends : (h.event p a).ends id = true
    · have hopen : h.board.isOpen id = true ∧ (h.step p a).1.board.isOpen id = false := by
        simpa [Event.ends, event] using hends
      obtain ⟨s, hs, -⟩ := (Option.any_eq_true _ _).1 hopen.1
      obtain ⟨t, ht, -⟩ := step_lives p hsound a hs
      have hclosed : t.phase.isOpen = false := by simpa [Board.isOpen, ht] using hopen.2
      rw [List.countP_cons_of_pos hends, countP_ends_of_not_open p hsound' actions ht hclosed]
    · rw [List.countP_cons_of_neg hends]
      exact ih hsound'

/-- the outbox of a session from a state on, and the phases of the session -/
structure Orderly (p : Policy σ) (capacity : SessionId → Nat) (h : Hub σ) (later : List Action) (id : SessionId) :
    Prop where
  /-- the phase never moves backwards -/
  phase : ∀ s, h.board.session? id = some s →
    ∃ t, (run p h later).board.session? id = some t ∧ s.phase.rank ≤ t.phase.rank
  /-- the session leaves the open phases once at most, by whatever event -/
  ended_once : (history p h later).countP (Event.ends id) ≤ 1
  /-- `drain` reports that it has ended the open phases only if it has, and so once at most -/
  drained_ends : ∀ e ∈ history p h later, e.drained id = true → e.ends id = true
  drained_once : (history p h later).countP (Event.drained id) ≤ 1
  /-- first come, first served: what departs does so in the order in which it arrived, and what waits is the rest -/
  fifo : h.board.waiting id ++ (history p h later).flatMap (Event.arrived p id) =
    (history p h later).flatMap (Event.departed id) ++ (run p h later).board.waiting id
  /-- what is offered to the session arrives exactly if it is reported to be accepted -/
  accepted : ∀ e ∈ history p h later, ∀ out, e.action = .deliver id out →
    (e.arrived p id = [out] ↔ e.report = .offered .accepted)
  /-- what waits goes on waiting, in its place, unless the writer of the session clears the outbox -/
  kept : (∀ a ∈ later, a.clears id = false) → h.board.waiting id <+: (run p h later).board.waiting id
  /-- what arrives in an event, such as a frame of some producer, is ahead of all that arrives in a later one -/
  in_order : ∀ first e between e' last, history p h later = first ++ e :: between ++ e' :: last →
    ∃ ahead apart behind, (history p h later).flatMap (Event.departed id) ++ (run p h later).board.waiting id =
      ahead ++ e.arrived p id ++ apart ++ e'.arrived p id ++ behind
  /-- the outbox never holds more envelopes than it is to hold, in no event and at no time of it -/
  bounded : (h.board.waiting id).length ≤ max 1 (capacity id) ∧
    ∀ e ∈ history p h later, ∀ sent, sent <+: (e.before.turn p e.action).posts →
      (((e.before.turn p e.action).board.posts sent).waiting id).length ≤ max 1 (capacity id)
  /-- once the session has left the open phases, nothing arrives any more -/
  quiet : ∀ s, h.board.session? id = some s → s.phase.isOpen = false →
    (history p h later).flatMap (Event.arrived p id) = []
  /-- that holds also within the event in which it leaves them -/
  quiet_within : ∀ e ∈ history p h later, ∀ sent rest, (e.before.turn p e.action).posts = sent ++ rest →
    ∀ s, ((e.before.turn p e.action).board.posts sent).session? id = some s → s.phase.isOpen = false →
      e.after.board.session? id = some s

theorem orderly_of_sound (p : Policy σ) {h : Hub σ} (hsound : h.board.Sound Session.Owns)
    (hroomy : Roomy capacity h.board) {later : List Action} (hnew : BringsNew capacity later) (id : SessionId) :
    Orderly p capacity h later id := by
  have hfifo := waiting_run p hsound hnew id
  have hends := countP_ends_le_one p hsound later id
  -- every event of the run starts in a state with the invariants of the first one
  have hevents : ∀ e ∈ history p h later, ∃ g : Hub σ, ∃ a ∈ later,
      (g.board.Sound Session.Owns ∧ Roomy capacity g.board) ∧ e = g.event p a := by
    intro e he
    refine of_mem_history ⟨hsound, hroomy⟩ (fun g a ha hg => ?_) he
    exact ⟨step_owned p hg.1 a, step_roomy p hg.1 hg.2 (hnew.single ha)⟩
  have hdrained : ∀ e ∈ history p h later, e.drained id = true → e.ends id = true := by
    intro e he hd
    obtain ⟨g, a, -, -, rfl⟩ := hevents e he
    exact ends_of_drained p hd
  constructor
  case phase =>
    intro s hs
    obtain ⟨t, ht, hst⟩ := run_lives p hsound later hs
    exact ⟨t, ht, hst.phase⟩
  case ended_once => exact hends
  case drained_ends => exact hdrained
  case drained_once => exact (List.countP_mono_left hdrained).trans hends
  case fifo => exact hfifo
  case accepted =>
    intro e he out haction
    obtain ⟨g, a, -, -, rfl⟩ := hevents e he
    obtain rfl : a = .deliver id out := haction
    exact g.arrived_deliver_iff p id out
  -- nothing departs unless the outbox is cleared, so by `fifo` all that arrived still waits
  case kept =>
    intro hclears
    have hdeparted : (history p h later).flatMap (Event.departed id) = [] := by
      refine List.flatMap_eq_nil_iff.2 fun e he => ?_
      obtain ⟨g, a, ha, -, rfl⟩ := hevents e he
      exact departed_eq_nil p g fun hc => absurd ((hclears a ha).symm.trans hc) Bool.false_ne_true
    rw [hdeparted] at hfifo
    exact ⟨_, hfifo⟩
  case in_order =>
    intro first e between e' last hsplit
    refine ⟨h.board.waiting id ++ first.flatMap (Event.arrived p id), between.flatMap (Event.arrived p id),
      last.flatMap (Event.arrived p id), ?_⟩
    rw [← hfifo, hsplit]
    simp
  case bounded =>
    refine ⟨hroomy.length_waiting id, fun e he sent _ => ?_⟩
    obtain ⟨g, a, ha, ⟨hg, hgroomy⟩, rfl⟩ := hevents e he
    have hturn := turn_roomy p hgroomy (hnew.single ha)
    exact (hturn.posts (turn_owned p hg a).consistent sent).length_waiting id
  case quiet =>
    intro s hs hclosed
    exact arrived_run_of_not_open p hsound later hs hclosed
  case quiet_within =>
    intro e he sent rest hposts s hs hclosed
    obtain ⟨g, a, -, ⟨hg, -⟩, rfl⟩ := hevents e he
    have hrest : (g.step p a).1.board = ((g.turn p a).board.posts sent).posts rest := step_board_of_split p hposts
    change (g.step p a).1.board.session? id = some s
    rw [hrest]
    exact Board.session?_posts_of_not_open (Board.consistent_posts (turn_owned p hg a).consistent sent) rest hs hclosed

/-- **Outboxes are bounded queues that end with the open phases.** From every state that actions lead to, through
whatever actions, whoever's they are and whatever teardown they bring about, every outbox is orderly, provided that
sessions come up as new ones. -/
theorem outboxes_are_queues (p : Policy σ) (store : σ) (now : Int64) (running : Bool) (capacity : SessionId → Nat)
    (before later : List Action) (hnew : BringsNew capacity (before ++ later)) (id : SessionId) :
    Orderly p capacity (run p (start store now running) before) later id := by
  have hbefore : BringsNew capacity before := hnew.mono fun _ ha => List.mem_append_left later ha
  have hlater : BringsNew capacity later := hnew.mono fun _ ha => List.mem_append_right before ha
  have hempty : Roomy capacity (start store now running).board := by
    intro j s hs
    cases hs
  have hroomy := run_roomy p (start_sound store now running) hempty hbefore
  exact orderly_of_sound p (run_owned p store now running before) hroomy hlater id

/-- ann's outbox holds two envelopes: the fourth one finds it full and ends her open phases, so that the fifth does not
arrive and `drain` has nothing left to end, while her writer takes what waits -/
theorem outboxes_are_queues_overflow :
    let ann : SessionId := ⟨"ann"⟩
    let bob : SessionId := ⟨"bob"⟩
    let session (name : String) : Session :=
      { identity := ⟨name⟩, role := .customer, currentRoom := some (.ofNat 7), outbox := .ofCapacity 2 }
    let frame (message : String) : Action := .envelope bob ⟨.message, none, some message, none⟩
    let p : Policy Unit := ⟨Store.disabled, {}, 1000⟩
    let before : List Action := [.connect ann (session "ann"), .connect bob (session "bob")]
    let later : List Action := [frame "one", frame "two", .take ann 1, frame "three", frame "four", frame "five", .drain ann]
    let h := run p (start () 0 true) before
    let messages (es : List Outbound) := es.map Outbound.message
    BringsNew (fun _ => 2) (before ++ later) ∧ Orderly p (fun _ => 2) h later ann ∧
      messages ((history p h later).flatMap (Event.departed ann)) = [some "one"] ∧
      messages ((run p h later).board.waiting ann) = [some "two", some "three"] ∧
      (history p h later).map (Event.ends ann) = [false, false, false, false, true, false, false] ∧
      (history p h later).countP (Event.drained ann) = 0 := by
  intro ann bob session frame p before later h messages
  have hnew : BringsNew (fun _ => 2) (before ++ later) := by
    intro a ha id s hbrings
    simp only [before, later, frame, List.cons_append, List.nil_append, List.mem_cons, List.not_mem_nil, or_false] at ha
    rcases ha with rfl | rfl | rfl | rfl | rfl | rfl | rfl | rfl | rfl <;> cases hbrings <;> exact ⟨rfl, rfl⟩
  exact ⟨hnew, outboxes_are_queues p () 0 true (fun _ => 2) before later hnew ann, by decide +kernel⟩

end Hub
end ErrandHub
