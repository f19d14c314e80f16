/-
Sessions that cannot take what they are sent.

A `Refusal` is an envelope that could not be put into an outbox, with the board as it was then. A session that was to
get it as one of an audience is torn down: it drains, and no table mentions it any more. A session that was to get it as
an answer drains as well, but the registry goes on listing it where it was, so that it is counted, resolved and reported
online until somebody unregisters it.

- `refusals`: all envelopes of a turn that could not be put into an outbox.
- `session?_posts_of_refused`, `get?_posts_of_refused`: what is left of the session in both tables when all is sent.
- `turn_answersAside`: whoever is answered in a turn is in none of its audiences.
- `refusals_tear_down_audiences`: every refusal in every action, in every state that a hub gets into.
- `refused_answer_keeps_place`: a session that is answered is not torn down.
-/
import Mathlib.Tactic
import ErrandHub.Proofs.Hub.Confidentiality
import ErrandHub.Proofs.Hub.FanOut

namespace ErrandHub

/-! ## Sessions that have left the open phases -/

theorem Session.drain_of_not_open {s : Session} (h : s.phase.isOpen = false) : s.drain = s := by
  simp [drain, h]

theorem Session.accepts_of_not_open {s : Session} (h : s.phase.isOpen = false) : s.accepts = false := by
  simp [accepts, h]

theorem Post.receive_of_not_open (q : Post) {s : Session} (h : s.phase.isOpen = false) : q.receive s = s := by
  have hreceive : ∀ e, s.receive e = s := fun e => by
    rw [Session.receive, Session.accepts_of_not_open h]
    exact Session.drain_of_not_open h
  cases q with
  | offer id e => exact (Session.offer_of_not_accepts e (Session.accepts_of_not_open h)).1
  | reply id e => exact hreceive e
  | route audience e exclude => exact hreceive e

/-! ## Refusals -/

/-- an envelope that a session could not take, and the board at the time -/
structure Refusal where
  board : Board
  recipient : SessionId
  post : Post

/-- a session is torn down: it is not open any more, and the registry knows nothing of it -/
structure Board.TornDown (b : Board) (id : SessionId) : Prop where
  closed : ∀ s, b.session? id = some s → s.phase.isOpen = false
  /-- neither table mentions it, so it is not counted in any room -/
  unmentioned : b.registry.Unmentioned id
  /-- it is a recipient of nothing -/
  unheard : ∀ audience : Audience, id ∉ audience.recipients b.registry
  /-- an identity that is online is so on account of another session -/
  offline : ∀ candidates, ∀ i ∈ b.registry.onlineAmong candidates,
    ∃ j entry, j ≠ id ∧ b.registry.sessions.get? j = some entry ∧ entry.identity = i

namespace Board

variable {b : Board}

/-- the envelopes that cannot be put into outboxes when envelopes are sent one after another -/
def refusals (b : Board) : List Post → List Refusal
  | [] => []
  | q :: qs =>
    ((q.targets b).filter fun id => (b.offer id q.envelope).2 ≠ .accepted).map (fun id => ⟨b, id, q⟩)
      ++ (b.post q).refusals qs

theorem mem_refusals_cons {q : Post} {qs : List Post} {d : Refusal} (hd : d ∈ b.refusals (q :: qs)) :
    (d.board = b ∧ d.post = q ∧ d.recipient ∈ q.targets b ∧ b.accepts d.recipient = false) ∨
      d ∈ (b.post q).refusals qs := by
  rw [refusals, List.mem_append] at hd
  rcases hd with hd | hd
  · obtain ⟨id, hid, rfl⟩ := List.mem_map.1 hd
    obtain ⟨htarget, hrefused⟩ := List.mem_filter.1 hid
    rw [decide_eq_true_eq, ne_eq, offer_eq_accepted_iff, Bool.not_eq_true] at hrefused
    exact Or.inl ⟨rfl, rfl, htarget, hrefused⟩
  · exact Or.inr hd

theorem post_of_mem_refusals {qs : List Post} {d : Refusal} (hd : d ∈ b.refusals qs) :
    d.post ∈ qs ∧ d.recipient ∈ d.post.targets d.board := by
  induction qs generalizing b with
  | nil => cases hd
  | cons q qs ih =>
    rcases mem_refusals_cons hd with ⟨rfl, rfl, htarget, -⟩ | hd
    · exact ⟨List.mem_cons_self, htarget⟩
    · obtain ⟨hpost, htarget⟩ := ih hd
      exact ⟨List.mem_cons_of_mem q hpost, htarget⟩

theorem session?_posts_of_not_open (h : b.registry.Consistent) (qs : List Post) {j : SessionId} {s : Session}
    (hs : b.session? j = some s) (hclosed : s.phase.isOpen = false) : (b.posts qs).session? j = some s := by
  induction qs generalizing b with
  | nil => exact hs
  | cons q qs ih =>
    refine ih (consistent_post h q) ?_
    rw [session?_post h, hs]
    split_ifs
    · rw [Option.map_some, q.receive_of_not_open hclosed]
    · rfl

theorem get?_posts_of_none (qs : List Post) {j : SessionId} (hj : b.registry.sessions.get? j = none) :
    (b.posts qs).registry.sessions.get? j = none := by
  induction qs generalizing b with
  | nil => exact hj
  | cons q qs ih =>
    refine ih ?_
    rw [registry_post, Registry.get?_withdraw, hj, ite_self]

/-- a session that was answered, or sent to as one of an audience, has drained once it could not take the envelope -/
theorem session?_posts_of_refused (h : b.registry.Consistent) {qs : List Post} {d : Refusal}
    (hd : d ∈ b.refusals qs) (hpost : ∀ id e, d.post ≠ .offer id e) {s : Session}
    (hs : d.board.session? d.recipient = some s) : (b.posts qs).session? d.recipient = some s.drain := by
  induction qs generalizing b with
  | nil => cases hd
  | cons q qs ih =>
    rcases mem_refusals_cons hd with ⟨rfl, rfl, htarget, hrefused⟩ | hd
    · have hreceive : d.post.receive s = s.drain := by
        have ha : s.accepts = false := by simpa [accepts, hs] using hrefused
        cases hq : d.post with
        | offer id e => exact absurd hq (hpost id e)
        | reply id e => simp [Post.receive, Session.receive, ha]
        | route audience e exclude => simp [Post.receive, Session.receive, ha]
      refine session?_posts_of_not_open (consistent_post h _) qs ?_ s.isOpen_drain
      rw [session?_post h, if_pos htarget, hs, Option.map_some, hreceive]
    · exact ih (consistent_post h q) hd

theorem get?_posts_of_refused {qs : List Post} {d : Refusal} (hd : d ∈ b.refusals qs) {audience : Audience}
    {e : Outbound} {exclude : Option SessionId} (hpost : d.post = .route audience e exclude) :
    (b.posts qs).registry.sessions.get? d.recipient = none := by
  induction qs generalizing b with
  | nil => cases hd
  | cons q qs ih =>
    rcases mem_refusals_cons hd with ⟨rfl, rfl, htarget, hrefused⟩ | hd
    · refine get?_posts_of_none qs ?_
      rw [registry_post, Registry.get?_withdraw, if_pos]
      rw [hpost] at htarget ⊢
      exact List.mem_filter.2 ⟨htarget, by rw [hrefused]; rfl⟩
    · exact ih hd

theorem get?_posts_of_aside (h : b.registry.Consistent) {qs : List Post} {j : SessionId}
    (haside : ∀ audience e exclude, .route audience e exclude ∈ qs → ∀ place ∈ audience.places,
      b.registry.placeOf? j ≠ some place) :
    (b.posts qs).registry.sessions.get? j = b.registry.sessions.get? j := by
  induction qs generalizing b with
  | nil => rfl
  | cons q qs ih =>
    have hnot : j ∉ q.withdrawn b := by
      cases q with
      | offer id e => exact List.not_mem_nil
      | reply id e => exact List.not_mem_nil
      | route audience e exclude =>
        intro hj
        obtain ⟨entry, he, hplace⟩ := place_of_mem_targets h (List.mem_filter.1 hj).1
        exact haside audience e exclude List.mem_cons_self entry.place hplace (by rw [Registry.placeOf?, he]; rfl)
    have hsame : (b.post q).registry.sessions.get? j = b.registry.sessions.get? j := by
      rw [registry_post, Registry.get?_withdraw, if_neg hnot]
    have hrest := ih (b := b.post q) (consistent_post h q) fun audience e exclude hq place hplace => by
      rw [Registry.placeOf?, hsame]
      exact haside audience e exclude (List.mem_cons_of_mem q hq) place hplace
    exact hrest.trans hsame

/-- the board at the time of a refusal has no entry that was not there before -/
theorem get?_of_mem_refusals {qs : List Post} {d : Refusal} (hd : d ∈ b.refusals qs) {id : SessionId} {entry : Entry}
    (he : d.board.registry.sessions.get? id = some entry) : b.registry.sessions.get? id = some entry := by
  induction qs generalizing b with
  | nil => cases hd
  | cons q qs ih =>
    rcases mem_refusals_cons hd with ⟨rfl, -⟩ | hd
    · exact he
    · exact get?_post (ih hd)

theorem Sound.of_mem_refusals {Rel : Session → Entry → Prop} (h : b.Sound Rel) (hrel : Session.Tracks Rel)
    {qs : List Post} {d : Refusal} (hd : d ∈ b.refusals qs) : d.board.Sound Rel := by
  induction qs generalizing b with
  | nil => cases hd
  | cons q qs ih =>
    rcases mem_refusals_cons hd with ⟨rfl, -⟩ | hd
    · exact h
    · exact ih (h.post hrel.reader q) hd

theorem tornDown_of_get?_eq_none (h : b.registry.Consistent) {id : SessionId}
    (hid : b.registry.sessions.get? id = none) (hclosed : ∀ s, b.session? id = some s → s.phase.isOpen = false) :
    b.TornDown id := by
  refine ⟨hclosed, h.unmentioned hid, fun audience hheard => ?_, fun candidates i hi => ?_⟩
  · have hregistered := audience.contains_of_mem_recipients h id hheard
    rw [Table.contains, hid] at hregistered
    cases hregistered
  · obtain ⟨-, j, entry, hj, hidentity⟩ := (h.agree.mem_onlineAmong_iff candidates i).1 hi
    refine ⟨j, entry, ?_, hj, hidentity⟩
    rintro rfl
    rw [hid] at hj
    cases hj

end Board

/-! ## Answers and audiences of one turn -/

namespace Turn

def refusals (t : Turn) : List Refusal := t.board.refusals t.posts

/-- whoever is answered is in no audience -/
def AnswersAside (t : Turn) : Prop :=
  ∀ id e, .reply id e ∈ t.posts → ∀ audience e' exclude, .route audience e' exclude ∈ t.posts →
    ∀ place ∈ audience.places, t.board.registry.placeOf? id ≠ some place

theorem answersAside_of_no_answer {t : Turn} (h : ∀ q ∈ t.posts, ∀ id e, q ≠ .reply id e) : t.AnswersAside :=
  fun id e hreply => absurd rfl (h _ hreply id e)

theorem answersAside_silent (b : Board) : ({ board := b } : Turn).AnswersAside :=
  answersAside_of_no_answer fun q hq => by cases hq

/-- a turn of one post has no answer, or no audience -/
theorem answersAside_single (b : Board) (q : Post) (chat : Option Outbound) : (⟨b, [q], chat⟩ : Turn).AnswersAside := by
  intro id e hreply audience e' exclude hroute
  have hq := (List.mem_singleton.1 hreply).trans (List.mem_singleton.1 hroute).symm
  cases hq

end Turn

namespace Hub

variable {σ : Type}

theorem joinTurn_answersAside (h : Hub σ) (id : SessionId) (s : Session) (e : Inbound) :
    (h.joinTurn id s e).AnswersAside := by
  unfold joinTurn
  split
  · exact Turn.answersAside_silent _
  · rename_i room _
    rcases h.board.join_cases id room with ⟨reason, he⟩ | ⟨entry, -, -, he⟩ | ⟨entry, r', created, -, -, he⟩
    · rw [he]
      exact Turn.answersAside_silent _
    · rw [he]
      exact Turn.answersAside_single _ _ none
    · rw [he]
      refine Turn.answersAside_of_no_answer fun q hq id' e' hreply => ?_
      have hsent : q ∈ joinPosts h.now id s room ⟨entry.room, created, false⟩ := hq
      rcases mem_joinPosts hsent with ⟨hunchanged, -⟩ | ⟨prev, rfl⟩ | rfl | rfl
      · cases hunchanged
      all_goals cases hreply

theorem leaveTurn_answersAside (h : Hub σ) (id : SessionId) (s : Session) : (h.leaveTurn id s).AnswersAside := by
  unfold leaveTurn
  rcases h.board.leave_cases id with ⟨reason, he⟩ | ⟨entry, -, -, he⟩ | ⟨entry, q, r', hid, -, m, he⟩
  · rw [he]
    exact Turn.answersAside_silent _
  · rw [he]
    exact Turn.answersAside_silent _
  · -- the session that leaves is answered when it is in no room any more
    rw [he]
    intro j e hreply audience e' exclude hroute place hplace
    have hj : j = id := by
      rcases List.mem_cons.1 hreply with heq | hrest
      · cases heq
        rfl
      · cases List.mem_singleton.1 hrest
    have hroom : audience = .room q := by
      rcases List.mem_cons.1 hroute with heq | hrest
      · cases heq
      · cases List.mem_singleton.1 hrest
        rfl
    rw [hroom] at hplace
    rw [hj, List.mem_singleton.1 hplace, Board.registry_adjust, m.placeOf?, if_pos rfl]
    simp [Entry.place]

theorem envelopeTurn_answersAside (h : Hub σ) (id : SessionId) (e : Inbound) :
    (h.envelopeTurn id e).AnswersAside := by
  have htyping : ∀ s, (h.typingTurn id s e).AnswersAside := fun s => by
    unfold typingTurn
    split
    · exact Turn.answersAside_single _ _ none
    · exact Turn.answersAside_silent _
  unfold envelopeTurn
  split
  · exact Turn.answersAside_silent _
  · split
    · unfold messageTurn
      split
      · exact Turn.answersAside_single _ _ _
      · exact Turn.answersAside_silent _
    · exact htyping _
    · exact htyping _
    · exact joinTurn_answersAside h id _ e
    · exact leaveTurn_answersAside h id _
    · exact Turn.answersAside_single _ _ none
    · exact Turn.answersAside_silent _
    · exact Turn.answersAside_silent _

/-- **Whoever is answered in a turn is in none of its audiences.** -/
theorem turn_answersAside (p : Policy σ) (h : Hub σ) (a : Action) : (h.turn p a).AnswersAside := by
  have hin : (h.inboundTurn (inbound? p a)).AnswersAside :=
    inboundTurn_induction (Turn.answersAside_silent _) (envelopeTurn_answersAside h) _
  cases a with
  | text id frame => exact hin
  | envelope id e => exact hin
  | create id s =>
    simp only [turn]
    split <;> exact Turn.answersAside_silent _
  | connect id s =>
    simp only [turn]
    split
    · exact Turn.answersAside_silent _
    · unfold connectTurn
      simp only
      split
      · exact Turn.answersAside_silent _
      · split
        · exact Turn.answersAside_single _ _ none
        · exact Turn.answersAside_silent _
  | publish publisher e =>
    simp only [turn, publishTurn]
    split
    · split_ifs
      · exact Turn.answersAside_single _ _ none
      · exact Turn.answersAside_silent _
    · exact Turn.answersAside_silent _
  | announce id room =>
    simp only [turn]
    split
    · exact Turn.answersAside_single _ _ none
    · exact Turn.answersAside_silent _
  | route audience e exclude => exact Turn.answersAside_single _ _ none
  | deliver id e => exact Turn.answersAside_single _ _ none
  | _ => exact Turn.answersAside_silent _

/-! ## Every refusal -/

/-- **Refusals tear down those who were sent to as an audience**, and drain those who were answered. Whatever a hub went
through and whatever happens to it, a registered session that could not take an envelope of its audience is torn down
when all is done. One that could not take an answer is drained, and its registration is as it was. -/
theorem refusals_tear_down_audiences (p : Policy σ) (store : σ) (now : Int64) (running : Bool) (actions : List Action)
    (a : Action) (d : Refusal) (entry : Entry)
    (hd : d ∈ ((run p (start store now running) actions).turn p a).refusals)
    (hregistered : d.board.registry.sessions.get? d.recipient = some entry) :
    let b := ((run p (start store now running) actions).step p a).1.board
    (∀ audience e exclude, d.post = .route audience e exclude → b.TornDown d.recipient) ∧
    (∀ id e, d.post = .reply id e → (∃ s, b.session? d.recipient = some s ∧ s.phase.isOpen = false) ∧
      d.board.registry.SameMembership b.registry d.recipient) := by
  intro b
  have hsound := turn_owned p (run_owned p store now running actions) a
  have hboard : b = (((run p (start store now running) actions).turn p a).outcome) := step_board p _ a
  have haside := turn_answersAside p (run p (start store now running) actions) a
  rw [hboard]
  -- from here on all that counts of the turn is that its board is sound and its answers stand aside
  generalize (run p (start store now running) actions).turn p a = t at *
  have hthen := hsound.of_mem_refusals Session.tracks_owns hd
  have hafter : t.outcome.registry.Consistent := Board.consistent_posts hsound.consistent t.posts
  obtain ⟨s, hs, -⟩ := hthen.known d.recipient entry hregistered
  refine ⟨fun audience e exclude hpost => ?_, fun id e hpost => ⟨⟨s.drain, ?_, s.isOpen_drain⟩, ?_⟩⟩
  · have hdrained := Board.session?_posts_of_refused hsound.consistent hd (by rw [hpost]; simp) hs
    refine Board.tornDown_of_get?_eq_none hafter (Board.get?_posts_of_refused hd hpost) fun s' hs' => ?_
    obtain rfl : s' = s.drain := Option.some_inj.1 (hs'.symm.trans hdrained)
    exact s.isOpen_drain
  · exact Board.session?_posts_of_refused hsound.consistent hd (by rw [hpost]; simp) hs
  · obtain ⟨hreply, htarget⟩ := Board.post_of_mem_refusals hd
    rw [hpost] at hreply htarget
    obtain rfl : d.recipient = id := List.mem_singleton.1 htarget
    -- no other post is for a session that is answered, so the registry keeps it where it is
    have hbefore := Board.get?_of_mem_refusals hd hregistered
    have hkept := Board.get?_posts_of_aside hsound.consistent (haside d.recipient e hreply)
    refine hthen.consistent.sameMembership hafter ?_
    rw [hregistered, ← hbefore]
    exact hkept

/-- a session leaves a room, and neither it nor the one that stays behind has room for the notice -/
theorem refusals_tear_down_audiences_leaver :
    let q := RoomId.ofNat 7
    let ann : SessionId := ⟨"ann"⟩
    let bob : SessionId := ⟨"bob"⟩
    let member (id : SessionId) : Action :=
      .connect id { identity := ⟨id.name⟩, role := .customer, currentRoom := some q, outbox := .ofCapacity 1 }
    let ping (id : SessionId) : Action := .envelope id ⟨.ping, none, none, none⟩
    let p : Policy Unit := ⟨Store.disabled, {}, 1000⟩
    let actions : List Action := [member ann, member bob, ping ann, ping bob]
    let h := run p (start () 0 true) actions
    let a : Action := .envelope ann ⟨.leaveRoom, none, none, none⟩
    let b := (h.step p a).1.board
    (∃ d ∈ (h.turn p a).refusals, d.recipient = bob ∧ b.TornDown bob) ∧
      ∃ d ∈ (h.turn p a).refusals, d.recipient = ann ∧ d.board.registry.SameMembership b.registry ann := by
  intro q ann bob member ping p actions h a b
  have hexact := refusals_tear_down_audiences p () 0 true actions a
  have hrun : run p (start () 0 true) actions = h := rfl
  rw [hrun] at hexact
  have hbob : (h.turn p a).refusals.any (fun d => d.recipient = bob && d.board.registry.sessions.contains bob &&
      match d.post with | .route .. => true | _ => false) = true := by decide +kernel
  have hann : (h.turn p a).refusals.any (fun d => d.recipient = ann && d.board.registry.sessions.contains ann &&
      match d.post with | .reply .. => true | _ => false) = true := by decide +kernel
  clear_value h
  simp only [List.any_eq_true, Bool.and_eq_true, decide_eq_true_eq] at hbob hann
  refine ⟨?_, ?_⟩
  · obtain ⟨d, hd, ⟨hrecipient, hregistered⟩, hroute⟩ := hbob
    obtain ⟨entry, hentry⟩ := Option.isSome_iff_exists.1 hregistered
    have htorn := (hexact d entry hd (hrecipient ▸ hentry)).1
    rw [hrecipient] at htorn
    cases hpost : d.post with
    | route audience e exclude => exact ⟨d, hd, hrecipient, htorn audience e exclude hpost⟩
    | _ =>
      rw [hpost] at hroute
      cases hroute
  · obtain ⟨d, hd, ⟨hrecipient, hregistered⟩, hreply⟩ := hann
    obtain ⟨entry, hentry⟩ := Option.isSome_iff_exists.1 hregistered
    have hkept := (hexact d entry hd (hrecipient ▸ hentry)).2
    rw [hrecipient] at hkept
    cases hpost : d.post with
    | reply id e => exact ⟨d, hd, hrecipient, (hkept id e hpost).2⟩
    | _ =>
      rw [hpost] at hreply
      cases hreply

/-- **An answer that is refused leaves the session where it is.** A member of a room whose outbox is full asks whether
the hub is there. It drains, but it is not torn down: the room still lists it and it is still online. -/
theorem refused_answer_keeps_place :
    let q := RoomId.ofNat 7
    let ann : SessionId := ⟨"ann"⟩
    let ping : Action := .envelope ann ⟨.ping, none, none, none⟩
    let p : Policy Unit := ⟨Store.disabled, {}, 1000⟩
    let h := run p (start () 0 true)
      [.connect ann { identity := ⟨"ann"⟩, role := .customer, currentRoom := some q, outbox := .ofCapacity 1 }, ping]
    let b := (h.step p ping).1.board
    (∃ d ∈ (h.turn p ping).refusals, d.recipient = ann ∧ d.board.registry.sessions.contains ann = true) ∧
      (b.session? ann).map Session.phase = some .draining ∧ ¬b.TornDown ann ∧ b.registry.members q = [ann] ∧
      b.registry.onlineAmong [⟨"ann"⟩] = [⟨"ann"⟩] := by
  intro q ann ping p h b
  have hmembers : b.registry.members q = [ann] := by decide +kernel
  refine ⟨⟨_, List.mem_cons_self, rfl, by decide +kernel⟩, by decide +kernel, fun htorn => ?_, hmembers, by decide +kernel⟩
  refine htorn.unheard (.room q) ?_
  rw [show (Audience.room q).recipients b.registry = [ann] from hmembers]
  exact List.mem_cons_self

end Hub
end ErrandHub
