/-
Published messages and live ones.

A message is published for somebody without a session, or sent live by a session. Both name a room and a text, and go
to the members of the room and the staff that listens.

- `Inbound.Publishable`: what a published envelope must be. `publish_of_publishable` and `publish_of_not_publishable` say
  what becomes of one.
- `publishable_iff_mayPost`: of a message that names its room, it is what staff may post.
- `Sound.routed`: what becomes of an envelope to an audience, whether or not the registry answers.
- `Board.Resent`: two boards that one envelope led to, under the names of two senders.
- `published_like_live`: publishing a message and sending it live from outside its audience are one fan-out.
-/
import Mathlib.Tactic
import ErrandHub.Proofs.Hub.Persistence

namespace ErrandHub

/-- an envelope is a message that can be published into a room -/
structure Inbound.Publishable (e : Inbound) (q : RoomId) (message : String) : Prop where
  kind : e.kind = .message
  named : ∃ v, e.room = some v ∧ RoomRef.roomOfJson v = .ok q
  written : e.message = some message
  visible : Text.isBlank message = false

/-- of a message that names its room, staff may post what can be published -/
theorem Inbound.publishable_iff_mayPost {e : Inbound} {v : Json} (hkind : e.kind = .message) (hroom : e.room = some v)
    {s : Session} (hstaff : s.role = .staff) (q : RoomId) (message : String) :
    e.Publishable q message ↔ s.MayPost e q message := by
  have hfor : e.IsFor s q ↔ RoomRef.roomOfJson v = .ok q := by
    unfold Inbound.IsFor
    rw [hroom]
  constructor
  · rintro ⟨-, ⟨v', hv', hq⟩, hwritten, hvisible⟩
    obtain rfl : v = v' := Option.some.inj (hroom.symm.trans hv')
    refine ⟨hwritten, hvisible, hfor.2 hq, fun hcustomer => ?_⟩
    rw [hstaff] at hcustomer
    cases hcustomer
  · rintro ⟨hwritten, hvisible, haimed, -⟩
    exact ⟨hkind, ⟨v, hroom, hfor.1 haimed⟩, hwritten, hvisible⟩

/-! ## One envelope to an audience -/

namespace Board

variable {b : Board}

/-- what becomes of an envelope to an audience; when the registry does not answer, nobody is in one -/
theorem Sound.routed (h : b.Sound Session.Owns) (ha : b.Answers) (audience : Audience) (e : Outbound)
    (exclude : Option SessionId) :
    FannedOut b (b.routeTo audience e exclude).1 (b.registry.addressees audience exclude) e
      (b.routeTo audience e exclude).2 := by
  by_cases hr : b.running = true
  · rw [routeTo, if_pos hr]
    exact h.fannedOut hr (fun _ => Iff.rfl) e exclude
  · have hnobody : b.registry.addressees audience exclude = ∅ := by
      refine Finset.eq_empty_of_forall_notMem fun id hid => hr ?_
      obtain ⟨⟨place, -, hplace⟩, -⟩ := (Registry.mem_addressees_iff _ _ _ id).1 hid
      obtain ⟨entry, hentry, -⟩ := Option.map_eq_some_iff.1 hplace
      exact ha id entry hentry
    rw [routeTo, if_neg hr, hnobody]
    constructor
    case aside => exact fun id _ => ⟨rfl, h.consistent.sameMembership h.consistent rfl⟩
    case occupied => exact h.consistent.contains_room_iff
    all_goals simp

/-- to leave out a session that is not in an audience leaves nobody out -/
theorem addressees_of_notMem (h : b.registry.Consistent) {audience : Audience} {id : SessionId}
    (hid : id ∉ audience.recipients b.registry) :
    b.registry.addressees audience (some id) = b.registry.addressees audience none := by
  ext j
  rw [Registry.mem_addressees_iff, Registry.mem_addressees_iff, ← audience.mem_recipients_iff h]
  refine and_congr_right fun hj => ?_
  have hne : j ≠ id := fun he => hid (he ▸ hj)
  simp [hne]

/-- what two boards have in common that one envelope led to, under the names of two senders -/
structure Resent (b first second : Board) (recipients : Finset SessionId) : Prop where
  registry : first.registry = second.registry
  running : first.running = second.running
  /-- all but the sessions that took the envelope are the same -/
  session : ∀ id, id ∉ recipients ∨ b.accepts id = false → first.session? id = second.session? id

theorem targets_of_notMem {recipients : List SessionId} {id : SessionId} (hid : id ∉ recipients) :
    targets recipients (some id) = targets recipients none := by
  have hsame : (recipients.filter fun j => some j ≠ some id) = recipients.filter fun j => some j ≠ none := by
    refine List.filter_congr fun j hj => ?_
    have hne : j ≠ id := fun he => hid (he ▸ hj)
    simp [hne]
  rw [targets, targets, hsame]

/-- **One fan-out for two senders.** Who sends an envelope to an audience makes no difference but to the envelope, as
long as they are not in the audience. -/
theorem routeTo_resent (h : b.registry.Consistent) (audience : Audience) {id : SessionId}
    (hid : id ∉ audience.recipients b.registry) (e e' : Outbound) :
    b.Resent (b.routeTo audience e none).1 (b.routeTo audience e' (some id)).1
        (b.registry.addressees audience none) ∧
      (b.routeTo audience e none).2 = (b.routeTo audience e' (some id)).2 := by
  unfold routeTo
  split_ifs with hr
  · have htargets := targets_of_notMem hid
    have hreg := audience.contains_of_mem_recipients h
    refine ⟨⟨?_, ?_, fun j hj => ?_⟩, ?_⟩
    · rw [registry_fanOut hr, registry_fanOut hr, htargets]
    · rw [running_fanOut, running_fanOut]
    · rw [session?_fanOut hr _ none hreg, session?_fanOut hr _ (some id) hreg, htargets]
      split_ifs with hj'
      · rw [← toFinset_targets h (fun _ => Iff.rfl), List.mem_toFinset] at hj
        have hrefuses := hj.resolve_left (not_not.2 hj')
        cases hs : b.session? j with
        | none => rfl
        | some s =>
          have hs' : s.accepts = false := by simpa [accepts, hs] using hrefuses
          simp [Session.receive, hs']
      · rfl
    · rw [report_fanOut, report_fanOut, htargets]
  · exact ⟨⟨rfl, rfl, fun _ _ => rfl⟩, rfl⟩

end Board

namespace Hub

variable {σ : Type}

/-! ## What becomes of a published envelope -/

/-- a message that can be published is sent, and what comes of that is reported -/
theorem publish_of_publishable (h : Hub σ) (publisher : Sender) {e : Inbound} {q : RoomId} {message : String}
    (hpublishable : e.Publishable q message) :
    h.publish publisher e =
      let sent := h.board.routeTo (.roomAndListeners q .staff) ⟨.message, some q, publisher, some message, e.data, h.now⟩
        none
      (h.withBoard sent.1, .ok sent.2) := by
  obtain ⟨hkind, ⟨v, hroom, hq⟩, hwritten, hvisible⟩ := hpublishable
  have htext : e.text? = some message := (e.text?_eq_some_iff message).2 ⟨hwritten, hvisible⟩
  unfold publish
  rw [if_neg (not_not.2 hkind)]
  simp only [hroom, hq, htext]
  rfl

/-- any other envelope is refused, for a reason, and changes nothing -/
theorem publish_of_not_publishable (h : Hub σ) (publisher : Sender) {e : Inbound}
    (hnot : ¬∃ q message, e.Publishable q message) : ∃ reason, h.publish publisher e = (h, .error reason) := by
  unfold publish
  split_ifs with hkind
  · exact ⟨_, rfl⟩
  · split
    · exact ⟨_, rfl⟩
    · rename_i v hroom
      split
      · exact ⟨_, rfl⟩
      · rename_i q hq
        split
        · exact ⟨_, rfl⟩
        · rename_i message htext
          obtain ⟨hwritten, hvisible⟩ := (e.text?_eq_some_iff message).1 htext
          exact absurd ⟨q, message, not_not.1 hkind, ⟨v, hroom, hq⟩, hwritten, hvisible⟩ hnot

theorem publish_ok_iff (h : Hub σ) (publisher : Sender) (e : Inbound) :
    (∃ report, (h.publish publisher e).2 = .ok report) ↔ ∃ q message, e.Publishable q message := by
  constructor
  · rintro ⟨report, hreport⟩
    by_contra hnot
    obtain ⟨reason, hrefused⟩ := publish_of_not_publishable h publisher hnot
    rw [hrefused] at hreport
    cases hreport
  · rintro ⟨q, message, hpublishable⟩
    exact ⟨_, by rw [publish_of_publishable h publisher hpublishable]⟩

/-! ## The same message, published and live -/

theorem notify_of_staff (p : Policy σ) (h : Hub σ) {out : Outbound} (hstaff : out.sender.role = .staff) :
    (notify p h out).1 = h := by
  have hnobody : p.notifier.candidates out.sender = [] := by
    unfold Notifier.candidates
    rw [hstaff]
    cases p.notifier.roster <;> rfl
  unfold notify
  split
  · simp [hnobody]
  · rfl

/-- a session is in no audience of a chat message in a room: it is neither in the room nor in none -/
def Outside (h : Hub σ) (id : SessionId) (q : RoomId) : Prop :=
  ∀ entry, h.board.registry.sessions.get? id = some entry → entry.room ≠ some q ∧ entry.room ≠ none

/-- what publishing a message and sending it live come to, one as much as the other -/
structure PublishedLikeLive (p : Policy σ) (h : Hub σ) (publisher : Sender) (id : SessionId) (s : Session) (e : Inbound)
    (q : RoomId) (message : String) (recipients : Finset SessionId) (report : RouteReport) : Prop where
  /-- the message is for the members of its room and for the staff that is in no room -/
  audience : ∀ j, j ∈ recipients ↔ ∃ entry, h.board.registry.sessions.get? j = some entry ∧
    (entry.room = some q ∨ entry.room = none ∧ entry.role = .staff)
  /-- published, it goes to them from the publisher, and this is what is reported -/
  published : FannedOut h.board (h.publish publisher e).1.board recipients
    ⟨.message, some q, publisher, some message, e.data, h.now⟩ report
  reported : (h.publish publisher e).2 = .ok report
  /-- live, the same goes to them from the session -/
  live : FannedOut h.board (handle p h id e).board recipients
    ⟨.message, some q, s.sender, some message, e.data, h.now⟩ report
  /-- both leave the same membership tables, and the same sessions but for those that got the message -/
  resent : h.board.Resent (h.publish publisher e).1.board (handle p h id e).board recipients
  /-- what is published is not stored, and what is live is, once -/
  stored : (h.publish publisher e).1.store = h.store ∧
    (handle p h id e).store = (p.store.persist ⟨q, s.sender, message, h.now⟩ h.store).1
  /-- nobody is notified, nor does time pass -/
  notified : (h.publish publisher e).1.notices = h.notices ∧ (handle p h id e).notices = h.notices
  clock : (h.publish publisher e).1.now = h.now ∧ (handle p h id e).now = h.now

theorem publishedLikeLive (p : Policy σ) {h : Hub σ} (hs : h.board.Sound Session.Owns) (ha : h.board.Answers)
    (publisher : Sender) {id : SessionId} {s : Session} {e : Inbound} {q : RoomId} {message : String}
    (hsession : h.board.session? id = some s) (hstaff : s.role = .staff) (hkind : e.kind = .message)
    (hpublishable : e.Publishable q message) (hpost : s.MayPost e q message) (houtside : h.Outside id q) :
    ∃ recipients report, PublishedLikeLive p h publisher id s e q message recipients report := by
  set audience : Audience := .roomAndListeners q .staff
  set out : Outbound := ⟨.message, some q, publisher, some message, e.data, h.now⟩
  set out' : Outbound := ⟨.message, some q, s.sender, some message, e.data, h.now⟩
  have hpublish : h.publish publisher e =
      (h.withBoard (h.board.routeTo audience out none).1, .ok (h.board.routeTo audience out none).2) :=
    publish_of_publishable h publisher hpublishable
  have hturn : h.envelopeTurn id e = h.messageTurn id s e := by
    simp only [envelopeTurn, hsession, hkind]
  have hhandle : handle p h id e =
      (persist p h out').withBoard (h.board.routeTo audience out' (some id)).1 := by
    rw [handle_eq_perform, hturn, messageTurn_of_mayPost h id hpost]
    exact notify_of_staff p _ hstaff
  -- the session is outside the audience, so it makes no difference that its own message leaves it out
  have hself : id ∉ audience.recipients h.board.registry := by
    rw [audience.mem_recipients_iff hs.consistent, place_chat_iff]
    rintro ⟨entry, hentry, hroom | ⟨hnone, -⟩⟩
    · exact (houtside entry hentry).1 hroom
    · exact (houtside entry hentry).2 hnone
  obtain ⟨hresent, hreport⟩ := Board.routeTo_resent hs.consistent audience hself out out'
  have hlive := hs.routed ha audience out' (some id)
  rw [Board.addressees_of_notMem hs.consistent hself, ← hreport] at hlive
  refine ⟨h.board.registry.addressees audience none, (h.board.routeTo audience out none).2, ?_⟩
  constructor
  case audience => exact mem_addressees_chat_none_iff h.board.registry q
  case published =>
    rw [hpublish]
    exact hs.routed ha audience out none
  case reported => rw [hpublish]
  case live =>
    rw [hhandle]
    exact hlive
  case resent =>
    rw [hpublish, hhandle]
    exact hresent
  case stored =>
    rw [hpublish, hhandle]
    exact ⟨rfl, rfl⟩
  case notified =>
    rw [hpublish, hhandle]
    exact ⟨rfl, rfl⟩
  case clock =>
    rw [hpublish, hhandle]
    exact ⟨rfl, rfl⟩

/-- **Published and live messages share one fan-out.** In every state that actions lead to, a message that names its room
is published exactly when a session of the staff may post it, and if not, neither changes anything. Where the session
is in no audience of the message, publishing it and sending it live reach the same sessions, withdraw the same ones and
leave the same membership; only the sender differs, and the row that is stored of the live message. -/
theorem published_like_live (p : Policy σ) (store : σ) (now : Int64) (running : Bool) (actions : List Action)
    (publisher : Sender) (id : SessionId) (s : Session) (e : Inbound) (v : Json)
    (hsession : (run p (start store now running) actions).board.session? id = some s) (hstaff : s.role = .staff)
    (hkind : e.kind = .message) (hroom : e.room = some v) :
    let h := run p (start store now running) actions
    ((∃ report, (h.publish publisher e).2 = .ok report) ↔ ∃ q message, s.MayPost e q message) ∧
    ((¬∃ q message, s.MayPost e q message) → (h.publish publisher e).1 = h ∧ handle p h id e = h) ∧
    ∀ q message, s.MayPost e q message → h.Outside id q →
      ∃ recipients report, PublishedLikeLive p h publisher id s e q message recipients report := by
  intro h
  have hs : h.board.Sound Session.Owns := run_owned p store now running actions
  have ha : h.board.Answers := run_answers p store now running actions
  have hiff : ∀ q message, e.Publishable q message ↔ s.MayPost e q message :=
    Inbound.publishable_iff_mayPost hkind hroom hstaff
  simp only [← hiff]
  refine ⟨publish_ok_iff h publisher e, fun hnot => ⟨?_, ?_⟩, fun q message hpublishable houtside => ?_⟩
  · obtain ⟨reason, hrefused⟩ := publish_of_not_publishable h publisher hnot
    rw [hrefused]
  · have hturn : h.envelopeTurn id e = h.messageTurn id s e := by
      simp only [envelopeTurn, h, hsession, hkind]
    simp only [hiff] at hnot
    rw [handle_eq_perform, hturn, messageTurn_of_not_mayPost h id hnot]
    rfl
  · have hpost := (hiff q message).1 hpublishable
    exact publishedLikeLive p hs ha publisher hsession hstaff hkind hpublishable hpost houtside

/-- sue of the staff is in another room than the one of the message; of its two members one has a full outbox, and tom
of the staff listens -/
theorem published_like_live_beside_full_outbox :
    let q := RoomId.ofNat 7
    let session (name : String) (role : Role) (room : Option RoomId) (capacity : Nat) : Action :=
      .connect ⟨name⟩ { identity := ⟨name⟩, role, currentRoom := room, outbox := .ofCapacity capacity }
    let p : Policy Memory := ⟨Store.memory, {}, 1000⟩
    let actions : List Action :=
      [session "ann" .customer (some q) 4, session "bob" .customer (some q) 1, session "tom" .staff none 4,
        session "sue" .staff (some (.ofNat 8)) 4, .deliver ⟨"bob"⟩ ⟨.pong, none, ⟨⟨"bob"⟩, .customer⟩, none, none, 0⟩]
    let h := run p (start {} 0 true) actions
    let sue : SessionId := ⟨"sue"⟩
    let publisher : Sender := ⟨.system, .system⟩
    let e : Inbound := ⟨.message, some (.string q.text), some "news", none⟩
    ∃ s, h.board.session? sue = some s ∧ s.role = .staff ∧ e.kind = .message ∧ e.room = some (.string q.text) ∧
      s.MayPost e q "news" ∧ h.Outside sue q ∧
      (∃ recipients, PublishedLikeLive p h publisher sue s e q "news" recipients ⟨2, 1⟩) ∧
      (handle p h sue e).store.messages = [⟨q, ⟨⟨"sue"⟩, .staff⟩, "news", 0⟩] := by
  intro q session p actions h sue publisher e
  have hsound : h.board.Sound Session.Owns := run_owned p {} 0 true actions
  have hentry : h.board.registry.sessions.get? sue = some ⟨⟨"sue"⟩, .staff, some (.ofNat 8)⟩ := by decide +kernel
  obtain ⟨s, hs, howns⟩ := hsound.known sue _ hentry
  have hstaff : s.role = .staff := howns.role
  have hroom : RoomRef.roomOfJson (.string q.text) = .ok q := by decide +kernel
  have hpost : s.MayPost e q "news" := by
    refine ⟨rfl, by decide +kernel, hroom, fun hcustomer => ?_⟩
    rw [hstaff] at hcustomer
    cases hcustomer
  have houtside : h.Outside sue q := by
    intro entry he
    cases hentry.symm.trans he
    decide +kernel
  obtain ⟨-, -, hlive⟩ := published_like_live p {} 0 true actions publisher sue s e _ hs hstaff rfl rfl
  obtain ⟨recipients, report, hshared⟩ := hlive q "news" hpost houtside
  have hreport : (h.publish publisher e).2 = .ok ⟨2, 1⟩ := by decide +kernel
  obtain rfl : report = ⟨2, 1⟩ := Except.ok.inj (hshared.reported.symm.trans hreport)
  exact ⟨s, hs, hstaff, rfl, rfl, hpost, houtside, ⟨recipients, hshared⟩, by decide +kernel⟩

end Hub
end ErrandHub
