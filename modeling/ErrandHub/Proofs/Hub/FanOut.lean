/-
A fan-out reaches everybody it is for, once, and disturbs nobody else.

- `addressees`: the sessions of an audience as the places of the registered sessions tell them, the excluded one aside.
- `FannedOut`: what a board is after an envelope was sent to a set of sessions. Those that could take it have it at the
  end of their outbox and are as they were otherwise; those that could not are drained, unregistered and in no room;
  all others are as they were; and the report counts the first two.
- `fanOut_exact`: every fan-out from every reachable board is one, in whatever order its recipients are visited and
  however often they are named.
-/
import Mathlib.Data.Finset.Card
import Mathlib.Tactic
import ErrandHub.Proofs.Hub.Soundness
import ErrandHub.Store.Memory

namespace ErrandHub

namespace Registry

/-- the sessions of an audience, the excluded one aside -/
def addressees (r : Registry) (audience : Audience) (exclude : Option SessionId) : Finset SessionId :=
  (r.sessions.keys.filter fun id =>
    audience.places.any (fun place => r.placeOf? id = some place) && some id ≠ exclude).toFinset

theorem mem_addressees_iff (r : Registry) (audience : Audience) (exclude : Option SessionId) (id : SessionId) :
    id ∈ r.addressees audience exclude ↔
      (∃ place ∈ audience.places, r.placeOf? id = some place) ∧ some id ≠ exclude := by
  simp only [addressees, List.mem_toFinset, List.mem_filter, Table.mem_keys_iff, Bool.and_eq_true, List.any_eq_true,
    decide_eq_true_eq]
  constructor
  · rintro ⟨-, h⟩
    exact h
  · intro h
    refine ⟨?_, h⟩
    obtain ⟨⟨place, -, hplace⟩, -⟩ := h
    obtain ⟨entry, hid, -⟩ := Option.map_eq_some_iff.1 hplace
    rw [Table.contains, hid]
    rfl

/-- both tables say the same of a session in two registries -/
structure SameMembership (r r' : Registry) (id : SessionId) : Prop where
  entry : r'.sessions.get? id = r.sessions.get? id
  listed : ∀ q, id ∈ roster r'.rooms q ↔ id ∈ roster r.rooms q

/-- neither table mentions a session -/
structure Unmentioned (r : Registry) (id : SessionId) : Prop where
  entry : r.sessions.get? id = none
  listed : ∀ q, id ∉ roster r.rooms q

variable {r r' : Registry}

theorem Consistent.sameMembership (h : Consistent r) (h' : Consistent r') {id : SessionId}
    (he : r'.sessions.get? id = r.sessions.get? id) : SameMembership r r' id := by
  refine ⟨he, fun q => ?_⟩
  rw [h.mem_roster_iff, h'.mem_roster_iff, roomOf, roomOf, he]

theorem Consistent.unmentioned (h : Consistent r) {id : SessionId} (he : r.sessions.get? id = none) :
    Unmentioned r id := by
  refine ⟨he, fun q hq => ?_⟩
  rw [h.mem_roster_iff, roomOf, he] at hq
  cases hq

end Registry

/-- what a board is after an envelope was sent to a set of sessions, and what is reported -/
structure FannedOut (b b' : Board) (recipients : Finset SessionId) (e : Outbound) (report : RouteReport) : Prop where
  /-- all recipients are there -/
  present : ∀ id ∈ recipients, ∃ s, b.session? id = some s
  /-- a recipient that could take the envelope has it at the end of its outbox and is as it was otherwise -/
  taken : ∀ id ∈ recipients, ∀ s, b.session? id = some s → s.accepts = true →
    b'.session? id = some (s.enqueue e) ∧ b.registry.SameMembership b'.registry id
  /-- a recipient that could not take it got nothing, is not open any more and is in neither table -/
  refused : ∀ id ∈ recipients, ∀ s, b.session? id = some s → s.accepts = false →
    ∃ s', b'.session? id = some s' ∧ s'.outbox = s.outbox ∧ s'.phase.isOpen = false ∧ b'.registry.Unmentioned id
  /-- any other session is as it was -/
  aside : ∀ id ∉ recipients, b'.session? id = b.session? id ∧ b.registry.SameMembership b'.registry id
  /-- no room is left without members, and none with members is lost -/
  occupied : ∀ q, b'.registry.rooms.contains q = true ↔ ∃ id, b'.registry.roomOf id = some q
  delivered : report.delivered = (recipients.filter fun id => b.accepts id = true).card
  dropped : report.dropped = (recipients.filter fun id => ¬b.accepts id = true).card
  total : report.delivered + report.dropped = recipients.card

namespace Board

variable {b : Board} {Rel : Session → Entry → Prop}

theorem toFinset_targets (h : b.registry.Consistent) {audience : Audience} {recipients : List SessionId}
    (hrec : ∀ id, id ∈ recipients ↔ id ∈ audience.recipients b.registry) (exclude : Option SessionId) :
    (targets recipients exclude).toFinset = b.registry.addressees audience exclude := by
  ext id
  rw [List.mem_toFinset, mem_targets, hrec, audience.mem_recipients_iff h, Registry.mem_addressees_iff]

theorem length_filter_targets (recipients : List SessionId) (exclude : Option SessionId) (f : SessionId → Bool) :
    ((targets recipients exclude).filter f).length =
      ((targets recipients exclude).toFinset.filter fun id => f id = true).card := by
  rw [← List.toFinset_filter, List.toFinset_card_of_nodup ((nodup_targets recipients exclude).filter f)]

/-- the entries after a fan-out: those of the recipients that could not take the envelope are gone -/
theorem get?_fanOut (hr : b.running = true) (recipients : List SessionId) (e : Outbound) (exclude : Option SessionId)
    (id : SessionId) : (b.fanOut recipients e exclude).1.registry.sessions.get? id =
      if id ∈ targets recipients exclude ∧ b.accepts id = false then none else b.registry.sessions.get? id := by
  rw [registry_fanOut hr, Registry.get?_withdraw]
  simp only [List.mem_filter, Bool.not_eq_true']

theorem Sound.fannedOut (h : b.Sound Rel) (hr : b.running = true) {audience : Audience} {recipients : List SessionId}
    (hrec : ∀ id, id ∈ recipients ↔ id ∈ audience.recipients b.registry) (e : Outbound)
    (exclude : Option SessionId) :
    FannedOut b (b.fanOut recipients e exclude).1 (b.registry.addressees audience exclude) e
      (b.fanOut recipients e exclude).2 := by
  have hreg : ∀ id ∈ recipients, b.registry.sessions.contains id = true := fun id hid =>
    audience.contains_of_mem_recipients h.consistent id ((hrec id).1 hid)
  have hmem : ∀ id, id ∈ b.registry.addressees audience exclude ↔ id ∈ targets recipients exclude := fun id => by
    rw [← toFinset_targets h.consistent hrec, List.mem_toFinset]
  have hsession := session?_fanOut (e := e) hr recipients exclude hreg
  have hentry := b.get?_fanOut hr recipients e exclude
  have hafter : (b.fanOut recipients e exclude).1.registry.Consistent := by
    rw [registry_fanOut hr]
    exact Registry.run_consistent _ _ h.consistent
  have hdelivered := length_filter_targets recipients exclude b.accepts
  have hdropped := length_filter_targets recipients exclude fun id => !b.accepts id
  simp only [toFinset_targets h.consistent hrec, Bool.not_eq_true', ← Bool.not_eq_true] at hdelivered hdropped
  refine ⟨fun id hid => ?_, fun id hid s hs ha => ⟨?_, ?_⟩, fun id hid s hs ha => ⟨s.drain, ?_, ?_, ?_, ?_⟩,
    fun id hid => ⟨?_, ?_⟩, hafter.contains_room_iff, ?_, ?_, ?_⟩
  · -- a recipient is registered, and the board has every session that is
    obtain ⟨entry, he⟩ := Option.isSome_iff_exists.1 (hreg id ((mem_targets _ _ _).1 ((hmem id).1 hid)).1)
    obtain ⟨s, hs, -⟩ := h.known id entry he
    exact ⟨s, hs⟩
  · rw [hsession, if_pos ((hmem id).1 hid), hs, Option.map_some, Session.receive, if_pos ha]
  · refine h.consistent.sameMembership hafter ?_
    rw [hentry, if_neg]
    simp [accepts, hs, ha]
  · rw [hsession, if_pos ((hmem id).1 hid), hs, Option.map_some, Session.receive, if_neg (by simp [ha])]
  · exact s.outbox_drain
  · exact s.isOpen_drain
  · refine hafter.unmentioned ?_
    rw [hentry, if_pos]
    exact ⟨(hmem id).1 hid, by simpa [accepts, hs] using ha⟩
  · rw [hsession, if_neg (mt (hmem id).2 hid)]
  · refine h.consistent.sameMembership hafter ?_
    rw [hentry, if_neg fun hc => hid ((hmem id).2 hc.1)]
  · rw [report_fanOut]
    exact hdelivered
  · rw [report_fanOut]
    exact hdropped
  · rw [report_fanOut]
    simp only
    rw [hdelivered, hdropped]
    exact Finset.card_filter_add_card_filter_not _

end Board

namespace Hub

variable {σ : Type}

/-- **A fan-out is exact and isolated.** Whatever a hub went through, as long as its registry answers, an envelope
routed to an audience reaches each of its addressees once or has that session withdrawn, and nobody else notices.
This does not depend on the order in which the recipients are visited, nor on how often they are. -/
theorem fanOut_exact (p : Policy σ) (store : σ) (now : Int64) (running : Bool) (actions : List Action)
    (audience : Audience) (e : Outbound) (exclude : Option SessionId) (recipients : List SessionId)
    (hr : (run p (start store now running) actions).board.running = true)
    (hrec : ∀ id, id ∈ recipients ↔ id ∈ audience.recipients (run p (start store now running) actions).board.registry) :
    let b := (run p (start store now running) actions).board
    let addressees := b.registry.addressees audience exclude
    FannedOut b (b.routeTo audience e exclude).1 addressees e (b.routeTo audience e exclude).2 ∧
      FannedOut b (b.fanOut recipients e exclude).1 addressees e (b.fanOut recipients e exclude).2 := by
  have h := run_owned p store now running actions
  refine ⟨?_, h.fannedOut hr hrec e exclude⟩
  rw [Board.routeTo, if_pos hr]
  exact h.fannedOut hr (fun _ => Iff.rfl) e exclude

/-- one of two members has a full outbox, and the other is named twice -/
theorem fanOut_exact_beside_full_outbox :
    let q := RoomId.ofNat 7
    let e : Outbound := ⟨.message, some q, ⟨⟨"eve"⟩, .system⟩, some "hello", none, 0⟩
    let member (name : String) (capacity : Nat) : Action :=
      .connect ⟨name⟩ { identity := ⟨name⟩, role := .customer, currentRoom := some q, outbox := .ofCapacity capacity }
    let actions : List Action := [member "ann" 1, member "bob" 2, .route (.room q) e none]
    let b := (run (⟨Store.disabled, {}, 1000⟩ : Policy Unit) (start () 0 true) actions).board
    let recipients : List SessionId := [⟨"bob"⟩, ⟨"ann"⟩, ⟨"bob"⟩]
    b.running = true ∧ (∀ id, id ∈ recipients ↔ id ∈ (Audience.room q).recipients b.registry) ∧
      (FannedOut b (b.routeTo (.room q) e none).1 (b.registry.addressees (.room q) none) e
          (b.routeTo (.room q) e none).2 ∧
        FannedOut b (b.fanOut recipients e none).1 (b.registry.addressees (.room q) none) e
          (b.fanOut recipients e none).2) ∧
      (b.routeTo (.room q) e none).2 = ⟨1, 1⟩ := by
  intro q e member actions b recipients
  have hr : b.running = true := by decide +kernel
  have hread : (Audience.room q).recipients b.registry = [⟨"bob"⟩, ⟨"ann"⟩] := by decide +kernel
  have hsame : ∀ id : SessionId, id ∈ recipients ↔ id ∈ [⟨"bob"⟩, (⟨"ann"⟩ : SessionId)] := by
    simp [recipients, or_comm]
  have hrec : ∀ id, id ∈ recipients ↔ id ∈ (Audience.room q).recipients b.registry :=
    fun id => (hsame id).trans (by rw [hread])
  have hreport : (b.routeTo (.room q) e none).2 = ⟨1, 1⟩ := by decide +kernel
  have hexact := fanOut_exact (⟨Store.disabled, {}, 1000⟩ : Policy Unit) () 0 true actions (.room q) e none recipients
    hr hrec
  exact ⟨hr, hrec, hexact, hreport⟩

end Hub
end ErrandHub
