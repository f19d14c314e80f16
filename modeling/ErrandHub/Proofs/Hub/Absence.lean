/-
Notices to staff who are away.

A live message of a customer is announced to everybody on the staff roster who has no session when it has been sent. The
notices are handed to a courier (`Courier`), which may fail to bring any of them, and may do so for reasons of its own.
`Courier.logged` keeps count of what a courier is given, whatever comes of it.

- `carryAll_logged`: a courier is given every notice, in order, and it is reported how many arrived.
- `notify_eq`: the hub notifies through a courier that brings a notice if its recipient is one that notices reach.
- `notices_of_customer`: the notices of a message, by the roster and by who is away (`Board.isAway`).
- `isAway_fanOut_iff`: who is away once a message has been sent: those too whom the message itself tore down.
- `absent_staff_notified`: what is handed over for every live message, and that nothing is for any other.
- `silent_registry_notifies_nobody`: a registry that does not answer does not say who is away.
-/
import Mathlib.Tactic
import ErrandHub.Proofs.Hub.Persistence
import ErrandHub.Proofs.Hub.Requests

namespace ErrandHub

/-! ## Couriers -/

/-- somebody who brings notices: what a notice makes of their state, and whether it arrives -/
structure Courier (τ : Type) where
  carry : Notice → τ → τ × Bool

namespace Courier

variable {τ : Type}

/-- hand over notices one after another, whatever becomes of each; how many arrive -/
def carryAll (c : Courier τ) : List Notice → τ → τ × Nat
  | [], state => (state, 0)
  | n :: rest, state =>
    let carried := c.carry n state
    let others := c.carryAll rest carried.1
    (others.1, others.2 + if carried.2 then 1 else 0)

/-- a courier that also keeps a list of the notices that it is given, and of whether they arrive -/
def logged (c : Courier τ) : Courier (List (Notice × Bool) × τ) where
  carry n state :=
    let carried := c.carry n state.2
    ((state.1 ++ [(n, carried.2)], carried.1), carried.2)

/-- a courier that keeps the notices that arrive: those to whom notices reach -/
def reaching (reaches : Identity → Bool) : Courier (List Notice) where
  carry n kept := if reaches n.recipient then (kept ++ [n], true) else (kept, false)

/-- **A notice that fails holds no other up.** A courier is given every notice, each once and in order, and as many are
reported as arrived. -/
theorem carryAll_logged (c : Courier τ) (ns : List Notice) (log : List (Notice × Bool)) (state : τ) :
    ∃ given : List (Notice × Bool), given.map Prod.fst = ns ∧ (c.carryAll ns state).2 = given.countP Prod.snd ∧
      c.logged.carryAll ns (log, state) = ((log ++ given, (c.carryAll ns state).1), (c.carryAll ns state).2) := by
  induction ns generalizing log state with
  | nil => exact ⟨[], rfl, rfl, by simp [carryAll]⟩
  | cons n ns ih =>
    set carried := c.carry n state
    obtain ⟨given, hgiven, hcount, hall⟩ := ih (log ++ [(n, carried.2)]) carried.1
    refine ⟨(n, carried.2) :: given, ?_, ?_, ?_⟩
    · rw [List.map_cons, hgiven]
    · rw [List.countP_cons, ← hcount]
      rfl
    · have hstep : c.logged.carry n (log, state) = ((log ++ [(n, carried.2)], carried.1), carried.2) := rfl
      simp only [carryAll, hstep, hall, List.append_assoc, List.singleton_append]
      rfl

theorem carryAll_reaching (reaches : Identity → Bool) (ns kept : List Notice) :
    (reaching reaches).carryAll ns kept =
      (kept ++ ns.filter fun n => reaches n.recipient, (ns.filter fun n => reaches n.recipient).length) := by
  induction ns generalizing kept with
  | nil => simp [carryAll]
  | cons n ns ih =>
    cases hn : reaches n.recipient with
    | true =>
      have hcarry : (reaching reaches).carry n kept = (kept ++ [n], true) := by simp [reaching, hn]
      simp [carryAll, hcarry, ih, hn]
    | false =>
      have hcarry : (reaching reaches).carry n kept = (kept, false) := by simp [reaching, hn]
      simp [carryAll, hcarry, ih, hn]

end Courier

/-! ## Who is away -/

/-- nobody of an identity has a registered session -/
def Board.isAway (b : Board) (i : Identity) : Bool := b.registry.sessions.values.all fun entry => entry.identity ≠ i

namespace Board

variable {b : Board}

theorem isAway_iff (i : Identity) :
    b.isAway i = true ↔ ∀ j entry, b.registry.sessions.get? j = some entry → entry.identity ≠ i := by
  simp only [isAway, Table.values, List.all_eq_true, List.forall_mem_map, decide_eq_true_eq, Table.get?_eq_some_iff]
  constructor
  · intro h j entry hentry
    exact h (j, entry) hentry
  · rintro h ⟨j, entry⟩ hentry
    exact h j entry hentry

/-- once an envelope was sent, those are away all of whose sessions were among its recipients and could not take it -/
theorem isAway_fanOut_iff (hr : b.running = true) (recipients : List SessionId) (e : Outbound)
    (exclude : Option SessionId) (i : Identity) : (b.fanOut recipients e exclude).1.isAway i = true ↔
      ∀ j entry, b.registry.sessions.get? j = some entry → entry.identity = i →
        j ∈ targets recipients exclude ∧ b.accepts j = false := by
  simp only [isAway_iff, b.get?_fanOut hr recipients e exclude]
  constructor
  · intro h j entry hentry hi
    by_contra hstays
    exact h j entry (by rw [if_neg hstays, hentry]) hi
  · intro h j entry hentry hi
    split_ifs at hentry with hgone
    exact hgone (h j entry hentry hi)

end Board

/-! ## Notices of a message -/

/-- the notice of a stored message to somebody who is away: it shows the first characters of the text -/
def StoredMessage.noticeTo (m : StoredMessage) (i : Identity) : Notice :=
  ⟨i, m.room, m.sender, String.ofList (m.body.toList.take 80)⟩

/-- the notices of a customer's message: one for each entry of the roster that is somebody else and away -/
theorem Notifier.notices_of_customer {n : Notifier} {roster : List Identity} (hroster : n.roster = some roster)
    {m : StoredMessage} (hcustomer : m.sender.role = .customer) (b : Board) :
    n.candidates m.sender = roster.filter (fun i => i ≠ m.sender.id) ∧
      n.notices m.room m.sender m.body (b.registry.onlineAmong (n.candidates m.sender)) =
        (roster.filter fun i => i ≠ m.sender.id && b.isAway i).map m.noticeTo := by
  have hcandidates : n.candidates m.sender = roster.filter fun i => i ≠ m.sender.id := by
    rw [candidates, hroster, hcustomer]
  refine ⟨hcandidates, ?_⟩
  -- only candidates are asked for, and of those the registry says exactly who is there
  have haway : ∀ i ∈ n.candidates m.sender,
      (!(b.registry.onlineAmong (n.candidates m.sender)).contains i) = b.isAway i := by
    intro i hi
    rw [Bool.eq_iff_iff, Bool.not_eq_true', List.contains_eq_mem, decide_eq_false_iff_not, b.registry.mem_onlineAmong,
      Board.isAway_iff]
    simp only [hi, true_and, not_exists, not_and]
  rw [notices, List.filter_congr haway, hcandidates, List.filter_filter]
  refine congrArg₂ _ rfl (List.filter_congr fun i _ => Bool.and_comm _ _)

namespace Hub

variable {σ τ : Type}

/-- notify those who are away of a chat message through a courier; how many notices arrived, unless nobody could be
notified -/
def notifyThrough (n : Notifier) (b : Board) (out : Outbound) (c : Courier τ) (state : τ) : τ × Option Nat :=
  match out.room, out.message with
  | some room, some message =>
    if (n.candidates out.sender).isEmpty then (state, none)
    else
      match b.onlineAmong (n.candidates out.sender) with
      | .error _ => (state, some 0)
      | .ok online =>
        let carried := c.carryAll (n.notices room out.sender message online) state
        (carried.1, some carried.2)
  | _, _ => (state, none)

/-- the hub notifies through a courier of its own -/
theorem notify_eq (p : Policy σ) (h : Hub σ) (out : Outbound) :
    notify p h out =
      let r := notifyThrough p.notifier h.board out (.reaching p.notifier.reaches) h.notices
      ({ h with notices := r.1 }, r.2) := by
  unfold notify notifyThrough
  cases out.room with
  | none => rfl
  | some room =>
    cases out.message with
    | none => rfl
    | some message =>
      simp only
      split_ifs
      · rfl
      · cases h.board.onlineAmong (p.notifier.candidates out.sender) with
        | error reason => rfl
        | ok online => simp only [Courier.carryAll_reaching]

end Hub

/-- what a turn hands to a courier: the notices of its chat message, if it has one; how many arrived -/
def Turn.handOver {σ τ : Type} (t : Turn) (p : Policy σ) (c : Courier τ) (state : τ) : τ × Option Nat :=
  match t.chat with
  | some out => Hub.notifyThrough p.notifier t.outcome out c state
  | none => (state, none)

namespace Hub

variable {σ τ : Type}

theorem notices_perform (p : Policy σ) (h : Hub σ) (t : Turn) :
    (h.perform p t).notices = (t.handOver p (.reaching p.notifier.reaches) h.notices).1 := by
  unfold perform Turn.handOver
  cases t.chat with
  | none => rfl
  | some out =>
    simp only [notify_eq]
    exact congrArg (fun kept => (notifyThrough p.notifier t.outcome out (.reaching p.notifier.reaches) kept).1)
      (notices_persist p h out)

/-! ## Live messages -/

/-- what comes of an action of which staff is notified -/
structure Notifies (p : Policy σ) (h : Hub σ) (a : Action) (roster : List Identity) (sender : Identity)
    (attempts : List Notice) : Prop where
  /-- these notices are handed over, each once and in order, whatever becomes of any of them; how many arrive is
  reported, unless there is nobody on the roster but the sender -/
  handed : ∀ (τ : Type) (c : Courier τ) (state : τ), ∃ given : List (Notice × Bool), given.map Prod.fst = attempts ∧
    (h.turn p a).handOver p c.logged ([], state) = ((given, (c.carryAll attempts state).1),
      if ∀ i ∈ roster, i = sender then none else some (given.countP Prod.snd))
  /-- the hub keeps those whose recipients notices reach -/
  kept : (h.step p a).1.notices = h.notices ++ attempts.filter fun n => p.notifier.reaches n.recipient

/-- what comes of an action of which nobody is notified, whoever brings the notices -/
structure NotifiesNobody (p : Policy σ) (h : Hub σ) (a : Action) : Prop where
  handed : ∀ (τ : Type) (c : Courier τ) (state : τ), (h.turn p a).handOver p c state = (state, none)
  kept : (h.step p a).1.notices = h.notices

theorem step_notices_of_accepts {p : Policy σ} {h : Hub σ} {a : Action} {id : SessionId} {s : Session}
    {envelope : Inbound} {row : StoredMessage} (haccepts : (h.event p a).Accepts p id s envelope row) :
    (h.step p a).1.notices = ((h.turn p a).handOver p (.reaching p.notifier.reaches) h.notices).1 := by
  have hbrought : inbound? p a = some (id, envelope) := haccepts.brought
  rw [step_eq_perform p h hbrought]
  exact notices_perform p h (h.turn p a)

/-- what is handed over of an accepted message, whoever brings the notices -/
theorem Event.Accepts.handOver_eq {p : Policy σ} {h : Hub σ} {a : Action} {id : SessionId} {s : Session}
    {envelope : Inbound} {row : StoredMessage} (haccepts : (h.event p a).Accepts p id s envelope row) (c : Courier τ)
    (state : τ) : (h.turn p a).handOver p c state =
      notifyThrough p.notifier (h.step p a).1.board (row.sent envelope.data) c state := by
  obtain ⟨hchat, hboard, -⟩ := haccepts.outcome_eq
  rw [Turn.handOver, hchat, hboard]

theorem notifyThrough_of_no_candidates {n : Notifier} {m : StoredMessage} (hnone : n.candidates m.sender = [])
    (b : Board) (data : Option Json) (c : Courier τ) (state : τ) :
    notifyThrough n b (m.sent data) c state = (state, none) := by
  simp only [notifyThrough, StoredMessage.sent, hnone, List.isEmpty_nil, if_true]

/-- a customer's message is announced to those of the roster who are away, as long as the registry says who that is -/
theorem notifyThrough_of_customer {n : Notifier} {roster : List Identity} (hroster : n.roster = some roster)
    {m : StoredMessage} (hcustomer : m.sender.role = .customer) (b : Board) (data : Option Json) (c : Courier τ)
    (state : τ) : notifyThrough n b (m.sent data) c state =
      let attempts := if b.running then (roster.filter fun i => i ≠ m.sender.id && b.isAway i).map m.noticeTo else []
      let carried := c.carryAll attempts state
      (carried.1, if ∀ i ∈ roster, i = m.sender.id then none else some carried.2) := by
  obtain ⟨hcandidates, hnotices⟩ := Notifier.notices_of_customer hroster hcustomer b
  have hempty : (n.candidates m.sender).isEmpty = true ↔ ∀ i ∈ roster, i = m.sender.id := by
    simp [hcandidates]
  by_cases hnone : ∀ i ∈ roster, i = m.sender.id
  · have hnobody : (roster.filter fun i => i ≠ m.sender.id && b.isAway i) = [] := by
      refine List.filter_eq_nil_iff.2 fun i hi => ?_
      simp [hnone i hi]
    have hno : n.candidates m.sender = [] := List.isEmpty_iff.1 (hempty.2 hnone)
    rw [notifyThrough_of_no_candidates hno]
    simp only [hnobody, List.map_nil, ite_self, Courier.carryAll, if_pos hnone]
  · have hsome : (n.candidates m.sender).isEmpty = false := Bool.eq_false_iff.2 (mt hempty.1 hnone)
    simp only [notifyThrough, StoredMessage.sent, hsome, Bool.false_eq_true, if_false, Board.onlineAmong, if_neg hnone]
    cases b.running with
    | false => rfl
    | true => simp only [if_true, hnotices]

theorem Event.Accepts.notifies {p : Policy σ} {h : Hub σ} {a : Action} {id : SessionId} {s : Session}
    {envelope : Inbound} {row : StoredMessage} (haccepts : (h.event p a).Accepts p id s envelope row)
    {roster : List Identity} (hroster : p.notifier.roster = some roster) (hcustomer : s.role = .customer) :
    Notifies p h a roster s.identity
      (if h.board.running then
        (roster.filter fun i => i ≠ s.identity && (h.step p a).1.board.isAway i).map row.noticeTo
      else []) := by
  have hsender : row.sender = s.sender := haccepts.sender
  obtain ⟨-, hboard, houtcome⟩ := haccepts.outcome_eq
  have hrunning : (h.step p a).1.board.running = h.board.running := by
    rw [hboard, houtcome]
    exact h.board.running_post (.route (.roomAndListeners row.room .staff) (row.sent envelope.data) (some id))
  have hthrough := fun {τ : Type} (c : Courier τ) (state : τ) => (haccepts.handOver_eq c state).trans
    (notifyThrough_of_customer hroster (m := row) (hsender ▸ hcustomer) (h.step p a).1.board envelope.data c state)
  simp only [hrunning, hsender, Session.sender] at hthrough
  constructor
  · intro τ c state
    rw [hthrough]
    obtain ⟨given, hgiven, hcount, hall⟩ := c.carryAll_logged _ [] state
    refine ⟨given, hgiven, ?_⟩
    simp only [hall, List.nil_append, hcount]
  · rw [step_notices_of_accepts haccepts, hthrough, Courier.carryAll_reaching]

/-- who is away once an accepted message was sent: those too whom it tore down -/
theorem Event.Accepts.isAway_iff {p : Policy σ} {h : Hub σ} {a : Action} {id : SessionId} {s : Session}
    {envelope : Inbound} {row : StoredMessage} (haccepts : (h.event p a).Accepts p id s envelope row)
    (hr : h.board.running = true) (i : Identity) : (h.step p a).1.board.isAway i = true ↔
      ∀ j entry, h.board.registry.sessions.get? j = some entry → entry.identity = i →
        j ∈ Board.targets ((Audience.roomAndListeners row.room .staff).recipients h.board.registry) (some id) ∧
          h.board.accepts j = false := by
  obtain ⟨-, hboard, houtcome⟩ := haccepts.outcome_eq
  rw [hboard, houtcome, Board.routeTo, if_pos hr]
  exact Board.isAway_fanOut_iff hr _ _ _ i

/-- nobody is notified of an accepted message that is not from a customer, or by a notifier without a roster -/
theorem Event.Accepts.notifiesNobody {p : Policy σ} {h : Hub σ} {a : Action} {id : SessionId} {s : Session}
    {envelope : Inbound} {row : StoredMessage} (haccepts : (h.event p a).Accepts p id s envelope row)
    (hnone : p.notifier.roster = none ∨ s.role ≠ .customer) : NotifiesNobody p h a := by
  have hsender : row.sender = s.sender := haccepts.sender
  have hcandidates : p.notifier.candidates row.sender = [] := by
    rw [hsender, Notifier.candidates]
    rcases hnone with hroster | hrole
    · rw [hroster]
    · split
      · exact absurd ‹_› hrole
      · rfl
  have hthrough := fun {τ : Type} (c : Courier τ) (state : τ) => (haccepts.handOver_eq c state).trans
    (notifyThrough_of_no_candidates hcandidates (h.step p a).1.board envelope.data c state)
  refine ⟨fun τ c state => hthrough c state, ?_⟩
  rw [step_notices_of_accepts haccepts, hthrough]

theorem publish_notifiesNobody (p : Policy σ) (h : Hub σ) (publisher : Sender) (e : Inbound) :
    NotifiesNobody p h (.publish publisher e) := by
  have hchat : (h.turn p (.publish publisher e)).chat = none := chat_publishTurn h publisher e
  refine ⟨fun _ _ _ => by rw [Turn.handOver, hchat], ?_⟩
  have hperform : (h.step p (.publish publisher e)).1 = h.perform p (h.turn p (.publish publisher e)) :=
    publish_eq_perform p h publisher e
  rw [hperform, notices_perform, Turn.handOver, hchat]

/-- **Staff who are away are notified.** In every state of a hub, when a customer's message is accepted, a notice is handed
over for each entry of the roster, in order, that is not the customer and has no registered session once the message
was sent; so also for those whose last session could not take the message. Each shows the room, the sender and the
first 80 characters of the text. One that fails holds no other up, and the count is of those that arrived. A registry that
does not answer does not say who is away: then nothing is handed over. Nor is it for a message of anybody else, or for
one that is published. -/
theorem absent_staff_notified (p : Policy σ) (h : Hub σ) :
    (∀ a id s envelope row, (h.event p a).Accepts p id s envelope row →
      let after := (h.step p a).1.board
      (∀ roster, p.notifier.roster = some roster → s.role = .customer →
        Notifies p h a roster s.identity
          (if h.board.running then
            (roster.filter fun i => i ≠ s.identity && after.isAway i).map row.noticeTo
          else [])) ∧
      (h.board.running = true → ∀ i, after.isAway i = true ↔
        ∀ j entry, h.board.registry.sessions.get? j = some entry → entry.identity = i →
          j ∈ Board.targets ((Audience.roomAndListeners row.room .staff).recipients h.board.registry) (some id) ∧
            h.board.accepts j = false) ∧
      (p.notifier.roster = none ∨ s.role ≠ .customer → NotifiesNobody p h a)) ∧
    (∀ publisher e, NotifiesNobody p h (.publish publisher e)) ∧
    ∀ setup ready request, (Admin.answer setup ready h request).1.notices = h.notices := by
  refine ⟨fun a id s envelope row haccepts => ?_, publish_notifiesNobody p h, fun setup ready request => ?_⟩
  · exact ⟨fun roster hroster hcustomer => haccepts.notifies hroster hcustomer, haccepts.isAway_iff,
      haccepts.notifiesNobody⟩
  · by_cases hasks : ∃ given who e q message, request.Asks setup given who e q message ∧ IsHeaderText given
    · obtain ⟨given, who, e, q, message, hasks, htext⟩ := hasks
      rw [Admin.answer_of_asks setup ready h hasks htext]
      rfl
    · obtain ⟨response, hanswer, -⟩ := Admin.answer_of_not_asks setup ready h hasks
      rw [hanswer]

/-- of the roster, tom listens, sue listens but has no room left, ann writes herself, and bob, who is on it twice, has no
session and cannot be reached -/
theorem absent_staff_notified_of_torn_down :
    let q := RoomId.ofNat 7
    let ann : SessionId := ⟨"ann"⟩
    let tom : SessionId := ⟨"tom"⟩
    let session (name : String) (role : Role) (room : Option RoomId) (capacity : Nat) : Action :=
      .connect ⟨name⟩ { identity := ⟨name⟩, role, currentRoom := room, outbox := .ofCapacity capacity }
    let roster : List Identity := [⟨"sue"⟩, ⟨"bob"⟩, ⟨"ann"⟩, ⟨"tom"⟩, ⟨"bob"⟩]
    let p : Policy Unit := ⟨Store.disabled, { roster := some roster, reaches := fun i => i ≠ ⟨"bob"⟩ }, 1000⟩
    let h := run p (start () 5 true)
      [session "ann" .customer (some q) 8, session "sue" .staff none 1, session "tom" .staff none 8,
        .deliver ⟨"sue"⟩ ⟨.pong, none, ⟨⟨"sue"⟩, .staff⟩, none, none, 0⟩]
    let asked : Inbound := ⟨.message, none, some (String.ofList (List.replicate 81 'x')), none⟩
    let answered : Inbound := ⟨.message, some (.string q.text), some "hi", none⟩
    let row : StoredMessage := ⟨q, ⟨⟨"ann"⟩, .customer⟩, String.ofList (List.replicate 81 'x'), 5⟩
    let row' : StoredMessage := ⟨q, ⟨⟨"tom"⟩, .staff⟩, "hi", 5⟩
    let notice (name : String) : Notice := ⟨⟨name⟩, q, ⟨⟨"ann"⟩, .customer⟩, String.ofList (List.replicate 80 'x')⟩
    ∃ s s', (h.event p (.envelope ann asked)).Accepts p ann s asked row ∧ s.role = .customer ∧
      Notifies p h (.envelope ann asked) roster s.identity [notice "sue", notice "bob", notice "bob"] ∧
      (h.step p (.envelope ann asked)).1.notices = [notice "sue"] ∧
      (h.event p (.envelope tom answered)).Accepts p tom s' answered row' ∧ s'.role ≠ .customer ∧
      NotifiesNobody p h (.envelope tom answered) := by
  intro q ann tom session roster p h asked answered row row' notice
  have hrow : (h.event p (.envelope ann asked)).row? p = some row := by decide +kernel
  have hrow' : (h.event p (.envelope tom answered)).row? p = some row' := by decide +kernel
  obtain ⟨id, s, e, haccepts⟩ := (row?_eq_some_iff p _ row).1 hrow
  obtain ⟨id', s', e', haccepts'⟩ := (row?_eq_some_iff p _ row').1 hrow'
  have hbrought := haccepts.brought
  have hbrought' := haccepts'.brought
  cases hbrought
  cases hbrought'
  have hsender : s.sender = ⟨⟨"ann"⟩, .customer⟩ := haccepts.sender.symm
  have hsender' : s'.sender = ⟨⟨"tom"⟩, .staff⟩ := haccepts'.sender.symm
  have hidentity : s.identity = ⟨"ann"⟩ := congrArg Sender.id hsender
  have hrole : s.role = .customer := congrArg Sender.role hsender
  have hrole' : s'.role ≠ .customer := by
    rw [show s'.role = .staff from congrArg Sender.role hsender']
    decide
  obtain ⟨hnotified, -⟩ := absent_staff_notified p h
  have hnotifies := (hnotified _ _ _ _ _ haccepts).1 roster rfl hrole
  have hattempts : (if h.board.running then
      (roster.filter fun i => i ≠ ⟨"ann"⟩ && (h.step p (.envelope ann asked)).1.board.isAway i).map row.noticeTo
    else []) = [notice "sue", notice "bob", notice "bob"] := by decide +kernel
  rw [hidentity, hattempts] at hnotifies
  exact ⟨s, s', haccepts, hrole, hidentity ▸ hnotifies, by decide +kernel, haccepts', hrole',
    (hnotified _ _ _ _ _ haccepts').2.2 (.inr hrole')⟩

/-- the registry does not answer: a customer's message is accepted, sue of the roster has no session, and no notice is
handed over -/
theorem silent_registry_notifies_nobody :
    let ann : SessionId := ⟨"ann"⟩
    let q := RoomId.ofNat 7
    let roster : List Identity := [⟨"sue"⟩]
    let p : Policy Unit := ⟨Store.disabled, { roster := some roster }, 1000⟩
    let h := run p (start () 5 false)
      [.create ann { identity := ⟨"ann"⟩, role := .customer, currentRoom := some q, outbox := .ofCapacity 8 }]
    let e : Inbound := ⟨.message, none, some "hi", none⟩
    let row : StoredMessage := ⟨q, ⟨⟨"ann"⟩, .customer⟩, "hi", 5⟩
    let after := (h.step p (.envelope ann e)).1.board
    ∃ s, (h.event p (.envelope ann e)).Accepts p ann s e row ∧ s.role = .customer ∧ after.isAway ⟨"sue"⟩ = true ∧
      ¬Notifies p h (.envelope ann e) roster s.identity
        ((roster.filter fun i => i ≠ s.identity && after.isAway i).map row.noticeTo) := by
  intro ann q roster p h e row after
  have hrow : (h.event p (.envelope ann e)).row? p = some row := by decide +kernel
  obtain ⟨id, s, e', haccepts⟩ := (row?_eq_some_iff p _ row).1 hrow
  have hbrought := haccepts.brought
  cases hbrought
  have hsender : s.sender = ⟨⟨"ann"⟩, .customer⟩ := haccepts.sender.symm
  have hidentity : s.identity = ⟨"ann"⟩ := congrArg Sender.id hsender
  refine ⟨s, haccepts, congrArg Sender.role hsender, by decide +kernel, fun hnotifies => ?_⟩
  have hkept := hnotifies.kept
  rw [hidentity] at hkept
  have hnone : (h.step p (.envelope ann e)).1.notices = [] := by decide +kernel
  have hone : h.notices ++ ((roster.filter fun i => i ≠ ⟨"ann"⟩ && after.isAway i).map row.noticeTo).filter
      (fun n => p.notifier.reaches n.recipient) = [row.noticeTo ⟨"sue"⟩] := by decide +kernel
  cases hnone.symm.trans (hkept.trans hone)

end Hub
end ErrandHub
