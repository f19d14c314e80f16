/-
What comes of a chat message.

A session may post a message (`MayPost`) if the message is not blank, the room that it is for is one, and the session is
no customer outside that room. Such a message is stored and goes to the members of the room and to the staff that is in
no room, its sender aside (`ChatSent`); any other message changes nothing.

- `mayPost_iff`: the test that a hub makes is this one.
- `perform_messageTurn`: what a hub does with a message that may be posted.
- `chat_message_exact`: every text frame of a registered session that brings a message, in every state that a hub gets
  into.
-/
import Mathlib
import ErrandHub.Proofs.Hub.FanOut
import ErrandHub.Store.Memory

namespace ErrandHub

/-- an envelope of a session is for a room: the one that it names, or else the one that the session takes itself to be
in -/
def Inbound.IsFor (e : Inbound) (s : Session) (q : RoomId) : Prop :=
  match e.room with
  | some v => RoomRef.roomOfJson v = .ok q
  | none => s.currentRoom = some q

/-- a session may post the message of an envelope into a room -/
structure Session.MayPost (s : Session) (e : Inbound) (q : RoomId) (message : String) : Prop where
  written : e.message = some message
  visible : Text.isBlank message = false
  aimed : e.IsFor s q
  allowed : s.role = .customer → s.currentRoom = some q

theorem Inbound.text?_eq_some_iff (e : Inbound) (message : String) :
    e.text? = some message ↔ e.message = some message ∧ Text.isBlank message = false := by
  unfold Inbound.text?
  rw [Option.filter_eq_some_iff, Bool.not_eq_true']

theorem toOption_eq_some_iff {ε α : Type} (x : Except ε α) (a : α) : x.toOption = some a ↔ x = .ok a := by
  cases x <;> simp [Except.toOption]

theorem Registry.placeOf?_eq_listeners_iff (r : Registry) (id : SessionId) (role : Role) :
    r.placeOf? id = some (.listeners role) ↔
      ∃ entry, r.sessions.get? id = some entry ∧ entry.room = none ∧ entry.role = role := by
  simp [placeOf?, Entry.place_eq_listeners_iff]

namespace Hub

variable {σ : Type}

/-! ## Messages that may be posted -/

theorem postableRoom_eq_some_iff (s : Session) (e : Inbound) (q : RoomId) :
    postableRoom s e.room = some q ↔ e.IsFor s q ∧ (s.role = .customer → s.currentRoom = some q) := by
  have hallowed : (decide (s.role ≠ .customer) || decide (s.currentRoom = some q)) = true ↔
      (s.role = .customer → s.currentRoom = some q) := by
    by_cases hcustomer : s.role = .customer <;> simp [hcustomer]
  unfold postableRoom Inbound.IsFor
  cases e.room with
  | none => rw [Option.filter_eq_some_iff, hallowed]
  | some v => rw [Option.filter_eq_some_iff, hallowed, toOption_eq_some_iff]

theorem mayPost_iff (s : Session) (e : Inbound) (q : RoomId) (message : String) :
    s.MayPost e q message ↔ e.text? = some message ∧ postableRoom s e.room = some q := by
  rw [Inbound.text?_eq_some_iff, postableRoom_eq_some_iff]
  constructor
  · rintro ⟨hwritten, hvisible, haimed, hallowed⟩
    exact ⟨⟨hwritten, hvisible⟩, haimed, hallowed⟩
  · rintro ⟨⟨hwritten, hvisible⟩, haimed, hallowed⟩
    exact ⟨hwritten, hvisible, haimed, hallowed⟩

theorem messageTurn_of_not_mayPost (h : Hub σ) (id : SessionId) {s : Session} {e : Inbound}
    (hnot : ¬∃ q message, s.MayPost e q message) : h.messageTurn id s e = { board := h.board } := by
  unfold messageTurn
  split
  · rename_i message q htext hroom
    exact absurd ⟨q, message, (mayPost_iff s e q message).2 ⟨htext, hroom⟩⟩ hnot
  · rfl

theorem messageTurn_of_mayPost (h : Hub σ) (id : SessionId) {s : Session} {e : Inbound} {q : RoomId} {message : String}
    (hpost : s.MayPost e q message) :
    h.messageTurn id s e =
      let out : Outbound := ⟨.message, some q, s.sender, some message, e.data, h.now⟩
      ⟨h.board, [.route (.roomAndListeners q .staff) out (some id)], some out⟩ := by
  obtain ⟨htext, hroom⟩ := (mayPost_iff s e q message).1 hpost
  unfold messageTurn
  rw [htext, hroom]
  rfl

/-! ## Messages that are sent -/

/-- what a hub is after a session has sent a chat message into a room -/
structure ChatSent (p : Policy σ) (h h' : Hub σ) (id : SessionId) (q : RoomId) (message : String) (out : Outbound) :
    Prop where
  /-- the members of the room and the staff that is in no room, the sender aside, get the message or are withdrawn, and
  everybody else is as they were -/
  reached : ∃ (recipients : Finset SessionId) (report : RouteReport),
    (∀ j, j ∈ recipients ↔ j ≠ id ∧ ∃ entry, h.board.registry.sessions.get? j = some entry ∧
      (entry.room = some q ∨ entry.room = none ∧ entry.role = .staff)) ∧
    FannedOut h.board h'.board recipients out report
  /-- the sender gets nothing, and stays where it is -/
  silent : h'.board.session? id = h.board.session? id ∧ h.board.registry.SameMembership h'.board.registry id
  /-- the store is given the message once -/
  stored : h'.store = (p.store.persist ⟨q, out.sender, message, out.timestamp⟩ h.store).1

theorem place_chat_iff (r : Registry) (q : RoomId) (j : SessionId) :
    (∃ place ∈ (Audience.roomAndListeners q .staff).places, r.placeOf? j = some place) ↔
      ∃ entry, r.sessions.get? j = some entry ∧ (entry.room = some q ∨ entry.room = none ∧ entry.role = .staff) := by
  simp only [Audience.places, List.mem_cons, List.not_mem_nil, or_false, exists_eq_or_imp, exists_eq_left,
    Registry.placeOf?_eq_room_iff, Registry.roomOf_eq_some_iff, Registry.placeOf?_eq_listeners_iff]
  constructor
  · rintro (⟨entry, he, hroom⟩ | ⟨entry, he, hlistens⟩)
    · exact ⟨entry, he, Or.inl hroom⟩
    · exact ⟨entry, he, Or.inr hlistens⟩
  · rintro ⟨entry, he, hroom | hlistens⟩
    · exact Or.inl ⟨entry, he, hroom⟩
    · exact Or.inr ⟨entry, he, hlistens⟩

theorem mem_addressees_chat_iff (r : Registry) (q : RoomId) (id j : SessionId) :
    j ∈ r.addressees (.roomAndListeners q .staff) (some id) ↔ j ≠ id ∧ ∃ entry, r.sessions.get? j = some entry ∧
      (entry.room = some q ∨ entry.room = none ∧ entry.role = .staff) := by
  have hne : some j ≠ some id ↔ j ≠ id := by simp
  rw [Registry.mem_addressees_iff, place_chat_iff, and_comm, hne]

/-- the recipients of a chat message that nobody in its audience sends -/
theorem mem_addressees_chat_none_iff (r : Registry) (q : RoomId) (j : SessionId) :
    j ∈ r.addressees (.roomAndListeners q .staff) none ↔ ∃ entry, r.sessions.get? j = some entry ∧
      (entry.room = some q ∨ entry.room = none ∧ entry.role = .staff) := by
  rw [Registry.mem_addressees_iff, place_chat_iff]
  simp

theorem perform_messageTurn (p : Policy σ) {h : Hub σ} (hs : h.board.Sound Session.Owns)
    (hr : h.board.running = true) (id : SessionId) {s : Session} {e : Inbound} {q : RoomId} {message : String}
    (hpost : s.MayPost e q message) :
    ChatSent p h (h.perform p (h.messageTurn id s e)) id q message
      ⟨.message, some q, s.sender, some message, e.data, h.now⟩ := by
  rw [messageTurn_of_mayPost h id hpost]
  set out : Outbound := ⟨.message, some q, s.sender, some message, e.data, h.now⟩ with hout
  set audience : Audience := .roomAndListeners q .staff
  have hboard : (h.perform p ⟨h.board, [.route audience out (some id)], some out⟩).board =
      (h.board.routeTo audience out (some id)).1 := board_perform p h _
  have hfanned : FannedOut h.board (h.board.routeTo audience out (some id)).1
      (h.board.registry.addressees audience (some id)) out (h.board.routeTo audience out (some id)).2 := by
    rw [Board.routeTo, if_pos hr]
    exact hs.fannedOut hr (fun _ => Iff.rfl) out (some id)
  have hself : id ∉ h.board.registry.addressees audience (some id) := by
    rw [Registry.mem_addressees_iff]
    rintro ⟨-, hne⟩
    exact hne rfl
  refine ⟨⟨_, _, mem_addressees_chat_iff h.board.registry q id, hboard ▸ hfanned⟩, hboard ▸ hfanned.aside id hself, ?_⟩
  simp only [perform]
  rw [store_notify]
  rfl

/-- **Chat messages go to those whom they are for.** Whatever a hub went through, a text frame of a registered session
that brings a message is sent and stored if the session may post it, and changes nothing at all if not. -/
theorem chat_message_exact (p : Policy σ) (store : σ) (now : Int64) (running : Bool) (actions : List Action)
    (id : SessionId) (entry : Entry) (s : Session) (frame : String) (e : Inbound)
    (hregistered : (run p (start store now running) actions).board.registry.sessions.get? id = some entry)
    (hsession : (run p (start store now running) actions).board.session? id = some s)
    (hdecoded : Inbound.decode p.maxMessageBytes frame = .ok (.envelope e)) (hkind : e.kind = .message) :
    let h := run p (start store now running) actions
    (∀ q message, s.MayPost e q message → ChatSent p h (h.handleText p id frame) id q message
      ⟨.message, some q, s.sender, some message, e.data, h.now⟩) ∧
    ((¬∃ q message, s.MayPost e q message) → h.handleText p id frame = h) := by
  intro h
  have hs : h.board.Sound Session.Owns := run_owned p store now running actions
  have hr : h.board.running = true := run_answers p store now running actions id entry hregistered
  have hturn : h.envelopeTurn id e = h.messageTurn id s e := by
    simp only [envelopeTurn, h, hsession, hkind]
  rw [handleText_of_decode p h id hdecoded, handle_eq_perform, hturn]
  refine ⟨fun q message hpost => perform_messageTurn p hs hr id hpost, fun hnot => ?_⟩
  rw [messageTurn_of_not_mayPost h id hnot]
  rfl

/-- a customer writes from its room, where a second session of its own is, while two of the staff listen and the outbox
of one of them is full -/
theorem chat_message_exact_beside_full_outbox :
    let q := RoomId.ofNat 7
    let session (name identity : String) (role : Role) (room : Option RoomId) (capacity : Nat) : Action :=
      .connect ⟨name⟩ { identity := ⟨identity⟩, role, currentRoom := room, outbox := .ofCapacity capacity }
    let p : Policy Memory := ⟨Store.memory, {}, 1000⟩
    let actions : List Action :=
      [session "ann" "ann" .customer (some q) 4, session "twin" "ann" .customer (some q) 4,
        session "sue" "sue" .staff none 1, session "tom" "tom" .staff none 4,
        .deliver ⟨"sue"⟩ ⟨.pong, none, ⟨⟨"sue"⟩, .staff⟩, none, none, 0⟩]
    let h := run p (start {} 0 true) actions
    let ann : SessionId := ⟨"ann"⟩
    let frame := "\x7b\"type\":\"message\",\"message\":\"hi\",\"sender\":\"eve\"\x7d"
    let e : Inbound := ⟨.message, none, some "hi", none⟩
    ∃ entry s, h.board.registry.sessions.get? ann = some entry ∧ h.board.session? ann = some s ∧
      Inbound.decode p.maxMessageBytes frame = .ok (.envelope e) ∧ e.kind = .message ∧ s.MayPost e q "hi" ∧
      ((∀ q message, s.MayPost e q message → ChatSent p h (h.handleText p ann frame) ann q message
          ⟨.message, some q, s.sender, some message, e.data, h.now⟩) ∧
        ((¬∃ q message, s.MayPost e q message) → h.handleText p ann frame = h)) ∧
      ([ann, ⟨"twin"⟩, ⟨"sue"⟩, ⟨"tom"⟩].map fun j => ((h.handleText p ann frame).board.session? j).map fun s =>
        (s.outbox.waiting.map Outbound.kind, s.phase)) =
          [some ([], .active), some ([.message], .active), some ([.pong], .draining), some ([.message], .active)] := by
  intro q session p actions h ann frame e
  have hentry : h.board.registry.sessions.get? ann = some ⟨⟨"ann"⟩, .customer, some q⟩ := by decide +kernel
  have hsound : h.board.Sound Session.Owns := run_owned p {} 0 true actions
  obtain ⟨s, hs, -⟩ := hsound.known ann _ hentry
  have hroom : s.currentRoom = some q := by
    have hcurrent : (h.board.session? ann).bind Session.currentRoom = some q := by decide +kernel
    simpa [h, hs] using hcurrent
  have hdecoded : Inbound.decode p.maxMessageBytes frame = .ok (.envelope e) := by cbv
  have hpost : s.MayPost e q "hi" := by
    refine ⟨rfl, by decide +kernel, ?_, fun _ => hroom⟩
    exact hroom
  have hexact := chat_message_exact p {} 0 true actions ann ⟨⟨"ann"⟩, .customer, some q⟩ s frame e
  have hrun : run p (start {} 0 true) actions = h := rfl
  rw [hrun] at hexact
  have hhandle : h.handleText p ann frame = handle p h ann e := handleText_of_decode p h ann hdecoded
  refine ⟨_, s, hentry, hs, hdecoded, rfl, hpost, hexact hentry hs hdecoded rfl, ?_⟩
  rw [hhandle]
  decide +kernel

end Hub
end ErrandHub
