/-
What the store is given, and what it has no say in.

The hub works over any store: one that keeps what it is given, one that refuses some of it, one that keeps nothing. A
hub over another store (`Hub.withStore`) is the same hub but for what is stored.

- `step_withStore`: an action does the same over any store, and reports the same. Hence so does a run (`run_withStore`).
- `Event.Accepts`: the hub accepts a live message in an event. `row?_eq_some_iff`: these are the events that have a row.
- `step_store`: the store is given the row of an event, if there is one, and nothing else.
- `accepted_messages_stored`: the calls that a store gets in a run are the rows of the accepted messages, each once and
  in order, and no store has a say in anything else.
-/
import Mathlib.Tactic
import ErrandHub.Proofs.Hub.Authenticity
import ErrandHub.Proofs.Hub.Chat
import ErrandHub.Proofs.Hub.History

namespace ErrandHub

/-- a store that also keeps a list of the calls that it gets, whatever comes of them -/
def Store.logged {σ : Type} (store : Store σ) : Store (List StoredMessage × σ) where
  persist m state := ((state.1 ++ [m], (store.persist m state.2).1), (store.persist m state.2).2)

theorem Store.persistAll_logged {σ : Type} (store : Store σ) (rows calls : List StoredMessage) (state : σ) :
    store.logged.persistAll rows (calls, state) = (calls ++ rows, store.persistAll rows state) := by
  induction rows generalizing calls state with
  | nil => simp [persistAll]
  | cons m rows ih =>
    refine (ih (calls ++ [m]) (store.persist m state).1).trans ?_
    rw [List.append_assoc]
    rfl

theorem Store.persistAll_append {σ : Type} (store : Store σ) (rows rows' : List StoredMessage) (state : σ) :
    store.persistAll (rows ++ rows') state = store.persistAll rows' (store.persistAll rows state) := List.foldl_append

/-- a stored message as it goes to outboxes -/
def StoredMessage.sent (m : StoredMessage) (data : Option Json) : Outbound :=
  ⟨.message, some m.room, m.sender, some m.body, data, m.createdAt⟩

/-- a policy as it is, with another store -/
def Policy.withStore {σ τ : Type} (p : Policy σ) (store : Store τ) : Policy τ := ⟨store, p.notifier, p.maxMessageBytes⟩

namespace Hub

variable {σ τ : Type}

/-- a hub as it is, over another store -/
def withStore (h : Hub σ) (state : τ) : Hub τ := ⟨h.board, state, h.notices, h.now⟩

/-! ## Other stores -/

theorem persist_withStore (p : Policy σ) (store : Store τ) (h : Hub σ) (state : τ) (out : Outbound) :
    ∃ state', persist (p.withStore store) (h.withStore state) out = (persist p h out).withStore state' := by
  unfold persist
  cases StoredMessage.ofEnvelope? out with
  | none => exact ⟨state, rfl⟩
  | some m => exact ⟨(store.persist m state).1, rfl⟩

theorem notify_withStore (p : Policy σ) (store : Store τ) (h : Hub σ) (state : τ) (out : Outbound) :
    notify (p.withStore store) (h.withStore state) out = ((notify p h out).1.withStore state, (notify p h out).2) := by
  have hboard : (h.withStore state).board = h.board := rfl
  have hnotifier : (p.withStore store).notifier = p.notifier := rfl
  unfold notify
  rw [hboard, hnotifier]
  cases out.room with
  | none => rfl
  | some room =>
    cases out.message with
    | none => rfl
    | some message =>
      simp only
      split_ifs
      · rfl
      · cases h.board.onlineAmong (p.notifier.candidates out.sender) <;> rfl

theorem perform_withStore (p : Policy σ) (store : Store τ) (h : Hub σ) (state : τ) (t : Turn) :
    ∃ state', (h.withStore state).perform (p.withStore store) t = (h.perform p t).withStore state' := by
  unfold perform
  cases t.chat with
  | none => exact ⟨state, rfl⟩
  | some out =>
    obtain ⟨state', hpersist⟩ := persist_withStore p store h state out
    refine ⟨state', ?_⟩
    simp only [hpersist]
    exact congrArg Prod.fst (notify_withStore p store ((persist p h out).withBoard t.outcome) state' out)

theorem handle_withStore (p : Policy σ) (store : Store τ) (h : Hub σ) (state : τ) (id : SessionId) (e : Inbound) :
    ∃ state', handle (p.withStore store) (h.withStore state) id e = (handle p h id e).withStore state' := by
  rw [handle_eq_perform, handle_eq_perform]
  exact perform_withStore p store h state (h.envelopeTurn id e)

theorem publish_withStore (h : Hub σ) (state : τ) (publisher : Sender) (e : Inbound) :
    (h.withStore state).publish publisher e = ((h.publish publisher e).1.withStore state, (h.publish publisher e).2) := by
  unfold publish
  split_ifs
  · rfl
  · cases e.room with
    | none => rfl
    | some raw =>
      cases hroom : RoomRef.roomOfJson raw with
      | error reason => simp only [hroom]
      | ok room =>
        simp only [hroom]
        cases e.text? <;> rfl

theorem connect_withStore (h : Hub σ) (state : τ) (id : SessionId) (s : Session) :
    (h.withStore state).connect id s = ((h.connect id s).1.withStore state, (h.connect id s).2) := by
  have hboard : (h.withStore state).board = h.board := rfl
  unfold connect
  rw [hboard]
  simp only
  generalize Board.register { h.board with sessions := h.board.sessions.insert id s } id s.currentRoom = registered
  rcases registered with ⟨b, reason | report⟩
  · rfl
  · rcases report with ⟨inserted, roomCreated⟩
    cases roomCreated with
    | false => rfl
    | true => cases s.currentRoom <;> rfl

/-- **An action does the same over any store, and reports the same.** -/
theorem step_withStore (p : Policy σ) (store : Store τ) (h : Hub σ) (state : τ) (a : Action) :
    ∃ state', (h.withStore state).step (p.withStore store) a = ((h.step p a).1.withStore state', (h.step p a).2) := by
  -- sessions are looked up on the board, which does not know of the store
  have hsession : ∀ id, (h.withStore state).board.session? id = h.board.session? id := fun id => rfl
  cases a with
  | text id frame =>
    simp only [step, handleText]
    have hlimit : (p.withStore store).maxMessageBytes = p.maxMessageBytes := rfl
    rw [hlimit]
    rcases Inbound.decode p.maxMessageBytes frame with reason | decoded
    · exact ⟨state, rfl⟩
    · cases decoded with
      | envelope e =>
        obtain ⟨state', hhandle⟩ := handle_withStore p store h state id e
        exact ⟨state', congrArg (·, _) hhandle⟩
      | unknown type => exact ⟨state, rfl⟩
  | envelope id e =>
    obtain ⟨state', hhandle⟩ := handle_withStore p store h state id e
    exact ⟨state', congrArg (·, _) hhandle⟩
  | publish publisher e =>
    refine ⟨state, ?_⟩
    simp only [step, publish_withStore]
  | connect id s =>
    refine ⟨state, ?_⟩
    simp only [step, hsession]
    cases h.board.session? id with
    | some _ => rfl
    | none => simp only [connect_withStore]
  | create id s =>
    refine ⟨state, ?_⟩
    simp only [step, hsession]
    cases h.board.session? id <;> rfl
  | announce id room =>
    refine ⟨state, ?_⟩
    simp only [step, hsession]
    cases h.board.session? id <;> rfl
  | notify out =>
    refine ⟨state, ?_⟩
    simp only [step, notify_withStore]
  | _ => exact ⟨state, rfl⟩

theorem run_withStore (p : Policy σ) (store : Store τ) (h : Hub σ) (state : τ) (actions : List Action) :
    (∃ state', run (p.withStore store) (h.withStore state) actions = (run p h actions).withStore state') ∧
      (history (p.withStore store) (h.withStore state) actions).map Event.report = (history p h actions).map Event.report := by
  induction actions generalizing h state with
  | nil => exact ⟨⟨state, rfl⟩, rfl⟩
  | cons a actions ih =>
    obtain ⟨state', hstep⟩ := step_withStore p store h state a
    obtain ⟨hrun, hreports⟩ := ih (h.step p a).1 state'
    simp only [run, List.foldl_cons, history, List.map_cons, event, hstep]
    exact ⟨hrun, congrArg _ hreports⟩

/-! ## What the store is given -/

/-- a session sends a chat message in an event, and the hub accepts it: the session may post it. The row of the message
says where it went, who it is from as the hub knows them, what it says and when it came. -/
structure Event.Accepts (p : Policy σ) (e : Event σ) (id : SessionId) (s : Session) (envelope : Inbound)
    (row : StoredMessage) : Prop where
  brought : inbound? p e.action = some (id, envelope)
  session : e.before.board.session? id = some s
  kind : envelope.kind = .message
  posted : s.MayPost envelope row.room row.body
  sender : row.sender = s.sender
  createdAt : row.createdAt = e.before.now

/-- the row that the store is given in an event, if it is given one -/
def Event.row? (p : Policy σ) (e : Event σ) : Option StoredMessage :=
  (e.before.turn p e.action).chat.bind StoredMessage.ofEnvelope?

theorem chat_connectTurn (h : Hub σ) (id : SessionId) (s : Session) : (h.connectTurn id s).chat = none := by
  unfold connectTurn
  simp only
  split <;> rfl

/-- only what a session sends is a live chat message -/
theorem chat_turn_of_no_inbound {p : Policy σ} (h : Hub σ) {a : Action} (hin : inbound? p a = none) :
    (h.turn p a).chat = none := by
  cases a with
  | text id frame => rw [turn, hin, inboundTurn]
  | envelope id e => cases hin
  | create id s =>
    simp only [turn]
    split <;> rfl
  | connect id s =>
    simp only [turn]
    split
    · rfl
    · exact chat_connectTurn h id s
  | publish publisher e => exact chat_publishTurn h publisher e
  | announce id room =>
    simp only [turn]
    split <;> rfl
  | _ => rfl

/-- and of what a session sends, only an envelope with a message -/
theorem chat_envelopeTurn (h : Hub σ) (id : SessionId) {e : Inbound} (hkind : e.kind ≠ .message) :
    (h.envelopeTurn id e).chat = none := by
  unfold envelopeTurn
  split
  · rfl
  · rename_i s _
    have htyping : (h.typingTurn id s e).chat = none := by
      unfold typingTurn
      split <;> rfl
    split
    · exact absurd ‹_› hkind
    · exact htyping
    · exact htyping
    · unfold joinTurn
      split
      · rfl
      · split <;> rfl
    · unfold leaveTurn
      split <;> rfl
    · rfl
    · rfl
    · rfl

/-- an accepted message is sent out as its row says, to its room and to the staff that listens -/
theorem Event.Accepts.turn_eq {p : Policy σ} {e : Event σ} {id : SessionId} {s : Session} {envelope : Inbound}
    {row : StoredMessage} (h : e.Accepts p id s envelope row) :
    e.before.turn p e.action =
      ⟨e.before.board, [.route (.roomAndListeners row.room .staff) (row.sent envelope.data) (some id)],
        some (row.sent envelope.data)⟩ := by
  have hturn : e.before.envelopeTurn id envelope = e.before.messageTurn id s envelope := by
    simp only [envelopeTurn, h.session, h.kind]
  rw [turn_of_inbound p e.before h.brought, hturn, messageTurn_of_mayPost e.before id h.posted, StoredMessage.sent,
    h.sender, h.createdAt]

/-- once a message is accepted, the board is what sending it to its audience makes of it -/
theorem Event.Accepts.outcome_eq {p : Policy σ} {h : Hub σ} {a : Action} {id : SessionId} {s : Session}
    {envelope : Inbound} {row : StoredMessage} (haccepts : (h.event p a).Accepts p id s envelope row) :
    (h.turn p a).chat = some (row.sent envelope.data) ∧ (h.step p a).1.board = (h.turn p a).outcome ∧
      (h.turn p a).outcome =
        (h.board.routeTo (.roomAndListeners row.room .staff) (row.sent envelope.data) (some id)).1 := by
  have hturn : h.turn p a = _ := haccepts.turn_eq
  refine ⟨by rw [hturn], step_board p h a, ?_⟩
  rw [hturn]
  rfl

/-- **The store is given a row exactly when the hub accepts a live message.** -/
theorem row?_eq_some_iff (p : Policy σ) (e : Event σ) (row : StoredMessage) :
    e.row? p = some row ↔ ∃ id s envelope, e.Accepts p id s envelope row := by
  constructor
  · intro hrow
    obtain ⟨out, hchat, hout⟩ := Option.bind_eq_some_iff.1 hrow
    cases hin : inbound? p e.action with
    | none =>
      rw [chat_turn_of_no_inbound e.before hin] at hchat
      cases hchat
    | some brought =>
      obtain ⟨id, envelope⟩ := brought
      rw [turn_of_inbound p e.before hin] at hchat
      by_cases hkind : envelope.kind = .message
      · cases hs : e.before.board.session? id with
        | none =>
          simp only [envelopeTurn, hs] at hchat
          cases hchat
        | some s =>
          simp only [envelopeTurn, hs, hkind] at hchat
          by_cases hpost : ∃ q message, s.MayPost envelope q message
          · obtain ⟨q, message, hpost⟩ := hpost
            rw [messageTurn_of_mayPost e.before id hpost] at hchat
            cases hchat
            cases hout
            exact ⟨id, s, envelope, hin, hs, hkind, hpost, rfl, rfl⟩
          · rw [messageTurn_of_not_mayPost e.before id hpost] at hchat
            cases hchat
      · rw [chat_envelopeTurn e.before id hkind] at hchat
        cases hchat
  · rintro ⟨id, s, envelope, haccepts⟩
    rw [Event.row?, haccepts.turn_eq]
    rfl

theorem store_connect (h : Hub σ) (id : SessionId) (s : Session) : (h.connect id s).1.store = h.store := by
  unfold connect
  simp only
  split
  · rfl
  · split <;> rfl

theorem store_publish (h : Hub σ) (publisher : Sender) (e : Inbound) : (h.publish publisher e).1.store = h.store := by
  rw [publish_eq_withBoard, withBoard]

/-- nothing is stored but what a session sends -/
theorem store_step_of_no_inbound {p : Policy σ} (h : Hub σ) {a : Action} (hin : inbound? p a = none) :
    (h.step p a).1.store = h.store := by
  cases a with
  | text id frame =>
    simp only [inbound?] at hin
    simp only [step, handleText]
    rcases hdecoded : Inbound.decode p.maxMessageBytes frame with reason | decoded
    · rfl
    · cases decoded with
      | envelope e =>
        rw [hdecoded] at hin
        cases hin
      | unknown type => rfl
  | envelope id e => cases hin
  | create id s =>
    simp only [step]
    split <;> rfl
  | connect id s =>
    simp only [step]
    split
    · rfl
    · exact store_connect h id s
  | publish publisher e => exact store_publish h publisher e
  | announce id room =>
    simp only [step]
    split <;> rfl
  | notify out => exact store_notify p h out
  | _ => rfl

theorem store_perform (p : Policy σ) (h : Hub σ) (t : Turn) :
    (h.perform p t).store = p.store.persistAll (t.chat.bind StoredMessage.ofEnvelope?).toList h.store := by
  unfold perform
  cases t.chat with
  | none => rfl
  | some out =>
    simp only [store_notify, Option.bind_some]
    simp only [withBoard, persist]
    cases StoredMessage.ofEnvelope? out <;> rfl

/-- **The store is given the row of an event, if there is one, and nothing else.** -/
theorem step_store (p : Policy σ) (h : Hub σ) (a : Action) :
    (h.step p a).1.store = p.store.persistAll ((h.event p a).row? p).toList h.store := by
  cases hin : inbound? p a with
  | none =>
    rw [store_step_of_no_inbound h hin, Event.row?, event, chat_turn_of_no_inbound h hin]
    rfl
  | some brought => exact (congrArg Hub.store (step_eq_perform p h hin)).trans (store_perform p h _)

theorem run_store (p : Policy σ) (h : Hub σ) (actions : List Action) :
    (run p h actions).store = p.store.persistAll ((history p h actions).filterMap (Event.row? p)) h.store := by
  induction actions generalizing h with
  | nil => rfl
  | cons a actions ih =>
    have hrows : (history p h (a :: actions)).filterMap (Event.row? p) =
        ((h.event p a).row? p).toList ++ (history p (h.step p a).1 actions).filterMap (Event.row? p) := by
      rw [history, List.filterMap_cons]
      cases (h.event p a).row? p <;> rfl
    rw [hrows, Store.persistAll_append, ← step_store]
    exact ih (h.step p a).1

theorem rows_withStore (p : Policy σ) (store : Store τ) (h : Hub σ) (state : τ) (actions : List Action) :
    (history (p.withStore store) (h.withStore state) actions).filterMap (Event.row? (p.withStore store)) =
      (history p h actions).filterMap (Event.row? p) := by
  induction actions generalizing h state with
  | nil => rfl
  | cons a actions ih =>
    obtain ⟨state', hstep⟩ := step_withStore p store h state a
    have hrow : ((h.withStore state).event (p.withStore store) a).row? (p.withStore store) = (h.event p a).row? p := by
      cases a <;> rfl
    rw [history, history, List.filterMap_cons, List.filterMap_cons, hrow, hstep, ih]

/-- what the store is given in a run -/
structure StoresAccepted (p : Policy σ) (h : Hub σ) (actions : List Action) : Prop where
  /-- the store is called once for each row, in the order of the events -/
  calls : (run (p.withStore p.store.logged) (h.withStore ([], h.store)) actions).store.1 =
    (history p h actions).filterMap (Event.row? p)
  /-- it is left as these calls leave it -/
  state : (run p h actions).store = p.store.persistAll ((history p h actions).filterMap (Event.row? p)) h.store
  /-- an event has a row when the hub accepts a live message in it, and then only -/
  rows : ∀ e ∈ history p h actions, ∀ row, e.row? p = some row ↔ ∃ id s envelope, e.Accepts p id s envelope row
  /-- an accepted message is sent as its row says, to its room and to the staff that listens -/
  sent : ∀ e ∈ history p h actions, ∀ id s envelope row, e.Accepts p id s envelope row → e.after.board =
    (e.before.board.routeTo (.roomAndListeners row.room .staff) (row.sent envelope.data) (some id)).1

theorem run_storesAccepted (p : Policy σ) (h : Hub σ) (actions : List Action) : StoresAccepted p h actions where
  calls := by
    rw [run_store, rows_withStore]
    exact congrArg Prod.fst (Store.persistAll_logged p.store _ [] h.store)
  state := run_store p h actions
  rows e _ row := row?_eq_some_iff p e row
  sent e he id s envelope row haccepts := by
    obtain ⟨g, a, -, -, rfl⟩ : ∃ g : Hub σ, ∃ a ∈ actions, True ∧ e = g.event p a :=
      of_mem_history trivial (fun _ _ _ _ => trivial) he
    obtain ⟨-, hboard, houtcome⟩ := haccepts.outcome_eq
    exact hboard.trans houtcome

/-- **Accepted messages are stored once, and the store has no say.** In every run, the store is called once for each live
message that the hub accepts, in the order in which it accepts them, with the room, the sender, the text and the time
that the message is sent out with, and for nothing else. Over any other store, whatever it makes of what it is given,
the same run leaves the same sessions, memberships and notices, and its actions report the same. -/
theorem accepted_messages_stored (p : Policy σ) (h : Hub σ) (actions : List Action) :
    StoresAccepted p h actions ∧ ∀ (τ : Type) (store : Store τ) (state : τ),
      (∃ state', run (p.withStore store) (h.withStore state) actions = (run p h actions).withStore state') ∧
        (history (p.withStore store) (h.withStore state) actions).map Event.report =
          (history p h actions).map Event.report :=
  ⟨run_storesAccepted p h actions, fun _ store state => run_withStore p store h state actions⟩

/-- a store that refuses all that it is given: of what ann sends, one message is accepted, and it goes out -/
theorem accepted_messages_stored_by_failing_store :
    let ann : SessionId := ⟨"ann"⟩
    let sue : SessionId := ⟨"sue"⟩
    let q := RoomId.ofNat 7
    let session (name : String) (role : Role) (room : Option RoomId) : Session :=
      { identity := ⟨name⟩, role, currentRoom := room, outbox := .ofCapacity 8 }
    let message (text : String) : Inbound := ⟨.message, none, some text, none⟩
    let p : Policy Memory := ⟨Store.memory, {}, 1000⟩
    let h : Hub Memory := start { failing := true } 5 true
    let before : List Action := [.connect ann (session "ann" .customer (some q)), .connect sue (session "sue" .staff none)]
    let later : List Action := [.envelope ann ⟨.typingStart, none, none, none⟩, .envelope ann (message " "),
      .publish ⟨.system, .system⟩ ⟨.message, some (.string q.text), some "news", none⟩]
    let actions := before ++ .envelope ann (message "hi") :: later
    let e := (run p h before).event p (.envelope ann (message "hi"))
    let row : StoredMessage := ⟨q, ⟨⟨"ann"⟩, .customer⟩, "hi", 5⟩
    StoresAccepted p h actions ∧ e ∈ history p h actions ∧ (∃ s, e.Accepts p ann s (message "hi") row) ∧
      (run (p.withStore p.store.logged) (h.withStore ([], h.store)) actions).store.1 = [row] ∧
      (run p h actions).store.messages = [] ∧
      ((run p h actions).board.session? sue).map (fun s => s.outbox.waiting.map Outbound.message) =
        some [some "hi", some "news"] := by
  intro ann sue q session message p h before later actions e row
  have hstored := (accepted_messages_stored p h actions).1
  have he : e ∈ history p h actions := .tail _ (.tail _ (.head _))
  have hrow : e.row? p = some row := by decide +kernel
  obtain ⟨id, s, envelope, haccepts⟩ := (hstored.rows e he row).1 hrow
  have hbrought := haccepts.brought
  cases hbrought
  exact ⟨hstored, he, ⟨s, haccepts⟩, by decide +kernel, by decide +kernel, by decide +kernel⟩

end Hub
end ErrandHub
