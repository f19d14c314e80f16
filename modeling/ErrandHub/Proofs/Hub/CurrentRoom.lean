/-
The room that the reader of a session takes it to be in is the room that it is in.

The reader keeps the room of its session to itself, and what a customer may post is decided by that copy alone. In a
run in which sessions move only of their own accord (`ownMoves`), the copy and the registry agree after every action,
for as long as the session is registered (`run_inStep`). So a customer who is registered posts into the room where the
registry lists it, or not at all, whatever room its envelopes name (`envelopeTurn_posted`).

`readers_in_step` says both of every state that such a run leads to.
-/
import Mathlib.Tactic
import ErrandHub.Proofs.Hub.Soundness
import ErrandHub.Store.Memory

namespace ErrandHub

/-- whether envelopes of a kind are posted by a session into a room: messages and typing -/
def Kind.isPosted : Kind → Bool
  | .message | .typingStart | .typingStop => true
  | _ => false

/-- an envelope that is posted, if it is one, carries the room that a registry lists a session in -/
def Outbound.PostedWhere (e : Outbound) (r : Registry) (id : SessionId) : Prop :=
  e.kind.isPosted = true → ∃ q, e.room = some q ∧ r.roomOf id = some q ∧ id ∈ r.members q

namespace Hub

variable {σ : Type}

/-! ## Runs in which sessions move of their own accord -/

/-- whether all actions of a run leave it to each session to move -/
def ownMoves (p : Policy σ) (h : Hub σ) : List Action → Bool
  | [] => true
  | a :: actions => h.ownMove a && ownMoves p (h.step p a).1 actions

theorem run_sound (p : Policy σ) {Rel : Session → Entry → Prop} (hrel : Session.Tracks Rel) {h : Hub σ}
    (hs : h.board.Sound Rel) (actions : List Action) (hmoves : ownMoves p h actions = true) :
    (run p h actions).board.Sound Rel := by
  induction actions generalizing h with
  | nil => exact hs
  | cons a actions ih =>
    obtain ⟨ha, hrest⟩ := (Bool.and_eq_true _ _).mp hmoves
    exact ih (step_sound p hrel hs a ha) hrest

theorem run_inStep (p : Policy σ) (store : σ) (now : Int64) (running : Bool) (actions : List Action)
    (hmoves : ownMoves p (start store now running) actions = true) :
    (run p (start store now running) actions).board.Sound Session.InStep :=
  run_sound p Session.tracks_inStep (start_sound store now running) actions hmoves

/-! ## What customers post -/

/-- a customer may post into the room that its reader takes it to be in, and nowhere else -/
theorem postableRoom_customer {s : Session} (hrole : s.role = .customer) {raw : Option Json} {q : RoomId}
    (hq : postableRoom s raw = some q) : s.currentRoom = some q := by
  unfold postableRoom at hq
  obtain ⟨-, hfilter⟩ := Option.filter_eq_some_iff.1 hq
  simpa [hrole] using hfilter

theorem not_posted_joinPosts {now : Int64} {id : SessionId} {s : Session} {room : RoomId} {report : Joined} {q : Post}
    (hq : q ∈ joinPosts now id s room report) : q.envelope.kind.isPosted = false := by
  rcases mem_joinPosts hq with ⟨-, rfl⟩ | ⟨prev, rfl⟩ | rfl | rfl <;> rfl

/-- whatever a turn posts carries the room that the registry lists a session in -/
structure PostsWhere (t : Turn) (r : Registry) (id : SessionId) : Prop where
  sent : ∀ q ∈ t.posts, q.envelope.PostedWhere r id
  chat : ∀ e, t.chat = some e → e.PostedWhere r id

theorem PostsWhere.of_not_posted {t : Turn} {r : Registry} {id : SessionId}
    (hsent : ∀ q ∈ t.posts, q.envelope.kind.isPosted = false) (hchat : t.chat = none) : PostsWhere t r id := by
  refine ⟨fun q hq hposted => ?_, fun e he => ?_⟩
  · rw [hsent q hq] at hposted
    cases hposted
  · rw [hchat] at he
    cases he

/-- **A registered customer posts where it is.** An envelope of a customer whose reader is in step with the registry
is posted into the room where the registry lists the customer, whatever room it names, or it is not posted. -/
theorem envelopeTurn_posted {h : Hub σ} (hs : h.board.Sound Session.InStep) {id : SessionId} {entry : Entry}
    (hid : h.board.registry.sessions.get? id = some entry) (hrole : entry.role = .customer) (e : Inbound) :
    PostsWhere (h.envelopeTurn id e) h.board.registry id := by
  obtain ⟨s, hsome, hstep⟩ := hs.known id entry hid
  have hcustomer : s.role = .customer := hstep.role.trans hrole
  -- an envelope that goes into the room that the reader takes the session to be in goes where the registry lists it
  have hposted : ∀ (out : Outbound) (q : RoomId), out.room = some q → postableRoom s e.room = some q →
      out.PostedWhere h.board.registry id := by
    intro out q hroom hq _
    have hlisted : h.board.registry.roomOf id = some q := by
      rw [Registry.roomOf_eq_some_iff]
      exact ⟨entry, hid, hstep.room.symm.trans (postableRoom_customer hcustomer hq)⟩
    refine ⟨q, hroom, hlisted, ?_⟩
    rw [hs.consistent.mem_members_iff, Registry.placeOf?_eq_room_iff]
    exact hlisted
  have htyping : PostsWhere (h.typingTurn id s e) h.board.registry id := by
    unfold typingTurn
    split
    · rename_i q hq
      refine ⟨fun post hpost => ?_, fun out hout => by cases hout⟩
      rw [List.mem_singleton.1 hpost]
      exact hposted _ q rfl hq
    · exact .of_not_posted (by simp) rfl
  unfold envelopeTurn
  simp only [hsome]
  split
  · unfold messageTurn
    split
    · rename_i message q _ hq
      refine ⟨fun post hpost => ?_, fun out hout => ?_⟩
      · rw [List.mem_singleton.1 hpost]
        exact hposted _ q rfl hq
      · cases hout
        exact hposted _ q rfl hq
    · exact .of_not_posted (by simp) rfl
  · exact htyping
  · exact htyping
  -- what else there is to send is neither a message nor typing
  · unfold joinTurn
    split
    · exact .of_not_posted (by simp) rfl
    · split
      · exact .of_not_posted (by simp) rfl
      · exact .of_not_posted (fun q hq => not_posted_joinPosts hq) rfl
  · unfold leaveTurn
    split
    · exact .of_not_posted (by simp) rfl
    · exact .of_not_posted (by simp) rfl
    · refine .of_not_posted (fun q hq => ?_) rfl
      rcases List.mem_cons.1 hq with rfl | hq
      · rfl
      · rw [List.mem_singleton.1 hq]
        rfl
  · refine .of_not_posted (fun q hq => ?_) rfl
    rw [List.mem_singleton.1 hq]
    rfl
  · exact .of_not_posted (by simp) rfl
  · exact .of_not_posted (by simp) rfl

/-- a hub whose readers know where their sessions are, and whose customers post there -/
structure ReadersInStep (p : Policy σ) (h : Hub σ) : Prop where
  /-- a registered session is there, and its reader takes it to be in the room that the registry lists it in -/
  current : ∀ id entry, h.board.registry.sessions.get? id = some entry →
    ∃ s, h.board.session? id = some s ∧ s.Owns entry ∧ s.currentRoom = h.board.registry.roomOf id
  /-- an action that brings an envelope of a registered customer comes to its turn, and the messages and the typing in
  it, sent, stored or announced, carry the room that the registry lists the customer in -/
  posted : ∀ a id e entry, inbound? p a = some (id, e) → h.board.registry.sessions.get? id = some entry →
    entry.role = .customer →
      (h.step p a).1 = h.perform p (h.turn p a) ∧ PostsWhere (h.turn p a) h.board.registry id

/-- **The reader's room never drifts from the registry.** In a run in which each session is registered where its reader
takes it to be and moves by its own envelopes only, whatever else happens between them, the reader of every registered
session knows the room that the registry lists it in, and what a registered customer posts carries that room. -/
theorem readers_in_step (p : Policy σ) (store : σ) (now : Int64) (running : Bool) (actions : List Action)
    (hmoves : ownMoves p (start store now running) actions = true) :
    ReadersInStep p (run p (start store now running) actions) := by
  have hs := run_inStep p store now running actions hmoves
  refine ⟨fun id entry hid => ?_, fun a id e entry hin hid hrole => ⟨step_eq_perform p _ hin, ?_⟩⟩
  · obtain ⟨s, hsome, hstep⟩ := hs.known id entry hid
    refine ⟨s, hsome, hstep.toOwns, ?_⟩
    rw [hstep.room, Registry.roomOf, hid]
    rfl
  · rw [turn_of_inbound p _ hin]
    exact envelopeTurn_posted hs hid hrole e

/-- a customer moves about, twice to no effect; what it posts into the room that it left is dropped, and what it posts
without naming a room goes where it is -/
theorem readers_in_step_moves :
    let ann : SessionId := ⟨"ann"⟩
    let send (kind : Kind) (room : Option Int) (message : Option String) : Action :=
      .envelope ann ⟨kind, room.map fun n => .number (.integer n), message, none⟩
    let p : Policy Unit := ⟨Store.disabled, {}, 1000⟩
    let actions : List Action :=
      [.connect ann { identity := ⟨"ann"⟩, role := .customer, currentRoom := some (.ofNat 7), outbox := .ofCapacity 9 },
        send .joinRoom (some 8) none, send .joinRoom (some 8) none, send .leaveRoom none none,
        send .leaveRoom none none, send .joinRoom (some 9) none]
    let h := run p (start () 0 true) actions
    ownMoves p (start () 0 true) actions = true ∧ ReadersInStep p h ∧
      h.board.registry.roomOf ann = some (.ofNat 9) ∧
      (h.turn p (send .message (some 8) (some "hello"))).posts.length = 0 ∧
      (h.turn p (send .message none (some "hello"))).posts.map (fun q => q.envelope.room) = [some (.ofNat 9)] := by
  intro ann send p actions h
  have hmoves : ownMoves p (start () 0 true) actions = true := by decide +kernel
  exact ⟨hmoves, readers_in_step p () 0 true actions hmoves, by decide +kernel, by decide +kernel, by decide +kernel⟩

end Hub
end ErrandHub
