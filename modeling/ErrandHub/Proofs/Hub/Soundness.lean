/-
What the registry knows of its sessions, in every state that a hub gets into.

An entry of the registry tells whose its session is (`Session.Owns`). If sessions move only of their own accord, it
also tells the room that the reader of the session takes it to be in (`Session.InStep`). Both are relations that a
registration sets up and that a reader and the moves of its session keep (`Session.Tracks`), so one argument does for
both: a change of the registry is a move of one session (`Sound.change`), and everything else that an action changes
on its own leaves the registry alone.

- `Board.Moved`: all that an envelope of a session changes on its own.
- `step_sound`: an action keeps such a relation, unless somebody else moves a session (`ownMove`).
- `run_owned`: every entry of every reachable registry tells whose its session is.
-/
import Mathlib.Tactic
import ErrandHub.Proofs.Hub.Turn

namespace ErrandHub

namespace Session

/-- the entry of a session tells whose it is -/
structure Owns (s : Session) (entry : Entry) : Prop where
  identity : s.identity = entry.identity
  role : s.role = entry.role

/-- the entry of a session tells whose it is, and the room that its reader takes it to be in -/
structure InStep (s : Session) (entry : Entry) : Prop extends Owns s entry where
  room : s.currentRoom = entry.room

/-- a relation between sessions and entries that comes with registration and survives what sessions do -/
structure Tracks (Rel : Session → Entry → Prop) : Prop where
  reader : ∀ s t entry, s.SameReader t → Rel s entry → Rel t entry
  register : ∀ s, Rel s ⟨s.identity, s.role, s.currentRoom⟩
  move : ∀ s entry room, Rel s entry → Rel { s with currentRoom := room } { entry with room }

theorem tracks_owns : Tracks Owns where
  reader _ _ _ hst h := ⟨hst.identity.trans h.identity, hst.role.trans h.role⟩
  register _ := ⟨rfl, rfl⟩
  move _ _ _ h := ⟨h.identity, h.role⟩

theorem tracks_inStep : Tracks InStep where
  reader s t entry hst h := ⟨tracks_owns.reader s t entry hst h.toOwns, hst.currentRoom.trans h.room⟩
  register _ := ⟨⟨rfl, rfl⟩, rfl⟩
  move _ _ _ h := ⟨⟨h.identity, h.role⟩, rfl⟩

theorem sameReader_activate (s : Session) : s.SameReader s.activate := by
  unfold activate
  split_ifs <;> exact ⟨⟨rfl, rfl⟩, rfl⟩

end Session

namespace Board

variable {b b' : Board} {Rel : Session → Entry → Prop}

/-! ## Changes of a board -/

theorem Sound.adjust (h : b.Sound Rel) (id : SessionId) (f : Session → Session)
    (hf : ∀ s entry, b.registry.sessions.get? id = some entry → Rel s entry → Rel (f s) entry) :
    (b.adjust id f).Sound Rel := by
  refine ⟨h.consistent, fun j entry he => ?_⟩
  obtain ⟨s, hs, hse⟩ := h.known j entry he
  by_cases hj : id = j
  · subst hj
    exact ⟨f s, by rw [session?_adjust, if_pos rfl, hs]; rfl, hf s entry he hse⟩
  · exact ⟨s, by rw [session?_adjust, if_neg hj, hs], hse⟩

/-- a change of one session that its reader and its owner do not notice -/
theorem Sound.adjust_sameReader (h : b.Sound Rel) (hrel : Session.Tracks Rel) (id : SessionId)
    {f : Session → Session} (hf : ∀ s : Session, s.SameReader (f s)) : (b.adjust id f).Sound Rel :=
  h.adjust id f fun s entry _ hse => hrel.reader s (f s) entry (hf s) hse

theorem Sound.insert (h : b.Sound Rel) {id : SessionId} (hid : b.session? id = none) (s : Session) :
    ({ b with sessions := b.sessions.insert id s } : Board).Sound Rel := by
  refine ⟨h.consistent, fun j entry he => ?_⟩
  obtain ⟨t, ht, hte⟩ := h.known j entry he
  have hj : id ≠ j := by
    rintro rfl
    rw [hid] at ht
    cases ht
  exact ⟨t, by rw [session?, Table.get?_insert, if_neg hj]; exact ht, hte⟩

/-- a move of one session in the registry, whatever becomes of that session itself -/
theorem Sound.change (h : b.Sound Rel) {id : SessionId} {entry : Option Entry}
    (m : Registry.Moves b.registry b'.registry id entry) (hother : ∀ j, id ≠ j → b'.session? j = b.session? j)
    (hid : ∀ e, entry = some e → ∃ s, b'.session? id = some s ∧ Rel s e) : b'.Sound Rel := by
  refine ⟨m.consistent h.consistent, fun j e he => ?_⟩
  rw [m.get?] at he
  by_cases hj : id = j
  · subst hj
    rw [if_pos rfl] at he
    exact hid e he
  · rw [if_neg hj] at he
    obtain ⟨s, hs, hse⟩ := h.known j e he
    exact ⟨s, (hother j hj).trans hs, hse⟩

theorem Sound.posts (h : b.Sound Rel) (hrel : Session.Tracks Rel) (qs : List Post) : (b.posts qs).Sound Rel := by
  induction qs generalizing b with
  | nil => exact h
  | cons q qs ih => exact ih (h.post hrel.reader q)

theorem Sound.register (h : b.Sound Rel) (id : SessionId) (room : Option RoomId)
    (hroom : ∀ s, b.session? id = some s → Rel s ⟨s.identity, s.role, room⟩) : (b.register id room).1.Sound Rel := by
  unfold Board.register
  split
  · rename_i s _ hs
    rcases b.registry.register_cases id ⟨s.identity, s.role, room⟩ with ⟨-, he⟩ | ⟨-, m⟩
    · rw [he]
      exact h
    · refine h.change m (fun j _ => rfl) fun e he => ?_
      cases he
      exact ⟨s, hs, hroom s hs⟩
  · exact h

theorem Sound.unregister (h : b.Sound Rel) (id : SessionId) : (b.unregister id).1.Sound Rel := by
  by_cases hr : b.running = true
  · have m := Registry.unregister_moves b.registry id
    rw [← b.registry_unregister hr] at m
    refine h.change m (fun j hj => ?_) fun e he => by cases he
    rw [b.session?_unregister hr, if_neg fun hc => hj hc.1]
  · rw [Board.unregister, if_neg hr]
    exact h

theorem join_cases (b : Board) (id : SessionId) (q : RoomId) :
    (∃ reason, b.join id q = (b, .error reason)) ∨
    (∃ e, b.registry.sessions.get? id = some e ∧ e.room = some q ∧ b.join id q = (b, .ok ⟨none, false, true⟩)) ∨
    (∃ e r' created, b.registry.sessions.get? id = some e ∧
      Registry.Moves b.registry r' id (some { e with room := some q }) ∧
      b.join id q = ({ b with registry := r' }, .ok ⟨e.room, created, false⟩)) := by
  unfold Board.join
  split_ifs with hr
  · rcases b.registry.join_cases id q with ⟨-, he⟩ | ⟨e, hid, hq, he⟩ | ⟨e, r', hid, -, m, he⟩
    · exact Or.inl ⟨_, by rw [he]⟩
    · exact Or.inr (Or.inl ⟨e, hid, hq, by rw [he]⟩)
    · exact Or.inr (Or.inr ⟨e, r', _, hid, m, by rw [he]⟩)
  · exact Or.inl ⟨_, rfl⟩

theorem leave_cases (b : Board) (id : SessionId) :
    (∃ reason, b.leave id = (b, .error reason)) ∨
    (∃ e, b.registry.sessions.get? id = some e ∧ e.room = none ∧ b.leave id = (b, .ok none)) ∨
    (∃ e q r', b.registry.sessions.get? id = some e ∧ e.room = some q ∧
      Registry.Moves b.registry r' id (some { e with room := none }) ∧
      b.leave id = ({ b with registry := r' }, .ok (some q))) := by
  unfold Board.leave
  split_ifs with hr
  · rcases b.registry.leave_cases id with ⟨-, he⟩ | ⟨e, hid, hq, he⟩ | ⟨e, q, r', hid, hq, m, he⟩
    · exact Or.inl ⟨_, by rw [he]⟩
    · exact Or.inr (Or.inl ⟨e, hid, hq, by rw [he]⟩)
    · exact Or.inr (Or.inr ⟨e, q, r', hid, hq, m, by rw [he]⟩)
  · exact Or.inl ⟨_, rfl⟩

/-- what an envelope of a session changes on its own: nothing, or the room of its session -/
inductive Moved (b : Board) (id : SessionId) : Board → Prop where
  | unchanged : Moved b id b
  /-- the session is where it wishes to be, and its reader is told so -/
  | stayed {entry : Entry} {room : Option RoomId} (registered : b.registry.sessions.get? id = some entry)
      (here : entry.room = room) : Moved b id (b.adjust id fun s => { s with currentRoom := room })
  /-- the session moves to another room, and its reader with it -/
  | moved {entry : Entry} {room : Option RoomId} {r' : Registry}
      (registered : b.registry.sessions.get? id = some entry)
      (moves : Registry.Moves b.registry r' id (some { entry with room })) :
      Moved b id (({ b with registry := r' } : Board).adjust id fun s => { s with currentRoom := room })

theorem Sound.of_moved (h : b.Sound Rel) (hrel : Session.Tracks Rel) {id : SessionId} (m : b.Moved id b') :
    b'.Sound Rel := by
  cases m with
  | unchanged => exact h
  | @stayed entry room hid hroom =>
    refine h.adjust id _ fun s entry' he hse => ?_
    rw [hid] at he
    cases he
    subst hroom
    exact hrel.move s entry entry.room hse
  | @moved entry room r' hid m =>
    obtain ⟨s, hs, hse⟩ := h.known id entry hid
    refine h.change m (fun j hj => ?_) fun e' he' => ?_
    · rw [session?_adjust, if_neg hj]
      rfl
    · cases he'
      refine ⟨{ s with currentRoom := room }, ?_, hrel.move s entry room hse⟩
      rw [session?_adjust, if_pos rfl, show ({ b with registry := r' } : Board).session? id = some s from hs]
      rfl

/-- whoever moves a session in the registry, it stays whose it is -/
theorem Sound.relocate (h : b.Sound Session.Owns) {id : SessionId} {entry : Entry} {room : Option RoomId}
    {r' : Registry} (hid : b.registry.sessions.get? id = some entry)
    (m : Registry.Moves b.registry r' id (some { entry with room })) :
    ({ b with registry := r' } : Board).Sound Session.Owns := by
  obtain ⟨s, hs, hse⟩ := h.known id entry hid
  refine h.change m (fun j _ => rfl) fun e' he' => ?_
  cases he'
  exact ⟨s, hs, hse.identity, hse.role⟩

end Board

namespace Hub

variable {σ : Type} {Rel : Session → Entry → Prop}

/-! ## One action -/

/-- whether an action leaves it to each session to move: nobody else moves one, and one that is registered goes where
its reader takes it to be -/
def ownMove (h : Hub σ) : Action → Bool
  | .register id room => (h.board.session? id).all fun s => s.currentRoom = room
  | .join .. | .leave _ => false
  | _ => true

theorem joinTurn_moved (h : Hub σ) (id : SessionId) (s : Session) (e : Inbound) :
    h.board.Moved id (h.joinTurn id s e).board := by
  unfold joinTurn
  split
  · exact .unchanged
  · rename_i room _
    rcases h.board.join_cases id room with ⟨reason, he⟩ | ⟨entry, hid, hq, he⟩ | ⟨entry, r', created, hid, m, he⟩
    · rw [he]
      exact .unchanged
    · rw [he]
      exact .stayed hid hq
    · rw [he]
      exact .moved hid m

theorem leaveTurn_moved (h : Hub σ) (id : SessionId) (s : Session) :
    h.board.Moved id (h.leaveTurn id s).board := by
  unfold leaveTurn
  rcases h.board.leave_cases id with ⟨reason, he⟩ | ⟨entry, hid, hq, he⟩ | ⟨entry, q, r', hid, -, m, he⟩
  · rw [he]
    exact .unchanged
  · rw [he]
    exact .stayed hid hq
  · rw [he]
    exact .moved hid m

theorem envelopeTurn_moved (h : Hub σ) (id : SessionId) (e : Inbound) :
    h.board.Moved id (h.envelopeTurn id e).board := by
  unfold envelopeTurn
  split
  · exact .unchanged
  · split
    · rw [board_messageTurn]
      exact .unchanged
    · rw [board_typingTurn]
      exact .unchanged
    · rw [board_typingTurn]
      exact .unchanged
    · exact joinTurn_moved h id _ e
    · exact leaveTurn_moved h id _
    · exact .unchanged
    · exact .unchanged
    · exact .unchanged

theorem connectTurn_sound (hrel : Session.Tracks Rel) {h : Hub σ} (hs : h.board.Sound Rel) {id : SessionId}
    (hid : h.board.session? id = none) (s : Session) : (h.connectTurn id s).board.Sound Rel := by
  have hin := hs.insert hid s
  have hreg := hin.register id s.currentRoom fun t ht => by
    rw [Board.session?, Table.get?_insert, if_pos rfl] at ht
    cases ht
    exact hrel.register s
  unfold connectTurn
  simp only
  split
  · rename_i b reason he
    rw [he] at hreg
    exact hreg.adjust_sameReader hrel id fun t => (t.sameReader_drain).trans ⟨⟨rfl, rfl⟩, rfl⟩
  · rename_i b report he
    rw [he] at hreg
    exact hreg.adjust_sameReader hrel id Session.sameReader_activate

/-- what an action changes on its own keeps what the registry knows of its sessions -/
theorem turn_sound (p : Policy σ) (hrel : Session.Tracks Rel) {h : Hub σ} (hs : h.board.Sound Rel) (a : Action)
    (ha : h.ownMove a = true) : (h.turn p a).board.Sound Rel := by
  have hin : (h.inboundTurn (inbound? p a)).board.Sound Rel := by
    refine inboundTurn_induction (P := fun t => t.board.Sound Rel) hs (fun id e => ?_) _
    exact hs.of_moved hrel (envelopeTurn_moved h id e)
  -- phases and outboxes are no part of what `Rel` tracks
  have hadjust : ∀ id {f : Session → Session}, (∀ s : Session, s.SameReader (f s)) → (h.board.adjust id f).Sound Rel :=
    fun id _ hf => hs.adjust_sameReader hrel id hf
  cases a with
  | text id frame => exact hin
  | envelope id e => exact hin
  | create id s =>
    simp only [turn]
    split
    · exact hs
    · exact hs.insert ‹_› s
  | connect id s =>
    simp only [turn]
    split
    · exact hs
    · exact connectTurn_sound hrel hs ‹_› s
  | register id room =>
    refine hs.register id room fun s hsome => ?_
    simp only [ownMove, hsome, Option.all_some, decide_eq_true_eq] at ha
    exact ha ▸ hrel.register s
  | unregister id => exact hs.unregister id
  -- a session that somebody else moves may be out of step with its reader, and `ownMove` rules that out
  | join id room => cases ha
  | leave id => cases ha
  | publish publisher e =>
    simp only [turn, board_publishTurn]
    exact hs
  | announce id room =>
    simp only [turn]
    split <;> exact hs
  | drain id => exact hadjust id Session.sameReader_drain
  | activate id => exact hadjust id Session.sameReader_activate
  | close id => exact hadjust id fun s => ⟨⟨rfl, rfl⟩, rfl⟩
  | take id count => exact hadjust id fun s => ⟨⟨rfl, rfl⟩, rfl⟩
  | refuse id => exact hadjust id fun s => ⟨⟨rfl, rfl⟩, rfl⟩
  | abandon id => exact hadjust id fun s => ⟨⟨rfl, rfl⟩, rfl⟩
  | ask candidates => exact hs
  | route audience e exclude => exact hs
  | deliver id e => exact hs
  | notify e => exact hs
  | tick now => exact hs

/-- **What the registry knows survives every action**, unless somebody else moves a session. -/
theorem step_sound (p : Policy σ) (hrel : Session.Tracks Rel) {h : Hub σ} (hs : h.board.Sound Rel) (a : Action)
    (ha : h.ownMove a = true) : (h.step p a).1.board.Sound Rel := by
  rw [step_board]
  exact (turn_sound p hrel hs a ha).posts hrel _

/-! ## Whose sessions are -/

theorem turn_owned (p : Policy σ) {h : Hub σ} (hs : h.board.Sound Session.Owns) (a : Action) :
    (h.turn p a).board.Sound Session.Owns := by
  by_cases ha : h.ownMove a = true
  · exact turn_sound p Session.tracks_owns hs a ha
  · cases a with
    | register id room => exact hs.register id room fun s _ => ⟨rfl, rfl⟩
    | join id room =>
      simp only [turn]
      rcases h.board.join_cases id room with ⟨reason, he⟩ | ⟨entry, -, -, he⟩ | ⟨entry, r', created, hid, m, he⟩
      · rw [he]
        exact hs
      · rw [he]
        exact hs
      · rw [he]
        exact hs.relocate hid m
    | leave id =>
      simp only [turn]
      rcases h.board.leave_cases id with ⟨reason, he⟩ | ⟨entry, -, -, he⟩ | ⟨entry, q, r', hid, -, m, he⟩
      · rw [he]
        exact hs
      · rw [he]
        exact hs
      · rw [he]
        exact hs.relocate hid m
    | _ => exact absurd rfl ha

theorem step_owned (p : Policy σ) {h : Hub σ} (hs : h.board.Sound Session.Owns) (a : Action) :
    (h.step p a).1.board.Sound Session.Owns := by
  rw [step_board]
  exact (turn_owned p hs a).posts Session.tracks_owns _

theorem start_sound (store : σ) (now : Int64) (running : Bool) : (start store now running).board.Sound Rel := by
  refine ⟨Registry.consistent_empty, fun id entry he => ?_⟩
  cases he

theorem run_keeps_owned (p : Policy σ) {h : Hub σ} (hs : h.board.Sound Session.Owns) (actions : List Action) :
    (run p h actions).board.Sound Session.Owns := by
  induction actions generalizing h with
  | nil => exact hs
  | cons a actions ih => exact ih (step_owned p hs a)

/-- **The registry knows whose its sessions are**, in every state that actions lead to. -/
theorem run_owned (p : Policy σ) (store : σ) (now : Int64) (running : Bool) (actions : List Action) :
    (run p (start store now running) actions).board.Sound Session.Owns :=
  run_keeps_owned p (start_sound store now running) actions

end Hub

/-! ## Registries that do not answer -/

namespace Board

variable {b b' : Board}

/-- nobody is registered unless the registry answers -/
def Answers (b : Board) : Prop := ∀ id entry, b.registry.sessions.get? id = some entry → b.running = true

/-- a change that no registry undergoes that does not answer -/
theorem Answers.change (h : b.Answers) (hrunning : b'.running = b.running)
    (hregistry : b'.registry = b.registry ∨ b.running = true) : b'.Answers := by
  intro id entry he
  rw [hrunning]
  rcases hregistry with hsame | hr
  · rw [hsame] at he
    exact h id entry he
  · exact hr

theorem running_fanOut (b : Board) (recipients : List SessionId) (e : Outbound)
    (exclude : Option SessionId) : (b.fanOut recipients e exclude).1.running = b.running := by
  obtain ⟨-, hrunning, -, -⟩ := foldl_offerTo b e _ [] (nodup_targets recipients exclude)
  rw [fanOut_eq]
  exact (running_unregisterAll _ _).trans hrunning

theorem running_post (b : Board) (q : Post) : (b.post q).running = b.running := by
  cases q with
  | offer id e => exact b.running_offer e id
  | reply id e =>
    have h := b.running_offer e id
    simp only [post]
    unfold reply
    split <;> simp_all [drain]
  | route audience e exclude =>
    simp only [post]
    unfold routeTo
    split
    · exact b.running_fanOut _ e exclude
    · rfl

theorem Answers.post (h : b.Answers) (q : Post) : (b.post q).Answers := by
  intro id entry he
  rw [running_post]
  exact h id entry (get?_post he)

theorem Answers.posts (h : b.Answers) (qs : List Post) : (b.posts qs).Answers := by
  induction qs generalizing b with
  | nil => exact h
  | cons q qs ih => exact ih (h.post q)

theorem Answers.register (h : b.Answers) (id : SessionId) (room : Option RoomId) : (b.register id room).1.Answers := by
  unfold Board.register
  split
  · rename_i hr _
    exact h.change rfl (Or.inr hr)
  · exact h

theorem Answers.unregister (h : b.Answers) (id : SessionId) : (b.unregister id).1.Answers := by
  by_cases hr : b.running = true
  · exact h.change (b.running_unregister id) (Or.inr hr)
  · rw [Board.unregister, if_neg hr]
    exact h

theorem Answers.join (h : b.Answers) (id : SessionId) (room : RoomId) : (b.join id room).1.Answers := by
  unfold Board.join
  split_ifs with hr
  · exact h.change rfl (Or.inr hr)
  · exact h

theorem Answers.leave (h : b.Answers) (id : SessionId) : (b.leave id).1.Answers := by
  unfold Board.leave
  split_ifs with hr
  · exact h.change rfl (Or.inr hr)
  · exact h

theorem Answers.of_moved (h : b.Answers) {id : SessionId} (m : b.Moved id b') : b'.Answers := by
  cases m with
  | unchanged => exact h
  | stayed hid => exact h.change rfl (Or.inl rfl)
  | moved hid => exact h.change rfl (Or.inr (h id _ hid))

end Board

namespace Hub

variable {σ : Type}

theorem connectTurn_answers {h : Hub σ} (hb : h.board.Answers) (id : SessionId) (s : Session) :
    (h.connectTurn id s).board.Answers := by
  have hin : ({ h.board with sessions := h.board.sessions.insert id s } : Board).Answers := hb.change rfl (Or.inl rfl)
  have hreg := hin.register id s.currentRoom
  unfold connectTurn
  simp only
  split <;> rename_i he <;> rw [he] at hreg <;> exact hreg.change rfl (Or.inl rfl)

theorem turn_answers (p : Policy σ) {h : Hub σ} (hb : h.board.Answers) (a : Action) :
    (h.turn p a).board.Answers := by
  have hsame : ∀ b : Board, b.running = h.board.running → b.registry = h.board.registry → b.Answers :=
    fun b hrunning hregistry => hb.change hrunning (Or.inl hregistry)
  have hin : (h.inboundTurn (inbound? p a)).board.Answers := by
    refine inboundTurn_induction (P := fun t => t.board.Answers) hb (fun id e => ?_) _
    exact hb.of_moved (envelopeTurn_moved h id e)
  cases a with
  | text id frame => exact hin
  | envelope id e => exact hin
  | create id s =>
    simp only [turn]
    split
    · exact hb
    · exact hsame _ rfl rfl
  | connect id s =>
    simp only [turn]
    split
    · exact hb
    · exact connectTurn_answers hb id s
  | register id room => exact hb.register id room
  | unregister id => exact hb.unregister id
  | join id room => exact hb.join id room
  | leave id => exact hb.leave id
  | publish publisher e =>
    simp only [turn, board_publishTurn]
    exact hb
  | announce id room =>
    simp only [turn]
    split <;> exact hb
  | _ => exact hsame _ rfl rfl

/-- **Nobody is registered unless the registry answers**, in every state that actions lead to. -/
theorem run_answers (p : Policy σ) (store : σ) (now : Int64) (running : Bool) (actions : List Action) :
    (run p (start store now running) actions).board.Answers := by
  have hrun : ∀ h : Hub σ, h.board.Answers → (run p h actions).board.Answers := by
    induction actions with
    | nil => exact fun h hb => hb
    | cons a actions ih =>
      intro h hb
      refine ih (h.step p a).1 ?_
      rw [step_board]
      exact (turn_answers p hb a).posts _
  refine hrun _ fun id entry he => ?_
  cases he

end Hub
end ErrandHub
