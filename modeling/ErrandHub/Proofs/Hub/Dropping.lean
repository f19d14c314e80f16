/-
Frames that are dropped.

A text frame brings an envelope if it is short enough, is written as a record (`Inbound.Spells`) and has a type that
clients send; `Inbound.decode_cases` says what decoding does with it otherwise. An envelope comes to nothing if it is `Idle`: a
message without text, something posted where the session may not post, a wish to join no room, a move of a session that
the registry does not know, or a pong. `Dropped` puts all these reasons together.

- `envelopeTurn_of_idle`, `envelopeTurn_of_not_idle`: the turn of an idle envelope is nothing at all, and the turn of any
  other sends something, unless a session leaves that is in no room.
- `dropped_frame_changes_nothing`: every text frame, in any state of a hub.
-/
import Mathlib.Tactic
import ErrandHub.Proofs.Envelope.Inbound
import ErrandHub.Proofs.Hub.Chat
import ErrandHub.Proofs.Hub.CurrentRoom

namespace ErrandHub

/-! ## Envelopes that come to nothing -/

/-- a session may not post an envelope where it is for -/
inductive Session.Misdirects (s : Session) (e : Inbound) : Prop where
  /-- it names no room, and the session is in none -/
  | nowhere (hunnamed : e.room = none) (hcurrent : s.currentRoom = none)
  /-- what it names is no room -/
  | noRoom {v : Json} {reason : RoomError} (hnamed : e.room = some v) (hbad : RoomRef.roomOfJson v = .error reason)
  /-- it is from a customer, and names another room than the current one -/
  | elsewhere {v : Json} {q : RoomId} (hcustomer : s.role = .customer) (hnamed : e.room = some v)
      (hroom : RoomRef.roomOfJson v = .ok q) (hother : s.currentRoom ≠ some q)

namespace Board

variable {b : Board} {id : SessionId}

/-- a session that the registry does not know, or cannot be asked about -/
def Unknown (b : Board) (id : SessionId) : Prop := b.running = false ∨ b.registry.sessions.get? id = none

theorem join_error_iff (q : RoomId) : (∃ reason, b.join id q = (b, .error reason)) ↔ b.Unknown id := by
  unfold Unknown join
  by_cases hr : b.running = true
  · rw [if_pos hr]
    rcases b.registry.join_cases id q with ⟨hid, he⟩ | ⟨e, hid, -, he⟩ | ⟨e, r', hid, -, -, he⟩
    · rw [he]
      exact ⟨fun _ => Or.inr hid, fun _ => ⟨_, rfl⟩⟩
    · simp [he, hid, hr]
    · simp [he, hid, hr]
  · simp [hr]

theorem leave_error_iff : (∃ reason, b.leave id = (b, .error reason)) ↔ b.Unknown id := by
  unfold Unknown leave
  by_cases hr : b.running = true
  · rw [if_pos hr]
    rcases b.registry.leave_cases id with ⟨hid, he⟩ | ⟨e, hid, -, he⟩ | ⟨e, q, r', hid, -, -, he⟩
    · rw [he]
      exact ⟨fun _ => Or.inr hid, fun _ => ⟨_, rfl⟩⟩
    · simp [he, hid, hr]
    · simp [he, hid, hr]
  · simp [hr]

end Board

namespace Hub

variable {σ : Type}

/-- an envelope of a session comes to nothing, and why -/
inductive Idle (h : Hub σ) (id : SessionId) (e : Inbound) : Prop where
  /-- it is a message without text, or with blank text -/
  | blank (hkind : e.kind = .message) (hblank : ∀ text, e.message = some text → Text.isBlank text = true)
  /-- it is a message or typing, and the session may not post it where it is for -/
  | misdirected {s : Session} (hkind : e.kind.isPosted = true) (hs : h.board.session? id = some s)
      (hroom : s.Misdirects e)
  /-- it is the wish to join, and names nothing that is a room -/
  | unaimed (hkind : e.kind = .joinRoom) (hroom : ∀ v q, e.room = some v → RoomRef.roomOfJson v ≠ .ok q)
  /-- it is the wish to join or to leave of a session that the registry does not know -/
  | unregistered (hkind : e.kind = .joinRoom ∨ e.kind = .leaveRoom) (hid : h.board.Unknown id)
  | pong (hkind : e.kind = .pong)

theorem postableRoom_eq_none_iff (s : Session) (e : Inbound) : postableRoom s e.room = none ↔ s.Misdirects e := by
  rw [Option.eq_none_iff_forall_ne_some]
  simp only [ne_eq, postableRoom_eq_some_iff, Inbound.IsFor]
  constructor
  · intro hnone
    cases hnamed : e.room with
    | none =>
      simp only [hnamed] at hnone
      refine .nowhere hnamed (Option.eq_none_iff_forall_ne_some.2 fun q hq => hnone q ⟨hq, fun _ => hq⟩)
    | some v =>
      simp only [hnamed] at hnone
      cases hroom : RoomRef.roomOfJson v with
      | error reason => exact .noRoom hnamed hroom
      | ok q =>
        have hrefused := hnone q
        simp only [hroom, true_and, Classical.not_imp] at hrefused
        exact .elsewhere hrefused.1 hnamed hroom hrefused.2
  · rintro (⟨hnamed, hcurrent⟩ | ⟨hnamed, hbad⟩ | ⟨hcustomer, hnamed, hroom, hother⟩) q <;> simp only [hnamed]
    · simp [hcurrent]
    · simp [hbad]
    · rw [hroom, Except.ok.injEq]
      rintro ⟨rfl, hallowed⟩
      exact hother (hallowed hcustomer)

theorem text?_eq_none_iff (e : Inbound) :
    e.text? = none ↔ ∀ text, e.message = some text → Text.isBlank text = true := by
  rw [Option.eq_none_iff_forall_ne_some]
  simp only [ne_eq, Inbound.text?_eq_some_iff, not_and, Bool.not_eq_false]

theorem aim_eq_none_iff (room : Option Json) :
    (room.bind fun v => (RoomRef.roomOfJson v).toOption) = none ↔
      ∀ v q, room = some v → RoomRef.roomOfJson v ≠ .ok q := by
  simp only [Option.eq_none_iff_forall_ne_some, ne_eq, Option.bind_eq_some_iff, toOption_eq_some_iff, not_exists,
    not_and]
  exact ⟨fun h v q hv => h q v hv, fun h q v hv => h v q hv⟩

theorem envelopeTurn_of_idle {h : Hub σ} {id : SessionId} {e : Inbound} (hidle : h.Idle id e) :
    h.envelopeTurn id e = { board := h.board } := by
  unfold envelopeTurn
  cases hs : h.board.session? id with
  | none => rfl
  | some s =>
    cases hidle with
    | blank hkind hblank =>
      simp only [hkind, messageTurn, (text?_eq_none_iff e).2 hblank]
    | @misdirected s' hkind hs' hroom =>
      obtain rfl : s = s' := Option.some_inj.1 (hs.symm.trans hs')
      have hnone := (postableRoom_eq_none_iff s e).2 hroom
      cases hk : e.kind with
      | message => cases e.text? <;> simp [messageTurn, hnone]
      | typingStart => simp only [typingTurn, hnone]
      | typingStop => simp only [typingTurn, hnone]
      | _ => exact absurd hkind (by rw [hk]; decide)
    | unaimed hkind hroom =>
      simp only [hkind, joinTurn, (aim_eq_none_iff e.room).2 hroom]
    | unregistered hkind hid =>
      obtain ⟨reason, hleave⟩ := Board.leave_error_iff.2 hid
      rcases hkind with hkind | hkind
      · simp only [hkind, joinTurn]
        split
        · rfl
        · rename_i q _
          obtain ⟨reason, hjoin⟩ := (Board.join_error_iff q).2 hid
          rw [hjoin]
      · simp only [hkind, leaveTurn, hleave]
    | pong hkind => simp only [hkind]

/-- what a session that has joined a room is told, or others are, is never nothing -/
theorem joinPosts_ne_nil (now : Int64) (id : SessionId) (s : Session) (room : RoomId) (report : Joined) :
    joinPosts now id s room report ≠ [] := by
  unfold joinPosts
  simp only
  split_ifs <;> simp

/-- an envelope of a session that is not idle is heard: something is sent, unless the session leaves and is in no room -/
theorem envelopeTurn_of_not_idle {h : Hub σ} {id : SessionId} {s : Session} {e : Inbound}
    (hs : h.board.session? id = some s) (hclient : e.kind ≠ .roomOpened) (hheard : ¬h.Idle id e) :
    (h.envelopeTurn id e).posts ≠ [] ∨ e.kind = .leaveRoom ∧ h.board.registry.roomOf id = none := by
  -- what the turn would stop at is a reason to be idle, so it does not stop
  have hpostable : e.kind.isPosted = true → ∃ q, postableRoom s e.room = some q := fun hkind =>
    Option.ne_none_iff_exists'.1 fun hnone =>
      hheard (.misdirected hkind hs ((postableRoom_eq_none_iff s e).1 hnone))
  have htyping : e.kind.isPosted = true → (h.typingTurn id s e).posts ≠ [] := fun hkind => by
    obtain ⟨q, hq⟩ := hpostable hkind
    simp [typingTurn, hq]
  unfold envelopeTurn
  simp only [hs]
  cases hkind : e.kind with
  | message =>
    left
    obtain ⟨q, hq⟩ := hpostable (by rw [hkind]; rfl)
    obtain ⟨text, htext⟩ : ∃ text, e.text? = some text :=
      Option.ne_none_iff_exists'.1 fun hnone => hheard (.blank hkind ((text?_eq_none_iff e).1 hnone))
    simp [messageTurn, hq, htext]
  | typingStart => exact Or.inl (htyping (by rw [hkind]; rfl))
  | typingStop => exact Or.inl (htyping (by rw [hkind]; rfl))
  | joinRoom =>
    left
    obtain ⟨q, hq⟩ := Option.ne_none_iff_exists'.1 fun hnone =>
      hheard (.unaimed hkind ((aim_eq_none_iff e.room).1 hnone))
    rcases h.board.join_cases id q with hrefused | ⟨entry, -, -, he⟩ | ⟨entry, r', created, -, -, he⟩
    · exact absurd ((Board.join_error_iff q).1 hrefused) fun hid => hheard (.unregistered (Or.inl hkind) hid)
    · simpa only [joinTurn, hq, he] using joinPosts_ne_nil _ _ _ _ _
    · simpa only [joinTurn, hq, he] using joinPosts_ne_nil _ _ _ _ _
  | leaveRoom =>
    simp only [leaveTurn]
    rcases h.board.leave_cases id with hrefused | ⟨entry, hid, hnone, -⟩ | ⟨entry, q, r', -, -, -, he⟩
    · exact absurd (Board.leave_error_iff.1 hrefused) fun hid => hheard (.unregistered (Or.inr hkind) hid)
    · right
      simp [Registry.roomOf, hid, hnone]
    · left
      simp [he]
  | ping => simp
  | pong => exact absurd (Idle.pong hkind) hheard
  | roomOpened => exact absurd hkind hclient

/-! ## Frames that come to nothing -/

/-- a text frame of a session is dropped, and why -/
inductive Dropped (p : Policy σ) (h : Hub σ) (id : SessionId) (frame : String) : Prop where
  /-- it is too long -/
  | tooLong (hsize : p.maxMessageBytes < Utf8.size frame)
  /-- it is no record with the fields of an envelope -/
  | undecodable (hno : ∀ type room message data, ¬Inbound.Spells frame type room message data)
  /-- its type is unknown, or one that only the hub sends -/
  | foreign {type : String} {room data : Option Json} {message : Option String}
      (hspells : Inbound.Spells frame type room message data)
      (htype : Kind.parse? type = none ∨ Kind.parse? type = some .roomOpened)
  /-- the envelope that it brings is idle -/
  | idle {type : String} {e : Inbound} (hspells : Inbound.Spells frame type e.room e.message e.data)
      (htype : Kind.parse? type = some e.kind) (hidle : h.Idle id e)

/-- **A dropped frame changes nothing.** A text frame that is too long, no envelope, of a type that clients do not send,
or idle leaves the hub exactly as it was: both tables, all outboxes, phases and current rooms, the store and the notices.
Any other frame brings an envelope that is carried out in full, and something is sent on account of it unless it is the
wish to leave of a session that is in no room. -/
theorem dropped_frame_changes_nothing (p : Policy σ) (h : Hub σ) (id : SessionId) (frame : String) :
    (h.Dropped p id frame → h.handleText p id frame = h) ∧
    (¬h.Dropped p id frame → ∃ e, Inbound.decode p.maxMessageBytes frame = .ok (.envelope e) ∧
      h.handleText p id frame = h.perform p (h.envelopeTurn id e) ∧
      ((h.board.session? id).isSome → (h.envelopeTurn id e).posts ≠ [] ∨
        e.kind = .leaveRoom ∧ h.board.registry.roomOf id = none)) := by
  rcases Inbound.decode_cases p.maxMessageBytes frame with
    ⟨hsize, reason, hdecode⟩ | ⟨hno, reason, hdecode⟩ | ⟨type, room, message, data, hspells, htype, hdecode⟩ |
    ⟨type, e, hsize, hspells, htype, hclient, hdecode⟩
  · exact ⟨fun _ => by rw [handleText, hdecode], fun hheard => absurd (.tooLong hsize) hheard⟩
  · exact ⟨fun _ => by rw [handleText, hdecode], fun hheard => absurd (.undecodable hno) hheard⟩
  · exact ⟨fun _ => by rw [handleText, hdecode], fun hheard => absurd (.foreign hspells htype) hheard⟩
  · have hperform : h.handleText p id frame = h.perform p (h.envelopeTurn id e) := by
      rw [handleText_of_decode p h id hdecode, handle_eq_perform]
    refine ⟨fun hdropped => ?_, fun hheard => ⟨e, hdecode, hperform, fun hthere => ?_⟩⟩
    · suffices hidle : h.Idle id e by
        rw [hperform, envelopeTurn_of_idle hidle]
        rfl
      -- the frame says one thing only, so that thing is what it is dropped for
      cases hdropped with
      | tooLong hlong => exact absurd hsize (Nat.not_le.2 hlong)
      | undecodable hno => exact absurd hspells (hno _ _ _ _)
      | foreign hspells' hforeign =>
        obtain ⟨rfl, -⟩ := hspells.unique hspells'
        rw [htype] at hforeign
        rcases hforeign with hnone | hopened
        · cases hnone
        · exact absurd (Option.some_inj.1 hopened) hclient
      | @idle type' e' hspells' htype' hidle =>
        obtain ⟨rfl, hroom, hmessage, hdata⟩ := hspells.unique hspells'
        have hkind : e.kind = e'.kind := Option.some_inj.1 (htype.symm.trans htype')
        obtain rfl : e = e' := by
          cases e
          cases e'
          simp_all
        exact hidle
    · obtain ⟨s, hs⟩ := Option.isSome_iff_exists.1 hthere
      exact envelopeTurn_of_not_idle hs hclient fun hidle => hheard (.idle hspells htype hidle)

/-- a customer writes into another room than its own, while a session of the same room and the staff listen -/
theorem dropped_frame_changes_nothing_elsewhere :
    let q := RoomId.ofNat 7
    let session (name : String) (role : Role) (room : Option RoomId) : Action :=
      .connect ⟨name⟩ { identity := ⟨name⟩, role, currentRoom := room, outbox := .ofCapacity 4 }
    let p : Policy Memory := ⟨Store.memory, {}, 1000⟩
    let actions : List Action := [session "ann" .customer (some q), session "bob" .customer (some q),
      session "sue" .staff none]
    let h := run p (start {} 0 true) actions
    let ann : SessionId := ⟨"ann"⟩
    let frame := "\x7b\"type\":\"CHAT\",\"room\":\x7b\"id\":8\x7d,\"message\":\"hi\"\x7d"
    h.Dropped p ann frame ∧ h.handleText p ann frame = h := by
  intro q session p actions h ann frame
  let e : Inbound := ⟨.message, some (.object [("id", .number (.integer 8))]), some "hi", none⟩
  have hdecode : Inbound.decode p.maxMessageBytes frame = .ok (.envelope e) := by cbv
  obtain ⟨type, hspells, htype⟩ := Inbound.spells_of_decode hdecode
  obtain ⟨s, hs⟩ : ∃ s, h.board.session? ann = some s := Option.isSome_iff_exists.1 (by decide +kernel)
  have hwho : s.role = .customer ∧ s.currentRoom = some q := by
    have hfound : (h.board.session? ann).map (fun s => (s.role, s.currentRoom)) = some (.customer, some q) := by
      decide +kernel
    simpa [hs] using hfound
  have haimed : RoomRef.roomOfJson (.object [("id", .number (.integer 8))]) = .ok (.ofNat 8) := by decide +kernel
  have hdropped : h.Dropped p ann frame := by
    refine .idle hspells htype (.misdirected rfl hs (.elsewhere hwho.1 rfl haimed ?_))
    rw [hwho.2]
    decide +kernel
  exact ⟨hdropped, (dropped_frame_changes_nothing p h ann frame).1 hdropped⟩

end Hub
end ErrandHub
