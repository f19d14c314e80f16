/-
What the others are told when a session moves.

A session that joins or leaves a room is moved first. Then a notice goes to each of up to three places: the room that
the session left, the room that it is in now, and the staff that listens. The tables are read anew for each notice, after
the sessions that could not take the one before were withdrawn. That makes no difference, because a registered session is
at one place only: what comes of all notices together is read off the places right after the move.

- `bulletin`: notices to places, one after another. `posts_bulletin` says what they come to, by induction on the notices.
- `Relocated`: what a board is once a session has moved.
- `Told`: what a board is once sessions were told something, each at most once.
- `membership_notices_exact`: every wish to join or to leave a room, in every state that a hub gets into.
-/
import Mathlib
import ErrandHub.Proofs.Hub.FanOut
import ErrandHub.Store.Memory

namespace ErrandHub

/-- the sessions at a place -/
def Place.audience : Place → Audience
  | .room q => .room q
  | .listeners role => .listeners role

theorem Place.places_audience (place : Place) : place.audience.places = [place] := by
  cases place <;> rfl

/-- notices to the sessions at some places, first one first -/
def bulletin (notices : List (Place × Outbound)) : List Post :=
  notices.map fun n => .route n.1.audience n.2 none

theorem lookup_notices_cons (place place' : Place) (e : Outbound) (notices : List (Place × Outbound)) :
    ((place', e) :: notices).lookup place = if place = place' then some e else notices.lookup place := by
  rw [List.lookup_cons]
  by_cases hplace : place = place'
  · rw [beq_iff_eq.2 hplace, if_pos hplace]
  · rw [beq_false_of_ne hplace, if_neg hplace]

/-- what a session is told if each place is told something, or nothing -/
def Registry.toldAt (r : Registry) (notice : Place → Option Outbound) (id : SessionId) : Option Outbound :=
  (r.placeOf? id).bind notice

theorem Registry.toldAt_nil (r : Registry) (id : SessionId) :
    r.toldAt (([] : List (Place × Outbound)).lookup ·) id = none := by
  cases hplace : r.placeOf? id <;> simp [toldAt, hplace]

theorem Registry.toldAt_cons (r : Registry) (place : Place) (e : Outbound) (notices : List (Place × Outbound))
    (id : SessionId) : r.toldAt (((place, e) :: notices).lookup ·) id =
      if r.placeOf? id = some place then some e else r.toldAt (notices.lookup ·) id := by
  unfold toldAt
  cases hplace : r.placeOf? id with
  | none => rfl
  | some elsewhere =>
    simp only [Option.bind_some, lookup_notices_cons, Option.some_inj]

/-- what a board is once a session has moved into a room or out of one, before anybody is told -/
structure Relocated (b b' : Board) (id : SessionId) (room : Option RoomId) : Prop where
  /-- the entry of the session records the room, and is as it was otherwise -/
  entry : ∀ entry, b.registry.sessions.get? id = some entry →
    b'.registry.sessions.get? id = some { entry with room }
  /-- the session is listed in that room alone -/
  listed : ∀ q, id ∈ Registry.roster b'.registry.rooms q ↔ room = some q
  /-- the reader of the session takes it to be in the room, and the session is as it was otherwise -/
  session : ∀ s, b.session? id = some s → b'.session? id = some { s with currentRoom := room }
  /-- any other session is as and where it was -/
  others : ∀ j ≠ id, b'.session? j = b.session? j ∧ b.registry.SameMembership b'.registry j

/-- what a board is once sessions were told something, one of them in answer and the others as an audience -/
structure Told (b b' : Board) (answered : Option SessionId) (notice : SessionId → Option Outbound) : Prop where
  /-- all who are told something are there -/
  present : ∀ j e, notice j = some e → ∃ s, b.session? j = some s
  /-- a session that could take its notice has it at the end of its outbox, and is as it was otherwise -/
  taken : ∀ j e s, notice j = some e → b.session? j = some s → s.accepts = true → b'.session? j = some (s.enqueue e)
  /-- a session that could not take its notice got nothing and is not open any more -/
  refused : ∀ j e s, notice j = some e → b.session? j = some s → s.accepts = false →
    ∃ s', b'.session? j = some s' ∧ s'.outbox = s.outbox ∧ s'.phase.isOpen = false
  /-- a session that is told nothing is as it was -/
  aside : ∀ j, notice j = none → b'.session? j = b.session? j
  /-- a session stays where it was if it is told nothing, is answered or could take its notice -/
  kept : ∀ j, notice j = none ∨ answered = some j ∨ b.accepts j = true → b.registry.SameMembership b'.registry j
  /-- any other session is in neither table -/
  withdrawn : ∀ j e, notice j = some e → answered ≠ some j → b.accepts j = false → b'.registry.Unmentioned j

namespace Board

variable {b b' : Board} {Rel : Session → Entry → Prop}

/-! ## Notices to places -/

theorem mem_targets_audience (h : b.registry.Consistent) (hr : b.running = true) (place : Place) (e : Outbound)
    (j : SessionId) :
    j ∈ Post.targets b (.route place.audience e none) ↔ b.registry.placeOf? j = some place := by
  simp only [Post.targets, if_pos hr, mem_targets, place.audience.mem_recipients_iff h, place.places_audience,
    List.mem_singleton, exists_eq_left]
  simp

theorem session?_post_audience (h : b.registry.Consistent) (hr : b.running = true) (place : Place) (e : Outbound)
    (j : SessionId) : (b.post (.route place.audience e none)).session? j =
      if b.registry.placeOf? j = some place then (b.session? j).map fun s => s.receive e else b.session? j := by
  rw [session?_post h]
  simp only [mem_targets_audience h hr]
  rfl

theorem get?_post_audience (h : b.registry.Consistent) (hr : b.running = true) (place : Place) (e : Outbound)
    (j : SessionId) : (b.post (.route place.audience e none)).registry.sessions.get? j =
      if b.registry.placeOf? j = some place ∧ b.accepts j = false then none else b.registry.sessions.get? j := by
  rw [registry_post, Registry.get?_withdraw]
  simp only [Post.withdrawn, List.mem_filter, mem_targets_audience h hr, Bool.not_eq_true']

/-- a notice to one place leaves those at other places to be told what they were to be told -/
theorem toldAt_post_audience (h : b.registry.Consistent) (hr : b.running = true) (place : Place) (e : Outbound)
    (notice : Place → Option Outbound) (hfresh : notice place = none) (j : SessionId) :
    (b.post (.route place.audience e none)).registry.toldAt notice j =
      if b.registry.placeOf? j = some place then none else b.registry.toldAt notice j := by
  have hentry := get?_post_audience h hr place e j
  unfold Registry.toldAt Registry.placeOf? at *
  rw [hentry]
  by_cases hat : (b.registry.sessions.get? j).map Entry.place = some place
  · rw [if_pos hat]
    split_ifs
    · rfl
    · rw [hat]
      exact hfresh
  · rw [if_neg hat, if_neg fun hc => hat hc.1]

/-- **Notices to places do not interfere.** Each session receives the notice to the place where it was at first, if there
is one, and is withdrawn on its account alone. -/
theorem posts_bulletin (h : b.registry.Consistent) (hr : b.running = true) (notices : List (Place × Outbound))
    (hn : (notices.map Prod.fst).Nodup) (j : SessionId) :
    let told := b.registry.toldAt (notices.lookup ·) j
    (b.posts (bulletin notices)).session? j = (b.session? j).map (fun s => told.elim s s.receive) ∧
    (b.posts (bulletin notices)).registry.sessions.get? j =
      if told.isSome = true ∧ b.accepts j = false then none else b.registry.sessions.get? j := by
  induction notices generalizing b with
  | nil =>
    rw [Registry.toldAt_nil]
    simp [bulletin, posts]
  | cons n notices ih =>
    obtain ⟨place, e⟩ := n
    obtain ⟨hnew, hn⟩ := List.nodup_cons.1 hn
    have hfresh : notices.lookup place = none := by
      rw [List.lookup_eq_none_iff]
      intro n hmem
      have hne : place ≠ n.1 := fun heq => hnew (List.mem_map.2 ⟨n, hmem, heq.symm⟩)
      simpa using hne
    have hsession := session?_post_audience h hr place e j
    have hentry := get?_post_audience h hr place e j
    have htold := toldAt_post_audience h hr place e (notices.lookup ·) hfresh j
    set b₁ := b.post (.route place.audience e none) with hb₁
    obtain ⟨hs, he⟩ := ih (consistent_post h (.route place.audience e none)) ((b.running_post _).trans hr) hn
    have hposts : b.posts (bulletin ((place, e) :: notices)) = b₁.posts (bulletin notices) := rfl
    rw [hposts, hs, he, hsession, hentry, htold, Registry.toldAt_cons]
    by_cases hat : b.registry.placeOf? j = some place
    · -- the session gets this notice, and none of the rest is for it
      simp only [if_pos hat, Option.map_map]
      refine ⟨rfl, ?_⟩
      simp [hat]
    · -- the session is elsewhere, and stands for the rest as it did before
      have haccepts : b₁.accepts j = b.accepts j := by
        rw [accepts, hsession, if_neg hat, accepts]
      rw [haccepts]
      simp [hat]

/-! ## Sessions that were told something -/

/-- a board is what it is said to be if each session received its notice, and those were withdrawn that could not take
theirs and were not answered -/
theorem Sound.told (h : b.Sound Rel) (h' : b'.registry.Consistent) {answered : Option SessionId}
    {notice : SessionId → Option Outbound} (hpresent : ∀ j e, notice j = some e → ∃ s, b.session? j = some s)
    (hsession : ∀ j, b'.session? j = (b.session? j).map fun s => (notice j).elim s s.receive)
    (hentry : ∀ j, b'.registry.sessions.get? j =
      if (notice j).isSome = true ∧ answered ≠ some j ∧ b.accepts j = false then none
      else b.registry.sessions.get? j) : Told b b' answered notice := by
  refine ⟨hpresent, fun j e s hj hs ha => ?_, fun j e s hj hs ha => ⟨s.drain, ?_, ?_, ?_⟩, fun j hj => ?_,
    fun j hj => ?_, fun j e hj hne ha => ?_⟩
  · rw [hsession, hs, hj, Option.map_some, Option.elim_some, Session.receive, if_pos ha]
  · rw [hsession, hs, hj, Option.map_some, Option.elim_some, Session.receive, if_neg (by simp [ha])]
  · exact s.outbox_drain
  · exact s.isOpen_drain
  · rw [hsession, hj]
    simp
  · refine h.consistent.sameMembership h' ?_
    rw [hentry, if_neg]
    rintro ⟨hsome, hne, ha⟩
    rcases hj with hnone | hanswered | haccepts
    · rw [hnone] at hsome
      cases hsome
    · exact hne hanswered
    · rw [ha] at haccepts
      cases haccepts
  · refine h'.unmentioned ?_
    rw [hentry, if_pos ⟨by rw [hj]; rfl, hne, ha⟩]

theorem Sound.present_of_toldAt (h : b.Sound Rel) (notice : Place → Option Outbound) (j : SessionId) (e : Outbound)
    (hj : b.registry.toldAt notice j = some e) : ∃ s, b.session? j = some s := by
  obtain ⟨place, hplace, -⟩ := Option.bind_eq_some_iff.1 hj
  obtain ⟨entry, hentry, -⟩ := Option.map_eq_some_iff.1 hplace
  obtain ⟨s, hs, -⟩ := h.known j entry hentry
  exact ⟨s, hs⟩

theorem Sound.told_bulletin (h : b.Sound Rel) (hr : b.running = true) (notices : List (Place × Outbound))
    (hn : (notices.map Prod.fst).Nodup) :
    Told b (b.posts (bulletin notices)) none (b.registry.toldAt (notices.lookup ·)) := by
  refine h.told (consistent_posts h.consistent _) (h.present_of_toldAt _) (fun j => ?_) fun j => ?_
  · exact (posts_bulletin h.consistent hr notices hn j).1
  · rw [(posts_bulletin h.consistent hr notices hn j).2]
    simp

/-- one session is answered, and then places are told something that the session is not at -/
theorem Sound.told_reply (h : b.Sound Rel) (hr : b.running = true) {id : SessionId} {s : Session}
    (hid : b.session? id = some s) (e : Outbound) (notices : List (Place × Outbound))
    (hn : (notices.map Prod.fst).Nodup) (helse : b.registry.toldAt (notices.lookup ·) id = none) :
    Told b (b.posts (.reply id e :: bulletin notices)) (some id)
      fun j => if j = id then some e else b.registry.toldAt (notices.lookup ·) j := by
  -- the answer goes into one outbox and moves nobody, so the notices find everybody where they were
  have hregistry : (b.reply id e).registry = b.registry := b.registry_reply e id
  have hconsistent : (b.reply id e).registry.Consistent := hregistry ▸ h.consistent
  have hrunning : (b.reply id e).running = true := (b.running_post (.reply id e)).trans hr
  have hrest := posts_bulletin hconsistent hrunning notices hn
  rw [hregistry] at hrest
  refine h.told (consistent_posts h.consistent _) (fun j e' hj => ?_) (fun j => ?_) fun j => ?_
  · by_cases hself : j = id
    · exact ⟨s, hself ▸ hid⟩
    · rw [if_neg hself] at hj
      exact h.present_of_toldAt _ j e' hj
  · refine (hrest j).1.trans ?_
    rw [session?_reply]
    by_cases hself : id = j
    · subst hself
      rw [helse, if_pos rfl, if_pos rfl, Option.map_map]
      rfl
    · rw [if_neg hself, if_neg (Ne.symm hself)]
  · refine (hrest j).2.trans ?_
    by_cases hself : id = j
    · subst hself
      rw [helse]
      simp
    · have haccepts : (b.reply id e).accepts j = b.accepts j := by
        rw [accepts, session?_reply, if_neg hself, accepts]
      rw [haccepts, if_neg (Ne.symm hself)]
      simp [hself]

/-! ## Sessions that move -/

theorem relocated_of_moves (h : b.registry.Consistent) {id : SessionId} {entry : Entry} {room : Option RoomId}
    {r' : Registry} (hid : b.registry.sessions.get? id = some entry)
    (m : Registry.Moves b.registry r' id (some { entry with room })) :
    Relocated b (({ b with registry := r' } : Board).adjust id fun s => { s with currentRoom := room }) id room := by
  have h' : r'.Consistent := m.consistent h
  refine ⟨fun entry' he => ?_, fun q => ?_, fun s hs => ?_, fun j hj => ⟨?_, ?_⟩⟩
  · rw [hid] at he
    cases he
    exact (m.get? id).trans (if_pos rfl)
  · rw [registry_adjust, h'.mem_roster_iff, m.roomOf, if_pos rfl]
    rfl
  · rw [session?_adjust, if_pos rfl, show ({ b with registry := r' } : Board).session? id = some s from hs]
    rfl
  · rw [session?_adjust, if_neg (Ne.symm hj)]
    rfl
  · exact h.sameMembership h' ((m.get? j).trans (if_neg (Ne.symm hj)))

/-- a session that is where it wishes to be does not move, but its reader is told where it is -/
theorem relocated_of_here (h : b.registry.Consistent) {id : SessionId} {entry : Entry} {room : Option RoomId}
    (hid : b.registry.sessions.get? id = some entry) (hhere : entry.room = room) :
    Relocated b (b.adjust id fun s => { s with currentRoom := room }) id room := by
  refine ⟨fun entry' he => ?_, fun q => ?_, fun s hs => ?_, fun j hj => ⟨?_, h.sameMembership h rfl⟩⟩
  · rw [hid] at he
    cases he
    rw [registry_adjust, hid, ← hhere]
  · rw [registry_adjust, h.mem_roster_iff, Registry.roomOf, hid, ← hhere]
    rfl
  · rw [session?_adjust, if_pos rfl, hs]
    rfl
  · rw [session?_adjust, if_neg (Ne.symm hj)]

end Board

/-- nobody comes to a room or goes from it when somebody leaves another room -/
theorem Registry.roster_exit_of_ne (rooms : Table RoomId (List SessionId)) {left : Option RoomId} {q : RoomId}
    (hne : left ≠ some q) (id : SessionId) : roster (exit rooms left id) q = roster rooms q := by
  cases left with
  | none => rfl
  | some prev =>
    rw [exit, roster_removeMember, if_neg]
    rintro rfl
    exact hne rfl

/-- what is told at a place when a session has come from one room, or from none, into another: the members of both rooms
are told so, and the staff that listens is told if nobody was in the room before -/
def Session.joinNotice (s : Session) (now : Int64) (left : Option RoomId) (room : RoomId) (opens : Bool) :
    Place → Option Outbound
  | .room q =>
    if q = room then some ⟨.joinRoom, some room, s.sender, none, none, now⟩
    else if left = some q then some ⟨.leaveRoom, some q, s.sender, none, none, now⟩
    else none
  | .listeners role =>
    if role = .staff ∧ opens = true then some ⟨.roomOpened, some room, s.sender, none, none, now⟩ else none

/-- what is told at a place when a session has left a room -/
def Session.leaveNotice (s : Session) (now : Int64) (left : RoomId) (place : Place) : Option Outbound :=
  if place = .room left then some ⟨.leaveRoom, some left, s.sender, none, none, now⟩ else none

namespace Hub

variable {σ : Type}

/-! ## Wishes to join and to leave -/

/-- the notices when a session has joined a room, in the order in which they are sent -/
def joinNotices (now : Int64) (s : Session) (left : Option RoomId) (room : RoomId) (opens : Bool) :
    List (Place × Outbound) :=
  (left.toList.map fun prev => (.room prev, s.stamp now .leaveRoom (some prev) none none))
    ++ (.room room, s.stamp now .joinRoom (some room) none none)
    :: if opens then [(.listeners .staff, s.stamp now .roomOpened (some room) none none)] else []

theorem joinPosts_eq_bulletin (now : Int64) (id : SessionId) (s : Session) (room : RoomId) (left : Option RoomId)
    (opens : Bool) :
    joinPosts now id s room ⟨left, opens, false⟩ = bulletin (joinNotices now s left room opens) := by
  cases left <;> cases opens <;> rfl

theorem nodup_joinNotices (now : Int64) (s : Session) {left : Option RoomId} {room : RoomId} (hne : left ≠ some room)
    (opens : Bool) : ((joinNotices now s left room opens).map Prod.fst).Nodup := by
  cases left with
  | none => cases opens <;> simp [joinNotices]
  | some prev =>
    have hprev : prev ≠ room := fun heq => hne (congrArg some heq)
    cases opens <;> simp [joinNotices, hprev]

theorem lookup_joinNotices (now : Int64) (s : Session) {left : Option RoomId} {room : RoomId} (hne : left ≠ some room)
    (opens : Bool) (place : Place) :
    (joinNotices now s left room opens).lookup place = s.joinNotice now left room opens place := by
  cases place with
  | room q =>
    cases left with
    | none => cases opens <;> simp [joinNotices, lookup_notices_cons, Session.joinNotice, Session.stamp]
    | some prev =>
      have hprev : prev ≠ room := fun heq => hne (congrArg some heq)
      by_cases hq : q = prev
      · subst hq
        simp [joinNotices, Session.joinNotice, Session.stamp, hprev]
      · cases opens <;>
          simp [joinNotices, lookup_notices_cons, Session.joinNotice, Session.stamp, hq, Ne.symm hq]
  | listeners role =>
    cases left <;> cases opens <;> simp [joinNotices, lookup_notices_cons, Session.joinNotice, Session.stamp]

variable {h : Hub σ} {id : SessionId} {entry : Entry}

theorem joinTurn_of_here (hr : h.board.running = true) (hid : h.board.registry.sessions.get? id = some entry)
    (s : Session) {e : Inbound} {v : Json} {room : RoomId} (hv : e.room = some v)
    (hroom : RoomRef.roomOfJson v = .ok room) (hhere : entry.room = some room) :
    h.joinTurn id s e =
      { board := h.board.adjust id fun s => { s with currentRoom := some room }
        posts := .reply id (s.stamp h.now .joinRoom (some room) none none) :: bulletin [] } := by
  have hjoin : h.board.join id room = (h.board, .ok ⟨none, false, true⟩) := by
    have hstays : h.board.registry.join id room = (h.board.registry, .ok ⟨none, false, true⟩) := by
      simp [Registry.join, hid, hhere]
    rw [Board.join, if_pos hr, hstays]
  simp only [joinTurn, hv, Option.bind_some, hroom, Except.toOption, hjoin]
  rfl

theorem joinTurn_of_elsewhere (hc : h.board.registry.Consistent) (hr : h.board.running = true)
    (hid : h.board.registry.sessions.get? id = some entry) (s : Session) {e : Inbound} {v : Json} {room : RoomId}
    (hv : e.room = some v) (hroom : RoomRef.roomOfJson v = .ok room) (hne : entry.room ≠ some room) :
    ∃ r', Registry.Moves h.board.registry r' id (some { entry with room := some room }) ∧
      h.joinTurn id s e =
        { board := ({ h.board with registry := r' } : Board).adjust id fun s => { s with currentRoom := some room }
          posts := bulletin
            (joinNotices h.now s entry.room room (h.board.registry.members room).isEmpty) } := by
  have hopens : (Registry.roster (Registry.exit h.board.registry.rooms entry.room id) room).isEmpty =
      (h.board.registry.members room).isEmpty := by
    rw [Registry.roster_exit_of_ne _ hne, hc.members_eq]
  rcases h.board.registry.join_cases id room with ⟨hnone, -⟩ | ⟨entry', hid', hhere, -⟩ | ⟨entry', r', hid', -, m, he⟩
  · rw [hid] at hnone
    cases hnone
  · rw [hid] at hid'
    cases hid'
    exact absurd hhere hne
  · rw [hid] at hid'
    cases hid'
    have hjoin : h.board.join id room = ({ h.board with registry := r' },
        .ok ⟨entry.room, (h.board.registry.members room).isEmpty, false⟩) := by
      rw [Board.join, if_pos hr, he, hopens]
    refine ⟨r', m, ?_⟩
    simp only [joinTurn, hv, Option.bind_some, hroom, Except.toOption, hjoin, joinPosts_eq_bulletin]

theorem leaveTurn_of_room (hr : h.board.running = true) (hid : h.board.registry.sessions.get? id = some entry)
    (s : Session) {q : RoomId} (hq : entry.room = some q) :
    ∃ r', Registry.Moves h.board.registry r' id (some { entry with room := none }) ∧
      h.leaveTurn id s =
        { board := ({ h.board with registry := r' } : Board).adjust id fun s => { s with currentRoom := none }
          posts := .reply id (s.stamp h.now .leaveRoom (some q) none none)
            :: bulletin [(.room q, s.stamp h.now .leaveRoom (some q) none none)] } := by
  rcases h.board.registry.leave_cases id with ⟨hnone, -⟩ | ⟨entry', hid', hroomless, -⟩ |
    ⟨entry', q', r', hid', hq', m, he⟩
  · rw [hid] at hnone
    cases hnone
  · rw [hid] at hid'
    cases hid'
    rw [hq] at hroomless
    cases hroomless
  · rw [hid] at hid'
    cases hid'
    rw [hq] at hq'
    cases hq'
    have hleave : h.board.leave id = ({ h.board with registry := r' }, .ok (some q)) := by
      rw [Board.leave, if_pos hr, he]
    refine ⟨r', m, ?_⟩
    simp only [leaveTurn, hleave]
    rfl

/-- who is in the room already is told so, and nobody else notices -/
theorem joinTurn_here_exact (hs : h.board.Sound Session.Owns) (hr : h.board.running = true)
    (hid : h.board.registry.sessions.get? id = some entry) {s : Session} (hsession : h.board.session? id = some s)
    {e : Inbound} {v : Json} {room : RoomId} (hv : e.room = some v) (hroom : RoomRef.roomOfJson v = .ok room)
    (hhere : entry.room = some room) :
    (h.joinTurn id s e).outcome.registry = h.board.registry ∧
      ∃ b, Relocated h.board b id (some room) ∧ Told b (h.joinTurn id s e).outcome (some id)
        fun j => if j = id then some ⟨.joinRoom, some room, s.sender, none, none, h.now⟩ else none := by
  have hsound := hs.of_moved Session.tracks_owns (joinTurn_moved h id s e)
  have hrelocated := Board.relocated_of_here hs.consistent hid hhere
  rw [joinTurn_of_here hr hid s hv hroom hhere] at hsound ⊢
  refine ⟨Board.registry_reply _ _ id, _, hrelocated, ?_⟩
  have htold := hsound.told_reply hr (hrelocated.session s hsession) (s.stamp h.now .joinRoom (some room) none none) []
    List.nodup_nil (Registry.toldAt_nil _ id)
  simp only [Registry.toldAt_nil] at htold
  exact htold

/-- who comes to a room is told so together with the room, the room that it came from is told that it left, and the staff
that listens is told of a room that nobody was in before -/
theorem joinTurn_elsewhere_exact (hs : h.board.Sound Session.Owns) (hr : h.board.running = true)
    (hid : h.board.registry.sessions.get? id = some entry) {s : Session} {e : Inbound} {v : Json} {room : RoomId}
    (hv : e.room = some v) (hroom : RoomRef.roomOfJson v = .ok room) (hne : entry.room ≠ some room) :
    ∃ b, Relocated h.board b id (some room) ∧ Told b (h.joinTurn id s e).outcome none
      (b.registry.toldAt (s.joinNotice h.now entry.room room (h.board.registry.members room).isEmpty)) := by
  have hsound := hs.of_moved Session.tracks_owns (joinTurn_moved h id s e)
  obtain ⟨r', m, hturn⟩ := joinTurn_of_elsewhere hs.consistent hr hid s hv hroom hne
  rw [hturn] at hsound ⊢
  refine ⟨_, Board.relocated_of_moves hs.consistent hid m, ?_⟩
  have htold := hsound.told_bulletin hr _
    (nodup_joinNotices h.now s hne (h.board.registry.members room).isEmpty)
  simp only [lookup_joinNotices h.now s hne] at htold
  exact htold

/-- who leaves a room is told so, and so are those who remain -/
theorem leaveTurn_exact (hs : h.board.Sound Session.Owns) (hr : h.board.running = true)
    (hid : h.board.registry.sessions.get? id = some entry) {s : Session} (hsession : h.board.session? id = some s)
    {q : RoomId} (hq : entry.room = some q) :
    ∃ b, Relocated h.board b id none ∧ Told b (h.leaveTurn id s).outcome (some id)
      fun j => if j = id then some ⟨.leaveRoom, some q, s.sender, none, none, h.now⟩
        else b.registry.toldAt (s.leaveNotice h.now q) j := by
  have hsound := hs.of_moved Session.tracks_owns (leaveTurn_moved h id s)
  obtain ⟨r', m, hturn⟩ := leaveTurn_of_room hr hid s hq
  rw [hturn] at hsound ⊢
  have hrelocated := Board.relocated_of_moves hs.consistent hid m
  refine ⟨_, hrelocated, ?_⟩
  set left := s.stamp h.now .leaveRoom (some q) none none with hleft
  have hlookup : ∀ place, List.lookup place [(.room q, left)] = s.leaveNotice h.now q place := fun place => by
    rw [lookup_notices_cons]
    rfl
  have hplace : r'.placeOf? id = some (.listeners entry.role) := by
    rw [m.placeOf?, if_pos rfl]
    rfl
  have htold := hsound.told_reply hr (hrelocated.session s hsession) left [(.room q, left)] (List.nodup_singleton _)
    (by simp [Registry.toldAt, hplace, lookup_notices_cons])
  simp only [hlookup] at htold
  exact htold

/-- **Notices of moves are exact.** Whatever a hub went through, take a text frame of a registered session that wishes to
join or to leave a room. The session is moved first. Then it, those at the room that it left, those at the room that it
came to and, if nobody was there before, the staff that listens are told so, everybody at most once and in the name of
the session. Whether the reader of the session knew where it was makes no difference. -/
theorem membership_notices_exact (p : Policy σ) (store : σ) (now : Int64) (running : Bool) (actions : List Action)
    (id : SessionId) (entry : Entry) (s : Session) (frame : String) (e : Inbound)
    (hregistered : (run p (start store now running) actions).board.registry.sessions.get? id = some entry)
    (hsession : (run p (start store now running) actions).board.session? id = some s)
    (hdecoded : Inbound.decode p.maxMessageBytes frame = .ok (.envelope e)) :
    let h := run p (start store now running) actions
    let h' := h.handleText p id frame
    (e.kind = .joinRoom → ∀ v room, e.room = some v → RoomRef.roomOfJson v = .ok room →
      (entry.room = some room →
        h'.board.registry = h.board.registry ∧
          ∃ b, Relocated h.board b id (some room) ∧ Told b h'.board (some id)
            fun j => if j = id then some ⟨.joinRoom, some room, s.sender, none, none, h.now⟩ else none) ∧
      (entry.room ≠ some room →
        ∃ b, Relocated h.board b id (some room) ∧ Told b h'.board none
          (b.registry.toldAt (s.joinNotice h.now entry.room room (h.board.registry.members room).isEmpty)))) ∧
    (e.kind = .leaveRoom → ∀ q, entry.room = some q →
      ∃ b, Relocated h.board b id none ∧ Told b h'.board (some id)
        fun j => if j = id then some ⟨.leaveRoom, some q, s.sender, none, none, h.now⟩
          else b.registry.toldAt (s.leaveNotice h.now q) j) := by
  intro h h'
  have hs : h.board.Sound Session.Owns := run_owned p store now running actions
  have hr : h.board.running = true := run_answers p store now running actions id entry hregistered
  have hboard : h'.board = (h.envelopeTurn id e).outcome := by
    simp only [h', handleText_of_decode p h id hdecoded, handle_eq_perform, board_perform]
  rw [hboard]
  refine ⟨fun hkind v room hv hroom => ?_, fun hkind q hq => ?_⟩
  · have hturn : h.envelopeTurn id e = h.joinTurn id s e := by
      simp only [envelopeTurn, h, hsession, hkind]
    rw [hturn]
    exact ⟨fun hhere => joinTurn_here_exact hs hr hregistered hsession hv hroom hhere,
      fun hne => joinTurn_elsewhere_exact hs hr hregistered hv hroom hne⟩
  · have hturn : h.envelopeTurn id e = h.leaveTurn id s := by
      simp only [envelopeTurn, h, hsession, hkind]
    rw [hturn]
    exact leaveTurn_exact hs hr hregistered hsession hq

/-- a customer goes to a room where nobody is, and the outbox of somebody in the room that it leaves is full -/
theorem membership_notices_exact_opening_a_room :
    let q := RoomId.ofNat 5
    let r := RoomId.ofNat 7
    let session (name : String) (role : Role) (room : Option RoomId) (capacity : Nat) : Action :=
      .connect ⟨name⟩ { identity := ⟨name⟩, role, currentRoom := room, outbox := .ofCapacity capacity }
    let p : Policy Unit := ⟨Store.disabled, {}, 1000⟩
    let ann : SessionId := ⟨"ann"⟩
    let bob : SessionId := ⟨"bob"⟩
    let sue : SessionId := ⟨"sue"⟩
    let actions : List Action :=
      [session "ann" .customer (some q) 4, session "bob" .customer (some q) 1, session "sue" .staff none 4,
        .deliver bob ⟨.pong, none, ⟨⟨"bob"⟩, .customer⟩, none, none, 0⟩]
    let h := run p (start () 0 true) actions
    let frame := "\x7b\"type\":\"join_room\",\"room\":\"7\"\x7d"
    let e : Inbound := ⟨.joinRoom, some (.string "7"), none, none⟩
    let entry : Entry := ⟨⟨"ann"⟩, .customer, some q⟩
    ∃ s, h.board.registry.sessions.get? ann = some entry ∧ h.board.session? ann = some s ∧
      Inbound.decode p.maxMessageBytes frame = .ok (.envelope e) ∧ e.kind = .joinRoom ∧
      RoomRef.roomOfJson (.string "7") = .ok r ∧ entry.room ≠ some r ∧
      (∃ b, Relocated h.board b ann (some r) ∧ Told b (h.handleText p ann frame).board none
        (b.registry.toldAt (s.joinNotice h.now entry.room r (h.board.registry.members r).isEmpty))) ∧
      ([ann, bob, sue].map fun j => ((h.handleText p ann frame).board.session? j).map fun s =>
        (s.outbox.waiting.map Outbound.kind, s.phase)) =
          [some ([.joinRoom], .active), some ([.pong], .draining), some ([.roomOpened], .active)] := by
  intro q r session p ann bob sue actions h frame e entry
  have hentry : h.board.registry.sessions.get? ann = some entry := by decide +kernel
  have hsound : h.board.Sound Session.Owns := run_owned p () 0 true actions
  obtain ⟨s, hs, -⟩ := hsound.known ann _ hentry
  have hdecoded : Inbound.decode p.maxMessageBytes frame = .ok (.envelope e) := by cbv
  have hroom : RoomRef.roomOfJson (.string "7") = .ok r := by decide +kernel
  have helsewhere : entry.room ≠ some r := by decide +kernel
  have hexact := membership_notices_exact p () 0 true actions ann entry s frame e
  have hrun : run p (start () 0 true) actions = h := rfl
  rw [hrun] at hexact
  obtain ⟨hjoins, -⟩ := hexact hentry hs hdecoded
  obtain ⟨-, hmoves⟩ := hjoins rfl (.string "7") r rfl hroom
  have hhandle : h.handleText p ann frame = handle p h ann e := handleText_of_decode p h ann hdecoded
  refine ⟨s, hentry, hs, hdecoded, rfl, hroom, helsewhere, hmoves helsewhere, ?_⟩
  rw [hhandle]
  decide +kernel

end Hub
end ErrandHub
