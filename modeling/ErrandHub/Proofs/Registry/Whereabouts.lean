/-
The registry answers and reports as one map from sessions to rooms would.

`Whereabouts` is the reference: a single map that tells of each registered session the room it is in, if it is in one.
It has no table of rooms; whether a room is occupied is read off the map. The registry keeps two tables in step and
finds the flags of its reports on the way, so that the two agree is a simulation (`Tells.step`, `Tells.report_eq`),
carried through any number of operations (`Tells.run`, `Tells.transcript_eq`).

- `RegisterExact`, `UnregisterExact`, `JoinExact`, `LeaveExact`: what each report says, and when nothing changes.
- `Told`: every answer of the registry, read off the reference.
- `registry_refines_whereabouts`: all of them hold in every state that operations lead to, no operation changes
  anything but its own session and the rooms left and entered, and the reports of the whole run are those of the
  reference.
-/
import Mathlib.Tactic
import ErrandHub.Proofs.Registry.Operation

namespace ErrandHub

open Registry

/-! ## The reference -/

/-- where each registered session is: in a room, or in none -/
abbrev Whereabouts := Table SessionId (Option RoomId)

namespace Whereabouts

/-- how many sessions are in a room -/
def population (w : Whereabouts) (q : RoomId) : Nat := w.values.count (some q)

/-- whether somebody is in a room -/
def occupied (w : Whereabouts) (q : RoomId) : Bool := w.values.contains (some q)

def step (w : Whereabouts) : Command → Whereabouts × Report
  | .register id e =>
    if w.contains id then (w, .registered {})
    else (w.insert id e.room, .registered ⟨true, e.room.any fun q => !w.occupied q⟩)
  | .unregister id =>
    match w.get? id with
    | none => (w, .unregistered none)
    | some room => (w.erase id, .unregistered (some ⟨room, room.any fun q => !occupied (w.erase id) q⟩))
  | .join id q =>
    match w.get? id with
    | none => (w, .joined (.error (.notRegistered id)))
    | some room =>
      if room = some q then (w, .joined (.ok ⟨none, false, true⟩))
      else (w.insert id (some q), .joined (.ok ⟨room, !w.occupied q, false⟩))
  | .leave id =>
    match w.get? id with
    | none => (w, .left (.error (.notRegistered id)))
    | some room => (w.insert id none, .left (.ok room))

def run (w : Whereabouts) (commands : List Command) : Whereabouts := commands.foldl (fun w c => (w.step c).1) w

def transcript (w : Whereabouts) : List Command → List (Command × Report)
  | [] => []
  | c :: commands => (c, (w.step c).2) :: (w.step c).1.transcript commands

theorem get?_step_of_ne (w : Whereabouts) (c : Command) {j : SessionId} (hj : c.session ≠ j) :
    (w.step c).1.get? j = w.get? j := by
  cases c with
  | register id e =>
    rw [step]
    split_ifs
    · rfl
    · rw [Table.get?_insert]
      exact if_neg hj
  | unregister id =>
    rw [step]
    split
    · rfl
    · rw [Table.get?_erase]
      exact if_neg hj
  | join id q =>
    rw [step]
    split
    · rfl
    · split_ifs
      · rfl
      · rw [Table.get?_insert]
        exact if_neg hj
  | leave id =>
    rw [step]
    split
    · rfl
    · rw [Table.get?_insert]
      exact if_neg hj

theorem occupied_iff (w : Whereabouts) (q : RoomId) : w.occupied q = true ↔ ∃ id, w.get? id = some (some q) := by
  simp [occupied, Table.values, Table.get?_eq_some_iff]

/-! ## The simulation -/

/-- the reference tells where each session of the registry is -/
def Tells (w : Whereabouts) (r : Registry) : Prop := ∀ id, w.get? id = (r.sessions.get? id).map Entry.room

variable {w : Whereabouts} {r : Registry}

theorem tells_empty : Tells {} {} := fun _ => rfl

theorem Tells.get?_eq_room_iff (t : Tells w r) (id : SessionId) (q : RoomId) :
    w.get? id = some (some q) ↔ r.roomOf id = some q := by
  rw [t, roomOf_eq_some_iff, Option.map_eq_some_iff]

theorem Tells.occupied_iff (t : Tells w r) (q : RoomId) : w.occupied q = true ↔ ∃ id, r.roomOf id = some q := by
  simp only [Whereabouts.occupied_iff, t.get?_eq_room_iff]

/-- to a session that is not in a room, the room is occupied exactly if others are in it -/
theorem Tells.occupied_eq (t : Tells w r) {id : SessionId} {q : RoomId} (hid : r.roomOf id ≠ some q) :
    w.occupied q = r.sharedWith id q := by
  rw [Bool.eq_iff_iff, t.occupied_iff, sharedWith_iff]
  constructor
  · rintro ⟨j, hj⟩
    exact ⟨j, fun he => hid (he ▸ hj), hj⟩
  · rintro ⟨j, -, hj⟩
    exact ⟨j, hj⟩

theorem Tells.occupied_erase (t : Tells w r) (id : SessionId) (q : RoomId) :
    occupied (w.erase id) q = r.sharedWith id q := by
  rw [Bool.eq_iff_iff, Whereabouts.occupied_iff, sharedWith_iff]
  refine exists_congr fun j => ?_
  rw [Table.get?_erase, ← t.get?_eq_room_iff]
  by_cases hj : id = j
  · simp [hj]
  · simp [hj, Ne.symm hj]

theorem Tells.get?_of_none (t : Tells w r) {id : SessionId} (hid : r.sessions.get? id = none) : w.get? id = none := by
  rw [t, hid]
  rfl

theorem Tells.get?_of_some (t : Tells w r) {id : SessionId} {e : Entry} (hid : r.sessions.get? id = some e) :
    w.get? id = some e.room := by
  rw [t, hid]
  rfl

/-- an operation makes of its session in the reference what it makes of it in the registry -/
theorem Tells.get?_step_session (t : Tells w r) (c : Command) :
    (w.step c).1.get? c.session = (c.entry (r.sessions.get? c.session)).map Entry.room := by
  cases hid : r.sessions.get? c.session with
  | none =>
    have hw := t.get?_of_none hid
    cases c <;> simp only [Command.session] at hw <;>
      simp [Whereabouts.step, Command.session, Command.entry, Table.contains, hw]
  | some e =>
    have hw := t.get?_of_some hid
    cases c with
    | join id q =>
      simp only [Command.session] at hw
      by_cases hq : e.room = some q <;> simp [Whereabouts.step, Command.session, Command.entry, hw, hq]
    | _ =>
      simp only [Command.session] at hw
      simp [Whereabouts.step, Command.session, Command.entry, Table.contains, hw]

/-- an operation changes what the reference tells as it changes the entry of its session -/
theorem Tells.step (t : Tells w r) (c : Command) : Tells (w.step c).1 (r.step c).1 := by
  intro j
  rw [get?_step]
  by_cases hj : c.session = j
  · subst hj
    rw [if_pos rfl]
    exact t.get?_step_session c
  · rw [if_neg hj, w.get?_step_of_ne c hj]
    exact t j

/-- the reference finds every flag of the report in the one map -/
theorem Tells.report_eq (t : Tells w r) (h : Consistent r) (c : Command) : (w.step c).2 = (r.step c).2 := by
  rw [report_step h]
  cases hid : r.sessions.get? c.session with
  | none =>
    have hw := t.get?_of_none hid
    have hshared : ∀ q, w.occupied q = r.sharedWith c.session q := fun q => t.occupied_eq (by simp [roomOf, hid])
    cases c <;> simp only [Command.session] at hw hshared <;>
      simp [Whereabouts.step, Command.session, Command.report, Table.contains, hw, hshared]
  | some e =>
    have hw := t.get?_of_some hid
    cases c with
    | register id e' =>
      simp only [Command.session] at hw
      simp [Whereabouts.step, Command.report, Table.contains, hw]
    | unregister id =>
      simp only [Command.session] at hw
      simp [Whereabouts.step, Command.session, Command.report, hw, t.occupied_erase id]
    | join id q =>
      simp only [Command.session] at hw hid
      by_cases hq : e.room = some q
      · simp [Whereabouts.step, Command.report, hw, hq]
      · have hshared : w.occupied q = r.sharedWith id q := t.occupied_eq (by simpa [roomOf, hid] using hq)
        simp [Whereabouts.step, Command.session, Command.report, hw, hq, hshared]
    | leave id =>
      simp only [Command.session] at hw
      simp [Whereabouts.step, Command.report, hw]

theorem Tells.run (t : Tells w r) (commands : List Command) : Tells (w.run commands) (r.run commands) := by
  induction commands generalizing w r with
  | nil => exact t
  | cons c commands ih => exact ih (t.step c)

theorem Tells.transcript_eq (t : Tells w r) (h : Consistent r) (commands : List Command) :
    w.transcript commands = r.transcript commands := by
  induction commands generalizing w r with
  | nil => rfl
  | cons c commands ih =>
    rw [Whereabouts.transcript, Registry.transcript, t.report_eq h c, ih (t.step c) (step_consistent r c h)]

/-! ## What the registry answers -/

/-- every answer of the registry is that of the reference -/
structure Told (w : Whereabouts) (r : Registry) : Prop where
  /-- the room of a session -/
  roomOf : ∀ id, r.roomOf id = (w.get? id).join
  registered : ∀ id, r.sessions.contains id = w.contains id
  size : r.sessions.size = w.size
  /-- a room lists the sessions that the reference has there -/
  mem_members_iff : ∀ id q, id ∈ r.members q ↔ w.get? id = some (some q)
  /-- the listeners are the sessions that the reference has in no room -/
  mem_listeners_iff : ∀ id, (∃ role, id ∈ r.listeners role) ↔ w.get? id = some none
  /-- a room is there exactly when it is occupied -/
  contains_room : ∀ q, r.rooms.contains q = w.occupied q
  /-- a room has as many members as the reference has sessions there -/
  mem_counts_iff : ∀ q n, (q, n) ∈ r.counts ↔ 0 < n ∧ n = w.population q

theorem Tells.perm (t : Tells w r) : w.values.Perm (r.sessions.values.map Entry.room) := by
  have hperm : w.entries.Perm (r.sessions.entries.map fun e => (e.1, e.2.room)) := by
    refine (List.perm_ext_iff_of_nodup w.nodup.of_map ?_).2 fun e => ?_
    · refine List.Nodup.of_map Prod.fst ?_
      rw [List.map_map]
      exact r.sessions.nodup
    · rw [← Table.get?_eq_some_iff, t, Option.map_eq_some_iff, List.mem_map]
      constructor
      · intro h
        obtain ⟨e', he', hroom⟩ := h
        exact ⟨(e.1, e'), (Table.get?_eq_some_iff _ _ _).1 he', Prod.ext rfl hroom⟩
      · intro h
        obtain ⟨e', he', rfl⟩ := h
        exact ⟨e'.2, (Table.get?_eq_some_iff _ _ _).2 he', rfl⟩
  have hvalues := hperm.map Prod.snd
  rw [List.map_map] at hvalues
  rw [Table.values, Table.values, List.map_map]
  exact hvalues

theorem Tells.told (t : Tells w r) (h : Consistent r) : Told w r where
  roomOf id := by
    rw [t id, Registry.roomOf]
    cases r.sessions.get? id <;> rfl
  registered id := by
    rw [Table.contains, Table.contains, t id, Option.isSome_map]
  size := by
    have hlen := t.perm.length_eq
    simpa [Table.values, Table.size] using hlen.symm
  mem_members_iff id q := by rw [h.members_eq, h.mem_roster_iff, t.get?_eq_room_iff]
  mem_listeners_iff id := by
    simp only [Registry.mem_listeners_iff, placeOf?, Option.map_eq_some_iff, Entry.place_eq_listeners_iff, t id]
    constructor
    · intro hplace
      obtain ⟨role, e, he, hroom, -⟩ := hplace
      exact ⟨e, he, hroom⟩
    · intro hplace
      obtain ⟨e, he, hroom⟩ := hplace
      exact ⟨e.role, e, he, hroom, rfl⟩
  contains_room q := by rw [Bool.eq_iff_iff, h.contains_room_iff, t.occupied_iff]
  mem_counts_iff q n := by
    have hcount : w.population q = r.recording q := by
      rw [population, t.perm.count_eq, List.count, List.countP_map, recording]
      exact List.countP_congr fun e _ => by simp
    rw [hcount]
    exact h.agree.mem_counts_iff q n

end Whereabouts

/-! ## What the reports say -/

namespace Registry

variable {r : Registry}

/-- what a registration reports -/
structure RegisterExact (r : Registry) (id : SessionId) (e : Entry) : Prop where
  inserted_iff : (r.register id e).2.inserted = true ↔ r.sessions.get? id = none
  /-- a room is created by the first session that records it -/
  roomCreated_iff : (r.register id e).2.roomCreated = true ↔
    r.sessions.get? id = none ∧ ∃ q, e.room = some q ∧ ∀ j, r.roomOf j ≠ some q
  /-- a session that is there stays as it is, whatever room it comes with now -/
  same : r.sessions.get? id ≠ none → (r.register id e).1 = r

/-- what a removal reports -/
structure UnregisterExact (r : Registry) (id : SessionId) : Prop where
  none_iff : (r.unregister id).2 = none ↔ r.sessions.get? id = none
  same_iff : (r.unregister id).1 = r ↔ r.sessions.get? id = none
  /-- the room that was recorded, which is pruned if the session was alone in it -/
  report : ∀ e, r.sessions.get? id = some e → ∃ pruned, (r.unregister id).2 = some ⟨e.room, pruned⟩ ∧
    (pruned = true ↔ ∃ q, e.room = some q ∧ ∀ j, r.roomOf j = some q → j = id)

/-- what the wish to join a room reports -/
structure JoinExact (r : Registry) (id : SessionId) (q : RoomId) : Prop where
  error_iff : ∀ err, (r.join id q).2 = .error err ↔ r.sessions.get? id = none ∧ err = .notRegistered id
  same : r.sessions.get? id = none → (r.join id q).1 = r
  report : ∀ e, r.sessions.get? id = some e → ∃ joined, (r.join id q).2 = .ok joined ∧
    (joined.unchanged = true ↔ e.room = some q) ∧
    (∀ prev, joined.left = some prev ↔ e.room = some prev ∧ prev ≠ q) ∧
    (joined.roomCreated = true ↔ ∀ j, r.roomOf j ≠ some q)

/-- what the wish to leave reports -/
structure LeaveExact (r : Registry) (id : SessionId) : Prop where
  error_iff : ∀ err, (r.leave id).2 = .error err ↔ r.sessions.get? id = none ∧ err = .notRegistered id
  same : r.sessions.get? id = none → (r.leave id).1 = r
  report : ∀ e, r.sessions.get? id = some e → (r.leave id).2 = .ok e.room

/-- nobody shares a room with a session exactly if it is at most the session that is in it -/
theorem sharedWith_eq_false_iff (r : Registry) (id : SessionId) (q : RoomId) :
    r.sharedWith id q = false ↔ ∀ j, r.roomOf j = some q → j = id := by
  rw [← Bool.not_eq_true, sharedWith_iff]
  constructor
  · intro h j hj
    by_contra hne
    exact h ⟨j, hne, hj⟩
  · intro h hc
    obtain ⟨j, hne, hj⟩ := hc
    exact hne (h j hj)

/-- a room that a session is not in is unshared exactly if nobody is in it -/
theorem sharedWith_eq_false_iff_of_ne {id : SessionId} {q : RoomId} (hid : r.roomOf id ≠ some q) :
    r.sharedWith id q = false ↔ ∀ j, r.roomOf j ≠ some q := by
  rw [sharedWith_eq_false_iff]
  constructor
  · intro h j hj
    exact hid (h j hj ▸ hj)
  · intro h j hj
    exact absurd hj (h j)

theorem Consistent.registerExact (h : Consistent r) (id : SessionId) (e : Entry) : RegisterExact r id e := by
  have hreport : Report.registered (r.register id e).2 = _ := report_step h (.register id e)
  cases hid : r.sessions.get? id with
  | some e' =>
    simp only [Command.session, Command.report, hid, Report.registered.injEq] at hreport
    have hs : (r.register id e).1 = r := by
      rcases r.register_cases id e with ⟨-, he⟩ | ⟨hnone, -⟩
      · exact congrArg Prod.fst he
      · rw [hid] at hnone
        cases hnone
    constructor <;> simp [hreport, hid, hs]
  | none =>
    simp only [Command.session, Command.report, hid, Report.registered.injEq] at hreport
    have hroom : ∀ q, r.roomOf id ≠ some q := fun q => by simp [roomOf, hid]
    refine ⟨by simp [hreport, hid], ?_, fun hne => absurd hid hne⟩
    rw [hreport]
    simp only [hid, true_and, Option.any_eq_true, Bool.not_eq_true', sharedWith_eq_false_iff_of_ne (hroom _)]

theorem Consistent.unregisterExact (h : Consistent r) (id : SessionId) : UnregisterExact r id := by
  have hreport : Report.unregistered (r.unregister id).2 = _ := report_step h (.unregister id)
  have hmoves := unregister_moves r id
  cases hid : r.sessions.get? id with
  | none =>
    have hs : r.unregister id = (r, none) := by simp [unregister, hid]
    refine ⟨by simp [hs, hid], by simp [hs, hid], fun e he => ?_⟩
    rw [hid] at he
    cases he
  | some e =>
    simp only [Command.session, Command.report, hid, Report.unregistered.injEq] at hreport
    refine ⟨by simp [hreport, hid], ?_, fun e' he' => ?_⟩
    · constructor
      · intro hs
        have hgone := hmoves.get? id
        rw [if_pos rfl, hs] at hgone
        exact hid ▸ hgone
      · intro hnone
        rw [hid] at hnone
        cases hnone
    · obtain rfl : e = e' := Option.some.inj (hid.symm.trans he')
      refine ⟨_, hreport, ?_⟩
      simp only [Option.any_eq_true, Bool.not_eq_true', sharedWith_eq_false_iff]

theorem Consistent.joinExact (h : Consistent r) (id : SessionId) (q : RoomId) : JoinExact r id q := by
  have hreport : Report.joined (r.join id q).2 = _ := report_step h (.join id q)
  cases hid : r.sessions.get? id with
  | none =>
    have hs : r.join id q = (r, .error (.notRegistered id)) := by simp [join, hid]
    refine ⟨fun err => ?_, fun _ => by rw [hs], fun e he => ?_⟩
    · rw [hs]
      simp [hid, eq_comm]
    · rw [hid] at he
      cases he
  | some e =>
    simp only [Command.session, Command.report, hid, Report.joined.injEq] at hreport
    have hroomOf : r.roomOf id = e.room := by simp [roomOf, hid]
    refine ⟨fun err => by simp [hreport, hid], fun hnone => ?_, fun e' he' => ?_⟩
    · rw [hid] at hnone
      cases hnone
    · obtain rfl : e = e' := Option.some.inj (hid.symm.trans he')
      refine ⟨_, hreport, ?_⟩
      -- joining the room where it is already reports no room left and none created
      by_cases hq : e.room = some q
      · rw [if_pos hq]
        refine ⟨by simp [hq], fun prev => ?_, ?_⟩
        · rw [hq, Option.some.injEq]
          constructor
          · intro hnone
            cases hnone
          · intro hprev
            exact absurd hprev.1.symm hprev.2
        · constructor
          · intro hfalse
            cases hfalse
          · intro hnobody
            exact absurd (hroomOf.trans hq) (hnobody id)
      · rw [if_neg hq]
        refine ⟨by simp [hq], fun prev => ?_, ?_⟩
        · exact ⟨fun hprev => ⟨hprev, fun he => hq (he ▸ hprev)⟩, fun hprev => hprev.1⟩
        · rw [Bool.not_eq_true', sharedWith_eq_false_iff_of_ne (hroomOf ▸ hq)]

theorem Consistent.leaveExact (h : Consistent r) (id : SessionId) : LeaveExact r id := by
  have hreport : Report.left (r.leave id).2 = _ := report_step h (.leave id)
  cases hid : r.sessions.get? id with
  | none =>
    have hs : r.leave id = (r, .error (.notRegistered id)) := by simp [leave, hid]
    refine ⟨fun err => ?_, fun _ => by rw [hs], fun e he => ?_⟩
    · rw [hs]
      simp [hid, eq_comm]
    · rw [hid] at he
      cases he
  | some e =>
    simp only [Command.session, Command.report, hid, Report.left.injEq] at hreport
    refine ⟨fun err => by simp [hreport, hid], fun hnone => ?_, fun e' he' => ?_⟩
    · rw [hid] at hnone
      cases hnone
    · obtain rfl : e = e' := Option.some.inj (hid.symm.trans he')
      exact hreport

/-- every report of the registry is exact, and every operation touches its own session only -/
structure Exact (r : Registry) : Prop where
  register : ∀ id e, RegisterExact r id e
  unregister : ∀ id, UnregisterExact r id
  join : ∀ id q, JoinExact r id q
  leave : ∀ id, LeaveExact r id
  confined : ∀ c, Confined r (r.step c).1 c.session

theorem Consistent.exact (h : Consistent r) : Exact r where
  register := h.registerExact
  unregister := h.unregisterExact
  join := h.joinExact
  leave := h.leaveExact
  confined := step_confined r

/-- **The registry is one map.** In every state that operations on empty tables lead to, whatever operation comes next
reports exactly what it does and touches its own session only, and every answer is the one that a single map from
sessions to rooms gives; all reports of the run are those of that map. -/
theorem registry_refines_whereabouts (commands : List Command) :
    Exact (run {} commands) ∧ Whereabouts.Told (Whereabouts.run {} commands) (run {} commands) ∧
    Whereabouts.transcript {} commands = transcript {} commands := by
  have h : Consistent (run {} commands) := run_consistent {} commands consistent_empty
  have t : Whereabouts.Tells (Whereabouts.run {} commands) (run {} commands) := Whereabouts.tells_empty.run commands
  exact ⟨h.exact, t.told h, Whereabouts.tells_empty.transcript_eq consistent_empty commands⟩

end Registry
end ErrandHub
