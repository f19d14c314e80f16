/-
What one operation on the registry does, told by the entry of its session.

An operation replaces the entry of the session that it is about (`Command.entry`, `get?_step`), and what it reports
follows from the entry that the session had and from which rooms have other members (`Command.report`, `report_step`).
The tables of an intermediate state, from which the registry reads its reports, do not matter.

- `Confined`: an operation touches no other session, and no room but the one left and the one entered.
- `transcript`: the operations of a run with their reports.
-/
import Mathlib.Tactic
import ErrandHub.Proofs.Registry.Membership

namespace ErrandHub.Registry

/-! ## The tables of one operation -/

/-- the entry of its session after an operation, told by the one before -/
def Command.entry : Command → Option Entry → Option Entry
  | .register _ e, before => some (before.getD e)
  | .unregister _, _ => none
  | .join _ q, before => before.map fun e => { e with room := some q }
  | .leave _, before => before.map fun e => { e with room := none }

theorem get?_step (r : Registry) (c : Command) (j : SessionId) : (r.step c).1.sessions.get? j =
    if c.session = j then c.entry (r.sessions.get? j) else r.sessions.get? j := by
  -- an operation that changes nothing gives its session the entry that it has
  have hsame : (r.step c).1 = r → c.entry (r.sessions.get? c.session) = r.sessions.get? c.session →
      (r.step c).1.sessions.get? j = if c.session = j then c.entry (r.sessions.get? j) else r.sessions.get? j := by
    intro he hentry
    rw [he]
    split_ifs with hj
    · rw [← hj, hentry]
    · rfl
  have hmoves : ∀ entry, Moves r (r.step c).1 c.session entry → c.entry (r.sessions.get? c.session) = entry →
      (r.step c).1.sessions.get? j = if c.session = j then c.entry (r.sessions.get? j) else r.sessions.get? j := by
    intro entry m hentry
    rw [m.get?]
    split_ifs with hj
    · rw [← hj, hentry]
    · rfl
  cases c with
  | register id e =>
    rcases r.register_cases id e with ⟨hid, he⟩ | ⟨hid, m⟩
    · obtain ⟨e', he'⟩ := Option.ne_none_iff_exists'.1 hid
      exact hsame (congrArg Prod.fst he) (by simp [Command.entry, Command.session, he'])
    · exact hmoves _ m (by simp [Command.entry, Command.session, hid])
  | unregister id => exact hmoves _ (unregister_moves r id) rfl
  | join id q =>
    rcases r.join_cases id q with ⟨hid, he⟩ | ⟨e, hid, hq, he⟩ | ⟨e, r', hid, -, m, he⟩
    · exact hsame (congrArg Prod.fst he) (by simp [Command.entry, Command.session, hid])
    · exact hsame (congrArg Prod.fst he) (by simp [Command.entry, Command.session, hid, ← hq])
    · have hr' : (r.step (.join id q)).1 = r' := congrArg Prod.fst he
      exact hmoves _ (hr' ▸ m) (by simp [Command.entry, Command.session, hid])
  | leave id =>
    rcases r.leave_cases id with ⟨hid, he⟩ | ⟨e, hid, hq, he⟩ | ⟨e, q, r', hid, -, m, he⟩
    · exact hsame (congrArg Prod.fst he) (by simp [Command.entry, Command.session, hid])
    · exact hsame (congrArg Prod.fst he) (by simp [Command.entry, Command.session, hid, ← hq])
    · have hr' : (r.step (.leave id)).1 = r' := congrArg Prod.fst he
      exact hmoves _ (hr' ▸ m) (by simp [Command.entry, Command.session, hid])

theorem get?_exit_of_ne {rooms : Table RoomId (List SessionId)} {room : Option RoomId} {q : RoomId}
    (hq : room ≠ some q) (id : SessionId) : (exit rooms room id).get? q = rooms.get? q := by
  cases room with
  | none => rfl
  | some prev =>
    have hne : prev ≠ q := fun h => hq (congrArg some h)
    simp only [exit, removeMember]
    split
    · rfl
    · split_ifs
      · rw [Table.get?_erase, if_neg hne]
      · rw [Table.get?_insert, if_neg hne]

theorem get?_enter_of_ne {rooms : Table RoomId (List SessionId)} {room : Option RoomId} {q : RoomId}
    (hq : room ≠ some q) (id : SessionId) : (enter rooms room id).get? q = rooms.get? q := by
  cases room with
  | none => rfl
  | some next =>
    have hne : next ≠ q := fun h => hq (congrArg some h)
    rw [enter, addMember, Table.get?_insert, if_neg hne]

/-- a change that touches one session, and no room but those that the session is in before and after -/
structure Confined (r r' : Registry) (id : SessionId) : Prop where
  sessions : ∀ j, j ≠ id → r'.sessions.get? j = r.sessions.get? j
  rooms : ∀ q, r.roomOf id ≠ some q → r'.roomOf id ≠ some q → r'.rooms.get? q = r.rooms.get? q

theorem step_confined (r : Registry) (c : Command) : Confined r (r.step c).1 c.session := by
  rcases step_moves r c with he | ⟨entry, m⟩
  · rw [he]
    exact ⟨fun _ _ => rfl, fun _ _ _ => rfl⟩
  · refine ⟨fun j hj => ?_, fun q hbefore hafter => ?_⟩
    · rw [m.get?, if_neg hj.symm]
    · rw [m.roomOf, if_pos rfl] at hafter
      rw [m.rooms, get?_enter_of_ne hafter, get?_exit_of_ne hbefore]

/-! ## The report of one operation -/

/-- whether a session other than this one records a room -/
def sharedWith (r : Registry) (id : SessionId) (q : RoomId) : Bool :=
  r.sessions.entries.any fun e => e.1 ≠ id && e.2.room = some q

theorem sharedWith_iff (r : Registry) (id : SessionId) (q : RoomId) :
    r.sharedWith id q = true ↔ ∃ j, j ≠ id ∧ r.roomOf j = some q := by
  simp only [sharedWith, List.any_eq_true, Bool.and_eq_true, decide_eq_true_eq, roomOf_eq_some_iff,
    Table.get?_eq_some_iff]
  constructor
  · rintro ⟨⟨j, e⟩, hmem, hj, hroom⟩
    exact ⟨j, hj, e, hmem, hroom⟩
  · rintro ⟨j, hj, e, hmem, hroom⟩
    exact ⟨⟨j, e⟩, hmem, hj, hroom⟩

/-- what an operation reports, told by the entry of its session before it and by the rooms that others are in -/
def Command.report (c : Command) (before : Option Entry) (shared : RoomId → Bool) : Report :=
  match c, before with
  | .register .., some _ => .registered {}
  | .register _ e, none => .registered ⟨true, e.room.any fun q => !shared q⟩
  | .unregister _, none => .unregistered none
  | .unregister _, some e => .unregistered (some ⟨e.room, e.room.any fun q => !shared q⟩)
  | .join id _, none => .joined (.error (.notRegistered id))
  | .join _ q, some e =>
    .joined (.ok (if e.room = some q then ⟨none, false, true⟩ else ⟨e.room, !shared q, false⟩))
  | .leave id, none => .left (.error (.notRegistered id))
  | .leave _, some e => .left (.ok e.room)

variable {r : Registry}

/-- a room is empty without a session exactly if nobody shares it with the session -/
theorem Consistent.isEmpty_roster_exit (h : Consistent r) (id : SessionId) (q : RoomId) :
    (roster (exit r.rooms (r.roomOf id) id) q).isEmpty = !r.sharedWith id q := by
  rw [Bool.eq_iff_iff, List.isEmpty_iff, List.eq_nil_iff_forall_not_mem, Bool.not_eq_true', ← Bool.not_eq_true,
    sharedWith_iff, not_exists]
  refine forall_congr' fun j => not_congr ?_
  rw [mem_roster_exit h.tidy, h.mem_roster_iff]
  constructor
  · rintro ⟨hj, hnot⟩
    exact ⟨fun he => hnot ⟨he ▸ hj, he⟩, hj⟩
  · rintro ⟨hne, hj⟩
    exact ⟨hj, fun hc => hne hc.2⟩

/-- a room that loses its last member is empty afterwards, and one that nobody is in loses none -/
theorem snd_removeMember {rooms : Table RoomId (List SessionId)} {q : RoomId} {id : SessionId}
    (hid : id ∈ roster rooms q) : (removeMember rooms q id).2 = (roster (removeMember rooms q id).1 q).isEmpty := by
  rw [roster_removeMember, if_pos rfl, removeMember]
  cases hq : rooms.get? q with
  | none =>
    rw [roster, hq] at hid
    cases hid
  | some ms =>
    simp only [roster, hq, Option.getD_some]
    split_ifs with hms <;> simp [hms]

/-- **What an operation reports** follows from the entry of its session and from the rooms that others are in. -/
theorem report_step (h : Consistent r) (c : Command) :
    (r.step c).2 = c.report (r.sessions.get? c.session) (r.sharedWith c.session) := by
  cases c with
  | register id e =>
    have hempty := h.isEmpty_roster_exit id
    cases hid : r.sessions.get? id with
    | some e' => simp [step, register, Command.report, Command.session, Table.contains, hid]
    | none =>
      simp only [roomOf, hid, Option.bind_none, exit] at hempty
      cases hroom : e.room <;>
        simp [step, register, Command.report, Command.session, Table.contains, addMember, hid, hroom, hempty]
  | unregister id =>
    cases hid : r.sessions.get? id with
    | none => simp [step, unregister, Command.report, Command.session, hid]
    | some e =>
      cases hroom : e.room with
      | none => simp [step, unregister, Command.report, Command.session, hid, hroom]
      | some q =>
        have hin : r.roomOf id = some q := (roomOf_eq_some_iff r id q).2 ⟨e, hid, hroom⟩
        have hempty := h.isEmpty_roster_exit id q
        rw [hin, exit, ← snd_removeMember ((h.mem_roster_iff q id).2 hin)] at hempty
        simp [step, unregister, Command.report, Command.session, hid, hroom, hempty]
  | join id q =>
    rcases r.join_cases id q with ⟨hid, he⟩ | ⟨e, hid, hq, he⟩ | ⟨e, r', hid, hq, -, he⟩
    · simp [step, he, Command.report, Command.session, hid]
    · simp [step, he, Command.report, Command.session, hid, hq]
    · have hroom : r.roomOf id = e.room := by simp [roomOf, hid]
      rw [← hroom, h.isEmpty_roster_exit] at he
      simp [step, he, Command.report, Command.session, hid, hq, hroom]
  | leave id =>
    rcases r.leave_cases id with ⟨hid, he⟩ | ⟨e, hid, hq, he⟩ | ⟨e, q, r', hid, hq, -, he⟩ <;>
      simp [step, he, Command.report, Command.session, hid]
    · exact hq.symm
    · exact hq.symm

/-! ## Runs -/

/-- the operations of a run, each with what it reports -/
def transcript (r : Registry) : List Command → List (Command × Report)
  | [] => []
  | c :: commands => (c, (r.step c).2) :: (r.step c).1.transcript commands

end ErrandHub.Registry
