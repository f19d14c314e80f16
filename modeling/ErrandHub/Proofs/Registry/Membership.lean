/-
The two tables of the registry tell the same story, after any number of operations.

Every operation but a void one is a move: one session gives up the place it had and takes another, or none (`Moves`,
`step_moves`). A move takes the session out of the room that its entry records and puts it into the room that its new
entry records, so the invariant `Consistent` needs one proof for all operations (`Moves.consistent`);
`run_consistent` lifts it to runs.

- `Place`: where a registered session is found, among the members of a room or among the listeners of its role.
  `mem_members_iff` and `mem_listeners_iff` read both listings off the place, so no session is in two.
- `run_tables_agree`: what the registry answers to every question in every state that operations lead to (`Agree`).
-/
import Mathlib.Algebra.BigOperators.Group.Finset.Basic
import Mathlib.Tactic
import ErrandHub.Registry

namespace ErrandHub

/-- where a registered session is found -/
inductive Place where
  /-- among the members of a room -/
  | room (room : RoomId)
  /-- among the listeners of a role -/
  | listeners (role : Role)
  deriving DecidableEq, Repr

def Entry.place (e : Entry) : Place :=
  match e.room with
  | some q => .room q
  | none => .listeners e.role

theorem Entry.place_eq_room_iff (e : Entry) (q : RoomId) : e.place = .room q ↔ e.room = some q := by
  unfold Entry.place
  split <;> simp_all

theorem Entry.place_eq_listeners_iff (e : Entry) (role : Role) :
    e.place = .listeners role ↔ e.room = none ∧ e.role = role := by
  unfold Entry.place
  split <;> simp_all

namespace Registry

/-- the place of a session, if it is registered -/
def placeOf? (r : Registry) (id : SessionId) : Option Place := (r.sessions.get? id).map Entry.place

/-- how many registered sessions record a room -/
def recording (r : Registry) (q : RoomId) : Nat := r.sessions.values.countP fun e => e.room = some q

theorem roomOf_eq_some_iff (r : Registry) (id : SessionId) (q : RoomId) :
    r.roomOf id = some q ↔ ∃ e, r.sessions.get? id = some e ∧ e.room = some q := by
  simp [roomOf, Option.bind_eq_some_iff]

theorem placeOf?_eq_room_iff (r : Registry) (id : SessionId) (q : RoomId) :
    r.placeOf? id = some (.room q) ↔ r.roomOf id = some q := by
  simp [placeOf?, roomOf_eq_some_iff, Entry.place_eq_room_iff]

/-! ## The table of rooms -/

variable {rooms : Table RoomId (List SessionId)}

/-- a table of rooms without empty rooms and without repeated members -/
structure Tidy (rooms : Table RoomId (List SessionId)) : Prop where
  occupied : ∀ q ms, rooms.get? q = some ms → ms ≠ []
  nodup : ∀ q, (roster rooms q).Nodup

theorem roster_insert (q q' : RoomId) (ms : List SessionId) :
    roster (rooms.insert q ms) q' = if q = q' then ms else roster rooms q' := by
  unfold roster
  rw [Table.get?_insert]
  split_ifs <;> rfl

theorem roster_erase (q q' : RoomId) : roster (rooms.erase q) q' = if q = q' then [] else roster rooms q' := by
  unfold roster
  rw [Table.get?_erase]
  split_ifs <;> rfl

theorem mem_roster_addMember (q q' : RoomId) (id j : SessionId) :
    j ∈ roster (addMember rooms q id).1 q' ↔ j ∈ roster rooms q' ∨ q = q' ∧ j = id := by
  simp only [addMember, roster_insert]
  split_ifs with hq hm
  · subst hq
    refine ⟨Or.inl, fun h => ?_⟩
    rcases h with h | ⟨-, rfl⟩
    · exact h
    · exact hm
  · subst hq
    simp [or_comm]
  · simp [hq]

theorem Tidy.addMember (h : Tidy rooms) (q : RoomId) (id : SessionId) : Tidy (addMember rooms q id).1 := by
  refine ⟨fun q' ms hms => ?_, fun q' => ?_⟩
  · simp only [Registry.addMember, Table.get?_insert] at hms
    split_ifs at hms with hq hm
    · cases hms
      exact List.ne_nil_of_mem hm
    · cases hms
      exact List.cons_ne_nil _ _
    · exact h.occupied q' ms hms
  · simp only [Registry.addMember, roster_insert]
    split_ifs with hq hm
    · exact h.nodup q
    · exact List.nodup_cons.2 ⟨hm, h.nodup q⟩
    · exact h.nodup q'

theorem roster_removeMember (q q' : RoomId) (id : SessionId) :
    roster (removeMember rooms q id).1 q' = if q = q' then (roster rooms q').erase id else roster rooms q' := by
  unfold removeMember
  split
  · rename_i hq
    split_ifs with he
    · subst he
      simp [roster, hq]
    · rfl
  · rename_i ms hq
    simp only
    split_ifs with hms he he
    · subst he
      simp [roster, hq, List.isEmpty_iff.1 hms]
    · simp [roster_erase, he]
    · subst he
      simp [roster, hq]
    · simp [roster_insert, he]

theorem mem_roster_removeMember (h : Tidy rooms) (q q' : RoomId) (id j : SessionId) :
    j ∈ roster (removeMember rooms q id).1 q' ↔ j ∈ roster rooms q' ∧ ¬(q = q' ∧ j = id) := by
  rw [roster_removeMember]
  split_ifs with hq
  · rw [(h.nodup q').mem_erase_iff]
    tauto
  · simp [hq]

theorem Tidy.removeMember (h : Tidy rooms) (q : RoomId) (id : SessionId) : Tidy (removeMember rooms q id).1 := by
  refine ⟨fun q' ms hms => ?_, fun q' => ?_⟩
  · unfold Registry.removeMember at hms
    split at hms
    · exact h.occupied q' ms hms
    · simp only at hms
      split_ifs at hms with he
      · rw [Table.get?_erase] at hms
        split_ifs at hms
        exact h.occupied q' ms hms
      · rw [Table.get?_insert] at hms
        split_ifs at hms
        · cases hms
          simpa using he
        · exact h.occupied q' ms hms
  · rw [roster_removeMember]
    split_ifs
    · exact (h.nodup q').erase id
    · exact h.nodup q'

/-- take a session out of the room it is in, if it is in one -/
def exit (rooms : Table RoomId (List SessionId)) (room : Option RoomId) (id : SessionId) :
    Table RoomId (List SessionId) :=
  match room with
  | some q => (removeMember rooms q id).1
  | none => rooms

/-- put a session into a room, or into none -/
def enter (rooms : Table RoomId (List SessionId)) (room : Option RoomId) (id : SessionId) :
    Table RoomId (List SessionId) :=
  match room with
  | some q => (addMember rooms q id).1
  | none => rooms

theorem mem_roster_exit (h : Tidy rooms) (room : Option RoomId) (q : RoomId) (id j : SessionId) :
    j ∈ roster (exit rooms room id) q ↔ j ∈ roster rooms q ∧ ¬(room = some q ∧ j = id) := by
  cases room with
  | none => simp [exit]
  | some q' => simp [exit, mem_roster_removeMember h]

theorem mem_roster_enter (room : Option RoomId) (q : RoomId) (id j : SessionId) :
    j ∈ roster (enter rooms room id) q ↔ j ∈ roster rooms q ∨ room = some q ∧ j = id := by
  cases room with
  | none => simp [enter]
  | some q' => simp [enter, mem_roster_addMember]

theorem Tidy.exit (h : Tidy rooms) (room : Option RoomId) (id : SessionId) : Tidy (exit rooms room id) := by
  cases room with
  | none => exact h
  | some q => exact h.removeMember q id

theorem Tidy.enter (h : Tidy rooms) (room : Option RoomId) (id : SessionId) : Tidy (enter rooms room id) := by
  cases room with
  | none => exact h
  | some q => exact h.addMember q id

/-! ## The invariant -/

/-- the table of rooms is tidy, and lists a session in a room exactly when the entry of the session records it -/
structure Consistent (r : Registry) : Prop where
  tidy : Tidy r.rooms
  mem_roster_iff : ∀ q id, id ∈ roster r.rooms q ↔ r.roomOf id = some q

theorem consistent_empty : Consistent {} := by
  refine ⟨⟨fun q ms h => ?_, fun q => List.nodup_nil⟩, fun q id => ?_⟩
  · cases h
  · simp [roster, roomOf, Table.get?]

/-- one session, and no other, has got a new entry or none, and has changed rooms accordingly -/
structure Moves (r r' : Registry) (id : SessionId) (entry : Option Entry) : Prop where
  get? : ∀ j, r'.sessions.get? j = if id = j then entry else r.sessions.get? j
  rooms : r'.rooms = enter (exit r.rooms (r.roomOf id) id) (entry.bind Entry.room) id

theorem Moves.roomOf {r r' : Registry} {id : SessionId} {entry : Option Entry} (m : Moves r r' id entry)
    (j : SessionId) : r'.roomOf j = if id = j then entry.bind Entry.room else r.roomOf j := by
  unfold Registry.roomOf
  rw [m.get?]
  split_ifs <;> rfl

theorem Moves.placeOf? {r r' : Registry} {id : SessionId} {entry : Option Entry} (m : Moves r r' id entry)
    (j : SessionId) : r'.placeOf? j = if id = j then entry.map Entry.place else r.placeOf? j := by
  unfold Registry.placeOf?
  rw [m.get?]
  split_ifs <;> rfl

theorem Moves.consistent {r r' : Registry} {id : SessionId} {entry : Option Entry} (m : Moves r r' id entry)
    (h : Consistent r) : Consistent r' := by
  refine ⟨?_, fun q j => ?_⟩
  · rw [m.rooms]
    exact (h.tidy.exit _ _).enter _ _
  · rw [m.rooms, mem_roster_enter, mem_roster_exit h.tidy, h.mem_roster_iff, m.roomOf]
    by_cases hj : id = j
    · subst hj
      simp
    · simp [hj, Ne.symm hj]

/-- what a registration does: nothing to a session that is there, and else a move to its place -/
theorem register_cases (r : Registry) (id : SessionId) (e : Entry) :
    (r.sessions.get? id ≠ none ∧ r.register id e = (r, {})) ∨
    (r.sessions.get? id = none ∧ Moves r (r.register id e).1 id (some e)) := by
  cases h : r.sessions.get? id with
  | some e' =>
    left
    simp [register, Table.contains, h]
  | none =>
    right
    have hroom : r.roomOf id = none := by simp [Registry.roomOf, h]
    have hnew : r.sessions.contains id = false := by simp [Table.contains, h]
    refine ⟨rfl, ?_⟩
    cases hr : e.room <;> constructor <;> simp [register, hnew, hr, hroom, exit, enter]

theorem unregister_moves (r : Registry) (id : SessionId) : Moves r (r.unregister id).1 id none := by
  cases h : r.sessions.get? id with
  | none =>
    refine ⟨fun j => ?_, ?_⟩
    · split_ifs with hj
      · subst hj
        simp [unregister, h]
      · simp [unregister, h]
    · simp [unregister, h, Registry.roomOf, exit, enter]
  | some e => cases hr : e.room <;> constructor <;> simp [unregister, h, hr, Registry.roomOf, exit, enter]

/-- what the wish to join a room does: it fails, or changes nothing, or moves the session -/
theorem join_cases (r : Registry) (id : SessionId) (q : RoomId) :
    (r.sessions.get? id = none ∧ r.join id q = (r, .error (.notRegistered id))) ∨
    (∃ e, r.sessions.get? id = some e ∧ e.room = some q ∧ r.join id q = (r, .ok ⟨none, false, true⟩)) ∨
    (∃ e r', r.sessions.get? id = some e ∧ e.room ≠ some q ∧ Moves r r' id (some { e with room := some q }) ∧
      r.join id q = (r', .ok ⟨e.room, (roster (exit r.rooms e.room id) q).isEmpty, false⟩)) := by
  cases h : r.sessions.get? id with
  | none =>
    left
    simp [join, h]
  | some e =>
    right
    by_cases hq : e.room = some q
    · left
      exact ⟨e, rfl, hq, by simp [join, h, hq]⟩
    · right
      refine ⟨e, (r.join id q).1, rfl, hq, ?_, ?_⟩
      · cases hr : e.room <;> rw [hr] at hq <;> constructor <;> simp [join, h, hr, hq, Registry.roomOf, exit, enter]
      · cases hr : e.room <;> rw [hr] at hq <;> simp [join, h, hr, hq, exit, addMember]

theorem leave_cases (r : Registry) (id : SessionId) :
    (r.sessions.get? id = none ∧ r.leave id = (r, .error (.notRegistered id))) ∨
    (∃ e, r.sessions.get? id = some e ∧ e.room = none ∧ r.leave id = (r, .ok none)) ∨
    (∃ e q r', r.sessions.get? id = some e ∧ e.room = some q ∧ Moves r r' id (some { e with room := none }) ∧
      r.leave id = (r', .ok (some q))) := by
  cases h : r.sessions.get? id with
  | none =>
    left
    simp [leave, h]
  | some e =>
    right
    cases hq : e.room with
    | none =>
      left
      exact ⟨e, rfl, hq, by simp [leave, h, hq]⟩
    | some q =>
      right
      refine ⟨e, q, (r.leave id).1, rfl, hq, ?_, by simp [leave, h, hq]⟩
      constructor <;> simp [leave, h, hq, Registry.roomOf, exit, enter]

theorem isSome_unregister (r : Registry) (id : SessionId) :
    (r.unregister id).2.isSome = r.sessions.contains id := by
  unfold unregister Table.contains
  split
  · rename_i h
    rw [h]
    rfl
  · rename_i e h
    rw [h]
    split <;> rfl

def Command.session : Command → SessionId
  | .register id _ | .unregister id | .join id _ | .leave id => id

/-- **Operations are moves.** An operation changes nothing, or moves the session it is about. -/
theorem step_moves (r : Registry) (c : Command) :
    (r.step c).1 = r ∨ ∃ entry, Moves r (r.step c).1 c.session entry := by
  cases c with
  | register id e =>
    rcases r.register_cases id e with ⟨-, he⟩ | ⟨-, m⟩
    · exact Or.inl (congrArg Prod.fst he)
    · exact Or.inr ⟨_, m⟩
  | unregister id => exact Or.inr ⟨_, unregister_moves r id⟩
  | join id q =>
    rcases r.join_cases id q with ⟨-, he⟩ | ⟨e, -, -, he⟩ | ⟨e, r', -, -, m, he⟩
    · exact Or.inl (congrArg Prod.fst he)
    · exact Or.inl (congrArg Prod.fst he)
    · right
      rw [show (r.step (.join id q)).1 = r' from congrArg Prod.fst he]
      exact ⟨_, m⟩
  | leave id =>
    rcases r.leave_cases id with ⟨-, he⟩ | ⟨e, -, -, he⟩ | ⟨e, q, r', -, -, m, he⟩
    · exact Or.inl (congrArg Prod.fst he)
    · exact Or.inl (congrArg Prod.fst he)
    · right
      rw [show (r.step (.leave id)).1 = r' from congrArg Prod.fst he]
      exact ⟨_, m⟩

theorem step_consistent (r : Registry) (c : Command) (h : Consistent r) : Consistent (r.step c).1 := by
  rcases step_moves r c with he | ⟨entry, m⟩
  · rw [he]
    exact h
  · exact m.consistent h

theorem run_cons (r : Registry) (c : Command) (commands : List Command) :
    r.run (c :: commands) = (r.step c).1.run commands := rfl

theorem run_consistent (r : Registry) (commands : List Command) (h : Consistent r) : Consistent (r.run commands) := by
  induction commands generalizing r with
  | nil => exact h
  | cons c commands ih => exact ih _ (step_consistent r c h)

/-- the registry after these sessions are unregistered -/
def withdraw (r : Registry) (ids : List SessionId) : Registry := r.run (ids.map Command.unregister)

theorem get?_withdraw (r : Registry) (ids : List SessionId) (j : SessionId) :
    (r.withdraw ids).sessions.get? j = if j ∈ ids then none else r.sessions.get? j := by
  induction ids generalizing r with
  | nil => simp [withdraw, run]
  | cons id ids ih =>
    refine (ih (r.unregister id).1).trans ?_
    rw [(unregister_moves r id).get?]
    by_cases hj : id = j
    · subst hj
      simp
    · simp [hj, Ne.symm hj]

/-! ## What the registry answers -/

/-- the answers of a registry agree with the entries of its sessions -/
structure Agree (r : Registry) : Prop where
  /-- a room lists a session exactly when the entry of the session records the room -/
  listed_iff : ∀ q id, id ∈ roster r.rooms q ↔ ∃ e, r.sessions.get? id = some e ∧ e.room = some q
  /-- a room that is there has members -/
  occupied : ∀ q ms, r.rooms.get? q = some ms → ms ≠ []
  /-- a registered session is in exactly one room and no listener, or a listener of its role alone and in no room -/
  one_place : ∀ id e, r.sessions.get? id = some e →
    ((∃! q, id ∈ r.members q) ∧ ∀ role, id ∉ r.listeners role) ∨
      ((∀ q, id ∉ r.members q) ∧ ∀ role, id ∈ r.listeners role ↔ role = e.role)
  /-- a session that is not registered is nowhere -/
  no_place : ∀ id, r.sessions.get? id = none → (∀ q, id ∉ r.members q) ∧ ∀ role, id ∉ r.listeners role
  /-- a room is counted at most once -/
  counts_nodup : (r.counts.map Prod.fst).Nodup
  /-- a room is counted exactly when some session records it, and by the number of those sessions -/
  mem_counts_iff : ∀ q n, (q, n) ∈ r.counts ↔ 0 < n ∧ n = r.recording q
  /-- all members and all listeners together are all sessions -/
  total : (r.counts.map Prod.snd).sum + (Role.all.map fun role => (r.listeners role).length).sum = r.sessions.size
  members_nodup : ∀ q, (r.members q).Nodup
  listeners_nodup : ∀ role, (r.listeners role).Nodup
  /-- a candidate is online exactly when it has a registered session -/
  mem_onlineAmong_iff : ∀ candidates i, i ∈ r.onlineAmong candidates ↔
    i ∈ candidates ∧ ∃ id e, r.sessions.get? id = some e ∧ e.identity = i

variable {r : Registry}

theorem Consistent.contains_room_iff (h : Consistent r) (q : RoomId) :
    r.rooms.contains q = true ↔ ∃ id, r.roomOf id = some q := by
  simp only [← h.mem_roster_iff]
  rw [Table.contains, roster]
  cases hq : r.rooms.get? q with
  | none => simp
  | some ms => simpa using List.exists_mem_of_ne_nil ms (h.tidy.occupied q ms hq)

theorem Consistent.members_eq (h : Consistent r) (q : RoomId) : r.members q = roster r.rooms q := by
  refine List.filter_eq_self.2 fun id hid => ?_
  obtain ⟨e, he, -⟩ := (roomOf_eq_some_iff r id q).1 ((h.mem_roster_iff q id).1 hid)
  simp [Table.contains, he]

theorem Consistent.mem_members_iff (h : Consistent r) (q : RoomId) (id : SessionId) :
    id ∈ r.members q ↔ r.placeOf? id = some (.room q) := by
  rw [h.members_eq, h.mem_roster_iff, placeOf?_eq_room_iff]

theorem mem_listeners_iff (r : Registry) (role : Role) (id : SessionId) :
    id ∈ r.listeners role ↔ r.placeOf? id = some (.listeners role) := by
  simp only [listeners, placeOf?, List.mem_map, List.mem_filter, Option.map_eq_some_iff, Table.get?_eq_some_iff,
    Entry.place_eq_listeners_iff, Bool.and_eq_true, Option.isNone_iff_eq_none, decide_eq_true_eq]
  constructor
  · rintro ⟨⟨j, e⟩, h, rfl⟩
    exact ⟨e, h⟩
  · rintro ⟨e, h⟩
    exact ⟨(id, e), h, rfl⟩

theorem listeners_nodup (r : Registry) (role : Role) : (r.listeners role).Nodup :=
  (List.filter_sublist.map Prod.fst).nodup r.sessions.nodup

theorem Consistent.length_roster (h : Consistent r) (q : RoomId) : (roster r.rooms q).length = r.recording q := by
  have hperm : (roster r.rooms q).Perm ((r.sessions.entries.filter fun e => e.2.room = some q).map Prod.fst) := by
    refine (List.perm_ext_iff_of_nodup (h.tidy.nodup q) ?_).2 fun id => ?_
    · exact (List.filter_sublist.map Prod.fst).nodup r.sessions.nodup
    · rw [h.mem_roster_iff, roomOf_eq_some_iff]
      simp [Table.get?_eq_some_iff]
  rw [hperm.length_eq, List.length_map, recording, Table.values, List.countP_map, List.countP_eq_length_filter]
  rfl

theorem Consistent.counts_eq (h : Consistent r) : r.counts = r.rooms.keys.map fun q => (q, r.recording q) := by
  unfold counts Table.keys
  rw [List.map_map]
  refine List.map_congr_left fun e he => ?_
  have hms : r.rooms.get? e.1 = some e.2 := (Table.get?_eq_some_iff _ _ _).2 he
  have hlen := h.length_roster e.1
  rw [roster, hms] at hlen
  exact congrArg (Prod.mk e.1) hlen

theorem Consistent.mem_keys_iff (h : Consistent r) (q : RoomId) : q ∈ r.rooms.keys ↔ 0 < r.recording q := by
  rw [← h.length_roster, Table.mem_keys_iff, Table.contains, List.length_pos_iff]
  cases hq : r.rooms.get? q with
  | none => simp [roster, hq]
  | some ms => simpa [roster, hq] using h.tidy.occupied q ms hq

theorem recording_eq_count (r : Registry) (q : RoomId) :
    r.recording q = (r.sessions.values.map Entry.place).count (.room q) := by
  rw [recording, List.count, List.countP_map]
  refine List.countP_congr fun e _ => ?_
  simp [Entry.place_eq_room_iff]

theorem length_listeners (r : Registry) (role : Role) :
    (r.listeners role).length = (r.sessions.values.map Entry.place).count (.listeners role) := by
  rw [listeners, List.length_map, ← List.countP_eq_length_filter, List.count, List.countP_map, Table.values,
    List.countP_map]
  refine List.countP_congr fun e _ => ?_
  simp [Entry.place_eq_listeners_iff, Option.isNone_iff_eq_none]

/-- the places where sessions are found, one after another -/
def places (r : Registry) : List Place := r.rooms.keys.map .room ++ Role.all.map .listeners

theorem nodup_places (r : Registry) : r.places.Nodup := by
  refine List.nodup_append.2 ⟨?_, by decide, ?_⟩
  · exact List.Nodup.map (fun _ _ h => by injection h) r.rooms.nodup
  · simp

theorem Consistent.place_mem_places (h : Consistent r) (e : Entry) (he : e ∈ r.sessions.values) :
    e.place ∈ r.places := by
  unfold places
  rw [List.mem_append, List.mem_map, List.mem_map]
  cases hr : e.room with
  | none => exact Or.inr ⟨e.role, by cases e.role <;> decide, ((e.place_eq_listeners_iff _).2 ⟨hr, rfl⟩).symm⟩
  | some q =>
    refine Or.inl ⟨q, (h.mem_keys_iff q).2 ?_, ((e.place_eq_room_iff q).2 hr).symm⟩
    exact List.countP_pos_iff.2 ⟨e, he, by simpa using hr⟩

/-- every session is counted in its place, and nowhere else -/
theorem Consistent.sum_counts (h : Consistent r) :
    (r.counts.map Prod.snd).sum + (Role.all.map fun role => (r.listeners role).length).sum = r.sessions.size := by
  set ps := r.sessions.values.map Entry.place with hps
  have hcount : (r.places.map fun p => ps.count p).sum = ps.length := by
    rw [← List.sum_toFinset _ r.nodup_places]
    have hin : ∀ p ∈ (ps : Multiset Place), p ∈ r.places.toFinset := by
      intro p hp
      obtain ⟨e, he, rfl⟩ := List.mem_map.1 (Multiset.mem_coe.1 hp)
      exact List.mem_toFinset.2 (h.place_mem_places e he)
    simpa using Multiset.sum_count_eq_card hin
  rw [places, List.map_append, List.sum_append, List.map_map, List.map_map] at hcount
  calc (r.counts.map Prod.snd).sum + (Role.all.map fun role => (r.listeners role).length).sum
      = (r.rooms.keys.map fun q => ps.count (.room q)).sum
          + (Role.all.map fun role => ps.count (.listeners role)).sum := by
        rw [h.counts_eq, List.map_map]
        simp only [Function.comp_def, recording_eq_count, length_listeners, hps]
    _ = ps.length := hcount
    _ = r.sessions.size := by simp [hps, Table.values, Table.size]

theorem mem_onlineAmong (r : Registry) (candidates : List Identity) (i : Identity) :
    i ∈ r.onlineAmong candidates ↔ i ∈ candidates ∧ ∃ id e, r.sessions.get? id = some e ∧ e.identity = i := by
  simp [onlineAmong, Table.values, Table.get?_eq_some_iff]

theorem Consistent.agree (h : Consistent r) : Agree r where
  listed_iff q id := by rw [h.mem_roster_iff, roomOf_eq_some_iff]
  occupied := h.tidy.occupied
  one_place id e he := by
    have hp : r.placeOf? id = some e.place := by simp [placeOf?, he]
    simp only [h.mem_members_iff, mem_listeners_iff, hp]
    -- the place of an entry says which one of the two it is, its room or the listeners of its role
    cases hr : e.room with
    | some q =>
      left
      rw [(e.place_eq_room_iff q).2 hr]
      exact ⟨⟨q, rfl, fun q' hq' => by simpa [eq_comm] using hq'⟩, fun role => by simp⟩
    | none =>
      right
      rw [(e.place_eq_listeners_iff _).2 ⟨hr, rfl⟩]
      exact ⟨fun q => by simp, fun role => by simp [eq_comm]⟩
  no_place id he := by
    have hp : r.placeOf? id = none := by simp [placeOf?, he]
    simp [h.mem_members_iff, mem_listeners_iff, hp]
  counts_nodup := by
    rw [h.counts_eq, List.map_map]
    exact (List.map_id r.rooms.keys).symm ▸ r.rooms.nodup
  mem_counts_iff q n := by
    rw [h.counts_eq, List.mem_map]
    constructor
    · rintro ⟨q', hq', heq⟩
      cases heq
      exact ⟨(h.mem_keys_iff q).1 hq', rfl⟩
    · rintro ⟨hn, rfl⟩
      exact ⟨q, (h.mem_keys_iff q).2 hn, rfl⟩
  total := h.sum_counts
  members_nodup q := by
    rw [h.members_eq]
    exact h.tidy.nodup q
  listeners_nodup := listeners_nodup r
  mem_onlineAmong_iff := r.mem_onlineAmong

/-- **The tables always agree.** After any operations on empty tables, in whatever order and on whatever sessions and
rooms, the listings, the counts and the online identities are those that the entries of the sessions imply. -/
theorem run_tables_agree (commands : List Command) : Agree (run {} commands) :=
  (run_consistent {} commands consistent_empty).agree

end Registry
end ErrandHub
