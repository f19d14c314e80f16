/-
Who is found while sessions move.

To find the members of a room and the listeners of a role is to ask the registry twice, and the registry serves other
commands between the two answers. A session is entitled to what is sent if it is a member or a listener. One that is
entitled in every state from the first answer to the second may still be missed: it is no member yet when the members
are read, and no listener any more when the listeners are.

- `join_of_enters`, `join_mem_of_moved`: a session comes from the listeners into a room by joining it, in one step and
  in any number of them.
- `resolution_misses_only_joiners`: nobody else who is entitled throughout is missed.
- `resolution_misses_a_joiner`: one who does so is.
-/
import Mathlib.Tactic
import ErrandHub.Hub.Board
import ErrandHub.Proofs.Registry.Membership

namespace ErrandHub.Registry

/-- whether a session is a member of a room, or a listener of a role -/
def Entitled (r : Registry) (q : RoomId) (role : Role) (id : SessionId) : Prop :=
  id ∈ r.members q ∨ id ∈ r.listeners role

instance (r : Registry) (q : RoomId) (role : Role) (id : SessionId) : Decidable (r.Entitled q role id) :=
  inferInstanceAs (Decidable (_ ∨ _))

variable {r : Registry} {q : RoomId} {role : Role} {id : SessionId}

theorem Consistent.not_mem_listeners (h : r.Consistent) (hq : id ∈ r.members q) : id ∉ r.listeners role := by
  intro hl
  have hroom : r.placeOf? id = some (.room q) := (h.mem_members_iff q id).1 hq
  have hlisteners : r.placeOf? id = some (.listeners role) := (mem_listeners_iff r role id).1 hl
  rw [hroom] at hlisteners
  cases hlisteners

theorem Consistent.entitled_iff (h : r.Consistent) :
    r.Entitled q role id ↔ r.placeOf? id = some (.room q) ∨ r.placeOf? id = some (.listeners role) := by
  unfold Entitled
  rw [h.mem_members_iff, mem_listeners_iff]

/-! ## Into a room -/

/-- a session that is among the listeners before a command and in a room after it has joined that room -/
theorem join_of_enters (c : Command) (hbefore : r.placeOf? id = some (.listeners role))
    (hafter : (r.step c).1.placeOf? id = some (.room q)) : c = .join id q := by
  -- a command that leaves the place of the session alone is not the one
  have hstays : (r.step c).1.placeOf? id ≠ r.placeOf? id := by
    rw [hbefore, hafter]
    simp
  obtain ⟨entry, hid, -⟩ := Option.map_eq_some_iff.1 hbefore
  cases c with
  | register j e =>
    rcases r.register_cases j e with ⟨-, he⟩ | ⟨hj, m⟩
    · exact absurd (congrArg (fun x => x.1.placeOf? id) he) hstays
    · have hne : j ≠ id := by
        rintro rfl
        rw [hid] at hj
        cases hj
      exact absurd ((m.placeOf? id).trans (if_neg hne)) hstays
  | unregister j =>
    have hplace := (unregister_moves r j).placeOf? id
    by_cases hj : j = id
    · rw [if_pos hj] at hplace
      exact absurd (hplace.symm.trans hafter) (by simp)
    · exact absurd (hplace.trans (if_neg hj)) hstays
  | join j q' =>
    rcases r.join_cases j q' with ⟨-, he⟩ | ⟨e, -, -, he⟩ | ⟨e, r', -, -, m, he⟩
    · exact absurd (congrArg (fun x => x.1.placeOf? id) he) hstays
    · exact absurd (congrArg (fun x => x.1.placeOf? id) he) hstays
    · have hr' : (r.step (.join j q')).1 = r' := congrArg Prod.fst he
      rw [hr', m.placeOf?] at hafter hstays
      by_cases hj : j = id
      · subst hj
        have hplace : Entry.place { e with room := some q' } = .room q := by simpa using hafter
        obtain rfl : q' = q := by simpa [Entry.place_eq_room_iff] using hplace
        rfl
      · exact absurd (if_neg hj) hstays
  | leave j =>
    rcases r.leave_cases j with ⟨-, he⟩ | ⟨e, -, -, he⟩ | ⟨e, q', r', -, -, m, he⟩
    · exact absurd (congrArg (fun x => x.1.placeOf? id) he) hstays
    · exact absurd (congrArg (fun x => x.1.placeOf? id) he) hstays
    · have hr' : (r.step (.leave j)).1 = r' := congrArg Prod.fst he
      rw [hr', m.placeOf?] at hafter hstays
      by_cases hj : j = id
      · subst hj
        have hplace : Entry.place { e with room := none } = .room q := by simpa using hafter
        simp [Entry.place_eq_room_iff] at hplace
      · exact absurd (if_neg hj) hstays

/-- a session that is entitled all the while and comes from the listeners into the room has joined it on the way -/
theorem join_mem_of_moved (h : r.Consistent) (window : List Command)
    (hentitled : ∀ served, served <+: window → (r.run served).Entitled q role id)
    (hbefore : r.placeOf? id = some (.listeners role)) (hafter : (r.run window).placeOf? id = some (.room q)) :
    .join id q ∈ window := by
  induction window generalizing r with
  | nil =>
    have hsame : r.placeOf? id = some (.room q) := hafter
    rw [hbefore] at hsame
    cases hsame
  | cons c window ih =>
    have hstep : (r.step c).1.Consistent := step_consistent r c h
    have hnext : (r.step c).1.Entitled q role id := hentitled [c] (by simp)
    rcases hstep.entitled_iff.1 hnext with hroom | hlisteners
    · rw [join_of_enters c hbefore hroom]
      exact List.mem_cons_self
    · have hrest : ∀ served, served <+: window → ((r.step c).1.run served).Entitled q role id := by
        intro served hserved
        rw [← run_cons]
        exact hentitled (c :: served) (List.cons_prefix_cons.2 ⟨rfl, hserved⟩)
      exact List.mem_cons_of_mem c (ih hstep hrest hlisteners hafter)

/-- **Only those who join the room are missed.** The registry is asked for the members of a room and, after it has
served any commands, for the listeners of a role. A session that is entitled in every state from the first answer to
the second is found, unless it was a listener at the first and is a member at the second; to be that, it must have
joined the room in between. -/
theorem resolution_misses_only_joiners (before window : List Command) (q : RoomId) (role : Role) (id : SessionId)
    (hentitled : ∀ served, served <+: window → ((run {} before).run served).Entitled q role id) :
    let first := run {} before
    let second := first.run window
    let found := (Audience.roomAndListeners q role).recipientsAcross first second
    (id ∈ found ↔ ¬(id ∈ first.listeners role ∧ id ∈ second.members q)) ∧ (id ∉ found → .join id q ∈ window) := by
  intro first second found
  have hfirst : first.Consistent := run_consistent {} before consistent_empty
  have hsecond : second.Consistent := run_consistent first window hfirst
  have hfound : id ∈ found ↔ id ∈ first.members q ∨ id ∈ second.listeners role := List.mem_append
  have hatFirst : first.Entitled q role id := hentitled [] List.nil_prefix
  have hatSecond : second.Entitled q role id := hentitled window List.prefix_rfl
  -- nobody is a member and a listener at once, whichever of the two registries is asked
  have hmissed : id ∈ found ↔ ¬(id ∈ first.listeners role ∧ id ∈ second.members q) := by
    rw [hfound]
    constructor
    · rintro (hmember | hlistener) ⟨hlistened, hjoined⟩
      · exact hfirst.not_mem_listeners hmember hlistened
      · exact hsecond.not_mem_listeners hjoined hlistener
    · intro hnot
      rcases hatFirst with hmember | hlistened
      · exact Or.inl hmember
      · rcases hatSecond with hjoined | hlistener
        · exact absurd ⟨hlistened, hjoined⟩ hnot
        · exact Or.inr hlistener
  refine ⟨hmissed, fun hlost => ?_⟩
  obtain ⟨hlistened, hjoined⟩ := not_not.1 (mt hmissed.2 hlost)
  refine join_mem_of_moved hfirst window hentitled ?_ ?_
  · exact (mem_listeners_iff first role id).1 hlistened
  · exact (hsecond.mem_members_iff q id).1 hjoined

/-- a member of the staff leaves the room between the answers, while another comes and a customer goes, and is found -/
theorem resolution_misses_only_joiners_leaver :
    let q := RoomId.ofNat 7
    let ann : SessionId := ⟨"ann"⟩
    let bob : SessionId := ⟨"bob"⟩
    let sue : SessionId := ⟨"sue"⟩
    let before : List Command := [.register ann ⟨⟨"ann"⟩, .customer, some q⟩, .register bob ⟨⟨"bob"⟩, .staff, none⟩,
      .register sue ⟨⟨"sue"⟩, .staff, some q⟩]
    let window : List Command := [.join bob q, .leave sue, .unregister ann]
    let first := run {} before
    let second := first.run window
    let found := (Audience.roomAndListeners q .staff).recipientsAcross first second
    (∀ served, served <+: window → (first.run served).Entitled q .staff sue) ∧
      ((sue ∈ found ↔ ¬(sue ∈ first.listeners .staff ∧ sue ∈ second.members q)) ∧
        (sue ∉ found → .join sue q ∈ window)) ∧ sue ∈ found := by
  intro q ann bob sue before window first second found
  have hentitled : ∀ served, served <+: window → (first.run served).Entitled q .staff sue := by
    have hall : ∀ served ∈ window.inits, (first.run served).Entitled q .staff sue := by decide +kernel
    exact fun served hserved => hall served ((List.mem_inits served window).2 hserved)
  exact ⟨hentitled, resolution_misses_only_joiners before window q .staff sue hentitled, by decide +kernel⟩

/-- **One who joins is missed.** A listener of the staff who joins the room between the two answers is entitled in
every state, and is not found. -/
theorem resolution_misses_a_joiner :
    let q := RoomId.ofNat 7
    let ann : SessionId := ⟨"ann"⟩
    let sue : SessionId := ⟨"sue"⟩
    let first := run {} [.register ann ⟨⟨"ann"⟩, .customer, some q⟩, .register sue ⟨⟨"sue"⟩, .staff, none⟩]
    let window : List Command := [.join sue q]
    (∀ served, served <+: window → (first.run served).Entitled q .staff sue) ∧
      sue ∉ (Audience.roomAndListeners q .staff).recipientsAcross first (first.run window) := by
  intro q ann sue first window
  refine ⟨fun served hserved => ?_, by decide +kernel⟩
  have hall : ∀ served ∈ window.inits, (first.run served).Entitled q .staff sue := by decide +kernel
  exact hall served ((List.mem_inits served window).2 hserved)

end ErrandHub.Registry
