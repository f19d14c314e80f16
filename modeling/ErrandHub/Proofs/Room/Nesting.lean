/-
Objects around a reference, and what is left to fail once a reference is sorted.

A value may be wrapped in objects, and so may a reference. The sorting of values counts the objects that may still come,
the search for the room those that it has passed; both stop at the fifth. What is sorted is checked a second time when
its room is looked for, and passes: a room id is read again, a label is still not blank. Zero alone is sorted as a
number and means no room.

  * `idMember?_eq_some_iff`: the member that an object stands for is the first of the three that is there and not null.
  * `ofJsonWithin_eq_tooDeep_iff`: a value is too deep if an object is left when no more may come.
  * `roomAt_eq`: the objects around a reference count, and nothing else of them does.
  * `roomOfJson_of_wraps`: a few objects around a value change nothing about its room.
  * `settled_of_classify`, `settled_of_ofJsonWithin`: what a text or a value is sorted as passes the second check.
  * `nesting_limits_agree`: the two limits are one, and zero is the only failure after the first stage.
-/
import ErrandHub.Proofs.Room.Canonical

namespace ErrandHub.RoomRef

/-! ## The member that an object stands for -/

theorem idMember?_eq_some_iff {members : List (String × Json)} {v : Json} :
    idMember? members = some v ↔ ∃ before name after, idNames = before ++ name :: after ∧
      Json.member? name members = some v ∧ v.isNull = false ∧
      ∀ earlier ∈ before, ∀ u, Json.member? earlier members = some u → u.isNull = true := by
  simp only [idMember?, List.findSome?_eq_some_iff, Option.filter_eq_some_iff, Option.filter_eq_none_iff,
    Bool.not_eq_true', Bool.not_eq_false]
  constructor
  · rintro ⟨before, name, after, names, ⟨found, value⟩, earlier⟩
    exact ⟨before, name, after, names, found, value, earlier⟩
  · rintro ⟨before, name, after, names, found, value, earlier⟩
    exact ⟨before, name, after, names, ⟨found, value⟩, earlier⟩

/-! ## The objects around a reference -/

/-- how many objects are wrapped around a reference -/
def layers : RoomRef → Nat
  | .object inner => inner.layers + 1
  | _ => 0

/-- the reference inside all objects -/
def innermost : RoomRef → RoomRef
  | .object inner => inner.innermost
  | r => r

@[simp] theorem layers_innermost (r : RoomRef) : r.innermost.layers = 0 := by
  induction r with
  | object inner ih => exact ih
  | _ => rfl

/-- without objects it does not matter how deep a reference stands -/
theorem roomAt_of_layers_eq_zero {r : RoomRef} (bare : r.layers = 0) (depth : Nat) : r.roomAt depth = r.room := by
  cases r with
  | object inner => cases bare
  | _ => rfl

theorem room_ne_tooDeep {r : RoomRef} (bare : r.layers = 0) : r.room ≠ .error .tooDeep := by
  cases r with
  | object inner => cases bare
  | wellKnown known => simp [room, roomAt]
  | canonical s => cases h : RoomId.ofText? (Text.trim s) <;> simp [room, roomAt, h]
  | legacy n => by_cases h : n = 0 <;> simp [room, roomAt, h]
  | label s => cases h : Text.trimmed? s <;> simp [room, roomAt, h]

/-- the room of a reference is that of the innermost one, unless there are too many objects on the way -/
theorem roomAt_eq {depth : Nat} (shallow : depth ≤ maxNesting) (r : RoomRef) :
    r.roomAt depth = if depth + r.layers ≤ maxNesting then r.innermost.room else .error .tooDeep := by
  induction r generalizing depth with
  | object inner ih =>
    rw [roomAt, layers, innermost]
    by_cases deeper : depth < maxNesting
    · rw [if_pos deeper, ih deeper, Nat.succ_add_eq_add_succ]
    · rw [if_neg deeper, if_neg (by omega)]
  | _ => exact (if_pos shallow).symm

theorem room_eq_tooDeep_iff {r : RoomRef} : r.room = .error .tooDeep ↔ maxNesting < r.layers := by
  rw [room, roomAt_eq (Nat.zero_le _), Nat.zero_add]
  split
  · rename_i few
    exact iff_of_false (room_ne_tooDeep r.layers_innermost) (by omega)
  · rename_i many
    exact iff_of_true rfl (by omega)

theorem room_eq_innermost {r : RoomRef} (few : r.layers ≤ maxNesting) : r.room = r.innermost.room := by
  rw [room, roomAt_eq (Nat.zero_le _), Nat.zero_add, if_pos few]

theorem room_nested {n : Nat} (few : n ≤ maxNesting) {r : RoomRef} (bare : r.layers = 0) : (nested n r).room = r.room := by
  rw [room, roomAt_nested (by omega), roomAt_of_layers_eq_zero bare]

/-! ## What is sorted is settled -/

/-- what a reference says inside all objects passes the second check: a text of a room id is one, a label is not blank -/
def Settled : RoomRef → Prop
  | .canonical s => ∃ r, RoomId.ofText? (Text.trim s) = some r
  | .label s => Text.isBlank s = false
  | .object inner => inner.Settled
  | .wellKnown _ => True
  | .legacy _ => True

theorem Settled.innermost {r : RoomRef} (h : r.Settled) : r.innermost.Settled := by
  induction r with
  | object inner ih => exact ih h
  | _ => exact h

/-- a settled reference means a room, unless it is the number zero -/
theorem Settled.room {r : RoomRef} (h : r.Settled) (bare : r.layers = 0) :
    r = .legacy 0 ∧ r.room = .error (.invalidLegacyId 0) ∨ r ≠ .legacy 0 ∧ ∃ id, r.room = .ok id := by
  cases r with
  | object inner => cases bare
  | wellKnown known => exact .inr ⟨by simp, known.room, rfl⟩
  | canonical s =>
    obtain ⟨id, hid⟩ := h
    exact .inr ⟨by simp, id, by simp [RoomRef.room, roomAt, hid]⟩
  | legacy n =>
    by_cases zero : n = 0
    · exact .inl ⟨by rw [zero], by simp [RoomRef.room, roomAt, zero]⟩
    · exact .inr ⟨by simpa using zero, .ofLegacy n, by simp [RoomRef.room, roomAt, zero]⟩
  | label s =>
    have visible : Text.isBlank s = false := h
    exact .inr ⟨by simp, .ofLabel (Text.trim s), by simp [RoomRef.room, roomAt, Text.trimmed?, visible]⟩

variable {s : String} {r : RoomRef}

/-- what becomes of a trimmed text: the first of four readings that it allows, or a number that is too great -/
inductive Sorts (t : String) : Except RoomError RoomRef → Prop where
  | wellKnown {known : WellKnownRoom} (named : WellKnownRoom.lookup t = some known) : Sorts t (.ok (.wellKnown known))
  | legacy {n : Nat} {w : UInt64} (digits : Text.decimal? t.toList = some n) (fits : Word.ofNat? n = some w) :
      Sorts t (.ok (.legacy w))
  | outOfRange {n : Nat} (digits : Text.decimal? t.toList = some n) (large : Word.ofNat? n = none) :
      Sorts t (.error (.legacyOutOfRange t))
  | canonical {id : RoomId} (read : RoomId.ofText? t = some id) : Sorts t (.ok (.canonical t))
  | label (unread : RoomId.ofText? t = none) : Sorts t (.ok (.label t))

theorem sorts_classifyTrimmed (t : String) : Sorts t (classifyTrimmed t) := by
  unfold classifyTrimmed
  split
  · rename_i named
    exact .wellKnown named
  · split
    · rename_i n digits
      cases fits : Word.ofNat? n with
      | none => exact .outOfRange digits fits
      | some w => exact .legacy digits fits
    · cases read : RoomId.ofText? t with
      | none => exact .label read
      | some id => exact .canonical read

theorem classify_cases (s : String) :
    classify s = .error .empty ∨ Text.trim s ≠ "" ∧ Sorts (Text.trim s) (classify s) := by
  by_cases empty : Text.trim s = ""
  · have missing : Text.trimmed? s = none := if_pos (Text.isBlank_iff.2 empty)
    exact .inl (by simp only [classify, missing])
  · exact .inr ⟨empty, classify_of_trim_ne empty ▸ sorts_classifyTrimmed _⟩

/-- a text is sorted as a reference without objects that is settled -/
theorem settled_of_classify (h : classify s = .ok r) : r.Settled ∧ r.layers = 0 := by
  obtain empty | ⟨something, sorts⟩ := classify_cases s
  · rw [empty] at h
    cases h
  · rw [h] at sorts
    cases sorts with
    | wellKnown | legacy => exact ⟨trivial, rfl⟩
    | canonical read => exact ⟨⟨_, (Text.trim_trim s).symm ▸ read⟩, rfl⟩
    | label =>
      have visible : Text.isBlank (Text.trim s) = false := by
        rw [← Bool.not_eq_true, Text.isBlank_iff, Text.trim_trim]
        exact something
      exact ⟨visible, rfl⟩

theorem classify_ne_tooDeep (s : String) : classify s ≠ .error .tooDeep := by
  intro h
  obtain empty | ⟨-, sorts⟩ := classify_cases s
  · rw [empty] at h
    cases h
  · rw [h] at sorts
    cases sorts

/-- a value is sorted as a settled reference with no more objects than there may be -/
theorem settled_of_ofJsonWithin {levels : Nat} {v : Json} (h : ofJsonWithin levels v = .ok r) :
    r.Settled ∧ r.layers ≤ levels := by
  fun_induction ofJsonWithin levels v generalizing r with
  | case1 levels s =>
    obtain ⟨settled, bare⟩ := settled_of_classify h
    exact ⟨settled, by omega⟩
  | case2 levels i natural =>
    cases h
    exact ⟨trivial, Nat.zero_le _⟩
  | case10 members levels inner found ih =>
    cases sorted : ofJsonWithin levels inner with
    | error e =>
      rw [sorted] at h
      cases h
    | ok core =>
      rw [sorted] at h
      cases h
      obtain ⟨settled, few⟩ := ih sorted
      exact ⟨settled, Nat.succ_le_succ few⟩
  | _ => cases h

/-! ## Values that are too deep -/

/-- objects are wrapped in objects -/
theorem Wraps.object_outside {n : Nat} {w : Json} {members : List (String × Json)} (h : Wraps n w (.object members)) :
    ∃ around, w = .object around := by
  cases h with
  | bare => exact ⟨members, rfl⟩
  | object found rest => exact ⟨_, rfl⟩

/-- what is inside an object is inside the member that it stands for -/
theorem wraps_object_iff {n : Nat} {members : List (String × Json)} {inner v : Json}
    (found : idMember? members = some inner) : Wraps (n + 1) (.object members) v ↔ Wraps n inner v := by
  constructor
  · intro h
    cases h with
    | object found' rest =>
      rw [found, Option.some_inj] at found'
      exact found' ▸ rest
  · exact Wraps.object found

/-- a value is too deep if following the members leads to an object when no more may come -/
theorem ofJsonWithin_eq_tooDeep_iff {levels : Nat} {v : Json} :
    ofJsonWithin levels v = .error .tooDeep ↔ ∃ members, Wraps levels v (.object members) := by
  have leaf {levels : Nat} {v : Json} (bare : ∀ members, v ≠ .object members) :
      ¬∃ members, Wraps levels v (.object members) := by
    rintro ⟨members, h⟩
    obtain ⟨around, rfl⟩ := h.object_outside
    exact bare around rfl
  fun_induction ofJsonWithin levels v with
  | case1 levels s => exact iff_of_false (classify_ne_tooDeep s) (leaf (by simp))
  | case8 members => exact iff_of_true rfl ⟨members, .bare _⟩
  | case9 members levels missing =>
    refine iff_of_false (by simp) ?_
    rintro ⟨members', h⟩
    cases h with
    | object found rest => rw [missing] at found; cases found
  | case10 members levels inner found ih =>
    simp only [wraps_object_iff found, ← ih]
    cases ofJsonWithin levels inner <;> simp [Except.map]
  | _ => exact iff_of_false (by simp) (leaf (by simp))

/-! ## A few objects around a value -/

/-- a value that is no object is sorted alike at any depth -/
theorem ofJsonWithin_of_flat {v : Json} (flat : ∀ members, v ≠ .object members) (levels levels' : Nat) :
    ofJsonWithin levels v = ofJsonWithin levels' v := by
  cases v with
  | object members => exact absurd rfl (flat members)
  | number n => cases n <;> simp only [ofJsonWithin]
  | _ => simp only [ofJsonWithin]

section Flat

variable {n : Nat} {v w : Json} (few : n ≤ maxNesting) (h : Wraps n w v) (flat : ∀ members, v ≠ .object members)
include few h flat

theorem ofJson_of_wraps : ofJson w = (ofJson v).map (nested n) := by
  have inside := ofJsonWithin_wraps h (maxNesting - n)
  rwa [Nat.sub_add_cancel few, ofJsonWithin_of_flat flat _ maxNesting] at inside

theorem roomOfJson_of_wraps : roomOfJson w = roomOfJson v := by
  rw [roomOfJson, roomOfJson, ofJson_of_wraps few h flat]
  cases sorted : ofJson v with
  | error e => rfl
  | ok r =>
    rw [ofJson, ofJsonWithin_of_flat flat _ 0] at sorted
    have bare : r.layers = 0 := Nat.eq_zero_of_le_zero (settled_of_ofJsonWithin sorted).2
    exact room_nested few bare

end Flat

/-! ## The two limits -/

/-- **The two nesting limits agree, and zero alone is left to fail.** An object stands for the first of its members `id`,
`roomId` and `room_id` that is there and not null. A value is too deep exactly if the members lead from it to a fifth
object. What a value or a text is sorted as means a room, unless the innermost reference is the number zero, which is
refused as such. And whatever the reference, it is too deep exactly if more than four objects are wrapped around it, and
means what the innermost one means otherwise. -/
theorem nesting_limits_agree :
    (∀ members v, idMember? members = some v ↔ ∃ before name after, ["id", "roomId", "room_id"] = before ++ name :: after ∧
      Json.member? name members = some v ∧ v.isNull = false ∧
      ∀ earlier ∈ before, ∀ u, Json.member? earlier members = some u → u.isNull = true) ∧
    (∀ v, ofJson v = .error .tooDeep ↔ ∃ members, Wraps 4 v (.object members)) ∧
    (∀ r, (∃ v, ofJson v = .ok r) ∨ (∃ s, classify s = .ok r) →
      r.innermost = .legacy 0 ∧ r.room = .error (.invalidLegacyId 0) ∨ r.innermost ≠ .legacy 0 ∧ ∃ id, r.room = .ok id) ∧
    ∀ r : RoomRef, (r.room = .error .tooDeep ↔ 4 < r.layers) ∧ (r.layers ≤ 4 → r.room = r.innermost.room) := by
  refine ⟨fun members v => idMember?_eq_some_iff, fun v => ofJsonWithin_eq_tooDeep_iff, fun r sorted => ?_,
    fun r => ⟨room_eq_tooDeep_iff, room_eq_innermost⟩⟩
  have settled : r.Settled ∧ r.layers ≤ maxNesting := by
    obtain ⟨v, hv⟩ | ⟨s, hs⟩ := sorted
    · exact settled_of_ofJsonWithin hv
    · obtain ⟨settled, bare⟩ := settled_of_classify hs
      exact ⟨settled, bare ▸ Nat.zero_le _⟩
  rw [room_eq_innermost settled.2]
  exact settled.1.innermost.room r.layers_innermost

/-- four objects under all three names around one more object and around zero, and five around a label -/
theorem nesting_limits_agree_at_four :
    let around (v : Json) : Json := .object [("id", .null), ("roomId", .object [("id", .object [("name", .null),
      ("room_id", .object [("id", v), ("roomId", .null)])])])]
    let zero := nested 4 (.legacy 0)
    let far := nested 5 (.label "order 1234")
    Wraps 4 (around (.object [])) (.object []) ∧ ofJson (around (.object [])) = .error .tooDeep ∧
      ofJson (around (.number (.integer 0))) = .ok zero ∧ zero.room = .error (.invalidLegacyId 0) ∧
      zero.layers ≤ 4 ∧ zero.room = zero.innermost.room ∧ 4 < far.layers ∧ far.room = .error .tooDeep := by
  intro around zero far
  obtain ⟨-, deep, means, limit⟩ := nesting_limits_agree
  have five : Wraps 4 (around (.object [])) (.object []) := .object rfl (.object rfl (.object rfl (.object rfl (.bare _))))
  have sorted : ofJson (around (.number (.integer 0))) = .ok zero := rfl
  have refused : zero.room = .error (.invalidLegacyId 0) := by
    obtain ⟨-, refused⟩ | ⟨other, -⟩ := means zero (.inl ⟨_, sorted⟩)
    · exact refused
    · exact absurd rfl other
  exact ⟨five, (deep _).2 ⟨[], five⟩, sorted, refused, by decide, (limit zero).2 (by decide), by decide,
    (limit far).1.2 (by decide)⟩

end ErrandHub.RoomRef
