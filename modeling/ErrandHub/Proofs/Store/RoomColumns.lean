/-
The columns that tell the room of a stored message.

One column holds the written form of the room, from which the room is read again, so no two rooms share it. The other
one holds an integer with a sign, in which only half of the legacy numbers fit: a row has one exactly if the room is
that of a legacy number below 2^63, and then it is that number.

  * `roomKey_injective`: the text tells the room.
  * `legacyKey?_eq_some_iff`: which integer a row has. `room_of_legacyKey?`: the integer tells the room as well.
  * `legacyKey?_of_large`: the rooms of greater legacy numbers are not cut down to a number that fits.
  * `stored_rooms_identified`: both columns of every message, and of any two messages.
-/
import ErrandHub.Proofs.Room.Canonical
import ErrandHub.Proofs.Room.Legacy
import ErrandHub.Store.Memory

namespace ErrandHub.StoredMessage

variable {m m' : StoredMessage}

/-! ## The text -/

theorem roomKey_parsed (m : StoredMessage) : RoomId.parse m.roomKey = .ok m.room := m.room.spelledBy_text.parse

theorem roomKey_means (m : StoredMessage) : RoomRef.classify m.roomKey = .ok (.canonical m.roomKey) ∧
    RoomRef.roomOfText m.roomKey = .ok m.room ∧ (RoomRef.canonical m.roomKey).room = .ok m.room := by
  have spelled : m.room.SpelledBy m.roomKey := m.room.spelledBy_text
  have visible : Text.trim m.roomKey = m.roomKey := by
    refine Text.trim_eq_self fun c hc => ?_
    rw [roomKey, RoomId.toList_text] at hc
    exact RoomId.visible_of_lower m.room.lower_chars c hc
  have sorted : RoomRef.classify m.roomKey = .ok (.canonical m.roomKey) := by
    rw [RoomRef.classify_of_spelledBy spelled, visible]
  have means : (RoomRef.canonical m.roomKey).room = .ok m.room :=
    RoomRef.room_nested_of_spelledBy spelled (n := 0) (Nat.zero_le _)
  exact ⟨sorted, by simp only [RoomRef.roomOfText, sorted, means], means⟩

theorem roomKey_injective (h : m.roomKey = m'.roomKey) : m.room = m'.room := by
  have parsed := m.roomKey_parsed
  rw [h, m'.roomKey_parsed] at parsed
  exact (Except.ok.inj parsed).symm

/-! ## The integer -/

theorem legacyKey?_eq_some_iff {k : Int64} :
    m.legacyKey? = some k ↔ ∃ n : UInt64, m.room.legacy? = some n ∧ (n.toNat : Int) = k.toInt := by
  simp only [legacyKey?, Option.bind_eq_some_iff, Word.signedOfInt?_eq_some_iff, Int.ofNat_eq_natCast]

/-- the integer of a row is above zero and means the room, and any such integer is the one of the row -/
theorem legacyKey?_toInt_eq_some_iff {k : Int} : m.legacyKey?.map Int64.toInt = some k ↔
    1 ≤ k ∧ k ≤ 2 ^ 63 - 1 ∧ (RoomRef.legacy (.ofNat k.toNat)).room = .ok m.room := by
  simp only [Option.map_eq_some_iff, legacyKey?_eq_some_iff, RoomRef.room_legacy_eq_ok_iff]
  constructor
  · rintro ⟨w, ⟨n, hn, fits⟩, rfl⟩
    have nonzero := (RoomId.legacy?_eq_some_iff.1 hn).1
    have positive : n.toNat ≠ 0 := fun zero => nonzero (UInt64.toNat_inj.1 zero)
    have below := w.toInt_lt
    have number : UInt64.ofNat w.toInt.toNat = n := by
      rw [← fits, Int.toNat_natCast, UInt64.ofNat_toNat]
    exact ⟨by omega, by omega, number ▸ hn⟩
  · rintro ⟨above, below, hn⟩
    refine ⟨.ofInt k, ⟨_, hn, ?_⟩, Int64.toInt_ofInt_of_le (by omega) (by omega)⟩
    rw [UInt64.toNat_ofNat_of_lt' (by rw [UInt64.size]; omega), Int64.toInt_ofInt_of_le (by omega) (by omega)]
    omega

theorem room_of_legacyKey? {k : Int64} (h : m.legacyKey? = some k) : m.room = .ofLegacy (.ofNat k.toInt.toNat) := by
  obtain ⟨n, hn, fits⟩ := legacyKey?_eq_some_iff.1 h
  rw [← fits, Int.toNat_natCast, UInt64.ofNat_toNat]
  exact (RoomId.legacy?_eq_some_iff.1 hn).2.symm

/-- a legacy number that does not fit leaves the row without an integer -/
theorem legacyKey?_of_large {n : UInt64} (large : 2 ^ 63 ≤ n.toNat) (h : m.room.legacy? = some n) :
    m.legacyKey? = none := by
  rw [Option.eq_none_iff_forall_ne_some]
  intro k hk
  obtain ⟨n', hn', fits⟩ := legacyKey?_eq_some_iff.1 hk
  obtain rfl : n = n' := Option.some.inj (h.symm.trans hn')
  have below := k.toInt_lt
  omega

/-! ## Both columns -/

/-- **Stored rooms are identified.** The text of every stored message has 36 characters, small hexadecimal digits and
hyphens, and is the room again, parsed as an id and as a reference. Its integer is `k` exactly if `k` lies between 1 and
2^63 - 1 and means the room as a legacy number; if no such `k` means the room, there is none, and none where the legacy
number is 2^63 or more. So two messages with the same text are in the same room, and so are two with the same integer. -/
theorem stored_rooms_identified (m : StoredMessage) :
    (m.roomKey.length = 36 ∧ ∀ c ∈ m.roomKey.toList, c ∈ "-0123456789abcdef".toList) ∧
    RoomId.parse m.roomKey = .ok m.room ∧
    (RoomRef.classify m.roomKey = .ok (.canonical m.roomKey) ∧ RoomRef.roomOfText m.roomKey = .ok m.room ∧
      (RoomRef.canonical m.roomKey).room = .ok m.room) ∧
    (∀ k : Int, m.legacyKey?.map Int64.toInt = some k ↔
      1 ≤ k ∧ k ≤ 2 ^ 63 - 1 ∧ (RoomRef.legacy (.ofNat k.toNat)).room = .ok m.room) ∧
    (m.legacyKey? = none ↔
      ∀ k : Int, 1 ≤ k → k ≤ 2 ^ 63 - 1 → (RoomRef.legacy (.ofNat k.toNat)).room ≠ .ok m.room) ∧
    (∀ n : UInt64, 2 ^ 63 ≤ n.toNat → (RoomRef.legacy n).room = .ok m.room → m.legacyKey? = none) ∧
    ∀ m' : StoredMessage, (m.roomKey = m'.roomKey ↔ m.room = m'.room) ∧
      ∀ k, m.legacyKey? = some k → m'.legacyKey? = some k → m.room = m'.room := by
  refine ⟨⟨?_, fun c hc => ?_⟩, m.roomKey_parsed, m.roomKey_means, fun k => legacyKey?_toInt_eq_some_iff, ?_,
    fun n large means => ?_, fun m' => ⟨⟨roomKey_injective, fun same => ?_⟩, fun k hk hk' => ?_⟩⟩
  · rw [← String.length_toList, roomKey, RoomId.toList_text, RoomId.length_chars]
  · rw [roomKey, RoomId.toList_text] at hc
    exact RoomId.mem_alphabet hc
  · constructor
    · intro missing k above below means
      have present := legacyKey?_toInt_eq_some_iff.2 ⟨above, below, means⟩
      rw [missing] at present
      cases present
    · intro outside
      rw [Option.eq_none_iff_forall_ne_some]
      intro k hk
      obtain ⟨above, below, means⟩ := legacyKey?_toInt_eq_some_iff.1 (congrArg (Option.map Int64.toInt) hk)
      exact outside _ above below means
  · exact legacyKey?_of_large large (RoomRef.room_legacy_eq_ok_iff.1 means)
  · rw [roomKey, roomKey, same]
  · rw [room_of_legacyKey? hk, room_of_legacyKey? hk']

/-- the last legacy number that fits, the first one that does not, and a room of no legacy number -/
theorem stored_rooms_identified_at_limit :
    let message (room : RoomId) (body : String) : StoredMessage := ⟨room, ⟨⟨"ann"⟩, .customer⟩, body, 0⟩
    let last := message (.ofNat (2 ^ 63 - 1)) "hi"
    let again := message (.ofNat (2 ^ 63 - 1)) "hello"
    let first := message (.ofNat (2 ^ 63)) "hi"
    let foreign := message (.ofNat (2 ^ 64)) "hi"
    last.roomKey = "00000000-0000-0000-7fff-ffffffffffff" ∧ RoomId.parse last.roomKey = .ok last.room ∧
      last.legacyKey?.map Int64.toInt = some (2 ^ 63 - 1) ∧
      (RoomRef.legacy (.ofNat (2 ^ 63))).room = .ok first.room ∧ first.legacyKey? = none ∧
      foreign.legacyKey? = none ∧
      (last.legacyKey? = some (.ofNat (2 ^ 63 - 1)) ∧ again.legacyKey? = some (.ofNat (2 ^ 63 - 1)) ∧
        last.room = again.room) ∧
      last.roomKey ≠ first.roomKey := by
  intro message last again first foreign
  obtain ⟨-, parsed, -, number, -, -, told⟩ := stored_rooms_identified last
  obtain ⟨-, -, -, -, -, large, -⟩ := stored_rooms_identified first
  have means : (RoomRef.legacy (.ofNat (2 ^ 63))).room = .ok first.room := by decide
  have lastKey : last.legacyKey? = some (.ofNat (2 ^ 63 - 1)) := by decide
  have againKey : again.legacyKey? = some (.ofNat (2 ^ 63 - 1)) := by decide
  have apart : last.room ≠ first.room := by decide
  refine ⟨by decide, parsed, (number _).2 ⟨by decide, by decide, by decide⟩, means, large _ (by decide) means, by decide,
    ⟨lastKey, againKey, (told again).2 _ lastKey againKey⟩, fun same => apart ((told first).1.1 same)⟩

end ErrandHub.StoredMessage
