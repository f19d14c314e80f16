/-
The spellings of a room number.

A number is written in decimal digits, with any zeros in front and any white space around, as a text of its own, as a
string of JSON or, without these, as a number of JSON. A text spells a number (`SpellsNumber`) if it is one of these, and
a value says it (`SaysNumber`) if it is the number or a string that spells it.

  * `decimal?_trim`: a spelling without the white space is read as the number.
  * `lookup_of_decimal?`: no short name is written in digits.
  * `classify_of_spellsNumber`: so a spelling is sorted as the number if that is one of 64 bits, and refused otherwise.
  * `ofText?_toString`: a number that is written in a JSON text is that number as a value.
  * `room_numbers_agree`: all spellings, bare or in objects, mean the one room of the number.
-/
import ErrandHub.Proofs.Json.Reading
import ErrandHub.Proofs.Room.Legacy
import ErrandHub.Proofs.Room.Nesting

namespace ErrandHub

/-- a text spells a number: its decimal digits, behind zeros or none, with white space around them or none -/
def Text.SpellsNumber (n : Nat) (s : String) : Prop :=
  ∃ before zeros after, s.toList = before ++ (List.replicate zeros '0' ++ (toString n).toList) ++ after ∧
    (∀ c ∈ before, Text.isBlankChar c) ∧ (∀ c ∈ after, Text.isBlankChar c)

/-- a value says a number: the number itself, or a string that spells it -/
inductive Json.SaysNumber (n : Nat) : Json → Prop where
  | number : SaysNumber n (.number (.integer n))
  | string {s : String} (spelled : Text.SpellsNumber n s) : SaysNumber n (.string s)

namespace Text

variable {n : Nat} {s : String}

theorem isBlankChar_digitChar {d : Nat} (small : d < 10) : isBlankChar d.digitChar = false := by
  interval_cases d <;> rfl

theorem SpellsNumber.decimal?_trim (h : SpellsNumber n s) : decimal? (trim s).toList = some n := by
  obtain ⟨before, zeros, after, hs, hbefore, hafter⟩ := h
  have digits : List.replicate zeros '0' ++ (toString n).toList =
      (List.replicate zeros 0 ++ Json.decimals n).map Nat.digitChar := by
    rw [List.map_append, List.map_replicate, Json.toList_toString]
    rfl
  have small : ∀ d ∈ List.replicate zeros 0 ++ Json.decimals n, d < 10 := by
    intro d hd
    rcases List.mem_append.1 hd with zero | hd
    · rw [List.eq_of_mem_replicate zero]
      decide
    · exact Json.decimals_lt hd
  have visible : ∀ c ∈ List.replicate zeros '0' ++ (toString n).toList, isBlankChar c = false := by
    intro c hc
    rw [digits] at hc
    obtain ⟨d, hd, rfl⟩ := List.mem_map.1 hc
    exact isBlankChar_digitChar (small d hd)
  rw [toList_trim, hs, trimChars_padded hbefore hafter, trimChars_eq_self visible, digits]
  refine decimal?_eq_some_iff.2 ⟨_, ?_, small, rfl, ?_⟩
  · simp [Json.decimals_ne_nil]
  · rw [ofDigits_zeros, Json.ofDigits_decimals]

end Text

namespace RoomRef

variable {n : Nat} {s : String}

theorem lookup_of_decimal? (h : Text.decimal? (Text.trim s).toList = some n) : WellKnownRoom.lookup (Text.trim s) = none := by
  obtain ⟨ds, -, small, digits, -⟩ := Text.decimal?_eq_some_iff.1 h
  rw [WellKnownRoom.lookup, List.find?_eq_none]
  intro known _ same
  have letters : known.name.toList = ds.map Nat.digitChar := by
    rw [eq_of_beq same, Text.trim_trim, Text.lower, String.toList_ofList, digits, List.map_map]
    exact List.map_congr_left fun d hd => Text.lowerChar_digitChar (small d hd)
  have unread : Text.decimal? known.name.toList = none := by cases known <;> decide
  rw [letters, ← digits, h] at unread
  cases unread

/-- a text that is read as a number is sorted as one, if the number is one of 64 bits, and refused otherwise -/
theorem classify_of_decimal? (h : Text.decimal? (Text.trim s).toList = some n) :
    classify s = if n < 2 ^ 64 then .ok (.legacy (.ofNat n)) else .error (.legacyOutOfRange (Text.trim s)) := by
  have something : Text.trim s ≠ "" := by
    intro empty
    rw [empty] at h
    cases h
  rw [classify_of_trim_ne something]
  simp only [classifyTrimmed, lookup_of_decimal? h, h]
  rw [Word.ofNat?, show UInt64.size = 2 ^ 64 from rfl]
  split <;> rfl

theorem ofLegacy_ofNat (small : n < 2 ^ 64) : RoomId.ofLegacy (.ofNat n) = .ofNat n := by
  rw [RoomId.ofLegacy, UInt64.toNat_ofNat_of_lt' small]

/-- a number of 64 bits means the room that has this number, and zero means none -/
theorem room_legacy_ofNat (small : n < 2 ^ 64) :
    (legacy (.ofNat n)).room = if n = 0 then .error (.invalidLegacyId 0) else .ok (.ofNat n) := by
  have zero : UInt64.ofNat n = 0 ↔ n = 0 := by
    rw [← UInt64.toNat_inj, UInt64.toNat_ofNat_of_lt' small]
    rfl
  simp only [room, roomAt, zero, ofLegacy_ofNat small]

/-- a text that is read as a number means the room that has it, if the number is not zero and one of 64 bits -/
theorem roomOfText_eq_ok_iff_of_decimal? (h : Text.decimal? (Text.trim s).toList = some n) {r : RoomId} :
    roomOfText s = .ok r ↔ 1 ≤ n ∧ n < 2 ^ 64 ∧ r.toNat = n := by
  rw [roomOfText, classify_of_decimal? h]
  by_cases small : n < 2 ^ 64
  · rw [if_pos small]
    simp only [room_legacy_ofNat small]
    split_ifs with zero
    · simp [zero]
    · have same : RoomId.ofNat n = r ↔ r.toNat = n := by
        constructor
        · rintro rfl
          rw [RoomId.toNat_ofNat, Nat.mod_eq_of_lt (by omega)]
        · rintro rfl
          exact r.ofNat_toNat
      rw [Except.ok.injEq, same]
      omega
  · rw [if_neg small]
    simp only [reduceCtorEq, false_iff]
    omega

theorem classify_of_spellsNumber (small : n < 2 ^ 64) (h : Text.SpellsNumber n s) :
    classify s = .ok (.legacy (.ofNat n)) := by
  rw [classify_of_decimal? h.decimal?_trim, if_pos small]

theorem classify_of_spellsNumber_large (large : 2 ^ 64 ≤ n) (h : Text.SpellsNumber n s) :
    classify s = .error (.legacyOutOfRange (Text.trim s)) := by
  rw [classify_of_decimal? h.decimal?_trim, if_neg (by omega)]

theorem ofJson_of_saysNumber (small : n < 2 ^ 64) {v : Json} (h : v.SaysNumber n) :
    ofJson v = .ok (.legacy (.ofNat n)) := by
  cases h with
  | number => simp [ofJson, ofJsonWithin]
  | string spelled => exact classify_of_spellsNumber small spelled

end RoomRef

theorem Json.ofText?_toString {n : Nat} (small : n < 2 ^ 64) : Json.ofText? (toString n) = some (.number (.integer n)) := by
  have tree : Json.Tree.ofText? (toString n) = some (.numeral (Json.natural n)) :=
    Json.ofSymbols?_of_reads (Json.reads_natural n)
  rw [Json.ofText?, tree, Option.bind_some, Json.Tree.toJson?, Json.Numeral.number?, Json.integer?_natural small]
  rfl

namespace RoomRef

/-- **All spellings of a room number agree.** Let a number be below 2^64. Any text that spells it is sorted as the number
and means the room that has it, or is refused if the number is zero. The same holds of the number as a value, which is
what its digits in a text of JSON are read as, of a string that spells it, and of up to four objects around one of these.
If the number is 2^64 or more, any text that spells it is refused for its size, as a text and as a string, inside objects
or not. -/
theorem room_numbers_agree (n : Nat) :
    let means : Except RoomError RoomId := if n = 0 then .error (.invalidLegacyId 0) else .ok (.ofNat n)
    (n < 2 ^ 64 →
      (RoomId.ofNat n).bytes = List.replicate 8 0 ++ Word.bytes (.ofNat n) ∧
      (∀ s, Text.SpellsNumber n s → classify s = .ok (.legacy (.ofNat n)) ∧ roomOfText s = means) ∧
      Json.ofText? (toString n) = some (.number (.integer n)) ∧
      ∀ layers ≤ 4, ∀ v w, v.SaysNumber n → Wraps layers w v →
        ofJson w = .ok (nested layers (.legacy (.ofNat n))) ∧ roomOfJson w = means) ∧
    (2 ^ 64 ≤ n → ∀ s, Text.SpellsNumber n s →
      classify s = .error (.legacyOutOfRange (Text.trim s)) ∧ roomOfText s = .error (.legacyOutOfRange (Text.trim s)) ∧
      ∀ layers ≤ 4, ∀ w, Wraps layers w (.string s) →
        ofJson w = .error (.legacyOutOfRange (Text.trim s)) ∧ roomOfJson w = .error (.legacyOutOfRange (Text.trim s))) := by
  intro means
  refine ⟨fun small => ?_, fun large s spelled => ?_⟩
  · have value : (legacy (.ofNat n)).room = means := room_legacy_ofNat small
    refine ⟨?_, fun s spelled => ?_, Json.ofText?_toString small, fun layers few v w told wraps => ?_⟩
    · rw [← ofLegacy_ofNat small, RoomId.bytes_ofLegacy]
    · have sorted := classify_of_spellsNumber small spelled
      exact ⟨sorted, by simp only [roomOfText, sorted, value]⟩
    · have sorted := ofJson_of_saysNumber small told
      -- no object says a number by itself, so the layers counted are those that wrap the value
      have flat : ∀ members, v ≠ .object members := by cases told <;> simp
      rw [ofJson_of_wraps few wraps flat, roomOfJson_of_wraps few wraps flat]
      exact ⟨by rw [sorted, Except.map], by simp only [roomOfJson, sorted, value]⟩
  · have sorted := classify_of_spellsNumber_large large spelled
    have refused : ofJson (.string s) = .error (.legacyOutOfRange (Text.trim s)) := sorted
    refine ⟨sorted, by simp only [roomOfText, sorted], fun layers few w wraps => ?_⟩
    have flat : ∀ members, Json.string s ≠ .object members := by simp
    rw [ofJson_of_wraps few wraps flat, roomOfJson_of_wraps few wraps flat]
    exact ⟨by rw [refused, Except.map], by simp only [roomOfJson, refused]⟩

/-- a number between white space of two kinds with zeros in front, in objects, and the first number that is too great -/
theorem room_numbers_agree_at_limit :
    let top := 2 ^ 64 - 1
    let s := "\u3000 0018446744073709551615\n"
    let s' := "018446744073709551616 "
    let v (s : String) : Json := .object [("id", .null), ("roomId", .object [("id", .string s), ("room_id", .bool true)])]
    top < 2 ^ 64 ∧ Text.SpellsNumber top s ∧ Wraps 2 (v s) (.string s) ∧ roomOfText s = .ok (.ofNat top) ∧
      roomOfJson (v s) = .ok (.ofNat top) ∧ Text.SpellsNumber (top + 1) s' ∧ Wraps 2 (v s') (.string s') ∧
      roomOfText s' = .error (.legacyOutOfRange "018446744073709551616") ∧
      roomOfJson (v s') = .error (.legacyOutOfRange "018446744073709551616") := by
  intro top s s' v
  have spelled : Text.SpellsNumber top s :=
    ⟨['\u3000', ' '], 2, ['\n'], by decide +kernel, List.forall_iff_forall_mem.1 (by decide),
      List.forall_iff_forall_mem.1 (by decide)⟩
  have spelled' : Text.SpellsNumber (top + 1) s' :=
    ⟨[], 1, [' '], by decide +kernel, List.forall_iff_forall_mem.1 (by decide), List.forall_iff_forall_mem.1 (by decide)⟩
  have wraps (s : String) : Wraps 2 (v s) (.string s) := .object rfl (.object rfl (.bare _))
  have small : top < 2 ^ 64 := by decide
  have text : Text.trim s' = "018446744073709551616" := by decide +kernel
  obtain ⟨-, means, -, inside⟩ := (room_numbers_agree top).1 small
  obtain ⟨-, refused, deeper⟩ := (room_numbers_agree (top + 1)).2 (by decide) s' spelled'
  exact ⟨small, spelled, wraps s, (means s spelled).2, (inside 2 (by decide) _ _ (.string spelled) (wraps s)).2, spelled',
    wraps s', text ▸ refused, text ▸ (deeper 2 (by decide) _ (wraps s')).2⟩

end RoomRef
end ErrandHub
