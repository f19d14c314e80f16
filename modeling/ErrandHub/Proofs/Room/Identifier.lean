/-
Texts that are read as a room id, and what they are sorted as.

A room id is read from its 32 hexadecimal digits, from the hyphenated form, and from that form in braces or after
`urn:uuid:`, always in either case. None of these is a short name. The sorting of a text looks for a number before it
looks for a room id, and 32 hexadecimal digits may all be decimal ones: such a text is a number, whatever room it would
be as an id. Read in base ten it says less than in base sixteen, unless all digits but the last are zero.

  * `parse_eq_ok_iff`: an id is parsed if it is read from the text without the white space around it.
  * `ofChars?_digitChars`: of texts in decimal digits, those of 32 are room ids.
  * `ofDigits_ten_eq_sixteen_iff`: when the two bases say the same.
  * `parsed_ids_pass_through`: a text that is parsed as an id and not written in decimal digits alone means that room.
-/
import ErrandHub.Proofs.Room.Number

namespace ErrandHub

namespace Text

/-! ## Two bases -/

theorem ofDigits_lt {base : Nat} {ds : List Nat} (positive : 0 < base) (h : ∀ d ∈ ds, d < base) :
    ofDigits base ds < base ^ ds.length := by
  rw [← toDigits_ofDigits h, ofDigits_toDigits, length_toDigits]
  exact Nat.mod_lt _ (Nat.pow_pos positive)

/-- digits say less in base ten than in base sixteen, or only the last of them says anything -/
theorem ofDigits_ten_le_sixteen (ds : List Nat) : ofDigits 10 ds ≤ ofDigits 16 ds := by
  induction ds using List.reverseRecOn with
  | nil => rfl
  | append_singleton ds d ih =>
    rw [ofDigits_concat, ofDigits_concat]
    omega

theorem ofDigits_ten_eq_sixteen_iff {ds : List Nat} (h : ∀ d ∈ ds, d < 10) :
    ofDigits 10 ds = ofDigits 16 ds ↔ ofDigits 16 ds < 10 := by
  cases ds using List.reverseRecOn with
  | nil => decide
  | append_singleton ds d =>
    have last : d < 10 := h d (by simp)
    have less := ofDigits_ten_le_sixteen ds
    rw [ofDigits_concat, ofDigits_concat]
    omega

theorem mapM_hexDigit?_digitChars {ds : List Nat} (h : ∀ d ∈ ds, d < 10) :
    (ds.map Nat.digitChar).mapM hexDigit? = some ds := by
  have written : ds.map Nat.digitChar = ds.map hexDigit := by
    refine List.map_congr_left fun d hd => ?_
    have each : ∀ n < 10, Nat.digitChar n = hexDigit n := by decide
    exact each d (h d hd)
  rw [written, mapM_hexDigit? fun d hd => (h d hd).trans (by decide)]

end Text

namespace RoomId

/-! ## Texts without hyphens -/

theorem ofHyphenated?_of_notMem {cs : List Char} (h : '-' ∉ cs) : ofHyphenated? cs = none := by
  rw [ofHyphenated?, if_neg]
  intro hyphenated
  rw [← hyphenated] at h
  simp [hyphenate] at h

/-- without hyphens there is only the form of bare digits -/
theorem ofChars?_of_notMem {cs : List Char} (h : '-' ∉ cs) : ofChars? cs = ofDigits? cs := by
  have bare (length : cs.length ≠ 32) : ofDigits? cs = none := if_neg length
  unfold ofChars?
  split_ifs with urn named braced marked hyphenated
  · rw [bare (by omega), ofHyphenated?_of_notMem fun mem => h (List.mem_of_mem_drop mem)]
  · rw [bare (by omega)]
  · rw [bare (by omega), ofHyphenated?_of_notMem fun mem => h (List.mem_of_mem_drop (List.mem_of_mem_dropLast mem))]
  · rw [bare (by omega)]
  · rw [bare (by omega), ofHyphenated?_of_notMem h]
  · rfl

theorem ofChars?_digitChars {ds : List Nat} (h : ∀ d ∈ ds, d < 10) :
    ofChars? (ds.map Nat.digitChar) = if ds.length = 32 then some (ofNat (Text.ofDigits 16 ds)) else none := by
  have unhyphenated : '-' ∉ ds.map Nat.digitChar := by
    intro hyphen
    obtain ⟨d, hd, same⟩ := List.mem_map.1 hyphen
    have each : ∀ n < 10, Nat.digitChar n ≠ '-' := by decide
    exact each d (h d hd) same
  rw [ofChars?_of_notMem unhyphenated, ofDigits?, List.length_map, Text.mapM_hexDigit?_digitChars h, Option.map_some]

end RoomId

namespace RoomRef

variable {s : String} {r : RoomId}

theorem roomOfText_of_ofText? (read : RoomId.ofText? (Text.trim s) = some r)
    (other : Text.decimal? (Text.trim s).toList = none) : roomOfText s = .ok r := by
  have sorted := classify_of_ofText? read other
  simp only [roomOfText, sorted, room, roomAt, Text.trim_trim, read]

/-- a text that is read as an id and as a number means the room of the id only if that is one of the first nine -/
theorem roomOfText_of_digits {n : Nat} (read : RoomId.ofText? (Text.trim s) = some r)
    (digits : Text.decimal? (Text.trim s).toList = some n) :
    (Text.trim s).length = 32 ∧ (roomOfText s = .ok r ↔ 1 ≤ r.toNat ∧ r.toNat ≤ 9) := by
  rw [roomOfText_eq_ok_iff_of_decimal? digits]
  obtain ⟨ds, -, small, written, rfl⟩ := Text.decimal?_eq_some_iff.1 digits
  rw [RoomId.ofText?, written, RoomId.ofChars?_digitChars small, Option.ite_none_right_eq_some, Option.some_inj] at read
  obtain ⟨length, rfl⟩ := read
  have number : (RoomId.ofNat (Text.ofDigits 16 ds)).toNat = Text.ofDigits 16 ds := by
    have below : Text.ofDigits 16 ds < 16 ^ ds.length :=
      Text.ofDigits_lt (by decide) fun d hd => (small d hd).trans (by decide)
    rw [length] at below
    rw [RoomId.toNat_ofNat, Nat.mod_eq_of_lt (below.trans_le (by decide))]
  have same := Text.ofDigits_ten_eq_sixteen_iff small
  refine ⟨by rw [← String.length_toList, written, List.length_map, length], ?_⟩
  rw [number]
  omega

/-- **What is parsed as an id means that room, unless it is a number.** A text that is parsed as a room id, in any of its
four forms, either case and any white space, and has a character that is no decimal digit is sorted as a room id and
means the same room, as a text and as a string of JSON. What is left are 32 decimal digits alone, which are sorted as the
number that they say or refused for its size; those mean the room that is parsed exactly if they say one to nine. -/
theorem parsed_ids_pass_through {s : String} {r : RoomId} (parsed : RoomId.parse s = .ok r) :
    ((∃ c ∈ (Text.trim s).toList, Text.isDigit c = false) →
      classify s = .ok (.canonical (Text.trim s)) ∧ roomOfText s = .ok r ∧
      ofJson (.string s) = .ok (.canonical (Text.trim s)) ∧ roomOfJson (.string s) = .ok r) ∧
    ((∀ c ∈ (Text.trim s).toList, Text.isDigit c = true) →
      (Text.trim s).length = 32 ∧
      (∃ n, Text.decimal? (Text.trim s).toList = some n ∧
        classify s = if n < 2 ^ 64 then .ok (.legacy (.ofNat n)) else .error (.legacyOutOfRange (Text.trim s))) ∧
      (roomOfText s = .ok r ↔ 1 ≤ r.toNat ∧ r.toNat ≤ 9) ∧
      ofJson (.string s) = classify s ∧ roomOfJson (.string s) = roomOfText s) := by
  have read := RoomId.parse_eq_ok_iff.1 parsed
  refine ⟨?_, fun digits => ?_⟩
  · rintro ⟨c, hc, mark⟩
    have other : Text.decimal? (Text.trim s).toList = none :=
      Text.decimal?_of_mem hc (Option.not_isSome_iff_eq_none.1 (Bool.not_eq_true _ ▸ mark))
    have sorted := classify_of_ofText? read other
    have means := roomOfText_of_ofText? read other
    exact ⟨sorted, means, sorted, means⟩
  · have long : 32 ≤ (Text.trim s).toList.length := RoomId.length_of_ofChars? read
    have something : (Text.trim s).toList ≠ [] := List.ne_nil_of_length_pos (by omega)
    obtain ⟨n, number⟩ := Option.isSome_iff_exists.1 (Text.isSome_decimal?_iff.2 ⟨something, digits⟩)
    obtain ⟨length, means⟩ := roomOfText_of_digits read number
    exact ⟨length, ⟨n, number, classify_of_decimal? number⟩, means, rfl, rfl⟩

/-- an id after `urn:uuid:` in mixed case, and digits that say four in both bases -/
theorem parsed_ids_pass_through_urn :
    let r := RoomId.ofNat 0x6f9619ff8b864d01b42d00c04fc964ff
    let s := "\u3000URN:uuid:6F9619ff-8B86-4D01-B42D-00C04FC964FF\n"
    let four := "00000000000000000000000000000004"
    RoomId.parse s = .ok r ∧ (∃ c ∈ (Text.trim s).toList, Text.isDigit c = false) ∧ roomOfText s = .ok r ∧
      roomOfJson (.string s) = .ok r ∧ RoomId.parse four = .ok (.ofNat 4) ∧
      (∀ c ∈ (Text.trim four).toList, Text.isDigit c = true) ∧ roomOfText four = .ok (.ofNat 4) := by
  intro r s four
  have parsed : RoomId.parse s = .ok r := by decide +kernel
  have mark : ∃ c ∈ (Text.trim s).toList, Text.isDigit c = false := ⟨':', by decide +kernel, by decide⟩
  have parsed' : RoomId.parse four = .ok (.ofNat 4) := by decide +kernel
  have digits : ∀ c ∈ (Text.trim four).toList, Text.isDigit c = true := List.all_eq_true.1 (by decide +kernel)
  obtain ⟨-, means, -, string⟩ := (parsed_ids_pass_through parsed).1 mark
  obtain ⟨-, -, nine, -⟩ := (parsed_ids_pass_through parsed').2 digits
  exact ⟨parsed, mark, means, string, parsed', digits, nine.2 (by decide)⟩

/-- 32 decimal digits are parsed as one room and sorted as the number of another -/
theorem digits_mean_another_room :
    let s := "00000000000000000000000000000010"
    RoomId.parse s = .ok (.ofNat 16) ∧ classify s = .ok (.legacy 10) ∧ roomOfText s = .ok (.ofNat 10) ∧
      roomOfText s ≠ .ok (.ofNat 16) := by
  decide +kernel

end RoomRef
end ErrandHub
