/-
The canonical text of a room.

A room has one written form, and a text spells the room (`RoomId.SpelledBy`) if nothing but the case of its letters and
white space around it sets it apart from that form.

  * `hyphenated_of_lower`: a text of hyphens and digits stays one when the case of its letters changes;
  * `ofChars?_of_lower`: so any spelling of the written form is read as the room;
  * `classify_of_ofText?`: and sorted as a room id, since it is neither a short name nor a text of digits;
  * `ofJsonWithin_of_wraps`, `roomAt_nested`: objects around a reference change nothing while there are not too many;
  * `canonical_text_is_fixed`: the written form of any room, and so of every room that a reference means, means that
    room again, wherever a reference may stand.
-/
import ErrandHub.Envelope.RoomMember
import ErrandHub.Proofs.Text.Blank
import ErrandHub.Proofs.Text.Ascii
import Mathlib.Tactic

namespace ErrandHub

namespace RoomId

/-! ## Hyphens between groups of digits -/

section Groups

variable {a b c d : List Char} (ha : a.length = 8) (hb : b.length = 4) (hc : c.length = 4) (hd : d.length = 4)
include ha hb hc hd

theorem hyphenate_groups (e : List Char) :
    hyphenate (a ++ b ++ c ++ d ++ e) = a ++ '-' :: (b ++ '-' :: (c ++ '-' :: (d ++ '-' :: e))) := by
  simp (disch := omega) [hyphenate, List.drop_append, List.drop_eq_nil_of_le, ha, hb, hc]

theorem ofHyphenated?_groups (e : List Char) :
    ofHyphenated? (hyphenate (a ++ b ++ c ++ d ++ e)) = ofDigits? (a ++ b ++ c ++ d ++ e) := by
  have dropped : ∀ cs, cs = hyphenate (a ++ b ++ c ++ d ++ e) →
      cs.take 8 ++ (cs.drop 9).take 4 ++ (cs.drop 14).take 4 ++ (cs.drop 19).take 4 ++ cs.drop 24 =
        a ++ b ++ c ++ d ++ e := by
    rintro cs rfl
    rw [hyphenate_groups ha hb hc hd]
    simp (disch := omega) [List.drop_append, List.drop_eq_nil_of_le, ha, hb, hc, hd]
  rw [ofHyphenated?]
  simp only [dropped _ rfl, if_true]

end Groups

/-- characters that fold to a hyphenated text are hyphenated digits, which fold to its digits -/
theorem hyphenated_of_lower {cs ds : List Char} (length : ds.length = 32) (h : cs.map Text.lowerChar = hyphenate ds) :
    ∃ ds', ds'.map Text.lowerChar = ds ∧ ofHyphenated? cs = ofDigits? ds' := by
  have hyphen {c : Char} (hc : Text.lowerChar c = '-') : c = '-' := Text.eq_of_lowerChar_eq hc (by decide)
  have joined : ds.take 8 ++ ((ds.drop 8).take 4 ++ ((ds.drop 12).take 4 ++ ((ds.drop 16).take 4 ++ ds.drop 20))) =
      ds := by
    have rest (n : Nat) : (ds.drop n).take 4 ++ ds.drop (n + 4) = ds.drop n := by
      rw [← List.drop_drop, List.take_append_drop]
    rw [rest 16, rest 12, rest 8, List.take_append_drop]
  simp only [hyphenate, List.map_eq_append_iff, List.map_eq_cons_iff] at h
  obtain ⟨_, _, rfl, ⟨_, _, rfl, ⟨_, _, rfl, ⟨a, _, rfl, ha, _, b, rfl, h₁, hb⟩, _, c, rfl, h₂, hc⟩, _, d, rfl, h₃, hd⟩,
    _, e, rfl, h₄, he⟩ := h
  obtain rfl := hyphen h₁
  obtain rfl := hyphen h₂
  obtain rfl := hyphen h₃
  obtain rfl := hyphen h₄
  refine ⟨a ++ b ++ c ++ d ++ e, ?_, ?_⟩
  · simp only [List.map_append, ha, hb, hc, hd, he, List.append_assoc, joined]
  · have groups : a.length = 8 ∧ b.length = 4 ∧ c.length = 4 ∧ d.length = 4 := by
      have long {cs cs' : List Char} (folded : cs.map Text.lowerChar = cs') : cs.length = cs'.length := by
        rw [← folded, List.length_map]
      rw [long ha, long hb, long hc, long hd]
      simp [length]
    obtain ⟨la, lb, lc, ld⟩ := groups
    rw [← ofHyphenated?_groups la lb lc ld, hyphenate_groups la lb lc ld]
    simp

theorem mem_hyphenate {ds : List Char} {c : Char} (h : c ∈ hyphenate ds) : c = '-' ∨ c ∈ ds := by
  simp only [hyphenate, List.mem_append, List.mem_cons] at h
  rcases h with (((h | rfl | h) | rfl | h) | rfl | h) | rfl | h
  · exact .inr (List.mem_of_mem_take h)
  · exact .inl rfl
  · exact .inr (List.mem_of_mem_drop (List.mem_of_mem_take h))
  · exact .inl rfl
  · exact .inr (List.mem_of_mem_drop (List.mem_of_mem_take h))
  · exact .inl rfl
  · exact .inr (List.mem_of_mem_drop (List.mem_of_mem_take h))
  · exact .inl rfl
  · exact .inr (List.mem_of_mem_drop h)

/-! ## The written form -/

theorem length_digits (r : RoomId) : r.digits.length = 32 := by
  rw [digits, List.length_map, Text.length_toDigits]

theorem length_chars (r : RoomId) : r.chars.length = 36 := by
  simp [chars, hyphenate, length_digits]

def alphabet : List Char := "-0123456789abcdef".toList

theorem mem_alphabet {r : RoomId} {c : Char} (h : c ∈ r.chars) : c ∈ alphabet := by
  obtain rfl | h := mem_hyphenate h
  · decide
  · obtain ⟨d, hd, rfl⟩ := List.mem_map.1 h
    have each : ∀ n < 16, Text.hexDigit n ∈ alphabet := by decide
    exact each d (Text.toDigits_lt (by decide) hd)

theorem ofDigits?_of_lower {r : RoomId} {ds : List Char} (h : ds.map Text.lowerChar = r.digits) :
    ofDigits? ds = some r := by
  have length : ds.length = 32 := by rw [← r.length_digits, ← h, List.length_map]
  have values : ds.mapM Text.hexDigit? = some (Text.toDigits 16 32 r.toNat) := by
    rw [← Text.mapM_hexDigit?_lower, h]
    exact Text.mapM_hexDigit? fun d hd => Text.toDigits_lt (by decide) hd
  have number : Text.ofDigits 16 (Text.toDigits 16 32 r.toNat) = r.toNat := by
    rw [Text.ofDigits_toDigits, Nat.mod_eq_of_lt]
    exact r.bits.isLt
  rw [ofDigits?, if_pos length, values, Option.map_some, number, ofNat, toNat, BitVec.ofNat_toNat, BitVec.setWidth_eq]

/-- the written form of a room is read as the room, in either case -/
theorem ofChars?_of_lower {r : RoomId} {cs : List Char} (h : cs.map Text.lowerChar = r.chars) :
    ofChars? cs = some r := by
  have length : cs.length = 36 := by rw [← r.length_chars, ← h, List.length_map]
  obtain ⟨ds, hds, read⟩ := hyphenated_of_lower r.length_digits h
  rw [ofChars?, if_neg (by omega), if_neg (by omega), if_pos length, read, ofDigits?_of_lower hds]

theorem lower_chars (r : RoomId) : r.chars.map Text.lowerChar = r.chars := by
  have each : ∀ c ∈ alphabet, Text.lowerChar c = c := List.forall_iff_forall_mem.1 (by decide)
  calc r.chars.map Text.lowerChar
    _ = r.chars.map id := List.map_congr_left fun c hc => each c (mem_alphabet hc)
    _ = r.chars := List.map_id _

theorem toList_text (r : RoomId) : r.text.toList = r.chars := String.toList_ofList

theorem ofText?_text (r : RoomId) : ofText? r.text = some r := by
  rw [ofText?, toList_text, ofChars?_of_lower r.lower_chars]

/-! ## What is read as a room -/

theorem parse_eq_ok_iff {s : String} {r : RoomId} : parse s = .ok r ↔ ofText? (Text.trim s) = some r := by
  by_cases empty : Text.trim s = ""
  · have missing : Text.trimmed? s = none := if_pos (Text.isBlank_iff.2 empty)
    have unread : ofText? "" = none := by decide
    simp [parse, missing, empty, unread]
  · simp only [parse, Text.trimmed?_eq_some_iff.2 ⟨empty, rfl⟩]
    cases ofText? (Text.trim s) <;> simp

theorem length_of_ofChars? {cs : List Char} {r : RoomId} (h : ofChars? cs = some r) : 32 ≤ cs.length := by
  unfold ofChars? at h
  split_ifs at h with urn braced hyphenated
  · omega
  · omega
  · omega
  · rw [ofDigits?, Option.ite_none_right_eq_some] at h
    omega

/-! ## Spellings -/

/-- a text spells a room: the written form, in capitals or small letters, with white space around it or none -/
def SpelledBy (r : RoomId) (s : String) : Prop :=
  ∃ before letters after, s.toList = before ++ letters ++ after ∧ letters.map Text.lowerChar = r.chars ∧
    (∀ c ∈ before, Text.isBlankChar c) ∧ (∀ c ∈ after, Text.isBlankChar c)

theorem spelledBy_text (r : RoomId) : r.SpelledBy r.text :=
  ⟨[], r.chars, [], by simp [toList_text], r.lower_chars, by simp, by simp⟩

theorem spelledBy_toUpper (r : RoomId) : r.SpelledBy r.text.toUpper := by
  refine ⟨[], r.chars.map Char.toUpper, [], by simp [toList_text, String.toUpper], ?_, by simp, by simp⟩
  have each : ∀ c ∈ alphabet, Text.lowerChar c.toUpper = c := List.forall_iff_forall_mem.1 (by decide)
  calc (r.chars.map Char.toUpper).map Text.lowerChar
    _ = r.chars.map fun c => Text.lowerChar c.toUpper := List.map_map
    _ = r.chars.map id := List.map_congr_left fun c hc => each c (mem_alphabet hc)
    _ = r.chars := List.map_id _

variable {r : RoomId} {s : String}

/-- characters that fold to the written form are not white space -/
theorem visible_of_lower {cs : List Char} (h : cs.map Text.lowerChar = r.chars) : ∀ c ∈ cs, Text.isBlankChar c = false := by
  intro c hc
  have each : ∀ d ∈ alphabet, Text.isBlankChar d = false := List.forall_iff_forall_mem.1 (by decide)
  have folded : Text.lowerChar c ∈ r.chars := h ▸ List.mem_map_of_mem hc
  rw [← Text.isBlankChar_lowerChar]
  exact each _ (mem_alphabet folded)

/-- a spelling without the white space around it is the written form but for the case of its letters -/
theorem SpelledBy.lower_trim (h : r.SpelledBy s) : (Text.trim s).toList.map Text.lowerChar = r.chars := by
  obtain ⟨before, letters, after, hs, folded, hbefore, hafter⟩ := h
  rw [Text.toList_trim, hs, Text.trimChars_padded hbefore hafter, Text.trimChars_eq_self (visible_of_lower folded), folded]

theorem SpelledBy.trim (h : r.SpelledBy s) : r.SpelledBy (Text.trim s) :=
  ⟨[], (Text.trim s).toList, [], by simp, h.lower_trim, by simp, by simp⟩

theorem SpelledBy.ofText? (h : r.SpelledBy s) : ofText? (Text.trim s) = some r := ofChars?_of_lower h.lower_trim

theorem SpelledBy.parse (h : r.SpelledBy s) : parse s = .ok r := parse_eq_ok_iff.2 h.ofText?

end RoomId

/-! ## How a spelling is sorted -/

namespace RoomRef

variable {r : RoomId} {s : String}

theorem lookup_of_long (long : 13 < (Text.trim s).length) : WellKnownRoom.lookup (Text.trim s) = none := by
  have length : (Text.lower (Text.trim (Text.trim s))).length = (Text.trim s).length := by
    rw [Text.trim_trim, Text.lower, String.length_ofList, List.length_map, String.length_toList]
  rw [WellKnownRoom.lookup, List.find?_eq_none]
  intro known _ same
  rw [← length, ← eq_of_beq same] at long
  revert long
  cases known <;> decide

/-- a text that is not blank is sorted without the white space around it -/
theorem classify_of_trim_ne (something : Text.trim s ≠ "") : classify s = classifyTrimmed (Text.trim s) := by
  simp only [classify, Text.trimmed?_eq_some_iff.2 ⟨something, rfl⟩]

/-- a text that is read as an id is sorted as one, unless it is written in digits alone -/
theorem classify_of_ofText? (read : RoomId.ofText? (Text.trim s) = some r)
    (other : Text.decimal? (Text.trim s).toList = none) : classify s = .ok (.canonical (Text.trim s)) := by
  have long : 32 ≤ (Text.trim s).length := RoomId.length_of_ofChars? read
  have unnamed : WellKnownRoom.lookup (Text.trim s) = none := lookup_of_long (by omega)
  have something : Text.trim s ≠ "" := by
    intro empty
    rw [empty] at long
    exact absurd long (by decide)
  rw [classify_of_trim_ne something]
  simp only [classifyTrimmed, unnamed, other, read, Option.isSome_some, if_true]

/-- the hyphens of the written form are no digits -/
theorem decimal?_of_spelledBy (h : r.SpelledBy s) : Text.decimal? (Text.trim s).toList = none := by
  have hyphen : '-' ∈ (Text.trim s).toList.map Text.lowerChar := by
    rw [h.lower_trim]
    simp [RoomId.chars, RoomId.hyphenate]
  obtain ⟨c, hc, folded⟩ := List.mem_map.1 hyphen
  obtain rfl := Text.eq_of_lowerChar_eq folded (by decide)
  exact Text.decimal?_of_mem hc rfl

theorem classify_of_spelledBy (h : r.SpelledBy s) : classify s = .ok (.canonical (Text.trim s)) :=
  classify_of_ofText? h.ofText? (decimal?_of_spelledBy h)

/-! ## Objects around a reference -/

/-- a value with so many objects around it, each of which holds the next one as the id that it names -/
inductive Wraps : Nat → Json → Json → Prop where
  | bare (v : Json) : Wraps 0 v v
  | object {n : Nat} {members : List (String × Json)} {inner v : Json} (found : idMember? members = some inner)
      (rest : Wraps n inner v) : Wraps (n + 1) (.object members) v

/-- a reference with so many objects around it -/
def nested (n : Nat) (ref : RoomRef) : RoomRef := RoomRef.object^[n] ref

/-- objects around a value become objects around what it is sorted as, and leave a refusal as it is -/
theorem ofJsonWithin_wraps {n : Nat} {w v : Json} (h : Wraps n w v) (levels : Nat) :
    ofJsonWithin (levels + n) w = (ofJsonWithin levels v).map (nested n) := by
  induction h with
  | bare v =>
    rw [Nat.add_zero]
    cases ofJsonWithin levels v <;> rfl
  | @object n members inner v found rest ih =>
    rw [← Nat.add_assoc]
    simp only [ofJsonWithin, found, ih]
    cases ofJsonWithin levels v <;> simp [Except.map, nested, Function.iterate_succ_apply']

theorem ofJsonWithin_of_wraps {n : Nat} {w v : Json} (h : Wraps n w v) {levels : Nat} {ref : RoomRef}
    (sorted : ofJsonWithin levels v = .ok ref) : ofJsonWithin (levels + n) w = .ok (nested n ref) := by
  rw [ofJsonWithin_wraps h, sorted, Except.map]

theorem roomAt_nested {n depth : Nat} (room : depth + n ≤ maxNesting) (ref : RoomRef) :
    (nested n ref).roomAt depth = ref.roomAt (depth + n) := by
  induction n generalizing depth with
  | zero => rfl
  | succ n ih =>
    have shallow : depth < maxNesting := by omega
    rw [nested, Function.iterate_succ_apply', roomAt, if_pos shallow, ← nested, ih (by omega)]
    congr 1
    omega

/-- a spelling of a room means the room, with up to so many objects around it -/
theorem room_nested_of_spelledBy (h : r.SpelledBy s) {n : Nat} (hn : n ≤ maxNesting) :
    (nested n (.canonical s)).room = .ok r := by
  rw [room, roomAt_nested (by omega), roomAt, h.ofText?]

theorem ofJsonWithin_of_spelledBy (h : r.SpelledBy s) (levels : Nat) :
    ofJsonWithin levels (.string s) = .ok (.canonical (Text.trim s)) := by
  rw [← classify_of_spelledBy h]
  cases levels <;> rfl

/-! ## The fixed point -/

/-- **The canonical text is a fixed point.** The written form of a room has 36 characters, small hexadecimal digits and
hyphens. Any text that spells it, itself and itself in capitals among them and padded or not, is the room again: parsed
as an id; sorted as a text, which takes it for a room id and for nothing else; and as a value, bare or with up to four
objects around it. So is the reference to the room by its id, with up to four objects around it. All this holds of every
room, and so of every room that a reference, a text or a value means. -/
theorem canonical_text_is_fixed (r : RoomId) :
    r.text.length = 36 ∧ (∀ c ∈ r.text.toList, c ∈ "-0123456789abcdef".toList) ∧
    (∀ n ≤ 4, (nested n (ofRoom r)).room = .ok r) ∧
    r.SpelledBy r.text ∧ r.SpelledBy r.text.toUpper ∧
    ∀ s, r.SpelledBy s →
      RoomId.parse s = .ok r ∧
      classify s = .ok (.canonical (Text.trim s)) ∧ roomOfText s = .ok r ∧
      ∀ n ≤ 4, ∀ v, Wraps n v (.string s) →
        ofJson v = .ok (nested n (.canonical (Text.trim s))) ∧ roomOfJson v = .ok r := by
  refine ⟨?_, ?_, ?_, r.spelledBy_text, r.spelledBy_toUpper, ?_⟩
  · rw [← String.length_toList, r.toList_text, r.length_chars]
  · intro c hc
    exact RoomId.mem_alphabet (r.toList_text ▸ hc)
  · intro n hn
    exact room_nested_of_spelledBy r.spelledBy_text hn
  · intro s h
    have sorted := classify_of_spelledBy h
    refine ⟨h.parse, sorted, ?_, ?_⟩
    · simp only [roomOfText, sorted]
      exact room_nested_of_spelledBy h.trim (n := 0) (Nat.zero_le _)
    · intro n hn v hv
      have wrapped : ofJson v = .ok (nested n (.canonical (Text.trim s))) := by
        have around := ofJsonWithin_of_wraps hv (ofJsonWithin_of_spelledBy h (maxNesting - n))
        rwa [Nat.sub_add_cancel (show n ≤ maxNesting from hn)] at around
      refine ⟨wrapped, ?_⟩
      simp only [roomOfJson, wrapped]
      exact room_nested_of_spelledBy h.trim hn

/-- a room in capitals, between an ideographic space and a line break, inside two objects with other members -/
theorem canonical_text_is_fixed_in_objects :
    let r := RoomId.ofNat 0x6f9619ff8b864d01b42d00c04fc964ff
    let s := "\u3000 6F9619FF-8B86-4D01-B42D-00C04FC964FF\n"
    let v : Json := .object [("id", .null), ("roomId", .object [("name", .bool true), ("room_id", .string s)])]
    r.SpelledBy s ∧ Wraps 2 v (.string s) ∧ RoomId.parse s = .ok r ∧ roomOfJson v = .ok r := by
  intro r s v
  have spelled : r.SpelledBy s := by
    refine ⟨['\u3000', ' '], "6F9619FF-8B86-4D01-B42D-00C04FC964FF".toList, ['\n'], ?_, ?_, ?_, ?_⟩
    · decide +kernel
    · decide +kernel
    · exact List.forall_iff_forall_mem.1 (by decide)
    · exact List.forall_iff_forall_mem.1 (by decide)
  have wrapped : Wraps 2 v (.string s) := .object rfl (.object rfl (.bare _))
  obtain ⟨-, -, -, -, -, fixed⟩ := canonical_text_is_fixed r
  obtain ⟨parsed, -, -, around⟩ := fixed s spelled
  exact ⟨spelled, wrapped, parsed, (around 2 (by decide) v wrapped).2⟩

end RoomRef
end ErrandHub
