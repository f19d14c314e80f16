/-
Legacy numbers among the rooms.

A room is sixteen bytes, the highest one first. A legacy number means the room of eight zero bytes and the eight bytes
of the number, and a room of that form has this number and no other. The room of a label has a byte among the first
eight that says of what kind it is, so it is never of that form.

  * `bytes_injective`: a room is known by its bytes.
  * `legacy?_eq_some_iff`: the legacy number of a room is the one that means it.
  * `bytes_ofLegacy`: the bytes of the room of a legacy number.
  * `bytes_ofDigest`: the bytes of the room of a hash, with the two marks in them.
  * `legacy_numbers_embed_exactly`: the numbers and their rooms, and the labels among the others.
-/
import ErrandHub.Room.Ref
import ErrandHub.Proofs.Text.Ascii
import ErrandHub.Proofs.Text.Blank
import Mathlib.Tactic

namespace ErrandHub

/-- the eight bytes of a word, the highest one first -/
def Word.bytes (n : UInt64) : List UInt8 := (Text.toDigits 256 8 n.toNat).map UInt8.ofNat

namespace RoomId

/-- the sixteen bytes of a room, the highest one first -/
def bytes (r : RoomId) : List UInt8 := (Text.toDigits 256 16 r.toNat).map UInt8.ofNat

/-! ## Bytes -/

theorem toNat_ofNat (n : Nat) : (ofNat n).toNat = n % 2 ^ 128 := BitVec.toNat_ofNat n 128

theorem ofNat_toNat (r : RoomId) : ofNat r.toNat = r := by
  rw [ofNat, toNat, BitVec.ofNat_toNat, BitVec.setWidth_eq]

theorem toNat_lt (r : RoomId) : r.toNat < 2 ^ 128 := r.bits.isLt

theorem ofDigits_bytes (r : RoomId) : Text.ofDigits 256 (r.bytes.map UInt8.toNat) = r.toNat := by
  have digits : r.bytes.map UInt8.toNat = Text.toDigits 256 16 r.toNat := by
    rw [bytes, List.map_map]
    refine (List.map_congr_left fun d hd => ?_).trans (List.map_id _)
    exact UInt8.toNat_ofNat_of_lt (Text.toDigits_lt (by decide) hd)
  rw [digits, Text.ofDigits_toDigits, Nat.mod_eq_of_lt]
  exact r.toNat_lt

theorem bytes_injective {r r' : RoomId} (h : r.bytes = r'.bytes) : r = r' := by
  rw [← r.ofNat_toNat, ← r'.ofNat_toNat, ← r.ofDigits_bytes, ← r'.ofDigits_bytes, h]

theorem bytes_ofNat_ofDigits {bs : List UInt8} (length : bs.length = 16) :
    (ofNat (Text.ofDigits 256 (bs.map UInt8.toNat))).bytes = bs := by
  have small : ∀ d ∈ bs.map UInt8.toNat, d < 256 := by
    intro d hd
    obtain ⟨b, -, rfl⟩ := List.mem_map.1 hd
    exact b.toNat_lt
  have digits : Text.toDigits 256 16 (Text.ofDigits 256 (bs.map UInt8.toNat)) = bs.map UInt8.toNat := by
    rw [← length, ← List.length_map (f := UInt8.toNat), Text.toDigits_ofDigits small]
  have room : (ofNat (Text.ofDigits 256 (bs.map UInt8.toNat))).toNat = Text.ofDigits 256 (bs.map UInt8.toNat) := by
    rw [toNat_ofNat, ← show 256 ^ 16 = 2 ^ 128 by norm_num, ← Text.ofDigits_toDigits 256 16, digits]
  rw [bytes, room, digits, List.map_map]
  exact (List.map_congr_left fun b _ => UInt8.ofNat_toNat).trans (List.map_id bs)

/-! ## The embedding -/

theorem toNat_ofLegacy (n : UInt64) : (ofLegacy n).toNat = n.toNat := by
  have small : n.toNat < 2 ^ 64 := n.toNat_lt
  rw [ofLegacy, toNat_ofNat, Nat.mod_eq_of_lt (by omega)]

/-- eight zero bytes, and the bytes of the number -/
theorem bytes_ofLegacy (n : UInt64) : (ofLegacy n).bytes = List.replicate 8 0 ++ Word.bytes n := by
  have high : n.toNat / 256 ^ 8 = 0 := Nat.div_eq_of_lt n.toNat_lt
  rw [bytes, toNat_ofLegacy, Text.toDigits_add 256 8 8, high, Text.toDigits_zero, List.map_append, Word.bytes,
    List.map_replicate]
  rfl

/-- the legacy number of a room is the one that means it, and zero means none -/
theorem legacy?_eq_some_iff {r : RoomId} {n : UInt64} : r.legacy? = some n ↔ n ≠ 0 ∧ ofLegacy n = r := by
  have zero : n.toNat = 0 ↔ n = 0 := by rw [← UInt64.toNat_inj]; rfl
  rw [legacy?]
  constructor
  · intro h
    obtain ⟨positive, h⟩ := Option.ite_none_right_eq_some.1 h
    have number : r.toNat = n.toNat := Word.ofNat?_eq_some_iff.1 h
    exact ⟨fun hn => by rw [number, zero.2 hn] at positive; exact absurd positive (by decide),
      by rw [ofLegacy, ← number, ofNat_toNat]⟩
  · rintro ⟨hn, rfl⟩
    rw [toNat_ofLegacy, if_pos (Nat.pos_of_ne_zero (mt zero.1 hn)), Word.ofNat?_eq_some_iff]

theorem toLegacy_eq_ok_iff {r : RoomId} {n : UInt64} : r.toLegacy = .ok n ↔ r.legacy? = some n := by
  unfold toLegacy
  split <;> rename_i h <;> rw [h] <;> simp

theorem toLegacy_eq_error_iff {r : RoomId} : r.toLegacy = .error (.notLegacy r) ↔ r.legacy? = none := by
  unfold toLegacy
  split <;> rename_i h <;> rw [h] <;> simp

/-- a room with anything but zero in its upper half has no legacy number -/
theorem legacy?_eq_none_of_upper {r : RoomId} {b : UInt8} (hb : b ∈ r.bytes.take 8) (nonzero : b ≠ 0) :
    r.legacy? = none := by
  rw [Option.eq_none_iff_forall_ne_some]
  intro n hn
  obtain ⟨-, rfl⟩ := legacy?_eq_some_iff.1 hn
  rw [bytes_ofLegacy, List.take_append_of_le_length (by simp)] at hb
  exact nonzero (List.eq_of_mem_replicate (List.mem_of_mem_take hb))

/-! ## Labels -/

/-- the room of a hash has the first sixteen bytes of it, two of them marked -/
theorem bytes_ofDigest {digest : List UInt8} (long : 16 ≤ digest.length) : (ofDigest digest).bytes =
    (digest.take 16).zipIdx.map fun bi =>
      if bi.2 = 6 then (bi.1 &&& 0x0f) ||| 0x80 else if bi.2 = 8 then (bi.1 &&& 0x3f) ||| 0x80 else bi.1 := by
  rw [ofDigest]
  refine bytes_ofNat_ofDigits ?_
  rw [List.length_map, List.length_zipIdx, List.length_take, Nat.min_eq_left long]

theorem marked_ne_zero (b : UInt8) : b ||| 0x80 ≠ 0 := by
  intro h
  have high : 128 ≤ (b ||| 0x80).toNat := by
    rw [UInt8.toNat_or]
    exact Nat.right_le_or
  rw [h] at high
  exact absurd high (by decide)

/-- whatever the hash, its room is no legacy room: the mark of its kind is in the upper half -/
theorem legacy?_ofDigest {digest : List UInt8} (long : 16 ≤ digest.length) : (ofDigest digest).legacy? = none := by
  refine legacy?_eq_none_of_upper (b := (digest[6] &&& 0x0f) ||| 0x80) ?_ (marked_ne_zero _)
  rw [bytes_ofDigest long, List.mem_take_iff_getElem]
  refine ⟨6, by simp; omega, ?_⟩
  simp

end RoomId

namespace RoomRef

theorem room_legacy_eq_ok_iff {n : UInt64} {r : RoomId} : (legacy n).room = .ok r ↔ r.legacy? = some n := by
  rw [RoomId.legacy?_eq_some_iff, room, roomAt]
  split_ifs with hn <;> simp [hn]

theorem room_label {s : String} (h : Text.isBlank s = false) :
    (label s).room = .ok (.ofLabel (Text.trim s)) := by
  simp [room, roomAt, Text.trimmed?, h]

/-- **The legacy embedding is exactly invertible, and nothing else falls into it.** A room has a legacy number exactly
if that number is one of 64 bits, not zero, and means the room, which is the room of eight zero bytes and the bytes of
the number. So no two numbers share a room, and a room that no number means has none, the room of all zero bytes among
them. The room of any hash has none, and so has the room that a label means, whatever the label but blank. -/
theorem legacy_numbers_embed_exactly :
    (∀ (r : RoomId) (n : Nat), (∃ w, r.toLegacy = .ok w ∧ w.toNat = n) ↔
      1 ≤ n ∧ n < 2 ^ 64 ∧ (legacy (.ofNat n)).room = .ok r) ∧
    (∀ (n : UInt64) (r : RoomId), (legacy n).room = .ok r ↔ n ≠ 0 ∧ r.bytes = List.replicate 8 0 ++ Word.bytes n) ∧
    (∀ (m n : UInt64) (r : RoomId), (legacy m).room = .ok r → (legacy n).room = .ok r → m = n) ∧
    (∀ r : RoomId, (∀ n, (legacy n).room ≠ .ok r) → r.toLegacy = .error (.notLegacy r)) ∧
    (RoomId.ofNat 0).toLegacy = .error (.notLegacy (.ofNat 0)) ∧
    (∀ digest : List UInt8, digest.length = 32 →
      (RoomId.ofDigest digest).toLegacy = .error (.notLegacy (.ofDigest digest))) ∧
    ∀ s, Text.isBlank s = false → ∃ r, (label s).room = .ok r ∧ r.toLegacy = .error (.notLegacy r) := by
  refine ⟨fun r n => ⟨?_, ?_⟩, fun n r => ?_, fun m n r hm hn => ?_, fun r outside => ?_, ?_, fun digest length => ?_,
    fun s visible => ⟨_, room_label visible, ?_⟩⟩
  · rintro ⟨w, hw, rfl⟩
    rw [RoomId.toLegacy_eq_ok_iff] at hw
    have nonzero := (RoomId.legacy?_eq_some_iff.1 hw).1
    refine ⟨Nat.pos_of_ne_zero fun zero => nonzero (UInt64.toNat_inj.1 zero), w.toNat_lt, ?_⟩
    rw [UInt64.ofNat_toNat, room_legacy_eq_ok_iff, hw]
  · rintro ⟨-, small, means⟩
    exact ⟨.ofNat n, RoomId.toLegacy_eq_ok_iff.2 (room_legacy_eq_ok_iff.1 means), UInt64.toNat_ofNat_of_lt small⟩
  · rw [room_legacy_eq_ok_iff, RoomId.legacy?_eq_some_iff, ← RoomId.bytes_ofLegacy]
    exact and_congr_right fun _ => ⟨fun h => h ▸ rfl, fun h => (RoomId.bytes_injective h).symm⟩
  · rw [room_legacy_eq_ok_iff] at hm hn
    exact Option.some_inj.1 (hm.symm.trans hn)
  · rw [RoomId.toLegacy_eq_error_iff, Option.eq_none_iff_forall_ne_some]
    exact fun n hn => outside n (room_legacy_eq_ok_iff.2 hn)
  · rfl
  · rw [RoomId.toLegacy_eq_error_iff]
    exact RoomId.legacy?_ofDigest (by omega)
  · rw [RoomId.toLegacy_eq_error_iff]
    exact RoomId.legacy?_ofDigest (by rw [Sha256.length_digest]; decide)

/-- the highest number, the room after it, a hash of zero bytes alone, and a label with white space around it -/
theorem legacy_numbers_embed_exactly_at_limit :
    let top := RoomId.ofNat (2 ^ 64 - 1)
    let next := RoomId.ofNat (2 ^ 64)
    let zeros : List UInt8 := List.replicate 32 0
    let s := " order 1234\n"
    (legacy 0xffffffffffffffff).room = .ok top ∧ (∃ w, top.toLegacy = .ok w ∧ w.toNat = 2 ^ 64 - 1) ∧
      (∀ n, (legacy n).room ≠ .ok next) ∧ next.toLegacy = .error (.notLegacy next) ∧
      zeros.length = 32 ∧ (RoomId.ofDigest zeros).toLegacy = .error (.notLegacy (.ofDigest zeros)) ∧
      Text.isBlank s = false ∧ ∃ r, (label s).room = .ok r ∧ r.toLegacy = .error (.notLegacy r) := by
  intro top next zeros s
  obtain ⟨exactly, bytes, -, outside, -, hash, labels⟩ := legacy_numbers_embed_exactly
  have means : (legacy 0xffffffffffffffff).room = .ok top := by decide
  have beyond : ∀ n, (legacy n).room ≠ .ok next := by
    intro n hn
    have upper : next.bytes.take 8 = List.replicate 8 0 := by
      rw [((bytes n next).1 hn).2]
      simp
    exact absurd upper (by decide)
  have length : zeros.length = 32 := by decide
  have visible : Text.isBlank s = false := by decide
  refine ⟨means, (exactly top (2 ^ 64 - 1)).2 ⟨by decide, by decide, means⟩, beyond, outside next beyond, length,
    hash zeros length, visible, labels s visible⟩

end RoomRef
end ErrandHub
