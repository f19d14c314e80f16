/-
Text that stands for bytes in exactly one way.

  * `decode_eq_some_iff`: a text is read as some bytes if and only if it is what `encode` writes for them. So no
    text but one stands for given bytes: there is no padding to add or drop, and no spare bit to set.
  * `digit_of_mem_encode`: only the 64 characters of the alphabet are written.

`encode` goes from bytes to groups of six bits (`sextets`) and from those to characters; `unpack` takes the first
half of this way back and `value?` the second.
-/
import ErrandHub.Digest.Base64Url
import ErrandHub.Proofs.Text.Ascii
import Mathlib.Tactic

namespace ErrandHub.Base64Url

/-! ## Six bits and a character -/

theorem value?_digit {n : Nat} (h : n < 64) : value? (digit n) = some n := by
  revert n
  decide

theorem ofNat_add_sub {c first : Char} (above : first ≤ c) :
    Char.ofNat (first.toNat + (c.toNat - first.toNat)) = c := by
  have distance : first.toNat ≤ c.toNat := above
  rw [Nat.add_sub_cancel' distance, Char.ofNat_toNat]

/-- a character stands for six bits only if it is the one that is written for them -/
theorem value?_eq_some_iff {c : Char} {n : Nat} : value? c = some n ↔ n < 64 ∧ c = digit n := by
  constructor
  · have reach {last : Char} (below : c ≤ last) : c.toNat ≤ last.toNat := below
    intro h
    unfold value? at h
    -- one case for each run of the alphabet, and the two characters on their own
    split_ifs at h with capital small numeral minus underscore <;> cases h
    · rw [Bool.and_eq_true, decide_eq_true_eq, decide_eq_true_eq] at capital
      have last : c.toNat ≤ 90 := reach capital.2
      have place : c.toNat - 'A'.toNat < 26 := show c.toNat - 65 < 26 by omega
      exact ⟨by omega, by rw [digit, if_pos place, ofNat_add_sub capital.1]⟩
    · rw [Bool.and_eq_true, decide_eq_true_eq, decide_eq_true_eq] at small
      have last : c.toNat ≤ 122 := reach small.2
      have place : c.toNat - 'a'.toNat < 26 := show c.toNat - 97 < 26 by omega
      exact ⟨by omega, by
        rw [digit, if_neg (by omega), if_pos (by omega), Nat.add_sub_cancel, ofNat_add_sub small.1]⟩
    · rw [Bool.and_eq_true, decide_eq_true_eq, decide_eq_true_eq] at numeral
      have last : c.toNat ≤ 57 := reach numeral.2
      have place : c.toNat - '0'.toNat < 10 := show c.toNat - 48 < 10 by omega
      exact ⟨by omega, by
        rw [digit, if_neg (by omega), if_neg (by omega), if_pos (by omega), Nat.add_sub_cancel,
          ofNat_add_sub numeral.1]⟩
    · exact ⟨by decide, minus⟩
    · exact ⟨by decide, underscore⟩
  · rintro ⟨small, rfl⟩
    exact value?_digit small

theorem mapM_value?_eq_some_iff {cs : List Char} {ns : List Nat} :
    cs.mapM value? = some ns ↔ (∀ n ∈ ns, n < 64) ∧ cs = ns.map digit :=
  Text.mapM_eq_some_iff_map fun _ _ => value?_eq_some_iff

/-! ## Bytes and groups of six bits -/

/-- the groups of six bits that bytes are written in -/
def sextets : List UInt8 → List Nat
  | a :: b :: c :: rest =>
    let n := a.toNat * 65536 + b.toNat * 256 + c.toNat
    n / 262144 :: n / 4096 % 64 :: n / 64 % 64 :: n % 64 :: sextets rest
  | [a, b] =>
    let n := a.toNat * 1024 + b.toNat * 4
    [n / 4096, n / 64 % 64, n % 64]
  | [a] =>
    let n := a.toNat * 16
    [n / 64, n % 64]
  | [] => []

theorem encode_eq_map_sextets (bs : List UInt8) : encode bs = (sextets bs).map digit := by
  fun_induction sextets bs with
  | case1 a b c rest n ih => simp [encode, n, ih]
  | case2 a b n => simp [encode, n]
  | case3 a n => simp [encode, n]
  | case4 => rfl

theorem sextets_lt {bs : List UInt8} {n : Nat} (h : n ∈ sextets bs) : n < 64 := by
  fun_induction sextets bs with
  | case1 a b c rest m ih =>
    have := a.toNat_lt
    have := b.toNat_lt
    have := c.toNat_lt
    simp only [List.mem_cons] at h
    obtain rfl | rfl | rfl | rfl | h := h
    · omega
    · omega
    · omega
    · omega
    · exact ih h
  | case2 a b m =>
    have := a.toNat_lt
    have := b.toNat_lt
    simp only [List.mem_cons, List.not_mem_nil, or_false] at h
    omega
  | case3 a m =>
    have := a.toNat_lt
    simp only [List.mem_cons, List.not_mem_nil, or_false] at h
    omega
  | case4 => exact absurd h List.not_mem_nil

/-- the groups that bytes are written in are taken for those bytes -/
theorem unpack_sextets (bs : List UInt8) : unpack (sextets bs) = some bs := by
  have byte {n : Nat} {b : UInt8} (h : n = b.toNat) : UInt8.ofNat n = b := by rw [h, UInt8.ofNat_toNat]
  fun_induction sextets bs with
  | case1 a b c rest n ih =>
    have := a.toNat_lt
    have := b.toNat_lt
    have := c.toNat_lt
    have whole : n / 262144 * 262144 + n / 4096 % 64 * 4096 + n / 64 % 64 * 64 + n % 64 = n := by omega
    simp only [unpack, whole, ih, Option.bind_eq_bind, Option.bind_some, Option.pure_def]
    rw [byte (show n / 65536 = a.toNat by omega), byte (show n / 256 % 256 = b.toNat by omega),
      byte (show n % 256 = c.toNat by omega)]
  | case2 a b n =>
    have := a.toNat_lt
    have := b.toNat_lt
    have whole : n / 4096 * 4096 + n / 64 % 64 * 64 + n % 64 = n := by omega
    simp only [unpack, whole]
    rw [if_pos (show n % 4 = 0 by omega), byte (show n / 1024 = a.toNat by omega),
      byte (show n / 4 % 256 = b.toNat by omega)]
  | case3 a n =>
    have := a.toNat_lt
    have whole : n / 64 * 64 + n % 64 = n := by omega
    simp only [unpack, whole]
    rw [if_pos (show n % 16 = 0 by omega), byte (show n / 16 = a.toNat by omega)]
  | case4 => rfl

theorem sextets_of_unpack {ns : List Nat} (small : ∀ n ∈ ns, n < 64) {bs : List UInt8} (h : unpack ns = some bs) :
    ns = sextets bs := by
  have value {n : Nat} (low : n < 256) : (UInt8.ofNat n).toNat = n := UInt8.toNat_ofNat_of_lt low
  -- one case for each length of the last group; a short one counts only if its spare bits are zero
  fun_induction unpack ns generalizing bs with
  | case1 w x y z rest n ih =>
    simp only [List.forall_mem_cons] at small
    obtain ⟨hw, hx, hy, hz, small⟩ := small
    simp only [Option.bind_eq_bind, Option.bind_eq_some_iff, Option.pure_def, Option.some.injEq] at h
    obtain ⟨bytes, unpacked, rfl⟩ := h
    have whole : n / 65536 * 65536 + n / 256 % 256 * 256 + n % 256 = n := by omega
    simp only [sextets]
    rw [value (show n / 65536 < 256 by omega), value (show n / 256 % 256 < 256 by omega),
      value (show n % 256 < 256 by omega), whole, ← ih small unpacked, show n / 262144 = w by omega,
      show n / 4096 % 64 = x by omega, show n / 64 % 64 = y by omega, show n % 64 = z by omega]
  | case2 x y z n spare =>
    simp only [List.forall_mem_cons] at small
    obtain ⟨hx, hy, hz, -⟩ := small
    cases h
    have whole : n / 1024 * 1024 + n / 4 % 256 * 4 = n := by omega
    simp only [sextets]
    rw [value (show n / 1024 < 256 by omega), value (show n / 4 % 256 < 256 by omega), whole,
      show n / 4096 = x by omega, show n / 64 % 64 = y by omega, show n % 64 = z by omega]
  | case3 => cases h
  | case4 y z n spare =>
    simp only [List.forall_mem_cons] at small
    obtain ⟨hy, hz, -⟩ := small
    cases h
    have whole : n / 16 * 16 = n := by omega
    simp only [sextets]
    rw [value (show n / 16 < 256 by omega), whole, show n / 64 = y by omega, show n % 64 = z by omega]
  | case5 => cases h
  | case6 => cases h
  | case7 =>
    cases h
    rfl

/-! ## Reading and writing -/

/-- a text is read as the bytes that it is written for, and as no others -/
theorem decode_eq_some_iff {cs : List Char} {bs : List UInt8} : decode cs = some bs ↔ cs = encode bs := by
  rw [decode, Option.bind_eq_some_iff, encode_eq_map_sextets]
  constructor
  · rintro ⟨ns, values, unpacked⟩
    obtain ⟨small, rfl⟩ := mapM_value?_eq_some_iff.1 values
    rw [sextets_of_unpack small unpacked]
  · rintro rfl
    exact ⟨sextets bs, mapM_value?_eq_some_iff.2 ⟨fun n => sextets_lt, rfl⟩, unpack_sextets bs⟩

/-- the byte `f`, the same with padding, and the same with a spare bit set -/
example : decode ['Z', 'g'] = some [0x66] ∧ decode ['Z', 'g', '=', '='] = none ∧ decode ['Z', 'h'] = none := by decide

theorem digit_of_mem_encode {bs : List UInt8} {c : Char} (h : c ∈ encode bs) : ∃ n < 64, c = digit n := by
  rw [encode_eq_map_sextets] at h
  obtain ⟨n, written, rfl⟩ := List.mem_map.1 h
  exact ⟨n, sextets_lt written, rfl⟩

end ErrandHub.Base64Url
