/-
Digits read back.

  * `ofDigits_toDigits`: so many digits of a number say what they have room for, and `toDigits_lt` that they are digits;
    `toDigits_ofDigits`: any digits are those of the number that they say.
  * `decimal?_eq_some_iff`: a text is read as a number only if it is written in decimal digits that say the number.
  * `hexDigit?_hexDigit`: a hexadecimal digit is read as what it is written for, and `hexDigit?_lowerChar` that it may
    be a capital as well.
  * `eq_of_lowerChar_eq`: folding capitals makes nothing but small letters of them.
-/
import ErrandHub.Text.Basic
import Mathlib.Tactic

namespace ErrandHub.Text

/-! ## Digits of a number -/

@[simp] theorem length_toDigits (base width n : Nat) : (toDigits base width n).length = width := by
  induction width generalizing n with
  | zero => rfl
  | succ width ih => rw [toDigits, List.length_append, ih, List.length_singleton]

theorem toDigits_lt {base width n d : Nat} (positive : 0 < base) (h : d ∈ toDigits base width n) : d < base := by
  induction width generalizing n with
  | zero => exact absurd h List.not_mem_nil
  | succ width ih =>
    rw [toDigits, List.mem_append, List.mem_singleton] at h
    obtain h | rfl := h
    · exact ih h
    · exact Nat.mod_lt n positive

@[simp] theorem ofDigits_concat (base : Nat) (ds : List Nat) (d : Nat) :
    ofDigits base (ds ++ [d]) = ofDigits base ds * base + d := by
  simp [ofDigits]

/-- the lowest digits of a number say the number up to what they have room for -/
theorem ofDigits_toDigits (base width n : Nat) : ofDigits base (toDigits base width n) = n % base ^ width := by
  induction width generalizing n with
  | zero => exact (Nat.mod_one n).symm
  | succ width ih =>
    rw [toDigits, ofDigits_concat, ih, pow_succ', Nat.mod_mul]
    ring

/-- the lowest digits, after those of what is left without them -/
theorem toDigits_add (base high low n : Nat) :
    toDigits base (high + low) n = toDigits base high (n / base ^ low) ++ toDigits base low n := by
  induction low generalizing n with
  | zero => simp [toDigits]
  | succ low ih =>
    rw [← Nat.add_assoc, toDigits, ih, toDigits, List.append_assoc, Nat.div_div_eq_div_mul, pow_succ']

theorem toDigits_zero (base width : Nat) : toDigits base width 0 = List.replicate width 0 := by
  induction width with
  | zero => rfl
  | succ width ih => rw [toDigits, Nat.zero_div, Nat.zero_mod, ih, ← List.replicate_succ']

theorem toDigits_ofDigits {base : Nat} {ds : List Nat} (h : ∀ d ∈ ds, d < base) :
    toDigits base ds.length (ofDigits base ds) = ds := by
  induction ds using List.reverseRecOn with
  | nil => rfl
  | append_singleton ds d ih =>
    have hd : d < base := h d (by simp)
    have rest : (ofDigits base ds * base + d) / base = ofDigits base ds := by
      rw [Nat.mul_comm, Nat.mul_add_div (by omega), Nat.div_eq_of_lt hd, Nat.add_zero]
    have last : (ofDigits base ds * base + d) % base = d := by
      rw [Nat.mul_comm, Nat.mul_add_mod, Nat.mod_eq_of_lt hd]
    rw [ofDigits_concat, List.length_append, List.length_singleton, toDigits, rest, last,
      ih fun d hd => h d (List.mem_append_left _ hd)]

/-! ## Decimal digits -/

/-- items are read one by one if each is read only from what is written for it -/
theorem mapM_eq_some_iff_map {α β : Type} {read : α → Option β} {write : β → α} {valid : β → Prop}
    (each : ∀ a b, read a = some b ↔ valid b ∧ a = write b) {as : List α} {bs : List β} :
    as.mapM read = some bs ↔ (∀ b ∈ bs, valid b) ∧ as = bs.map write := by
  induction as generalizing bs with
  | nil => cases bs <;> simp
  | cons a as ih =>
    rw [List.mapM_cons]
    simp only [Option.bind_eq_bind, Option.bind_eq_some_iff, each, ih, Option.pure_def, Option.some.injEq]
    constructor
    · rintro ⟨b, ⟨fits, rfl⟩, bs, ⟨all, rfl⟩, rfl⟩
      exact ⟨List.forall_mem_cons.2 ⟨fits, all⟩, rfl⟩
    · rintro ⟨all, written⟩
      cases bs with
      | nil => cases written
      | cons b bs =>
        obtain ⟨rfl, rfl⟩ := List.cons.inj written
        obtain ⟨fits, all⟩ := List.forall_mem_cons.1 all
        exact ⟨b, ⟨fits, rfl⟩, bs, ⟨all, rfl⟩, rfl⟩

theorem numeral_iff {c : Char} : ('0' ≤ c && c ≤ '9') = true ↔ 48 ≤ c.toNat ∧ c.toNat ≤ 57 := by
  rw [Bool.and_eq_true, decide_eq_true_eq, decide_eq_true_eq]
  exact Iff.rfl

theorem digit?_eq_some_iff (c : Char) (d : Nat) : digit? c = some d ↔ d < 10 ∧ c = d.digitChar := by
  constructor
  · intro h
    obtain ⟨numeral, value⟩ := Option.ite_none_right_eq_some.1 h
    obtain ⟨low, high⟩ := numeral_iff.1 numeral
    obtain rfl : c.toNat - 48 = d := Option.some_inj.1 value
    have each : ∀ n, 48 ≤ n → n ≤ 57 → Char.ofNat n = (n - 48).digitChar := by
      intro n low high
      interval_cases n <;> rfl
    exact ⟨by omega, by rw [← each c.toNat low high, Char.ofNat_toNat]⟩
  · rintro ⟨small, rfl⟩
    revert d
    decide

theorem decimal?_eq_some_iff {cs : List Char} {n : Nat} : decimal? cs = some n ↔
    ∃ ds, ds ≠ [] ∧ (∀ d ∈ ds, d < 10) ∧ cs = ds.map Nat.digitChar ∧ ofDigits 10 ds = n := by
  rw [decimal?, Option.ite_none_left_eq_some]
  simp only [Option.map_eq_some_iff, mapM_eq_some_iff_map digit?_eq_some_iff]
  constructor
  · rintro ⟨something, ds, ⟨digits, rfl⟩, value⟩
    exact ⟨ds, by simpa using something, digits, rfl, value⟩
  · rintro ⟨ds, something, digits, rfl, value⟩
    exact ⟨by simpa using something, ds, ⟨digits, rfl⟩, value⟩

/-- a text is a number if there is something in it, and nothing but digits -/
theorem isSome_decimal?_iff {cs : List Char} : (decimal? cs).isSome ↔ cs ≠ [] ∧ ∀ c ∈ cs, isDigit c := by
  rw [Option.isSome_iff_exists]
  constructor
  · rintro ⟨n, hn⟩
    obtain ⟨ds, something, small, rfl, -⟩ := decimal?_eq_some_iff.1 hn
    refine ⟨by simpa using something, fun c hc => ?_⟩
    obtain ⟨d, hd, rfl⟩ := List.mem_map.1 hc
    rw [isDigit, (digit?_eq_some_iff _ d).2 ⟨small d hd, rfl⟩, Option.isSome_some]
  · rintro ⟨something, digits⟩
    have value : ∀ c ∈ cs, (digit? c).getD 0 < 10 ∧ c = ((digit? c).getD 0).digitChar := by
      intro c hc
      obtain ⟨d, hd⟩ := Option.isSome_iff_exists.1 (digits c hc)
      rw [hd]
      exact (digit?_eq_some_iff c d).1 hd
    refine ⟨_, decimal?_eq_some_iff.2 ⟨cs.map fun c => (digit? c).getD 0, by simpa using something, ?_, ?_, rfl⟩⟩
    · intro d hd
      obtain ⟨c, hc, rfl⟩ := List.mem_map.1 hd
      exact (value c hc).1
    · rw [List.map_map]
      exact (List.map_id cs).symm.trans (List.map_congr_left fun c hc => (value c hc).2)

theorem ofDigits_zeros (base zeros : Nat) (ds : List Nat) :
    ofDigits base (List.replicate zeros 0 ++ ds) = ofDigits base ds := by
  induction zeros with
  | zero => rfl
  | succ zeros ih =>
    rw [List.replicate_succ, List.cons_append, ofDigits, List.foldl_cons, Nat.zero_mul, Nat.zero_add]
    exact ih

theorem lowerChar_digitChar {d : Nat} (small : d < 10) : lowerChar d.digitChar = d.digitChar := by
  interval_cases d <;> rfl

theorem decimal?_of_mem {cs : List Char} {c : Char} (h : c ∈ cs) (other : digit? c = none) : decimal? cs = none := by
  rw [← Option.not_isSome_iff_eq_none, isSome_decimal?_iff]
  rintro ⟨-, digits⟩
  have digit := digits c h
  rw [isDigit, other] at digit
  cases digit

/-! ## Hexadecimal digits in both cases -/

theorem hexDigit?_hexDigit {d : Nat} (h : d < 16) : hexDigit? (hexDigit d) = some d := by
  revert d
  decide

theorem mapM_hexDigit? {ds : List Nat} (h : ∀ d ∈ ds, d < 16) : (ds.map hexDigit).mapM hexDigit? = some ds := by
  induction ds with
  | nil => rfl
  | cons d ds ih =>
    obtain ⟨hd, hds⟩ := List.forall_mem_cons.1 h
    rw [List.map_cons, List.mapM_cons, hexDigit?_hexDigit hd, ih hds]
    rfl

theorem capital_iff {c : Char} : ('A' ≤ c && c ≤ 'Z') = true ↔ 65 ≤ c.toNat ∧ c.toNat ≤ 90 := by
  rw [Bool.and_eq_true, decide_eq_true_eq, decide_eq_true_eq]
  exact Iff.rfl

/-- what holds of the small form of each capital -/
theorem lowerChar_induction {p : Char → Char → Prop}
    (each : ∀ n, 65 ≤ n → n ≤ 90 → p (Char.ofNat n) (Char.ofNat (n + 32))) {c : Char} (same : p c c) :
    p c (lowerChar c) := by
  unfold lowerChar
  split
  · rename_i h
    obtain ⟨low, high⟩ := capital_iff.1 h
    simpa only [Char.ofNat_toNat] using each c.toNat low high
  · exact same

/-- a character that is no small letter comes from itself alone -/
theorem eq_of_lowerChar_eq {c d : Char} (h : lowerChar c = d) (other : ¬(97 ≤ d.toNat ∧ d.toNat ≤ 122)) : c = d := by
  subst h
  refine lowerChar_induction (p := fun c d => ¬(97 ≤ d.toNat ∧ d.toNat ≤ 122) → c = d) ?_ (fun _ => rfl) other
  intro n low high
  interval_cases n <;> decide

theorem hexDigit?_lowerChar (c : Char) : hexDigit? (lowerChar c) = hexDigit? c := by
  refine lowerChar_induction (p := fun c d => hexDigit? d = hexDigit? c) ?_ rfl
  intro n low high
  interval_cases n <;> rfl

theorem mapM_hexDigit?_lower (cs : List Char) : (cs.map lowerChar).mapM hexDigit? = cs.mapM hexDigit? := by
  rw [List.mapM_map]
  exact congrArg cs.mapM (funext hexDigit?_lowerChar)

end ErrandHub.Text
