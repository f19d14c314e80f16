/-
The comparison of two byte strings that does not stop at the first difference.

`difference` goes over the places at which both strings have a byte, and `equal` asks for the lengths as well.

- `testBit_step`: one place adds the bits in which its two bytes differ. No bit that is there is lost, so that two
  differences in one bit do not cancel.
- `testBit_foldl`: by induction on the places, which bits are there at the end.
- `difference_eq_zero_iff`: none is there if and only if the strings agree at every place that both have.
- `difference_of_begins`: a string passes for every string that begins with it. Only the lengths tell these apart.
- `equal_iff`, `comparison_decides_equality`: with the lengths, the comparison tells whether two strings are the same.
-/
import ErrandHub.Digest.Sha256
import Mathlib.Tactic

namespace ErrandHub.Hmac

variable {a b : List UInt8}

/-! ## Bits that are collected -/

/-- one place adds the bits in which its two bytes differ -/
theorem testBit_step (diff x y : UInt8) (k : Nat) :
    (diff ||| (x ^^^ y)).toNat.testBit k = (diff.toNat.testBit k || x.toNat.testBit k != y.toNat.testBit k) := by
  rw [UInt8.toNat_or, UInt8.toNat_xor, Nat.testBit_or, Nat.testBit_xor]

/-- a bit is there at the end exactly if it was at the start or some pair of bytes differs in it -/
theorem testBit_foldl (ps : List (UInt8 × UInt8)) (diff : UInt8) (k : Nat) :
    (ps.foldl (fun diff xy => diff ||| (xy.1 ^^^ xy.2)) diff).toNat.testBit k =
      (diff.toNat.testBit k || ps.any fun p => p.1.toNat.testBit k != p.2.toNat.testBit k) := by
  induction ps generalizing diff with
  | nil => rw [List.foldl_nil, List.any_nil, Bool.or_false]
  | cons p ps ih => rw [List.foldl_cons, ih, testBit_step, Bool.or_assoc, List.any_cons]

theorem forall_mem_zip {α β : Type} {xs : List α} {ys : List β} {P : α × β → Prop} :
    (∀ p ∈ xs.zip ys, P p) ↔ ∀ i (hx : i < xs.length) (hy : i < ys.length), P (xs[i], ys[i]) := by
  simp only [List.forall_mem_iff_getElem, List.getElem_zip, List.length_zip, Nat.lt_min]
  exact ⟨fun h i hx hy => h i ⟨hx, hy⟩, fun h i hi => h i hi.1 hi.2⟩

/-- a bit is not collected exactly if the bytes of every place agree in it -/
theorem testBit_difference_eq_false_iff {k : Nat} : (difference a b).toNat.testBit k = false ↔
    ∀ i (ha : i < a.length) (hb : i < b.length), a[i].toNat.testBit k = b[i].toNat.testBit k := by
  rw [difference, testBit_foldl, UInt8.toNat_zero, Nat.zero_testBit, Bool.false_or, List.any_eq_false, forall_mem_zip]
  simp only [bne_iff_ne, not_ne_iff]

/-- two differences in one bit do not cancel -/
example : difference [0x01, 0x01] [0x00, 0x00] = 0x01 := by decide

theorem byte_eq_iff {x y : UInt8} : x = y ↔ ∀ k, x.toNat.testBit k = y.toNat.testBit k :=
  ⟨fun h _ => h ▸ rfl, fun h => UInt8.toNat_inj.1 (Nat.eq_of_testBit_eq h)⟩

theorem difference_eq_zero_iff :
    difference a b = 0 ↔ ∀ i (ha : i < a.length) (hb : i < b.length), a[i] = b[i] :=
  calc difference a b = 0
    _ ↔ ∀ k, (difference a b).toNat.testBit k = false := by
      simp only [byte_eq_iff, UInt8.toNat_zero, Nat.zero_testBit]
    _ ↔ ∀ k i (ha : i < a.length) (hb : i < b.length), a[i].toNat.testBit k = b[i].toNat.testBit k :=
      forall_congr' fun _ => testBit_difference_eq_false_iff
    _ ↔ ∀ i (ha : i < a.length) (hb : i < b.length), a[i] = b[i] := by
      simp only [byte_eq_iff]
      exact ⟨fun h i ha hb k => h k i ha hb, fun h k i ha hb => h i ha hb k⟩

/-- a string that begins the other one has no byte that differs -/
theorem difference_of_begins (h : a <+: b) : difference a b = 0 :=
  difference_eq_zero_iff.2 fun _ ha _ => h.getElem ha

/-! ## The comparison -/

theorem equal_iff : equal a b = true ↔ a = b := by
  rw [equal, Bool.and_eq_true, beq_iff_eq, beq_iff_eq, difference_eq_zero_iff, List.ext_getElem_iff]

theorem equal_eq_false_iff : equal a b = false ↔ a ≠ b := by
  rw [← Bool.not_eq_true, equal_iff]

/-- **The comparison decides equality.** Of byte strings of any lengths, it says that they are the same if and only if they
are. What it collects over the places that both strings have is zero exactly when they differ at none of these. Strings
of different lengths are never taken for the same, and neither is a string for one that only begins with it, although
the places that both have show no difference then. -/
theorem comparison_decides_equality (a b : List UInt8) :
    (equal a b = true ↔ a = b) ∧
    (difference a b = 0 ↔ ∀ i (ha : i < a.length) (hb : i < b.length), a[i] = b[i]) ∧
    (a.length ≠ b.length → equal a b = false) ∧
    (a <+: b → a ≠ b → difference a b = 0 ∧ equal a b = false ∧ equal b a = false) := by
  refine ⟨equal_iff, difference_eq_zero_iff, fun lengths => ?_, fun begins other => ?_⟩
  · exact equal_eq_false_iff.2 fun same => lengths (congrArg List.length same)
  · exact ⟨difference_of_begins begins, equal_eq_false_iff.2 other, equal_eq_false_iff.2 other.symm⟩

/-- a service token, and the same with a zero byte after it -/
theorem comparison_decides_equality_beyond_end :
    let a : List UInt8 := [0x73, 0x76, 0x63]
    let b : List UInt8 := [0x73, 0x76, 0x63, 0x00]
    a.length ≠ b.length ∧ a <+: b ∧ a ≠ b ∧ difference a b = 0 ∧ equal a b = false ∧ equal b a = false := by
  intro a b
  obtain ⟨-, -, lengths, begins⟩ := comparison_decides_equality a b
  have longer : a.length ≠ b.length := by decide
  have start : a <+: b := ⟨[0x00], rfl⟩
  have other : a ≠ b := fun same => longer (congrArg List.length same)
  obtain ⟨clear, -, back⟩ := begins start other
  exact ⟨longer, start, other, clear, lengths longer, back⟩

end ErrandHub.Hmac
