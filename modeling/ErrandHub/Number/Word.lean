/-
Machine words.

A number becomes a word only if the word can hold it: 64 or 32 bits without sign, or 64 bits with one.
-/
namespace ErrandHub.Word

/-- the word of 64 bits that holds a natural number -/
def ofNat? (n : Nat) : Option UInt64 := if n < UInt64.size then some (UInt64.ofNat n) else none

/-- the word of 64 bits that holds an integer -/
def ofInt? (i : Int) : Option UInt64 := if 0 ≤ i then ofNat? i.toNat else none

/-- the word of 32 bits that holds an integer -/
def shortOfInt? (i : Int) : Option UInt32 :=
  if 0 ≤ i && i.toNat < UInt32.size then some (UInt32.ofNat i.toNat) else none

/-- the size of the lowest word of 64 bits with a sign -/
def lowest : Nat := 0x8000000000000000

def isSigned (i : Int) : Bool := -Int.ofNat lowest ≤ i && i < Int.ofNat lowest

/-- the word of 64 bits with a sign that holds an integer -/
def signedOfInt? (i : Int) : Option Int64 := if isSigned i then some (Int64.ofInt i) else none

theorem ofNat?_eq_some_iff {n : Nat} {w : UInt64} : ofNat? n = some w ↔ n = w.toNat := by
  unfold ofNat?
  split
  · rename_i h
    simp only [Option.some.injEq]
    constructor
    · rintro rfl
      exact (UInt64.toNat_ofNat_of_lt h).symm
    · rintro rfl
      exact UInt64.ofNat_toNat
  · rename_i h
    simp only [reduceCtorEq, false_iff]
    rintro rfl
    exact h w.toNat_lt

theorem ofInt?_eq_some_iff {i : Int} {w : UInt64} : ofInt? i = some w ↔ i = Int.ofNat w.toNat := by
  unfold ofInt?
  split
  · rw [ofNat?_eq_some_iff]
    simp only [Int.ofNat_eq_natCast]
    omega
  · simp only [reduceCtorEq, false_iff, Int.ofNat_eq_natCast]
    omega

theorem signedOfInt?_eq_some_iff {i : Int} {w : Int64} : signedOfInt? i = some w ↔ i = w.toInt := by
  have size : Int.ofNat lowest = 2 ^ 63 := rfl
  rw [signedOfInt?, isSigned]
  split
  · rename_i h
    rw [Bool.and_eq_true, decide_eq_true_eq, decide_eq_true_eq] at h
    simp only [Option.some.injEq]
    constructor
    · rintro rfl
      exact (Int64.toInt_ofInt_of_le (by omega) (by omega)).symm
    · rintro rfl
      exact Int64.ofInt_toInt w
  · rename_i h
    rw [Bool.and_eq_true, decide_eq_true_eq, decide_eq_true_eq] at h
    simp only [reduceCtorEq, false_iff]
    rintro rfl
    have low := w.le_toInt
    have high := w.toInt_lt
    omega

end ErrandHub.Word
