/-
Trimming.

  * `isBlank_iff`: the test for blank texts tells whether trimming leaves nothing.
  * `trimmed?_eq_some_iff`: so a trimmed text is what is left, and there is none if that is nothing.
  * `trim_eq_self`: a text without white space is left as it is.
  * `trimChars_padded`: more white space around a text makes no difference.
  * `exists_padding`: what is dropped is the white space at both ends, so that trimming twice is trimming once.
-/
import ErrandHub.Text.Basic
import ErrandHub.Proofs.Text.Ascii
import Mathlib.Data.List.DropRight
import Mathlib.Tactic

namespace ErrandHub.Text

@[simp] theorem isBlankChar_lowerChar (c : Char) : isBlankChar (lowerChar c) = isBlankChar c := by
  refine lowerChar_induction (p := fun c d => isBlankChar d = isBlankChar c) ?_ rfl
  intro n low high
  interval_cases n <;> rfl

theorem trimChars_eq_nil_iff {cs : List Char} : trimChars cs = [] ↔ ∀ c ∈ cs, isBlankChar c := by
  have again : (cs.dropWhile isBlankChar).dropWhile isBlankChar = cs.dropWhile isBlankChar :=
    List.dropWhile_idempotent isBlankChar cs
  calc trimChars cs = []
    _ ↔ ∀ c ∈ cs.dropWhile isBlankChar, isBlankChar c := List.rdropWhile_eq_nil_iff
    _ ↔ cs.dropWhile isBlankChar = [] := by
      rw [← List.dropWhile_eq_nil_iff, again]
    _ ↔ ∀ c ∈ cs, isBlankChar c := List.dropWhile_eq_nil_iff

theorem isBlank_iff {s : String} : isBlank s = true ↔ trim s = "" := by
  rw [isBlank, List.all_eq_true, ← trimChars_eq_nil_iff, ← toList_trim]
  exact String.toList_eq_nil_iff

theorem trimmed?_eq_some_iff {s t : String} : trimmed? s = some t ↔ trim s ≠ "" ∧ trim s = t := by
  rw [trimmed?, Option.ite_none_left_eq_some, isBlank_iff, Option.some_inj]

theorem trimChars_eq_self {cs : List Char} (h : ∀ c ∈ cs, isBlankChar c = false) : trimChars cs = cs := by
  have front : cs.dropWhile isBlankChar = cs := by
    apply List.dropWhile_eq_self_iff.2
    intro hcs
    rw [h _ (List.getElem_mem hcs)]
    exact Bool.false_ne_true
  have back : cs.rdropWhile isBlankChar = cs := by
    apply List.rdropWhile_eq_self_iff.2
    intro hcs
    rw [h _ (List.getLast_mem hcs)]
    exact Bool.false_ne_true
  calc trimChars cs
    _ = (cs.dropWhile isBlankChar).rdropWhile isBlankChar := rfl
    _ = cs := by rw [front, back]

theorem trim_eq_self {s : String} (h : ∀ c ∈ s.toList, isBlankChar c = false) : trim s = s := by
  rw [trim, trimChars_eq_self h, String.ofList_toList]

/-- white space around a text is dropped with what white space the text has at its own ends -/
theorem trimChars_padded {before after : List Char} (hbefore : ∀ c ∈ before, isBlankChar c)
    (hafter : ∀ c ∈ after, isBlankChar c) (cs : List Char) :
    trimChars (before ++ cs ++ after) = trimChars cs := by
  have front : (before ++ cs ++ after).dropWhile isBlankChar = (cs ++ after).dropWhile isBlankChar := by
    rw [List.append_assoc, List.dropWhile_append_of_pos hbefore]
  have back (xs : List Char) : (xs ++ after).rdropWhile isBlankChar = xs.rdropWhile isBlankChar := by
    rw [List.rdropWhile, List.reverse_append,
      List.dropWhile_append_of_pos fun c hc => hafter c (List.mem_reverse.1 hc), List.rdropWhile]
  calc trimChars (before ++ cs ++ after)
    _ = ((cs ++ after).dropWhile isBlankChar).rdropWhile isBlankChar := by rw [← front]; rfl
    _ = (cs.dropWhile isBlankChar).rdropWhile isBlankChar := by
      rw [List.dropWhile_append]
      split
      · rename_i blank
        rw [List.isEmpty_iff.1 blank, List.dropWhile_eq_nil_iff.2 hafter]
      · exact back _
    _ = trimChars cs := rfl

/-- what trimming drops is white space at both ends -/
theorem exists_padding (cs : List Char) : ∃ before after, (∀ c ∈ before, isBlankChar c) ∧
    (∀ c ∈ after, isBlankChar c) ∧ cs = before ++ trimChars cs ++ after := by
  refine ⟨cs.takeWhile isBlankChar, (cs.dropWhile isBlankChar).rtakeWhile isBlankChar,
    fun c hc => List.mem_takeWhile_imp hc, fun c hc => List.mem_rtakeWhile_imp hc, ?_⟩
  have back : trimChars cs ++ (cs.dropWhile isBlankChar).rtakeWhile isBlankChar = cs.dropWhile isBlankChar :=
    List.rdropWhile_append_rtakeWhile
  rw [List.append_assoc, back, List.takeWhile_append_dropWhile]

theorem trimChars_trimChars (cs : List Char) : trimChars (trimChars cs) = trimChars cs := by
  obtain ⟨before, after, hbefore, hafter, hcs⟩ := exists_padding cs
  conv_rhs => rw [hcs, trimChars_padded hbefore hafter]

@[simp] theorem trim_trim (s : String) : trim (trim s) = trim s := by
  rw [trim, toList_trim, trimChars_trimChars, trim]

@[simp] theorem trimmed?_trim (s : String) : trimmed? (trim s) = trimmed? s := by
  have hblank : isBlank (trim s) = isBlank s := by
    rw [Bool.eq_iff_iff, isBlank_iff, isBlank_iff, trim_trim]
  rw [trimmed?, trimmed?, hblank, trim_trim]

end ErrandHub.Text
