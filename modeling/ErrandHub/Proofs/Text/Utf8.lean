/-
Bytes read back as the characters that they were written from.

  * `decode_encode`: characters written in UTF-8 are read back as they are, with no stray byte among them.
  * `encode_injective`, `bytes_injective`: different texts have different bytes.
  * `decode?_eq_some_iff`: bytes that are read as characters, with no stray byte among them, are those that the
    characters are written as.

A character takes one to four bytes. The first byte says how many follow and, where the shortest form or a
surrogate is in question, bounds the next one; `Reader.step_tail` is the step that every later byte takes.
-/
import ErrandHub.Text.Utf8
import Mathlib.Tactic

namespace ErrandHub.Utf8

/-- the code point of a character is none of the surrogates and not beyond the last plane -/
theorem toNat_bounds (c : Char) : c.toNat < 0xD800 ∨ 0xDFFF < c.toNat ∧ c.toNat < 0x110000 :=
  c.valid

namespace Reader

variable {read : List (Option Char)} {value missing low high b : Nat}

theorem step_lead (small : b < 256) : step ⟨read, none⟩ (UInt8.ofNat b) = start ⟨read, none⟩ b := by
  simp [step, Nat.mod_eq_of_lt small]

theorem step_tail (small : b < 64) (above : low ≤ 0x80 + b) (below : 0x80 + b ≤ high) :
    step ⟨read, some ⟨value, missing, low, high⟩⟩ (UInt8.ofNat (0x80 + b)) =
      if missing ≤ 1 then ⟨some (Char.ofNat (value * 64 + b)) :: read, none⟩
      else ⟨read, some ⟨value * 64 + b, missing - 1, 0x80, 0xBF⟩⟩ := by
  have whole : (UInt8.ofNat (0x80 + b)).toNat = 0x80 + b := UInt8.toNat_ofNat_of_lt (show 0x80 + b < 256 by omega)
  have rest : (0x80 + b) % 64 = b := by omega
  simp only [step, whole, rest, above, below, decide_true, Bool.and_self, ↓reduceIte]

end Reader

/-- the bytes of one character are read as that character -/
theorem foldl_encodeChar (read : List (Option Char)) (c : Char) :
    (encodeChar c).foldl Reader.step ⟨read, none⟩ = ⟨some c :: read, none⟩ := by
  have bounds := toNat_bounds c
  have back : Char.ofNat c.toNat = c := Char.ofNat_toNat c
  unfold encodeChar
  generalize c.toNat = n at bounds back ⊢
  -- one case for each number of bytes: the first byte sets up what is pending, the others fill it in
  by_cases one : n < 0x80
  · simp only [one, ↓reduceIte, List.foldl_cons, List.foldl_nil]
    rw [Reader.step_lead (by omega), Reader.start, if_pos one, back]
  by_cases two : n < 0x800
  · simp only [one, two, ↓reduceIte, List.foldl_cons, List.foldl_nil]
    rw [Reader.step_lead (by omega), Reader.start, if_neg (by omega), if_neg (by omega), if_pos (by omega),
      Reader.step_tail (by omega) (by omega) (by omega), if_pos le_rfl,
      show (0xC0 + n / 64 - 0xC0) * 64 + n % 64 = n by omega, back]
  by_cases three : n < 0x10000
  · simp only [one, two, three, ↓reduceIte, List.foldl_cons, List.foldl_nil]
    rw [Reader.step_lead (by omega), Reader.start, if_neg (by omega), if_neg (by omega), if_neg (by omega),
      if_pos (by omega), Reader.step_tail (by omega) (by split <;> omega) (by split <;> omega), if_neg (by omega),
      Reader.step_tail (by omega) (by omega) (by omega), if_pos le_rfl,
      show ((0xE0 + n / 4096 - 0xE0) * 64 + n / 64 % 64) * 64 + n % 64 = n by omega, back]
  · simp only [one, two, three, ↓reduceIte, List.foldl_cons, List.foldl_nil]
    rw [Reader.step_lead (by omega), Reader.start, if_neg (by omega), if_neg (by omega), if_neg (by omega),
      if_neg (by omega), if_pos (by omega),
      Reader.step_tail (by omega) (by split <;> omega) (by split <;> omega), if_neg (by omega),
      Reader.step_tail (by omega) (by omega) (by omega), if_neg (by omega),
      Reader.step_tail (by omega) (by omega) (by omega), if_pos le_rfl,
      show (((0xF0 + n / 262144 - 0xF0) * 64 + n / 4096 % 64) * 64 + n / 64 % 64) * 64 + n % 64 = n by omega, back]

theorem encode_cons (c : Char) (cs : List Char) : encode (c :: cs) = encodeChar c ++ encode cs := List.flatMap_cons

/-- the bytes of characters are read as those characters, after what has been read before -/
theorem foldl_encode (read : List (Option Char)) (cs : List Char) :
    (encode cs).foldl Reader.step ⟨read, none⟩ = ⟨(cs.map some).reverse ++ read, none⟩ := by
  induction cs generalizing read with
  | nil => rfl
  | cons c cs ih =>
    rw [encode_cons, List.foldl_append, foldl_encodeChar, ih]
    simp

theorem decode_encode (cs : List Char) : decode (encode cs) = cs.map some := by
  rw [decode, foldl_encode]
  simp [Reader.finish]

theorem encode_injective : Function.Injective encode := by
  intro cs cs' same
  have read : cs.map some = cs'.map some := by rw [← decode_encode, same, decode_encode]
  exact List.map_injective_iff.2 (Option.some_injective Char) read

theorem bytes_injective : Function.Injective bytes := fun _ _ same => String.toList_injective (encode_injective same)

theorem size_eq_length (s : String) : size s = (bytes s).length := by
  have hfold : ∀ (cs : List Char) (n : Nat),
      cs.foldl (fun n c => n + (encodeChar c).length) n = n + (encode cs).length := by
    intro cs
    induction cs with
    | nil => exact fun n => rfl
    | cons c cs ih =>
      intro n
      rw [List.foldl_cons, ih, encode_cons, List.length_append, Nat.add_assoc]
  rw [size, hfold, Nat.zero_add, bytes]

/-! ## What is read is what was written -/

/-- bytes begin a character of which some more are to come: whichever bytes within the bounds follow, together they are
what the character is written as -/
def Begins : Nat → Nat → Nat → Nat → List UInt8 → Prop
  | 0, value, _, _, begun => encodeChar (Char.ofNat value) = begun
  | missing + 1, value, low, high, begun => ∀ b : UInt8, low ≤ b.toNat → b.toNat ≤ high →
      Begins missing (value * 64 + b.toNat % 64) 0x80 0xBF (begun ++ [b])

theorem toNat_ofNat {n : Nat} (valid : n < 0xD800 ∨ 0xDFFF < n ∧ n < 0x110000) : (Char.ofNat n).toNat = n := by
  have hvalid : n.isValidChar := valid
  rw [Char.ofNat, dif_pos hvalid]
  rfl

theorem encodeChar_two {n : Nat} (least : 0x80 ≤ n) (most : n < 0x800) :
    encodeChar (Char.ofNat n) = [UInt8.ofNat (0xC0 + n / 64), UInt8.ofNat (0x80 + n % 64)] := by
  simp only [encodeChar, toNat_ofNat (Or.inl (show n < 0xD800 by omega))]
  rw [if_neg (by omega), if_pos most]

theorem encodeChar_three {n : Nat} (least : 0x800 ≤ n) (most : n < 0x10000) (proper : n < 0xD800 ∨ 0xDFFF < n) :
    encodeChar (Char.ofNat n) =
      [UInt8.ofNat (0xE0 + n / 4096), UInt8.ofNat (0x80 + n / 64 % 64), UInt8.ofNat (0x80 + n % 64)] := by
  simp only [encodeChar, toNat_ofNat (show n < 0xD800 ∨ 0xDFFF < n ∧ n < 0x110000 by omega)]
  rw [if_neg (by omega), if_neg (by omega), if_pos most]

theorem encodeChar_four {n : Nat} (least : 0x10000 ≤ n) (most : n < 0x110000) :
    encodeChar (Char.ofNat n) = [UInt8.ofNat (0xF0 + n / 262144), UInt8.ofNat (0x80 + n / 4096 % 64),
      UInt8.ofNat (0x80 + n / 64 % 64), UInt8.ofNat (0x80 + n % 64)] := by
  simp only [encodeChar, toNat_ofNat (show n < 0xD800 ∨ 0xDFFF < n ∧ n < 0x110000 by omega)]
  rw [if_neg (by omega), if_neg (by omega), if_neg (by omega)]

theorem ofNat_eq {n : Nat} {b : UInt8} (h : n = b.toNat) : UInt8.ofNat n = b := by
  rw [h, UInt8.ofNat_toNat]

theorem begins_two {b : UInt8} (above : 0xC2 ≤ b.toNat) (below : b.toNat < 0xE0) :
    Begins 1 (b.toNat - 0xC0) 0x80 0xBF [b] := by
  intro t low high
  rw [Begins, encodeChar_two (by omega) (by omega)]
  simp only [List.cons_append, List.nil_append, List.cons.injEq, and_true]
  exact ⟨ofNat_eq (by omega), ofNat_eq (by omega)⟩

theorem begins_three {b : UInt8} (above : 0xE0 ≤ b.toNat) (below : b.toNat < 0xF0) :
    Begins 2 (b.toNat - 0xE0) (if b.toNat = 0xE0 then 0xA0 else 0x80) (if b.toNat = 0xED then 0x9F else 0xBF) [b] := by
  intro t low high u low' high'
  have hlow : b.toNat = 0xE0 → 0xA0 ≤ t.toNat := fun h => by rwa [if_pos h] at low
  have hhigh : b.toNat = 0xED → t.toNat ≤ 0x9F := fun h => by rwa [if_pos h] at high
  have ht : 0x80 ≤ t.toNat ∧ t.toNat ≤ 0xBF := by split_ifs at low high <;> omega
  rw [Begins, encodeChar_three (by omega) (by omega) (by omega)]
  simp only [List.cons_append, List.nil_append, List.cons.injEq, and_true]
  exact ⟨ofNat_eq (by omega), ofNat_eq (by omega), ofNat_eq (by omega)⟩

theorem begins_four {b : UInt8} (above : 0xF0 ≤ b.toNat) (below : b.toNat < 0xF5) :
    Begins 3 (b.toNat - 0xF0) (if b.toNat = 0xF0 then 0x90 else 0x80) (if b.toNat = 0xF4 then 0x8F else 0xBF) [b] := by
  intro t low high u low' high' v low'' high''
  have hlow : b.toNat = 0xF0 → 0x90 ≤ t.toNat := fun h => by rwa [if_pos h] at low
  have hhigh : b.toNat = 0xF4 → t.toNat ≤ 0x8F := fun h => by rwa [if_pos h] at high
  have ht : 0x80 ≤ t.toNat ∧ t.toNat ≤ 0xBF := by split_ifs at low high <;> omega
  rw [Begins, encodeChar_four (by omega) (by omega)]
  simp only [List.cons_append, List.nil_append, List.cons.injEq, and_true]
  exact ⟨ofNat_eq (by omega), ofNat_eq (by omega), ofNat_eq (by omega), ofNat_eq (by omega)⟩

namespace Reader

/-- what a reader has read are the characters that the bytes so far are written as, the one in the middle aside -/
def Spells (r : Reader) (bs : List UInt8) : Prop :=
  ∃ cs begun, r.read = (cs.map some).reverse ∧ bs = encode cs ++ begun ∧
    match r.pending with
    | none => begun = []
    | some p => ∃ missing, p.missing = missing + 1 ∧ Begins (missing + 1) p.value p.low p.high begun

/-- the last byte of a character -/
theorem spells_ended {cs : List Char} {c : Char} {begun : List UInt8} (h : encodeChar c = begun) :
    Spells ⟨some c :: (cs.map some).reverse, none⟩ (encode cs ++ begun) :=
  ⟨cs ++ [c], [], by simp, by simp [encode, h], rfl⟩

/-- the first byte of a character, or a stray one -/
theorem spells_start (cs : List Char) (b : UInt8) :
    (start ⟨(cs.map some).reverse, none⟩ b.toNat).Spells (encode cs ++ [b]) ∨
      none ∈ (start ⟨(cs.map some).reverse, none⟩ b.toNat).read := by
  unfold start
  -- the first byte says how many are to follow, or begins nothing and is replaced at once
  by_cases one : b.toNat < 0x80
  · have hone : encodeChar (Char.ofNat b.toNat) = [b] := by
      simp only [encodeChar, toNat_ofNat (Or.inl (show b.toNat < 0xD800 by omega))]
      rw [if_pos one, UInt8.ofNat_toNat]
    rw [if_pos one]
    exact Or.inl (spells_ended hone)
  by_cases stray : b.toNat < 0xC2
  · rw [if_neg one, if_pos stray]
    exact Or.inr List.mem_cons_self
  rw [if_neg one, if_neg stray]
  by_cases two : b.toNat < 0xE0
  · rw [if_pos two]
    exact Or.inl ⟨cs, [b], rfl, rfl, 0, rfl, begins_two (by omega) two⟩
  rw [if_neg two]
  by_cases three : b.toNat < 0xF0
  · rw [if_pos three]
    exact Or.inl ⟨cs, [b], rfl, rfl, 1, rfl, begins_three (by omega) three⟩
  rw [if_neg three]
  by_cases four : b.toNat < 0xF5
  · rw [if_pos four]
    exact Or.inl ⟨cs, [b], rfl, rfl, 2, rfl, begins_four (by omega) four⟩
  · rw [if_neg four]
    exact Or.inr List.mem_cons_self

theorem mem_read_start (r : Reader) (b : Nat) {c : Option Char} (h : c ∈ r.read) : c ∈ (r.start b).read := by
  unfold start
  split_ifs <;> simp [h]

theorem mem_read_step (r : Reader) (b : UInt8) {c : Option Char} (h : c ∈ r.read) : c ∈ (r.step b).read := by
  unfold step
  simp only
  split
  · exact mem_read_start r _ h
  · split_ifs
    · exact List.mem_cons_of_mem _ h
    · exact h
    · exact mem_read_start _ _ (List.mem_cons_of_mem _ h)

/-- a byte goes on with what has been read, or is a stray one -/
theorem spells_step {r : Reader} {bs : List UInt8} (h : r.Spells bs) (b : UInt8) :
    (r.step b).Spells (bs ++ [b]) ∨ none ∈ (r.step b).read := by
  obtain ⟨read, pending⟩ := r
  obtain ⟨cs, begun, hread, rfl, hpending⟩ := h
  obtain rfl : read = (cs.map some).reverse := hread
  unfold step
  cases pending with
  | none =>
    obtain rfl : begun = [] := hpending
    rw [List.append_nil]
    exact spells_start cs b
  | some p =>
    obtain ⟨value, missing, low, high⟩ := p
    obtain ⟨more, rfl, hbegins⟩ := hpending
    simp only
    split_ifs with hbounds hlast
    · obtain ⟨habove, hbelow⟩ := by simpa using hbounds
      obtain rfl : more = 0 := by omega
      rw [List.append_assoc]
      exact Or.inl (spells_ended (hbegins b habove hbelow))
    · obtain ⟨habove, hbelow⟩ := by simpa using hbounds
      obtain ⟨rest, rfl⟩ : ∃ rest, more = rest + 1 := ⟨more - 1, by omega⟩
      rw [List.append_assoc]
      exact Or.inl ⟨cs, begun ++ [b], rfl, rfl, rest, rfl, hbegins b habove hbelow⟩
    · exact Or.inr (mem_read_start _ _ List.mem_cons_self)

theorem spells_foldl {r : Reader} {bs : List UInt8} (h : r.Spells bs) (more : List UInt8) :
    (more.foldl step r).Spells (bs ++ more) ∨ none ∈ (more.foldl step r).read := by
  have hstays : ∀ (more : List UInt8) (r : Reader), none ∈ r.read → none ∈ (more.foldl step r).read := by
    intro more
    induction more with
    | nil => exact fun r hr => hr
    | cons b more ih => exact fun r hr => ih (r.step b) (mem_read_step r b hr)
  induction more generalizing r bs with
  | nil =>
    rw [List.append_nil]
    exact Or.inl h
  | cons b more ih =>
    rcases spells_step h b with hnext | hstray
    · have := ih hnext
      rwa [List.append_assoc] at this
    · exact Or.inr (hstays more _ hstray)

end Reader

theorem mapM_id_eq_some_iff (os : List (Option Char)) (cs : List Char) : os.mapM id = some cs ↔ os = cs.map some := by
  induction os generalizing cs with
  | nil => cases cs <;> simp
  | cons o os ih =>
    have hcons : (o :: os).mapM id = o.bind fun c => (os.mapM id).map (c :: ·) := by
      rw [List.mapM_cons]
      cases o with
      | none => rfl
      | some c => cases os.mapM id <;> rfl
    rw [hcons]
    cases o with
    | none => cases cs <;> simp
    | some c =>
      rw [Option.bind_some, Option.map_eq_some_iff]
      simp only [ih]
      constructor
      · rintro ⟨rest, rfl, rfl⟩
        rfl
      · intro h
        cases cs with
        | nil => cases h
        | cons d rest =>
          obtain ⟨hd, hrest⟩ := List.cons.inj h
          cases hd
          exact ⟨rest, hrest, rfl⟩

/-- **What is read was written.** Bytes that are read as characters, with no stray byte among them, are the ones that the
characters are written as, and those are read as the characters. -/
theorem decode?_eq_some_iff (bs : List UInt8) (cs : List Char) : decode? bs = some cs ↔ bs = encode cs := by
  rw [decode?, mapM_id_eq_some_iff]
  constructor
  · intro hread
    have hstart : Reader.Spells {} [] := ⟨[], [], rfl, rfl, rfl⟩
    rw [decode, Reader.finish] at hread
    split at hread
    · rename_i hdone
      have hclean : none ∉ (bs.foldl Reader.step {}).read := by
        rw [← List.mem_reverse, hread]
        simp
      obtain ⟨cs', begun, hcs, hbs, hpending⟩ := (Reader.spells_foldl hstart bs).resolve_right hclean
      rw [hdone] at hpending
      obtain rfl : begun = [] := hpending
      rw [hcs, List.reverse_reverse] at hread
      obtain rfl : cs' = cs := List.map_injective_iff.2 (Option.some_injective Char) hread
      rw [List.nil_append, List.append_nil] at hbs
      exact hbs
    · have hstray : none ∈ cs.map some := by
        rw [← hread]
        simp
      simp at hstray
  · rintro rfl
    exact decode_encode cs

end ErrandHub.Utf8
