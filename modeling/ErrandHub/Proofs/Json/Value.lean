/-
JSON values read back.

`Json.Formed` says which values a text can mean, with so many containers at most inside one another, and `Json.Integral`
which have no number but integers.

  * `reads_tree`: a value of integers alone is written in a form that is read as its tree, whatever texts it holds and
    however deep it nests;
  * `toJson?_tree`: the tree means the value again, if as many containers may be open as it nests;
  * `formed_of_toJson?`: a value that was read is of the kind that a text can mean.
-/
import ErrandHub.Proofs.Json.Reading
import Mathlib.Data.String.Basic

namespace ErrandHub.Json

/-! ## Words and numbers with a sign -/

theorem reads_null : Reads (chars .null) .null :=
  ⟨[.null], Lexer.settled_word ['l', 'l', 'u', 'n'] rfl, fun _ => rfl⟩

theorem reads_bool (b : Bool) : Reads (chars (.bool b)) (.bool b) := by
  cases b with
  | true => exact ⟨[.bool true], Lexer.settled_word ['e', 'u', 'r', 't'] rfl, fun _ => rfl⟩
  | false => exact ⟨[.bool false], Lexer.settled_word ['e', 's', 'l', 'a', 'f'] rfl, fun _ => rfl⟩

def integral (i : Int) : Numeral := ⟨decide (i < 0), decimals i.natAbs, [], none⟩

theorem lexes_integer (i : Int) : Lexes (toString i).toList [.numeral (integral i)] := by
  cases i with
  | ofNat n => exact lexes_natural n
  | negSucc n =>
    intro before
    have written : (toString (Int.negSucc n)).toList = '-' :: (decimals (n + 1)).map Nat.digitChar := by
      rw [show toString (Int.negSucc n) = "-" ++ toString (n + 1) from rfl, String.toList_append, toList_toString]
      rfl
    have signed : Lexer.step ⟨before, .between⟩ (some '-') = ⟨before, .numeral ['-']⟩ := rfl
    rw [written, Lexer.run_cons, signed, run_decimals fun _ => decimals_lt]
    apply Lexer.settled_numeral
    have numeral : Numeral.ofChars? ('-' :: (decimals (n + 1)).map Nat.digitChar) = some (integral (Int.negSucc n)) := by
      rw [integral, decide_eq_true (Int.negSucc_lt_zero n)]
      exact unsigned_decimals true (n + 1)
    simpa using numeral

theorem reads_integer (i : Int) : Reads (toString i).toList (.numeral (integral i)) :=
  ⟨[.numeral (integral i)], lexes_integer i, fun _ => rfl⟩

theorem integer?_integral {i : Int} (low : -2 ^ 63 ≤ i) (high : i < 2 ^ 64) : (integral i).integer? = some i := by
  have size : UInt64.size = 2 ^ 64 := rfl
  have lowest : Word.lowest = 2 ^ 63 := rfl
  simp only [Numeral.integer?, integral, List.isEmpty_nil, Option.isNone_none, Bool.and_self, if_true, ofDigits_decimals]
  by_cases negative : i < 0
  · have fits : (0 < i.natAbs && i.natAbs ≤ Word.lowest) = true := by
      simp only [Bool.and_eq_true, decide_eq_true_eq, lowest]
      omega
    have back : -Int.ofNat i.natAbs = i := by
      rw [Int.ofNat_eq_natCast]
      omega
    simp only [negative, decide_true, if_true, fits, back]
  · have fits : i.natAbs < UInt64.size := by omega
    have back : Int.ofNat i.natAbs = i := by
      rw [Int.ofNat_eq_natCast]
      omega
    simp only [negative, decide_false, Bool.false_eq_true, if_false, fits, if_true, back]

/-! ## Members in order -/

/-- members in rising order of their names, each name once -/
def Ordered (members : List (String × Json)) : Prop := (members.map Prod.fst).Pairwise (· < ·)

instance (members : List (String × Json)) : Decidable (Ordered members) :=
  inferInstanceAs (Decidable ((members.map Prod.fst).Pairwise (· < ·)))

/-- a member whose name comes after all others is put at the end -/
theorem insert_of_last {name : String} {members : List (String × Json)} (last : ∀ m ∈ members, m.1 < name) (v : Json) :
    insert name v members = members ++ [(name, v)] := by
  induction members with
  | nil => rfl
  | cons m members ih =>
    obtain ⟨before, last⟩ := List.forall_mem_cons.1 last
    rw [insert, if_neg (lt_asymm before), if_neg before.ne', ih last, List.cons_append]

theorem mem_insert {name : String} {v : Json} {members : List (String × Json)} {m : String × Json}
    (h : m ∈ insert name v members) : m = (name, v) ∨ m ∈ members := by
  induction members with
  | nil => exact .inl (List.mem_singleton.1 h)
  | cons n members ih =>
    rw [insert] at h
    split_ifs at h
    · exact List.mem_cons.1 h
    · exact (List.mem_cons.1 h).imp_right (List.mem_cons_of_mem n)
    · rcases List.mem_cons.1 h with rfl | h
      · exact .inr List.mem_cons_self
      · exact (ih h).imp_right (List.mem_cons_of_mem n)

theorem ordered_cons {m : String × Json} {members : List (String × Json)} :
    Ordered (m :: members) ↔ (∀ n ∈ members, m.1 < n.1) ∧ Ordered members := by
  simp only [Ordered, List.map_cons, List.pairwise_cons, List.forall_mem_map]

theorem ordered_insert {members : List (String × Json)} (h : Ordered members) (name : String) (v : Json) :
    Ordered (insert name v members) := by
  induction members with
  | nil => exact ordered_cons.2 ⟨by simp, h⟩
  | cons m members ih =>
    obtain ⟨first, rest⟩ := ordered_cons.1 h
    rw [insert]
    split_ifs with before same
    · refine ordered_cons.2 ⟨?_, h⟩
      intro n hn
      rcases List.mem_cons.1 hn with rfl | hn
      · exact before
      · exact lt_trans before (first n hn)
    · exact ordered_cons.2 ⟨same ▸ first, rest⟩
    · have after : m.1 < name := lt_of_le_of_ne (not_lt.1 before) (Ne.symm same)
      refine ordered_cons.2 ⟨?_, ih rest⟩
      intro n hn
      rcases mem_insert hn with rfl | hn
      · exact after
      · exact first n hn

/-- members are brought in order, whatever order they come in -/
theorem ordered_ofMembers (members : List (String × Json)) : Ordered (ofMembers members) := by
  have from_any (ms done : List (String × Json)) (h : Ordered done) :
      Ordered (ms.foldl (fun ms m => insert m.1 m.2 ms) done) := by
    induction ms generalizing done with
    | nil => exact h
    | cons m ms ih => exact ih _ (ordered_insert h m.1 m.2)
  exact from_any members [] List.Pairwise.nil

theorem mem_ofMembers {members : List (String × Json)} {m : String × Json} (h : m ∈ ofMembers members) :
    m ∈ members := by
  have from_any (ms done : List (String × Json)) (h : m ∈ ms.foldl (fun ms m => insert m.1 m.2 ms) done) :
      m ∈ done ∨ m ∈ ms := by
    induction ms generalizing done with
    | nil => exact .inl h
    | cons n ms ih =>
      rcases ih _ h with h | h
      · rcases mem_insert h with rfl | h
        · exact .inr List.mem_cons_self
        · exact .inl h
      · exact .inr (List.mem_cons_of_mem n h)
  exact (from_any members [] h).resolve_left List.not_mem_nil

theorem ofMembers_of_ordered {members : List (String × Json)} (h : Ordered members) : ofMembers members = members := by
  have after (ms done : List (String × Json)) (h : Ordered (done ++ ms)) :
      ms.foldl (fun ms m => insert m.1 m.2 ms) done = done ++ ms := by
    induction ms generalizing done with
    | nil => rw [List.append_nil, List.foldl_nil]
    | cons m ms ih =>
      have last : ∀ n ∈ done, n.1 < m.1 := by
        intro n hn
        rw [Ordered, List.map_append, List.pairwise_append] at h
        exact h.2.2 _ (List.mem_map_of_mem hn) _ (List.mem_map_of_mem List.mem_cons_self)
      rw [List.foldl_cons, insert_of_last last, ih _ (by simpa using h)]
      simp
  exact after members [] h

/-! ## Values and their trees -/

/-- a value that a text can mean, with so many containers at most inside one another -/
inductive Formed : Nat → Json → Prop where
  | null {levels : Nat} : Formed levels .null
  | bool {levels : Nat} (b : Bool) : Formed levels (.bool b)
  /-- an integer fits in 64 bits, with a sign or without one -/
  | integer {levels : Nat} {i : Int} (low : -2 ^ 63 ≤ i) (high : i < 2 ^ 64) : Formed levels (.number (.integer i))
  | double {levels : Nat} (bits : UInt64) : Formed levels (.number (.double bits))
  | string {levels : Nat} (s : String) : Formed levels (.string s)
  | array {levels : Nat} {items : List Json} (each : ∀ v ∈ items, Formed levels v) : Formed (levels + 1) (.array items)
  /-- an object keeps its members in order, as `insert` does; no object is kept in another form -/
  | object {levels : Nat} {members : List (String × Json)} (ordered : Ordered members)
      (each : ∀ m ∈ members, Formed levels m.2) : Formed (levels + 1) (.object members)

/-- a value without any number but integers -/
inductive Integral : Json → Prop where
  | null : Integral .null
  | bool (b : Bool) : Integral (.bool b)
  | integer (i : Int) : Integral (.number (.integer i))
  | string (s : String) : Integral (.string s)
  | array {items : List Json} (each : ∀ v ∈ items, Integral v) : Integral (.array items)
  | object {members : List (String × Json)} (each : ∀ m ∈ members, Integral m.2) : Integral (.object members)

def numberTree : Number → Tree
  | .integer i => .numeral (integral i)
  | .double bits => ((Numeral.ofChars? (Binary64.chars bits)).map .numeral).getD .null

mutual

def tree : Json → Tree
  | .null => .null
  | .bool b => .bool b
  | .number n => numberTree n
  | .string s => .string (pieces s)
  | .array items => .array (itemTrees items)
  | .object members => .object (memberTrees members)

def itemTrees : List Json → List Tree
  | [] => []
  | v :: vs => tree v :: itemTrees vs

def memberTrees : List (String × Json) → List (List Piece × Tree)
  | [] => []
  | (name, v) :: ms => (pieces name, tree v) :: memberTrees ms

end

theorem itemTrees_eq (items : List Json) : itemTrees items = items.map tree := by
  induction items with
  | nil => rfl
  | cons v vs ih => rw [itemTrees, ih, List.map_cons]

theorem memberTrees_eq (members : List (String × Json)) :
    memberTrees members = members.map fun m => (pieces m.1, tree m.2) := by
  induction members with
  | nil => rfl
  | cons m ms ih => rw [memberTrees, ih, List.map_cons]

theorem itemChars_eq (items : List Json) : itemChars items = items.map chars := by
  induction items with
  | nil => rfl
  | cons v vs ih => rw [itemChars, ih, List.map_cons]

theorem memberChars_eq (members : List (String × Json)) :
    memberChars members = members.map fun m => (m.1, chars m.2) := by
  induction members with
  | nil => rfl
  | cons m ms ih => rw [memberChars, ih, List.map_cons]

/-- a value without doubles is written in a form that is read as its tree -/
theorem reads_tree {v : Json} (h : v.Integral) : Reads v.chars v.tree := by
  induction h with
  | null => exact reads_null
  | bool b => exact reads_bool b
  | integer i => exact reads_integer i
  | string s => exact reads_quoted s
  | @array items each ih =>
    have values : ∀ p ∈ items.map fun v => (v.chars, v.tree), Reads p.1 p.2 := List.forall_mem_map.2 ih
    rw [chars, tree, itemChars_eq, itemTrees_eq]
    simpa [Function.comp_def] using reads_brackets values
  | @object members each ih =>
    have values : ∀ m ∈ members.map fun m => (m.1, m.2.chars, m.2.tree), Reads m.2.1 m.2.2 := List.forall_mem_map.2 ih
    rw [chars, tree, memberChars_eq, memberTrees_eq]
    simpa [Function.comp_def] using reads_braces values

theorem tree_ne_null {v : Json} (h : v.Integral) (value : v ≠ .null) : v.tree ≠ .null := by
  cases h with
  | null => exact absurd rfl value
  | _ => exact Tree.noConfusion

/-! ## What trees mean -/

theorem items?_map_tree {levels : Nat} {items : List Json}
    (each : ∀ v ∈ items, v.tree.toJson? levels = some v) (read : List Json) :
    Tree.items? levels read (items.map tree) = some (read.reverse ++ items) := by
  induction items generalizing read with
  | nil => rw [List.map_nil, Tree.items?, List.append_nil]
  | cons v vs ih =>
    obtain ⟨value, values⟩ := List.forall_mem_cons.1 each
    rw [List.map_cons, Tree.items?, value]
    simpa using ih values (v :: read)

theorem members?_map_tree {levels : Nat} {members : List (String × Json)}
    (each : ∀ m ∈ members, m.2.tree.toJson? levels = some m.2) (read : List (String × Json)) :
    Tree.members? levels read (members.map fun m => (pieces m.1, m.2.tree)) = some (read.reverse ++ members) := by
  induction members generalizing read with
  | nil => rw [List.map_nil, Tree.members?, List.append_nil]
  | cons m ms ih =>
    obtain ⟨value, values⟩ := List.forall_mem_cons.1 each
    rw [List.map_cons, Tree.members?, textOf?_pieces, value]
    simpa using ih values (m :: read)

/-- a tree that a value is written as means the value -/
theorem toJson?_tree {levels : Nat} {v : Json} (h : v.Formed levels) (integral : v.Integral) :
    v.tree.toJson? levels = some v := by
  induction h with
  | null => rfl
  | bool b => rfl
  | integer low high =>
    rw [tree, numberTree, Tree.toJson?, Numeral.number?, integer?_integral low high]
    rfl
  | double bits => cases integral
  | string s =>
    rw [tree, Tree.toJson?, textOf?_pieces]
    rfl
  | @array levels items each ih =>
    cases integral with
    | array integrals =>
      rw [tree, itemTrees_eq, Tree.toJson?, items?_map_tree fun v hv => ih v hv (integrals v hv)]
      rfl
  | @object levels members ordered each ih =>
    cases integral with
    | object integrals =>
      rw [tree, memberTrees_eq, Tree.toJson?, members?_map_tree fun m hm => ih m hm (integrals m hm), Option.map_some,
        List.reverse_nil, List.nil_append, ofMembers_of_ordered ordered]

theorem bounds_of_integer? {n : Numeral} {i : Int} (h : n.integer? = some i) : -2 ^ 63 ≤ i ∧ i < 2 ^ 64 := by
  have size : UInt64.size = 2 ^ 64 := rfl
  have lowest : Word.lowest = 2 ^ 63 := rfl
  simp only [Numeral.integer?] at h
  split_ifs at h with plain negative fits fits
  · simp only [Bool.and_eq_true, decide_eq_true_eq] at fits
    cases h
    rw [Int.ofNat_eq_natCast]
    omega
  · cases h
    rw [Int.ofNat_eq_natCast]
    omega

/-- the number that a numeral means is one that a text can mean -/
theorem formed_of_number? {levels : Nat} {n : Numeral} {m : Number} (h : n.number? = some m) :
    Formed levels (.number m) := by
  unfold Numeral.number? at h
  split at h
  · rename_i i hi
    cases h
    obtain ⟨low, high⟩ := bounds_of_integer? hi
    exact .integer low high
  · obtain ⟨bits, -, rfl⟩ := Option.map_eq_some_iff.1 h
    exact .double bits

theorem toJson?_eq_null_iff {levels : Nat} {t : Tree} : t.toJson? levels = some .null ↔ t = .null := by
  constructor
  · intro h
    cases t with
    | null => rfl
    | bool b => cases h
    | numeral n =>
      obtain ⟨m, -, none⟩ := Option.map_eq_some_iff.1 h
      cases none
    | string pieces =>
      obtain ⟨s, -, none⟩ := Option.map_eq_some_iff.1 h
      cases none
    | array items =>
      cases levels with
      | zero => cases h
      | succ levels =>
        obtain ⟨vs, -, none⟩ := Option.map_eq_some_iff.1 h
        cases none
    | object members =>
      cases levels with
      | zero => cases h
      | succ levels =>
        obtain ⟨ms, -, none⟩ := Option.map_eq_some_iff.1 h
        cases none
  · rintro rfl
    rfl

/-- the strings among the values that were read are those that spell a text -/
theorem toJson?_eq_string_iff {levels : Nat} {t : Tree} {s : String} :
    t.toJson? levels = some (.string s) ↔ t.text? = some s := by
  cases t with
  | string pieces =>
    rw [Tree.toJson?, Tree.text?, Option.map_eq_some_iff]
    simp
  | null => simp [Tree.toJson?, Tree.text?]
  | bool b => simp [Tree.toJson?, Tree.text?]
  | numeral n => simp [Tree.toJson?, Tree.text?]
  | array items => cases levels <;> simp [Tree.toJson?, Tree.text?]
  | object members => cases levels <;> simp [Tree.toJson?, Tree.text?]

mutual

/-- a value that was read is one that a text can mean -/
theorem formed_of_toJson? {levels : Nat} {v : Json} : ∀ t : Tree, t.toJson? levels = some v → v.Formed levels
  | .null, h => by
    cases h
    exact .null
  | .bool b, h => by
    cases h
    exact .bool b
  | .numeral n, h => by
    obtain ⟨m, hm, rfl⟩ := Option.map_eq_some_iff.1 h
    exact formed_of_number? hm
  | .string pieces, h => by
    obtain ⟨s, -, rfl⟩ := Option.map_eq_some_iff.1 h
    exact .string s
  | .array items, h => by
    cases levels with
    | zero => cases h
    | succ levels =>
      obtain ⟨vs, hvs, rfl⟩ := Option.map_eq_some_iff.1 h
      exact .array (formed_of_items? items (by simp) hvs)
  | .object members, h => by
    cases levels with
    | zero => cases h
    | succ levels =>
      obtain ⟨ms, hms, rfl⟩ := Option.map_eq_some_iff.1 h
      exact .object (ordered_ofMembers ms) fun m hm => formed_of_members? members (by simp) hms m (mem_ofMembers hm)

theorem formed_of_items? {levels : Nat} {read vs : List Json} : ∀ ts : List Tree,
    (∀ v ∈ read, v.Formed levels) → Tree.items? levels read ts = some vs → ∀ v ∈ vs, v.Formed levels
  | [], formed, h => by
    cases h
    simpa using formed
  | t :: ts, formed, h => by
    rw [Tree.items?] at h
    split at h
    · rename_i v hv
      exact formed_of_items? ts (List.forall_mem_cons.2 ⟨formed_of_toJson? t hv, formed⟩) h
    · cases h

theorem formed_of_members? {levels : Nat} {read vs : List (String × Json)} : ∀ ts : List (List Piece × Tree),
    (∀ m ∈ read, m.2.Formed levels) → Tree.members? levels read ts = some vs → ∀ m ∈ vs, m.2.Formed levels
  | [], formed, h => by
    cases h
    simpa using formed
  | (name, t) :: ts, formed, h => by
    rw [Tree.members?] at h
    split at h
    · rename_i n v hn hv
      exact formed_of_members? ts (List.forall_mem_cons.2 ⟨formed_of_toJson? t hv, formed⟩) h
    · cases h

end

end ErrandHub.Json
