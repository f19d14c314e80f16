/-
What decoding takes from an object.

- `meanings`: what the members with one name mean, one after the other; all of an object that decoding looks at is the
  meanings of the four fields (`spells_iff_said`), and whether every name spells a text.
- `Agree`: two objects have members with one name that mean the same, or one has a single null where the other has none.
- `decode_of_agreeing_members`: objects that agree about the four fields are decoded alike.
-/
import Mathlib
import ErrandHub.Proofs.Envelope.Inbound

namespace ErrandHub

namespace Json

/-! ## Members by name -/

/-- every name of a member spells a text -/
def Named (members : List (List Piece × Tree)) : Prop := ∀ m ∈ members, textOf? m.1 ≠ none

instance (members : List (List Piece × Tree)) : Decidable (Named members) :=
  inferInstanceAs (Decidable (∀ m ∈ members, textOf? m.1 ≠ none))

/-- what the members with a name mean in a record, in the order in which they stand; none for a value that means
nothing -/
def meanings (name : String) (members : List (List Piece × Tree)) : List (Option Json) :=
  (members.filter fun m => textOf? m.1 = some name).map fun m => m.2.toJson? Tree.levelsInRecord

theorem named?_cons (m : List Piece × Tree) (members : List (List Piece × Tree)) :
    Tree.named? (m :: members) =
      (textOf? m.1).bind fun name => (Tree.named? members).map fun ms => (name, m.2) :: ms := by
  rw [Tree.named?, List.mapM_cons]
  cases textOf? m.1 <;> cases h : Tree.named? members <;> simp_all [Tree.named?]

theorem named?_eq_none_iff {members : List (List Piece × Tree)} : Tree.named? members = none ↔ ¬Named members := by
  induction members with
  | nil => simp [Tree.named?, Named]
  | cons m members ih =>
    rw [named?_cons, Option.bind_eq_none_iff, Named, List.forall_mem_cons]
    cases name : textOf? m.1 with
    | none => simp
    | some s => simp [ih, Named]

theorem meanings_of_named? {members : List (List Piece × Tree)} {ms : List (String × Tree)}
    (h : Tree.named? members = some ms) (name : String) :
    meanings name members = (ms.filter fun m => m.1 = name).map fun m => m.2.toJson? Tree.levelsInRecord := by
  induction members generalizing ms with
  | nil =>
    cases h
    rfl
  | cons m members ih =>
    rw [named?_cons, Option.bind_eq_some_iff] at h
    obtain ⟨s, spelled, h⟩ := h
    obtain ⟨ms, named, rfl⟩ := Option.map_eq_some_iff.1 h
    have rest := ih named
    unfold meanings at rest ⊢
    by_cases same : s = name
    · rw [List.filter_cons_of_pos (by simp [spelled, same]), List.filter_cons_of_pos (by simp [same]), List.map_cons,
        List.map_cons, rest]
    · rw [List.filter_cons_of_neg (by simp [spelled, same]), List.filter_cons_of_neg (by simp [same]), rest]

/-- the fields of a record stand at most once each exactly if none of their names stands twice -/
theorem distinct_filter_iff {names : List String} {ms : List (String × Tree)} :
    Tree.distinct (ms.filter fun m => names.contains m.1) = true ↔
      ∀ name ∈ names, (ms.filter fun m => m.1 = name).length ≤ 1 := by
  have counted (name : String) (known : name ∈ names) :
      ((ms.filter fun m => names.contains m.1).map Prod.fst).count name = (ms.filter fun m => m.1 = name).length := by
    rw [List.count, List.countP_map, List.countP_filter, ← List.countP_eq_length_filter]
    apply List.countP_congr
    intro m _
    by_cases same : m.1 = name <;> simp [same, known]
  rw [distinct_iff, List.nodup_iff_count_le_one]
  constructor
  · intro once name known
    rw [← counted name known]
    exact once name
  · intro once name
    by_cases known : name ∈ names
    · rw [counted name known]
      exact once name known
    · have absent : name ∉ (ms.filter fun m => names.contains m.1).map Prod.fst := by
        rw [List.mem_map]
        rintro ⟨m, hm, rfl⟩
        exact known (List.contains_iff_mem.1 (List.mem_filter.1 hm).2)
      rw [List.count_eq_zero_of_not_mem absent]
      exact Nat.zero_le 1

/-- an object is a record with these fields if no field stands twice -/
theorem exists_fields_iff {names : List String} {members : List (List Piece × Tree)} (named : Named members) :
    (∃ fields, Tree.fields? names (.object members) = some fields) ↔
      ∀ name ∈ names, (meanings name members).length ≤ 1 := by
  obtain ⟨ms, hms⟩ : ∃ ms, Tree.named? members = some ms :=
    Option.ne_none_iff_exists'.1 fun none => named?_eq_none_iff.1 none named
  simp only [Tree.fields?, hms, Option.bind_some, meanings_of_named? hms, List.length_map, ← distinct_filter_iff]
  split <;> simp_all

theorem lookup_eq_head? (name : String) (ms : List (String × Tree)) :
    ms.lookup name = (ms.filter fun m => m.1 = name).head?.map Prod.snd := by
  induction ms with
  | nil => rfl
  | cons m ms ih =>
    by_cases same : m.1 = name
    · rw [List.filter_cons_of_pos (by simpa using same), ← same]
      exact List.lookup_cons_self
    · have other : (name == m.1) = false := beq_false_of_ne (Ne.symm same)
      rw [List.filter_cons_of_neg (by simpa using same), ← ih, List.lookup_cons, other]

theorem meanings_eq_lookup {names : List String} {members : List (List Piece × Tree)} {fields : List (String × Tree)}
    (h : Tree.fields? names (.object members) = some fields) {name : String} (known : name ∈ names) :
    meanings name members = ((fields.lookup name).map (Tree.toJson? Tree.levelsInRecord)).toList := by
  obtain ⟨ms, hms, h⟩ := Option.bind_eq_some_iff.1 h
  simp only [Option.ite_none_right_eq_some, Option.some_inj] at h
  obtain ⟨once, rfl⟩ := h
  have single := distinct_filter_iff.1 once name known
  rw [meanings_of_named? hms, lookup_filter known, lookup_eq_head?]
  cases found : ms.filter fun m => m.1 = name with
  | nil => rfl
  | cons m rest =>
    rw [found] at single
    obtain rfl : rest = [] := List.eq_nil_of_length_eq_zero (by simpa using single)
    rfl

/-! ## Fields by meaning -/

/-- a value, unless it is null -/
def unlessNull : Json → Option Json
  | .null => none
  | v => some v

theorem unlessNull_of_ne {v : Json} (value : v ≠ .null) : unlessNull v = some v := by
  cases v with
  | null => exact absurd rfl value
  | _ => rfl

/-- what a field says whose members mean this: nothing if it is missing or null, and a value if it has one; none if it
stands twice or means nothing -/
def said : List (Option Json) → Option (Option Json)
  | [] => some none
  | [v] => v.map unlessNull
  | _ => none

theorem said_eq_none_of_two {vs : List (Option Json)} (twice : 2 ≤ vs.length) : said vs = none := by
  match vs, twice with
  | _ :: _ :: _, _ => rfl

theorem length_le_one_of_said {vs : List (Option Json)} {o : Option Json} (h : said vs = some o) : vs.length ≤ 1 := by
  by_contra twice
  rw [said_eq_none_of_two (by omega)] at h
  cases h

/-- a value that is found says the same as it means, unless it is null -/
theorem said_toJson? {t : Tree} (value : t ≠ .null) :
    said [t.toJson? Tree.levelsInRecord] = (t.toJson? Tree.levelsInRecord).map some := by
  cases means : t.toJson? Tree.levelsInRecord with
  | none => rfl
  | some v =>
    have other : v ≠ .null := fun null => value (toJson?_eq_null_iff.1 (null ▸ means))
    exact congrArg some (unlessNull_of_ne other)

section Fields

variable {fields : List (String × Tree)} {name : String} {vs : List (Option Json)}
  (all : vs = ((fields.lookup name).map (Tree.toJson? Tree.levelsInRecord)).toList)
include all

theorem optional_value_eq : Tree.optional fields name (Tree.toJson? Tree.levelsInRecord) = said vs := by
  subst all
  rw [Tree.optional]
  cases fields.lookup name with
  | none => rfl
  | some t =>
    by_cases null : t = .null
    · subst null
      rfl
    · rw [Option.map_some, Option.toList_some, said_toJson? null]
      cases t with
      | null => exact absurd rfl null
      | _ => rfl

theorem optional_text_iff {message : Option String} :
    Tree.optional fields name Tree.text? = some message ↔ said vs = some (message.map .string) := by
  subst all
  rw [Tree.optional]
  cases fields.lookup name with
  | none => cases message <;> simp [said]
  | some t =>
    by_cases null : t = .null
    · subst null
      cases message <;> simp [said, Tree.toJson?, unlessNull]
    · rw [Option.map_some, Option.toList_some, said_toJson? null]
      have string (s : String) : t.toJson? Tree.levelsInRecord = some (.string s) ↔ t.text? = some s :=
        toJson?_eq_string_iff
      cases t with
      | null => exact absurd rfl null
      | _ => cases message <;> simp [string]

theorem required_text_iff {type : String} :
    Tree.required fields name Tree.text? = some type ↔ said vs = some (some (.string type)) := by
  subst all
  rw [Tree.required]
  cases fields.lookup name with
  | none => simp [said]
  | some t =>
    by_cases null : t = .null
    · subst null
      simp [said, Tree.toJson?, Tree.text?, unlessNull]
    · rw [Option.map_some, Option.toList_some, said_toJson? null, Option.bind_some]
      simp [toJson?_eq_string_iff]

end Fields

end Json

namespace Inbound

open Json (Named Piece Tree meanings said)

/-- **Decoding looks at the four fields alone**: what a frame says that is written as an object with names that spell
texts is what its members with the names of the fields mean. -/
theorem spells_iff_said {frame : String} {members : List (List Piece × Tree)}
    (written : Tree.ofText? frame = some (.object members)) (named : Named members) (type : String) (room : Option Json)
    (message : Option String) (data : Option Json) :
    Spells frame type room message data ↔
      said (meanings "type" members) = some (some (.string type)) ∧ said (meanings "room" members) = some room ∧
      said (meanings "message" members) = some (message.map .string) ∧ said (meanings "data" members) = some data := by
  have fields_iff {fields : List (String × Tree)} (h : Tree.fields? fieldNames (.object members) = some fields) :
      (Tree.required fields "type" Tree.text? = some type ∧
        Tree.optional fields "room" (Tree.toJson? Tree.levelsInRecord) = some room ∧
        Tree.optional fields "message" Tree.text? = some message ∧
        Tree.optional fields "data" (Tree.toJson? Tree.levelsInRecord) = some data) ↔
      said (meanings "type" members) = some (some (.string type)) ∧ said (meanings "room" members) = some room ∧
      said (meanings "message" members) = some (message.map .string) ∧ said (meanings "data" members) = some data := by
    have all {name : String} (known : name ∈ fieldNames) := Json.meanings_eq_lookup h known
    rw [Json.required_text_iff (all (by decide)), Json.optional_value_eq (all (by decide)),
      Json.optional_text_iff (all (by decide)), Json.optional_value_eq (all (by decide))]
  constructor
  · rintro ⟨tree, fields, htree, hfields, read⟩
    obtain rfl : _ = tree := Option.some_inj.1 (written.symm.trans htree)
    exact (fields_iff hfields).1 read
  · intro h
    obtain ⟨type, room, message, data⟩ := id h
    -- what is said is said once, and that is all that it takes to read the record
    have once : ∀ name ∈ fieldNames, (meanings name members).length ≤ 1 := by
      simp only [fieldNames, List.forall_mem_cons, List.not_mem_nil, false_implies, implies_true, and_true]
      exact ⟨Json.length_le_one_of_said type, Json.length_le_one_of_said room, Json.length_le_one_of_said message,
        Json.length_le_one_of_said data⟩
    obtain ⟨fields, hfields⟩ := (Json.exists_fields_iff named).2 once
    exact ⟨_, fields, written, hfields, (fields_iff hfields).2 h⟩

/-- two objects agree about a name: what their members with this name mean is the same in some order, or one of them has
a single null where the other has no member -/
inductive Agree (name : String) (members members' : List (List Piece × Tree)) : Prop where
  | same (meant : (meanings name members).Perm (meanings name members'))
  | leftOut (null : meanings name members = [some .null]) (missing : meanings name members' = [])
  | putIn (missing : meanings name members = []) (null : meanings name members' = [some .null])

theorem said_of_agree {name : String} {members members' : List (List Piece × Tree)} (h : Agree name members members') :
    said (meanings name members) = said (meanings name members') := by
  cases h with
  | same meant =>
    have lengths := meant.length_eq
    generalize meanings name members = vs, meanings name members' = vs' at meant lengths
    match vs with
    | [] => rw [List.nil_perm.1 meant]
    | [v] => rw [List.singleton_perm.1 meant]
    | _ :: _ :: _ =>
      simp only [List.length_cons] at lengths
      rw [Json.said_eq_none_of_two (by simp), Json.said_eq_none_of_two (by omega)]
  | leftOut null missing =>
    rw [null, missing]
    rfl
  | putIn missing null =>
    rw [null, missing]
    rfl

/-- **Decoding depends on the four fields alone.** Two frames that are short enough and written as objects, in which
every name spells a text, are decoded alike if they agree about each of the four fields, whatever else stands in them,
how deep it nests and in which order it comes. A frame with a name that spells no text is malformed whatever its fields
are. -/
theorem decode_of_agreeing_members (limit : Nat) (a b : String) (members members' : List (List Piece × Tree))
    (fits : Utf8.size a ≤ limit) (fits' : Utf8.size b ≤ limit) (written : Tree.ofText? a = some (.object members))
    (written' : Tree.ofText? b = some (.object members')) :
    (Named members → Named members' → (∀ name ∈ fieldNames, Agree name members members') →
      decode limit a = decode limit b) ∧
    (¬Named members → decode limit a = .error .malformed) := by
  constructor
  · intro named named' agree
    have alike {name : String} (known : name ∈ fieldNames) := said_of_agree (agree name known)
    refine decode_congr fits fits' fun type room message data => ?_
    rw [spells_iff_said written named, spells_iff_said written' named', alike (by decide), alike (by decide),
      alike (by decide), alike (by decide)]
  · intro unnamed
    refine decode_of_not_spells fits ?_
    rintro type room message data ⟨tree, fields, htree, hfields, -⟩
    obtain rfl : _ = tree := Option.some_inj.1 (written.symm.trans htree)
    rw [Tree.fields?, Json.named?_eq_none_iff.2 unnamed] at hfields
    cases hfields

/-- the fields in another order, one name and one value in another spelling, a null left out, and a sender, a number too
great for a double and a name that stands twice put in; and a frame with a name that spells no text -/
theorem decode_of_agreeing_members_shuffled :
    let a := "\x7b\"type\":\"ping\",\"room\":null,\"data\":[1]\x7d"
    let b := "\x7b\"sender\":[[]],\"data\":[1],\"x\":1e999,\"typ\\u0065\":\"pin\\u0067\",\"x\":0\x7d"
    let odd := "\x7b\"type\":\"ping\",\"\\udfff\":[]\x7d"
    decode 100 a = .ok (.envelope ⟨.ping, none, none, some (.array [.number (.integer 1)])⟩) ∧
      decode 100 a = decode 100 b ∧ decode 100 odd = .error .malformed := by
  intro a b odd
  let one : Tree := .array [.numeral ⟨false, [1], [], none⟩]
  let members : List (List Piece × Tree) := [(Json.pieces "type", .string (Json.pieces "ping")),
    (Json.pieces "room", .null), (Json.pieces "data", one)]
  let members' : List (List Piece × Tree) := [(Json.pieces "sender", .array [.array []]), (Json.pieces "data", one),
    (Json.pieces "x", .numeral ⟨false, [1], [], some (false, [9, 9, 9])⟩),
    (Json.pieces "typ" ++ [.code 0x65], .string (Json.pieces "pin" ++ [.code 0x67])),
    (Json.pieces "x", .numeral ⟨false, [0], [], none⟩)]
  let unnamed : List (List Piece × Tree) := [(Json.pieces "type", .string (Json.pieces "ping")),
    ([.code 0xDFFF], .array [])]
  have written : Tree.ofText? a = some (.object members) := by cbv
  have written' : Tree.ofText? b = some (.object members') := by cbv
  have writtenOdd : Tree.ofText? odd = some (.object unnamed) := by cbv
  have fits : Utf8.size a ≤ 100 := by decide +kernel
  have fits' : Utf8.size b ≤ 100 := by decide +kernel
  have fitsOdd : Utf8.size odd ≤ 100 := by decide +kernel
  have named : Named members := by decide +kernel
  have named' : Named members' := by decide +kernel
  have agree : ∀ name ∈ fieldNames, Agree name members members' := by
    simp only [fieldNames, List.forall_mem_cons, List.not_mem_nil, false_implies, implies_true, and_true]
    exact ⟨.same (.of_eq rfl), .leftOut rfl rfl, .same (.of_eq rfl), .same (.of_eq rfl)⟩
  exact ⟨(decode_of_ofText? fits written).trans rfl,
    (decode_of_agreeing_members 100 a b members members' fits fits' written written').1 named named' agree,
    (decode_of_agreeing_members 100 odd a unnamed members fitsOdd fits writtenOdd written).2 (by decide +kernel)⟩

/-- what decoding takes from an object is not the meaning of its fields alone: a name that spells no text is a fault,
though it is the name of no field, and a second null is one, though a single null may be left out -/
theorem decode_of_odd_name_and_second_null :
    let ping := "\x7b\"type\":\"ping\"\x7d"
    let odd := "\x7b\"type\":\"ping\",\"\\ud800\":1\x7d"
    let once := "\x7b\"type\":\"ping\",\"room\":null\x7d"
    let twice := "\x7b\"type\":\"ping\",\"room\":null,\"room\":null\x7d"
    let type : List Piece × Tree := (Json.pieces "type", .string (Json.pieces "ping"))
    let room : List Piece × Tree := (Json.pieces "room", .null)
    let other : List Piece × Tree := ([.code 0xD800], .numeral ⟨false, [1], [], none⟩)
    (Tree.ofText? ping = some (.object [type]) ∧ Tree.ofText? odd = some (.object [type, other]) ∧
      Tree.ofText? once = some (.object [type, room]) ∧ Tree.ofText? twice = some (.object [type, room, room])) ∧
    (∀ name ∈ fieldNames, meanings name [type] = meanings name [type, other]) ∧
    (decode 65536 ping = .ok (.envelope ⟨.ping, none, none, none⟩) ∧ decode 65536 odd = .error .malformed) ∧
    decode 65536 once = .ok (.envelope ⟨.ping, none, none, none⟩) ∧ decode 65536 twice = .error .malformed := by
  intro ping odd once twice type room other
  have hping : Tree.ofText? ping = some (.object [type]) := by cbv
  have hodd : Tree.ofText? odd = some (.object [type, other]) := by cbv
  have honce : Tree.ofText? once = some (.object [type, room]) := by cbv
  have htwice : Tree.ofText? twice = some (.object [type, room, room]) := by cbv
  have alike : ∀ name ∈ fieldNames, meanings name [type] = meanings name [type, other] := by
    simp only [fieldNames, List.forall_mem_cons, List.not_mem_nil, false_implies, implies_true, and_true]
    exact ⟨rfl, rfl, rfl, rfl⟩
  have fits : Utf8.size ping ≤ 65536 ∧ Utf8.size odd ≤ 65536 ∧ Utf8.size once ≤ 65536 ∧ Utf8.size twice ≤ 65536 := by
    decide +kernel
  refine ⟨⟨hping, hodd, honce, htwice⟩, alike, ⟨?_, ?_⟩, ?_, ?_⟩
  · exact (decode_of_ofText? fits.1 hping).trans rfl
  · exact (decode_of_ofText? fits.2.1 hodd).trans rfl
  · exact (decode_of_ofText? fits.2.2.1 honce).trans rfl
  · exact (decode_of_ofText? fits.2.2.2 htwice).trans rfl

end Inbound
end ErrandHub
