/-
Envelopes of the hub read back.

`Outbound.Plain` says which envelopes can be written so that nothing is lost: their data must not be null, which reads as
no data, nor hold a double, and a text can mean it.

  * `ofText?_text_tree`: the frame of such an envelope is read as an object, its fields one by one;
  * `ofTree?_trees`: the fields mean the envelope, each found under its name and none of them in the way of another;
  * `plain_of_ofText?`: an envelope that was read is one of these, if its data holds no double;
  * `frames_read_back`: what is written is read as the envelope again, and what was read is written to be read again.
-/
import ErrandHub.Envelope.Outbound
import ErrandHub.Proofs.Json.Value
import ErrandHub.Proofs.Room.Canonical

namespace ErrandHub

/-! ## Names -/

theorem Kind.ofName?_name (k : Kind) : Kind.ofName? k.name = some k := by
  cases k <;> decide

theorem Role.ofName?_name (r : Role) : Role.ofName? r.name = some r := by
  cases r <;> decide

/-! ## Senders -/

namespace Sender

def trees (s : Sender) : List (String × Json.Tree) :=
  [("id", .string (Json.pieces s.id.name)), ("role", .string (Json.pieces s.role.name))]

def tree (s : Sender) : Json.Tree := .object (s.trees.map fun m => (Json.pieces m.1, m.2))

theorem reads_chars (s : Sender) : Json.Reads s.chars s.tree := by
  let written : List (String × List Char × Json.Tree) :=
    [("id", Json.quoted s.id.name, .string (Json.pieces s.id.name)),
      ("role", Json.quoted s.role.name, .string (Json.pieces s.role.name))]
  have values : ∀ m ∈ written, Json.Reads m.2.1 m.2.2 := by simp [written, Json.reads_quoted]
  exact Json.reads_braces values

theorem ofTree?_tree (s : Sender) : ofTree? s.tree = some s := by
  have fields : s.tree.fields? fieldNames = some s.trees :=
    Json.fields?_object (List.all_eq_true.1 (by rfl)) (by rfl)
  have id : Json.Tree.required s.trees "id" Json.Tree.text? = some s.id.name := Json.textOf?_pieces s.id.name
  have role : Json.Tree.required s.trees "role" (fun t => t.choice?.bind Role.ofName?) = some s.role := by
    change (Json.textOf? (Json.pieces s.role.name)).bind Role.ofName? = some s.role
    rw [Json.textOf?_pieces, Option.bind_some, Role.ofName?_name]
  simp only [ofTree?, fields, id, role, Option.bind_eq_bind, Option.bind_some, Option.pure_def]

end Sender

/-! ## Envelopes -/

namespace Outbound

/-- the data of an envelope, if it has any, is not null and of integers alone, and nests at most 126 containers -/
def Plain (e : Outbound) : Prop := ∀ v, e.data = some v → v ≠ .null ∧ v.Integral ∧ v.Formed 126

/-- the fields of an envelope, as they are written and as they are read -/
def written (e : Outbound) : List (String × List Char × Json.Tree) :=
  [("type", Json.quoted e.kind.name, .string (Json.pieces e.kind.name))]
    ++ (e.room.map fun r => ("room", Json.quoted r.text, .string (Json.pieces r.text))).toList
    ++ [("sender", e.sender.chars, e.sender.tree)]
    ++ (e.message.map fun s => ("message", Json.quoted s, .string (Json.pieces s))).toList
    ++ (e.data.map fun v => ("data", v.chars, v.tree)).toList
    ++ [("timestamp", (toString e.timestamp.toInt).toList, .numeral (Json.integral e.timestamp.toInt))]

/-- the fields that an envelope is read with -/
def trees (e : Outbound) : List (String × Json.Tree) := e.written.map fun m => (m.1, m.2.2)

theorem fields_eq (e : Outbound) : e.fields = e.written.map fun m => (m.1, m.2.1) := by
  unfold fields written
  cases e.room <;> cases e.message <;> cases e.data <;> rfl

theorem reads_written {e : Outbound} (plain : e.Plain) : ∀ m ∈ e.written, Json.Reads m.2.1 m.2.2 := by
  intro m hm
  simp only [written, List.mem_append, List.mem_singleton, Option.mem_toList, Option.map_eq_some_iff] at hm
  rcases hm with ((((rfl | ⟨r, -, rfl⟩) | rfl) | ⟨s, -, rfl⟩) | ⟨v, hv, rfl⟩) | rfl
  · exact Json.reads_quoted _
  · exact Json.reads_quoted _
  · exact e.sender.reads_chars
  · exact Json.reads_quoted _
  · exact Json.reads_tree (plain v hv).2.1
  · exact Json.reads_integer _

/-- the frame of an envelope is read as an object with its fields -/
theorem ofText?_text_tree {e : Outbound} (plain : e.Plain) :
    Json.Tree.ofText? e.text = some (.object (e.trees.map fun m => (Json.pieces m.1, m.2))) := by
  have read := Json.reads_braces (reads_written plain)
  rw [← fields_eq] at read
  rw [Json.Tree.ofText?, text, String.toList_ofList, Json.ofSymbols?_of_reads read, trees, List.map_map]
  rfl

section Fields

variable (e : Outbound)

theorem known_trees : ∀ m ∈ e.trees, fieldNames.contains m.1 := by
  apply List.all_eq_true.1
  unfold trees written
  cases e.room <;> cases e.message <;> cases e.data <;> rfl

theorem distinct_trees : Json.Tree.distinct e.trees := by
  unfold trees written
  cases e.room <;> cases e.message <;> cases e.data <;> rfl

theorem lookup_type : e.trees.lookup "type" = some (.string (Json.pieces e.kind.name)) := rfl

theorem lookup_room : e.trees.lookup "room" = e.room.map fun r => .string (Json.pieces r.text) := by
  unfold trees written
  cases e.room <;> cases e.message <;> cases e.data <;> rfl

theorem lookup_sender : e.trees.lookup "sender" = some e.sender.tree := by
  unfold trees written
  cases e.room <;> rfl

theorem lookup_message : e.trees.lookup "message" = e.message.map fun s => .string (Json.pieces s) := by
  unfold trees written
  cases e.room <;> cases e.message <;> cases e.data <;> rfl

theorem lookup_data : e.trees.lookup "data" = e.data.map Json.tree := by
  unfold trees written
  cases e.room <;> cases e.message <;> cases e.data <;> rfl

theorem lookup_timestamp : e.trees.lookup "timestamp" = some (.numeral (Json.integral e.timestamp.toInt)) := by
  unfold trees written
  cases e.room <;> cases e.message <;> cases e.data <;> rfl

end Fields

theorem ofTree?_trees {e : Outbound} (plain : e.Plain) :
    ofTree? (.object (e.trees.map fun m => (Json.pieces m.1, m.2))) = some e := by
  have fields := Json.fields?_object e.known_trees e.distinct_trees
  have kind : Json.Tree.required e.trees "type" (fun t => t.choice?.bind Kind.ofName?) = some e.kind := by
    refine Json.required_of_lookup e.lookup_type ?_
    change (Json.textOf? (Json.pieces e.kind.name)).bind Kind.ofName? = some e.kind
    rw [Json.textOf?_pieces, Option.bind_some, Kind.ofName?_name]
  have room : Json.Tree.optional e.trees "room" (fun t => t.text?.bind RoomId.ofText?) = some e.room := by
    refine Json.optional_of_lookup e.lookup_room fun r _ => ⟨Json.Tree.noConfusion, ?_⟩
    change (Json.textOf? (Json.pieces r.text)).bind RoomId.ofText? = some r
    rw [Json.textOf?_pieces, Option.bind_some, r.ofText?_text]
  have sender := Json.required_of_lookup e.lookup_sender e.sender.ofTree?_tree
  have message : Json.Tree.optional e.trees "message" Json.Tree.text? = some e.message :=
    Json.optional_of_lookup e.lookup_message fun s _ => ⟨Json.Tree.noConfusion, Json.textOf?_pieces s⟩
  have data : Json.Tree.optional e.trees "data" (Json.Tree.toJson? Json.Tree.levelsInRecord) = some e.data := by
    refine Json.optional_of_lookup e.lookup_data fun v hv => ?_
    obtain ⟨value, integral, formed⟩ := plain v hv
    exact ⟨Json.tree_ne_null integral value, Json.toJson?_tree formed integral⟩
  have timestamp : Json.Tree.required e.trees "timestamp" (fun t => t.integer?.bind Word.signedOfInt?) =
      some e.timestamp := by
    refine Json.required_of_lookup e.lookup_timestamp ?_
    have low := e.timestamp.le_toInt
    have high := e.timestamp.toInt_lt
    change (Json.integral e.timestamp.toInt).integer?.bind Word.signedOfInt? = some e.timestamp
    rw [Json.integer?_integral low (by omega), Option.bind_some, Word.signedOfInt?_eq_some_iff.2 rfl]
  simp only [ofTree?, fields, kind, room, sender, message, data, timestamp, Option.bind_eq_bind, Option.bind_some,
    Option.pure_def]

theorem ofText?_text {e : Outbound} (plain : e.Plain) : ofText? e.text = some e := by
  rw [ofText?, ofText?_text_tree plain, Option.bind_some, ofTree?_trees plain]

/-- an envelope that was read has data that a text can mean -/
theorem plain_of_ofText? {s : String} {e : Outbound} (h : ofText? s = some e)
    (integral : ∀ v, e.data = some v → v.Integral) : e.Plain := by
  obtain ⟨tree, -, read⟩ := Option.bind_eq_some_iff.1 h
  simp only [ofTree?, Option.bind_eq_bind, Option.bind_eq_some_iff] at read
  obtain ⟨fields, -, kind, -, room, -, sender, -, message, -, data, hdata, timestamp, -, he⟩ := read
  obtain rfl : _ = e := Option.some_inj.1 he
  intro v hv
  obtain rfl : data = some v := hv
  unfold Json.Tree.optional at hdata
  split at hdata
  · cases hdata
  · cases hdata
  · rename_i t value _
    obtain ⟨v', hv', same⟩ := Option.map_eq_some_iff.1 hdata
    obtain rfl : v' = v := Option.some_inj.1 same
    refine ⟨?_, integral v' rfl, Json.formed_of_toJson? t hv'⟩
    rintro rfl
    exact value (Json.toJson?_eq_null_iff.1 hv')

/-! ## The round trip -/

/-- **Envelopes are read back.** Whatever its kind, room, sender, message and time are: the frame of an envelope is read
as the envelope, if its data, unless it has none, is a value other than null with no numbers but integers of 64 bits,
nested at most 126 deep. An envelope that was itself read from a text has such data as soon as its numbers are integers,
so writing what was read and reading it again changes nothing, and neither does writing it once more. -/
theorem frames_read_back :
    (∀ e : Outbound, e.Plain → ofText? e.text = some e) ∧
    ∀ (s : String) (e : Outbound), ofText? s = some e → (∀ v, e.data = some v → v.Integral) →
      e.Plain ∧ ofText? e.text = some e ∧ (ofText? e.text).map text = some e.text := by
  refine ⟨fun e plain => ofText?_text plain, ?_⟩
  intro s e read integral
  have plain := plain_of_ofText? read integral
  have back := ofText?_text plain
  exact ⟨plain, back, by rw [back, Option.map_some]⟩

/-- an envelope with the least and the greatest integers, an empty array, control characters and the earliest time -/
theorem frames_read_back_extremes :
    let data : Json := .object [("", .array [.number (.integer (-2 ^ 63)), .number (.integer (2 ^ 64 - 1)), .array []]),
      ("é\n", .string "\"\\ \x00")]
    let e : Outbound := ⟨.joinRoom, some (.ofNat 7), ⟨⟨"漢 \t"⟩, .system⟩, some "", some data, Int64.minValue⟩
    e.Plain ∧ ofText? e.text = some e ∧ (ofText? e.text).map text = some e.text := by
  intro data e
  have integral : data.Integral := by
    refine .object ?_
    simp only [List.forall_mem_cons, List.not_mem_nil, false_implies, implies_true, and_true]
    refine ⟨.array ?_, .string _⟩
    simp only [List.forall_mem_cons, List.not_mem_nil, false_implies, implies_true, and_true]
    exact ⟨.integer _, .integer _, .array (by simp)⟩
  have formed : data.Formed 126 := by
    refine .object (by decide) ?_
    simp only [List.forall_mem_cons, List.not_mem_nil, false_implies, implies_true, and_true]
    refine ⟨.array ?_, .string _⟩
    simp only [List.forall_mem_cons, List.not_mem_nil, false_implies, implies_true, and_true]
    exact ⟨.integer (by decide) (by decide), .integer (by decide) (by decide), .array (by simp)⟩
  have only {v : Json} (hv : e.data = some v) : data = v := Option.some_inj.1 hv
  have plain : e.Plain := by
    intro v hv
    rw [← only hv]
    exact ⟨Json.noConfusion, integral, formed⟩
  have back := frames_read_back.1 e plain
  exact ⟨plain, back, (frames_read_back.2 e.text e back fun v hv => only hv ▸ integral).2.2⟩

end Outbound
end ErrandHub
