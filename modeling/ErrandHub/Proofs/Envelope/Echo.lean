/-
Frames of the hub that clients send back.

A frame of the hub is a record that clients could have written (`spells_text`): the fields that both kinds of envelope
have mean the same in both, and the others are skipped. `frame_sent_back` says what decoding makes of it.
-/
import ErrandHub.Proofs.Envelope.Inbound
import ErrandHub.Proofs.Envelope.Outbound

namespace ErrandHub

theorem Kind.parse?_name (k : Kind) : Kind.parse? k.name = some k := by
  cases k <;> decide +kernel

namespace Outbound

/-- the fields that a frame of the hub shares with those of clients say the kind, the room, the message and the data -/
theorem spells_text {e : Outbound} (plain : e.Plain) :
    Inbound.Spells e.text e.kind.name (e.room.map fun r => .string r.text) e.message e.data := by
  have known {name : String} (h : name ∈ Inbound.fieldNames) := Json.lookup_filter h e.trees
  refine ⟨_, _, ofText?_text_tree plain, Json.fields?_object_filter Inbound.fieldNames e.distinct_trees, ?_, ?_, ?_, ?_⟩
  · exact Json.required_of_lookup ((known (by decide)).trans e.lookup_type) (Json.textOf?_pieces e.kind.name)
  · have room : e.trees.lookup "room" = (e.room.map fun r => Json.string r.text).map Json.tree := by
      rw [e.lookup_room, Option.map_map]
      rfl
    refine Json.optional_of_lookup ((known (by decide)).trans room) fun v hv => ?_
    obtain ⟨r, -, rfl⟩ := Option.map_eq_some_iff.1 hv
    exact ⟨Json.Tree.noConfusion, Json.toJson?_tree (.string r.text) (.string r.text)⟩
  · exact Json.optional_of_lookup ((known (by decide)).trans e.lookup_message) fun s _ =>
      ⟨Json.Tree.noConfusion, Json.textOf?_pieces s⟩
  · refine Json.optional_of_lookup ((known (by decide)).trans e.lookup_data) fun v hv => ?_
    obtain ⟨value, integral, formed⟩ := plain v hv
    exact ⟨Json.tree_ne_null integral value, Json.toJson?_tree formed integral⟩

/-- what a frame of the hub says as one of a client: neither the sender nor the time has a part in it -/
def echo (kind : Kind) (room : Option RoomId) (message : Option String) (data : Option Json) : Decoded :=
  if kind = .roomOpened then .unknown kind.name
  else .envelope ⟨kind, room.map fun r => .string r.text, message, data⟩

theorem decode_text {e : Outbound} (plain : e.Plain) {limit : Nat} (fits : Utf8.size e.text ≤ limit) :
    Inbound.decode limit e.text = .ok (echo e.kind e.room e.message e.data) := by
  rw [Inbound.decode_of_spells fits (spells_text plain), Kind.parse?_name, echo]
  by_cases opened : e.kind = .roomOpened
  · simp [opened, Kind.fromClient]
  · simp [opened, Kind.fromClient]

/-- **A frame of the hub that a client sends back means the same.** If it is short enough, the notice that a room was
opened is of an unknown type, and any other frame is an envelope of the same kind with the same message and data. This
envelope names a room exactly if the frame did, and what it names is sorted as a reference that means that room. Nothing
of the sender and of the time is left: with others in their place the frame says the same. -/
theorem frame_sent_back (e : Outbound) (plain : e.Plain) (limit : Nat) (fits : Utf8.size e.text ≤ limit) :
    (e.kind = .roomOpened → Inbound.decode limit e.text = .ok (.unknown "room_opened")) ∧
    (e.kind ≠ .roomOpened → ∃ room, Inbound.decode limit e.text = .ok (.envelope ⟨e.kind, room, e.message, e.data⟩) ∧
      (room = none ↔ e.room = none) ∧
      ∀ r, e.room = some r → ∃ v ref, room = some v ∧ RoomRef.ofJson v = .ok ref ∧ ref.room = .ok r) ∧
    ∀ (sender : Sender) (timestamp : Int64), Utf8.size { e with sender, timestamp }.text ≤ limit →
      Inbound.decode limit { e with sender, timestamp }.text = Inbound.decode limit e.text := by
  have said := decode_text plain fits
  refine ⟨?_, ?_, ?_⟩
  · intro opened
    rw [said, echo, if_pos opened, opened]
    rfl
  · intro other
    rw [echo, if_neg other] at said
    refine ⟨_, said, Option.map_eq_none_iff, ?_⟩
    intro r hr
    have spelled := r.spelledBy_text
    exact ⟨.string r.text, .canonical (Text.trim r.text), by rw [hr, Option.map_some],
      RoomRef.ofJsonWithin_of_spelledBy spelled RoomRef.maxNesting,
      RoomRef.room_nested_of_spelledBy spelled.trim (n := 0) (Nat.zero_le _)⟩
  · intro sender timestamp fits'
    have plain' : { e with sender, timestamp }.Plain := plain
    rw [said, decode_text plain' fits']

/-- a typing notice of the hub's own identity, and the notice that a room was opened, at the very limit -/
theorem frame_sent_back_at_limit :
    let e : Outbound := ⟨.typingStop, some (.ofNat 42), ⟨.system, .system⟩, some "\" \n",
      some (.array [.number (.integer (-1))]), 1700000000000⟩
    let opened : Outbound := { e with kind := .roomOpened }
    (∃ room, Inbound.decode (Utf8.size e.text) e.text = .ok (.envelope ⟨.typingStop, room, e.message, e.data⟩)) ∧
      Inbound.decode (Utf8.size opened.text) opened.text = .ok (.unknown "room_opened") := by
  intro e opened
  have plain : e.Plain := by
    intro v hv
    obtain rfl : _ = v := Option.some_inj.1 hv
    refine ⟨Json.noConfusion, .array ?_, .array ?_⟩
    · exact List.forall_mem_singleton.2 (.integer _)
    · exact List.forall_mem_singleton.2 (.integer (by decide) (by decide))
  have plain' : opened.Plain := plain
  obtain ⟨-, sent, -⟩ := frame_sent_back e plain (Utf8.size e.text) le_rfl
  obtain ⟨room, said, -⟩ := sent (by decide)
  exact ⟨⟨room, said⟩, (frame_sent_back opened plain' (Utf8.size opened.text) le_rfl).1 rfl⟩

end Outbound
end ErrandHub
