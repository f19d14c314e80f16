/-
What text frames of clients say.

A frame that is written as a record (`Inbound.Spells`) says a type, a room, a message and data, and no two of any.

- `decode_of_spells`, `decode_of_not_spells`: what decoding does with a frame that is short enough, whether it is a record
  or not; `decode_congr`: it looks at nothing but what the frame says.
- `decode_cases`: what decoding does with any frame.
-/
import ErrandHub.Envelope.Inbound
import ErrandHub.Proofs.Json.Value

namespace ErrandHub

/-! ## What a frame says -/

namespace Inbound

/-- a text frame is written as a record of this type with this room, message and data -/
def Spells (frame type : String) (room : Option Json) (message : Option String) (data : Option Json) : Prop :=
  ∃ tree fields, Json.Tree.ofText? frame = some tree ∧ tree.fields? fieldNames = some fields ∧
    Json.Tree.required fields "type" Json.Tree.text? = some type ∧
    Json.Tree.optional fields "room" (Json.Tree.toJson? Json.Tree.levelsInRecord) = some room ∧
    Json.Tree.optional fields "message" Json.Tree.text? = some message ∧
    Json.Tree.optional fields "data" (Json.Tree.toJson? Json.Tree.levelsInRecord) = some data

theorem Spells.unique {frame type type' : String} {room room' data data' : Option Json}
    {message message' : Option String} (h : Spells frame type room message data)
    (h' : Spells frame type' room' message' data') :
    type = type' ∧ room = room' ∧ message = message' ∧ data = data' := by
  obtain ⟨tree, fields, htree, hfields, htype, hroom, hmessage, hdata⟩ := h
  obtain ⟨tree', fields', htree', hfields', htype', hroom', hmessage', hdata'⟩ := h'
  obtain rfl : tree = tree' := Option.some_inj.1 (htree.symm.trans htree')
  obtain rfl : fields = fields' := Option.some_inj.1 (hfields.symm.trans hfields')
  exact ⟨Option.some_inj.1 (htype.symm.trans htype'), Option.some_inj.1 (hroom.symm.trans hroom'),
    Option.some_inj.1 (hmessage.symm.trans hmessage'), Option.some_inj.1 (hdata.symm.trans hdata')⟩

theorem ofTree?_of_spells {frame type : String} {room data : Option Json} {message : Option String}
    (h : Spells frame type room message data) : (Json.Tree.ofText? frame).bind ofTree? =
      match Kind.parse? type with
      | some kind => some (if kind.fromClient then .envelope ⟨kind, room, message, data⟩ else .unknown type)
      | none => some (.unknown type) := by
  obtain ⟨tree, fields, htree, hfields, htype, hroom, hmessage, hdata⟩ := h
  rw [htree, Option.bind_some]
  simp only [ofTree?, hfields, htype, hroom, hmessage, hdata, Option.bind_eq_bind, Option.bind_some]
  cases Kind.parse? type <;> rfl

theorem decode_of_spells {limit : Nat} {frame type : String} {room data : Option Json} {message : Option String}
    (fits : Utf8.size frame ≤ limit) (h : Spells frame type room message data) : decode limit frame =
      match Kind.parse? type with
      | some kind => .ok (if kind.fromClient then .envelope ⟨kind, room, message, data⟩ else .unknown type)
      | none => .ok (.unknown type) := by
  simp only [decode, if_neg (Nat.not_lt.2 fits), ofTree?_of_spells h]
  cases Kind.parse? type <;> rfl

theorem spells_of_ofTree? {frame : String} {d : Decoded} (h : (Json.Tree.ofText? frame).bind ofTree? = some d) :
    ∃ type room message data, Spells frame type room message data := by
  obtain ⟨tree, htree, hread⟩ := Option.bind_eq_some_iff.1 h
  simp only [ofTree?, Option.bind_eq_bind, Option.bind_eq_some_iff] at hread
  obtain ⟨fields, hfields, type, htype, room, hroom, message, hmessage, data, hdata, -⟩ := hread
  exact ⟨type, room, message, data, tree, fields, htree, hfields, htype, hroom, hmessage, hdata⟩

theorem decode_of_ofText? {limit : Nat} {frame : String} {t : Json.Tree} (fits : Utf8.size frame ≤ limit)
    (h : Json.Tree.ofText? frame = some t) : decode limit frame = (ofTree? t).elim (.error .malformed) .ok := by
  simp only [decode, if_neg (Nat.not_lt.2 fits), h, Option.bind_some]
  cases ofTree? t <;> rfl

theorem decode_of_not_spells {limit : Nat} {frame : String} (fits : Utf8.size frame ≤ limit)
    (h : ∀ type room message data, ¬Spells frame type room message data) :
    decode limit frame = .error .malformed := by
  have unread : (Json.Tree.ofText? frame).bind ofTree? = none := by
    cases read : (Json.Tree.ofText? frame).bind ofTree? with
    | none => rfl
    | some d =>
      obtain ⟨type, room, message, data, hs⟩ := spells_of_ofTree? read
      exact absurd hs (h type room message data)
  simp only [decode, if_neg (Nat.not_lt.2 fits), unread]

/-- frames that are short enough and say the same are decoded alike -/
theorem decode_congr {limit : Nat} {a b : String} (fits : Utf8.size a ≤ limit) (fits' : Utf8.size b ≤ limit)
    (same : ∀ type room message data, Spells a type room message data ↔ Spells b type room message data) :
    decode limit a = decode limit b := by
  by_cases h : ∃ type room message data, Spells a type room message data
  · obtain ⟨type, room, message, data, hs⟩ := h
    rw [decode_of_spells fits hs, decode_of_spells fits' ((same type room message data).1 hs)]
  · simp only [not_exists] at h
    have h' (type room message data) : ¬Spells b type room message data := mt (same type room message data).2 (h _ _ _ _)
    rw [decode_of_not_spells fits h, decode_of_not_spells fits' h']

/-- **What decoding does**: a frame is too long, or no record, or of a type that clients do not send, or it brings an
envelope. -/
theorem decode_cases (limit : Nat) (frame : String) :
    (limit < Utf8.size frame ∧ ∃ reason, decode limit frame = .error reason) ∨
    ((∀ type room message data, ¬Spells frame type room message data) ∧
      ∃ reason, decode limit frame = .error reason) ∨
    (∃ type room message data, Spells frame type room message data ∧
      (Kind.parse? type = none ∨ Kind.parse? type = some .roomOpened) ∧ decode limit frame = .ok (.unknown type)) ∨
    (∃ type e, Utf8.size frame ≤ limit ∧ Spells frame type e.room e.message e.data ∧
      Kind.parse? type = some e.kind ∧ e.kind ≠ .roomOpened ∧ decode limit frame = .ok (.envelope e)) := by
  by_cases long : limit < Utf8.size frame
  · exact .inl ⟨long, .tooLarge (Utf8.size frame) limit, by simp only [decode, if_pos long]⟩
  have fits : Utf8.size frame ≤ limit := Nat.le_of_not_lt long
  right
  by_cases hspells : ∃ type room message data, Spells frame type room message data
  · right
    obtain ⟨type, room, message, data, hs⟩ := hspells
    have said := decode_of_spells fits hs
    cases hkind : Kind.parse? type with
    | none =>
      rw [hkind] at said
      exact .inl ⟨type, room, message, data, hs, .inl hkind, said⟩
    | some kind =>
      rw [hkind] at said
      by_cases hopened : kind = .roomOpened
      · subst hopened
        exact .inl ⟨type, room, message, data, hs, .inr hkind, said⟩
      · have hclient : kind.fromClient = true := by simpa [Kind.fromClient] using hopened
        simp only [hclient, if_true] at said
        exact .inr ⟨type, ⟨kind, room, message, data⟩, fits, hs, hkind, hopened, said⟩
  · left
    simp only [not_exists] at hspells
    exact ⟨hspells, _, decode_of_not_spells fits hspells⟩

theorem spells_of_decode {limit : Nat} {frame : String} {e : Inbound}
    (h : decode limit frame = .ok (.envelope e)) :
    ∃ type, Spells frame type e.room e.message e.data ∧ Kind.parse? type = some e.kind := by
  rcases decode_cases limit frame with
    ⟨-, reason, he⟩ | ⟨-, reason, he⟩ | ⟨type, room, message, data, -, -, he⟩ | ⟨type, e', -, hspells, htype, -, he⟩ <;>
      rw [h] at he <;> cases he
  exact ⟨type, hspells, htype⟩

/-- no frame brings an envelope that says that a room was opened -/
theorem kind_ne_roomOpened {limit : Nat} {frame : String} {e : Inbound}
    (h : decode limit frame = .ok (.envelope e)) : e.kind ≠ .roomOpened := by
  rcases decode_cases limit frame with
    ⟨-, reason, he⟩ | ⟨-, reason, he⟩ | ⟨type, room, message, data, -, -, he⟩ | ⟨type, e', -, -, -, hkind, he⟩ <;>
      rw [h] at he <;> cases he
  exact hkind

theorem size_le_of_decode {limit : Nat} {frame : String} {e : Inbound}
    (h : decode limit frame = .ok (.envelope e)) : Utf8.size frame ≤ limit := by
  by_contra long
  rw [decode, if_pos (Nat.lt_of_not_le long)] at h
  cases h

end Inbound
end ErrandHub
