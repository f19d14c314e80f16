/-
Finite tables.

A table gives at most one value to a key. It is a list of entries without a repeated key; the order of the
entries means nothing. The lemmas say what each operation does to `get?`.
-/
namespace ErrandHub

/-- a finite map from keys to values -/
structure Table (α β : Type) where
  entries : List (α × β) := []
  nodup : (entries.map Prod.fst).Nodup := by simp

namespace Table

variable {α β : Type} [DecidableEq α]

def empty : Table α β := {}

def keys (t : Table α β) : List α := t.entries.map Prod.fst

def values (t : Table α β) : List β := t.entries.map Prod.snd

def size (t : Table α β) : Nat := t.entries.length

def get? (t : Table α β) (k : α) : Option β := (t.entries.find? fun e => e.1 = k).map Prod.snd

/-- whether a key has a value -/
def contains (t : Table α β) (k : α) : Bool := (t.get? k).isSome

def erase (t : Table α β) (k : α) : Table α β where
  entries := t.entries.filter fun e => e.1 ≠ k
  nodup := ((List.filter_sublist).map Prod.fst).nodup t.nodup

/-- give a key a value, in place of one it has -/
def insert (t : Table α β) (k : α) (v : β) : Table α β where
  entries := (k, v) :: (t.erase k).entries
  nodup := by
    refine List.nodup_cons.2 ⟨?_, (t.erase k).nodup⟩
    simp [erase]

/-- change the value of a key that has one -/
def adjust (t : Table α β) (k : α) (f : β → β) : Table α β where
  entries := t.entries.map fun e => if e.1 = k then (e.1, f e.2) else e
  nodup := by
    have : (t.entries.map fun e => if e.1 = k then (e.1, f e.2) else e).map Prod.fst = t.entries.map Prod.fst := by
      rw [List.map_map]
      apply List.map_congr_left
      intro e _
      by_cases h : e.1 = k <;> simp [h]
    rw [this]
    exact t.nodup

theorem get?_eq_some_iff (t : Table α β) (k : α) (v : β) : t.get? k = some v ↔ (k, v) ∈ t.entries := by
  constructor
  · intro h
    obtain ⟨e, he, rfl⟩ := Option.map_eq_some_iff.1 h
    have hk : e.1 = k := by simpa using List.find?_some he
    exact hk ▸ List.mem_of_find?_eq_some he
  · intro h
    have hf : t.entries.find? (fun e => decide (e.1 = k)) = some (k, v) := by
      obtain ⟨l, r, hlr⟩ := List.append_of_mem h
      have hl : ∀ e ∈ l, e.1 ≠ k := by
        intro e he hek
        have hn := t.nodup
        rw [hlr, List.map_append, List.nodup_append] at hn
        exact hn.2.2 e.1 (List.mem_map_of_mem he) k (by simp) hek
      rw [hlr, List.find?_append, List.find?_eq_none.2 (by simpa using hl)]
      simp
    simp [get?, hf]

theorem mem_keys_iff (t : Table α β) (k : α) : k ∈ t.keys ↔ t.contains k = true := by
  simp only [keys, contains, Option.isSome_iff_exists, get?_eq_some_iff, List.mem_map]
  constructor
  · rintro ⟨e, he, rfl⟩
    exact ⟨e.2, he⟩
  · rintro ⟨v, hv⟩
    exact ⟨(k, v), hv, rfl⟩

@[simp] theorem get?_empty (k : α) : (empty : Table α β).get? k = none := rfl

@[simp] theorem get?_insert (t : Table α β) (k j : α) (v : β) :
    (t.insert k v).get? j = if k = j then some v else t.get? j := by
  by_cases h : k = j
  · simp [get?, insert, h]
  · simp only [get?, insert, erase, List.find?_cons, h, decide_false, List.find?_filter]
    congr 1
    congr 1
    funext e
    by_cases he : e.1 = j
    · subst he; simp [Ne.symm h]
    · simp [he]

@[simp] theorem get?_erase (t : Table α β) (k j : α) :
    (t.erase k).get? j = if k = j then none else t.get? j := by
  by_cases h : k = j
  · subst h
    simp [get?, erase]
  · simp only [get?, erase, List.find?_filter, h, if_false]
    congr 1
    congr 1
    funext e
    by_cases he : e.1 = j
    · subst he; simp [Ne.symm h]
    · simp [he]

@[simp] theorem get?_adjust (t : Table α β) (k j : α) (f : β → β) :
    (t.adjust k f).get? j = if k = j then (t.get? j).map f else t.get? j := by
  simp only [get?, adjust, List.find?_map]
  have hp : ((fun e : α × β => decide (e.1 = j)) ∘ fun e => if e.1 = k then (e.1, f e.2) else e)
      = fun e => decide (e.1 = j) := by
    funext e
    by_cases h : e.1 = k <;> simp [h]
  rw [hp]
  cases hf : t.entries.find? (fun e => decide (e.1 = j)) with
  | none => simp
  | some e =>
    have he : e.1 = j := by simpa using List.find?_some hf
    by_cases h : k = j
    · simp [he, h]
    · simp [he, h, Ne.symm h]

theorem adjust_eq_self {t : Table α β} {k : α} {v : β} (h : t.get? k = some v) : t.adjust k (fun _ => v) = t := by
  have hentry : ∀ e ∈ t.entries, (if e.1 = k then (e.1, v) else e) = e := by
    intro e he
    by_cases hk : e.1 = k
    · have hv := h.symm.trans ((t.get?_eq_some_iff k e.2).2 (hk ▸ he))
      rw [if_pos hk, Option.some.inj hv]
    · rw [if_neg hk]
  have hentries : t.entries.map (fun e => if e.1 = k then (e.1, v) else e) = t.entries :=
    (List.map_congr_left hentry).trans (List.map_id _)
  cases t
  simp only [adjust, hentries]

end Table
end ErrandHub
