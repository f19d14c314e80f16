/-
What becomes of an envelope that is sent to sessions.

A session that can take an envelope (`Session.accepts`) gets it at the end of its outbox; any other session drains.
`Session.receive` says so in one equation. A fan-out, in whatever order and however often its recipients are named,
comes to one `receive` for each of them (`session?_fanOut`) and to the withdrawal from the registry of those that
could not take the envelope (`registry_fanOut`); nobody else notices. An answer to one session is the same without
the withdrawal (`session?_reply`).
-/
import Mathlib.Tactic
import ErrandHub.Hub.Board
import ErrandHub.Proofs.Registry.Membership

namespace ErrandHub

/-! ## One session -/

namespace Session

/-- whether a session takes an envelope: it is open, somebody listens and the outbox has room -/
def accepts (s : Session) : Bool :=
  s.phase.isOpen && s.outbox.receiver = .listening && s.outbox.waiting.length < s.outbox.capacity

def enqueue (s : Session) (e : Outbound) : Session :=
  { s with outbox := { s.outbox with waiting := s.outbox.waiting ++ [e] } }

/-- what becomes of a session that is sent an envelope: it takes it, or drains -/
def receive (s : Session) (e : Outbound) : Session := if s.accepts then s.enqueue e else s.drain

theorem offer_of_accepts {s : Session} (e : Outbound) (h : s.accepts = true) :
    s.offer e = (s.enqueue e, .accepted) := by
  simp only [accepts, Bool.and_eq_true, decide_eq_true_eq] at h
  obtain ⟨⟨hopen, hlistening⟩, hroom⟩ := h
  simp [offer, Outbox.offer, enqueue, hopen, hlistening, Nat.not_le.2 hroom]

theorem offer_of_not_accepts {s : Session} (e : Outbound) (h : s.accepts = false) :
    (s.offer e).1 = s ∧ (s.offer e).2 ≠ .accepted := by
  unfold offer Outbox.offer
  by_cases hopen : s.phase.isOpen = true
  · by_cases hlistening : s.outbox.receiver = .listening
    · have hroom : s.outbox.capacity ≤ s.outbox.waiting.length := by
        simpa [accepts, hopen, hlistening] using h
      simp [hopen, hlistening, hroom]
    · simp [hopen, hlistening]
  · simp [hopen]

@[simp] theorem isOpen_drain (s : Session) : s.drain.phase.isOpen = false := by
  unfold drain
  split_ifs with h
  · rfl
  · simpa using h

@[simp] theorem drain_drain (s : Session) : s.drain.drain = s.drain := by
  rw [drain, isOpen_drain]
  rfl

@[simp] theorem outbox_drain (s : Session) : s.drain.outbox = s.outbox := by
  unfold drain
  split_ifs <;> rfl

/-- two states of a session of the same owner -/
structure SameOwner (s t : Session) : Prop where
  identity : t.identity = s.identity
  role : t.role = s.role

/-- two states of a session of the same owner, whose reader takes it to be in the same room -/
structure SameReader (s t : Session) : Prop extends SameOwner s t where
  currentRoom : t.currentRoom = s.currentRoom

theorem SameReader.refl (s : Session) : SameReader s s := ⟨⟨rfl, rfl⟩, rfl⟩

theorem SameOwner.trans {s t u : Session} (h1 : SameOwner s t) (h2 : SameOwner t u) : SameOwner s u :=
  ⟨h2.identity.trans h1.identity, h2.role.trans h1.role⟩

theorem SameReader.trans {s t u : Session} (h1 : SameReader s t) (h2 : SameReader t u) : SameReader s u :=
  ⟨h1.toSameOwner.trans h2.toSameOwner, h2.currentRoom.trans h1.currentRoom⟩

theorem sameReader_drain (s : Session) : SameReader s s.drain := by
  unfold drain
  split_ifs <;> exact ⟨⟨rfl, rfl⟩, rfl⟩

theorem sameReader_offer (s : Session) (e : Outbound) : SameReader s (s.offer e).1 := by
  unfold offer
  split_ifs <;> exact ⟨⟨rfl, rfl⟩, rfl⟩

theorem sameReader_receive (s : Session) (e : Outbound) : SameReader s (s.receive e) := by
  unfold receive
  split_ifs
  · exact ⟨⟨rfl, rfl⟩, rfl⟩
  · exact sameReader_drain s

theorem waiting_receive (s : Session) (e : Outbound) :
    (s.receive e).outbox.waiting = s.outbox.waiting ++ if s.accepts then [e] else [] := by
  unfold receive
  split_ifs
  · rfl
  · simp

theorem waiting_offer (s : Session) (e : Outbound) :
    (s.offer e).1.outbox.waiting = s.outbox.waiting ++ if s.accepts then [e] else [] := by
  cases h : s.accepts with
  | true => rw [offer_of_accepts e h]; rfl
  | false => rw [(offer_of_not_accepts e h).1]; simp

/-- what a session is right after it was tried in a fan-out: one that is full drains at once -/
def tried (s : Session) (e : Outbound) : Session :=
  if (s.offer e).2 = .full then (s.offer e).1.drain else (s.offer e).1

theorem tried_of_accepts {s : Session} (e : Outbound) (h : s.accepts = true) : s.tried e = s.enqueue e := by
  rw [tried, offer_of_accepts e h]
  rfl

theorem drain_tried {s : Session} (e : Outbound) (h : s.accepts = false) : (s.tried e).drain = s.drain := by
  rw [tried, (offer_of_not_accepts e h).1]
  split_ifs
  · exact s.drain_drain
  · rfl

end Session

/-! ## One session of a board -/

namespace Board

variable (b : Board) (e : Outbound)

/-- whether a session is there and takes an envelope -/
def accepts (id : SessionId) : Bool := (b.session? id).any Session.accepts

theorem session?_adjust (id j : SessionId) (f : Session → Session) :
    (b.adjust id f).session? j = if id = j then (b.session? j).map f else b.session? j :=
  Table.get?_adjust _ _ _ _

@[simp] theorem registry_adjust (id : SessionId) (f : Session → Session) : (b.adjust id f).registry = b.registry := rfl

@[simp] theorem running_adjust (id : SessionId) (f : Session → Session) : (b.adjust id f).running = b.running := rfl

theorem session?_drain (id j : SessionId) :
    (b.drain id).session? j = if id = j then (b.session? j).map Session.drain else b.session? j :=
  b.session?_adjust id j _

theorem session?_offer (id j : SessionId) :
    (b.offer id e).1.session? j = if id = j then (b.session? j).map fun s => (s.offer e).1 else b.session? j := by
  unfold offer
  split
  · rename_i h
    split_ifs with hj
    · subst hj
      rw [h]
      rfl
    · rfl
  · exact b.session?_adjust id j _

theorem registry_offer (id : SessionId) : (b.offer id e).1.registry = b.registry := by
  unfold offer
  split <;> rfl

theorem running_offer (id : SessionId) : (b.offer id e).1.running = b.running := by
  unfold offer
  split <;> rfl

theorem offer_eq_accepted_iff (id : SessionId) : (b.offer id e).2 = .accepted ↔ b.accepts id = true := by
  unfold offer accepts
  cases h : b.session? id with
  | none => simp
  | some s =>
    cases ha : s.accepts with
    | true => simp [Session.offer_of_accepts e ha, ha]
    | false => simp [(Session.offer_of_not_accepts e ha).2, ha]

theorem session?_reply (id j : SessionId) :
    (b.reply id e).session? j = if id = j then (b.session? j).map fun s => s.receive e else b.session? j := by
  have hd : b.reply id e = if b.accepts id then (b.offer id e).1 else (b.offer id e).1.drain id := by
    have hiff := b.offer_eq_accepted_iff e id
    unfold reply
    split
    · rename_i b' heq
      rw [heq] at hiff
      simp [hiff.1 rfl, heq]
    · rename_i b' d hne heq
      rw [heq] at hiff
      rw [heq, if_neg (fun h => hne (hiff.2 h))]
  rw [hd]
  split_ifs with ha hj hj
  · subst hj
    rw [session?_offer, if_pos rfl]
    cases h : b.session? id with
    | none => rfl
    | some s =>
      have hs : s.accepts = true := by simpa [accepts, h] using ha
      simp [Session.offer_of_accepts e hs, Session.receive, hs]
  · rw [session?_offer, if_neg hj]
  · subst hj
    rw [session?_drain, if_pos rfl, session?_offer, if_pos rfl]
    cases h : b.session? id with
    | none => rfl
    | some s =>
      have hs : s.accepts = false := by simpa [accepts, h] using ha
      simp [(Session.offer_of_not_accepts e hs).1, Session.receive, hs]
  · rw [session?_drain, if_neg hj, session?_offer, if_neg hj]

theorem registry_reply (id : SessionId) : (b.reply id e).registry = b.registry := by
  have h := b.registry_offer e id
  unfold reply
  split <;> simp_all [drain]

theorem session?_unregister (hr : b.running = true) (id j : SessionId) :
    (b.unregister id).1.session? j =
      if id = j ∧ b.registry.sessions.contains j = true then (b.session? j).map Session.drain else b.session? j := by
  have hsome := b.registry.isSome_unregister id
  unfold unregister
  rw [if_pos hr]
  split <;> rename_i h <;> rw [h] at hsome
  · have hnot : ¬(id = j ∧ b.registry.sessions.contains j = true) := by
      rintro ⟨rfl, hc⟩
      rw [hc] at hsome
      cases hsome
    rw [if_neg hnot]
    rfl
  · refine (session?_drain _ id j).trans ?_
    by_cases hj : id = j
    · have hc : b.registry.sessions.contains j = true := by
        rw [← hj, ← hsome]
        rfl
      rw [if_pos hj, if_pos ⟨hj, hc⟩]
      rfl
    · rw [if_neg hj, if_neg fun hc => hj hc.1]
      rfl

theorem registry_unregister (hr : b.running = true) (id : SessionId) :
    (b.unregister id).1.registry = (b.registry.unregister id).1 := by
  unfold unregister
  rw [if_pos hr]
  split <;> rename_i h <;> rw [h]
  rfl

theorem running_unregister (id : SessionId) : (b.unregister id).1.running = b.running := by
  unfold unregister
  split
  · split <;> rfl
  · rfl

/-! ## Many sessions of a board -/

def unregisterAll (ids : List SessionId) : Board := ids.foldl (fun b id => (b.unregister id).1) b

theorem running_unregisterAll (ids : List SessionId) : (b.unregisterAll ids).running = b.running := by
  induction ids generalizing b with
  | nil => rfl
  | cons id ids ih => exact (ih _).trans (b.running_unregister id)

theorem registry_unregisterAll (hr : b.running = true) (ids : List SessionId) :
    (b.unregisterAll ids).registry = b.registry.withdraw ids := by
  induction ids generalizing b with
  | nil => rfl
  | cons id ids ih =>
    have hr' : (b.unregister id).1.running = true := by rw [running_unregister, hr]
    rw [unregisterAll, List.foldl_cons]
    refine (ih _ hr').trans ?_
    rw [b.registry_unregister hr]
    rfl

theorem session?_unregisterAll (hr : b.running = true) (ids : List SessionId) (j : SessionId) :
    (b.unregisterAll ids).session? j =
      if j ∈ ids ∧ b.registry.sessions.contains j = true then (b.session? j).map Session.drain else b.session? j := by
  induction ids generalizing b with
  | nil => simp [unregisterAll]
  | cons id ids ih =>
    have hr' : (b.unregister id).1.running = true := by rw [running_unregister, hr]
    rw [unregisterAll, List.foldl_cons]
    refine (ih _ hr').trans ?_
    rw [b.session?_unregister hr, b.registry_unregister hr, Table.contains, (Registry.unregister_moves _ _).get?]
    by_cases hj : id = j
    · subst hj
      simp
    · simp [hj, Ne.symm hj, Table.contains]

theorem session?_offerTo (failed : List SessionId) (id j : SessionId) :
    (offerTo e (b, failed) id).1.session? j =
      if id = j then (b.session? j).map fun s => s.tried e else b.session? j := by
  -- the outcomes differ in whether the session is drained, and `tried` says that too
  have ho := b.session?_offer e id j
  unfold offerTo
  cases h : b.session? id with
  | none =>
    have hb : b.offer id e = (b, .closed) := by simp [offer, h]
    simp only [hb]
    split_ifs with hj
    · subst hj
      simp [h]
    · rfl
  | some s =>
    have hb : b.offer id e = ((b.offer id e).1, (s.offer e).2) := by simp [offer, h]
    rw [hb]
    cases hd : (s.offer e).2 with
    | accepted =>
      simp only [ho]
      split_ifs with hj
      · subst hj
        simp [h, Session.tried, hd]
      · rfl
    | full =>
      simp only [session?_drain, ho]
      split_ifs with hj
      · subst hj
        simp [h, Session.tried, hd]
      · rfl
    | closed =>
      simp only [ho]
      split_ifs with hj
      · subst hj
        simp [h, Session.tried, hd]
      · rfl

theorem registry_offerTo (failed : List SessionId) (id : SessionId) :
    (offerTo e (b, failed) id).1.registry = b.registry := by
  have h := b.registry_offer e id
  unfold offerTo
  split <;> simp_all [drain]

theorem running_offerTo (failed : List SessionId) (id : SessionId) :
    (offerTo e (b, failed) id).1.running = b.running := by
  have h := b.running_offer e id
  unfold offerTo
  split <;> simp_all [drain]

theorem failed_offerTo (failed : List SessionId) (id : SessionId) :
    (offerTo e (b, failed) id).2 = if b.accepts id then failed else id :: failed := by
  have h := b.offer_eq_accepted_iff e id
  unfold offerTo
  split <;> simp_all

theorem accepts_offerTo {id j : SessionId} (failed : List SessionId) (hj : id ≠ j) :
    (offerTo e (b, failed) id).1.accepts j = b.accepts j := by
  rw [accepts, session?_offerTo, if_neg hj, accepts]

/-- **Offering to many.** Each session is tried once, the registry stays as it is, and those that could not take the
envelope are noted, last one first. -/
theorem foldl_offerTo (targets failed : List SessionId) (hn : targets.Nodup) :
    (targets.foldl (offerTo e) (b, failed)).1.registry = b.registry ∧
    (targets.foldl (offerTo e) (b, failed)).1.running = b.running ∧
    (∀ j, (targets.foldl (offerTo e) (b, failed)).1.session? j =
      if j ∈ targets then (b.session? j).map fun s => s.tried e else b.session? j) ∧
    (targets.foldl (offerTo e) (b, failed)).2 = (targets.filter fun id => !b.accepts id).reverse ++ failed := by
  induction targets generalizing b failed with
  | nil => simp
  | cons id targets ih =>
    obtain ⟨hid, hn⟩ := List.nodup_cons.1 hn
    set b' := (offerTo e (b, failed) id).1 with hb'
    set failed' := (offerTo e (b, failed) id).2 with hf'
    obtain ⟨h1, h2, h3, h4⟩ := ih b' failed' hn
    rw [List.foldl_cons]
    refine ⟨h1.trans (b.registry_offerTo e failed id), h2.trans (b.running_offerTo e failed id), fun j => ?_, ?_⟩
    · refine (h3 j).trans ?_
      rw [hb', session?_offerTo]
      by_cases hj : id = j
      · subst hj
        simp [hid]
      · simp [hj, Ne.symm hj]
    · refine h4.trans ?_
      -- each recipient is offered the envelope once, so those still to come stand as they did before
      have hrest : (targets.filter fun j => !b'.accepts j) = targets.filter fun j => !b.accepts j := by
        refine List.filter_congr fun j hj => ?_
        rw [hb', accepts_offerTo b e failed (by rintro rfl; exact hid hj)]
      rw [hrest, hf', failed_offerTo, List.filter_cons]
      cases b.accepts id <;> simp

/-- the sessions that a fan-out tries, each once -/
def targets (recipients : List SessionId) (exclude : Option SessionId) : List SessionId :=
  (recipients.filter fun id => some id ≠ exclude).eraseDups

theorem mem_targets (recipients : List SessionId) (exclude : Option SessionId) (id : SessionId) :
    id ∈ targets recipients exclude ↔ id ∈ recipients ∧ some id ≠ exclude := by
  simp [targets]

theorem nodup_eraseDups (l : List SessionId) : l.eraseDups.Nodup := by
  induction hn : l.length using Nat.strong_induction_on generalizing l with
  | _ n ih =>
    cases l with
    | nil => simp
    | cons id l =>
      rw [List.eraseDups_cons]
      have hlen : (l.filter fun j => !j == id).length < n := by
        rw [← hn]
        exact Nat.lt_succ_of_le (List.length_filter_le _ _)
      refine List.nodup_cons.2 ⟨?_, ih _ hlen _ rfl⟩
      simp

theorem nodup_targets (recipients : List SessionId) (exclude : Option SessionId) :
    (targets recipients exclude).Nodup := nodup_eraseDups _

variable {b} {e}

theorem fanOut_eq (recipients : List SessionId) (exclude : Option SessionId) :
    b.fanOut recipients e exclude =
      let st := (targets recipients exclude).foldl (offerTo e) (b, [])
      (st.1.unregisterAll st.2.reverse,
        ⟨(targets recipients exclude).length - st.2.length, st.2.length⟩) := rfl

theorem registry_fanOut (hr : b.running = true) (recipients : List SessionId) (exclude : Option SessionId) :
    (b.fanOut recipients e exclude).1.registry =
      b.registry.withdraw ((targets recipients exclude).filter fun id => !b.accepts id) := by
  obtain ⟨h1, h2, -, h4⟩ := foldl_offerTo b e _ [] (nodup_targets recipients exclude)
  rw [fanOut_eq]
  simp only
  rw [registry_unregisterAll _ (h2.trans hr), h1, h4]
  simp

/-- **A fan-out is one delivery for each recipient.** Whatever the order and the repetitions of the recipients, each
of them, the excluded one aside, takes the envelope or drains, and no other session changes. -/
theorem session?_fanOut (hr : b.running = true) (recipients : List SessionId) (exclude : Option SessionId)
    (hreg : ∀ id ∈ recipients, b.registry.sessions.contains id = true) (j : SessionId) :
    (b.fanOut recipients e exclude).1.session? j =
      if j ∈ targets recipients exclude then (b.session? j).map fun s => s.receive e else b.session? j := by
  obtain ⟨h1, h2, h3, h4⟩ := foldl_offerTo b e _ [] (nodup_targets recipients exclude)
  rw [fanOut_eq]
  simp only
  rw [session?_unregisterAll _ (h2.trans hr), h1, h3, h4]
  by_cases hj : j ∈ targets recipients exclude
  · have hc := hreg j ((mem_targets _ _ _).1 hj).1
    cases hs : b.session? j with
    | none => simp [hj]
    | some s =>
      cases ha : s.accepts with
      | true => simp [hj, hc, accepts, hs, ha, Session.tried_of_accepts, Session.receive]
      | false => simp [hj, hc, accepts, hs, ha, Session.drain_tried, Session.receive]
  · simp [hj]

theorem report_fanOut (recipients : List SessionId) (exclude : Option SessionId) :
    (b.fanOut recipients e exclude).2 =
      ⟨((targets recipients exclude).filter fun id => b.accepts id).length,
        ((targets recipients exclude).filter fun id => !b.accepts id).length⟩ := by
  obtain ⟨-, -, -, h4⟩ := foldl_offerTo b e _ [] (nodup_targets recipients exclude)
  rw [fanOut_eq]
  simp only [h4, List.append_nil, List.length_reverse]
  have hlen := List.length_eq_length_filter_add (l := targets recipients exclude) b.accepts
  rw [Nat.sub_eq_of_eq_add hlen]

end Board
end ErrandHub
