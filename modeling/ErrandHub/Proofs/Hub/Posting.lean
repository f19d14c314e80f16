/-
Envelopes that are sent one after another, and what comes of them.

A `Post` is an envelope on its way, to one session or to an audience. `session?_post` and `registry_post` say what one
post does to a session and to the registry.

- `postings`: the envelopes that go into outboxes, each with the registry that its recipients were read from.
  `session?_posts` says that these, and no others, come to the outboxes, in this order.
- `Board.Sound`: the registry is consistent and knows its sessions. Posts keep it (`Sound.post`).
-/
import Mathlib.Tactic
import ErrandHub.Proofs.Hub.Delivery

namespace ErrandHub

/-! ## Audiences -/

namespace Audience

/-- the places of the sessions of an audience -/
def places : Audience → List Place
  | .room q => [.room q]
  | .listeners role => [.listeners role]
  | .roomAndListeners q role => [.room q, .listeners role]

theorem mem_recipients_iff {r : Registry} (h : r.Consistent) (a : Audience) (id : SessionId) :
    id ∈ a.recipients r ↔ ∃ place ∈ a.places, r.placeOf? id = some place := by
  cases a <;> simp [recipients, recipientsAcross, places, h.mem_members_iff, Registry.mem_listeners_iff]

theorem contains_of_mem_recipients {r : Registry} (h : r.Consistent) (a : Audience) (id : SessionId)
    (hid : id ∈ a.recipients r) : r.sessions.contains id = true := by
  obtain ⟨place, -, hp⟩ := (a.mem_recipients_iff h id).1 hid
  obtain ⟨e, he, -⟩ := Option.map_eq_some_iff.1 hp
  simp [Table.contains, he]

end Audience

/-! ## Posts -/

/-- an envelope on its way -/
inductive Post where
  /-- offered to one session, whatever comes of it -/
  | offer (id : SessionId) (e : Outbound)
  /-- the answer to one session -/
  | reply (id : SessionId) (e : Outbound)
  /-- sent to an audience, one session aside -/
  | route (audience : Audience) (e : Outbound) (exclude : Option SessionId)

namespace Post

def envelope : Post → Outbound
  | .offer _ e | .reply _ e | .route _ e _ => e

/-- the sessions that a post is for, each once -/
def targets (b : Board) : Post → List SessionId
  | .offer id _ | .reply id _ => [id]
  | .route audience _ exclude => if b.running then Board.targets (audience.recipients b.registry) exclude else []

/-- what becomes of a session that a post is for -/
def receive : Post → Session → Session
  | .offer _ e, s => (s.offer e).1
  | .reply _ e, s | .route _ e _, s => s.receive e

/-- the sessions that are withdrawn from the registry on account of a post -/
def withdrawn (b : Board) : Post → List SessionId
  | .offer .. | .reply .. => []
  | .route audience e exclude => (targets b (.route audience e exclude)).filter fun id => !b.accepts id

theorem nodup_targets (b : Board) (q : Post) : (q.targets b).Nodup := by
  cases q with
  | offer id e => simp [targets]
  | reply id e => simp [targets]
  | route audience e exclude =>
    simp only [targets]
    split_ifs
    · exact Board.nodup_targets _ _
    · exact List.nodup_nil

theorem sameReader_receive (q : Post) (s : Session) : s.SameReader (q.receive s) := by
  cases q with
  | offer id e => exact s.sameReader_offer e
  | reply id e => exact s.sameReader_receive e
  | route audience e exclude => exact s.sameReader_receive e

theorem waiting_receive (q : Post) (s : Session) :
    (q.receive s).outbox.waiting = s.outbox.waiting ++ if s.accepts then [q.envelope] else [] := by
  cases q with
  | offer id e => exact s.waiting_offer e
  | reply id e => exact s.waiting_receive e
  | route audience e exclude => exact s.waiting_receive e

end Post

/-- an envelope that went into an outbox, and the registry at the time its recipients were read -/
structure Posting where
  registry : Registry
  recipient : SessionId
  envelope : Outbound

namespace Board

def post (b : Board) : Post → Board
  | .offer id e => (b.offer id e).1
  | .reply id e => b.reply id e
  | .route audience e exclude => (b.routeTo audience e exclude).1

def posts (b : Board) (qs : List Post) : Board := qs.foldl post b

/-- the envelopes that go into outboxes when envelopes are sent one after another -/
def postings (b : Board) : List Post → List Posting
  | [] => []
  | q :: qs =>
    ((q.targets b).filter fun id => b.accepts id).map (fun id => ⟨b.registry, id, q.envelope⟩)
      ++ (b.post q).postings qs

/-- the registry is consistent, and each of its entries stands in a relation to the session that it is of -/
structure Sound (Rel : Session → Entry → Prop) (b : Board) : Prop where
  consistent : b.registry.Consistent
  known : ∀ id entry, b.registry.sessions.get? id = some entry → ∃ s, b.session? id = some s ∧ Rel s entry

variable {b : Board} {Rel : Session → Entry → Prop}

theorem session?_post (h : b.registry.Consistent) (q : Post) (j : SessionId) :
    (b.post q).session? j = if j ∈ q.targets b then (b.session? j).map q.receive else b.session? j := by
  cases q with
  | offer id e =>
    simp only [post, Post.targets, session?_offer, List.mem_singleton, eq_comm]
    rfl
  | reply id e =>
    simp only [post, Post.targets, session?_reply, List.mem_singleton, eq_comm]
    rfl
  | route audience e exclude =>
    by_cases hr : b.running = true
    · have ht : Post.targets b (.route audience e exclude) = targets (audience.recipients b.registry) exclude :=
        if_pos hr
      simp only [post, routeTo, hr, ht, if_true]
      exact session?_fanOut hr _ exclude (audience.contains_of_mem_recipients h) j
    · have ht : Post.targets b (.route audience e exclude) = [] := if_neg hr
      simp [post, routeTo, hr, ht]

theorem registry_post (q : Post) : (b.post q).registry = b.registry.withdraw (q.withdrawn b) := by
  cases q with
  | offer id e => exact b.registry_offer e id
  | reply id e => exact b.registry_reply e id
  | route audience e exclude =>
    simp only [post, routeTo, Post.withdrawn, Post.targets]
    split_ifs with hr
    · exact registry_fanOut hr _ exclude
    · rfl

theorem get?_post {q : Post} {id : SessionId} {entry : Entry}
    (h : (b.post q).registry.sessions.get? id = some entry) : b.registry.sessions.get? id = some entry := by
  rw [registry_post, Registry.get?_withdraw] at h
  split_ifs at h
  exact h

theorem session?_post_sameReader (h : b.registry.Consistent) (q : Post) {j : SessionId} {s : Session}
    (hs : b.session? j = some s) : ∃ s', (b.post q).session? j = some s' ∧ s.SameReader s' := by
  rw [session?_post h, hs]
  split_ifs
  · exact ⟨_, rfl, q.sameReader_receive s⟩
  · exact ⟨s, rfl, .refl s⟩

theorem consistent_post (h : b.registry.Consistent) (q : Post) : (b.post q).registry.Consistent := by
  rw [registry_post]
  exact Registry.run_consistent _ _ h

theorem consistent_posts (h : b.registry.Consistent) (qs : List Post) : (b.posts qs).registry.Consistent := by
  induction qs generalizing b with
  | nil => exact h
  | cons q qs ih => exact ih (consistent_post h q)

theorem Sound.post (h : b.Sound Rel) (hrel : ∀ s t entry, s.SameReader t → Rel s entry → Rel t entry) (q : Post) :
    (b.post q).Sound Rel := by
  refine ⟨consistent_post h.consistent q, fun id entry he => ?_⟩
  obtain ⟨s, hs, hse⟩ := h.known id entry (get?_post he)
  obtain ⟨s', hs', ho⟩ := session?_post_sameReader h.consistent q hs
  exact ⟨s', hs', hrel s s' entry ho hse⟩

theorem waiting_post (h : b.registry.Consistent) (q : Post) {j : SessionId} {s : Session}
    (hs : b.session? j = some s) : ∃ s', (b.post q).session? j = some s' ∧ s.SameReader s' ∧
      s'.outbox.waiting = s.outbox.waiting ++ if j ∈ q.targets b ∧ b.accepts j = true then [q.envelope] else [] := by
  have ha : b.accepts j = s.accepts := by simp [accepts, hs]
  rw [session?_post h, hs, ha]
  by_cases hj : j ∈ q.targets b
  · refine ⟨q.receive s, by simp [hj], q.sameReader_receive s, ?_⟩
    rw [q.waiting_receive]
    simp [hj]
  · exact ⟨s, by simp [hj], .refl s, by simp [hj]⟩

/-- the envelopes of one post that go to one session: one, or none -/
theorem filter_postings (q : Post) (j : SessionId) :
    (((q.targets b).filter fun id => b.accepts id).filter fun id => id = j) =
      if j ∈ q.targets b ∧ b.accepts j = true then [j] else [] := by
  have hn : ((q.targets b).filter fun id => b.accepts id).Nodup := (q.nodup_targets b).filter _
  rw [List.filter_eq, hn.count]
  simp only [List.mem_filter]
  split_ifs <;> rfl

/-- **What comes to the outboxes.** Sending envelopes appends to the outbox of a session exactly the postings to it,
in order, and leaves its owner and its reader's room as they are. -/
theorem session?_posts (h : b.registry.Consistent) (qs : List Post) {j : SessionId} {s : Session}
    (hs : b.session? j = some s) : ∃ s', (b.posts qs).session? j = some s' ∧ s.SameReader s' ∧
      s'.outbox.waiting =
        s.outbox.waiting ++ ((b.postings qs).filter fun d => d.recipient = j).map Posting.envelope := by
  induction qs generalizing b s with
  | nil => exact ⟨s, hs, .refl s, by simp [postings]⟩
  | cons q qs ih =>
    obtain ⟨s₁, hs₁, ho₁, hw₁⟩ := waiting_post h q hs
    obtain ⟨s₂, hs₂, ho₂, hw₂⟩ := ih (consistent_post h q) hs₁
    refine ⟨s₂, hs₂, ho₁.trans ho₂, ?_⟩
    rw [hw₂, hw₁, postings, List.filter_append, List.map_append, List.append_assoc, List.filter_map, List.map_map]
    congr 1
    congr 1
    have hf := filter_postings (b := b) q j
    simp only [Function.comp_def, hf]
    split_ifs <;> rfl

theorem session?_posts_of_none (h : b.registry.Consistent) (qs : List Post) {id : SessionId}
    (hid : b.session? id = none) : (b.posts qs).session? id = none := by
  induction qs generalizing b with
  | nil => exact hid
  | cons q qs ih =>
    refine ih (consistent_post h q) ?_
    rw [session?_post h, hid]
    split_ifs <;> rfl

end Board
end ErrandHub
