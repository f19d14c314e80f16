/-
The events of a run of a hub.

An `Event` is one action of a run, with the hub before and after it and with what it reports. What a run did is read off
its events, one after another.
-/
import ErrandHub.Hub.Run

namespace ErrandHub.Hub

variable {σ : Type}

structure Event (σ : Type) where
  before : Hub σ
  action : Action
  report : Report
  after : Hub σ

def event (p : Policy σ) (h : Hub σ) (a : Action) : Event σ := ⟨h, a, (h.step p a).2, (h.step p a).1⟩

/-- the events of a run, first one first -/
def history (p : Policy σ) (h : Hub σ) : List Action → List (Event σ)
  | [] => []
  | a :: actions => h.event p a :: history p (h.step p a).1 actions

/-- an event of a run is one action of it, performed in a state of which holds whatever all actions of the run keep -/
theorem of_mem_history {p : Policy σ} {h : Hub σ} {actions : List Action} {Inv : Hub σ → Prop} (hh : Inv h)
    (hstep : ∀ g, ∀ a ∈ actions, Inv g → Inv (g.step p a).1) {e : Event σ} (he : e ∈ history p h actions) :
    ∃ g, ∃ a ∈ actions, Inv g ∧ e = g.event p a := by
  induction actions generalizing h with
  | nil => cases he
  | cons a actions ih =>
    rcases List.mem_cons.1 he with he | he
    · exact ⟨h, a, List.mem_cons_self, hh, he⟩
    · have hnext := hstep h a List.mem_cons_self hh
      obtain ⟨g, b, hb, hg, hevent⟩ := ih hnext (fun g b hb => hstep g b (List.mem_cons_of_mem a hb)) he
      exact ⟨g, b, List.mem_cons_of_mem a hb, hg, hevent⟩

/-- the events of a run up to some place are those of a run, and those from there on the events of what is left of it -/
theorem history_eq_append {p : Policy σ} {h : Hub σ} {actions : List Action} {first rest : List (Event σ)}
    (hsplit : history p h actions = first ++ rest) : ∃ before later, actions = before ++ later ∧
      first = history p h before ∧ rest = history p (run p h before) later := by
  induction first generalizing h actions with
  | nil => exact ⟨[], actions, rfl, rfl, hsplit.symm⟩
  | cons e first ih =>
    cases actions with
    | nil => cases hsplit
    | cons a actions =>
      obtain ⟨rfl, htail⟩ := List.cons.inj hsplit
      obtain ⟨before, later, rfl, rfl, rfl⟩ := ih htail
      exact ⟨a :: before, later, rfl, rfl, rfl⟩

/-- the first event of a run is its first action, and the others are the events of what is left of it -/
theorem history_eq_cons {p : Policy σ} {h : Hub σ} {actions : List Action} {e : Event σ} {rest : List (Event σ)}
    (hsplit : history p h actions = e :: rest) : ∃ a later, actions = a :: later ∧ e = h.event p a ∧
      rest = history p (h.step p a).1 later := by
  cases actions with
  | nil => cases hsplit
  | cons a later =>
    obtain ⟨rfl, rfl⟩ := List.cons.inj hsplit
    exact ⟨a, later, rfl, rfl, rfl⟩

end ErrandHub.Hub
