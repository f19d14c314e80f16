/-
In which order sessions come to the registry does not matter to them.

The operations of many sessions reach the registry interleaved, and share rooms that come and go on the way. What an
operation makes of its session, and what it reports of it, depends on the entry of that session alone
(`Command.entry`, `own_report`), so a run is, session by session, the run of the operations of that session
(`get?_run`, `ownTranscript_run`). The table of rooms follows from the entries.

- `Interleaves`: the operations of a run are those that each session sends, in the order in which it sends them.
- `interleavings_agree`: any two interleavings leave the same tables, and tell every session the same, but for which
  session finds a room empty.
-/
import Mathlib.Tactic
import ErrandHub.Proofs.Registry.Operation

namespace ErrandHub.Registry

/-! ## One session of a run -/

/-- what an operation reports of its session: all but whether a room has got its first member or lost its last -/
def Report.own : Report → Report
  | .registered report => .registered { report with roomCreated := false }
  | .unregistered report => .unregistered (report.map fun removed => { removed with roomPruned := false })
  | .joined report => .joined (report.map fun joined => { joined with roomCreated := false })
  | .left report => .left report

/-- what an operation reports of its session does not depend on who else is in the rooms -/
theorem own_report (c : Command) (before : Option Entry) (shared shared' : RoomId → Bool) :
    (c.report before shared).own = (c.report before shared').own := by
  cases c with
  | register id e => cases before <;> rfl
  | unregister id => cases before <;> rfl
  | join id q =>
    cases before with
    | none => rfl
    | some e =>
      simp only [Command.report]
      split_ifs <;> rfl
  | leave id => cases before <;> rfl

/-- what a session that sends these operations is told, by the entry that it has before them -/
def told (before : Option Entry) : List Command → List (Command × Report)
  | [] => []
  | c :: commands => (c, (c.report before fun _ => false).own) :: told (c.entry before) commands

/-- the operations of a session in a run, each with what it reports of the session -/
def ownTranscript (r : Registry) (id : SessionId) (commands : List Command) : List (Command × Report) :=
  ((r.transcript commands).filter fun x => x.1.session = id).map fun x => (x.1, x.2.own)

theorem get?_run (r : Registry) (commands : List Command) (id : SessionId) : (r.run commands).sessions.get? id =
    (commands.filter fun c => c.session = id).foldl (fun e c => c.entry e) (r.sessions.get? id) := by
  induction commands generalizing r with
  | nil => rfl
  | cons c commands ih =>
    rw [run_cons, ih, get?_step]
    by_cases hid : c.session = id
    · simp [hid]
    · simp [hid]

/-- a run tells a session what the operations of that session alone would -/
theorem ownTranscript_run {r : Registry} (h : Consistent r) (id : SessionId) (commands : List Command) :
    r.ownTranscript id commands = told (r.sessions.get? id) (commands.filter fun c => c.session = id) := by
  induction commands generalizing r with
  | nil => rfl
  | cons c commands ih =>
    have hrest := ih (step_consistent r c h)
    rw [get?_step] at hrest
    by_cases hid : c.session = id
    · rw [if_pos hid] at hrest
      have hown := own_report c (r.sessions.get? id) (r.sharedWith id) fun _ => false
      subst hid
      rw [ownTranscript, transcript, List.filter_cons_of_pos (by simp), List.map_cons,
        List.filter_cons_of_pos (by simp), told, report_step h, hown]
      exact congrArg _ hrest
    · rw [if_neg hid] at hrest
      rw [ownTranscript, transcript, List.filter_cons_of_neg (by simpa using hid),
        List.filter_cons_of_neg (by simpa using hid)]
      exact hrest

/-! ## Two runs -/

/-- the operations of a run are, session by session, those of the family, in their order -/
def Interleaves (family : SessionId → List Command) (commands : List Command) : Prop :=
  ∀ id, (commands.filter fun c => c.session = id) = family id

/-- two registries with the same entries and the same rooms with the same members -/
structure SameTables (r r' : Registry) : Prop where
  sessions : ∀ id, r.sessions.get? id = r'.sessions.get? id
  rooms : ∀ q, r.rooms.contains q = r'.rooms.contains q
  members : ∀ q id, id ∈ roster r.rooms q ↔ id ∈ roster r'.rooms q

/-- the entries of the sessions decide on the rooms -/
theorem Consistent.sameTables {r r' : Registry} (h : Consistent r) (h' : Consistent r')
    (hsessions : ∀ id, r.sessions.get? id = r'.sessions.get? id) : SameTables r r' := by
  have hroom : ∀ id, r.roomOf id = r'.roomOf id := by
    intro id
    rw [roomOf, roomOf, hsessions]
  refine ⟨hsessions, fun q => ?_, fun q id => ?_⟩
  · rw [Bool.eq_iff_iff, h.contains_room_iff, h'.contains_room_iff]
    simp only [hroom]
  · rw [h.mem_roster_iff, h'.mem_roster_iff, hroom]

/-- **Interleavings agree.** Whatever operations each session sends, in a consistent state, any two ways to interleave
them lead to the same sessions and the same rooms with the same members, and each operation reports the same, but for
whether a room was created or pruned. -/
theorem interleavings_agree (r : Registry) (h : Consistent r) (family : SessionId → List Command)
    (one other : List Command) (hone : Interleaves family one) (hother : Interleaves family other) :
    SameTables (r.run one) (r.run other) ∧ ∀ id, r.ownTranscript id one = r.ownTranscript id other := by
  have hfilter : ∀ id, (one.filter fun c => c.session = id) = other.filter fun c => c.session = id := by
    intro id
    rw [hone id, hother id]
  refine ⟨(run_consistent r one h).sameTables (run_consistent r other h) fun id => ?_, fun id => ?_⟩
  · rw [get?_run, get?_run, hfilter]
  · rw [ownTranscript_run h, ownTranscript_run h, hfilter]

/-- bob comes and goes while ann is in his room, or before she comes, when he finds it empty and empties it again -/
theorem interleavings_agree_visitor :
    let q := RoomId.ofNat 7
    let ann : SessionId := ⟨"ann"⟩
    let bob : SessionId := ⟨"bob"⟩
    let visitor : Entry := ⟨⟨"bob"⟩, .staff, some q⟩
    let arrival : List Command := [.register ann ⟨⟨"ann"⟩, .customer, none⟩, .join ann q]
    let visit : List Command := [.register bob visitor, .unregister bob]
    let again : List Command := [.leave ann, .join ann q]
    let one := arrival ++ visit ++ again
    let other := visit ++ arrival ++ again
    let family := fun id => one.filter fun c => c.session = id
    (Consistent {} ∧ Interleaves family one ∧ Interleaves family other) ∧
      (SameTables (run {} one) (run {} other) ∧ ∀ id, ownTranscript {} id one = ownTranscript {} id other) ∧
      (register (run {} arrival) bob visitor).2.roomCreated = false ∧ (register {} bob visitor).2.roomCreated = true := by
  intro q ann bob visitor arrival visit again one other family
  have hone : Interleaves family one := fun _ => rfl
  have hother : Interleaves family other := by
    intro id
    by_cases hann : ann = id
    · subst hann
      decide +kernel
    · by_cases hbob : bob = id
      · subst hbob
        decide +kernel
      · simp [family, one, other, arrival, visit, again, Command.session, hann, hbob]
  exact ⟨⟨consistent_empty, hone, hother⟩,
    interleavings_agree {} consistent_empty family one other hone hother, by decide +kernel⟩

end ErrandHub.Registry
