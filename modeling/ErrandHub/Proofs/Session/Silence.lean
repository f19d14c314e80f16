/-
How long a session may be silent.

A session reads once after another. A read brings a frame, or is given up when it is due. So many reads in a row that are
given up end the patience of the session, and it is drained.

- `Connection.Waits`: a connection has heard its client at a time, and so many reads have been given up since.
- `waits_of_handle`, `expireRead_of_reader`: what one read comes to, with a frame and without.
- `reader?_reads`: what is known of a session that still reads, by induction on what it has read.
- `waits_connect`, `receive_eq_read`: how reads come about in a service.
- `given_up_after_silence`: when a session is given up for its silence, and how long that silence was.
-/
import Mathlib.Tactic
import ErrandHub.Hub.Service
import ErrandHub.Proofs.Hub.Delivery
import ErrandHub.Proofs.Session.Patience
import ErrandHub.Store.Memory

namespace ErrandHub

/-! ## Reads -/

/-- what a session reads: a frame that comes at some time, or nothing until the read is given up -/
inductive Reading where
  | heard (now : Nat) (f : ClientFrame)
  | nothing

namespace Reading

def outcome : Reading → ReadOutcome
  | .heard .. => .frame
  | .nothing => .expired

/-- when the client was heard -/
def time? : Reading → Option Nat
  | .heard now _ => some now
  | .nothing => none

/-- when the client was heard last, if it was heard at a time before these reads -/
def lastHeard (start : Nat) (readings : List Reading) : Nat :=
  readings.foldl (fun last r => r.time?.getD last) start

theorem lastHeard_concat (start : Nat) (readings : List Reading) (r : Reading) :
    lastHeard start (readings ++ [r]) = r.time?.getD (lastHeard start readings) := by
  simp [lastHeard]

end Reading

namespace Connection

/-- a connection has heard its client at a time, and so many reads have been given up since -/
structure Waits (s : SessionSettings) (c : Connection) (since expiries : Nat) : Prop where
  missed : c.missed = expiries
  due : c.readDue = since + (expiries + 1) * s.readDeadline.nanos

variable {s : SessionSettings} {c : Connection} {since expiries : Nat}

theorem waits_opened (s : SessionSettings) (now : Nat) (client : Client) :
    (opened s now client).Waits s now 0 := ⟨rfl, by simp [opened]⟩

theorem waits_hear (s : SessionSettings) (now : Nat) (c : Connection) : (c.hear s now).Waits s now 0 :=
  ⟨rfl, by simp [hear]⟩

theorem Waits.emit (h : c.Waits s since expiries) (f : Frame) : (c.emit f).Waits s since expiries := by
  unfold Connection.emit
  split_ifs <;> exact ⟨h.missed, h.due⟩

theorem Waits.write (h : c.Waits s since expiries) (now : Nat) (f : Frame) : (c.write s now f).Waits s since expiries := by
  have hemitted := h.emit f
  unfold Connection.write
  simp only
  split_ifs
  · exact ⟨hemitted.missed, hemitted.due⟩
  · exact hemitted

theorem Waits.writeAll (h : c.Waits s since expiries) (now : Nat) (envelopes : List Outbound) :
    (c.writeAll s now envelopes).1.Waits s since expiries := by
  induction envelopes generalizing c with
  | nil => exact h
  | cons e rest ih =>
    unfold Connection.writeAll
    split_ifs
    · exact ih (h.write now _)
    · exact h

theorem Waits.ping (h : c.Waits s since expiries) (now : Nat) : (c.ping s now).Waits s since expiries := by
  have hwritten := h.write now .ping
  unfold Connection.ping
  simp only
  split
  · exact ⟨hwritten.missed, hwritten.due⟩
  · exact h

theorem Waits.writeClose (h : c.Waits s since expiries) (now : Nat) : (c.writeClose s now).Waits s since expiries := by
  have hemitted := h.emit .close
  unfold Connection.writeClose
  simp only
  split_ifs
  · exact ⟨h.missed, h.due⟩
  · exact ⟨hemitted.missed, hemitted.due⟩
  · exact ⟨hemitted.missed, hemitted.due⟩

/-- a read that is given up when it is due is one more, and enough or not -/
theorem expireRead_due (c : Connection) (s : SessionSettings) : c.expireRead s c.readDue =
    if s.patience ≤ c.missed + 1 then (c, true)
    else ({ c with missed := c.missed + 1, readDue := c.readDue + s.readDeadline.nanos }, false) := by
  rw [expireRead, if_pos le_rfl, Liveness.next?]
  split_ifs <;> rfl

end Connection

/-- a frame that the hub makes nothing of, and that is not too long -/
def ClientFrame.IsIdle (s : SessionSettings) (f : ClientFrame) : Prop :=
  f.contentSize ≤ s.socketFrameLimit.toNat ∧
    match f with
    | .binary _ | .ping _ | .pong => True
    | .text _ | .close => False

namespace Service

variable {σ : Type}

/-- the connection of a session that reads: one that is open -/
def reader? (v : Service σ) (id : SessionId) : Option Connection :=
  (v.line? id).bind fun l => if l.2.phase.isOpen then some l.1 else none

/-- have a session read once, if it reads: a frame is handled when it comes, and else the read is given up when it is
due -/
def read (p : Setup σ) (id : SessionId) (v : Service σ) (r : Reading) : Service σ :=
  match v.reader? id, r with
  | none, _ => v
  | some _, .heard now f => { v with now }.handle p id f
  | some c, .nothing => v.expireRead p.settings c.readDue id

def reads (p : Setup σ) (id : SessionId) (v : Service σ) (readings : List Reading) : Service σ :=
  readings.foldl (read p id) v

variable {p : Setup σ} {v : Service σ} {id : SessionId} {c d : Connection}

theorem line?_eq_some_iff {s : Session} : v.line? id = some (c, s) ↔
    v.ended.contains id = false ∧ v.connections.get? id = some c ∧ v.hub.board.session? id = some s := by
  unfold line?
  cases v.ended.contains id with
  | true => simp
  | false =>
    cases v.connections.get? id with
    | none => simp
    | some c' => cases v.hub.board.session? id <;> simp

theorem reader?_eq_some_iff : v.reader? id = some c ↔
    v.ended.contains id = false ∧ v.connections.get? id = some c ∧
      ∃ s, v.hub.board.session? id = some s ∧ s.phase.isOpen = true := by
  simp only [reader?, Option.bind_eq_some_iff, Prod.exists, line?_eq_some_iff, Option.ite_none_right_eq_some,
    Option.some_inj]
  constructor
  · rintro ⟨c', s, ⟨hended, hc, hs⟩, hopen, rfl⟩
    exact ⟨hended, hc, s, hs, hopen⟩
  · rintro ⟨hended, hc, s, hs, hopen⟩
    exact ⟨c, s, ⟨hended, hc, hs⟩, hopen, rfl⟩

theorem reader?_adjust (hreads : v.reader? id = some c) (f : Connection → Connection) :
    (v.adjust id f).reader? id = some (f c) := by
  obtain ⟨hended, hc, hs⟩ := reader?_eq_some_iff.1 hreads
  refine reader?_eq_some_iff.2 ⟨hended, ?_, hs⟩
  rw [adjust, Table.get?_adjust, if_pos rfl, hc, Option.map_some]

theorem reader?_drain (v : Service σ) (id : SessionId) : (v.drain id).reader? id = none := by
  refine Option.eq_none_iff_forall_ne_some.2 fun d hreads => ?_
  obtain ⟨-, -, s, hs, hopen⟩ := reader?_eq_some_iff.1 hreads
  have hdrained : (v.hub.board.session? id).map Session.drain = some s := by
    rw [← hs]
    exact ((v.hub.board.session?_adjust id id Session.drain).trans (if_pos rfl)).symm
  obtain ⟨s₀, -, rfl⟩ := Option.map_eq_some_iff.1 hdrained
  rw [s₀.isOpen_drain] at hopen
  cases hopen

/-! ## One read -/

/-- a session that still reads once a frame was handled has heard its client -/
theorem waits_of_handle {now : Nat} {f : ClientFrame} (hreads : v.reader? id = some c)
    (hstill : ({ v with now }.handle p id f).reader? id = some d) : d.Waits p.settings now 0 := by
  have hheard := reader?_adjust (v := { v with now }) hreads fun c => c.hear p.settings now
  have hwaits := c.waits_hear p.settings now
  have hd : ∀ {w : Service σ} {e : Connection}, w.reader? id = some e → w.reader? id = some d → e = d :=
    fun he hd => Option.some_inj.1 (he.symm.trans hd)
  unfold handle at hstill
  split_ifs at hstill with hlong
  · rw [reader?_drain] at hstill
    cases hstill
  · cases f with
    | text t =>
      obtain ⟨-, hafter, -⟩ := reader?_eq_some_iff.1 hstill
      obtain ⟨-, hbefore, -⟩ := reader?_eq_some_iff.1 hheard
      cases hbefore.symm.trans hafter
      exact hwaits
    | ping n => exact hd (reader?_adjust hheard fun c => c.emit (.pong n)) hstill ▸ hwaits.emit _
    | close =>
      rw [reader?_drain] at hstill
      cases hstill
    | binary n => exact hd hheard hstill ▸ hwaits
    | pong => exact hd hheard hstill ▸ hwaits

/-- a frame that the hub makes nothing of leaves the session reading -/
theorem reader?_handle_of_isIdle {now : Nat} {f : ClientFrame} (hreads : v.reader? id = some c)
    (hidle : f.IsIdle p.settings) : ∃ d, ({ v with now }.handle p id f).reader? id = some d := by
  have hheard := reader?_adjust (v := { v with now }) hreads fun c => c.hear p.settings now
  unfold handle
  rw [if_neg (Nat.not_lt.2 hidle.1)]
  cases f with
  | text t => exact hidle.2.elim
  | ping n => exact ⟨_, reader?_adjust hheard fun c => c.emit (.pong n)⟩
  | close => exact hidle.2.elim
  | binary n => exact ⟨_, hheard⟩
  | pong => exact ⟨_, hheard⟩

/-- a read that is given up when it is due ends the session, or starts the next read -/
theorem expireRead_of_reader (s : SessionSettings) (hreads : v.reader? id = some c) :
    v.expireRead s c.readDue id =
      if s.patience ≤ c.missed + 1 then v.drain id
      else v.adjust id fun _ => { c with missed := c.missed + 1, readDue := c.readDue + s.readDeadline.nanos } := by
  obtain ⟨hended, hc, session, hs, hopen⟩ := reader?_eq_some_iff.1 hreads
  have hline : v.line? id = some (c, session) := line?_eq_some_iff.2 ⟨hended, hc, hs⟩
  simp only [expireRead, hline, hopen, if_true, c.expireRead_due s]
  by_cases hend : s.patience ≤ c.missed + 1
  · simp only [if_pos hend, if_true, adjust, Table.adjust_eq_self hc]
  · simp only [if_neg hend, Bool.false_eq_true, if_false]

/-! ## One read after another -/

theorem reads_concat (p : Setup σ) (id : SessionId) (v : Service σ) (readings : List Reading) (r : Reading) :
    v.reads p id (readings ++ [r]) = (v.reads p id readings).read p id r := by
  simp [reads]

theorem read_of_not_reading (p : Setup σ) (hdone : v.reader? id = none) (r : Reading) : v.read p id r = v := by
  simp only [read, hdone]

theorem read_heard (p : Setup σ) (hreads : v.reader? id = some c) (now : Nat) (f : ClientFrame) :
    v.read p id (.heard now f) = { v with now }.handle p id f := by
  simp only [read, hreads]

theorem read_nothing (p : Setup σ) (hreads : v.reader? id = some c) : v.read p id .nothing =
    if p.settings.patience ≤ c.missed + 1 then v.drain id
    else v.adjust id fun _ =>
      { c with missed := c.missed + 1, readDue := c.readDue + p.settings.readDeadline.nanos } := by
  simp only [read, hreads]
  exact expireRead_of_reader p.settings hreads

/-- **What is known of a session that still reads.** The count on its connection is of the reads that were given up since
its client was heard last, and its patience lasts. -/
theorem reader?_reads {start : Nat} (hreads : v.reader? id = some c) (hwaits : c.Waits p.settings start 0)
    (past : List Reading) (hstill : (v.reads p id past).reader? id = some d) :
    Liveness.after? p.settings.patience (past.map Reading.outcome) = some d.missed ∧
      d.Waits p.settings (Reading.lastHeard start past) d.missed := by
  induction past using List.reverseRecOn generalizing d with
  | nil =>
    cases hreads.symm.trans hstill
    rw [hwaits.missed]
    exact ⟨rfl, hwaits⟩
  | append_singleton past r ih =>
    rw [reads_concat] at hstill
    rw [List.map_append, List.map_singleton, Liveness.after?_concat, Reading.lastHeard_concat]
    cases hbefore : (v.reads p id past).reader? id with
    | none =>
      -- a session that reads no more does not begin to read again
      rw [read_of_not_reading p hbefore, hbefore] at hstill
      cases hstill
    | some e =>
      obtain ⟨hafter, hwaits⟩ := ih hbefore
      rw [hafter, Option.bind_some]
      cases r with
      | heard now f =>
        rw [read_heard p hbefore] at hstill
        have hheard := waits_of_handle hbefore hstill
        rw [hheard.missed]
        exact ⟨rfl, hheard⟩
      | nothing =>
        rw [read_nothing p hbefore] at hstill
        split_ifs at hstill with hend
        · rw [reader?_drain] at hstill
          cases hstill
        · cases (reader?_adjust hbefore _).symm.trans hstill
          refine ⟨if_neg hend, rfl, ?_⟩
          have hdue := hwaits.due
          simp only [Reading.time?, Option.getD_none, Nat.succ_mul, hdue]
          omega

/-! ## Reads in service -/

/-- a connection, if there is one, has heard its client at a time -/
def HeardAt (s : SessionSettings) (id : SessionId) (since : Nat) (v : Service σ) : Prop :=
  ∀ c, v.connections.get? id = some c → c.Waits s since 0

theorem HeardAt.adjust {s : SessionSettings} {since : Nat} (h : HeardAt s id since v) (j : SessionId)
    {f : Connection → Connection} (hf : ∀ c, v.connections.get? j = some c → c.Waits s since 0 → (f c).Waits s since 0) :
    HeardAt s id since (v.adjust j f) := by
  intro d hd
  rw [Service.adjust, Table.get?_adjust] at hd
  split_ifs at hd with hj
  · obtain ⟨c, hc, rfl⟩ := Option.map_eq_some_iff.1 hd
    exact hf c (hj ▸ hc) (h c hc)
  · exact h d hd

theorem HeardAt.runWriter {s : SessionSettings} {since : Nat} (h : HeardAt s id since v) (now : Nat)
    (j : SessionId) : HeardAt s id since (v.runWriter s now j) := by
  unfold Service.runWriter
  split
  · exact h
  · rename_i c session hline
    have hc : v.connections.get? j = some c := (line?_eq_some_iff.1 hline).2.1
    split_ifs
    · exact h
    · refine h.adjust j fun d hd hwaits => ?_
      cases hc.symm.trans hd
      exact (hwaits.writeAll now _).ping now
    · refine h.adjust j fun d hd hwaits => ?_
      cases hc.symm.trans hd
      exact hwaits.writeClose now

theorem HeardAt.conclude {s : SessionSettings} {since : Nat} (h : HeardAt s id since v) (j : SessionId) :
    HeardAt s id since (v.conclude j) := by
  unfold Service.conclude
  split
  · exact h
  · split_ifs <;> exact h

/-- to run the writers, and to hear the answers to what they write, is no silence -/
theorem HeardAt.settle {now : Nat} (h : HeardAt p.settings id now v) : HeardAt p.settings id now (v.settle p now) := by
  unfold Service.settle
  generalize v.connections.keys = keys
  induction keys generalizing v with
  | nil => exact h
  | cons j keys ih =>
    refine ih (((h.runWriter now j).conclude j).adjust j fun c _ hwaits => ?_)
    unfold Connection.hearAnswer
    split_ifs
    · have hheard := c.waits_hear p.settings now
      exact ⟨hheard.missed, hheard.due⟩
    · exact hwaits

/-- **A session that is let in waits for its client from then on.** -/
theorem waits_connect {client : Client} {h : Handshake} (hreads : (v.connect p id client h).1.reader? id = some c) :
    c.Waits p.settings v.now 0 := by
  have hclosed : ∀ {w : Service σ}, w.ended = v.ended ++ [id] → w.reader? id ≠ some c := by
    intro w hended hreads
    have hopen := (reader?_eq_some_iff.1 hreads).1
    rw [hended] at hopen
    simp at hopen
  unfold connect at hreads
  split at hreads
  · exact absurd hreads (hclosed rfl)
  · simp only at hreads
    split at hreads
    · refine HeardAt.settle (fun d hd => ?_) c (reader?_eq_some_iff.1 hreads).2.1
      rw [Table.get?_insert, if_pos rfl] at hd
      cases hd
      exact Connection.waits_opened p.settings v.now client
    · exact absurd hreads (hclosed rfl)

/-- a frame that a client sends is read, and then the writers run -/
theorem receive_eq_read {f : ClientFrame} (hreads : v.reader? id = some c) (hpresent : c.presence = .present)
    (hf : f ≠ .close) : v.receive p id f = ((v.read p id (.heard v.now f)).settle p v.now, true) := by
  obtain ⟨hended, hc, session, hs, hopen⟩ := reader?_eq_some_iff.1 hreads
  have hline : v.line? id = some (c, session) := line?_eq_some_iff.2 ⟨hended, hc, hs⟩
  rw [read_heard p hreads]
  simp only [receive, hline, hpresent, ne_eq, not_true_eq_false, if_false, if_neg hf, hopen, if_true]

/-! ## Silence -/

/-- what is known of a session that still reads, after some readings -/
structure StillReads (p : Setup σ) (id : SessionId) (v : Service σ) (start : Nat) (past : List Reading)
    (d : Connection) : Prop where
  /-- never before were enough reads in a row given up -/
  never : ¬List.replicate p.settings.patience ReadOutcome.expired <:+: past.map Reading.outcome
  /-- the count is of those that were given up since the last frame -/
  trailing : ∀ j, List.replicate j ReadOutcome.expired <:+ past.map Reading.outcome ↔ j ≤ d.missed
  /-- a word of 32 bits has room for one more -/
  counted : d.missed < p.settings.patience ∧ (UInt32.ofNat d.missed + 1).toNat = d.missed + 1
  /-- the next read is given up so many deadlines after the client was heard last -/
  due : d.readDue = Reading.lastHeard start past + (d.missed + 1) * p.settings.readDeadline.nanos
  /-- if enough reads in a row are given up with the next one, the session is drained, and all those deadlines passed -/
  ends : List.replicate p.settings.patience ReadOutcome.expired <:+ (past ++ [Reading.nothing]).map Reading.outcome →
    v.reads p id (past ++ [.nothing]) = (v.reads p id past).drain id ∧
      (v.reads p id (past ++ [.nothing])).reader? id = none ∧
      d.readDue = Reading.lastHeard start past + p.settings.patience * p.settings.readDeadline.nanos
  /-- if not, the session reads on -/
  lasts : ¬List.replicate p.settings.patience ReadOutcome.expired <:+ (past ++ [Reading.nothing]).map Reading.outcome →
    (v.reads p id (past ++ [.nothing])).reader? id =
      some { d with missed := d.missed + 1, readDue := d.readDue + p.settings.readDeadline.nanos }
  /-- so it does after a frame that the hub makes nothing of -/
  idle : ∀ now f, f.IsIdle p.settings →
    ∃ d', (v.reads p id (past ++ [.heard now f])).reader? id = some d'

theorem stillReads {start : Nat} (hreads : v.reader? id = some c) (hwaits : c.Waits p.settings start 0)
    (past : List Reading) (hstill : (v.reads p id past).reader? id = some d) : StillReads p id v start past d := by
  obtain ⟨hafter, hdue⟩ := reader?_reads hreads hwaits past hstill
  have hpositive := p.settings.patience_pos
  have hword := p.settings.patience_lt
  have hlasts := (Liveness.after?_spec hpositive _).1 _ hafter
  have hshort := hlasts.short
  have hends : List.replicate p.settings.patience ReadOutcome.expired <:+ (past ++ [Reading.nothing]).map Reading.outcome ↔
      p.settings.patience = d.missed + 1 := by
    rw [List.map_append]
    exact hlasts.replicate_iff
  constructor
  · exact hlasts.never
  · exact hlasts.trailing
  · refine ⟨hshort, ?_⟩
    -- the count stays below the patience, which is a word, and so it does not wrap
    rw [UInt32.toNat_add, UInt32.toNat_ofNat_of_lt' (show d.missed < UInt32.size by
      rw [show UInt32.size = 2 ^ 32 from rfl]; omega), UInt32.toNat_one, Nat.mod_eq_of_lt (by omega)]
  · exact hdue.due
  · intro henough
    have henough := hends.1 henough
    rw [reads_concat, read_nothing p hstill, if_pos (by omega), henough]
    exact ⟨rfl, reader?_drain _ id, hdue.due⟩
  · intro hmore
    rw [hends] at hmore
    rw [reads_concat, read_nothing p hstill, if_neg (by omega)]
    exact reader?_adjust hstill _
  · intro now f hidle
    rw [reads_concat, read_heard p hstill]
    exact reader?_handle_of_isIdle hstill hidle

/-- frames aside, a session is given up when enough reads in a row were -/
theorem reader?_reads_eq_none_iff {start : Nat} (hreads : v.reader? id = some c) (hwaits : c.Waits p.settings start 0)
    (readings : List Reading)
    (hframes : ∀ past now f later, readings = past ++ .heard now f :: later → (v.reads p id past).reader? id ≠ none →
      (v.reads p id (past ++ [.heard now f])).reader? id ≠ none) :
    (v.reads p id readings).reader? id = none ↔
      List.replicate p.settings.patience ReadOutcome.expired <:+: readings.map Reading.outcome := by
  have hpositive := p.settings.patience_pos
  induction readings using List.reverseRecOn with
  | nil =>
    have hsome : (v.reads p id []).reader? id = some c := hreads
    rw [hsome, List.map_nil, List.infix_nil, List.replicate_eq_nil_iff]
    simp only [reduceCtorEq, false_iff]
    omega
  | append_singleton past r ih =>
    have hpast := ih fun past' now f later heq hsome =>
      hframes past' now f (later ++ [r]) (by rw [heq, List.append_assoc, List.cons_append]) hsome
    cases hbefore : (v.reads p id past).reader? id with
    | none =>
      rw [reads_concat, read_of_not_reading p hbefore, hbefore, List.map_append]
      exact iff_of_true rfl ((hpast.1 hbefore).trans (List.infix_append' [] _ _))
    | some d =>
      -- its patience lasts up to here, so all hangs on the last read
      have hstill := stillReads hreads hwaits past hbefore
      cases r with
      -- a frame ends no row of silent reads, and by assumption it does not end the reader either
      | heard now f =>
        have hgoes := hframes past now f [] rfl (by rw [hbefore]; exact Option.some_ne_none d)
        refine iff_of_false hgoes ?_
        have hframe : ([Reading.heard now f].map Reading.outcome) = [.frame] := rfl
        rw [List.map_append, hframe, List.infix_concat_iff, Liveness.replicate_suffix_frame]
        exact not_or.2 ⟨by omega, hstill.never⟩
      | nothing =>
        have hnothing : ([Reading.nothing].map Reading.outcome) = [.expired] := rfl
        rw [List.map_append, hnothing, List.infix_concat_iff, or_iff_left hstill.never]
        constructor
        · intro hnone
          by_contra hmore
          have hlasts := hstill.lasts (by rwa [List.map_append])
          rw [hnone] at hlasts
          cases hlasts
        · intro henough
          exact (hstill.ends (by rwa [List.map_append])).2.1

/-- **A session is given up after its silence.** Take any settings, and anything that a session reads from when its client
was heard. As long as it reads, its patience never ended. It is drained by the first read that is given up after so
many in a row that its patience ends, and no read before ends it but for what its frames bring about. The count of
reads that were given up stays below that number, so that a word of 32 bits holds it. The client was then silent for
as many deadlines, which is the liveness window if that is a span of time at all; else the window is the longest span. -/
theorem given_up_after_silence (p : Setup σ) (v : Service σ) (id : SessionId) (c : Connection) (start : Nat)
    (hreads : v.reader? id = some c) (hwaits : c.Waits p.settings start 0) :
    (∀ past d, (v.reads p id past).reader? id = some d → StillReads p id v start past d) ∧
    (∀ readings, (∀ past now f later, readings = past ++ .heard now f :: later →
        (v.reads p id past).reader? id ≠ none → (v.reads p id (past ++ [.heard now f])).reader? id ≠ none) →
      ((v.reads p id readings).reader? id = none ↔
        List.replicate p.settings.patience ReadOutcome.expired <:+: readings.map Reading.outcome)) ∧
    let silence : Duration := ⟨p.settings.patience * p.settings.readDeadline.nanos⟩
    (silence.Representable → p.settings.livenessWindow = silence) ∧
      (¬silence.Representable → p.settings.livenessWindow = .longest) :=
  ⟨fun past _ hstill => stillReads hreads hwaits past hstill, reader?_reads_eq_none_iff hreads hwaits,
    Duration.times_eq p.settings.readDeadline p.settings.patience⟩

/-- a session that is let in hears a pong after 45 seconds, between two reads that are given up: the next one ends it,
after a minute of silence -/
theorem given_up_after_silence_of_a_minute :
    let p : Setup Unit := ⟨{ service := some ⟨"key"⟩ }, {}, Store.disabled, {}⟩
    let ann : SessionId := ⟨"ann"⟩
    let v := (Service.connect p { hub := Hub.start () 0 true } ann {} ⟨some "key", none⟩).1
    let second := 1000000000
    let past : List Reading := [.nothing, .heard (45 * second) .pong, .nothing]
    ∃ c d, v.reader? ann = some c ∧ c.Waits p.settings 0 0 ∧ (v.reads p ann past).reader? ann = some d ∧
      StillReads p ann v 0 past d ∧ d.missed = 1 ∧ d.readDue = (45 + 60) * second ∧
      (v.reads p ann (past ++ [.nothing])).reader? ann = none ∧ p.settings.livenessWindow = ⟨60 * second⟩ := by
  intro p ann v second past
  obtain ⟨c, hreads⟩ := Option.isSome_iff_exists.1 (show (v.reader? ann).isSome = true by decide +kernel)
  obtain ⟨d, hstill⟩ := Option.isSome_iff_exists.1 (show ((v.reads p ann past).reader? ann).isSome = true by
    decide +kernel)
  have hwaits : c.Waits p.settings 0 0 := waits_connect hreads
  obtain ⟨hsession, -, hwindow, -⟩ := given_up_after_silence p v ann c 0 hreads hwaits
  have hknown := hsession past d hstill
  have hmissed : d.missed = 1 := by
    have hcount : ((v.reads p ann past).reader? ann).map Connection.missed = some 1 := by decide +kernel
    rw [hstill] at hcount
    exact Option.some_inj.1 hcount
  have hends := hknown.ends (by decide)
  have hsilence := hwindow ((Duration.representable_iff _).2 (by decide +kernel))
  exact ⟨c, d, hreads, hwaits, hstill, hknown, hmissed, hends.2.2.trans (by decide +kernel), hends.2.1,
    hsilence.trans (by decide +kernel)⟩

end Service
end ErrandHub
