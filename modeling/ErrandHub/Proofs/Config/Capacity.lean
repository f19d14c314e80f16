/-
Whether the queues of a loaded configuration can be made.

A hub makes a queue for the requests to its registry when it starts, and a queue for each session: its outbox. Queues are
made elsewhere, and not of every length (`QueueMaker`): the shortest has one place, the longest as many as a word of 64
bits says when its upper three bits are clear. Each layer of a configuration passes over zero, and none passes over a
number that is too great.

- `makes_getD_iff`: a length that may be given, over a default that can be made.
- `queues_made_iff`: when the queues of a loaded configuration can be made, by what the file and the environment say.
- `queues_too_long`: a file that is read and an environment, of which no queue can be made.
-/
import ErrandHub.Hub.Service
import ErrandHub.Proofs.Config.Runnable

namespace ErrandHub

/-- the longest queue that can be made -/
def longestQueue : Nat := (UInt64.size - 1) >>> 3

theorem longestQueue_eq : longestQueue = 2 ^ 61 - 1 := rfl

/-- a maker of queues: the lengths of which it makes them -/
structure QueueMaker where
  makes : Nat → Bool
  makes_iff : ∀ n, makes n = true ↔ 1 ≤ n ∧ n ≤ longestQueue

namespace QueueMaker

/-- a maker of all queues that can be made -/
def plain : QueueMaker := ⟨fun n => 1 ≤ n && n ≤ longestQueue, fun n => by simp⟩

/-- a length of use that is given is made unless it is too great, and so is a default in its place -/
theorem makes_getD_iff (k : QueueMaker) {given : Option UInt64} {otherwise : UInt64}
    (hgiven : ∀ n, given = some n → n ≠ 0) (hotherwise : k.makes otherwise.toNat = true) :
    k.makes (given.getD otherwise).toNat = true ↔ ∀ n, given = some n → n.toNat ≤ longestQueue := by
  cases given with
  | none => simp [hotherwise]
  | some n =>
    have hpositive : 1 ≤ n.toNat := Nat.one_le_iff_ne_zero.2 fun hzero => hgiven n rfl (UInt64.toNat_inj.1 hzero)
    rw [Option.getD_some, k.makes_iff, and_iff_right hpositive]
    exact ⟨fun hshort m hm => Option.some_inj.1 hm ▸ hshort, fun hshort => hshort n rfl⟩

end QueueMaker

namespace Config

/-- the lengths of the queues that a hub makes: that of its registry when it starts, and that of each session -/
def queueLengths (c : Config) : List Nat :=
  [max 1 c.commandQueueCapacity.toNat, (Outbox.ofCapacity (Setup.ofConfig c).settings.outboxCapacity.toNat).capacity]

/-- the length of an outbox that the environment or else the file gives, if it is of use -/
def outboxGiven (f : File) (env : Environment) : Option UInt64 :=
  (env.value? "ERRAND_HUB_OUTBOX_CAPACITY" Environment.word?).or (positive f.outboxCapacity)

theorem ne_zero_of_outboxGiven {f : File} {env : Environment} {n : UInt64} (h : outboxGiven f env = some n) : n ≠ 0 :=
  or_of_use (fun _ => Environment.ne_zero_of_value?) (fun _ => ne_zero_of_positive) n h

theorem outboxCapacity_clamped (s : SessionSettings) : s.clamped.outboxCapacity = s.outboxCapacity := by
  unfold SessionSettings.clamped
  split_ifs <;> rfl

/-- the queues of a loaded configuration are as long as the environment and the file say, and else as the defaults do -/
theorem queueLengths_of_load {source : Source} {f : File} (hread : File.read source = .ok f) (env : Environment) :
    ∃ c, load source env = .ok c ∧ c.queueLengths =
      [((positive f.commandQueueCapacity).getD 1024).toNat, ((outboxGiven f env).getD 256).toNat] := by
  refine ⟨{ override env (ofFile f) with session := (override env (ofFile f)).session.clamped },
    by simp only [load, unclamped, hread], ?_⟩
  have hcommands : ((positive f.commandQueueCapacity).getD 1024) ≠ 0 :=
    getD_of_use (fun _ => ne_zero_of_positive) (by decide)
  have houtbox : ((outboxGiven f env).getD 256) ≠ 0 := getD_of_use (fun _ => ne_zero_of_outboxGiven) (by decide)
  have hone : ∀ n : UInt64, n ≠ 0 → max 1 n.toNat = n.toNat := fun n hn =>
    Nat.max_eq_right (Nat.one_le_iff_ne_zero.2 fun hzero => hn (UInt64.toNat_inj.1 hzero))
  have hlayers : (override env (ofFile f)).session.outboxCapacity = (outboxGiven f env).getD 256 := Option.getD_or.symm
  simp only [queueLengths, Setup.ofConfig, Outbox.ofCapacity, outboxCapacity_clamped, hlayers, hone _ houtbox]
  exact congrArg (fun n => [n, _]) (hone _ hcommands)

/-- **The queues of a loaded configuration can be made unless a number is too great.** Whatever is found in place of the
file, if it is read, and whatever the environment: the configuration is loaded, and its queues have a place at least. They
can be made exactly when what the environment or else the file says of outboxes, and what the file says of requests, is
no more than the longest queue, where either says anything of use. What is not read is not loaded either. -/
theorem queues_made_iff (k : QueueMaker) (source : Source) (env : Environment) :
    (∀ f, File.read source = .ok f → ∃ c, load source env = .ok c ∧
      c.queueLengths = [((positive f.commandQueueCapacity).getD 1024).toNat, ((outboxGiven f env).getD 256).toNat] ∧
      (∀ n ∈ c.queueLengths, 1 ≤ n) ∧
      ((∀ n ∈ c.queueLengths, k.makes n = true) ↔
        (∀ n, positive f.commandQueueCapacity = some n → n.toNat ≤ longestQueue) ∧
          ∀ n, outboxGiven f env = some n → n.toNat ≤ longestQueue)) ∧
    ∀ e, File.read source = .error e → load source env = .error e := by
  refine ⟨fun f hread => ?_, (loaded_configuration_runnable source env).2⟩
  obtain ⟨c, hload, hlengths⟩ := queueLengths_of_load hread env
  refine ⟨c, hload, hlengths, ?_, ?_⟩
  · intro n hn
    rcases List.mem_pair.1 hn with rfl | rfl <;> exact Nat.le_max_left 1 _
  · have hdefault : ∀ n : UInt64, n = 1024 ∨ n = 256 → k.makes n.toNat = true := by
      rintro n (rfl | rfl) <;> exact (k.makes_iff _).2 (by decide)
    rw [hlengths, List.forall_mem_cons, List.forall_mem_singleton,
      k.makes_getD_iff (fun _ => ne_zero_of_positive) (hdefault _ (.inl rfl)),
      k.makes_getD_iff (fun _ => ne_zero_of_outboxGiven) (hdefault _ (.inr rfl))]

/-- a file that asks for outboxes as long as can be, and an environment that says nothing of use -/
theorem queues_made_iff_at_longest :
    let source := Source.file (Utf8.bytes "[session]\noutbox_capacity = 2305843009213693951\n")
    let f : File := { outboxCapacity := some 2305843009213693951 }
    let env : Environment := fun name => if name = "ERRAND_HUB_OUTBOX_CAPACITY" then some " 0 " else none
    File.read source = .ok f ∧
      (∃ c, load source env = .ok c ∧ c.queueLengths = [1024, longestQueue] ∧
        ∀ n ∈ c.queueLengths, QueueMaker.plain.makes n = true) ∧
      File.read .unreadable = .error .unreadable ∧ load .unreadable env = .error .unreadable := by
  intro source f env
  have hread : File.read source = .ok f := by decide +kernel
  have houtbox : outboxGiven f env = some 2305843009213693951 := by decide +kernel
  obtain ⟨hloaded, hunread⟩ := queues_made_iff QueueMaker.plain source env
  obtain ⟨c, hload, hlengths, -, hmade⟩ := hloaded f hread
  refine ⟨hread, ⟨c, hload, ?_, hmade.2 ⟨nofun, fun n hn => ?_⟩⟩, rfl, (queues_made_iff .plain .unreadable env).2 _ rfl⟩
  · rw [hlengths, houtbox]
    rfl
  · cases houtbox.symm.trans hn
    decide

/-- a file that asks for queues one place too long is read, and so is the greatest number in the environment: neither
queue of the hub can be made -/
theorem queues_too_long :
    let source := Source.file (Utf8.bytes
      "[session]\noutbox_capacity = 2305843009213693952\n[registry]\ncommand_queue_capacity = 2305843009213693952\n")
    let env : Environment := fun name =>
      if name = "ERRAND_HUB_OUTBOX_CAPACITY" then some "18446744073709551615" else none
    (∃ c, load source (fun _ => none) = .ok c ∧ c.queueLengths = [2 ^ 61, 2 ^ 61] ∧
      ∀ k : QueueMaker, ∀ n ∈ c.queueLengths, k.makes n = false) ∧
    ∃ c, load source env = .ok c ∧ c.queueLengths = [2 ^ 61, 2 ^ 64 - 1] ∧
      ∀ k : QueueMaker, ∀ n ∈ c.queueLengths, k.makes n = false := by
  intro source env
  have hread : File.read source =
      .ok { outboxCapacity := some 2305843009213693952, commandQueueCapacity := some 2305843009213693952 } := by
    decide +kernel
  have hnone : ∀ n : Nat, n = 2 ^ 61 ∨ n = 2 ^ 64 - 1 → ∀ k : QueueMaker, k.makes n = false := by
    intro n hn k
    rw [← Bool.not_eq_true, k.makes_iff, longestQueue_eq]
    omega
  obtain ⟨c, hload, hlengths⟩ := queueLengths_of_load hread fun _ => none
  obtain ⟨c', hload', hlengths'⟩ := queueLengths_of_load hread env
  have hlong : c.queueLengths = [2 ^ 61, 2 ^ 61] := hlengths.trans (by decide +kernel)
  have hlong' : c'.queueLengths = [2 ^ 61, 2 ^ 64 - 1] := hlengths'.trans (by decide +kernel)
  refine ⟨⟨c, hload, hlong, fun k n hn => ?_⟩, ⟨c', hload', hlong', fun k n hn => ?_⟩⟩
  · rw [hlong] at hn
    exact hnone n (.inl (by simpa using hn)) k
  · rw [hlong'] at hn
    exact hnone n (List.mem_pair.1 hn) k

end Config
end ErrandHub
