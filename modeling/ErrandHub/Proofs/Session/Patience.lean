/-
Patience, and how long it lasts.

A session counts the reads in a row that are given up, and a frame starts the count anew. Its patience ends once the count
would reach a limit, and how long that takes is a product of spans of time, which may be too long to be one.

- `Duration.times_eq`: a product of a span of time, and what it is if no span is that long.
- `Lasts`: patience has lasted over some outcomes of reads. A frame keeps it (`Lasts.frame`), a read that is given up
  may end it (`Lasts.expired`).
- `after?_spec`: by induction on the outcomes, when patience ends.
-/
import Mathlib.Tactic
import ErrandHub.Session.Settings

namespace ErrandHub

/-! ## Spans of time -/

namespace Duration

/-- a span is so many whole seconds, counted in 64 bits, and less than a second -/
def Representable (d : Duration) : Prop :=
  ∃ secs : UInt64, ∃ spare < 1000000000, d.nanos = secs.toNat * 1000000000 + spare

theorem representable_iff (d : Duration) : d.Representable ↔ d.nanos ≤ longest.nanos := by
  have hlongest : longest.nanos = 2 ^ 64 * 1000000000 - 1 := rfl
  constructor
  · rintro ⟨secs, spare, hspare, hnanos⟩
    have hsecs : secs.toNat < 2 ^ 64 := secs.toNat_lt
    omega
  · intro hshort
    have hsecs : d.nanos / 1000000000 < UInt64.size := by
      rw [show UInt64.size = 2 ^ 64 from rfl]
      omega
    refine ⟨UInt64.ofNat (d.nanos / 1000000000), d.nanos % 1000000000, Nat.mod_lt _ (by decide), ?_⟩
    rw [UInt64.toNat_ofNat_of_lt' hsecs]
    omega

/-- so many times a span is what it should be if it is a span at all, and else the longest one -/
theorem times_eq (d : Duration) (n : Nat) :
    ((⟨n * d.nanos⟩ : Duration).Representable → d.times n = ⟨n * d.nanos⟩) ∧
      (¬(⟨n * d.nanos⟩ : Duration).Representable → d.times n = longest) := by
  rw [representable_iff, times, Nat.mul_comm n]
  refine ⟨fun hshort => ?_, fun hlong => ?_⟩
  · rw [Nat.min_eq_left hshort]
  · rw [Nat.min_eq_right (Nat.le_of_not_le hlong)]

end Duration

/-! ## Patience -/

namespace SessionSettings

theorem patience_pos (s : SessionSettings) : 0 < s.patience := Nat.le_max_left 1 _

theorem patience_lt (s : SessionSettings) : s.patience < 2 ^ 32 := by
  have hword : s.maxMissedPongs.toNat < 2 ^ 32 := s.maxMissedPongs.toNat_lt
  exact Nat.max_lt.2 ⟨by decide, hword⟩

end SessionSettings

namespace Liveness

/-- patience for so many reads in a row lasts: so many were given up at the end, and never enough -/
structure Lasts (patience missed : Nat) (outcomes : List ReadOutcome) : Prop where
  trailing : ∀ j, List.replicate j ReadOutcome.expired <:+ outcomes ↔ j ≤ missed
  short : missed < patience
  never : ¬List.replicate patience ReadOutcome.expired <:+: outcomes

variable {patience missed : Nat} {outcomes : List ReadOutcome}

theorem replicate_suffix_frame (j : Nat) :
    List.replicate j ReadOutcome.expired <:+ outcomes ++ [.frame] ↔ j = 0 := by
  rw [List.suffix_concat_iff, List.replicate_eq_nil_iff, or_iff_left_iff_imp]
  rintro ⟨t, ht, -⟩
  have hframe : ReadOutcome.frame ∈ List.replicate j ReadOutcome.expired := by simp [ht]
  cases List.eq_of_mem_replicate hframe

theorem replicate_suffix_expired (j : Nat) :
    List.replicate (j + 1) ReadOutcome.expired <:+ outcomes ++ [.expired] ↔
      List.replicate j ReadOutcome.expired <:+ outcomes := by
  rw [List.replicate_succ', List.suffix_concat_iff]
  simp

theorem Lasts.nil (hpatience : 0 < patience) : Lasts patience 0 [] where
  trailing j := by simp
  short := hpatience
  never := by
    rw [List.infix_nil, List.replicate_eq_nil_iff]
    omega

theorem Lasts.frame (h : Lasts patience missed outcomes) : Lasts patience 0 (outcomes ++ [.frame]) where
  trailing j := by rw [replicate_suffix_frame, Nat.le_zero]
  short := Nat.zero_lt_of_lt h.short
  never := by
    rw [List.infix_concat_iff, replicate_suffix_frame]
    have := h.short
    exact not_or.2 ⟨by omega, h.never⟩

theorem Lasts.replicate_iff (h : Lasts patience missed outcomes) :
    List.replicate patience ReadOutcome.expired <:+ outcomes ++ [.expired] ↔ patience = missed + 1 := by
  obtain ⟨j, rfl⟩ : ∃ j, patience = j + 1 := ⟨patience - 1, by have := h.short; omega⟩
  have := h.short
  rw [replicate_suffix_expired, h.trailing]
  omega

theorem Lasts.expired (h : Lasts patience missed outcomes) (hmore : missed + 1 < patience) :
    Lasts patience (missed + 1) (outcomes ++ [.expired]) where
  trailing j := by
    cases j with
    | zero => simp
    | succ j => rw [replicate_suffix_expired, h.trailing, Nat.add_le_add_iff_right]
  short := hmore
  never := by
    rw [List.infix_concat_iff, h.replicate_iff]
    exact not_or.2 ⟨by omega, h.never⟩

theorem after?_concat (o : ReadOutcome) :
    after? patience (outcomes ++ [o]) = (after? patience outcomes).bind (next? patience · o) := by
  simp [after?, List.foldlM_append]

/-- **Patience ends when enough reads in a row were given up, and not otherwise.** Until then the count is of those that
were given up since the last frame. -/
theorem after?_spec (hpatience : 0 < patience) (outcomes : List ReadOutcome) :
    (∀ missed, after? patience outcomes = some missed → Lasts patience missed outcomes) ∧
      (after? patience outcomes = none → List.replicate patience ReadOutcome.expired <:+: outcomes) := by
  induction outcomes using List.reverseRecOn with
  | nil =>
    refine ⟨fun missed h => ?_, nofun⟩
    cases h
    exact .nil hpatience
  | append_singleton outcomes o ih =>
    rw [after?_concat]
    cases hafter : after? patience outcomes with
    | none => exact ⟨nofun, fun _ => (ih.2 hafter).trans (List.infix_append' [] outcomes [o])⟩
    | some missed =>
      have hlasts := ih.1 missed hafter
      cases o with
      | frame =>
        refine ⟨fun m h => ?_, nofun⟩
        cases h
        exact hlasts.frame
      | expired =>
        rw [Option.bind_some, next?]
        split_ifs with hend
        · have hshort := hlasts.short
          exact ⟨nofun, fun _ => (hlasts.replicate_iff.2 (by omega)).isInfix⟩
        · refine ⟨fun m h => ?_, nofun⟩
          cases h
          exact hlasts.expired (by omega)

end Liveness

end ErrandHub
