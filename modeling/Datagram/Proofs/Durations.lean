import Datagram.Duration

/-!
# The length of a duration

A duration is determined by its length in nanoseconds, and every length up to that of the longest
duration is that of one. Carrying gives the duration of the length asked for, if there is one, and
scaling multiplies the length and stops at the longest.
-/

namespace Datagram.Duration

variable {d d' : Duration} {secs : UInt64} {nanos : Nat}

theorem nanosPerSec_pos : 0 < nanosPerSec := by decide

theorem toNanos_div (d : Duration) : d.toNanos / nanosPerSec = d.secs.toNat := by
  rw [toNanos, Nat.mul_comm, Nat.mul_add_div nanosPerSec_pos, Nat.div_eq_of_lt d.nanos_lt,
    Nat.add_zero]

theorem toNanos_mod (d : Duration) : d.toNanos % nanosPerSec = d.nanos.toNat := by
  rw [toNanos, Nat.mul_comm, Nat.mul_add_mod, Nat.mod_eq_of_lt d.nanos_lt]

theorem toNanos_injective (h : d.toNanos = d'.toNanos) : d = d' := by
  have hsecs : d.secs = d'.secs := by
    rw [← UInt64.toNat_inj, ← toNanos_div, h, toNanos_div]
  have hnanos : d.nanos = d'.nanos := by
    rw [← UInt32.toNat_inj, ← toNanos_mod, h, toNanos_mod]
  cases d
  cases d'
  cases hsecs
  cases hnanos
  rfl

theorem toNanos_longest : longest.toNanos = UInt64.size * nanosPerSec - 1 := by decide

theorem toNanos_le_longest (d : Duration) : d.toNanos ≤ longest.toNanos := by
  have hsecs : d.toNanos / nanosPerSec < UInt64.size := by
    rw [toNanos_div]
    exact d.secs.toNat_lt
  rw [Nat.div_lt_iff_lt_mul nanosPerSec_pos] at hsecs
  rw [toNanos_longest]
  exact Nat.le_sub_one_of_lt hsecs

/-- The length of what carrying gives, and when it gives nothing. -/
theorem carry?_cases (secs : UInt64) (nanos : Nat) :
    (∃ d, carry? secs nanos = some d ∧ d.toNanos = secs.toNat * nanosPerSec + nanos) ∨
      carry? secs nanos = none ∧ longest.toNanos < secs.toNat * nanosPerSec + nanos := by
  have hparts := Nat.div_add_mod nanos nanosPerSec
  by_cases hfits : secs.toNat + nanos / nanosPerSec < UInt64.size
  · left
    refine ⟨_, if_pos hfits, ?_⟩
    have hsmall : nanos % nanosPerSec < UInt32.size :=
      Nat.lt_trans (Nat.mod_lt nanos nanosPerSec_pos) (by decide)
    rw [toNanos, UInt64.toNat_ofNat_of_lt' hfits, UInt32.toNat_ofNat_of_lt' hsmall, Nat.add_mul,
      Nat.add_assoc, Nat.mul_comm (nanos / nanosPerSec), hparts]
  · right
    refine ⟨if_neg hfits, ?_⟩
    have hlarge : UInt64.size * nanosPerSec ≤
        (secs.toNat + nanos / nanosPerSec) * nanosPerSec :=
      Nat.mul_le_mul_right nanosPerSec (Nat.le_of_not_lt hfits)
    rw [Nat.add_mul, Nat.mul_comm (nanos / nanosPerSec)] at hlarge
    rw [toNanos_longest]
    have hpos : 0 < UInt64.size * nanosPerSec := by decide
    omega

theorem carry?_eq_some_iff :
    carry? secs nanos = some d ↔ d.toNanos = secs.toNat * nanosPerSec + nanos := by
  rcases carry?_cases secs nanos with ⟨d', hcarry, hlength⟩ | ⟨hcarry, hlength⟩
  · rw [hcarry, Option.some.injEq, ← hlength]
    exact ⟨fun h => by rw [h], fun h => (toNanos_injective h).symm⟩
  · rw [hcarry]
    refine ⟨nofun, fun h => ?_⟩
    have hle := d.toNanos_le_longest
    omega

/-- Scaling multiplies the length and stops at the longest. -/
theorem toNanos_scale (d : Duration) (k : UInt32) :
    (d.scale k).toNanos = min (d.toNanos * k.toNat) longest.toNanos := by
  have hproduct : d.toNanos * k.toNat =
      d.secs.toNat * k.toNat * nanosPerSec + d.nanos.toNat * k.toNat := by
    rw [toNanos, Nat.add_mul, Nat.mul_right_comm]
  rw [hproduct, scale]
  by_cases hfits : d.secs.toNat * k.toNat < UInt64.size
  · rw [if_pos hfits]
    have hsecs : (UInt64.ofNat (d.secs.toNat * k.toNat)).toNat = d.secs.toNat * k.toNat :=
      UInt64.toNat_ofNat_of_lt' hfits
    rcases carry?_cases (UInt64.ofNat (d.secs.toNat * k.toNat)) (d.nanos.toNat * k.toNat) with
      ⟨d', hcarry, hlength⟩ | ⟨hcarry, hlength⟩
    · rw [hsecs] at hlength
      rw [hcarry, Option.getD_some, ← hlength, Nat.min_eq_left d'.toNanos_le_longest]
    · rw [hsecs] at hlength
      rw [hcarry, Option.getD_none, Nat.min_eq_right (Nat.le_of_lt hlength)]
  · rw [if_neg hfits, Nat.min_eq_right]
    have hlarge : UInt64.size * nanosPerSec ≤ d.secs.toNat * k.toNat * nanosPerSec :=
      Nat.mul_le_mul_right nanosPerSec (Nat.le_of_not_lt hfits)
    rw [toNanos_longest]
    omega

/-- A duration that is of a given length, or the longest one if no duration has it. -/
theorem eq_of_toNanos_min {d : Duration} {n : Nat}
    (h : d.toNanos = min n longest.toNanos) :
    (∀ exact : Duration, exact.toNanos = n → d = exact) ∧
      ((∀ exact : Duration, exact.toNanos ≠ n) → d = .longest) := by
  constructor
  · intro exact hexact
    apply toNanos_injective
    rw [h, ← hexact, Nat.min_eq_left exact.toNanos_le_longest]
  · intro hnone
    apply toNanos_injective
    by_cases hfits : n ≤ longest.toNanos
    · rw [Nat.min_eq_left hfits] at h
      exact absurd h (hnone d)
    · rw [h, Nat.min_eq_right (Nat.le_of_not_le hfits)]

end Datagram.Duration
