import Datagram.Dns.Settings
import Datagram.Proofs.Durations

/-!
# The budget of a lookup

A lookup may take as many query timeouts as there are attempts, and one at least. The longest lookup
is that product, computed exactly, or the longest duration where no duration is as long. But of the
attempts it counts no more than 32 bits hold, so that with more of them it falls short.
-/

namespace Datagram.Dns.Settings

variable {s s' : Settings}

/-- The attempts that the longest lookup counts. -/
def countedAttempts (s : Settings) : Nat := min (max s.attempts.toNat 1) (UInt32.size - 1)

theorem toNat_max_attempts (s : Settings) : (max s.attempts 1).toNat = max s.attempts.toNat 1 := by
  change (if s.attempts ≤ 1 then 1 else s.attempts).toNat = _
  by_cases hone : s.attempts ≤ 1
  · have hle : s.attempts.toNat ≤ 1 := hone
    rw [if_pos hone, Nat.max_eq_right hle]
    rfl
  · have hlt : 1 < s.attempts.toNat := Nat.lt_of_not_le hone
    rw [if_neg hone, Nat.max_eq_left (Nat.le_of_lt hlt)]

theorem toNanos_worstCaseLookup (s : Settings) : s.worstCaseLookup.toNanos =
    min (s.countedAttempts * s.queryTimeout.toNanos) Duration.longest.toNanos := by
  rw [worstCaseLookup, Duration.toNanos_scale, Nat.mul_comm]
  congr 2
  rw [countedAttempts, ← toNat_max_attempts]
  have hlimit : (UInt32.ofNat (UInt32.size - 1)).toUInt64.toNat = UInt32.size - 1 := by decide
  by_cases hfew : max s.attempts 1 ≤ (UInt32.ofNat (UInt32.size - 1)).toUInt64
  · have hle : (max s.attempts 1).toNat ≤ UInt32.size - 1 := by
      rw [← hlimit]
      exact hfew
    have hlt : (max s.attempts 1).toNat < UInt32.size := Nat.lt_of_le_sub_one (by decide) hle
    rw [if_pos hfew, Nat.min_eq_left hle, UInt64.toNat_toUInt32, Nat.mod_eq_of_lt hlt]
  · have hlt : UInt32.size - 1 < (max s.attempts 1).toNat := by
      rw [← hlimit]
      exact Nat.lt_of_not_le hfew
    rw [if_neg hfew, Nat.min_eq_right (Nat.le_of_lt hlt)]
    rfl

theorem countedAttempts_of_lt (h : s.attempts.toNat < UInt32.size) :
    s.countedAttempts = max s.attempts.toNat 1 := by
  apply Nat.min_eq_left
  have hone : 1 < UInt32.size := by decide
  omega

theorem countedAttempts_of_le (h : UInt32.size ≤ s.attempts.toNat) :
    s.countedAttempts = UInt32.size - 1 := by
  apply Nat.min_eq_right
  omega

theorem countedAttempts_mono (h : s.attempts ≤ s'.attempts) :
    s.countedAttempts ≤ s'.countedAttempts := by
  have hle : s.attempts.toNat ≤ s'.attempts.toNat := h
  simp only [countedAttempts]
  omega

theorem worstCaseLookup_mono (hattempts : s.attempts ≤ s'.attempts)
    (htimeout : s.queryTimeout.toNanos ≤ s'.queryTimeout.toNanos) :
    s.worstCaseLookup.toNanos ≤ s'.worstCaseLookup.toNanos := by
  have hproduct : s.countedAttempts * s.queryTimeout.toNanos ≤
      s'.countedAttempts * s'.queryTimeout.toNanos :=
    Nat.mul_le_mul (countedAttempts_mono hattempts) htimeout
  rw [toNanos_worstCaseLookup, toNanos_worstCaseLookup]
  omega

/-- The longest lookup is the query timeout times the attempts that count, or the longest duration
if none is that long. As long as the attempts fit in 32 bits all of them count, and one at least, so
that it is never less than they take unless it is the longest duration. With more attempts than that
it falls short of them. More attempts or a longer timeout never make it shorter. -/
theorem longest_lookup_by_counted_attempts (s : Settings) :
    (∀ d : Duration, d.toNanos = s.countedAttempts * s.queryTimeout.toNanos →
      s.worstCaseLookup = d) ∧
    ((∀ d : Duration, d.toNanos ≠ s.countedAttempts * s.queryTimeout.toNanos) →
      s.worstCaseLookup = .longest) ∧
    (s.attempts.toNat < UInt32.size → s.countedAttempts = max s.attempts.toNat 1 ∧
      (s.attempts.toNat * s.queryTimeout.toNanos ≤ s.worstCaseLookup.toNanos ∨
        s.worstCaseLookup = .longest)) ∧
    (UInt32.size ≤ s.attempts.toNat → s.countedAttempts = UInt32.size - 1 ∧
      (s.queryTimeout ≠ .zero →
        s.worstCaseLookup.toNanos < s.attempts.toNat * s.queryTimeout.toNanos)) ∧
    ∀ s' : Settings, s.attempts ≤ s'.attempts →
      s.queryTimeout.toNanos ≤ s'.queryTimeout.toNanos →
        s.worstCaseLookup.toNanos ≤ s'.worstCaseLookup.toNanos := by
  have hlength := s.toNanos_worstCaseLookup
  obtain ⟨hexact, hlongest⟩ := Duration.eq_of_toNanos_min hlength
  refine ⟨hexact, hlongest, ?_, ?_, fun s' => worstCaseLookup_mono⟩
  · intro hfew
    have hcounted := countedAttempts_of_lt hfew
    refine ⟨hcounted, ?_⟩
    by_cases hfits : s.countedAttempts * s.queryTimeout.toNanos ≤ Duration.longest.toNanos
    · left
      rw [hlength, Nat.min_eq_left hfits, hcounted]
      exact Nat.mul_le_mul_right _ (Nat.le_max_left ..)
    · right
      apply Duration.toNanos_injective
      rw [hlength, Nat.min_eq_right (Nat.le_of_not_le hfits)]
  · intro hmany
    have hcounted := countedAttempts_of_le hmany
    refine ⟨hcounted, ?_⟩
    intro htimeout
    have hpos : 0 < s.queryTimeout.toNanos := by
      apply Nat.pos_of_ne_zero
      intro hnone
      exact htimeout (Duration.toNanos_injective hnone)
    have hfewer : s.countedAttempts < s.attempts.toNat := by
      rw [hcounted]
      exact Nat.lt_of_lt_of_le (by decide) hmany
    calc
      s.worstCaseLookup.toNanos ≤ s.countedAttempts * s.queryTimeout.toNanos := by
        rw [hlength]
        exact Nat.min_le_left ..
      _ < s.attempts.toNat * s.queryTimeout.toNanos := Nat.mul_lt_mul_of_pos_right hfewer hpos

/-- The most attempts that count carry nanoseconds into the seconds; one more falls short. -/
theorem longest_lookup_by_counted_attempts_most :
    let most := system.withLookupBudget 4294967295 ⟨1, 1, by decide⟩
    let more := system.withLookupBudget 4294967296 ⟨0, 1, by decide⟩
    most.worstCaseLookup = ⟨4294967299, 294967295, by decide⟩ ∧
      more.worstCaseLookup.toNanos < 4294967296 ∧
      more.worstCaseLookup.toNanos ≤ most.worstCaseLookup.toNanos := by
  intro most more
  obtain ⟨hexact, -, hfew, -⟩ := longest_lookup_by_counted_attempts most
  obtain ⟨-, -, -, hmany, -⟩ := longest_lookup_by_counted_attempts more
  have hcounted : most.countedAttempts = 4294967295 := (hfew (by decide)).1
  have hbudget : more.attempts.toNat * more.queryTimeout.toNanos = 4294967296 := by decide
  have hshort := (hmany (by decide)).2 (by decide)
  rw [hbudget] at hshort
  have hlong : most.worstCaseLookup = ⟨4294967299, 294967295, by decide⟩ := by
    apply hexact
    rw [hcounted]
    decide
  refine ⟨hlong, hshort, ?_⟩
  rw [hlong]
  exact Nat.le_of_lt (Nat.lt_trans hshort (by decide))

/-- One attempt more than 32 bits hold is not counted. -/
theorem lookup_of_many_attempts_understated :
    ¬ ∀ (s : Settings) (d : Duration),
      d.toNanos = max s.attempts.toNat 1 * s.queryTimeout.toNanos → s.worstCaseLookup = d := by
  intro hexact
  have hlong := hexact (system.withLookupBudget 4294967296 ⟨0, 1, by decide⟩)
    ⟨4, 294967296, by decide⟩ (by decide)
  have hdiffers : (system.withLookupBudget 4294967296 ⟨0, 1, by decide⟩).worstCaseLookup.nanos ≠
      294967296 := by decide
  exact hdiffers (congrArg Duration.nanos hlong)

end Datagram.Dns.Settings
