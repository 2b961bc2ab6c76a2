/-
This file proves how a span and the whole milliseconds that a store is told for it belong together.
Counting the milliseconds of a lease and taking a count for a span are adjoint: a count stands for
no more than the lease exactly if it is at most the count of the lease. So a store is never told of
more than was asked for, and of less than a millisecond too little, unless the lease is longer than
the largest count. That count is far below the longest span, so no count is cut on its way back.
-/

import Leasehold.Proofs.Courses

namespace Leasehold

namespace Duration

variable {lease : Duration}

/-! ### From milliseconds to spans -/

/-- Every count that a store can give is a span in full. -/
theorem nanos_ofMillis {count : Nat} (counted : count ≤ largestMillis) :
    (ofMillis count).nanos = count * nanosPerMilli := by
  have fits : largestMillis * nanosPerMilli ≤ longest.nanos := by decide
  exact Nat.min_eq_left (Nat.le_trans (Nat.mul_le_mul_right _ counted) fits)

theorem nanos_ofRemaining {remaining : Int} (counted : remaining ≤ largestMillis) :
    (ofRemaining remaining).nanos = remaining.toNat * nanosPerMilli :=
  nanos_ofMillis (Int.toNat_le.mpr counted)

theorem ofRemaining_mono {fewer remaining : Int} (below : fewer ≤ remaining) :
    (ofRemaining fewer).nanos ≤ (ofRemaining remaining).nanos := by
  have scaled := Nat.mul_le_mul_right nanosPerMilli (Int.toNat_le_toNat below)
  exact Nat.le_min.mpr ⟨Nat.le_trans (Nat.min_le_left _ _) scaled, Nat.min_le_right _ _⟩

/-! ### From spans to milliseconds -/

theorem leaseMillis_of_long (long : shortestLease.nanos ≤ lease.nanos) :
    lease.leaseMillis = .ok (min lease.millis largestMillis) := by
  rw [leaseMillis, leaseMillis?, if_neg (Nat.not_lt.mpr long)]

/-- A count stands for no more than a span exactly if it is at most the milliseconds of the span.
A count that a store cannot give is not among them. -/
theorem ofRemaining_le_iff {remaining : Int} (counted : remaining ≤ largestMillis) :
    (ofRemaining remaining).nanos ≤ lease.nanos ↔
      remaining ≤ (min lease.millis largestMillis : Nat) := by
  have whole : remaining.toNat ≤ lease.millis ↔ remaining.toNat * nanosPerMilli ≤ lease.nanos :=
    Nat.le_div_iff_mul_le (by decide)
  rw [nanos_ofRemaining counted, ← whole]
  omega

theorem millis_ofRemaining {remaining : Int} (counted : remaining ≤ largestMillis) :
    (ofRemaining remaining).millis = remaining.toNat := by
  rw [millis, nanos_ofRemaining counted]
  exact Nat.mul_div_cancel _ (by decide)

theorem leaseMillis_ofRemaining {remaining : Int} (some : 1 ≤ remaining)
    (counted : remaining ≤ largestMillis) :
    (ofRemaining remaining).leaseMillis = .ok remaining.toNat := by
  have long : shortestLease.nanos ≤ (ofRemaining remaining).nanos := by
    rw [nanos_ofRemaining counted]
    exact Nat.le_mul_of_pos_left nanosPerMilli (by omega)
  have kept : min remaining.toNat largestMillis = remaining.toNat := by omega
  rw [leaseMillis_of_long long, millis_ofRemaining counted, kept]

theorem lt_succ_millis (lease : Duration) : lease.nanos < (lease.millis + 1) * nanosPerMilli := by
  rw [Nat.mul_comm]
  exact Nat.lt_mul_div_succ lease.nanos (by decide)

/-! ### Both ways -/

/-- A count of milliseconds is what a store should be told for a lease. -/
structure Measures (millis : Nat) (lease : Duration) : Prop where
  positive : 1 ≤ millis
  bounded : millis ≤ largestMillis
  adjoint : ∀ remaining : Int, remaining ≤ largestMillis →
    ((ofRemaining remaining).nanos ≤ lease.nanos ↔ remaining ≤ millis)
  within : (ofRemaining millis).nanos ≤ lease.nanos
  near : lease.millis ≤ largestMillis → lease.nanos < (ofRemaining millis).nanos + nanosPerMilli
  cut : largestMillis < lease.millis → millis = largestMillis

theorem measures_min (long : shortestLease.nanos ≤ lease.nanos) :
    Measures (min lease.millis largestMillis) lease where
  positive := (leaseMillis_bounds (leaseMillis_of_long long)).1
  bounded := (leaseMillis_bounds (leaseMillis_of_long long)).2
  adjoint _ counted := ofRemaining_le_iff counted
  within := (ofRemaining_le_iff (by omega)).mpr (Int.le_refl _)
  near fits := by
    have beyond := lt_succ_millis lease
    rw [Nat.min_eq_left fits, nanos_ofRemaining (by omega), Int.toNat_natCast]
    rwa [Nat.succ_mul] at beyond
  cut long := Nat.min_eq_right (Nat.le_of_lt long)

/-- Every lease that is not too short has its count of milliseconds. Longer leases have no lower
counts, higher counts are no shorter spans, and a count is what its span is counted as. -/
theorem leases_measured {lease : Duration} (long : shortestLease.nanos ≤ lease.nanos) :
    (∃ millis, lease.leaseMillis = .ok millis ∧ Measures millis lease ∧
        ∀ longer : Duration, lease.nanos ≤ longer.nanos →
          ∃ more, longer.leaseMillis = .ok more ∧ millis ≤ more) ∧
      (∀ remaining : Int, 1 ≤ remaining → remaining ≤ largestMillis →
        (ofRemaining remaining).leaseMillis = .ok remaining.toNat) ∧
      ∀ fewer remaining : Int, fewer ≤ remaining →
        (ofRemaining fewer).nanos ≤ (ofRemaining remaining).nanos := by
  refine ⟨⟨_, leaseMillis_of_long long, measures_min long, fun longer above => ?_⟩,
    fun _ some counted => leaseMillis_ofRemaining some counted, fun _ _ => ofRemaining_mono⟩
  have more : lease.millis ≤ longer.millis := Nat.div_le_div_right above
  exact ⟨_, leaseMillis_of_long (Nat.le_trans long above),
    Nat.le_min.mpr ⟨Nat.le_trans (Nat.min_le_left _ _) more, Nat.min_le_right _ _⟩⟩

/-- The longest span is counted as the largest count. -/
theorem leases_measured_longest :
    shortestLease.nanos ≤ longest.nanos ∧
      (∃ millis, longest.leaseMillis = .ok millis ∧ Measures millis longest ∧
        ∀ longer : Duration, longest.nanos ≤ longer.nanos →
          ∃ more, longer.leaseMillis = .ok more ∧ millis ≤ more) ∧
      (1 ≤ (largestMillis : Int) ∧ (largestMillis : Int) ≤ largestMillis ∧
        (ofRemaining largestMillis).leaseMillis = .ok largestMillis) ∧
      (neverExpires ≤ 1 ∧ (ofRemaining neverExpires).nanos ≤ (ofRemaining 1).nanos) := by
  have long : shortestLease.nanos ≤ longest.nanos := by decide
  obtain ⟨counted, back, mono⟩ := leases_measured long
  exact ⟨long, counted, ⟨by decide, Int.le_refl _, back _ (by decide) (Int.le_refl _)⟩,
    by decide, mono _ _ (by decide)⟩

end Duration

end Leasehold
