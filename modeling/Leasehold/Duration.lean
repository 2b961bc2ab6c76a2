/-
This file holds spans of time, counted in nanoseconds, and the two ways between a span and
the whole milliseconds in which a store counts. A span is bounded by the largest count of
seconds that 64 bits hold, so the way back from milliseconds stops at that bound.
-/

namespace Leasehold

/-- Nanoseconds in a millisecond. -/
def nanosPerMilli : Nat := 1000000

/-- Nanoseconds in a second. -/
def nanosPerSecond : Nat := 1000000000

/-- Counts of seconds are below this bound: they fit in 64 bits. -/
def secondsBound : Nat := 0x10000000000000000

/-- A span of time in whole nanoseconds. Its whole seconds fit in 64 bits. -/
structure Duration where
  nanos : Nat
  nanos_lt : nanos < secondsBound * nanosPerSecond
  deriving DecidableEq

namespace Duration

@[ext] theorem ext {first second : Duration} (same : first.nanos = second.nanos) :
    first = second := by
  cases first
  cases second
  cases same
  rfl

/-- The span of no length, which a lock carries until it is first acquired. -/
def zero : Duration := ⟨0, by decide⟩

/-- The longest span there is. -/
def longest : Duration := ⟨secondsBound * nanosPerSecond - 1, by decide⟩

/-- The span of `count` nanoseconds, if it is one. -/
def ofNanos? (count : Nat) : Option Duration :=
  if bounded : count < secondsBound * nanosPerSecond then some ⟨count, bounded⟩ else none

/-- The span of so many seconds and nanoseconds, if it is one. Nanoseconds beyond a second
carry over. -/
def ofSeconds? (seconds nanos : Nat) : Option Duration :=
  ofNanos? (seconds * nanosPerSecond + nanos)

/-- The span of `count` milliseconds, cut down to the longest span. -/
def ofMillis (count : Nat) : Duration :=
  ⟨min (count * nanosPerMilli) longest.nanos,
    Nat.lt_of_le_of_lt (Nat.min_le_right _ _) longest.nanos_lt⟩

/-- The whole seconds of a span. -/
def seconds (duration : Duration) : Nat := duration.nanos / nanosPerSecond

/-- What a span has beyond its whole seconds. -/
def subsecondNanos (duration : Duration) : Nat := duration.nanos % nanosPerSecond

/-- The whole milliseconds of a span. -/
def millis (duration : Duration) : Nat := duration.nanos / nanosPerMilli

/-- The shorter of two spans. -/
def shorter (first second : Duration) : Duration :=
  if first.nanos ≤ second.nanos then first else second

theorem ofNanos?_nanos (duration : Duration) : ofNanos? duration.nanos = some duration :=
  dif_pos duration.nanos_lt

theorem ofSeconds?_parts (duration : Duration) :
    ofSeconds? duration.seconds duration.subsecondNanos = some duration := by
  simp only [ofSeconds?, seconds, subsecondNanos, Nat.div_add_mod' duration.nanos nanosPerSecond]
  exact ofNanos?_nanos duration

theorem nanos_shorter (first second : Duration) :
    (first.shorter second).nanos = min first.nanos second.nanos := by
  unfold shorter
  split <;> omega

/-- The largest count of milliseconds that a store takes, the end of the signed 64-bit range. -/
def largestMillis : Nat := 0x7FFFFFFFFFFFFFFF

/-- The shortest span a lock may be leased for. -/
def shortestLease : Duration := ⟨nanosPerMilli, by decide⟩

/-- The longest lease an in-process store records: thirty years of 365 days. Longer leases
are cut down to it. -/
def longestLease : Duration := ⟨86400 * 365 * 30 * nanosPerSecond, by decide⟩

/-- A span as the whole milliseconds of a lease. What is left over is dropped and a count
beyond the largest becomes the largest. Spans under the shortest lease have no such count. -/
def leaseMillis? (duration : Duration) : Option Nat :=
  if duration.nanos < shortestLease.nanos then none else some (min duration.millis largestMillis)

/-- The span a store means by a remaining count of milliseconds. The negative counts, which
stand for a missing key and for a key without expiry, leave nothing. -/
def ofRemaining (count : Int) : Duration := ofMillis count.toNat

theorem ofRemaining_of_neg {count : Int} (negative : count < 0) : ofRemaining count = zero := by
  have none : count.toNat = 0 := by omega
  simp [ofRemaining, none, ofMillis, zero]

end Duration

end Leasehold
