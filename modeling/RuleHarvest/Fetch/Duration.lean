/-
# Durations

A duration is a number of seconds that fits 64 bits and a number of
nanoseconds below a second. A product that does not fit is the longest
duration.

Key definitions: `Duration`, `Duration.times`, `Duration.totalNanos`,
`Duration.millis`.
-/
namespace RuleHarvest

/-- The number of nanoseconds in a second. -/
def nanosPerSecond : Nat := 1000000000

/-- Seconds and nanoseconds. -/
structure Duration where
  seconds : Nat
  nanos : Nat
  seconds_lt : seconds < UInt64.size
  nanos_lt : nanos < nanosPerSecond
deriving DecidableEq

namespace Duration

/-- The longest duration. -/
def longest : Duration := ⟨UInt64.size - 1, nanosPerSecond - 1, by decide, by decide⟩

/-- The duration as a number of nanoseconds. -/
def totalNanos (d : Duration) : Nat := d.seconds * nanosPerSecond + d.nanos

/-- `k` times a duration. The nanoseconds are multiplied first, and their whole
seconds are carried. -/
def times (d : Duration) (k : Nat) : Duration :=
  let carried := d.seconds * k + d.nanos * k / nanosPerSecond
  if h : carried < UInt64.size then
    ⟨carried, d.nanos * k % nanosPerSecond, h, Nat.mod_lt _ (by decide)⟩
  else longest

/-- A number of seconds. More than 64 bits hold count as the most they hold. -/
def ofSeconds (n : Nat) : Duration :=
  ⟨min n (UInt64.size - 1), 0, by simp only [UInt64.size]; omega, by decide⟩

/-- A number of milliseconds, at most as many seconds as 64 bits hold. -/
def ofMillis (n : Nat) : Duration :=
  ⟨min (n / 1000) (UInt64.size - 1), n % 1000 * 1000000, by simp only [UInt64.size]; omega,
    by simp only [nanosPerSecond]; omega⟩

/-- The whole milliseconds, at most as many as 64 bits hold. -/
def millis (d : Duration) : Nat := min (d.totalNanos / 1000000) (UInt64.size - 1)

end Duration
end RuleHarvest
