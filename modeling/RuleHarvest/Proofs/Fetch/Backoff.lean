/-
# The wait between attempts, to the nanosecond

A wait is a product of a duration and a power of two. The product is made of
seconds and nanoseconds apart, and the nanoseconds carry; it is given up for
the longest duration when the seconds do not fit. The seconds fit exactly when
the whole product does, since the longest duration is one nanosecond short of
the first one that does not. So the wait is the exact product or the longest
duration, whichever is less (`Duration.totalNanos_times`), and it grows with
the attempt and with the wait before the first one.

The same product can be taken in words of 32 and 64 bits (`Config.waitInWords`).
The power of two stays below the width of its word and the nanoseconds below
that of theirs, so only the seconds can overflow, where they are multiplied or
where the carry is added. Both are noticed, and nothing else is lost
(`Config.waitInWords_eq`).

Key definitions: `Duration.words`, `Duration.timesInWords`,
`Config.waitInWords`.
Key theorems: `Duration.totalNanos_times`, `Duration.timesInWords_eq`,
`wait_doubles_until_longest`.
-/
import Mathlib.Algebra.Group.Nat.Defs
import RuleHarvest.Fetch.Retry

namespace RuleHarvest
namespace Duration

variable {d d' : Duration} {k : Nat}

/-! ### Products in nanoseconds -/

theorem totalNanos_longest : longest.totalNanos = UInt64.size * nanosPerSecond - 1 := rfl

/-- The nanoseconds of a product, with the whole seconds among them carried. -/
theorem mul_totalNanos (d : Duration) (k : Nat) : d.totalNanos * k =
    (d.seconds * k + d.nanos * k / nanosPerSecond) * nanosPerSecond +
      d.nanos * k % nanosPerSecond := by
  have hcarry := Nat.div_add_mod (d.nanos * k) nanosPerSecond
  calc d.totalNanos * k = d.seconds * k * nanosPerSecond + d.nanos * k := by
        rw [totalNanos, Nat.add_mul, Nat.mul_right_comm]
    _ = d.seconds * k * nanosPerSecond +
          (nanosPerSecond * (d.nanos * k / nanosPerSecond) + d.nanos * k % nanosPerSecond) := by
        rw [hcarry]
    _ = _ := by
        rw [Nat.add_mul, Nat.mul_comm nanosPerSecond, Nat.add_assoc]

/-- **A product is exact, or the longest duration if that is less.** -/
theorem totalNanos_times (d : Duration) (k : Nat) :
    (d.times k).totalNanos = min (d.totalNanos * k) longest.totalNanos := by
  have hproduct := d.mul_totalNanos k
  have hrest : d.nanos * k % nanosPerSecond < nanosPerSecond := Nat.mod_lt _ (by decide)
  rw [hproduct, totalNanos_longest]
  unfold times
  by_cases hfits : d.seconds * k + d.nanos * k / nanosPerSecond < UInt64.size
  · rw [dif_pos hfits]
    have hle := Nat.mul_le_mul_right nanosPerSecond (Nat.succ_le_of_lt hfits)
    rw [Nat.succ_mul] at hle
    rw [Nat.min_eq_left (by omega)]
    rfl
  · rw [dif_neg hfits]
    have hle := Nat.mul_le_mul_right nanosPerSecond (Nat.le_of_not_lt hfits)
    rw [Nat.min_eq_right (by omega)]
    rfl

theorem totalNanos_times_mono {k' : Nat} (hd : d.totalNanos ≤ d'.totalNanos) (hk : k ≤ k') :
    (d.times k).totalNanos ≤ (d'.times k').totalNanos := by
  rw [totalNanos_times, totalNanos_times]
  have hproduct : d.totalNanos * k ≤ d'.totalNanos * k' := Nat.mul_le_mul hd hk
  omega

/-! ### Products in words -/

/-- The seconds as a word of 64 bits and the nanoseconds as one of 32. -/
def words (d : Duration) : UInt64 × UInt32 := (.ofNat d.seconds, .ofNat d.nanos)

theorem toNat_seconds (d : Duration) : d.words.1.toNat = d.seconds :=
  UInt64.toNat_ofNat_of_lt' d.seconds_lt

theorem toNat_nanos (d : Duration) : d.words.2.toNat = d.nanos := by
  refine UInt32.toNat_ofNat_of_lt' (Nat.lt_trans d.nanos_lt ?_)
  decide

/-- A product of words, if it fits. -/
def checkedMul (a b : UInt64) : Option UInt64 :=
  if a.toNat * b.toNat < UInt64.size then some (a * b) else none

/-- A sum of words, if it fits. -/
def checkedAdd (a b : UInt64) : Option UInt64 :=
  if a.toNat + b.toNat < UInt64.size then some (a + b) else none

/-- `k` times a duration in words, if the seconds fit. The nanoseconds are
multiplied in a word of 64 bits. -/
def timesInWords (d : UInt64 × UInt32) (k : UInt32) : Option (UInt64 × UInt32) :=
  let nanos := d.2.toUInt64 * k.toUInt64
  ((checkedMul d.1 k.toUInt64).bind (checkedAdd · (nanos / 1000000000))).map fun seconds =>
    (seconds, (nanos % 1000000000).toUInt32)

/-- The product of nanoseconds below a second and a word of 32 bits stays in 64
bits. -/
theorem toNat_nanos_mul (d : Duration) (k : UInt32) :
    (d.words.2.toUInt64 * k.toUInt64).toNat = d.nanos * k.toNat := by
  have hk := k.toNat_lt
  have hd := d.nanos_lt
  unfold nanosPerSecond at hd
  have hle : d.nanos * k.toNat ≤ 1000000000 * 2 ^ 32 := Nat.mul_le_mul (by omega) (by omega)
  rw [UInt64.toNat_mul, UInt32.toNat_toUInt64, UInt32.toNat_toUInt64, toNat_nanos]
  exact Nat.mod_eq_of_lt (by omega)

theorem checkedMul_eq_some_iff {a b c : UInt64} :
    checkedMul a b = some c ↔ c.toNat = a.toNat * b.toNat := by
  unfold checkedMul
  by_cases hfits : a.toNat * b.toNat < UInt64.size
  · rw [if_pos hfits, Option.some_inj, ← UInt64.toNat_inj, UInt64.toNat_mul,
      Nat.mod_eq_of_lt hfits, eq_comm]
  · rw [if_neg hfits]
    have hc := c.toNat_lt
    unfold UInt64.size at hfits
    simp only [reduceCtorEq, false_iff]
    omega

theorem checkedAdd_eq_some_iff {a b c : UInt64} :
    checkedAdd a b = some c ↔ c.toNat = a.toNat + b.toNat := by
  unfold checkedAdd
  by_cases hfits : a.toNat + b.toNat < UInt64.size
  · rw [if_pos hfits, Option.some_inj, ← UInt64.toNat_inj, UInt64.toNat_add,
      Nat.mod_eq_of_lt hfits, eq_comm]
  · rw [if_neg hfits]
    have hc := c.toNat_lt
    unfold UInt64.size at hfits
    simp only [reduceCtorEq, false_iff]
    omega

/-- A product in words holds the exact seconds and nanoseconds, if there is one.
-/
theorem timesInWords_eq_some_iff {k : UInt32} {r : UInt64 × UInt32} :
    timesInWords d.words k = some r ↔
      r.1.toNat = d.seconds * k.toNat + d.nanos * k.toNat / nanosPerSecond ∧
      r.2.toNat = d.nanos * k.toNat % nanosPerSecond := by
  have hcarry : (d.words.2.toUInt64 * k.toUInt64 / 1000000000).toNat =
      d.nanos * k.toNat / nanosPerSecond := by
    rw [UInt64.toNat_div, toNat_nanos_mul]
    rfl
  have hrest : (d.words.2.toUInt64 * k.toUInt64 % 1000000000).toUInt32.toNat =
      d.nanos * k.toNat % nanosPerSecond := by
    have hlt : d.nanos * k.toNat % nanosPerSecond < nanosPerSecond := Nat.mod_lt _ (by decide)
    rw [UInt64.toNat_toUInt32, UInt64.toNat_mod, toNat_nanos_mul]
    exact Nat.mod_eq_of_lt (Nat.lt_trans hlt (by decide))
  rw [timesInWords, Option.map_eq_some_iff]
  simp only [Option.bind_eq_some_iff, checkedMul_eq_some_iff, checkedAdd_eq_some_iff, toNat_seconds,
    UInt32.toNat_toUInt64, hcarry]
  constructor
  · rintro ⟨seconds, ⟨product, hproduct, hseconds⟩, rfl⟩
    exact ⟨hproduct ▸ hseconds, hrest⟩
  · rintro ⟨hseconds, hnanos⟩
    have hproduct : d.seconds * k.toNat < UInt64.size := by
      have hr := r.1.toNat_lt
      unfold UInt64.size
      omega
    refine ⟨r.1, ⟨.ofNat (d.seconds * k.toNat), UInt64.toNat_ofNat_of_lt' hproduct, ?_⟩, ?_⟩
    · rw [UInt64.toNat_ofNat_of_lt' hproduct]
      exact hseconds
    · have hword : (d.words.2.toUInt64 * k.toUInt64 % 1000000000).toUInt32 = r.2 :=
        UInt32.toNat_inj.1 (hrest.trans hnanos.symm)
      rw [hword]

/-- **The product in words is the product.** The longest duration stands for one
whose seconds do not fit. -/
theorem timesInWords_eq (d : Duration) (k : UInt32) :
    (timesInWords d.words k).getD longest.words = (d.times k.toNat).words := by
  unfold times
  by_cases hfits : d.seconds * k.toNat + d.nanos * k.toNat / nanosPerSecond < UInt64.size
  · rw [dif_pos hfits]
    have hrest : d.nanos * k.toNat % nanosPerSecond < nanosPerSecond := Nat.mod_lt _ (by decide)
    have hproduct := (timesInWords_eq_some_iff (d := d) (k := k)
      (r := words ⟨_, _, hfits, hrest⟩)).2 ⟨toNat_seconds _, toNat_nanos _⟩
    rw [hproduct]
    rfl
  · rw [dif_neg hfits]
    have hnone : timesInWords d.words k = none := by
      refine Option.eq_none_iff_forall_ne_some.2 fun r hr => ?_
      have hseconds := (timesInWords_eq_some_iff.1 hr).1
      have hr := r.1.toNat_lt
      unfold UInt64.size at hfits
      omega
    rw [hnone]
    rfl

end Duration

/-! ### Waits -/

namespace Config

variable {c c' : Config} {a b : Nat}

/-- The wait after an attempt, in words. The power of two is a shift, by no more
than sixteen places. -/
def waitInWords (c : Config) (a : UInt32) : UInt64 × UInt32 :=
  (Duration.timesInWords c.retryBackoff.words (1 <<< min a 16)).getD Duration.longest.words

theorem toNat_shift (a : UInt32) : ((1 : UInt32) <<< min a 16).toNat = 2 ^ min a.toNat 16 := by
  have hmin : (min a 16).toNat = min a.toNat 16 := by
    change (if a ≤ 16 then a else 16).toNat = _
    by_cases ha : a ≤ 16
    · have hle : a.toNat ≤ 16 := UInt32.le_iff_toNat_le.1 ha
      rw [if_pos ha, Nat.min_eq_left hle]
    · have hle : 16 ≤ a.toNat := Nat.le_of_not_le fun h => ha (UInt32.le_iff_toNat_le.2 h)
      rw [if_neg ha, Nat.min_eq_right hle]
      rfl
  have hplaces : min a.toNat 16 < 32 := by omega
  have hpower : 2 ^ min a.toNat 16 < 2 ^ 32 := Nat.pow_lt_pow_right (by decide) hplaces
  rw [UInt32.toNat_shiftLeft, hmin, Nat.mod_eq_of_lt hplaces, Nat.shiftLeft_eq]
  exact (congrArg (· % 2 ^ 32) (Nat.one_mul _)).trans (Nat.mod_eq_of_lt hpower)

/-- **The wait in words is the wait.** -/
theorem waitInWords_eq (c : Config) (a : UInt32) : c.waitInWords a = (c.backoff a.toNat).words := by
  unfold waitInWords backoff
  rw [Duration.timesInWords_eq, toNat_shift]
  rfl

theorem totalNanos_backoff (c : Config) (a : Nat) : (c.backoff a).totalNanos =
    min (c.retryBackoff.totalNanos * 2 ^ min a 16) Duration.longest.totalNanos :=
  Duration.totalNanos_times _ _

/-- A later attempt does not wait less, nor does one under longer settings. -/
theorem totalNanos_backoff_mono (hc : c.retryBackoff.totalNanos ≤ c'.retryBackoff.totalNanos)
    (h : a ≤ b) : (c.backoff a).totalNanos ≤ (c'.backoff b).totalNanos := by
  have hpower : 2 ^ min a 16 ≤ 2 ^ min b 16 := Nat.pow_le_pow_right (by decide) (by omega)
  exact Duration.totalNanos_times_mono hc hpower

/-- Before the sixteenth step the wait doubles, up to the longest duration. -/
theorem totalNanos_backoff_succ (c : Config) (h : a < 16) : (c.backoff (a + 1)).totalNanos =
    min (2 * (c.backoff a).totalNanos) Duration.longest.totalNanos := by
  rw [totalNanos_backoff, totalNanos_backoff, Nat.min_eq_left (by omega : a + 1 ≤ 16),
    Nat.min_eq_left (by omega : a ≤ 16), Nat.pow_succ, ← Nat.mul_assoc]
  omega

/-- From the sixteenth step on the wait stays. -/
theorem backoff_eq_of_le (c : Config) (h : 16 ≤ a) : c.backoff a = c.backoff 16 := by
  unfold backoff
  rw [Nat.min_eq_right h]
  rfl

end Config

/-- The whole milliseconds of a duration, counted in seconds and nanoseconds
apart. -/
theorem Duration.totalNanos_div_million (d : Duration) :
    d.totalNanos / 1000000 = d.seconds * 1000 + d.nanos / 1000000 := by
  unfold totalNanos nanosPerSecond
  omega

/-- **The wait doubles until it is the longest duration.** In nanoseconds it is
the first wait times a power of two, or the longest duration if that is less;
words of 32 and 64 bits hold all that it is made of. It does not fall with the
attempt or with the first wait, doubles up to the sixteenth attempt and stays
from there on. A warning tells its whole milliseconds, or the most that 64 bits
hold. -/
theorem wait_doubles_until_longest (c : Config) (a : UInt32) :
    (c.backoff a.toNat).totalNanos = min (c.retryBackoff.totalNanos * 2 ^ min a.toNat 16)
      ((2 ^ 64 - 1) * 10 ^ 9 + 999999999) ∧
    (c.backoff a.toNat).nanos < 10 ^ 9 ∧
    ((1 : UInt32) <<< min a 16).toNat = 2 ^ min a.toNat 16 ∧
    (c.retryBackoff.words.2.toUInt64 * ((1 : UInt32) <<< min a 16).toUInt64).toNat =
      c.retryBackoff.nanos * 2 ^ min a.toNat 16 ∧
    ((c.waitInWords a).1.toNat = (c.backoff a.toNat).seconds ∧
      (c.waitInWords a).2.toNat = (c.backoff a.toNat).nanos) ∧
    (∀ (c' : Config) (b : UInt32), c.retryBackoff.totalNanos ≤ c'.retryBackoff.totalNanos → a ≤ b →
      (c.backoff a.toNat).totalNanos ≤ (c'.backoff b.toNat).totalNanos) ∧
    (a < 16 → (c.backoff (a.toNat + 1)).totalNanos =
      min (2 * (c.backoff a.toNat).totalNanos) Duration.longest.totalNanos) ∧
    (16 ≤ a → c.backoff a.toNat = c.backoff 16) ∧
    ∀ url e, (retryWarning c url a.toNat e).delayMillis =
        min ((c.backoff a.toNat).totalNanos / 10 ^ 6) (2 ^ 64 - 1) ∧
      (c.backoff a.toNat).totalNanos / 10 ^ 6 =
        (c.backoff a.toNat).seconds * 1000 + (c.backoff a.toNat).nanos / 10 ^ 6 ∧
      (c.backoff a.toNat).seconds * 1000 + (c.backoff a.toNat).nanos / 10 ^ 6 < 2 ^ 128 := by
  refine ⟨c.totalNanos_backoff a.toNat, (c.backoff a.toNat).nanos_lt, Config.toNat_shift a, ?_, ?_,
    fun c' b hc hab => Config.totalNanos_backoff_mono hc (UInt32.le_iff_toNat_le.1 hab),
    fun ha => c.totalNanos_backoff_succ (UInt32.lt_iff_toNat_lt.1 ha),
    fun ha => c.backoff_eq_of_le (UInt32.le_iff_toNat_le.1 ha), fun url e => ⟨rfl, ?_, ?_⟩⟩
  · rw [Duration.toNat_nanos_mul, Config.toNat_shift]
  · rw [c.waitInWords_eq a]
    exact ⟨Duration.toNat_seconds _, Duration.toNat_nanos _⟩
  · exact (c.backoff a.toNat).totalNanos_div_million
  · have hseconds := (c.backoff a.toNat).seconds_lt
    have hnanos := (c.backoff a.toNat).nanos_lt
    unfold UInt64.size at hseconds
    unfold nanosPerSecond at hnanos
    omega

end RuleHarvest
