/-
# What values a setting admits

A path may be any text but the empty one, a name any text at all. A number is
written in decimal digits, perhaps behind a plus sign and with zeros in front,
and must fit its range. A count is read with its sign first, so that zero may
also stand behind a minus sign.

The readers of numbers take in one digit at a time and stop at the first that
leads out of the range. A further digit makes no number smaller
(`le_ofDigitChars`), so that they refuse exactly the numbers that are too large.

Key definitions: `IsDecimal`, `IsNatural`, `IsInteger`, `Setting.Admits`.
Key theorems: `readDigits_eq_ok_iff`, `readNatural_eq_ok_iff`,
`readInteger_eq_ok_iff`, `readCount_eq_ok_iff`, `Setting.read_eq_ok_iff`,
`Setting.admits_shownDefault`.
-/
import RuleHarvest.CommandLine.Help

namespace RuleHarvest
namespace CommandLine

variable {most n v : Nat} {i : Int} {cs : List Char}

/-! ### Results that are passed on -/

theorem mapError_eq_ok_iff {ε ε' α : Type} {f : ε → ε'} {x : Except ε α} {a : α} :
    x.mapError f = .ok a ↔ x = .ok a := by
  cases x with
  | error e =>
    show (.error (f e) : Except ε' α) = .ok a ↔ _
    simp
  | ok b =>
    show (.ok b : Except ε' α) = .ok a ↔ _
    rw [Except.ok.injEq, Except.ok.injEq]

theorem map_eq_ok_iff {ε α β : Type} {f : α → β} {x : Except ε α} {b : β} :
    x.map f = .ok b ↔ ∃ a, x = .ok a ∧ f a = b := by
  cases x with
  | error e =>
    show (.error e : Except ε β) = .ok b ↔ _
    simp
  | ok a =>
    show (.ok (f a) : Except ε β) = .ok b ↔ _
    simp

/-! ### How numbers are written -/

/-- A row of digits and the number it stands for. -/
structure IsDecimal (cs : List Char) (n : Nat) : Prop where
  ne_nil : cs ≠ []
  isDigit : ∀ c ∈ cs, c.isDigit = true
  value : Nat.ofDigitChars 10 cs 0 = n

/-- Digits, perhaps behind a plus sign. -/
inductive IsNatural : List Char → Nat → Prop
  | digits {cs : List Char} {n : Nat} (h : IsDecimal cs n) : IsNatural cs n
  | plus {cs : List Char} {n : Nat} (h : IsDecimal cs n) : IsNatural ('+' :: cs) n

/-- Digits, perhaps behind a sign. -/
inductive IsInteger : List Char → Int → Prop
  | natural {cs : List Char} {n : Nat} (h : IsNatural cs n) : IsInteger cs n
  | minus {cs : List Char} {n : Nat} (h : IsDecimal cs n) : IsInteger ('-' :: cs) (-n)

/-- A row of digits starts with one. -/
theorem IsDecimal.isDigit_head {c : Char} (h : IsDecimal (c :: cs) n) : c.isDigit = true :=
  h.isDigit c List.mem_cons_self

theorem isNatural_plus_iff : IsNatural ('+' :: cs) n ↔ IsDecimal cs n := by
  constructor
  · intro h
    cases h with
    | digits h => cases h.isDigit_head
    | plus h => exact h
  · exact .plus

theorem isNatural_iff (h : cs.head? ≠ some '+') : IsNatural cs n ↔ IsDecimal cs n := by
  constructor
  · intro hn
    cases hn with
    | digits hn => exact hn
    | plus hn => exact absurd rfl h
  · exact .digits

theorem isInteger_minus_iff : IsInteger ('-' :: cs) i ↔ ∃ n, IsDecimal cs n ∧ i = -n := by
  constructor
  · intro h
    cases h with
    | natural h => cases ((isNatural_iff (by simp)).1 h).isDigit_head
    | minus h => exact ⟨_, h, rfl⟩
  · rintro ⟨n, h, rfl⟩
    exact .minus h

theorem isInteger_iff (h : cs.head? ≠ some '-') : IsInteger cs i ↔ ∃ n, IsNatural cs n ∧ i = n := by
  constructor
  · intro hi
    cases hi with
    | natural hn => exact ⟨_, hn, rfl⟩
    | minus hn => exact absurd rfl h
  · rintro ⟨n, hn, rfl⟩
    exact .natural hn

/-! ### How they are read -/

/-- A further digit makes no number smaller. -/
theorem le_ofDigitChars : ∀ (cs : List Char) (n : Nat), n ≤ Nat.ofDigitChars 10 cs n
  | [], _ => Nat.le_refl _
  | c :: cs, n => by
    rw [Nat.ofDigitChars_cons]
    have hrest := le_ofDigitChars cs (10 * n + (c.toNat - '0'.toNat))
    omega

/-- Digits are read after a number if the whole is in the range. -/
theorem readDigits_eq_ok_iff : ∀ {cs : List Char} {n : Nat}, n ≤ most →
    (readDigits most n cs = .ok v ↔
      (∀ c ∈ cs, c.isDigit = true) ∧ Nat.ofDigitChars 10 cs n = v ∧ v ≤ most)
  | [], n, hn => by
    simp only [readDigits, Except.ok.injEq, List.not_mem_nil, false_imp_iff, implies_true, true_and,
      Nat.ofDigitChars_nil]
    exact ⟨fun h => ⟨h, h ▸ hn⟩, And.left⟩
  | c :: cs, n, hn => by
    unfold readDigits
    rw [List.forall_mem_cons, Nat.ofDigitChars_cons]
    cases hc : c.isDigit with
    | false => simp
    | true =>
      simp only [Bool.not_true, Bool.false_eq_true, if_false, true_and]
      by_cases hnext : 10 * n + (c.toNat - '0'.toNat) ≤ most
      · rw [if_pos hnext]
        exact readDigits_eq_ok_iff hnext
      · -- what follows does not lead back into the range
        have hrest := le_ofDigitChars cs (10 * n + (c.toNat - '0'.toNat))
        rw [if_neg hnext]
        constructor
        · intro h
          cases h
        · rintro ⟨-, rfl, hv⟩
          exact absurd (Nat.le_trans hrest hv) hnext

theorem readDigits_zero (h : cs ≠ []) :
    readDigits most 0 cs = .ok n ↔ IsDecimal cs n ∧ n ≤ most := by
  rw [readDigits_eq_ok_iff (Nat.zero_le most), ← and_assoc]
  exact and_congr_left fun _ => ⟨fun ⟨hdigit, hvalue⟩ => ⟨h, hdigit, hvalue⟩,
    fun hn => ⟨hn.isDigit, hn.value⟩⟩

/-- **A number is read if it is written as one and in its range.** -/
theorem readNatural_eq_ok_iff : readNatural most cs = .ok n ↔ IsNatural cs n ∧ n ≤ most := by
  have hnothing : ∀ {fault : NumberFault},
      (.error fault : Except NumberFault Nat) = .ok n ↔ IsDecimal [] n ∧ n ≤ most := by
    intro fault
    constructor
    · intro h
      cases h
    · rintro ⟨h, -⟩
      exact absurd rfl h.ne_nil
  unfold readNatural
  split
  · rw [isNatural_iff (by simp)]
    exact hnothing
  · rw [isNatural_plus_iff]
    exact hnothing
  · rename_i digits hne
    rw [isNatural_plus_iff]
    exact readDigits_zero fun h => hne (by rw [h])
  · rename_i hnil _ hplus
    rw [isNatural_iff fun h => ?_]
    · exact readDigits_zero hnil
    · obtain ⟨rest, hcs⟩ := List.head?_eq_some_iff.1 h
      exact hplus rest hcs

/-- Behind a minus sign there are digits only, and the range goes one further. -/
theorem readInteger_minus : readInteger ('-' :: cs) = .ok i ↔
    ∃ n, IsDecimal cs n ∧ n ≤ UInt64.size / 2 ∧ i = -n := by
  by_cases hcs : cs = []
  · subst hcs
    constructor
    · intro h
      cases h
    · rintro ⟨n, h, -⟩
      exact absurd rfl h.ne_nil
  · have hread : ∀ {n}, readDigits (UInt64.size / 2) 0 cs = .ok n ↔
        IsDecimal cs n ∧ n ≤ UInt64.size / 2 := readDigits_zero hcs
    obtain ⟨c, rest, rfl⟩ := List.exists_cons_of_ne_nil hcs
    simp only [readInteger]
    constructor
    · intro h
      split at h
      · rename_i n hn
        obtain rfl := Except.ok.inj h
        obtain ⟨hdecimal, hle⟩ := hread.1 hn
        exact ⟨n, hdecimal, hle, rfl⟩
      · cases h
      · cases h
    · rintro ⟨n, hdecimal, hle, rfl⟩
      rw [hread.2 ⟨hdecimal, hle⟩]

theorem readInteger_of_head? (h : cs.head? ≠ some '-') : readInteger cs = .ok i ↔
    ∃ n, IsNatural cs n ∧ n < UInt64.size / 2 ∧ i = n := by
  have hread : readInteger cs = (readNatural (UInt64.size / 2 - 1) cs).map Int.ofNat := by
    unfold readInteger
    split
    · exact absurd rfl h
    · exact absurd rfl h
    · rfl
  rw [hread, map_eq_ok_iff]
  simp only [readNatural_eq_ok_iff, Nat.le_sub_one_iff_lt (by decide : 0 < UInt64.size / 2), and_assoc]
  exact exists_congr fun n => and_congr_right fun _ => and_congr_right fun _ => eq_comm

/-- Numbers with a sign are read if they fit 64 bits. -/
theorem readInteger_eq_ok_iff : readInteger cs = .ok i ↔
    IsInteger cs i ∧ -(UInt64.size / 2 : Nat) ≤ i ∧ i < (UInt64.size / 2 : Nat) := by
  have hsize : 0 < UInt64.size / 2 := by decide
  by_cases hcs : cs.head? = some '-'
  · obtain ⟨digits, rfl⟩ := List.head?_eq_some_iff.1 hcs
    rw [readInteger_minus, isInteger_minus_iff]
    constructor
    · rintro ⟨n, hdecimal, hle, rfl⟩
      exact ⟨⟨n, hdecimal, rfl⟩, by omega⟩
    · rintro ⟨⟨n, hdecimal, rfl⟩, hrange⟩
      exact ⟨n, hdecimal, by omega, rfl⟩
  · rw [readInteger_of_head? hcs, isInteger_iff hcs]
    constructor
    · rintro ⟨n, hnatural, hlt, rfl⟩
      exact ⟨⟨n, hnatural, rfl⟩, by omega⟩
    · rintro ⟨⟨n, hnatural, rfl⟩, hrange⟩
      exact ⟨n, hnatural, by omega, rfl⟩

/-- **A count is read if it is a number in its range**, with whatever sign. -/
theorem readCount_eq_ok_iff (hmost : most < UInt64.size / 2) :
    readCount most cs = .ok n ↔ IsInteger cs n ∧ n ≤ most := by
  unfold readCount
  constructor
  · intro h
    split at h
    · rename_i i hi
      split at h
      · rename_i hrange
        obtain rfl := Except.ok.inj h
        have hinteger := (readInteger_eq_ok_iff.1 hi).1
        rw [Int.toNat_of_nonneg hrange.1]
        exact ⟨hinteger, by omega⟩
      · cases h
    · cases h
  · rintro ⟨hinteger, hle⟩
    have hread : readInteger cs = .ok (n : Int) := readInteger_eq_ok_iff.2 ⟨hinteger, by omega⟩
    rw [hread]
    dsimp only
    rw [if_pos (by omega), Int.toNat_natCast]

/-! ### What is admitted -/

namespace Setting

/-- What a text stands for as the value of a setting. -/
def Admits : (s : Setting) → String → s.Value → Prop
  | input, text, path? => text ≠ "" ∧ path? = some text
  | dataPath, text, path => text ≠ "" ∧ path = text
  | filename, text, name | userAgent, text, name => name = text
  | concurrency, text, n | timeoutSecs, text, n | retryBackoffMs, text, n =>
    IsNatural text.toList n ∧ n < UInt64.size
  | maxRetries, text, n => IsInteger text.toList n ∧ n < UInt32.size

theorem readPath_eq_ok_iff {text path : String} :
    readPath text = .ok path ↔ text ≠ "" ∧ path = text := by
  unfold readPath
  by_cases hempty : text = ""
  · simp [hempty]
  · rw [if_neg (by simpa using hempty)]
    simp [hempty, eq_comm]

/-- **The values that are read are those that a setting admits.** -/
theorem read_eq_ok_iff (s : Setting) (text : String) (v : s.Value) :
    s.read text = .ok v ↔ s.Admits text v := by
  have hname : ∀ {name : String}, (.ok text : Except Fault String) = .ok name ↔ name = text := by
    intro name
    rw [Except.ok.injEq, eq_comm]
  have hnatural : ∀ {n : Nat}, (readNatural most64 text.toList).mapError Fault.number = .ok n ↔
      IsNatural text.toList n ∧ n < UInt64.size := by
    intro n
    rw [mapError_eq_ok_iff, readNatural_eq_ok_iff, most64, Nat.le_sub_one_iff_lt (by decide)]
  cases s with
  | input =>
    show (readPath text).map some = .ok v ↔ text ≠ "" ∧ v = some text
    simp only [map_eq_ok_iff, readPath_eq_ok_iff, and_assoc, exists_and_left, exists_eq_left]
    rw [eq_comm]
  | dataPath => exact readPath_eq_ok_iff
  | filename => exact hname
  | userAgent => exact hname
  | concurrency => exact hnatural
  | timeoutSecs => exact hnatural
  | retryBackoffMs => exact hnatural
  | maxRetries =>
    show (readCount most32 text.toList).mapError Fault.number = .ok v ↔
      IsInteger text.toList v ∧ v < UInt32.size
    rw [mapError_eq_ok_iff, readCount_eq_ok_iff (by decide), most32,
      Nat.le_sub_one_iff_lt (by decide)]

example : Setting.maxRetries.read "-0" = .ok 0 ∧ Setting.concurrency.read "+08" = .ok 8 := ⟨rfl, rfl⟩

/-- The default that the help text shows may be written as well. -/
theorem admits_shownDefault {s : Setting} {text : String} (h : s.shownDefault? = some text) :
    s.Admits text s.default := by
  rw [← read_eq_ok_iff]
  cases s <;> cases h <;> rfl

end Setting
end CommandLine
end RuleHarvest
