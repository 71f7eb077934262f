/-
# How often a page is asked for

The attempts at a request have outcomes one after the other. The last attempt
is the first one whose outcome is settled, a page or a failure that would come
again, or else the last one that the settings allow (`lastAttempt`). All
attempts up to this one are made and no other, its outcome counts, and each
attempt before it is announced by one warning (`retrying_eq`). By induction on
the number of attempts left: an attempt that is not settled is the first of the
attempts at what is left.

The number of an attempt is counted in a word of 32 bits by a loop that
compares it with the most that the settings allow (`retryInWords`). It counts up
to this number only, so it never starts over at zero and the loop makes the
same attempts (`retryInWords_eq`).

Key definitions: `isSettled`, `lastAttempt`, `stateAfter`, `outcomeOf`,
`retryInWords`.
Key theorems: `retrying_eq`, `retryInWords_eq`, `attempts_until_settled`.
-/
import Mathlib.Data.Nat.Find
import RuleHarvest.Fetch.Retry

namespace RuleHarvest

variable {σ α : Type}

/-! ### The last attempt -/

/-- An outcome that no further attempt follows: success, or a failure that would
come again. -/
def isSettled : Except FetchError α → Bool
  | .ok _ => true
  | .error e => !e.isTransient

/-- An outcome that is not settled is a failure that may pass. -/
theorem exists_transient {outcome : Except FetchError α} (h : isSettled outcome = false) :
    ∃ e, outcome = .error e ∧ e.isTransient = true := by
  rcases outcome with e | a
  · exact ⟨e, rfl, by simpa [isSettled] using h⟩
  · cases h

/-- The number of the last attempt, counted from zero: the first one that is
settled, or else number `most`. -/
def lastAttempt (outcomes : Nat → Except FetchError α) (most : Nat) : Nat :=
  Nat.find (p := fun k => k = most ∨ isSettled (outcomes k) = true) ⟨most, .inl rfl⟩

variable {outcomes : Nat → Except FetchError α} {most k : Nat}

theorem lastAttempt_le : lastAttempt outcomes most ≤ most := Nat.find_le (.inl rfl)

theorem not_settled_of_lt (h : k < lastAttempt outcomes most) : isSettled (outcomes k) = false :=
  Bool.eq_false_iff.2 fun hk => Nat.find_min _ h (.inr hk)

theorem lastAttempt_of_settled (h : isSettled (outcomes k) = true)
    (hfirst : ∀ j < k, isSettled (outcomes j) = false) :
    lastAttempt outcomes most = min most k := by
  refine (Nat.find_eq_iff _).2 ⟨?_, fun j hj => ?_⟩
  · rcases Nat.le_total most k with hle | hle
    · exact .inl (Nat.min_eq_left hle)
    · exact .inr (by rw [Nat.min_eq_right hle, h])
  · have hsettled := hfirst j (by omega)
    rw [hsettled]
    simp only [Bool.false_eq_true, or_false]
    omega

theorem lastAttempt_of_not_settled (h : ∀ k, isSettled (outcomes k) = false) :
    lastAttempt outcomes most = most := by
  refine (Nat.find_eq_iff _).2 ⟨.inl rfl, fun j hj => ?_⟩
  rw [h j]
  simp only [Bool.false_eq_true, or_false]
  omega

theorem lastAttempt_zero : lastAttempt outcomes 0 = 0 := Nat.le_zero.1 lastAttempt_le

theorem lastAttempt_first (h : isSettled (outcomes 0) = true) : lastAttempt outcomes most = 0 :=
  (Nat.find_eq_zero _).2 (.inr h)

theorem lastAttempt_succ (h : isSettled (outcomes 0) = false) :
    lastAttempt outcomes (most + 1) = lastAttempt (fun k => outcomes (k + 1)) most + 1 := by
  unfold lastAttempt
  rw [Nat.find_comp_succ _ ⟨most, .inl rfl⟩]
  · simp only [Nat.add_right_cancel_iff]
  · simp [h]

/-! ### The attempts that are made -/

/-- What an attempt depends on, after `k` attempts. -/
def stateAfter (ask : σ → Except FetchError α × σ) (s : σ) : Nat → σ
  | 0 => s
  | k + 1 => (ask (stateAfter ask s k)).2

/-- The outcome of attempt number `k`. -/
def outcomeOf (ask : σ → Except FetchError α × σ) (s : σ) (k : Nat) : Except FetchError α :=
  (ask (stateAfter ask s k)).1

/-- What went wrong in an attempt. -/
def failureText : Except FetchError α → String
  | .ok _ => ""
  | .error e => e.message

/-- The warning after attempt number `attempt`. -/
def warningAfter (config : Config) (url : String) (attempt : Nat) (outcome : Except FetchError α) :
    RetryWarning :=
  ⟨url, attempt + 1, (config.backoff attempt).millis, failureText outcome⟩

variable {config : Config} {url : String} {ask : σ → Except FetchError α × σ} {s : σ}

theorem stateAfter_succ (k : Nat) : stateAfter ask s (k + 1) = stateAfter ask (ask s).2 k := by
  induction k with
  | zero => rfl
  | succ k ih => rw [stateAfter, ih, stateAfter]

theorem outcomeOf_succ (k : Nat) : outcomeOf ask s (k + 1) = outcomeOf ask (ask s).2 k := by
  unfold outcomeOf
  rw [stateAfter_succ]

/-- The warnings after the first `n` attempts, numbered from `attempt` on. -/
def warningsAfter (config : Config) (url : String) (attempt : Nat)
    (outcomes : Nat → Except FetchError α) (n : Nat) : List RetryWarning :=
  (List.range n).map fun k => warningAfter config url (attempt + k) (outcomes k)

/-- What the attempts up to number `n` leave: the outcome of the last one, the
warnings after the others, and what a further attempt would depend on. -/
def attemptsUpTo (config : Config) (url : String) (ask : σ → Except FetchError α × σ)
    (attempt : Nat) (s : σ) (n : Nat) : Except FetchError α × List RetryWarning × σ :=
  (outcomeOf ask s n, warningsAfter config url attempt (outcomeOf ask s) n,
    stateAfter ask s (n + 1))

theorem attemptsUpTo_zero (attempt : Nat) :
    attemptsUpTo config url ask attempt s 0 = ((ask s).1, [], (ask s).2) := rfl

theorem warningsAfter_succ (attempt n : Nat) (outcomes : Nat → Except FetchError α) :
    warningsAfter config url attempt outcomes (n + 1) =
      warningAfter config url attempt (outcomes 0) ::
        warningsAfter config url (attempt + 1) (fun k => outcomes (k + 1)) n := by
  unfold warningsAfter
  rw [List.range_succ_eq_map, List.map_cons, List.map_map]
  refine congrArg _ (List.map_congr_left fun k _ => ?_)
  have hnumber : attempt + (k + 1) = attempt + 1 + k := by omega
  rw [Function.comp_apply, Nat.succ_eq_add_one, hnumber]

/-- The first attempt and its warning come before the others. -/
theorem attemptsUpTo_succ (attempt n : Nat) :
    attemptsUpTo config url ask attempt s (n + 1) =
      ((attemptsUpTo config url ask (attempt + 1) (ask s).2 n).1,
        warningAfter config url attempt (ask s).1 ::
          (attemptsUpTo config url ask (attempt + 1) (ask s).2 n).2.1,
        (attemptsUpTo config url ask (attempt + 1) (ask s).2 n).2.2) := by
  unfold attemptsUpTo
  rw [outcomeOf_succ, stateAfter_succ (n + 1), warningsAfter_succ, funext outcomeOf_succ]
  rfl

/-! ### One attempt and the rest -/

theorem retryFrom_settled {left attempt : Nat} (h : isSettled (ask s).1 = true) :
    retryFrom config url ask left attempt s = ((ask s).1, [], (ask s).2) := by
  unfold retryFrom
  rcases hask : ask s with ⟨e | a, s'⟩
  · rw [hask] at h
    have htransient : ¬ e.isTransient = true := by simpa [isSettled] using h
    rcases left with _ | left
    · rfl
    · dsimp only
      rw [if_neg htransient]
  · rfl

theorem retryFrom_zero {attempt : Nat} :
    retryFrom config url ask 0 attempt s = ((ask s).1, [], (ask s).2) := by
  unfold retryFrom
  rcases ask s with ⟨e | a, s'⟩ <;> rfl

theorem retryFrom_again {left attempt : Nat} (h : isSettled (ask s).1 = false) :
    retryFrom config url ask (left + 1) attempt s =
      ((retryFrom config url ask left (attempt + 1) (ask s).2).1,
        warningAfter config url attempt (ask s).1 ::
          (retryFrom config url ask left (attempt + 1) (ask s).2).2.1,
        (retryFrom config url ask left (attempt + 1) (ask s).2).2.2) := by
  obtain ⟨e, he, htransient⟩ := exists_transient h
  rcases hask : ask s with ⟨outcome, s'⟩
  rw [hask] at he
  cases he
  rw [retryFrom.eq_def]
  dsimp only
  rw [hask]
  exact if_pos htransient

/-- **All attempts up to the last one are made.** -/
theorem retryFrom_eq : ∀ (left attempt : Nat) (s : σ),
    retryFrom config url ask left attempt s =
      attemptsUpTo config url ask attempt s (lastAttempt (outcomeOf ask s) left)
  | 0, attempt, s => by rw [lastAttempt_zero, attemptsUpTo_zero, retryFrom_zero]
  | left + 1, attempt, s => by
    have ih := retryFrom_eq left (attempt + 1) (ask s).2
    rcases hsettled : isSettled (ask s).1
    · rw [retryFrom_again hsettled, lastAttempt_succ hsettled, funext outcomeOf_succ,
        attemptsUpTo_succ, ih]
    · rw [retryFrom_settled hsettled, lastAttempt_first hsettled, attemptsUpTo_zero]

theorem retrying_eq (config : Config) (url : String) (ask : σ → Except FetchError α × σ) (s : σ) :
    retrying config url ask s =
      attemptsUpTo config url ask 0 s (lastAttempt (outcomeOf ask s) config.maxRetries) :=
  retryFrom_eq config.maxRetries 0 s

/-! ### A counter of 32 bits -/

theorem toNat_succ_of_lt {attempt most : UInt32} (h : attempt < most) :
    (attempt + 1).toNat = attempt.toNat + 1 := by
  have hlt : attempt.toNat + 1 < 2 ^ 32 :=
    Nat.lt_of_le_of_lt (UInt32.lt_iff_toNat_lt.1 h) most.toNat_lt
  rw [UInt32.toNat_add]
  exact Nat.mod_eq_of_lt hlt

/-- The attempts from number `attempt` on, counted in words up to `most`. -/
def retryInWords (config : Config) (url : String) (ask : σ → Except FetchError α × σ)
    (most attempt : UInt32) (s : σ) : Except FetchError α × List RetryWarning × σ :=
  if h : attempt < most ∧ isSettled (ask s).1 = false then
    let rest := retryInWords config url ask most (attempt + 1) (ask s).2
    (rest.1, ⟨url, (attempt + 1).toNat, (config.backoff attempt.toNat).millis,
      failureText (ask s).1⟩ :: rest.2.1, rest.2.2)
  else ((ask s).1, [], (ask s).2)
termination_by most.toNat - attempt.toNat
decreasing_by
  have hlt := UInt32.lt_iff_toNat_lt.1 h.1
  have hnext := toNat_succ_of_lt h.1
  omega

/-- **The counter never starts over**, so the loop is the one that counts without
bound. -/
theorem retryInWords_eq {most : UInt32} : ∀ (left : Nat) (attempt : UInt32) (s : σ),
    attempt.toNat + left = most.toNat →
      retryInWords config url ask most attempt s =
        retryFrom config url ask left attempt.toNat s
  | 0, attempt, s, h => by
    have hlast : ¬ (attempt < most ∧ isSettled (ask s).1 = false) := by
      rintro ⟨hlt, -⟩
      exact absurd (UInt32.lt_iff_toNat_lt.1 hlt) (by omega)
    rw [retryInWords, dif_neg hlast, retryFrom_zero]
  | left + 1, attempt, s, h => by
    have hlt : attempt < most := UInt32.lt_iff_toNat_lt.2 (by omega)
    have hnext : (attempt + 1).toNat = attempt.toNat + 1 := toNat_succ_of_lt hlt
    have hleft : (attempt + 1).toNat + left = most.toNat := by omega
    have ih := retryInWords_eq left (attempt + 1) (ask s).2 hleft
    rw [retryInWords]
    rcases hsettled : isSettled (ask s).1
    · rw [dif_pos ⟨hlt, rfl⟩, ih, hnext, retryFrom_again hsettled]
      rfl
    · rw [dif_neg (by simp), retryFrom_settled hsettled]

/-! ### Outcomes in turn -/

/-- The attempt that has the next one of some outcomes. What it depends on is the
number of the attempts that were made. -/
def inTurn (outcomes : Nat → Except FetchError α) (made : Nat) : Except FetchError α × Nat :=
  (outcomes made, made + 1)

theorem stateAfter_inTurn (k : Nat) : stateAfter (inTurn outcomes) 0 k = k := by
  induction k with
  | zero => rfl
  | succ k ih => rw [stateAfter, ih, inTurn]

theorem outcomeOf_inTurn : outcomeOf (inTurn outcomes) 0 = outcomes := by
  funext k
  rw [outcomeOf, stateAfter_inTurn, inTurn]

theorem retrying_inTurn (config : Config) (url : String) (outcomes : Nat → Except FetchError α) :
    retrying config url (inTurn outcomes) 0 =
      (outcomes (lastAttempt outcomes config.maxRetries),
        warningsAfter config url 0 outcomes (lastAttempt outcomes config.maxRetries),
        lastAttempt outcomes config.maxRetries + 1) := by
  rw [retrying_eq, attemptsUpTo, outcomeOf_inTurn, stateAfter_inTurn]

/-- The warning after an attempt before the last one tells of its failure. -/
theorem getElem?_warningsAfter (hk : k < lastAttempt outcomes most) :
    ∃ e, outcomes k = .error e ∧ e.isTransient = true ∧
      (warningsAfter config url 0 outcomes (lastAttempt outcomes most))[k]? =
        some ⟨url, k + 1, (config.backoff k).millis, e.message⟩ := by
  obtain ⟨e, he, htransient⟩ := exists_transient (not_settled_of_lt hk)
  refine ⟨e, he, htransient, ?_⟩
  rw [warningsAfter, List.getElem?_map, List.getElem?_range hk, Option.map_some, he, Nat.zero_add]
  rfl

/-- **The first settled outcome ends the attempts.** Whatever comes of the
attempts at a page, the last one is that of the first outcome that is settled,
or that of number `maxRetries` if this is less or there is none. The attempts up
to it are made and no other, and its outcome counts. Each of the others fails in
a way that may pass, and a warning tells of it: its number counted from one,
the wait after it and what went wrong. A counter of 32 bits is enough. -/
theorem attempts_until_settled (config : Config) (url : String)
    (outcomes : Nat → Except FetchError α) :
    (∀ k, isSettled (outcomes k) = true → (∀ j < k, isSettled (outcomes j) = false) →
      lastAttempt outcomes config.maxRetries = min config.maxRetries k) ∧
    ((∀ k, isSettled (outcomes k) = false) →
      lastAttempt outcomes config.maxRetries = config.maxRetries) ∧
    (∃ warnings, retrying config url (inTurn outcomes) 0 =
        (outcomes (lastAttempt outcomes config.maxRetries), warnings,
          lastAttempt outcomes config.maxRetries + 1) ∧
      warnings.length = lastAttempt outcomes config.maxRetries ∧
      ∀ k < lastAttempt outcomes config.maxRetries, ∃ e, outcomes k = .error e ∧
        e.isTransient = true ∧
        warnings[k]? = some ⟨url, k + 1, (config.backoff k).millis, e.message⟩) ∧
    lastAttempt outcomes config.maxRetries + 1 ≤ config.maxRetries + 1 ∧
    (∀ most : UInt32, config.maxRetries = most.toNat →
      retryInWords config url (inTurn outcomes) most 0 0 =
        retrying config url (inTurn outcomes) 0) ∧
    ∀ (σ : Type) (ask : σ → Except FetchError α × σ) (s : σ), retrying config url ask s =
      attemptsUpTo config url ask 0 s (lastAttempt (outcomeOf ask s) config.maxRetries) := by
  refine ⟨fun k => lastAttempt_of_settled, lastAttempt_of_not_settled,
    ⟨_, retrying_inTurn config url outcomes, ?_, fun k => getElem?_warningsAfter⟩,
    Nat.succ_le_succ lastAttempt_le, fun most hmost => ?_, fun σ ask s => retrying_eq ..⟩
  · rw [warningsAfter, List.length_map, List.length_range]
  · unfold retrying
    rw [hmost]
    exact retryInWords_eq most.toNat 0 0 (Nat.zero_add _)

end RuleHarvest
