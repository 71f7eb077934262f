/-
# After which endings a page is asked for again

A page is to be asked for again when a request got no answer, when the server
failed (500 to 599) or when it was asked too often (429); any other ending is
final (`CallsForAnother`). What is done is more: another attempt also follows
an answer whose status is 600 or above, which nothing bounds from above, and an
attempt that was redirected too often, which counts as a failure on the way
(`AskedAgainAnyway`). These two are the only differences
(`isSettled_pageAfter`), and both occur (`asked_again_anyway`).

An attempt ends in one turn, so what follows it is told by that turn alone, and
an attempt that is under way has been called for by the end of the one before
(`exists_end_before`).

The deadline is one for the whole attempt: an answer is none if it comes when the
answers before it in the same attempt have used up the time (`spent_eq`). The
body counts as well, but when it is late the answer is there and final.

Key definitions: `CallsForAnother`, `AskedAgainAnyway`, `FetchState.waitedIn`.
Key theorems: `isSettled_pageAfter`, `FetchState.exists_end_before`,
`FetchState.spent_eq`, `further_attempt_iff`.
-/
import RuleHarvest.Proofs.Fetch.Bounds

namespace RuleHarvest

variable {network : Network} {config : Config} {url : String} {f : FetchState} {t : Traffic}
  {seen : Nat → Traffic} {k : Nat}

/-! ### Endings -/

/-- The endings that call for another attempt. An answer with success is none of
them, whether its body is whole or not. -/
def CallsForAnother : AttemptEnd → Prop
  | .error (.noAnswer _) => True
  | .error _ => False
  | .ok r => (500 ≤ r.status ∧ r.status ≤ 599) ∨ r.status = 429

/-- The other endings that another attempt follows. -/
def AskedAgainAnyway : AttemptEnd → Prop
  | .error (.tooManyRedirects _) => True
  | .error _ => False
  | .ok r => 600 ≤ r.status

theorem not_callsForAnother {e : AttemptEnd} (h : AskedAgainAnyway e) : ¬ CallsForAnother e := by
  intro hcalls
  rcases e with fault | r
  · cases fault with
    | noAnswer _ => exact h
    | _ => exact hcalls
  · have hstatus : 600 ≤ r.status := h
    have hclass : (500 ≤ r.status ∧ r.status ≤ 599) ∨ r.status = 429 := hcalls
    omega

/-- **Which endings are not final.** -/
theorem isSettled_pageAfter (url : String) (e : AttemptEnd) :
    isSettled (pageAfter url e) = false ↔ CallsForAnother e ∨ AskedAgainAnyway e := by
  rcases e with fault | r
  · cases fault <;>
      simp [pageAfter, isSettled, FetchError.isTransient, CallsForAnother, AskedAgainAnyway]
  · simp only [CallsForAnother, AskedAgainAnyway, pageAfter]
    by_cases hsuccess : (!(200 ≤ r.status && r.status < 300)) = true
    · rw [if_pos hsuccess]
      simp only [isSettled, FetchError.isTransient, Bool.not_eq_false', Bool.or_eq_true,
        decide_eq_true_eq]
      omega
    · -- a success is final, also when its body breaks off
      have hstatus : 200 ≤ r.status ∧ r.status < 300 := by simpa using hsuccess
      have hsettled : isSettled (if r.truncated then Except.error (FetchError.http .brokenBody)
          else .ok (String.ofList (Text.Utf8.decodeLossy r.body))) = true := by
        split <;> rfl
      rw [if_neg hsuccess, hsettled]
      constructor
      · intro h
        cases h
      · omega

/-! ### Replies -/

theorem Response.inTime?_eq_none_iff {r : Response} {spent : Nat} : r.inTime? config spent = none ↔
    config.timeout.totalNanos ≤ spent + r.delay.totalNanos := by
  unfold Response.inTime?
  by_cases hlate : config.timeout.totalNanos ≤ spent + r.delay.totalNanos <;> simp [hlate]

/-- **A request gets no answer** when no connection is made, when the server does
not answer, and when the deadline of the attempt is over before it does. -/
theorem send_eq_none_iff (network : Network) (config : Config) (spent : Nat) (u : Url)
    (t : Traffic) : (send network config spent u t).1 = none ↔
      network u.writeWithoutFragment (t.count u.writeWithoutFragment) = .unreachable ∨
      network u.writeWithoutFragment (t.count u.writeWithoutFragment) = .silence ∨
      ∃ r, network u.writeWithoutFragment (t.count u.writeWithoutFragment) = .answer r ∧
        config.timeout.totalNanos ≤ spent + r.delay.totalNanos := by
  unfold send
  dsimp only
  rcases network u.writeWithoutFragment (t.count u.writeWithoutFragment) with r | _ | _
  · simp [Response.inTime?_eq_none_iff]
  · simp
  · simp

namespace FetchState

/-! ### One ending -/

/-- **What follows the end of an attempt.** -/
theorem settle_eq_attempt_iff {e : AttemptEnd} : settle config url k e = .attempt (k + 1) ↔
    k < config.maxRetries ∧ (CallsForAnother e ∨ AskedAgainAnyway e) := by
  rw [← isSettled_pageAfter url]
  unfold settle
  by_cases hagain : k < config.maxRetries ∧ isSettled (pageAfter url e) = false
  · rw [if_pos hagain]
    exact iff_of_true rfl hagain
  · rw [if_neg hagain]
    exact iff_of_false (fun h => nomatch h) hagain

theorem settle_of_final {e : AttemptEnd}
    (h : ¬ (k < config.maxRetries ∧ (CallsForAnother e ∨ AskedAgainAnyway e))) :
    settle config url k e = .done (pageAfter url e) := by
  rw [← isSettled_pageAfter url] at h
  exact if_neg h

/-! ### A whole fetch -/

/-- **An attempt that is under way was called for** by the end of the one before. -/
theorem exists_end_before : ∀ {n : Nat},
    (afterTurns network config url seen n).isIn (k + 1) = true →
      ∃ i < n, ∃ e, (afterTurns network config url seen i).Ends network config url (seen i) k e ∧
        k < config.maxRetries ∧ (CallsForAnother e ∨ AskedAgainAnyway e)
  | 0, h => absurd h (by simp [afterTurns, isIn])
  | n + 1, h => by
    rcases isIn_or_ends_of_turn h with hn | ⟨j, e, hend, hj, hmore, hunsettled⟩
    · obtain ⟨i, hi, hend⟩ := exists_end_before hn
      exact ⟨i, Nat.lt_succ_of_lt hi, hend⟩
    · obtain rfl : k = j := Nat.succ.inj hj
      exact ⟨n, Nat.lt_succ_self n, e, hend, hmore, (isSettled_pageAfter url e).1 hunsettled⟩

/-- A fetch that is done sends nothing any more. -/
theorem sent_of_done {n m : Nat} {page : Except FetchError String}
    (h : afterTurns network config url seen n = .done page) (hm : n ≤ m) :
    (afterTurns network config url seen m).sent network config url (seen m) = [] := by
  rw [afterTurns_of_done h hm]
  exact sent_of_not_request fun _ _ hrequest => nomatch hrequest

/-! ### The deadline -/

/-- How many nanoseconds the answer takes that a fetch gets in its next turn. -/
def waits (network : Network) (config : Config) : FetchState → Traffic → Nat
  | .request _ leg, t => ((leg.send network config t).1.map (·.delay.totalNanos)).getD 0
  | _, _ => 0

/-- How many nanoseconds the answers took that attempt number `k` got in the first
`n` turns. -/
def waitedIn (network : Network) (config : Config) (url : String) (seen : Nat → Traffic)
    (k n : Nat) : Nat :=
  ∑ i ∈ Finset.range n, if (afterTurns network config url seen i).isIn k then
    (afterTurns network config url seen i).waits network config (seen i) else 0

/-- The nanoseconds of its attempt that a fetch counts as passed. -/
def spent : FetchState → Nat
  | .request _ leg => leg.spent
  | _ => 0

theorem waitedIn_succ (j n : Nat) : waitedIn network config url seen j (n + 1) =
    waitedIn network config url seen j n +
      if (afterTurns network config url seen n).isIn j then
        (afterTurns network config url seen n).waits network config (seen n) else 0 :=
  Finset.sum_range_succ _ n

theorem eq_of_isIn {j : Nat} (hk : f.isIn k = true) (hj : f.isIn j = true) : j = k := by
  cases f with
  | attempt i => exact (of_decide_eq_true hj).symm.trans (of_decide_eq_true hk)
  | request i leg => exact (of_decide_eq_true hj).symm.trans (of_decide_eq_true hk)
  | done page => cases hk

/-- What one turn adds to the time that has passed. -/
theorem spent_turn (hk : f.isIn k = true) (hturn : (f.turn network config url t).1.isIn k = true) :
    (f.turn network config url t).1.spent = f.spent + f.waits network config t := by
  rcases turn_cases network config url f t with ⟨page, rfl, -⟩ | ⟨j, u, rfl, -, hnext⟩ |
    ⟨j, leg, r, next, rfl, -, hsend, -, -, hnext⟩ | ⟨j, e, hend, hnext⟩
  · cases hk
  · rw [hnext]
    rfl
  · rw [hnext, waits, hsend]
    rfl
  · -- the attempt has ended, so the fetch is not at it any more
    rw [hnext] at hturn
    have hj : k = j := eq_of_isIn hend.isIn hk
    have := (isIn_settle hturn).1
    omega

/-- **The time that has passed is that of the answers** of the same attempt, and
later attempts got none yet. -/
theorem waitedIn_eq : ∀ {n k : Nat}, (afterTurns network config url seen n).isIn k = true →
    waitedIn network config url seen k n = (afterTurns network config url seen n).spent ∧
      ∀ j > k, waitedIn network config url seen j n = 0
  | 0, k, _ => ⟨rfl, fun _ _ => rfl⟩
  | n + 1, k, h => by
    have later {i j : Nat} (hi : (afterTurns network config url seen n).isIn i = true) (hj : i < j)
        (hnone : waitedIn network config url seen j n = 0) :
        waitedIn network config url seen j (n + 1) = 0 := by
      rw [waitedIn_succ, hnone, if_neg fun hin => hj.ne' (eq_of_isIn hi hin)]
    rcases isIn_or_ends_of_turn h with hn | ⟨i, e, hend, rfl, -, -⟩
    · obtain ⟨hspent, hnone⟩ := waitedIn_eq hn
      refine ⟨?_, fun j hj => later hn hj (hnone j hj)⟩
      rw [waitedIn_succ, hspent, if_pos hn, afterTurns, spent_turn hn h]
    · obtain ⟨-, hnone⟩ := waitedIn_eq hend.isIn
      have hi : i < i + 1 := Nat.lt_succ_self i
      refine ⟨?_, fun j hj => later hend.isIn (hi.trans hj) (hnone j (hi.trans hj))⟩
      have hbegun : (afterTurns network config url seen (n + 1)).spent = 0 := by
        have hattempt : afterTurns network config url seen (n + 1) = settle config url i e :=
          turn_of_ends hend
        rw [hattempt]
        unfold settle
        split <;> rfl
      rw [hbegun]
      exact later hend.isIn hi (hnone _ hi)

/-- An attempt that is about to send a request has used up the time of its
answers. -/
theorem spent_eq {n : Nat} {leg : Leg} (h : afterTurns network config url seen n = .request k leg) :
    leg.spent = waitedIn network config url seen k n := by
  have hin : (afterTurns network config url seen n).isIn k = true := by
    rw [h]
    exact decide_eq_true rfl
  rw [(waitedIn_eq hin).1, h]
  rfl

end FetchState

/-- A page and the one it has moved to. Each is in time by itself, but not both
together. -/
def slowlyMoved : Network := fun url _ =>
  if url = "http://a/" then
    .answer { status := 301, headers := [("Location", "/b")], delay := .ofMillis 600 }
  else .answer { delay := .ofMillis 600 }

example : (fetchPage slowlyMoved { timeout := .ofSeconds 1 } "http://a/" []).1 =
    .error (.http (.noAnswer "http://a/b")) := by
  decide +kernel

open FetchState

/-- **When a page is asked for again.** Let attempt number `k` end with `e`. If
more attempts are allowed, another one follows exactly when no answer came, the
status is 429 or at least 500, or there were too many redirects; otherwise the
fetch is done and sends nothing more, whatever happens then. So the attempts
that are made are those that are called for, unless an attempt ends with a
status of 600 or above or with too many redirects.

Conversely every attempt but the first follows the end of the one before it. A
request gets no answer exactly when no connection is made, when the server does
not answer, or when its answer comes after the deadline of the attempt, to which
the answers before it in the same attempt count.

This holds whatever other fetches ask for in between. All attempts at a request
are such a fetch with no other in between. -/
theorem further_attempt_iff (network : Network) (config : Config) (url : String)
    (seen : Nat → Traffic) :
    (∀ n k e, (afterTurns network config url seen n).Ends network config url (seen n) k e →
      (afterTurns network config url seen (n + 1) = .attempt (k + 1) ↔
        k < config.maxRetries ∧ (CallsForAnother e ∨ AskedAgainAnyway e)) ∧
      (¬ (k < config.maxRetries ∧ (CallsForAnother e ∨ AskedAgainAnyway e)) → ∀ m > n,
        afterTurns network config url seen m = .done (pageAfter url e) ∧
          (afterTurns network config url seen m).sent network config url (seen m) = []) ∧
      (k < config.maxRetries →
        ((afterTurns network config url seen (n + 1) = .attempt (k + 1) ↔ CallsForAnother e) ↔
          ¬ AskedAgainAnyway e))) ∧
    (∀ n k, (afterTurns network config url seen n).isIn (k + 1) = true →
      ∃ i < n, ∃ e, (afterTurns network config url seen i).Ends network config url (seen i) k e ∧
        k < config.maxRetries ∧ (CallsForAnother e ∨ AskedAgainAnyway e)) ∧
    (∀ n k leg, afterTurns network config url seen n = .request k leg →
      let asked := leg.url.writeWithoutFragment
      (leg.send network config (seen n)).1 = none ↔
        network asked ((seen n).count asked) = .unreachable ∨
        network asked ((seen n).count asked) = .silence ∨
        ∃ r, network asked ((seen n).count asked) = .answer r ∧ config.timeout.totalNanos ≤
          waitedIn network config url seen k n + r.delay.totalNanos) ∧
    ∀ t, ∃ seen n, Uninterrupted network config url t seen ∧
      afterTurns network config url seen n =
        .done (retrying config url (fetchPage network config url) t).1 ∧
      (retrying config url (fetchPage network config url) t).2.2 =
        t ++ sentWithin network config url seen n := by
  refine ⟨fun n k e hend => ?_, fun n k => exists_end_before, fun n k leg hrequest => ?_,
    exists_uninterrupted network config url⟩
  · have hnext : afterTurns network config url seen (n + 1) = settle config url k e :=
      turn_of_ends hend
    refine ⟨hnext ▸ settle_eq_attempt_iff, fun hfinal m hm => ?_, fun hmore => ?_⟩
    · have hdone := hnext.trans (settle_of_final hfinal)
      exact ⟨afterTurns_of_done hdone hm, sent_of_done hdone hm⟩
    · rw [hnext, settle_eq_attempt_iff]
      constructor
      · intro honly hanyway
        exact not_callsForAnother hanyway (honly.1 ⟨hmore, .inr hanyway⟩)
      · intro hnot
        exact ⟨fun h => h.2.resolve_right hnot, fun h => ⟨hmore, .inl h⟩⟩
  · rw [← spent_eq hrequest]
    exact send_eq_none_iff network config leg.spent leg.url (seen n)

/-! ### Final attempts that are not the last -/

/-- A page that is answered with a status of no class. -/
def oddStatus : Network := .scripted [("http://a/", [.answer { status := 600 }])]

/-- A page that redirects to itself. -/
def inCircles : Network :=
  .scripted [("http://a/", [.answer { status := 301, headers := [("location", "/")] }])]

/-- **A page may be asked for again though its last attempt was final**: after
status 600, and after eleven redirects in a circle. -/
theorem asked_again_anyway :
    (∃ e, (alone oddStatus { maxRetries := 1 } "http://a/" [] 1).1.Ends oddStatus { maxRetries := 1 }
        "http://a/" (alone oddStatus { maxRetries := 1 } "http://a/" [] 1).2 0 e ∧
      ¬ CallsForAnother e ∧
      (alone oddStatus { maxRetries := 1 } "http://a/" [] 2).1 = .attempt 1) ∧
    ∃ e, (alone inCircles { maxRetries := 1 } "http://a/" [] 11).1.Ends inCircles { maxRetries := 1 }
        "http://a/" (alone inCircles { maxRetries := 1 } "http://a/" [] 11).2 0 e ∧
      ¬ CallsForAnother e ∧
      (alone inCircles { maxRetries := 1 } "http://a/" [] 12).1 = .attempt 1 := by
  let pageA : Url := ⟨"http", some { host := .name "a" }, .segments [""], none, none⟩
  constructor
  · have hlast : alone oddStatus { maxRetries := 1 } "http://a/" [] 1 =
        (.request 0 { url := pageA }, []) := by decide +kernel
    rw [hlast]
    refine ⟨.ok { status := 600 }, .answer (by decide +kernel) (by decide +kernel), ?_,
      by decide +kernel⟩
    exact not_callsForAnother (show 600 ≤ 600 from Nat.le_refl 600)
  · have hlast : alone inCircles { maxRetries := 1 } "http://a/" [] 11 =
        (.request 0 ⟨pageA, 10, 0⟩, List.replicate 10 ⟨"http://a/", "fedrules/0.1.0"⟩) := by
      decide +kernel
    let moved : Response := { status := 301, headers := [("location", "/")] }
    have hsend : (Leg.send inCircles { maxRetries := 1 } ⟨pageA, 10, 0⟩
        (List.replicate 10 ⟨"http://a/", "fedrules/0.1.0"⟩)).1 = some moved := by decide +kernel
    have hredirect : moved.redirect? pageA = some pageA := by decide +kernel
    rw [hlast]
    exact ⟨.error (.tooManyRedirects "http://a/"), .tooMany hsend hredirect (Nat.le_refl 10),
      not_callsForAnother trivial, by decide +kernel⟩

end RuleHarvest
