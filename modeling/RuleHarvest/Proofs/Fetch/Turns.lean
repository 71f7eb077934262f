/-
# A fetch, one request at a time

Between two of its requests a fetch stands somewhere in its attempts
(`FetchState`). In one turn it begins an attempt or sends one request, and the
turn depends on what has been received until then, whoever asked for it
(`FetchState.turn`). Several fetches may take their turns in any order; what one
of them notices of the others is a traffic for each of its turns (`afterTurns`).

Attempts and redirects are counted up and only compared with their bounds, so
it has to be shown that a fetch is done some time (`done_after`). Each turn
costs something of a sum that is fixed at the start (`costLeft_turn`); what a
turn costs is left open, because turns, requests and the requests of one attempt
are all bounded in this way.

No turn changes what a fetch comes to when it is left alone from then on
(`finish_turn`). So a fetch whose turns are not interrupted ends with the page,
or the error, of `retrying`, and the same requests have been received
(`finish_start`).

Key definitions: `FetchState`, `FetchState.turn`, `FetchState.Ends`,
`FetchState.afterTurns`, `FetchState.finish`, `FetchState.costLeft`.
Key theorems: `FetchState.turn_cases`, `FetchState.turn_traffic`,
`FetchState.finish_turn`, `FetchState.costLeft_turn`, `FetchState.done_after`.
-/
import Mathlib.Algebra.BigOperators.Intervals
import RuleHarvest.Fetch.Network
import RuleHarvest.Proofs.Fetch.Retries

namespace RuleHarvest

/-! ### Turns -/

/-- Where an attempt stands: the URL it asks for next, how many redirects it has
followed, and how many nanoseconds have passed. -/
structure Leg where
  url : Url
  followed : Nat := 0
  spent : Nat := 0
deriving DecidableEq

/-- Where the fetch of a page stands. -/
inductive FetchState where
  /-- An attempt comes next. Attempts are counted from zero. -/
  | attempt (k : Nat)
  /-- A request of attempt number `k` comes next. -/
  | request (k : Nat) (leg : Leg)
  | done (page : Except FetchError String)
deriving DecidableEq

/-- How an attempt ends: with a fault, or with the answer to its last request. -/
abbrev AttemptEnd := Except HttpFault Response

/-- What a request comes to when its last attempt ends so. -/
def pageAfter (url : String) : AttemptEnd → Except FetchError String
  | .error fault => .error (.http fault)
  | .ok r =>
    if !(200 ≤ r.status && r.status < 300) then .error (.server url r.status)
    else if r.truncated then .error (.http .brokenBody)
    else .ok (String.ofList (Text.Utf8.decodeLossy r.body))

/-- The attempt after a redirect: the time until the answer has passed. -/
def Leg.redirected (leg : Leg) (r : Response) (next : Url) : Leg :=
  ⟨next, leg.followed + 1, leg.spent + r.delay.totalNanos⟩

@[simp] theorem Leg.redirected_followed (leg : Leg) (r : Response) (next : Url) :
    (leg.redirected r next).followed = leg.followed + 1 := rfl

/-- The reply to the next request of an attempt, and the traffic with it. -/
def Leg.send (network : Network) (config : Config) (leg : Leg) (t : Traffic) :
    Option Response × Traffic :=
  RuleHarvest.send network config leg.spent leg.url t

/-- What the rest of an attempt comes to when nothing else is asked for. -/
def Leg.follow (network : Network) (config : Config) (leg : Leg) (t : Traffic) :
    AttemptEnd × Traffic :=
  RuleHarvest.follow network config (maxRedirects - leg.followed) leg.spent leg.url t

/-- What a reply leads to: the end of the attempt, or its next request. -/
def Leg.afterReply (leg : Leg) : Option Response → Except AttemptEnd Leg
  | none => .error (.error (.noAnswer leg.url.write))
  | some r =>
    match r.redirect? leg.url with
    | none => .error (.ok r)
    | some next =>
      if leg.followed < maxRedirects then
        if next.isHttp then .ok (leg.redirected r next)
        else .error (.error (.unbuildable (some next.write)))
      else .error (.error (.tooManyRedirects leg.url.write))

namespace FetchState

/-- Attempt number `k` has ended: another one follows, or the fetch is done. -/
def settle (config : Config) (url : String) (k : Nat) (e : AttemptEnd) : FetchState :=
  if k < config.maxRetries ∧ isSettled (pageAfter url e) = false then .attempt (k + 1)
  else .done (pageAfter url e)

/-- One turn of a fetch, when `t` has been received. -/
def turn (network : Network) (config : Config) (url : String) :
    FetchState → Traffic → FetchState × Traffic
  | .attempt k, t =>
    match requestUrl url with
    | .error fault => (settle config url k (.error fault), t)
    | .ok u => (.request k { url := u }, t)
  | .request k leg, t =>
    match leg.afterReply (leg.send network config t).1 with
    | .error e => (settle config url k e, (leg.send network config t).2)
    | .ok next => (.request k next, (leg.send network config t).2)
  | .done page, t => (.done page, t)

/-- The request that is received in a turn, if any. -/
def sent (network : Network) (config : Config) (url : String) (f : FetchState) (t : Traffic) :
    List Received :=
  (f.turn network config url t).2.drop t.length

/-- Where a fetch stands after `n` turns. When it takes turn number `i`, the
requests `seen i` have been received. -/
def afterTurns (network : Network) (config : Config) (url : String) (seen : Nat → Traffic) :
    Nat → FetchState
  | 0 => .attempt 0
  | n + 1 => ((afterTurns network config url seen n).turn network config url (seen n)).1

/-- A fetch is at attempt number `k`. -/
def isIn (k : Nat) : FetchState → Bool
  | .attempt j | .request j _ => j = k
  | .done _ => false

/-- The next turn ends attempt number `k`, and how. -/
inductive Ends (network : Network) (config : Config) (url : String) :
    FetchState → Traffic → Nat → AttemptEnd → Prop where
  /-- The URL of the request cannot be asked for. -/
  | unbuildable {k t fault} (h : requestUrl url = .error fault) :
    Ends network config url (.attempt k) t k (.error fault)
  | noAnswer {k leg t} (h : (leg.send network config t).1 = none) :
    Ends network config url (.request k leg) t k (.error (.noAnswer leg.url.write))
  | answer {k leg t r} (h : (leg.send network config t).1 = some r)
    (final : r.redirect? leg.url = none) : Ends network config url (.request k leg) t k (.ok r)
  | tooMany {k leg t r next} (h : (leg.send network config t).1 = some r)
    (redirect : r.redirect? leg.url = some next) (many : maxRedirects ≤ leg.followed) :
    Ends network config url (.request k leg) t k (.error (.tooManyRedirects leg.url.write))
  /-- An answer redirects to a URL that is not one of the web. -/
  | refused {k leg t r next} (h : (leg.send network config t).1 = some r)
    (redirect : r.redirect? leg.url = some next) (few : leg.followed < maxRedirects)
    (refused : next.isHttp = false) :
    Ends network config url (.request k leg) t k (.error (.unbuildable (some next.write)))

end FetchState

variable {network : Network} {config : Config} {url : String} {f : FetchState} {t : Traffic}
  {seen : Nat → Traffic} {k : Nat}

/-! ### What a turn sends -/

/-- A request that is received comes behind those received before, and one that
is not received is not answered. -/
theorem send_traffic (network : Network) (config : Config) (spent : Nat) (u : Url) (t : Traffic) :
    send network config spent u t = (none, t) ∨
      (send network config spent u t).2 = t ++ [⟨u.writeWithoutFragment, config.userAgent⟩] := by
  unfold send
  dsimp only
  rcases network u.writeWithoutFragment (t.count u.writeWithoutFragment) with r | _ | _
  · exact .inr rfl
  · exact .inr rfl
  · exact .inl rfl

namespace FetchState

theorem turn_request (leg : Leg) :
    ((request k leg).turn network config url t).2 = (leg.send network config t).2 := by
  unfold turn
  dsimp only
  cases leg.afterReply (leg.send network config t).1 <;> rfl

/-- **A turn sends at most one request**, for the URL that is asked for. -/
theorem turn_traffic (network : Network) (config : Config) (url : String) (f : FetchState)
    (t : Traffic) : (f.turn network config url t).2 = t ∨ ∃ k leg, f = .request k leg ∧
      (f.turn network config url t).2 = t ++ [⟨leg.url.writeWithoutFragment, config.userAgent⟩] := by
  cases f with
  | attempt k =>
    unfold turn
    cases requestUrl url <;> exact .inl rfl
  | request k leg =>
    rw [turn_request]
    rcases send_traffic network config leg.spent leg.url t with hsend | hsend
    · exact .inl (congrArg Prod.snd hsend)
    · exact .inr ⟨k, leg, rfl, hsend⟩
  | done page => exact .inl rfl

theorem turn_eq_append (network : Network) (config : Config) (url : String) (f : FetchState)
    (t : Traffic) : (f.turn network config url t).2 = t ++ f.sent network config url t := by
  unfold sent
  rcases turn_traffic network config url f t with h | ⟨_, _, _, h⟩
  · rw [h, List.drop_length, List.append_nil]
  · rw [h, List.drop_left]

theorem sent_of_not_request (h : ∀ k leg, f ≠ .request k leg) :
    f.sent network config url t = [] := by
  unfold sent
  rcases turn_traffic network config url f t with h' | ⟨k, leg, hf, -⟩
  · rw [h', List.drop_length]
  · exact absurd hf (h k leg)

theorem length_sent_le : (f.sent network config url t).length ≤ 1 := by
  unfold sent
  rcases turn_traffic network config url f t with h | ⟨_, _, _, h⟩
  · rw [h, List.drop_length]
    exact Nat.zero_le 1
  · rw [h, List.drop_left]
    exact Nat.le_refl 1

/-! ### What a turn does -/

/-- **What one turn can do.** A fetch that is done stays so; an attempt begins; a
redirect is followed, if there were not too many; or the attempt ends. -/
theorem turn_cases (network : Network) (config : Config) (url : String) (f : FetchState)
    (t : Traffic) :
    (∃ page, f = .done page ∧ (f.turn network config url t).1 = .done page) ∨
    (∃ k u, f = .attempt k ∧ requestUrl url = .ok u ∧
      (f.turn network config url t).1 = .request k { url := u }) ∨
    (∃ k leg r next, f = .request k leg ∧ leg.followed < maxRedirects ∧
      (leg.send network config t).1 = some r ∧ r.redirect? leg.url = some next ∧
      next.isHttp = true ∧
      (f.turn network config url t).1 = .request k (leg.redirected r next)) ∨
    ∃ k e, f.Ends network config url t k e ∧
      (f.turn network config url t).1 = settle config url k e := by
  cases f with
  | attempt k =>
    unfold turn
    rcases hurl : requestUrl url with fault | u
    · exact .inr (.inr (.inr ⟨k, _, .unbuildable hurl, rfl⟩))
    · exact .inr (.inl ⟨k, u, rfl, rfl, rfl⟩)
  | request k leg =>
    unfold turn Leg.afterReply
    dsimp only
    rcases hsend : (leg.send network config t).1 with _ | r
    · exact .inr (.inr (.inr ⟨k, _, .noAnswer hsend, rfl⟩))
    · dsimp only
      rcases hredirect : r.redirect? leg.url with _ | next
      · exact .inr (.inr (.inr ⟨k, _, .answer hsend hredirect, rfl⟩))
      · dsimp only
        by_cases hfew : leg.followed < maxRedirects
        · rw [if_pos hfew]
          by_cases hnext : next.isHttp = true
          · rw [if_pos hnext]
            exact .inr (.inr (.inl ⟨k, leg, r, next, rfl, hfew, hsend, hredirect, hnext, rfl⟩))
          · rw [if_neg hnext]
            have hrefused : next.isHttp = false := Bool.eq_false_iff.2 hnext
            exact .inr (.inr (.inr ⟨k, _, .refused hsend hredirect hfew hrefused, rfl⟩))
        · rw [if_neg hfew]
          have hmany : maxRedirects ≤ leg.followed := Nat.le_of_not_lt hfew
          exact .inr (.inr (.inr ⟨k, _, .tooMany hsend hredirect hmany, rfl⟩))
  | done page => exact .inl ⟨page, rfl, rfl⟩

/-- The turn in which an attempt ends. -/
theorem turn_of_ends {e : AttemptEnd} (h : f.Ends network config url t k e) :
    (f.turn network config url t).1 = settle config url k e := by
  cases h with
  | unbuildable h => rw [turn, h]
  | noAnswer h => rw [turn, h]; rfl
  | answer h final =>
    rw [turn]
    simp only [h, Leg.afterReply, final]
  | tooMany h redirect many =>
    rw [turn]
    simp only [h, Leg.afterReply, redirect, if_neg (Nat.not_lt.2 many)]
  | refused h redirect few refused =>
    rw [turn]
    simp only [h, Leg.afterReply, redirect, if_pos few, refused, Bool.false_eq_true, if_false]

theorem Ends.isIn {e : AttemptEnd} (h : f.Ends network config url t k e) : f.isIn k = true := by
  cases h <;> exact decide_eq_true rfl

theorem isIn_settle {e : AttemptEnd} {j : Nat} (h : (settle config url k e).isIn j = true) :
    j = k + 1 ∧ k < config.maxRetries ∧ isSettled (pageAfter url e) = false := by
  unfold settle at h
  split at h
  · rename_i hagain
    exact ⟨(of_decide_eq_true h).symm, hagain⟩
  · cases h

/-- **A fetch gets to an attempt** by the end of the one before, or was at it. -/
theorem isIn_or_ends_of_turn {j : Nat} (h : (f.turn network config url t).1.isIn j = true) :
    f.isIn j = true ∨ ∃ k e, f.Ends network config url t k e ∧ j = k + 1 ∧
      k < config.maxRetries ∧ isSettled (pageAfter url e) = false := by
  rcases turn_cases network config url f t with ⟨page, -, hturn⟩ | ⟨k, u, rfl, -, hturn⟩ |
    ⟨k, leg, r, next, rfl, -, -, -, -, hturn⟩ | ⟨k, e, hend, hturn⟩
  · rw [hturn] at h
    cases h
  · rw [hturn] at h
    exact .inl h
  · rw [hturn] at h
    exact .inl h
  · rw [hturn] at h
    exact .inr ⟨k, e, hend, isIn_settle h⟩

/-- **A fetch gets done** by the end of an attempt, or was done. -/
theorem done_or_ends_of_turn {page : Except FetchError String}
    (h : (f.turn network config url t).1 = .done page) :
    f = .done page ∨ ∃ k e, f.Ends network config url t k e ∧ pageAfter url e = page := by
  rcases turn_cases network config url f t with ⟨page', rfl, hturn⟩ | ⟨k, u, rfl, -, hturn⟩ |
    ⟨k, leg, r, next, rfl, -, -, -, -, hturn⟩ | ⟨k, e, hend, hturn⟩
  · exact .inl (hturn.symm.trans h)
  · rw [hturn] at h
    cases h
  · rw [hturn] at h
    cases h
  · rw [hturn] at h
    unfold settle at h
    split at h
    · cases h
    · exact .inr ⟨k, e, hend, FetchState.done.inj h⟩

/-! ### Leaving a fetch alone -/

/-- What the attempts from number `k` on come to, one right after the other. -/
def attemptsFrom (network : Network) (config : Config) (url : String) (k : Nat) (t : Traffic) :
    Except FetchError String × Traffic :=
  let r := retryFrom config url (fetchPage network config url) (config.maxRetries - k) k t
  (r.1, r.2.2)

/-- What a fetch comes to once attempt number `k` has ended. -/
def afterEnd (network : Network) (config : Config) (url : String) (k : Nat) (e : AttemptEnd)
    (t : Traffic) : Except FetchError String × Traffic :=
  if k < config.maxRetries ∧ isSettled (pageAfter url e) = false then
    attemptsFrom network config url (k + 1) t
  else (pageAfter url e, t)

/-- What a fetch comes to when nothing else is asked for from now on. -/
def finish (network : Network) (config : Config) (url : String) :
    FetchState → Traffic → Except FetchError String × Traffic
  | .attempt k, t => attemptsFrom network config url k t
  | .request k leg, t =>
    afterEnd network config url k (leg.follow network config t).1 (leg.follow network config t).2
  | .done page, t => (page, t)

theorem finish_start (network : Network) (config : Config) (url : String) (t : Traffic) :
    (attempt 0).finish network config url t =
      ((retrying config url (fetchPage network config url) t).1,
        (retrying config url (fetchPage network config url) t).2.2) := by
  rw [finish, attemptsFrom, retrying, Nat.sub_zero]

theorem finish_settle (k : Nat) (e : AttemptEnd) (t : Traffic) :
    (settle config url k e).finish network config url t = afterEnd network config url k e t := by
  unfold settle afterEnd
  split <;> rfl

/-- An attempt by its end. -/
theorem fetchPage_eq (network : Network) (config : Config) (url : String) (t : Traffic) :
    fetchPage network config url t =
      match requestUrl url with
      | .error fault => (pageAfter url (.error fault), t)
      | .ok u => (pageAfter url (Leg.follow network config { url := u } t).1,
          (Leg.follow network config { url := u } t).2) := by
  unfold fetchPage
  rcases requestUrl url with fault | u
  · rfl
  · have hfollow : Leg.follow network config { url := u } t =
        follow network config maxRedirects 0 u t := rfl
    dsimp only
    rw [hfollow]
    rcases follow network config maxRedirects 0 u t with ⟨fault | r, t'⟩
    · rfl
    · unfold pageAfter
      dsimp only
      split
      · rfl
      · split <;> rfl

/-- The first of some attempts, and the others. -/
theorem attemptsFrom_eq (network : Network) (config : Config) (url : String) (k : Nat)
    (t : Traffic) : attemptsFrom network config url k t =
      if k < config.maxRetries ∧ isSettled (fetchPage network config url t).1 = false then
        attemptsFrom network config url (k + 1) (fetchPage network config url t).2
      else fetchPage network config url t := by
  unfold attemptsFrom
  by_cases hk : k < config.maxRetries
  · have hleft : config.maxRetries - k = config.maxRetries - (k + 1) + 1 := by omega
    rcases hsettled : isSettled (fetchPage network config url t).1
    · rw [if_pos ⟨hk, rfl⟩, hleft, retryFrom_again hsettled]
    · rw [if_neg (by simp), retryFrom_settled hsettled]
  · have hleft : config.maxRetries - k = 0 := by omega
    rw [if_neg fun h => hk h.1, hleft, retryFrom_zero]

/-- One request of an attempt, and the rest of it. -/
theorem follow_eq (network : Network) (config : Config) (leg : Leg) (t : Traffic) :
    leg.follow network config t =
      match leg.afterReply (leg.send network config t).1 with
      | .error e => (e, (leg.send network config t).2)
      | .ok next => next.follow network config (leg.send network config t).2 := by
  unfold Leg.follow Leg.afterReply Leg.send
  rw [follow.eq_def]
  dsimp only
  rcases send network config leg.spent leg.url t with ⟨_ | r, t'⟩
  · rfl
  · dsimp only
    rcases r.redirect? leg.url with _ | next
    · rfl
    · dsimp only
      by_cases hfew : leg.followed < maxRedirects
      · have hleft : maxRedirects - leg.followed = maxRedirects - (leg.followed + 1) + 1 := by omega
        rw [if_pos hfew, hleft]
        by_cases hnext : next.isHttp = true
        · rw [if_pos hnext]
          exact if_pos hnext
        · rw [if_neg hnext]
          exact if_neg hnext
      · have hleft : maxRedirects - leg.followed = 0 := by omega
        rw [if_neg hfew, hleft]

/-- **A turn does not change what a fetch comes to** when it is left alone from
then on. -/
theorem finish_turn (network : Network) (config : Config) (url : String) (f : FetchState)
    (t : Traffic) :
    (f.turn network config url t).1.finish network config url (f.turn network config url t).2 =
      f.finish network config url t := by
  cases f with
  | attempt k =>
    unfold turn
    rw [finish, attemptsFrom_eq, fetchPage_eq]
    rcases hurl : requestUrl url with fault | u
    · exact finish_settle k (.error fault) t
    · rfl
  | request k leg =>
    unfold turn
    rw [finish, follow_eq]
    dsimp only
    rcases leg.afterReply (leg.send network config t).1 with e | next
    · exact finish_settle k e _
    · rfl
  | done page => rfl

/-! ### How many turns are left -/

/-- The settings allow this attempt and the redirects that were followed. -/
def IsBounded (config : Config) : FetchState → Prop
  | .attempt k => k ≤ config.maxRetries
  | .request k leg => k ≤ config.maxRetries ∧ leg.followed ≤ maxRedirects
  | .done _ => True

theorem isBounded_turn (network : Network) (url : String) (t : Traffic) (hf : f.IsBounded config) :
    (f.turn network config url t).1.IsBounded config := by
  rcases turn_cases network config url f t with ⟨page, -, hturn⟩ | ⟨k, u, rfl, -, hturn⟩ |
    ⟨k, leg, r, next, rfl, hfew, -, -, -, hturn⟩ | ⟨k, e, -, hturn⟩
  · rw [hturn]
    trivial
  · rw [hturn]
    exact ⟨hf, Nat.zero_le _⟩
  · rw [hturn]
    exact ⟨hf.1, hfew⟩
  · rw [hturn]
    unfold settle
    split
    · rename_i h
      exact h.1
    · trivial

theorem isBounded_afterTurns (network : Network) (config : Config) (url : String)
    (seen : Nat → Traffic) : ∀ n, (afterTurns network config url seen n).IsBounded config
  | 0 => Nat.zero_le _
  | n + 1 => isBounded_turn network url (seen n) (isBounded_afterTurns network config url seen n)

/-- What a turn costs, when an attempt costs `start` to begin and each of its
requests `price`, by the number of the attempt. -/
def cost (start : Nat) (price : Nat → Nat) : FetchState → Nat
  | .attempt _ => start
  | .request k _ => price k
  | .done _ => 0

/-- What all attempts from number `k` on cost at most. -/
def costFrom (config : Config) (start : Nat) (price : Nat → Nat) (k : Nat) : Nat :=
  ∑ j ∈ Finset.Ico k (config.maxRetries + 1), (start + (maxRedirects + 1) * price j)

/-- What all turns that are left cost at most. -/
def costLeft (config : Config) (start : Nat) (price : Nat → Nat) : FetchState → Nat
  | .attempt k => costFrom config start price k
  | .request k leg =>
    (maxRedirects + 1 - leg.followed) * price k + costFrom config start price (k + 1)
  | .done _ => 0

theorem costFrom_succ {start : Nat} {price : Nat → Nat} (hk : k ≤ config.maxRetries) :
    costFrom config start price k =
      start + (maxRedirects + 1) * price k + costFrom config start price (k + 1) :=
  Finset.sum_eq_sum_Ico_succ_bot (Nat.lt_succ_of_le hk) _

theorem costLeft_settle_le (start : Nat) (price : Nat → Nat) (k : Nat) (e : AttemptEnd) :
    (settle config url k e).costLeft config start price ≤ costFrom config start price (k + 1) := by
  unfold settle
  split
  · exact Nat.le_refl _
  · exact Nat.zero_le _

/-- **Each turn costs something of what is left**, however often the addresses
lead back to each other. -/
theorem costLeft_turn (network : Network) (url : String) (t : Traffic) (start : Nat)
    (price : Nat → Nat) (hf : f.IsBounded config) :
    (f.turn network config url t).1.costLeft config start price + f.cost start price ≤
      f.costLeft config start price := by
  have hredirects : ∀ {followed}, followed ≤ maxRedirects → ∀ k,
      (maxRedirects + 1 - followed) * price k = (maxRedirects - followed) * price k + price k := by
    intro followed h k
    rw [Nat.succ_sub h, Nat.succ_mul]
  rcases turn_cases network config url f t with ⟨page, rfl, hturn⟩ | ⟨k, u, rfl, -, hturn⟩ |
    ⟨k, leg, r, next, rfl, hfew, -, -, -, hturn⟩ | ⟨k, e, hends, hturn⟩
  · rw [hturn]
    exact Nat.le_refl _
  · rw [hturn]
    simp only [costLeft, cost, costFrom_succ (show k ≤ config.maxRetries from hf), Nat.sub_zero]
    omega
  · rw [hturn]
    simp only [costLeft, cost, hredirects hf.2, Leg.redirected_followed, Nat.add_sub_add_right]
    omega
  · -- an attempt that ends leaves what those after it cost
    rw [hturn]
    refine Nat.le_trans (Nat.add_le_add_right (costLeft_settle_le start price k e) _) ?_
    cases hends with
    | unbuildable _ =>
      simp only [costLeft, cost, costFrom_succ (show k ≤ config.maxRetries from hf)]
      omega
    | _ =>
      simp only [costLeft, cost, hredirects hf.2]
      omega

/-- A fetch that takes a turn has fewer left. -/
theorem costLeft_turn_lt (network : Network) (url : String) (t : Traffic)
    (hf : f.IsBounded config) (hopen : ∀ page, f ≠ .done page) :
    (f.turn network config url t).1.costLeft config 1 (fun _ => 1) <
      f.costLeft config 1 fun _ => 1 := by
  have hturn := costLeft_turn network url t 1 (fun _ => 1) hf
  cases f with
  | done page => exact absurd rfl (hopen page)
  | _ => exact hturn

/-- What the first `n` turns cost. -/
theorem cost_afterTurns_le (network : Network) (config : Config) (url : String)
    (seen : Nat → Traffic) (start : Nat) (price : Nat → Nat) (n : Nat) :
    (afterTurns network config url seen n).costLeft config start price +
        ∑ i ∈ Finset.range n, (afterTurns network config url seen i).cost start price ≤
      costFrom config start price 0 := by
  induction n with
  | zero => exact Nat.le_refl _
  | succ n ih =>
    have hbounded := isBounded_afterTurns network config url seen n
    have hturn := costLeft_turn network url (seen n) start price hbounded
    rw [Finset.sum_range_succ, afterTurns]
    omega

/-! ### Every fetch is done some time -/

theorem turn_done (page : Except FetchError String) (t : Traffic) :
    (done page).turn network config url t = (.done page, t) := rfl

/-- A fetch that is done stays so. -/
theorem afterTurns_of_done {n : Nat} {page : Except FetchError String}
    (h : afterTurns network config url seen n = .done page) :
    ∀ {m}, n ≤ m → afterTurns network config url seen m = .done page := by
  intro m hm
  induction hm with
  | refl => exact h
  | step _ ih => rw [afterTurns, ih, turn_done]

/-- **Every fetch is done after so many turns**, whatever it sees of others: in each
attempt there is one to begin and one for each request. -/
theorem done_after (network : Network) (config : Config) (url : String) (seen : Nat → Traffic) :
    ∃ page, afterTurns network config url seen ((maxRedirects + 2) * (config.maxRetries + 1)) =
      .done page := by
  by_contra hopen
  have hcost : ∀ i ≤ (maxRedirects + 2) * (config.maxRetries + 1),
      (afterTurns network config url seen i).cost 1 (fun _ => 1) = 1 := by
    intro i hi
    rcases hstate : afterTurns network config url seen i with k | ⟨k, leg⟩ | page
    · rfl
    · rfl
    · exact absurd ⟨page, afterTurns_of_done hstate hi⟩ hopen
  have hsum := cost_afterTurns_le network config url seen 1 (fun _ => 1)
    ((maxRedirects + 2) * (config.maxRetries + 1) + 1)
  rw [Finset.sum_const_nat fun i hi => hcost i (Nat.le_of_lt_succ (Finset.mem_range.1 hi)), costFrom,
    Finset.sum_const_nat fun _ _ => rfl, Finset.card_range, Nat.card_Ico] at hsum
  simp only [maxRedirects] at hsum
  omega

end FetchState
end RuleHarvest
