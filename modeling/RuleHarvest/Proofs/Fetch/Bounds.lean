/-
# A fetch ends, and sends few requests

An attempt asks for one URL and follows at most ten redirects, and an attempt
that fails is repeated as often as the settings allow. So a fetch sends at most
eleven requests in an attempt and eleven for each attempt in all, even when
addresses redirect to each other in a circle, when the answers change from one
request to the next, and whatever other fetches ask for in between
(`length_sentInAttempt_le`, `length_sentWithin_le`). This is `cost_afterTurns_le`
with three prices: a turn, a request, and a request of one attempt.

What a fetch ends with names the address it was started with, not the one it was
redirected to.

Key definitions: `FetchState.sentWithin`, `FetchState.sentInAttempt`,
`FetchState.Uninterrupted`.
Key theorems: `FetchState.length_sentWithin_le`,
`FetchState.length_sentInAttempt_le`, `FetchState.exists_uninterrupted`,
`fetch_sends_few`.
-/
import RuleHarvest.Proofs.Fetch.InOrder
import RuleHarvest.Proofs.Fetch.Turns

namespace RuleHarvest

variable {network : Network} {config : Config} {url : String} {f : FetchState} {t : Traffic}
  {seen : Nat → Traffic} {k : Nat}

namespace FetchState

/-! ### Requests sent -/

/-- The requests that are received in the first `n` turns of a fetch. -/
def sentWithin (network : Network) (config : Config) (url : String) (seen : Nat → Traffic)
    (n : Nat) : List Received :=
  (List.range n).flatMap fun i =>
    (afterTurns network config url seen i).sent network config url (seen i)

/-- Those of attempt number `k` among them. -/
def sentInAttempt (network : Network) (config : Config) (url : String) (seen : Nat → Traffic)
    (k n : Nat) : List Received :=
  (List.range n).flatMap fun i =>
    if (afterTurns network config url seen i).isIn k then
      (afterTurns network config url seen i).sent network config url (seen i)
    else []

theorem sentWithin_succ (n : Nat) : sentWithin network config url seen (n + 1) =
    sentWithin network config url seen n ++
      (afterTurns network config url seen n).sent network config url (seen n) := by
  rw [sentWithin, List.range_succ, List.flatMap_append, List.flatMap_singleton]
  rfl

theorem length_flatMap_range_le {α : Type} {use : Nat → List α} {cost : Nat → Nat}
    (h : ∀ i, (use i).length ≤ cost i) :
    ∀ n, ((List.range n).flatMap use).length ≤ ∑ i ∈ Finset.range n, cost i
  | 0 => Nat.le_refl 0
  | n + 1 => by
    have ih := length_flatMap_range_le h n
    have hn := h n
    rw [List.range_succ, List.flatMap_append, List.flatMap_singleton, List.length_append,
      Finset.sum_range_succ]
    omega

/-- Only a turn at a request sends one. -/
theorem length_sent_le_cost : (f.sent network config url t).length ≤ f.cost 0 fun _ => 1 := by
  cases f with
  | attempt k => rw [sent_of_not_request fun _ _ h => by cases h]; exact Nat.le_refl 0
  | request k leg => exact length_sent_le
  | done page => rw [sent_of_not_request fun _ _ h => by cases h]; exact Nat.le_refl 0

theorem length_sent_in_le_cost :
    (if f.isIn k then f.sent network config url t else []).length ≤
      f.cost 0 fun j => if j = k then 1 else 0 := by
  by_cases hk : f.isIn k = true
  · rw [if_pos hk]
    cases f with
    | attempt j => rw [sent_of_not_request fun _ _ h => by cases h]; exact Nat.zero_le _
    | request j leg =>
      have hj : j = k := of_decide_eq_true hk
      rw [cost, if_pos hj]
      exact length_sent_le
    | done page => cases hk
  · rw [if_neg hk]
    exact Nat.zero_le _

/-- **A fetch sends at most eleven requests for each attempt.** -/
theorem length_sentWithin_le (n : Nat) : (sentWithin network config url seen n).length ≤
    (maxRedirects + 1) * (config.maxRetries + 1) := by
  have hsum := cost_afterTurns_le network config url seen 0 (fun _ => 1) n
  have hsent : (sentWithin network config url seen n).length ≤ _ :=
    length_flatMap_range_le (fun i => length_sent_le_cost) n
  rw [costFrom, Finset.sum_const_nat fun _ _ => rfl, Nat.card_Ico] at hsum
  simp only [maxRedirects] at hsum ⊢
  omega

/-- **An attempt sends at most eleven requests.** -/
theorem length_sentInAttempt_le (k n : Nat) :
    (sentInAttempt network config url seen k n).length ≤ maxRedirects + 1 := by
  have hsum := cost_afterTurns_le network config url seen 0 (fun j => if j = k then 1 else 0) n
  have hsent : (sentInAttempt network config url seen k n).length ≤ _ :=
    length_flatMap_range_le (fun i => length_sent_in_le_cost) n
  have hprice : costFrom config 0 (fun j => if j = k then 1 else 0) 0 ≤ maxRedirects + 1 := by
    simp only [costFrom, Nat.zero_add, mul_ite, mul_one, mul_zero, Finset.sum_ite_eq']
    split
    · exact Nat.le_refl _
    · exact Nat.zero_le _
  omega

/-! ### A fetch by itself -/

/-- From `t` on only this fetch sends requests. -/
def Uninterrupted (network : Network) (config : Config) (url : String) (t : Traffic)
    (seen : Nat → Traffic) : Prop :=
  seen 0 = t ∧
    ∀ i, seen (i + 1) = ((afterTurns network config url seen i).turn network config url (seen i)).2

/-- Where a fetch by itself stands after `n` turns, and what has been received
then. -/
def alone (network : Network) (config : Config) (url : String) (t : Traffic) :
    Nat → FetchState × Traffic
  | 0 => (.attempt 0, t)
  | n + 1 =>
    (alone network config url t n).1.turn network config url (alone network config url t n).2

theorem afterTurns_alone (n : Nat) :
    afterTurns network config url (fun i => (alone network config url t i).2) n =
      (alone network config url t n).1 := by
  induction n with
  | zero => rfl
  | succ n ih => rw [afterTurns, ih, alone]

theorem uninterrupted_alone : Uninterrupted network config url t
    fun i => (alone network config url t i).2 :=
  ⟨rfl, fun i => by simp only [afterTurns_alone, alone]⟩

theorem Uninterrupted.seen_eq (h : Uninterrupted network config url t seen) (n : Nat) :
    seen n = t ++ sentWithin network config url seen n := by
  induction n with
  | zero => exact h.1.trans (List.append_nil t).symm
  | succ n ih => rw [h.2, turn_eq_append, sentWithin_succ, ← List.append_assoc, ← ih]

theorem Uninterrupted.finish_eq (h : Uninterrupted network config url t seen) (n : Nat) :
    (afterTurns network config url seen n).finish network config url (seen n) =
      (attempt 0).finish network config url t := by
  induction n with
  | zero => rw [h.1, afterTurns]
  | succ n ih => rw [h.2, afterTurns, finish_turn, ih]

/-- **All attempts at a request are the turns of a fetch by itself.** -/
theorem exists_uninterrupted (network : Network) (config : Config) (url : String) (t : Traffic) :
    ∃ seen n, Uninterrupted network config url t seen ∧
      afterTurns network config url seen n =
        .done (retrying config url (fetchPage network config url) t).1 ∧
      (retrying config url (fetchPage network config url) t).2.2 =
        t ++ sentWithin network config url seen n := by
  obtain ⟨page, hdone⟩ := done_after network config url fun i => (alone network config url t i).2
  have halone : Uninterrupted network config url t fun i => (alone network config url t i).2 :=
    uninterrupted_alone
  have hfinish := halone.finish_eq ((maxRedirects + 2) * (config.maxRetries + 1))
  rw [hdone, finish_start, finish] at hfinish
  obtain ⟨hpage, htraffic⟩ := Prod.mk.inj hfinish
  refine ⟨_, _, halone, hpage ▸ hdone, ?_⟩
  rw [← htraffic]
  exact halone.seen_eq _

/-! ### What a fetch ends with -/

/-- A refusal by the server names the address that was asked for first. -/
theorem pageAfter_server {e : AttemptEnd} {url' : String} {status : Nat}
    (h : pageAfter url e = .error (.server url' status)) : url' = url := by
  unfold pageAfter at h
  split at h
  · cases h
  · split at h
    · cases h
      rfl
    · split at h <;> cases h

theorem afterTurns_server {url' : String} {status : Nat} : ∀ {n : Nat},
    afterTurns network config url seen n = .done (.error (.server url' status)) → url' = url
  | 0, h => by cases h
  | n + 1, h => by
    rw [afterTurns] at h
    rcases done_or_ends_of_turn h with hdone | ⟨k, e, -, hpage⟩
    · exact afterTurns_server hdone
    · exact pageAfter_server hpage

end FetchState

/-- An address that no request can be made for is refused for good. -/
theorem requestUrl_error {fault : HttpFault} (h : requestUrl url = .error fault) :
    ∃ url', fault = .unbuildable url' := by
  unfold requestUrl at h
  split at h
  · exact ⟨_, (Except.error.inj h).symm⟩
  · dsimp only at h
    split at h
    · cases h
    · exact ⟨_, (Except.error.inj h).symm⟩

namespace FetchState

theorem afterTurns_unbuildable {fault : HttpFault} (h : requestUrl url = .error fault) :
    ∀ n, afterTurns network config url seen (n + 1) = .done (.error (.http fault)) := by
  have hfirst : afterTurns network config url seen 1 = .done (.error (.http fault)) := by
    obtain ⟨url', rfl⟩ := requestUrl_error h
    rw [afterTurns, afterTurns, turn, h]
    refine if_neg ?_
    rintro ⟨-, hfinal⟩
    cases hfinal
  exact fun n => afterTurns_of_done hfirst (Nat.le_add_left 1 n)

theorem sentWithin_unbuildable {fault : HttpFault} (h : requestUrl url = .error fault) :
    ∀ n, sentWithin network config url seen n = []
  | 0 => rfl
  | n + 1 => by
    rw [sentWithin_succ, sentWithin_unbuildable h n, List.nil_append]
    refine sent_of_not_request fun k leg hrequest => ?_
    cases n with
    | zero => cases hrequest
    | succ n =>
      rw [afterTurns_unbuildable h n] at hrequest
      cases hrequest

end FetchState

open FetchState

theorem harvestOne_traffic (network : Network) (config : Config) (now : String) (r : Request)
    (trail : Trail) : (harvestOne network config now r trail).2.traffic =
      (retrying config r.url (fetchPage network config r.url) trail.traffic).2.2 := by
  unfold harvestOne
  rcases retrying config r.url (fetchPage network config r.url) trail.traffic with
    ⟨page, warnings, traffic⟩
  rfl

/-- A request that cannot be made is tried once, and nothing is sent. -/
theorem harvestOne_unbuildable {fault : HttpFault} {r : Request}
    (h : requestUrl r.url = .error fault) (network : Network) (config : Config) (now : String)
    (trail : Trail) : harvestOne network config now r trail = (.error (.http fault), trail) := by
  have hpage : fetchPage network config r.url trail.traffic =
      (.error (.http fault), trail.traffic) := by
    rw [fetchPage_eq, h]
    rfl
  have hsettled : isSettled (fetchPage network config r.url trail.traffic).1 = true := by
    obtain ⟨url', rfl⟩ := requestUrl_error h
    rw [hpage]
    rfl
  rw [harvestOne, retrying, retryFrom_settled hsettled, hpage]
  simp only [List.append_nil]
  rfl

/-- **A fetch ends and sends few requests.** Whatever the network answers, and
whatever other fetches ask for in between, a fetch is done after at most twelve
turns for each attempt that the settings allow; until then it has sent at most
eleven requests in each attempt, and eleven times the number of attempts in all.
A request that cannot be made ends the fetch in its first turn, with nothing
sent. A refusal by the server names the address of the request, and so does the
record, wherever the redirects went.

Harvesting one page is such a fetch with no other in between: the requests
received are those of its turns. -/
theorem fetch_sends_few (network : Network) (config : Config) (now : String) (r : Request) :
    (∀ seen,
      (∃ page, afterTurns network config r.url seen (12 * (config.maxRetries + 1)) = .done page) ∧
      ∀ n, (sentWithin network config r.url seen n).length ≤ 11 * (config.maxRetries + 1) ∧
        (∀ k, (sentInAttempt network config r.url seen k n).length ≤ 11) ∧
        (∀ url status,
          afterTurns network config r.url seen n = .done (.error (.server url status)) →
            url = r.url) ∧
        ∀ fault, requestUrl r.url = .error fault →
          afterTurns network config r.url seen (n + 1) = .done (.error (.http fault)) ∧
            sentWithin network config r.url seen n = []) ∧
    ∀ trail,
      (∃ seen n page, Uninterrupted network config r.url trail.traffic seen ∧
        afterTurns network config r.url seen n = .done page ∧
        (harvestOne network config now r trail).1 = page.map (extract r.url · now) ∧
        (harvestOne network config now r trail).2.traffic =
          trail.traffic ++ sentWithin network config r.url seen n) ∧
      (∀ record, (harvestOne network config now r trail).1 = .ok record → record.url = r.url) ∧
      (∀ url status, (harvestOne network config now r trail).1 = .error (.server url status) →
        url = r.url) ∧
      ∀ fault, requestUrl r.url = .error fault →
        harvestOne network config now r trail = (.error (.http fault), trail) := by
  have hturns : maxRedirects + 2 = 12 := rfl
  have hrequests : maxRedirects + 1 = 11 := rfl
  rw [← hturns, ← hrequests]
  refine ⟨fun seen => ⟨done_after network config r.url seen, fun n => ⟨length_sentWithin_le n,
    fun k => length_sentInAttempt_le k n, fun url status => afterTurns_server,
    fun fault h => ⟨afterTurns_unbuildable h n, sentWithin_unbuildable h n⟩⟩⟩, fun trail => ?_⟩
  obtain ⟨seen, n, halone, hdone, htraffic⟩ :=
    exists_uninterrupted network config r.url trail.traffic
  have hpage := harvestOne_fst network config now r trail
  rw [← harvestOne_traffic] at htraffic
  refine ⟨⟨seen, n, _, halone, hdone, hpage, htraffic⟩, fun record hrecord => ?_,
    fun url status hserver => ?_, fun fault h => harvestOne_unbuildable h network config now trail⟩
  · rw [hpage] at hrecord
    rcases hresult : (retrying config r.url (fetchPage network config r.url) trail.traffic).1
      with e | page
    · rw [hresult] at hrecord
      cases hrecord
    · rw [hresult] at hrecord
      cases hrecord
      exact extract_url r.url page now
  · rw [hpage] at hserver
    rcases hresult : (retrying config r.url (fetchPage network config r.url) trail.traffic).1
      with e | page
    · rw [hresult] at hserver
      cases hserver
      exact afterTurns_server (hresult ▸ hdone)
    · rw [hresult] at hserver
      cases hserver

end RuleHarvest
