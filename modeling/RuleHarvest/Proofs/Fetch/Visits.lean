/-
# The requests that a row of fetches sends

Pages that are fetched one after the other leave a row of requests behind that
can be cut up: first into the visits of the pages, each visit into its attempts,
and each attempt into the request for the page and one for each redirect that is
followed. What a request meets depends on how often its URL was asked for before,
in this visit or in another. So each piece is made when what the pieces before it
sent has been received, and nothing else (`Chain`, `Attempted`, `AttemptsMade`,
`Visited`).

Each of these descriptions says what a function of the program does. They are
taken together by induction on the redirects, the attempts and the pages that are
left.

Key definitions: `Chain`, `Attempted`, `AttemptsMade`, `Visit`, `Visited`,
`pagesFrom`.
Key theorems: `exists_attempted`, `exists_attemptsMade`, `exists_visited`,
`harvestAll_eq`.
-/
import RuleHarvest.Proofs.Fetch.Window

namespace RuleHarvest

variable {network : Network} {config : Config} {url : String} {t : Traffic}

/-! ### Attempts -/

/-- The requests that are received of an attempt from where it stands on, and how
the attempt ends. -/
inductive Chain (network : Network) (config : Config) :
    Leg → Traffic → List Received → AttemptEnd → Prop where
  | last {leg t sent e} (received : (leg.send network config t).2 = t ++ sent)
    (ends : leg.afterReply (leg.send network config t).1 = .error e) :
    Chain network config leg t sent e
  | redirected {leg t sent next others e}
    (received : (leg.send network config t).2 = t ++ sent)
    (redirect : leg.afterReply (leg.send network config t).1 = .ok next)
    (rest : Chain network config next (t ++ sent) others e) :
    Chain network config leg t (sent ++ others) e

/-- The requests that are received of one attempt at a page, and the page or the
error it ends with. -/
inductive Attempted (network : Network) (config : Config) (url : String) (t : Traffic) :
    List Received → Except FetchError String → Prop where
  | unbuildable {fault} (h : requestUrl url = .error fault) :
    Attempted network config url t [] (.error (.http fault))
  | asked {u sent e} (h : requestUrl url = .ok u)
    (chain : Chain network config { url := u } t sent e) :
    Attempted network config url t sent (pageAfter url e)

theorem exists_sent (network : Network) (config : Config) (leg : Leg) (t : Traffic) :
    ∃ sent, (leg.send network config t).2 = t ++ sent := by
  rcases send_traffic network config leg.spent leg.url t with h | h
  · exact ⟨[], (congrArg Prod.snd h).trans (List.append_nil t).symm⟩
  · exact ⟨_, h⟩

/-- A redirect that is followed counts. -/
theorem Leg.followed_of_afterReply {leg next : Leg} {reply : Option Response}
    (h : leg.afterReply reply = .ok next) :
    leg.followed < maxRedirects ∧ next.followed = leg.followed + 1 := by
  rcases reply with _ | r
  · cases h
  · unfold Leg.afterReply at h
    dsimp only at h
    rcases hredirect : r.redirect? leg.url with _ | u
    · rw [hredirect] at h
      cases h
    · rw [hredirect] at h
      dsimp only at h
      split_ifs at h with hfew hhttp
      cases h
      exact ⟨hfew, rfl⟩

/-- **Following redirects sends the requests of a chain.** -/
theorem exists_chain (network : Network) (config : Config) (leg : Leg) (t : Traffic) :
    ∃ sent, Chain network config leg t sent (leg.follow network config t).1 ∧
      (leg.follow network config t).2 = t ++ sent := by
  obtain ⟨sent, hsent⟩ := exists_sent network config leg t
  rw [FetchState.follow_eq]
  rcases hreply : leg.afterReply (leg.send network config t).1 with e | next
  · exact ⟨sent, .last hsent hreply, hsent⟩
  · obtain ⟨hfew, hnext⟩ := Leg.followed_of_afterReply hreply
    obtain ⟨others, hrest, hothers⟩ := exists_chain network config next (t ++ sent)
    dsimp only
    rw [hsent]
    exact ⟨sent ++ others, .redirected hsent hreply hrest, by rw [hothers, List.append_assoc]⟩
termination_by maxRedirects - leg.followed

/-- An attempt is what fetching the page once comes to. -/
theorem exists_attempted (network : Network) (config : Config) (url : String) (t : Traffic) :
    ∃ sent, Attempted network config url t sent (fetchPage network config url t).1 ∧
      (fetchPage network config url t).2 = t ++ sent := by
  rw [FetchState.fetchPage_eq]
  rcases hurl : requestUrl url with fault | u
  · exact ⟨[], .unbuildable hurl, (List.append_nil t).symm⟩
  · obtain ⟨sent, hchain, hsent⟩ := exists_chain network config { url := u } t
    exact ⟨sent, .asked hurl hchain, hsent⟩

/-- A page that has moved to where connections are encrypted. -/
def movedToEncrypted : Network := fun url _ =>
  if url = "http://a/" then .answer { status := 301, headers := [("Location", "https://a/")] }
  else .answer { body := "moved".toUTF8.toList }

example : fetchPage movedToEncrypted {} "http://a/" [] =
    (.ok "moved", [⟨"http://a/", "fedrules/0.1.0"⟩, ⟨"https://a/", "fedrules/0.1.0"⟩]) := by
  decide +kernel

/-! ### Visits -/

/-- The attempts at a page when so many may follow the first: the requests that
are received of each, and the page or the error that the last one ends with. -/
inductive AttemptsMade (network : Network) (config : Config) (url : String) :
    Nat → Traffic → List (List Received) → Except FetchError String → Prop where
  | last {left t sent page} (attempt : Attempted network config url t sent page)
    (final : left = 0 ∨ isSettled page = true) : AttemptsMade network config url left t [sent] page
  | again {left t sent e others page} (attempt : Attempted network config url t sent (.error e))
    (transient : e.isTransient = true)
    (rest : AttemptsMade network config url left (t ++ sent) others page) :
    AttemptsMade network config url (left + 1) t (sent :: others) page

theorem exists_attempts_last {left : Nat}
    (h : left = 0 ∨ isSettled (fetchPage network config url t).1 = true) : ∃ attempts,
      AttemptsMade network config url left t attempts (fetchPage network config url t).1 ∧
        (fetchPage network config url t).2 = t ++ attempts.flatten := by
  obtain ⟨sent, hattempt, hsent⟩ := exists_attempted network config url t
  exact ⟨[sent], .last hattempt h, by rw [hsent, List.flatten_singleton]⟩

/-- **Asking again sends the requests of all attempts that are made.** -/
theorem exists_attemptsMade (network : Network) (config : Config) (url : String) :
    ∀ (left k : Nat) (t : Traffic), ∃ attempts,
      AttemptsMade network config url left t attempts
        (retryFrom config url (fetchPage network config url) left k t).1 ∧
      (retryFrom config url (fetchPage network config url) left k t).2.2 = t ++ attempts.flatten
  | 0, k, t => by
    rw [retryFrom_zero]
    dsimp only
    exact exists_attempts_last (.inl rfl)
  | left + 1, k, t => by
    rcases hsettled : isSettled (fetchPage network config url t).1
    · obtain ⟨e, he, htransient⟩ := exists_transient hsettled
      obtain ⟨sent, hattempt, hsent⟩ := exists_attempted network config url t
      obtain ⟨others, hrest, hothers⟩ :=
        exists_attemptsMade network config url left (k + 1) (t ++ sent)
      rw [he] at hattempt
      rw [retryFrom_again hsettled, hsent]
      dsimp only
      exact ⟨sent :: others, .again hattempt htransient hrest,
        by rw [hothers, List.flatten_cons, List.append_assoc]⟩
    · rw [retryFrom_settled hsettled]
      dsimp only
      exact exists_attempts_last (.inr hsettled)

/-- The visit of a page: the request, the requests that are received of each
attempt at it, and what the last attempt ends with. -/
structure Visit where
  request : Request
  attempts : List (List Received)
  page : Except FetchError String

/-- All requests that are received of a visit. -/
def Visit.sent (v : Visit) : List Received := v.attempts.flatten

/-- A visit when `t` has been received. -/
def Visit.MadeAt (network : Network) (config : Config) (t : Traffic) (v : Visit) : Prop :=
  AttemptsMade network config v.request.url config.maxRetries t v.attempts v.page

theorem exists_visit (network : Network) (config : Config) (r : Request) (t : Traffic) :
    ∃ v : Visit, v.MadeAt network config t ∧ v.request = r ∧
      (FetchState.attempt 0).finish network config r.url t = (v.page, t ++ v.sent) := by
  obtain ⟨attempts, hmade, hsent⟩ :=
    exists_attemptsMade network config r.url config.maxRetries 0 t
  rw [FetchState.finish_start, retrying, hsent]
  generalize (retryFrom config r.url (fetchPage network config r.url) config.maxRetries 0 t).1 = page
    at hmade ⊢
  exact ⟨⟨r, attempts, page⟩, hmade, rfl, rfl⟩

/-! ### Rows of visits -/

/-- The visits of requests in turn, up to the first one that fails. -/
inductive Visited (network : Network) (config : Config) :
    Traffic → List Request → List Visit → Prop where
  | none {t : Traffic} : Visited network config t [] []
  | failed {t v e requests} (made : v.MadeAt network config t) (fails : v.page = .error e) :
    Visited network config t (v.request :: requests) [v]
  | next {t v page requests visits} (made : v.MadeAt network config t) (ends : v.page = .ok page)
    (others : Visited network config (t ++ v.sent) requests visits) :
    Visited network config t (v.request :: requests) (v :: visits)

variable {requests : List Request} {visits : List Visit}

/-- **All requests are visited when no visit fails.** -/
theorem Visited.of_ok {pages : List String} (h : Visited network config t requests visits)
    (hpages : visits.mapM Visit.page = .ok pages) :
    visits.map Visit.request = requests ∧
      List.Forall₂ (fun v page => v.page = .ok page) visits pages := by
  induction h generalizing pages with
  | none =>
    cases hpages
    exact ⟨rfl, .nil⟩
  | failed made fails =>
    rw [List.mapM_cons, fails] at hpages
    cases hpages
  | @next t v page requests visits made ends others ih =>
    rw [List.mapM_cons, ends] at hpages
    rcases hrest : visits.mapM Visit.page with e | rest
    · rw [hrest] at hpages
      cases hpages
    · rw [hrest] at hpages
      cases hpages
      obtain ⟨hrequests, hforall⟩ := ih hrest
      exact ⟨by rw [List.map_cons, hrequests], .cons ends hforall⟩

/-- **A visit that fails is the last one.** -/
theorem Visited.of_error {e : FetchError} (h : Visited network config t requests visits)
    (he : visits.mapM Visit.page = .error e) : ∃ before last after,
      visits = before ++ [last] ∧ requests = before.map Visit.request ++ last.request :: after ∧
        last.page = .error e ∧ ∀ v ∈ before, ∃ page, v.page = .ok page := by
  induction h with
  | none => cases he
  | @failed t v e' requests made fails =>
    rw [List.mapM_cons, fails] at he
    cases he
    exact ⟨[], v, requests, rfl, rfl, fails, fun v hv => absurd hv List.not_mem_nil⟩
  | @next t v page requests visits made ends others ih =>
    rw [List.mapM_cons, ends] at he
    rcases hrest : visits.mapM Visit.page with e' | rest
    · rw [hrest] at he
      cases he
      obtain ⟨before, last, after, rfl, rfl, hlast, hbefore⟩ := ih hrest
      refine ⟨v :: before, last, after, rfl, rfl, hlast, fun v' hv' => ?_⟩
      rcases List.mem_cons.1 hv' with rfl | hv'
      · exact ⟨page, ends⟩
      · exact hbefore v' hv'
    · rw [hrest] at he
      cases he

/-! ### Fetching one page after the other -/

/-- What pages come to that are fetched one after the other, each from where its
fetch stands. -/
def pagesFrom (network : Network) (config : Config) :
    List (Request × FetchState) → Traffic → Except FetchError (List String) × Traffic
  | [], t => (.ok [], t)
  | (r, f) :: rest, t =>
    match f.finish network config r.url t with
    | (.error e, t) => (.error e, t)
    | (.ok page, t) =>
      ((pagesFrom network config rest t).1.map (page :: ·), (pagesFrom network config rest t).2)

/-- **The requests sent for a row of pages are those of their visits**, up to the
first one that fails. -/
theorem exists_visited (network : Network) (config : Config) : ∀ (requests : List Request)
    (t : Traffic), ∃ visits, Visited network config t requests visits ∧
      pagesFrom network config (toFetch requests) t =
        (visits.mapM Visit.page, t ++ visits.flatMap Visit.sent)
  | [], t => ⟨[], .none, by rw [List.flatMap_nil, List.append_nil]; rfl⟩
  | r :: requests, t => by
    obtain ⟨v, hmade, rfl, hfinish⟩ := exists_visit network config r t
    rw [toFetch, List.map_cons, pagesFrom, hfinish]
    rcases hpage : v.page with e | page
    · exact ⟨[v], .failed hmade hpage, by rw [List.mapM_cons, hpage, List.flatMap_singleton]; rfl⟩
    · obtain ⟨visits, hvisited, hrest⟩ := exists_visited network config requests (t ++ v.sent)
      refine ⟨v :: visits, .next hmade hpage hvisited, ?_⟩
      dsimp only
      rw [← toFetch, hrest, List.mapM_cons, hpage, List.flatMap_cons, ← List.append_assoc]
      rcases visits.mapM Visit.page <;> rfl

/-- A harvest makes its records of these pages. -/
theorem harvestAll_eq (network : Network) (config : Config) (now : String) :
    ∀ (requests : List Request) (trail : Trail),
      (harvestAll network config now requests trail).1 =
          (pagesFrom network config (toFetch requests) trail.traffic).1.map
            (List.zipWith (fun r page => extract r.url page now) requests) ∧
        (harvestAll network config now requests trail).2.traffic =
          (pagesFrom network config (toFetch requests) trail.traffic).2
  | [], trail => ⟨rfl, rfl⟩
  | r :: requests, trail => by
    have hpage := harvestOne_fst network config now r trail
    have htraffic := harvestOne_traffic network config now r trail
    rw [harvestAll, toFetch, List.map_cons, pagesFrom, FetchState.finish_start]
    generalize harvestOne network config now r trail = one at hpage htraffic ⊢
    generalize retrying config r.url (fetchPage network config r.url) trail.traffic = fetched
      at hpage htraffic ⊢
    obtain ⟨outcome, trail'⟩ := one
    obtain ⟨page, warnings, traffic⟩ := fetched
    dsimp only at hpage htraffic
    subst hpage
    rcases page with e | page
    · exact ⟨rfl, htraffic⟩
    · obtain ⟨hrecords, hrest⟩ := harvestAll_eq network config now requests trail'
      rw [htraffic] at hrecords hrest
      refine ⟨?_, hrest⟩
      dsimp only [Except.map]
      rw [hrecords, ← toFetch]
      rcases (pagesFrom network config (toFetch requests) _).1 <;> rfl

end RuleHarvest
