/-
# A window of one fetches one page after the other

In a window of one, or of zero, which counts as one, only one fetch is under way.
What it comes to does not change by its turns (`FetchState.finish_turn`), so
neither does what all that is left comes to when it is fetched page by page. This
is the invariant (`Window.InTurn`): the pages taken, followed by what is left,
are the pages of the whole row. It holds of every schedule, and every schedule
ends (`Window.exists_ends`), so a batch leaves the requests of the visits of its
pages behind, up to the first that fails, and no other.

Key definitions: `Window.InTurn`, `VisitsEnd`.
Key theorems: `Window.Step.inTurn`, `pages_one_by_one`.
-/
import RuleHarvest.Proofs.Fetch.Visits

namespace RuleHarvest

variable {network : Network} {config : Config}

namespace Window

variable {requests : List Request} {t : Traffic} {w w' : Window}

/-! ### A window of one -/

/-- The pages of a row whose first ones are known. -/
def behind (pages : List String) (rest : Except FetchError (List String) × Traffic) :
    Except FetchError (List String) × Traffic :=
  (rest.1.map (pages ++ ·), rest.2)

/-- **The pages come in turn.** At most one fetch is under way, a fetch that has
finished holds the record of its page, and the pages that were taken and those
that are left to do come to what fetching one page after the other comes to. -/
structure InTurn (network : Network) (config : Config) (requests : List Request) (t : Traffic)
    (w : Window) : Prop where
  single : w.fetches.length ≤ 1
  held : w.Held
  row : ∃ done : List (Request × String),
    requests = done.map Prod.fst ++ w.fetches.map (·.request) ++ w.waiting ∧
    List.Forall₂ (fun d record => ∃ now, record = extract d.1.url d.2 now) done w.taken ∧
    pagesFrom network config (toFetch requests) t =
      behind (done.map Prod.snd) (pagesFrom network config w.toDo w.traffic)

theorem inTurn_ofRequests (network : Network) (config : Config) (requests : List Request)
    (t : Traffic) : InTurn network config requests t (ofRequests requests t) where
  single := Nat.zero_le 1
  held := held_ofRequests requests t
  row := by
    refine ⟨[], rfl, .nil, ?_⟩
    simp only [behind, toDo, ofRequests, List.map_nil, List.nil_append]
    rcases pagesFrom network config (toFetch requests) t with ⟨e | pages, t'⟩ <;> rfl

/-- A window with one fetch at most has nothing besides a given one. -/
theorem eq_nil_of_single {before after : List OpenFetch} {f : OpenFetch}
    (h : (before ++ f :: after).length ≤ 1) : before = [] ∧ after = [] := by
  simp only [List.length_append, List.length_cons] at h
  exact ⟨List.eq_nil_of_length_eq_zero (by omega), List.eq_nil_of_length_eq_zero (by omega)⟩

/-- A turn of the only fetch does not change what is left to do. -/
theorem pagesFrom_turn (r : Request) (f : FetchState) (rest : List (Request × FetchState))
    (t : Traffic) :
    pagesFrom network config ((r, (f.turn network config r.url t).1) :: rest)
        (f.turn network config r.url t).2 =
      pagesFrom network config ((r, f) :: rest) t := by
  rw [pagesFrom, pagesFrom, FetchState.finish_turn]

/-- The page of a fetch that is done comes before the others. -/
theorem behind_done (pages : List String) (r : Request) (page : String)
    (rest : List (Request × FetchState)) (t : Traffic) :
    behind pages (pagesFrom network config ((r, .done (.ok page)) :: rest) t) =
      behind (pages ++ [page]) (pagesFrom network config rest t) := by
  rw [pagesFrom]
  dsimp only [FetchState.finish]
  rcases pagesFrom network config rest t with ⟨e | others, t'⟩
  · rfl
  · simp only [behind, Except.map, List.append_assoc, List.singleton_append]

/-- **One step keeps the pages in turn.** -/
theorem Step.inTurn (hone : config.concurrency ≤ 1) (h : Step network config w w')
    (hw : InTurn network config requests t w) : InTurn network config requests t w' := by
  obtain ⟨done, hrequests, hrecords, hpages⟩ := hw.row
  have hheld : w'.Held := h.held hw.held
  cases h with
  | @start taken fetches r waiting t' room =>
    -- there is room only in an empty window
    obtain rfl : fetches = [] := List.eq_nil_of_length_eq_zero (by omega)
    refine ⟨Nat.le_refl 1, hheld, done, ?_, hrecords, hpages⟩
    simpa using hrequests
  | @turn taken before r f after waiting t' underWay =>
    obtain ⟨rfl, rfl⟩ := eq_nil_of_single hw.single
    refine ⟨Nat.le_refl 1, hheld, done, hrequests, hrecords, ?_⟩
    rw [hpages]
    exact congrArg (behind _) (pagesFrom_turn r f (toFetch waiting) t').symm
  | @finish taken before r page after waiting t' now =>
    obtain ⟨rfl, rfl⟩ := eq_nil_of_single hw.single
    exact ⟨Nat.le_refl 1, hheld, done, hrequests, hrecords, hpages⟩
  | @take taken r f record fetches waiting t' =>
    obtain rfl : fetches = [] :=
      List.eq_nil_of_length_eq_zero (Nat.le_zero.1 (Nat.le_of_succ_le_succ hw.single))
    obtain ⟨page, rfl, houtcome⟩ := hw.held.first
    obtain ⟨page, now, rfl, hrecord⟩ := harvested_ok_iff.1 houtcome
    refine ⟨Nat.zero_le 1, hheld, done ++ [(r, page)], ?_, ?_, ?_⟩
    · simpa using hrequests
    · exact List.rel_append hrecords (.cons ⟨now, hrecord⟩ .nil)
    · rw [hpages, List.map_append]
      exact behind_done (done.map Prod.snd) r page (toFetch waiting) t'

theorem Steps.inTurn (hone : config.concurrency ≤ 1)
    (h : Steps network config (ofRequests requests t) w) :
    InTurn network config requests t w := by
  induction h with
  | refl => exact inTurn_ofRequests network config requests t
  | tail _ step ih => exact step.inTurn hone ih

/-! ### The end -/

/-- What a window comes to that has ended: the pages of its requests, or the error
of the first that fails, and everything that has been received. -/
theorem InTurn.ends {result : Except FetchError (List Record)}
    (hw : InTurn network config requests t w) (h : w.Ends result) :
    (∃ e, result = .error e ∧
      pagesFrom network config (toFetch requests) t = (.error e, w.traffic)) ∨
    ∃ (done : List (Request × String)) (records : List Record), result = .ok records ∧
      requests = done.map Prod.fst ∧
      List.Forall₂ (fun d record => ∃ now, record = extract d.1.url d.2 now) done records ∧
      pagesFrom network config (toFetch requests) t = (.ok (done.map Prod.snd), w.traffic) := by
  obtain ⟨done, hrequests, hrecords, hpages⟩ := hw.row
  obtain ⟨taken, fetches, waiting, t'⟩ := w
  rcases fetches with _ | ⟨⟨r, f, outcome⟩, fetches⟩
  · rcases waiting with _ | ⟨r, waiting⟩
    · cases h
      right
      refine ⟨done, taken, rfl, by simpa using hrequests, hrecords, ?_⟩
      rw [hpages]
      simp [toDo, toFetch, pagesFrom, behind, Except.map]
    · cases h
  · rcases outcome with _ | (e | record)
    · cases h
    · cases h
      obtain ⟨page, rfl, herror⟩ := hw.held.first
      obtain rfl : page = .error e := harvested_error_iff.1 herror
      exact .inl ⟨e, rfl, hpages⟩
    · cases h

/-- A window of one that has ended takes no step any more. -/
theorem InTurn.not_step {result : Except FetchError (List Record)} (hone : config.concurrency ≤ 1)
    (hw : InTurn network config requests t w) (h : w.Ends result) :
    ¬ Step network config w w' := by
  intro hstep
  cases hstep with
  | start room =>
    have hroom : _ < 1 := Nat.max_eq_left hone ▸ room
    obtain rfl := List.eq_nil_of_length_eq_zero (Nat.lt_one_iff.1 hroom)
    cases h
  | turn underWay =>
    obtain ⟨rfl, rfl⟩ := eq_nil_of_single hw.single
    cases h
  | finish now =>
    obtain ⟨rfl, rfl⟩ := eq_nil_of_single hw.single
    cases h
  | take => cases h

end Window

/-- The records of pages differ in their times only. -/
theorem map_untimed_eq {done : List (Request × String)} {records : List Record} (now : String)
    (h : List.Forall₂ (fun d record => ∃ now, record = extract d.1.url d.2 now) done records) :
    records.map Record.untimed =
      (List.zipWith (fun r page => extract r.url page now) (done.map Prod.fst)
        (done.map Prod.snd)).map Record.untimed := by
  induction h with
  | nil => rfl
  | @cons d record done records hd _ ih =>
    obtain ⟨now', rfl⟩ := hd
    simp only [List.map_cons, List.zipWith_cons_cons, ih, extract_untimed d.1.url d.2 now' now]

/-- How the visits of requests end: with a record for each request, in their order,
or with the error of the first one that fails and nothing else. -/
def VisitsEnd (requests : List Request) (visits : List Visit) :
    Except FetchError (List Record) → Prop
  | .ok records => visits.map Visit.request = requests ∧
      List.Forall₂ (fun v record => ∃ page now, v.page = .ok page ∧
        record = extract v.request.url page now) visits records
  | .error e => ∃ before last after, visits = before ++ [last] ∧
      requests = before.map Visit.request ++ last.request :: after ∧ last.page = .error e ∧
      ∀ v ∈ before, ∃ page, v.page = .ok page

/-- The records of visits that all end well. -/
theorem visitsEnd_ok {t : Traffic} {done : List (Request × String)} {records : List Record}
    {visits : List Visit} (hvisited : Visited network config t (done.map Prod.fst) visits)
    (hpages : visits.mapM Visit.page = .ok (done.map Prod.snd))
    (hrecords : List.Forall₂ (fun d record => ∃ now, record = extract d.1.url d.2 now) done
      records) : VisitsEnd (done.map Prod.fst) visits (.ok records) := by
  obtain ⟨hrequests, hall⟩ := hvisited.of_ok hpages
  refine ⟨hrequests, ?_⟩
  clear hvisited hpages
  induction hrecords generalizing visits with
  | nil =>
    rw [List.map_eq_nil_iff.1 hrequests]
    exact .nil
  | @cons d record done records hd _ ih =>
    obtain ⟨now, rfl⟩ := hd
    obtain ⟨v, visits, rfl, hv, hrest⟩ := List.map_eq_cons_iff.1 hrequests
    obtain ⟨hpage, hall⟩ := List.forall₂_cons.1 hall
    exact .cons ⟨d.2, now, hpage, by rw [hv]⟩ (ih hrest hall)

namespace Window

variable {requests : List Request} {t : Traffic} {w : Window}
  {result : Except FetchError (List Record)}

/-- What has been received at the end are the requests of visits. -/
theorem InTurn.visitsEnd (hw : InTurn network config requests t w) (h : w.Ends result) :
    ∃ visits, Visited network config t requests visits ∧
      w.traffic = t ++ visits.flatMap Visit.sent ∧ VisitsEnd requests visits result := by
  obtain ⟨visits, hvisited, hrow⟩ := exists_visited network config requests t
  rcases hw.ends h with ⟨e, rfl, hpages⟩ | ⟨done, records, rfl, rfl, hrecords, hpages⟩
  · obtain ⟨hfails, htraffic⟩ := Prod.mk.inj (hrow.symm.trans hpages)
    exact ⟨visits, hvisited, htraffic.symm, hvisited.of_error hfails⟩
  · obtain ⟨hall, htraffic⟩ := Prod.mk.inj (hrow.symm.trans hpages)
    exact ⟨visits, hvisited, htraffic.symm, visitsEnd_ok hvisited hall hrecords⟩

/-- A harvest that fetches one page after the other ends in the same way. -/
theorem InTurn.harvestAll_eq (now : String) {trail : Trail}
    (hw : InTurn network config requests trail.traffic w) (h : w.Ends result) :
    w.traffic = (harvestAll network config now requests trail).2.traffic ∧
      result.map (List.map Record.untimed) =
        (harvestAll network config now requests trail).1.map (List.map Record.untimed) := by
  obtain ⟨hrecords, htraffic⟩ := RuleHarvest.harvestAll_eq network config now requests trail
  rw [hrecords, htraffic]
  rcases hw.ends h with ⟨e, rfl, hpages⟩ | ⟨done, records, rfl, rfl, hdone, hpages⟩
  · rw [hpages]
    exact ⟨rfl, rfl⟩
  · rw [hpages]
    exact ⟨rfl, congrArg Except.ok (map_untimed_eq now hdone)⟩

end Window

/-- **A window of one sends the requests of its pages in turn.** Let a batch with a
window of one, or of zero, be at its end, whatever its schedule was. Then what has
been received of it are the requests of the visits of its pages, one visit after
the other, up to the first page that fails with all its attempts, and nothing more
will be sent. The batch ends with the error of that page alone, or with one record
for each page. Fetching one page after the other sends the same requests and ends
in the same way, up to the times of the records.

Every schedule comes to an end. Without requests the batch sends nothing and ends
with no records. -/
theorem pages_one_by_one (network : Network) (config : Config) (now : String)
    (requests : List Request) (trail : Trail) (hone : config.concurrency ≤ 1) :
    (∀ w, Window.Steps network config (.ofRequests requests trail.traffic) w →
      (∀ result, w.Ends result →
        (∃ visits, Visited network config trail.traffic requests visits ∧
          w.traffic = trail.traffic ++ visits.flatMap Visit.sent ∧
          VisitsEnd requests visits result) ∧
        (w.traffic = (harvestAll network config now requests trail).2.traffic ∧
          result.map (List.map Record.untimed) =
            (harvestAll network config now requests trail).1.map (List.map Record.untimed)) ∧
        ∀ w', ¬ Window.Step network config w w') ∧
      ∃ w' result, Window.Steps network config w w' ∧ w'.Ends result) ∧
    (∀ schedule : Nat → Window, schedule 0 = .ofRequests requests trail.traffic →
      ¬ ∀ n, Window.Step network config (schedule n) (schedule (n + 1))) ∧
    (requests = [] → ∀ w, Window.Steps network config (.ofRequests requests trail.traffic) w →
      w.traffic = trail.traffic ∧ w.Ends (.ok [])) := by
  have hstart : (Window.ofRequests requests trail.traffic).IsBounded config :=
    fun f hf => absurd hf List.not_mem_nil
  refine ⟨fun w hsteps => ⟨fun result hends => ?_, ?_⟩, fun schedule hfirst => ?_, ?_⟩
  · have hturn : w.InTurn network config requests trail.traffic := hsteps.inTurn hone
    exact ⟨hturn.visitsEnd hends, hturn.harvestAll_eq now hends,
      fun w' => hturn.not_step hone hends⟩
  · exact Window.exists_ends network config w (hsteps.isBounded hstart)
  · exact Window.not_endless schedule (hfirst ▸ hstart)
  · -- an empty batch has ended before its first step
    rintro rfl w hsteps
    have hnone : ∀ w', ¬ Window.Step network config (.ofRequests [] trail.traffic) w' :=
      fun w' => (Window.inTurn_ofRequests network config [] trail.traffic).not_step hone .ok
    rcases Relation.ReflTransGen.cases_head hsteps with rfl | ⟨w', hstep, -⟩
    · exact ⟨rfl, .ok⟩
    · exact absurd hstep (hnone w')

/-- A page that is always there, and one that is there once, between a failure
that passes and one that stays. -/
def twoPages : Network := .scripted
  [("http://a/", [.answer {}]),
    ("http://b/", [.answer { status := 503 }, .answer {}, .answer { status := 404 }])]

/-- Asked for twice, the second page fails the batch; the first one is not asked for
again. -/
theorem pages_one_by_one_repeated :
    ∃ w, Window.Steps twoPages { concurrency := 0, maxRetries := 1 }
        (.ofRequests [⟨"http://a/"⟩, ⟨"http://b/"⟩, ⟨"http://b/"⟩, ⟨"http://a/"⟩] []) w ∧
      w.Ends (.error (.server "http://b/" 404)) ∧
      w.traffic.map (·.url) = ["http://a/", "http://b/", "http://b/", "http://b/"] := by
  have hbatch := pages_one_by_one twoPages { concurrency := 0, maxRetries := 1 } ""
    [⟨"http://a/"⟩, ⟨"http://b/"⟩, ⟨"http://b/"⟩, ⟨"http://a/"⟩] {} (Nat.zero_le 1)
  obtain ⟨w, result, hsteps, hends⟩ := (hbatch.1 _ .refl).2
  obtain ⟨-, ⟨htraffic, hresult⟩, -⟩ := (hbatch.1 w hsteps).1 result hends
  have hfails : (harvestAll twoPages { concurrency := 0, maxRetries := 1 } ""
      [⟨"http://a/"⟩, ⟨"http://b/"⟩, ⟨"http://b/"⟩, ⟨"http://a/"⟩] {}).1 =
        .error (.server "http://b/" 404) := by decide +kernel
  rw [hfails] at hresult
  rcases result with e | records
  · cases hresult
    exact ⟨w, hsteps, hends, by rw [htraffic]; decide +kernel⟩
  · cases hresult

end RuleHarvest
