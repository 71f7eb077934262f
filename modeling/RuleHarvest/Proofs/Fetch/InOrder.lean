/-
# A batch ends as if its pages were fetched one after the other

Whatever the width of the window and whichever flight finishes first, a batch
takes the outcomes in the order of its requests. So it ends well exactly when
every fetch does, with one result for each request in their order, and else
with the error of the first request that fails, be it the last to finish.

The invariant `Ordered` splits the requests of a batch under way into those
whose results were taken, those in the window and those that wait; a finished
flight holds what its own request came to. No schedule goes on for ever
(`Step.left_lt`) and none gets stuck (`step_or_ends`).

Key definitions: `Batch.Ordered`, `Batch.left`, `Harvested`, `SteadyPage`.
Key theorems: `Batch.yields_ok_iff`, `Batch.yields_error_iff`,
`harvest_in_order`.
-/
import Mathlib.Data.List.Forall2
import RuleHarvest.Fetch.Batch
import RuleHarvest.Fetch.Harvest

namespace RuleHarvest

variable {ρ ε α : Type}

theorem exists_forall₂_iff {R : ρ → α → Prop} :
    ∀ {l : List ρ}, (∃ m, List.Forall₂ R l m) ↔ ∀ r ∈ l, ∃ a, R r a
  | [] => by simp
  | r :: l => by
    rw [List.forall_mem_cons, ← exists_forall₂_iff]
    constructor
    · rintro ⟨m, h⟩
      obtain ⟨a, m, ha, hm, rfl⟩ := List.forall₂_cons_left_iff.1 h
      exact ⟨⟨a, ha⟩, m, hm⟩
    · rintro ⟨⟨a, ha⟩, m, hm⟩
      exact ⟨a :: m, .cons ha hm⟩

namespace Batch

variable {width : Nat} {comes : ρ → Except ε α → Prop} {requests : List ρ} {b c : Batch ρ ε α}

/-! ### Order -/

/-- The requests are, in this order, those of the results taken, those in the
window and those that wait. What was taken, and what a finished flight holds,
is what the request came to. -/
def Ordered (comes : ρ → Except ε α → Prop) (requests : List ρ) (b : Batch ρ ε α) : Prop :=
  ∃ done, requests = done ++ b.flights.map (·.request) ++ b.waiting ∧
    List.Forall₂ (fun r a => comes r (.ok a)) done b.taken ∧
    ∀ f ∈ b.flights, ∀ outcome, f.outcome = some outcome → comes f.request outcome

theorem ordered_ofRequests (requests : List ρ) :
    Ordered comes requests (ofRequests requests : Batch ρ ε α) :=
  ⟨[], rfl, .nil, fun _ hf => absurd hf List.not_mem_nil⟩

theorem Step.ordered (h : Step width comes b c) (hb : Ordered comes requests b) :
    Ordered comes requests c := by
  obtain ⟨done, hreq, hdone, hflights⟩ := hb
  cases h with
  | start room =>
    refine ⟨done, ?_, hdone, fun f hf outcome ho => ?_⟩
    · simpa using hreq
    · rcases List.mem_append.1 hf with hf | hf
      · exact hflights f hf outcome ho
      · rw [List.mem_singleton.1 hf] at ho
        cases ho
  | @finish taken before r after waiting result hend =>
    refine ⟨done, ?_, hdone, fun f hf outcome ho => ?_⟩
    · simpa using hreq
    · rcases List.mem_append.1 hf with hf | hf
      · exact hflights f (List.mem_append_left _ hf) outcome ho
      · rcases List.mem_cons.1 hf with rfl | hf
        · cases ho
          exact hend
        · exact hflights f (List.mem_append_right _ (List.mem_cons_of_mem _ hf)) outcome ho
  | @take taken r a flights waiting =>
    have hr : comes r (.ok a) := hflights ⟨r, some (.ok a)⟩ List.mem_cons_self _ rfl
    refine ⟨done ++ [r], ?_, ?_, fun f hf => hflights f (List.mem_cons_of_mem _ hf)⟩
    · simpa using hreq
    · exact List.rel_append hdone (.cons hr .nil)

theorem Steps.ordered (h : Steps width comes b c) (hb : Ordered comes requests b) :
    Ordered comes requests c := by
  induction h with
  | refl => exact hb
  | tail _ step ih => exact step.ordered ih

/-! ### One flight at a time -/

theorem Steps.trans {a b c : Batch ρ ε α} (h : Steps width comes a b) (h' : Steps width comes b c) :
    Steps width comes a c := by
  induction h' with
  | refl => exact h
  | tail _ step ih => exact .tail ih step

/-- There is room in an empty window, also in one of width zero. -/
theorem room_of_empty (width : Nat) : 0 < max 1 width :=
  Nat.lt_of_lt_of_le Nat.one_pos (Nat.le_max_left 1 width)

/-- The next request is started and finishes before anything else happens. -/
theorem steps_finish {taken : List α} {r : ρ} {waiting : List ρ} {outcome : Except ε α}
    (hr : comes r outcome) :
    Steps width comes ⟨taken, [], r :: waiting⟩ ⟨taken, [⟨r, some outcome⟩], waiting⟩ := by
  have hstart : Step width comes ⟨taken, [], r :: waiting⟩ ⟨taken, [] ++ [⟨r, none⟩], waiting⟩ :=
    .start (room_of_empty width)
  have hfinish : Step width comes ⟨taken, [] ++ ⟨r, none⟩ :: [], waiting⟩
      ⟨taken, [] ++ ⟨r, some outcome⟩ :: [], waiting⟩ := .finish hr
  exact .tail (.tail .refl hstart) hfinish

/-- Requests that end well are taken one after the other. -/
theorem steps_take {before : List ρ} {results : List α}
    (h : List.Forall₂ (fun r a => comes r (.ok a)) before results) (rest : List ρ) :
    ∀ taken, Steps width comes ⟨taken, [], before ++ rest⟩ ⟨taken ++ results, [], rest⟩ := by
  induction h with
  | nil => intro taken; simpa using Steps.refl
  | @cons r a before results hr _ ih =>
    intro taken
    have hfirst : Steps width comes ⟨taken, [], r :: (before ++ rest)⟩
        ⟨taken ++ [a], [], before ++ rest⟩ := .tail (steps_finish hr) .take
    have hrest := ih (taken ++ [a])
    rw [List.append_assoc] at hrest
    exact hfirst.trans hrest

/-! ### How a batch ends -/

/-- **A batch ends well with the results of its requests, in their order.** -/
theorem yields_ok_iff {results : List α} :
    Yields width comes requests (.ok results) ↔
      List.Forall₂ (fun r a => comes r (.ok a)) requests results := by
  constructor
  · rintro ⟨b, hsteps, hends⟩
    obtain ⟨done, hreq, hdone, -⟩ := hsteps.ordered (ordered_ofRequests requests)
    cases hends
    rw [hreq]
    simpa using hdone
  · intro h
    have hsteps : Steps width comes ⟨[], [], requests ++ []⟩ ⟨[] ++ results, [], []⟩ :=
      steps_take h [] []
    rw [List.append_nil, List.nil_append] at hsteps
    exact ⟨_, hsteps, .ok⟩

/-- **A batch that fails ends with the error of the first request that does.** -/
theorem yields_error_iff {e : ε} :
    Yields width comes requests (.error e) ↔
      ∃ before r after results, requests = before ++ r :: after ∧
        List.Forall₂ (fun r a => comes r (.ok a)) before results ∧ comes r (.error e) := by
  constructor
  · rintro ⟨b, hsteps, hends⟩
    obtain ⟨done, hreq, hdone, hflights⟩ := hsteps.ordered (ordered_ofRequests requests)
    cases hends with
    | @error taken r e flights waiting =>
      refine ⟨done, r, flights.map (·.request) ++ waiting, taken, ?_, hdone, ?_⟩
      · simpa using hreq
      · exact hflights ⟨r, some (.error e)⟩ List.mem_cons_self _ rfl
  · rintro ⟨before, r, after, results, rfl, hbefore, hr⟩
    have hsteps : Steps width comes ⟨[], [], before ++ r :: after⟩
        ⟨[] ++ results, [], r :: after⟩ :=
      steps_take hbefore (r :: after) []
    exact ⟨_, hsteps.trans (steps_finish hr), .error⟩

theorem yields_nil_iff {result : Except ε (List α)} :
    Yields width comes ([] : List ρ) result ↔ result = .ok [] := by
  rcases result with e | results
  · rw [yields_error_iff]
    simp
  · rw [yields_ok_iff, List.forall₂_nil_left_iff, Except.ok.injEq]

/-- How a batch ends, by its first request. -/
theorem yields_cons_iff {r : ρ} {result : Except ε (List α)} :
    Yields width comes (r :: requests) result ↔
      (∃ e, comes r (.error e) ∧ result = .error e) ∨
      ∃ a rest, comes r (.ok a) ∧ Yields width comes requests rest ∧
        result = rest.map (a :: ·) := by
  constructor
  · intro h
    rcases result with e | results
    · obtain ⟨before, r', after, results, hreq, hbefore, hr'⟩ := yields_error_iff.1 h
      rcases before with _ | ⟨r'', before⟩
      · cases hreq
        exact .inl ⟨e, hr', rfl⟩
      · cases hreq
        obtain ⟨a, results, ha, hrest, rfl⟩ := List.forall₂_cons_left_iff.1 hbefore
        have hfails : Yields width comes (before ++ r' :: after) (.error e) :=
          yields_error_iff.2 ⟨before, r', after, results, rfl, hrest, hr'⟩
        exact .inr ⟨a, .error e, ha, hfails, rfl⟩
    · obtain ⟨a, results, ha, hrest, rfl⟩ := List.forall₂_cons_left_iff.1 (yields_ok_iff.1 h)
      exact .inr ⟨a, .ok results, ha, yields_ok_iff.2 hrest, rfl⟩
  · rintro (⟨e, hr, rfl⟩ | ⟨a, rest, ha, hrest, rfl⟩)
    · exact yields_error_iff.2 ⟨[], r, requests, [], rfl, .nil, hr⟩
    · rcases rest with e | results
      · obtain ⟨before, r', after, results, rfl, hbefore, hr'⟩ := yields_error_iff.1 hrest
        exact yields_error_iff.2 ⟨r :: before, r', after, a :: results, rfl, .cons ha hbefore, hr'⟩
      · exact yields_ok_iff.2 (.cons ha (yields_ok_iff.1 hrest))

/-- What all that a request may come to has in common is found in all ends of a
batch, whatever the width of its window. -/
theorem yields_map_unique {β : Type} (view : α → β) {width' : Nat}
    (hview : ∀ r o o', comes r o → comes r o' → o.map view = o'.map view) :
    ∀ {requests : List ρ} {result result' : Except ε (List α)},
      Yields width comes requests result → Yields width' comes requests result' →
        result.map (List.map view) = result'.map (List.map view)
  | [], result, result', h, h' => by
    rw [yields_nil_iff.1 h, yields_nil_iff.1 h']
  | r :: requests, result, result', h, h' => by
    rcases yields_cons_iff.1 h with ⟨e, hr, rfl⟩ | ⟨a, rest, ha, hrest, rfl⟩
    · rcases yields_cons_iff.1 h' with ⟨e', hr', rfl⟩ | ⟨a', rest', ha', -, rfl⟩
      · have he := hview r _ _ hr hr'
        cases he
        rfl
      · exact absurd (hview r _ _ hr ha') (by simp [Except.map])
    · rcases yields_cons_iff.1 h' with ⟨e', hr', rfl⟩ | ⟨a', rest', ha', hrest', rfl⟩
      · exact absurd (hview r _ _ ha hr') (by simp [Except.map])
      · have ha := hview r _ _ ha ha'
        simp only [Except.map, Except.ok.injEq] at ha
        have ih := yields_map_unique view hview hrest hrest'
        rcases rest with e | results <;> rcases rest' with e' | results' <;>
          simp only [Except.map, reduceCtorEq, Except.ok.injEq, Except.error.injEq, List.map_cons,
            List.cons.injEq] at ih ⊢
        · exact ih
        · exact ⟨ha, ih⟩

/-! ### Every schedule ends -/

/-- How many steps are left at most: a request that waits has to be started, to
finish and to be taken. -/
def left (b : Batch ρ ε α) : Nat :=
  3 * b.waiting.length + b.flights.length + b.flights.countP (·.outcome.isNone)

theorem Step.left_lt (h : Step width comes b c) : c.left < b.left := by
  cases h with
  | start room =>
    simp only [left, List.length_append, List.countP_append, List.length_cons, List.length_nil,
      List.countP_cons, List.countP_nil, Option.isNone_none, ↓reduceIte]
    omega
  | finish end' =>
    simp only [left, List.length_append, List.countP_append, List.length_cons, List.countP_cons,
      Option.isNone_none, Option.isNone_some, Bool.false_eq_true, ↓reduceIte]
    omega
  | take =>
    simp only [left, List.length_cons, List.countP_cons, Option.isNone_some, Bool.false_eq_true,
      ↓reduceIte]
    omega

/-- No schedule goes on for ever. -/
theorem not_endless (schedule : Nat → Batch ρ ε α) :
    ¬ ∀ n, Step width comes (schedule n) (schedule (n + 1)) := by
  intro h
  have hleft : ∀ n, (schedule n).left + n ≤ (schedule 0).left := by
    intro n
    induction n with
    | zero => exact Nat.le_refl _
    | succ n ih =>
      have := (h n).left_lt
      omega
  have := hleft ((schedule 0).left + 1)
  omega

/-- A batch that has not ended can take a step: the window has room when it is
empty, and else its first flight can finish or be taken. -/
theorem step_or_ends (hcomes : ∀ r, ∃ outcome, comes r outcome) (b : Batch ρ ε α) :
    (∃ c, Step width comes b c) ∨ ∃ result, Ends b result := by
  obtain ⟨taken, flights, waiting⟩ := b
  rcases flights with _ | ⟨⟨r, _ | (e | a)⟩, flights⟩
  · rcases waiting with _ | ⟨r, waiting⟩
    · exact .inr ⟨_, .ok⟩
    · exact .inl ⟨_, .start (room_of_empty width)⟩
  · obtain ⟨outcome, hr⟩ := hcomes r
    have hfinish : Step width comes ⟨taken, [] ++ ⟨r, none⟩ :: flights, waiting⟩
        ⟨taken, [] ++ ⟨r, some outcome⟩ :: flights, waiting⟩ := .finish hr
    exact .inl ⟨_, hfinish⟩
  · exact .inr ⟨_, .error⟩
  · exact .inl ⟨_, .take⟩

end Batch

/-! ### Pages -/

theorem harvestOne_fst (network : Network) (config : Config) (now : String) (r : Request)
    (trail : Trail) : (harvestOne network config now r trail).1 =
      (retrying config r.url (fetchPage network config r.url) trail.traffic).1.map
        fun page => extract r.url page now := by
  unfold harvestOne
  rfl

/-- Fetching pages one after the other is one of the schedules. -/
theorem yields_harvestAll {width : Nat} {comes : ρ → Except FetchError Record → Prop}
    (network : Network) (config : Config) (now : String) (request : ρ → Request) :
    ∀ (fetches : List ρ) (trail : Trail),
      (∀ f ∈ fetches, ∀ trail, comes f (harvestOne network config now (request f) trail).1) →
        Batch.Yields width comes fetches
          (harvestAll network config now (fetches.map request) trail).1
  | [], _, _ => Batch.yields_nil_iff.2 rfl
  | f :: fetches, trail, h => by
    have hf := h f List.mem_cons_self trail
    simp only [List.map_cons, harvestAll]
    rcases hone : harvestOne network config now (request f) trail with ⟨e | record, trail'⟩
    · rw [hone] at hf
      exact Batch.yields_cons_iff.2 (.inl ⟨e, hf, rfl⟩)
    · rw [hone] at hf
      have hrest : Batch.Yields width comes fetches
        (harvestAll network config now (fetches.map request) trail').1 :=
      yields_harvestAll network config now request fetches trail'
        fun f hf => h f (List.mem_cons_of_mem _ hf)
      exact Batch.yields_cons_iff.2 (.inr ⟨record, _, hf, hrest, rfl⟩)

/-- What the fetch of a request whose page is known comes to: the record of the
page, read at any time, or the failure. -/
def Harvested (f : Request × Except FetchError String) (outcome : Except FetchError Record) :
    Prop :=
  ∃ now, outcome = f.2.map fun page => extract f.1.url page now

/-- What the fetch of a request yields, with all its attempts, does not depend
on what was asked for before. -/
def SteadyPage (network : Network) (config : Config) (f : Request × Except FetchError String) :
    Prop :=
  ∀ traffic, (retrying config f.1.url (fetchPage network config f.1.url) traffic).1 = f.2

/-- A record without its time. -/
def Record.untimed (r : Record) : Record := { r with scrapedAt := "" }

theorem extract_url (url page now : String) : (extract url page now).url = url := rfl

theorem extract_ruleId (url page now : String) : (extract url page now).ruleId = ruleId? url := rfl

theorem extract_untimed (url page now now' : String) :
    (extract url page now).untimed = (extract url page now').untimed := by
  unfold extract recordOf Record.untimed
  rfl

theorem exists_harvested (f : Request × Except FetchError String) : ∃ o, Harvested f o :=
  ⟨f.2.map fun page => extract f.1.url page "", "", rfl⟩

theorem harvested_ok_iff {f : Request × Except FetchError String} {record : Record} :
    Harvested f (.ok record) ↔ ∃ page now, f.2 = .ok page ∧ record = extract f.1.url page now := by
  obtain ⟨r, e | page⟩ := f
  · simp [Harvested, Except.map]
  · simp [Harvested, Except.map]

theorem harvested_error_iff {f : Request × Except FetchError String} {e : FetchError} :
    Harvested f (.error e) ↔ f.2 = .error e := by
  obtain ⟨r, e' | page⟩ := f
  · simp [Harvested, Except.map, eq_comm]
  · simp [Harvested, Except.map]

/-- The outcomes of a fetch differ in the time only. -/
theorem harvested_untimed {f : Request × Except FetchError String}
    {o o' : Except FetchError Record} (h : Harvested f o) (h' : Harvested f o') :
    o.map Record.untimed = o'.map Record.untimed := by
  obtain ⟨now, rfl⟩ := h
  obtain ⟨now', rfl⟩ := h'
  obtain ⟨r, e | page⟩ := f
  · rfl
  · exact congrArg Except.ok (extract_untimed r.url page now now')

theorem harvested_of_steadyPage {network : Network} {config : Config}
    {f : Request × Except FetchError String} (h : SteadyPage network config f) (now : String)
    (trail : Trail) : Harvested f (harvestOne network config now f.1 trail).1 :=
  ⟨now, by rw [harvestOne_fst, h trail.traffic]⟩

/-- Steady pages that are fetched one after the other. -/
theorem yields_harvestAll_of_steadyPage {width : Nat} {network : Network} {config : Config}
    {fetches : List (Request × Except FetchError String)} (now : String) (trail : Trail)
    (h : ∀ f ∈ fetches, SteadyPage network config f) :
    Batch.Yields width Harvested fetches
      (harvestAll network config now (fetches.map Prod.fst) trail).1 := by
  refine yields_harvestAll network config now Prod.fst fetches trail ?_
  intro f hf trail
  exact harvested_of_steadyPage (h f hf) now trail

/-- A batch of pages ends well exactly when all fetches do. -/
theorem yields_harvested_ok_iff {width : Nat} {fetches : List (Request × Except FetchError String)}
    {records : List Record} :
    Batch.Yields width Harvested fetches (.ok records) ↔
      List.Forall₂ (fun f record => ∃ page now, f.2 = .ok page ∧ record = extract f.1.url page now)
        fetches records := by
  simp only [Batch.yields_ok_iff, harvested_ok_iff]

/-- A batch of pages that fails ends with the first error in the order of the
requests. -/
theorem yields_harvested_error_iff {width : Nat}
    {fetches : List (Request × Except FetchError String)} {e : FetchError} :
    Batch.Yields width Harvested fetches (.error e) ↔
      ∃ before r after, fetches = before ++ (r, .error e) :: after ∧
        ∀ f ∈ before, ∃ page, f.2 = .ok page := by
  simp only [Batch.yields_error_iff, harvested_error_iff]
  constructor
  · rintro ⟨before, ⟨r, page⟩, after, records, rfl, hbefore, rfl⟩
    refine ⟨before, r, after, rfl, fun f hf => ?_⟩
    obtain ⟨record, hrecord⟩ := exists_forall₂_iff.1 ⟨records, hbefore⟩ f hf
    obtain ⟨page, -, hpage, -⟩ := harvested_ok_iff.1 hrecord
    exact ⟨page, hpage⟩
  · rintro ⟨before, r, after, rfl, hbefore⟩
    have hrecords : ∀ f ∈ before, ∃ record, Harvested f (.ok record) := fun f hf =>
      let ⟨page, hpage⟩ := hbefore f hf
      ⟨extract f.1.url page "", harvested_ok_iff.2 ⟨page, "", hpage, rfl⟩⟩
    obtain ⟨records, hbefore⟩ := exists_forall₂_iff.2 hrecords
    exact ⟨before, (r, .error e), after, records, rfl, hbefore, rfl⟩

/-- Each record names the address of its request as it was asked for, and the
rule that this address belongs to. -/
theorem records_of_requests {fetches : List (Request × Except FetchError String)}
    {records : List Record}
    (h : List.Forall₂ (fun f record => ∃ page now, f.2 = .ok page ∧
      record = extract f.1.url page now) fetches records) :
    records.length = fetches.length ∧ records.map (·.url) = fetches.map (·.1.url) ∧
      records.map (·.ruleId) = fetches.map fun f => ruleId? f.1.url := by
  induction h with
  | nil => exact ⟨rfl, rfl, rfl⟩
  | cons hf _ ih =>
    obtain ⟨page, now, -, rfl⟩ := hf
    obtain ⟨hlength, hurls, hids⟩ := ih
    simp only [List.length_cons, List.map_cons, hlength, hurls, hids, extract_url, extract_ruleId,
      and_self]

/-- **A batch gives one record for each request, in their order, or the error
of the first that fails.** `fetches` are the requests, each with what its fetch
yields: a page or an error. The width of the window and the schedule show in
nothing but the times of the records, and fetching the pages one after the
other gives the same. Every schedule comes to an end. -/
theorem harvest_in_order (width : Nat) (fetches : List (Request × Except FetchError String)) :
    (∀ records, Batch.Yields width Harvested fetches (.ok records) ↔
      List.Forall₂ (fun f record => ∃ page now, f.2 = .ok page ∧ record = extract f.1.url page now)
        fetches records) ∧
    ((∃ records, Batch.Yields width Harvested fetches (.ok records)) ↔
      ∀ f ∈ fetches, ∃ page, f.2 = .ok page) ∧
    (∀ records, Batch.Yields width Harvested fetches (.ok records) →
      records.length = fetches.length ∧ records.map (·.url) = fetches.map (·.1.url) ∧
        records.map (·.ruleId) = fetches.map fun f => ruleId? f.1.url) ∧
    (∀ e, Batch.Yields width Harvested fetches (.error e) ↔
      ∃ before r after, fetches = before ++ (r, .error e) :: after ∧
        ∀ f ∈ before, ∃ page, f.2 = .ok page) ∧
    (∀ width' result result', Batch.Yields width Harvested fetches result →
      Batch.Yields width' Harvested fetches result' →
        result.map (List.map Record.untimed) = result'.map (List.map Record.untimed)) ∧
    (∀ network config now trail result, (∀ f ∈ fetches, SteadyPage network config f) →
      Batch.Yields width Harvested fetches result →
        result.map (List.map Record.untimed) =
          (harvestAll network config now (fetches.map Prod.fst) trail).1.map
            (List.map Record.untimed)) ∧
    (∀ b, Batch.Steps width Harvested (Batch.ofRequests fetches) b →
      (∃ c, Batch.Step width Harvested b c) ∨ ∃ result, Batch.Ends b result) ∧
    (∀ schedule : Nat → Batch (Request × Except FetchError String) FetchError Record,
      ¬ ∀ n, Batch.Step width Harvested (schedule n) (schedule (n + 1))) := by
  have hunique : ∀ f o o', Harvested f o → Harvested f o' →
      o.map Record.untimed = o'.map Record.untimed := fun _ _ _ => harvested_untimed
  refine ⟨fun records => yields_harvested_ok_iff, ?_, fun records h => ?_,
    fun e => yields_harvested_error_iff, fun width' result result' h h' => ?_,
    fun network config now trail result hsteady h => ?_, fun b _ => ?_, Batch.not_endless⟩
  · simp only [yields_harvested_ok_iff, exists_forall₂_iff]
    refine forall₂_congr fun f _ => ?_
    constructor
    · rintro ⟨_, page, _, hpage, -⟩
      exact ⟨page, hpage⟩
    · rintro ⟨page, hpage⟩
      exact ⟨_, page, "", hpage, rfl⟩
  · exact records_of_requests (yields_harvested_ok_iff.1 h)
  · exact Batch.yields_map_unique Record.untimed hunique h h'
  · have hall : Batch.Yields width Harvested fetches
        (harvestAll network config now (fetches.map Prod.fst) trail).1 :=
      yields_harvestAll_of_steadyPage now trail hsteady
    exact Batch.yields_map_unique Record.untimed hunique h hall
  · exact Batch.step_or_ends exists_harvested b

end RuleHarvest
