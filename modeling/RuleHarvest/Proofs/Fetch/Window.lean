/-
# Several fetches in a window

The fetches in the window of a batch share the network: what one of them asks for
changes the answers that the others get. A `Window` is a batch whose fetches take
turns and whose requests are received in one row. Its steps are those of `Batch`
and, in between, turns of a fetch (`Window.Step.batch`), so a window ends with the
records of its pages as a batch does (`Window.Steps.yields`).

Each step costs something of what is left to do (`Window.Step.effort_lt`), so every
schedule ends (`Window.exists_ends`). To fetch one page after the other is a
schedule for every width of the window (`Window.exists_steps_harvestAll`).

Key definitions: `Window`, `Window.Step`, `Window.Ends`, `Window.Held`,
`Window.effort`.
Key theorems: `Window.Step.batch`, `Window.Steps.yields`, `Window.Step.held`,
`Window.Step.effort_lt`, `Window.exists_ends`, `Window.exists_steps_harvestAll`.
-/
import Mathlib.Logic.Relation
import RuleHarvest.Proofs.Fetch.Bounds

namespace RuleHarvest

variable {network : Network} {config : Config}

/-! ### Steps -/

/-- Fetches that have not begun. -/
def toFetch (requests : List Request) : List (Request × FetchState) :=
  requests.map fun r => (r, .attempt 0)

/-- A fetch in the window, with the record or the error once it has finished. -/
structure OpenFetch where
  request : Request
  state : FetchState
  outcome : Option (Except FetchError Record) := none

/-- A batch of pages under way: the records taken, the fetches from the earliest
request on, the requests that are not started, and what has been received. -/
structure Window where
  taken : List Record
  fetches : List OpenFetch
  waiting : List Request
  traffic : Traffic

namespace Window

/-- A window before its first step, when `t` has been received. -/
def ofRequests (requests : List Request) (t : Traffic) : Window := ⟨[], [], requests, t⟩

/-- What the window still has to fetch, and where these fetches stand. -/
def toDo (w : Window) : List (Request × FetchState) :=
  (w.fetches.map fun f => (f.request, f.state)) ++ toFetch w.waiting

/-- One step of a window. Which fetch takes its turn is left open, and the time at
which a record is made. -/
inductive Step (network : Network) (config : Config) : Window → Window → Prop where
  | start {taken fetches r waiting t} (room : fetches.length < max 1 config.concurrency) :
    Step network config ⟨taken, fetches, r :: waiting, t⟩
      ⟨taken, fetches ++ [⟨r, .attempt 0, none⟩], waiting, t⟩
  | turn {taken before r f after waiting t} (underWay : ∀ page, f ≠ .done page) :
    Step network config ⟨taken, before ++ ⟨r, f, none⟩ :: after, waiting, t⟩
      ⟨taken, before ++ ⟨r, (f.turn network config r.url t).1, none⟩ :: after, waiting,
        (f.turn network config r.url t).2⟩
  | finish {taken before r page after waiting t} (now : String) :
    Step network config ⟨taken, before ++ ⟨r, .done page, none⟩ :: after, waiting, t⟩
      ⟨taken, before ++ ⟨r, .done page, some (page.map (extract r.url · now))⟩ :: after, waiting, t⟩
  | take {taken r f record fetches waiting t} :
    Step network config ⟨taken, ⟨r, f, some (.ok record)⟩ :: fetches, waiting, t⟩
      ⟨taken ++ [record], fetches, waiting, t⟩

/-- Any number of steps. -/
abbrev Steps (network : Network) (config : Config) : Window → Window → Prop :=
  Relation.ReflTransGen (Step network config)

/-- A window without what its fetches share. -/
def batch (w : Window) : Batch Request FetchError Record :=
  ⟨w.taken, w.fetches.map fun f => ⟨f.request, f.outcome⟩, w.waiting⟩

/-- A window ends as its batch does. -/
def Ends (w : Window) : Except FetchError (List Record) → Prop := w.batch.Ends

variable {requests : List Request} {t : Traffic} {w w' : Window}

/-- A window that ends well has nothing left to do. -/
theorem eq_of_ends_ok {records : List Record} (h : w.Ends (.ok records)) :
    w = ⟨records, [], [], w.traffic⟩ := by
  obtain ⟨taken, fetches, waiting, t⟩ := w
  rcases fetches with _ | ⟨⟨r, f, outcome⟩, fetches⟩
  · rcases waiting with _ | ⟨r, waiting⟩
    · cases h
      rfl
    · cases h
  · cases h

/-- **A step of a window is a step of its batch**, or a turn that does not show
there. -/
theorem Step.batch (h : Step network config w w') :
    Batch.Step config.concurrency (fun r outcome => ∃ page, Harvested (r, page) outcome)
      w.batch w'.batch ∨ w'.batch = w.batch := by
  cases h with
  | @start taken fetches r waiting t room =>
    have hroom : (fetches.map fun f => (⟨f.request, f.outcome⟩ : Flight _ _ _)).length <
        max 1 config.concurrency := by rwa [List.length_map]
    left
    simp only [Window.batch, List.map_append, List.map_cons, List.map_nil]
    exact .start hroom
  | turn underWay =>
    right
    simp only [Window.batch, List.map_append, List.map_cons]
  | @finish taken before r page after waiting t now =>
    left
    simp only [Window.batch, List.map_append, List.map_cons]
    exact .finish ⟨page, now, rfl⟩
  | take =>
    left
    simp only [Window.batch, List.map_cons]
    exact .take

/-- **A window ends as a batch does** whose fetches come to the records of pages. -/
theorem Steps.yields {result : Except FetchError (List Record)}
    (h : Steps network config (ofRequests requests t) w) (hends : w.Ends result) :
    Batch.Yields config.concurrency (fun r outcome => ∃ page, Harvested (r, page) outcome) requests
      result := by
  have hsteps : Batch.Steps config.concurrency
      (fun r outcome => ∃ page, Harvested (r, page) outcome) (.ofRequests requests) w.batch := by
    clear hends
    induction h with
    | refl => exact .refl
    | tail _ step ih =>
      rcases step.batch with hstep | hsame
      · exact .tail ih hstep
      · exact hsame ▸ ih
  exact ⟨w.batch, hsteps, hends⟩

/-- Each fetch that has finished holds the record of its page. -/
def Held (w : Window) : Prop :=
  ∀ f ∈ w.fetches, ∀ outcome, f.outcome = some outcome →
    ∃ page, f.state = .done page ∧ Harvested (f.request, page) outcome

theorem held_ofRequests (requests : List Request) (t : Traffic) : (ofRequests requests t).Held :=
  fun _ hf => absurd hf List.not_mem_nil

theorem Step.held (h : Step network config w w') (hw : w.Held) : w'.Held := by
  have unfinished {r : Request} {f : FetchState} {outcome : Except FetchError Record}
      (ho : (none : Option (Except FetchError Record)) = some outcome) :
      ∃ page, f = .done page ∧ Harvested (r, page) outcome := nomatch ho
  cases h with
  | start room =>
    simp only [Held, List.forall_mem_append, List.forall_mem_singleton]
    exact ⟨hw, fun _ => unfinished⟩
  | turn underWay =>
    simp only [Held, List.forall_mem_append, List.forall_mem_cons] at hw ⊢
    obtain ⟨hbefore, -, hafter⟩ := hw
    exact ⟨hbefore, fun _ => unfinished, hafter⟩
  | @finish taken before r page after waiting t now =>
    simp only [Held, List.forall_mem_append, List.forall_mem_cons] at hw ⊢
    obtain ⟨hbefore, -, hafter⟩ := hw
    refine ⟨hbefore, fun outcome ho => ⟨page, rfl, now, ?_⟩, hafter⟩
    exact (Option.some.inj ho).symm
  | take => exact fun f hf => hw f (List.mem_cons_of_mem _ hf)

theorem Steps.held (h : Steps network config w w') (hw : w.Held) : w'.Held := by
  induction h with
  | refl => exact hw
  | tail _ step ih => exact step.held ih

/-- The first fetch has finished: it is done, with the page of its outcome. -/
theorem Held.first {taken : List Record} {r : Request} {f : FetchState}
    {outcome : Except FetchError Record} {fetches : List OpenFetch} {waiting : List Request}
    (h : Held ⟨taken, ⟨r, f, some outcome⟩ :: fetches, waiting, t⟩) :
    ∃ page, f = .done page ∧ Harvested (r, page) outcome :=
  h ⟨r, f, some outcome⟩ List.mem_cons_self outcome rfl

/-- **No more fetches are under way than the window is wide.** -/
theorem Steps.length_fetches_le (h : Steps network config (ofRequests requests t) w) :
    w.fetches.length ≤ max 1 config.concurrency := by
  induction h with
  | refl => exact Nat.zero_le _
  | tail _ step ih =>
    cases step with
    | start room =>
      rw [List.length_append]
      exact room
    | turn underWay => simpa using ih
    | finish now => simpa using ih
    | take => exact Nat.le_of_succ_le ih

/-! ### Every schedule ends -/

/-- The settings allow all attempts and redirects in the window. -/
def IsBounded (config : Config) (w : Window) : Prop :=
  ∀ f ∈ w.fetches, f.state.IsBounded config

theorem Step.isBounded (h : Step network config w w') (hw : w.IsBounded config) :
    w'.IsBounded config := by
  cases h with
  | start room =>
    simp only [IsBounded, List.forall_mem_append, List.forall_mem_singleton]
    exact ⟨hw, Nat.zero_le _⟩
  | @turn taken before r f after waiting t underWay =>
    simp only [IsBounded, List.forall_mem_append, List.forall_mem_cons] at hw ⊢
    obtain ⟨hbefore, hf, hafter⟩ := hw
    exact ⟨hbefore, FetchState.isBounded_turn network r.url t hf, hafter⟩
  | finish now =>
    simp only [IsBounded, List.forall_mem_append, List.forall_mem_cons] at hw ⊢
    exact hw
  | take => exact fun f hf => hw f (List.mem_cons_of_mem _ hf)

theorem Steps.isBounded (h : Steps network config w w') (hw : w.IsBounded config) :
    w'.IsBounded config := by
  induction h with
  | refl => exact hw
  | tail _ step ih => exact step.isBounded ih

/-- How many turns the fetches have left at most, those that are not started
included. -/
def turnsLeft (config : Config) (w : Window) : Nat :=
  (w.fetches.map fun f => f.state.costLeft config 1 fun _ => 1).sum +
    w.waiting.length * FetchState.costFrom config 1 (fun _ => 1) 0

/-- How many steps are left at most. -/
def effort (config : Config) (w : Window) : Nat := w.batch.left + w.turnsLeft config

/-- **Each step brings the end nearer.** -/
theorem Step.effort_lt (h : Step network config w w') (hw : w.IsBounded config) :
    w'.effort config < w.effort config := by
  cases h with
  | start room =>
    simp only [effort, turnsLeft, Window.batch, Batch.left, List.map_append, List.map_cons,
      List.map_nil, List.length_append, List.length_cons, List.length_nil, List.length_map,
      List.countP_append, List.countP_cons, List.countP_nil, List.sum_append, List.sum_cons,
      List.sum_nil, Option.isNone_none, ↓reduceIte, FetchState.costLeft, Nat.succ_mul]
    omega
  | @turn taken before r f after waiting t underWay =>
    have hf : f.IsBounded config := hw ⟨r, f, none⟩ (List.mem_append_right _ List.mem_cons_self)
    have hless := FetchState.costLeft_turn_lt network r.url t hf underWay
    simp only [effort, turnsLeft, Window.batch, List.map_append, List.map_cons, List.sum_append,
      List.sum_cons]
    omega
  | finish now =>
    simp only [effort, turnsLeft, Window.batch, Batch.left, List.map_append, List.map_cons,
      List.length_append, List.length_cons, List.length_map, List.countP_append, List.countP_cons,
      Option.isNone_none, Option.isNone_some, Bool.false_eq_true, ↓reduceIte]
    omega
  | take =>
    simp only [effort, turnsLeft, Window.batch, Batch.left, List.map_cons, List.length_cons,
      List.length_map, List.countP_cons, Option.isNone_some, Bool.false_eq_true, ↓reduceIte,
      List.sum_cons]
    omega

/-- No schedule goes on for ever. -/
theorem not_endless (schedule : Nat → Window) (hstart : (schedule 0).IsBounded config) :
    ¬ ∀ n, Step network config (schedule n) (schedule (n + 1)) := by
  intro h
  have hleft : ∀ n, (schedule n).IsBounded config ∧
      (schedule n).effort config + n ≤ (schedule 0).effort config := by
    intro n
    induction n with
    | zero => exact ⟨hstart, Nat.le_refl _⟩
    | succ n ih =>
      have hless := (h n).effort_lt ih.1
      exact ⟨(h n).isBounded ih.1, by omega⟩
  have := (hleft ((schedule 0).effort config + 1)).2
  omega

/-- A window that has not ended can take a step. -/
theorem step_or_ends (network : Network) (config : Config) (w : Window) :
    (∃ w', Step network config w w') ∨ ∃ result, w.Ends result := by
  obtain ⟨taken, fetches, waiting, t⟩ := w
  rcases fetches with _ | ⟨⟨r, f, _ | (e | record)⟩, fetches⟩
  · rcases waiting with _ | ⟨r, waiting⟩
    · exact .inr ⟨_, .ok⟩
    · exact .inl ⟨_, .start (Batch.room_of_empty config.concurrency)⟩
  · -- the first fetch takes its turn, or finishes when it is done
    left
    change ∃ w', Step network config ⟨taken, [] ++ ⟨r, f, none⟩ :: fetches, waiting, t⟩ w'
    cases f with
    | done page => exact ⟨_, .finish ""⟩
    | _ => exact ⟨_, .turn (by rintro page ⟨⟩)⟩
  · exact .inr ⟨_, .error⟩
  · exact .inl ⟨_, .take⟩

/-- From everywhere an end is reached. -/
theorem exists_ends (network : Network) (config : Config) (w : Window) (hw : w.IsBounded config) :
    ∃ w' result, Steps network config w w' ∧ w'.Ends result := by
  rcases step_or_ends network config w with ⟨w', hstep⟩ | ⟨result, hends⟩
  · have hless := hstep.effort_lt hw
    obtain ⟨w'', result, hsteps, hends⟩ := exists_ends network config w' (hstep.isBounded hw)
    exact ⟨w'', result, .head hstep hsteps, hends⟩
  · exact ⟨w, result, .refl, hends⟩
termination_by w.effort config

/-! ### One page after the other -/

/-- The only fetch in a window takes all its turns before anything else happens. -/
theorem steps_finish (network : Network) (taken : List Record) (r : Request) (f : FetchState)
    (waiting : List Request) (t : Traffic) (hf : f.IsBounded config) : Steps network config
      ⟨taken, [⟨r, f, none⟩], waiting, t⟩
      ⟨taken, [⟨r, .done (f.finish network config r.url t).1, none⟩], waiting,
        (f.finish network config r.url t).2⟩ := by
  by_cases hdone : ∃ page, f = .done page
  · obtain ⟨page, rfl⟩ := hdone
    exact .refl
  · have hopen : ∀ page, f ≠ .done page := fun page hpage => hdone ⟨page, hpage⟩
    have hturn : Step network config ⟨taken, [] ++ ⟨r, f, none⟩ :: [], waiting, t⟩
        ⟨taken, [] ++ ⟨r, (f.turn network config r.url t).1, none⟩ :: [], waiting,
          (f.turn network config r.url t).2⟩ := .turn hopen
    have hless := FetchState.costLeft_turn_lt network r.url t hf hopen
    have hrest := steps_finish network taken r (f.turn network config r.url t).1 waiting
      (f.turn network config r.url t).2 (FetchState.isBounded_turn network r.url t hf)
    rw [FetchState.finish_turn] at hrest
    exact .head hturn hrest
termination_by f.costLeft config 1 fun _ => 1

/-- A page that is fetched by itself. -/
theorem steps_harvestOne (network : Network) (config : Config) (now : String)
    (taken : List Record) (r : Request) (waiting : List Request) (trail : Trail) :
    ∃ page, Steps network config
      ⟨taken, [], r :: waiting, trail.traffic⟩
      ⟨taken, [⟨r, .done page, some (harvestOne network config now r trail).1⟩], waiting,
        (harvestOne network config now r trail).2.traffic⟩ := by
  have hstart : Step network config ⟨taken, [], r :: waiting, trail.traffic⟩
      ⟨taken, [] ++ [⟨r, .attempt 0, none⟩], waiting, trail.traffic⟩ :=
    .start (Batch.room_of_empty config.concurrency)
  have hturns := steps_finish network taken r (.attempt 0) waiting trail.traffic
    (Nat.zero_le config.maxRetries)
  rw [FetchState.finish_start, ← harvestOne_traffic network config now] at hturns
  rw [harvestOne_fst]
  generalize (retrying config r.url (fetchPage network config r.url) trail.traffic).1 = page
    at hturns ⊢
  generalize (harvestOne network config now r trail).2.traffic = t at hturns ⊢
  have hfinish : Step network config ⟨taken, [] ++ ⟨r, .done page, none⟩ :: [], waiting, t⟩
      ⟨taken, [] ++ ⟨r, .done page, some (page.map (extract r.url · now))⟩ :: [], waiting, t⟩ :=
    .finish now
  exact ⟨page, .tail (.head hstart hturns) hfinish⟩

/-- **Fetching one page after the other is a schedule** of every window. -/
theorem exists_steps_harvestAll (network : Network) (config : Config) (now : String) :
    ∀ (requests : List Request) (trail : Trail) (taken : List Record), ∃ w,
      Steps network config ⟨taken, [], requests, trail.traffic⟩ w ∧
      w.Ends ((harvestAll network config now requests trail).1.map (taken ++ ·)) ∧
      w.traffic = (harvestAll network config now requests trail).2.traffic
  | [], trail, taken => by
    refine ⟨_, .refl, ?_, rfl⟩
    simp only [harvestAll, Except.map, List.append_nil]
    exact .ok
  | r :: requests, trail, taken => by
    obtain ⟨page, hone⟩ := steps_harvestOne network config now taken r requests trail
    rw [harvestAll]
    generalize harvestOne network config now r trail = one at hone ⊢
    obtain ⟨e | record, trail'⟩ := one
    · exact ⟨_, hone, .error, rfl⟩
    · obtain ⟨w, hrest, hends, htraffic⟩ :=
        exists_steps_harvestAll network config now requests trail' (taken ++ [record])
      refine ⟨w, (hone.tail .take).trans hrest, ?_, htraffic⟩
      dsimp only
      generalize (harvestAll network config now requests trail').1 = rest at hends ⊢
      rcases rest with e | records
      · exact hends
      · simpa only [Except.map, List.append_assoc, List.singleton_append] using hends

end Window
end RuleHarvest
