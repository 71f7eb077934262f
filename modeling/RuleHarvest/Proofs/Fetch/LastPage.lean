/-
# The page that the last attempt receives

The fetches of a batch take their turns in some order. What a fetch meets in a turn
depends on all turns before, whosever they were, and on nothing else. So the order
tells where each fetch stands, and which requests have been received in which
order (`Underway.after`).

A fetch that is done ended its last attempt in one of its turns, and each attempt
before it in an earlier one (`Underway.exists_end`, `Underway.exists_asksAgain`). If
it is done with a page, this is the body of the answer that its last attempt got
then and there (`Underway.lastPage_of_done`).

Every schedule of a window goes by such an order, the records that are taken are
those of the fetches in front, and no fetch takes a turn before all pages in front of
its window are there (`Window.Traced`). So a window that ends well has made its
records of the pages that the last attempts received (`Window.Steps.exists_order`).

Key definitions: `Underway`, `Underway.after`, `Underway.Receives`,
`Underway.KeepsWindow`, `LastPage`, `Window.Traced`.
Key theorems: `Underway.lastPage_of_done`, `Window.Step.traced`,
`Window.Steps.exists_order`.
-/
import RuleHarvest.Proofs.Fetch.Window

namespace RuleHarvest

variable {network : Network} {config : Config} {requests : List Request} {t : Traffic}

/-! ### Turns in some order -/

/-- Fetches under way: where each of them stands, in the order of their requests,
and what has been received. -/
structure Underway where
  fetches : List (Request × FetchState)
  traffic : Traffic

namespace Underway

/-- Fetch number `i` takes its turn. -/
def turn (network : Network) (config : Config) (s : Underway) (i : Nat) : Underway :=
  match s.fetches[i]? with
  | none => s
  | some (r, f) =>
    ⟨s.fetches.set i (r, (f.turn network config r.url s.traffic).1),
      (f.turn network config r.url s.traffic).2⟩

/-- The fetches of requests when they have taken their turns in this order, and `t`
had been received before. -/
def after (network : Network) (config : Config) (requests : List Request) (t : Traffic)
    (order : List Nat) : Underway :=
  order.foldl (turn network config) ⟨toFetch requests, t⟩

/-- Fetch number `i` takes a turn for which `p` holds of the turns before. -/
def HasTurn (order : List Nat) (i : Nat) (p : List Nat → Prop) : Prop :=
  ∃ before, before ++ [i] <+: order ∧ p before

/-- The fetches keep to the window: one of them takes a turn only when all pages are
there that come before its window. -/
def KeepsWindow (network : Network) (config : Config) (requests : List Request) (t : Traffic)
    (order : List Nat) : Prop :=
  ∀ before i, before ++ [i] <+: order → ∀ j, j + max 1 config.concurrency ≤ i → ∃ r page,
    (after network config requests t before).fetches[j]? = some (r, .done (.ok page))

/-- The next turn of fetch number `i` ends attempt number `k` in a way that another
attempt follows. -/
def AsksAgain (network : Network) (config : Config) (s : Underway) (i k : Nat) : Prop :=
  ∃ r f e, s.fetches[i]? = some (r, f) ∧ f.Ends network config r.url s.traffic k e ∧
    isSettled (pageAfter r.url e) = false

/-- In its next turn fetch number `i` receives a page, in attempt number `k`: the
answer to the request it sends is a success, leads no further and is whole. -/
def Receives (network : Network) (config : Config) (s : Underway) (i k : Nat) (page : String) :
    Prop :=
  ∃ r leg answer, s.fetches[i]? = some (r, .request k leg) ∧
    (leg.send network config s.traffic).1 = some answer ∧ answer.redirect? leg.url = none ∧
    200 ≤ answer.status ∧ answer.status < 300 ∧ answer.truncated = false ∧
    page = String.ofList (Text.Utf8.decodeLossy answer.body)

end Underway

open Underway

/-- **The page that the last attempt of fetch number `i` receives**, when the turns
are taken in this order: it comes in some turn, all attempts before had ended then,
each in a way that another one follows, and the fetch is done with it. -/
structure LastPage (network : Network) (config : Config) (requests : List Request) (t : Traffic)
    (order : List Nat) (i : Nat) (page : String) : Prop where
  received : ∃ k ≤ config.maxRetries, HasTurn order i fun before =>
    (after network config requests t before).Receives network config i k page ∧
    ∀ j < k, HasTurn before i fun earlier =>
      (after network config requests t earlier).AsksAgain network config i j
  done : ∃ r, (after network config requests t order).fetches[i]? = some (r, .done (.ok page))

namespace Underway

variable {s : Underway} {order : List Nat} {r : Request} {f : FetchState} {i j k : Nat}

/-! ### One turn -/

theorem turn_eq (h : s.fetches[i]? = some (r, f)) : s.turn network config i =
    ⟨s.fetches.set i (r, (f.turn network config r.url s.traffic).1),
      (f.turn network config r.url s.traffic).2⟩ := by
  rw [turn, h]

theorem turn_of_getElem?_eq_none (h : s.fetches[i]? = none) : s.turn network config i = s := by
  rw [turn, h]

/-- The fetch behind `before` takes its turn. -/
theorem turn_length (before behind : List (Request × FetchState)) (r : Request) (f : FetchState)
    (t : Traffic) : turn network config ⟨before ++ (r, f) :: behind, t⟩ before.length =
      ⟨before ++ (r, (f.turn network config r.url t).1) :: behind,
        (f.turn network config r.url t).2⟩ := by
  have hget : (before ++ (r, f) :: behind)[before.length]? = some (r, f) := by simp
  rw [turn_eq hget]
  simp

/-- No turn changes the requests. -/
theorem map_fst_turn (s : Underway) (i : Nat) :
    (s.turn network config i).fetches.map Prod.fst = s.fetches.map Prod.fst := by
  rcases hget : s.fetches[i]? with _ | ⟨r, f⟩
  · rw [turn_of_getElem?_eq_none hget]
  · have hr : (s.fetches.map Prod.fst)[i]? = some r := by rw [List.getElem?_map, hget]; rfl
    obtain ⟨hi, hr⟩ := List.getElem?_eq_some_iff.1 hr
    rw [turn_eq hget, List.map_set]
    exact hr ▸ List.set_getElem_self hi

/-- **Where a fetch stands after a turn**: a turn of its own has moved it, and no
other one. -/
theorem exists_of_getElem?_turn (h : (s.turn network config j).fetches[i]? = some (r, f)) :
    ∃ f₀, s.fetches[i]? = some (r, f₀) ∧
      (f = f₀ ∨ j = i ∧ f = (f₀.turn network config r.url s.traffic).1) := by
  rcases hget : s.fetches[j]? with _ | ⟨r', f'⟩
  · rw [turn_of_getElem?_eq_none hget] at h
    exact ⟨f, h, .inl rfl⟩
  · rw [turn_eq hget] at h
    by_cases hj : j = i
    · subst hj
      have hlt : j < s.fetches.length := (List.getElem?_eq_some_iff.1 hget).1
      dsimp only at h
      rw [List.getElem?_set_self hlt] at h
      cases h
      exact ⟨f', hget, .inr ⟨rfl, rfl⟩⟩
    · dsimp only at h
      rw [List.getElem?_set_ne hj] at h
      exact ⟨f, h, .inl rfl⟩

/-! ### All turns -/

theorem after_nil : after network config requests t [] = ⟨toFetch requests, t⟩ := rfl

theorem after_concat (order : List Nat) (i : Nat) :
    after network config requests t (order ++ [i]) =
      (after network config requests t order).turn network config i := by
  rw [after, List.foldl_append]
  rfl

theorem map_fst_after (order : List Nat) :
    (after network config requests t order).fetches.map Prod.fst = requests := by
  induction order using List.reverseRecOn with
  | nil =>
    rw [after_nil, toFetch, List.map_map]
    exact List.map_id' requests
  | append_singleton order i ih => rw [after_concat, map_fst_turn, ih]

/-- A fetch that has not taken a turn has not begun. -/
theorem eq_attempt_of_nil
    (h : (after network config requests t []).fetches[i]? = some (r, f)) : f = .attempt 0 := by
  rw [after_nil, toFetch, List.getElem?_map] at h
  obtain ⟨r', -, h⟩ := Option.map_eq_some_iff.1 h
  exact (Prod.mk.inj h).2.symm

/-- Every fetch keeps to the attempts that the settings allow. -/
theorem isBounded_after (order : List Nat) :
    (after network config requests t order).fetches[i]? = some (r, f) → f.IsBounded config := by
  induction order using List.reverseRecOn generalizing f with
  | nil =>
    intro h
    rw [eq_attempt_of_nil h]
    exact Nat.zero_le _
  | append_singleton order j ih =>
    intro h
    rw [after_concat] at h
    obtain ⟨f₀, hget, rfl | ⟨rfl, rfl⟩⟩ := exists_of_getElem?_turn h
    · exact ih hget
    · exact FetchState.isBounded_turn network r.url _ (ih hget)

theorem HasTurn.concat {p : List Nat → Prop} (h : HasTurn order i p) (j : Nat) :
    HasTurn (order ++ [j]) i p := by
  obtain ⟨before, hturn, hp⟩ := h
  exact ⟨before, hturn.trans (List.prefix_append order [j]), hp⟩

theorem hasTurn_last {p : List Nat → Prop} (h : p order) : HasTurn (order ++ [i]) i p :=
  ⟨order, List.prefix_rfl, h⟩

theorem keepsWindow_nil : KeepsWindow network config requests t [] := by
  intro before i hturn
  exact absurd (List.prefix_nil.1 hturn) (List.concat_ne_nil i before)

/-- One more turn of a fetch in the window. -/
theorem KeepsWindow.concat (h : KeepsWindow network config requests t order)
    (hi : ∀ j, j + max 1 config.concurrency ≤ i → ∃ r page,
      (after network config requests t order).fetches[j]? = some (r, .done (.ok page))) :
    KeepsWindow network config requests t (order ++ [i]) := by
  intro before i' hturn
  rcases List.prefix_concat_iff.1 hturn with hlast | hturn
  · obtain ⟨rfl, hi'⟩ := List.append_inj' hlast rfl
    cases hi'
    exact hi
  · exact h before i' hturn

/-- **The attempts before the one that is under way** ended in earlier turns, each in
a way that another one follows. -/
theorem exists_asksAgain (order : List Nat) :
    ∀ {k f}, (after network config requests t order).fetches[i]? = some (r, f) → f.isIn k = true →
      ∀ j < k, HasTurn order i fun earlier =>
        (after network config requests t earlier).AsksAgain network config i j := by
  induction order using List.reverseRecOn with
  | nil =>
    intro k f h hk j hj
    rw [eq_attempt_of_nil h] at hk
    have : 0 = k := of_decide_eq_true hk
    omega
  | append_singleton order m ih =>
    intro k f h hk j hj
    rw [after_concat] at h
    obtain ⟨f₀, hget, rfl | ⟨rfl, rfl⟩⟩ := exists_of_getElem?_turn h
    · exact (ih hget hk j hj).concat m
    · rcases FetchState.isIn_or_ends_of_turn hk with hin | ⟨k₀, e, hend, rfl, -, hunsettled⟩
      · exact (ih hget hin j hj).concat m
      · -- this turn ended attempt number `k₀`
        rcases Nat.lt_succ_iff_lt_or_eq.1 hj with hj | rfl
        · exact (ih hget hend.isIn j hj).concat m
        · exact hasTurn_last ⟨r, f₀, e, hget, hend, hunsettled⟩

/-- **A fetch that is done ended its last attempt** in one of its turns. -/
theorem exists_end {page : Except FetchError String} (order : List Nat) :
    (after network config requests t order).fetches[i]? = some (r, .done page) →
      HasTurn order i fun before => ∃ f k e,
        (after network config requests t before).fetches[i]? = some (r, f) ∧
        f.Ends network config r.url (after network config requests t before).traffic k e ∧
        pageAfter r.url e = page := by
  induction order using List.reverseRecOn with
  | nil =>
    intro h
    cases eq_attempt_of_nil h
  | append_singleton order m ih =>
    intro h
    rw [after_concat] at h
    obtain ⟨f₀, hget, hsame | ⟨rfl, hturn⟩⟩ := exists_of_getElem?_turn h
    · exact (ih (hsame ▸ hget)).concat m
    · rcases FetchState.done_or_ends_of_turn hturn.symm with rfl | ⟨k, e, hend, hpage⟩
      · exact (ih hget).concat m
      · exact hasTurn_last ⟨f₀, k, e, hget, hend, hpage⟩

/-! ### Pages -/

/-- A page is the body of a whole answer with success. -/
theorem pageAfter_ok {url page : String} {e : AttemptEnd} (h : pageAfter url e = .ok page) :
    ∃ answer, e = .ok answer ∧ 200 ≤ answer.status ∧ answer.status < 300 ∧
      answer.truncated = false ∧ page = String.ofList (Text.Utf8.decodeLossy answer.body) := by
  rcases e with fault | answer
  · cases h
  · unfold pageAfter at h
    dsimp only at h
    split at h
    · cases h
    · rename_i hsuccess
      split at h
      · cases h
      · rename_i hwhole
        have hstatus : 200 ≤ answer.status ∧ answer.status < 300 := by simpa using hsuccess
        exact ⟨answer, rfl, hstatus.1, hstatus.2, Bool.eq_false_iff.2 hwhole,
          (Except.ok.inj h).symm⟩

/-- **A page that a fetch is done with** was received by its last attempt. -/
theorem lastPage_of_done {page : String}
    (h : (after network config requests t order).fetches[i]? = some (r, .done (.ok page))) :
    LastPage network config requests t order i page := by
  obtain ⟨before, hturn, f, k, e, hget, hend, hpage⟩ := exists_end order h
  obtain ⟨answer, rfl, hge, hlt, hwhole, rfl⟩ := pageAfter_ok hpage
  have hasks := exists_asksAgain before hget hend.isIn
  have hbounded := isBounded_after before hget
  cases hend with
  | @answer k leg _ _ hsend final =>
    have hreceives : (after network config requests t before).Receives network config i k _ :=
      ⟨r, leg, answer, hget, hsend, final, hge, hlt, hwhole, rfl⟩
    exact ⟨⟨k, hbounded.1, before, hturn, hreceives, hasks⟩, r, h⟩

end Underway

/-! ### Windows -/

namespace Window

variable {w w' : Window}

/-- **A window goes by an order of turns** that keeps to it: the fetches in front are
done, with the pages of the records that were taken, and the others stand where the
window has them. -/
def Traced (network : Network) (config : Config) (requests : List Request) (t : Traffic)
    (w : Window) : Prop :=
  ∃ order done, KeepsWindow network config requests t order ∧
    after network config requests t order = ⟨done ++ w.toDo, w.traffic⟩ ∧
    List.Forall₂ (fun d record => ∃ page now, d.2 = .done (.ok page) ∧
      record = extract d.1.url page now) done w.taken

theorem traced_ofRequests : (ofRequests requests t).Traced network config requests t :=
  ⟨[], [], keepsWindow_nil, rfl, .nil⟩

/-- What is in front of the fetches under way is done. -/
theorem exists_page_of_done {done : List (Request × FetchState)} {taken : List Record}
    (hdone : List.Forall₂ (fun d record => ∃ page now, d.2 = FetchState.done (.ok page) ∧
      record = extract d.1.url page now) done taken) {j : Nat} (hj : j < done.length)
    (rest : List (Request × FetchState)) :
    ∃ r page, (done ++ rest)[j]? = some (r, .done (.ok page)) := by
  obtain ⟨page, now, hpage, -⟩ := hdone.get hj (hdone.length_eq ▸ hj)
  refine ⟨(done.get ⟨j, hj⟩).1, page, ?_⟩
  rw [List.getElem?_append_left hj, List.getElem?_eq_getElem hj, ← hpage]
  rfl

theorem Step.traced (h : Step network config w w') (hheld : w.Held)
    (hroom : w.fetches.length ≤ max 1 config.concurrency)
    (hw : w.Traced network config requests t) : w'.Traced network config requests t := by
  obtain ⟨order, done, hkeeps, horder, hdone⟩ := hw
  cases h with
  | @start taken fetches r waiting t' room =>
    refine ⟨order, done, hkeeps, horder.trans ?_, hdone⟩
    simp only [toDo, toFetch, List.map_append, List.map_cons, List.map_nil, List.append_assoc,
      List.cons_append, List.nil_append]
  | @turn taken before r f after waiting t' underWay =>
    let ahead := done ++ before.map fun f => (f.request, f.state)
    have hkeeps' : KeepsWindow network config requests t (order ++ [ahead.length]) := by
      refine hkeeps.concat fun j hj => ?_
      simp only [ahead, List.length_append, List.length_map, List.length_cons] at hj hroom
      rw [horder]
      exact exists_page_of_done hdone (by omega) _
    refine ⟨order ++ [ahead.length], done, hkeeps', ?_, hdone⟩
    have hsplit : ∀ f, done ++ toDo ⟨taken, before ++ ⟨r, f, none⟩ :: after, waiting, t'⟩ =
        ahead ++ (r, f) :: toDo ⟨taken, after, waiting, t'⟩ := by
      intro f
      simp only [ahead, toDo, List.map_append, List.map_cons, List.append_assoc, List.cons_append]
    rw [after_concat, horder, hsplit, turn_length]
    exact congrArg (Underway.mk · _) (hsplit _).symm
  | @finish taken before r page after waiting t' now =>
    refine ⟨order, done, hkeeps, horder.trans ?_, hdone⟩
    simp only [toDo, List.map_append, List.map_cons]
  | @take taken r f record fetches waiting t' =>
    obtain ⟨page, rfl, houtcome⟩ := hheld.first
    obtain ⟨page, now, rfl, hrecord⟩ := harvested_ok_iff.1 houtcome
    refine ⟨order, done ++ [(r, .done (.ok page))], hkeeps, horder.trans ?_, ?_⟩
    · simp only [toDo, List.map_cons, List.append_assoc, List.cons_append, List.nil_append]
    · exact List.rel_append hdone (.cons ⟨page, now, rfl, hrecord⟩ .nil)

theorem Steps.traced (h : Steps network config (ofRequests requests t) w) :
    w.Traced network config requests t := by
  induction h with
  | refl => exact traced_ofRequests
  | tail steps step ih =>
    have hheld : Held _ := Steps.held steps (held_ofRequests requests t)
    exact step.traced hheld (Steps.length_fetches_le steps) ih

/-- **Records are made of the pages that the last attempts received**, with the
turns in an order that keeps to the window and leaves the same requests behind. -/
theorem Steps.exists_order {records : List Record}
    (h : Steps network config (ofRequests requests t) w) (hends : w.Ends (.ok records)) :
    ∃ order, KeepsWindow network config requests t order ∧
      (after network config requests t order).traffic = w.traffic ∧
      List.Forall₂ (fun r record => ∃ page now,
        LastPage network config requests t order r.2 page ∧ record = extract r.1.url page now)
        requests.zipIdx records := by
  obtain ⟨order, done, hkeeps, horder, hdone⟩ := h.traced
  rw [eq_of_ends_ok hends] at horder hdone
  have hfetches : (after network config requests t order).fetches = done := by
    rw [horder]
    exact List.append_nil done
  have hrequests : requests = done.map Prod.fst := by rw [← hfetches, map_fst_after]
  refine ⟨order, hkeeps, by rw [horder], List.forall₂_iff_get.2 ⟨?_, fun i hi hi' => ?_⟩⟩
  · rw [List.length_zipIdx, hrequests, List.length_map]
    exact hdone.length_eq
  · rw [List.length_zipIdx, hrequests, List.length_map] at hi
    obtain ⟨page, now, hpage, hrecord⟩ := hdone.get hi hi'
    have hget : (after network config requests t order).fetches[i]? =
        some ((done.get ⟨i, hi⟩).1, .done (.ok page)) := by
      rw [hfetches, List.getElem?_eq_getElem hi, ← hpage]
      rfl
    refine ⟨page, now, ?_, ?_⟩
    · simpa using lastPage_of_done hget
    · simpa [hrequests] using hrecord

end Window
end RuleHarvest
