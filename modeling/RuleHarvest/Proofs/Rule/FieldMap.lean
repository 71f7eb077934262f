/-
# Look-ups in field maps

An entry that is put among ascending ones shows in the look-up of its key and
in no other (`lookup_place`). So the map of a list of pairs in which the first
counts looks up the first pair of a key (`get?_firstWins`), and the map of a list in
which the last counts looks up the last (`FieldMap.get?_ofList`). A map is told by its
look-ups (`FieldMap.eq_of_get?_eq`).

Key theorems: `FieldMap.lookup_place`, `FieldMap.get?_insertNew`,
`FieldMap.eq_of_get?_eq`, `FieldMap.get?_ofList`, `FieldMap.ofList_perm`,
`get?_firstWins`.
-/
import Mathlib.Data.List.Induction
import Mathlib.Data.List.Nodup
import RuleHarvest.Rule.Extract

namespace RuleHarvest
namespace FieldMap

variable {entries entries' : List (String × String)} {key k : String}

theorem lookup_cons (key' value : String) :
    ((key', value) :: entries).lookup k = if k = key' then some value else entries.lookup k := by
  rw [List.lookup_cons]
  by_cases hk : k = key'
  · rw [if_pos hk, beq_iff_eq.2 hk]
  · rw [if_neg hk, beq_false_of_ne hk]

/-- Below the first key nothing is found. -/
theorem lookup_eq_none_of_lt (h : ∀ e ∈ entries, key < e.1) : entries.lookup key = none := by
  rw [List.lookup_eq_none_iff]
  intro e he
  have hne : key ≠ e.1 := by
    intro heq
    have hlt := h e he
    rw [heq] at hlt
    exact String.lt_irrefl _ hlt
  simpa using hne

/-- An entry that is put among ascending ones is found under its key, combined
with the one that stood there. -/
theorem lookup_place (choose : String → String → String) (value : String) :
    ∀ {entries : List (String × String)}, entries.Pairwise (fun a b => a.1 < b.1) →
      (place choose key value entries).lookup k =
        if k = key then some (((entries.lookup key).map (choose · value)).getD value)
        else entries.lookup k
  | [], _ => lookup_cons key value
  | (k', v) :: rest, h => by
    have ⟨hfirst, hrest⟩ := List.pairwise_cons.1 h
    have ih := lookup_place choose value hrest
    rw [place]
    by_cases heq : key = k'
    · subst heq
      rw [if_pos rfl, lookup_cons, lookup_cons, lookup_cons, if_pos rfl]
      by_cases hk : k = key
      · rw [if_pos hk, if_pos hk]
        rfl
      · rw [if_neg hk, if_neg hk, if_neg hk]
    · rw [if_neg heq]
      by_cases hlt : key < k'
      · have hnone : ((k', v) :: rest).lookup key = none := by
          refine lookup_eq_none_of_lt fun e he => ?_
          rcases List.mem_cons.1 he with rfl | he
          · exact hlt
          · exact String.lt_trans hlt (hfirst e he)
        rw [if_pos hlt, lookup_cons, hnone]
        rfl
      · rw [if_neg hlt, lookup_cons, lookup_cons, lookup_cons, if_neg heq, ih]
        by_cases hk : k = k'
        · rw [if_pos hk, if_neg (hk ▸ Ne.symm heq), if_pos hk]
        · rw [if_neg hk, if_neg hk]

/-- Ascending entries with the same look-ups are the same. -/
theorem eq_of_lookup_eq : ∀ {entries entries' : List (String × String)},
    entries.Pairwise (fun a b => a.1 < b.1) → entries'.Pairwise (fun a b => a.1 < b.1) →
    (∀ k, entries.lookup k = entries'.lookup k) → entries = entries'
  | [], [], _, _, _ => rfl
  | [], (k, v) :: rest, _, _, hlookup => by
    have hk := hlookup k
    rw [lookup_cons, if_pos rfl] at hk
    cases hk
  | (k, v) :: rest, [], _, _, hlookup => by
    have hk := hlookup k
    rw [lookup_cons, if_pos rfl] at hk
    cases hk
  | (k, v) :: rest, (k', v') :: rest', h, h', hlookup => by
    have ⟨hfirst, hrest⟩ := List.pairwise_cons.1 h
    have ⟨hfirst', hrest'⟩ := List.pairwise_cons.1 h'
    -- the smaller of the two first keys would be found on one side only
    have hbelow : ∀ {key first value : String} {entries : List (String × String)}, key < first →
        (∀ e ∈ entries, first < e.1) → ((first, value) :: entries).lookup key = none := by
      intro key first value entries hlt hentries
      refine lookup_eq_none_of_lt fun e he => ?_
      rcases List.mem_cons.1 he with rfl | he
      · exact hlt
      · exact String.lt_trans hlt (hentries e he)
    have hkey : k = k' := by
      rcases Decidable.em (k < k') with hlt | hge
      · have hk := hlookup k
        rw [hbelow hlt hfirst', lookup_cons, if_pos rfl] at hk
        cases hk
      · rcases Decidable.em (k' < k) with hlt | hge'
        · have hk := hlookup k'
          rw [hbelow hlt hfirst, lookup_cons, if_pos rfl] at hk
          cases hk
        · exact String.le_antisymm (String.not_lt.1 hge') (String.not_lt.1 hge)
    subst hkey
    have hvalue : v = v' := by
      have hk := hlookup k
      rw [lookup_cons, lookup_cons, if_pos rfl, if_pos rfl] at hk
      exact Option.some.inj hk
    have hrests : ∀ key, rest.lookup key = rest'.lookup key := by
      intro key
      by_cases hkey : key = k
      · rw [hkey, lookup_eq_none_of_lt hfirst, lookup_eq_none_of_lt hfirst']
      · have hk := hlookup key
        rw [lookup_cons, lookup_cons, if_neg hkey, if_neg hkey] at hk
        exact hk
    rw [hvalue, eq_of_lookup_eq hrest hrest' hrests]

/-- Two maps with the same look-ups are equal. -/
theorem eq_of_get?_eq {m m' : FieldMap} (h : ∀ k, m.get? k = m'.get? k) : m = m' := by
  have hentries : m.entries = m'.entries := eq_of_lookup_eq m.ascending m'.ascending h
  rcases m with ⟨entries, hascending⟩
  rcases m' with ⟨entries', hascending'⟩
  cases hentries
  rfl

/-- What is looked up is what stands in the map. -/
theorem mem_entries_iff {m : FieldMap} {key value : String} :
    (key, value) ∈ m.entries ↔ m.get? key = some value := by
  unfold get?
  rw [List.lookup_eq_some_iff]
  constructor
  · intro h
    obtain ⟨before, after, hentries⟩ := List.append_of_mem h
    refine ⟨before, after, hentries, fun e he => ?_⟩
    have hascending := m.ascending
    rw [hentries, List.pairwise_append] at hascending
    have hlt : e.1 < key := hascending.2.2 e he (key, value) List.mem_cons_self
    have hne : key ≠ e.1 := fun heq => String.lt_irrefl _ (heq ▸ hlt)
    simpa using hne
  · rintro ⟨before, after, hentries, -⟩
    rw [hentries]
    exact List.mem_append_right _ List.mem_cons_self

/-- A pair that is put into a map where its key is new. -/
theorem get?_insertNew (m : FieldMap) (key value k : String) :
    (m.insertNew key value).get? k = (m.get? k).or (if k = key then some value else none) := by
  unfold get? insertNew
  rw [lookup_place _ _ m.ascending]
  by_cases hk : k = key
  · subst hk
    rw [if_pos rfl, if_pos rfl]
    rcases m.entries.lookup k with _ | v <;> rfl
  · rw [if_neg hk, if_neg hk, Option.or_none]

/-- A pair that is put into a map in place of what stands there. -/
theorem get?_insert (m : FieldMap) (key value k : String) :
    (m.insert key value).get? k = if k = key then some value else m.get? k := by
  unfold get? insert
  rw [lookup_place _ _ m.ascending]
  by_cases hk : k = key
  · rw [if_pos hk, if_pos hk]
    rcases m.entries.lookup key with _ | v <;> rfl
  · rw [if_neg hk, if_neg hk]

/-- Entries of different keys can be put into a map in any order. -/
theorem insert_comm (m : FieldMap) {key key' : String} (hne : key ≠ key') (value value' : String) :
    (m.insert key value).insert key' value' = (m.insert key' value').insert key value := by
  refine eq_of_get?_eq fun k => ?_
  rw [get?_insert, get?_insert, get?_insert, get?_insert]
  by_cases hk : k = key
  · rw [if_pos hk, if_pos hk, if_neg (hk ▸ hne)]
  · rw [if_neg hk, if_neg hk]

/-- **The last entry of a key counts.** -/
theorem get?_ofList (entries : List (String × String)) (key : String) :
    (ofList entries).get? key = entries.reverse.lookup key := by
  induction entries using List.reverseRecOn with
  | nil => rfl
  | append_singleton entries e ih =>
    obtain ⟨key', value⟩ := e
    have hofList : ofList (entries ++ [(key', value)]) = (ofList entries).insert key' value := by
      simp only [ofList, List.foldl_append, List.foldl_cons, List.foldl_nil]
    rw [hofList, get?_insert, List.reverse_append, List.reverse_singleton, List.singleton_append,
      lookup_cons, ih]

/-- **Entries of different keys come to the same map in any order.** -/
theorem ofList_perm (h : entries.Perm entries') (hkeys : (entries.map (·.1)).Nodup) :
    ofList entries = ofList entries' := by
  refine h.foldl_eq' (fun e he e' he' m => ?_) empty
  by_cases hkey : e.1 = e'.1
  · rw [List.inj_on_of_nodup_map hkeys he he' hkey]
  · exact m.insert_comm hkey e.2 e'.2

end FieldMap

/-- **The first pair of a key counts.** -/
theorem get?_firstWins (pairs : List (String × String)) (key : String) :
    (firstWins pairs).get? key = pairs.lookup key := by
  have hfold : ∀ (pairs : List (String × String)) (m : FieldMap),
      (pairs.foldl (fun m pair => m.insertNew pair.1 pair.2) m).get? key =
        (m.get? key).or (pairs.lookup key) := by
    intro pairs
    induction pairs with
    | nil => exact fun m => (Option.or_none).symm
    | cons pair pairs ih =>
      intro m
      obtain ⟨key', value⟩ := pair
      rw [List.foldl_cons, ih, FieldMap.get?_insertNew, Option.or_assoc, FieldMap.lookup_cons]
      by_cases hk : key = key'
      · rw [if_pos hk, if_pos hk, Option.some_or]
      · rw [if_neg hk, if_neg hk, Option.none_or]
  exact hfold pairs .empty

end RuleHarvest
