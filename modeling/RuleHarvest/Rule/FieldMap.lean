/-
# Field maps

The fields of a record, by key. The entries ascend strictly by key, in the
order of code points, so no key occurs twice and two maps with the same
look-ups are equal.

There are two ways to add an entry: `insert` replaces what stands under the
key, `insertNew` leaves it.

Key definitions: `FieldMap`, `get?`, `insert`, `insertNew`.
-/
namespace RuleHarvest

/-- Texts by key, in ascending order of keys. -/
structure FieldMap where
  entries : List (String × String)
  ascending : entries.Pairwise (fun a b => a.1 < b.1)
deriving DecidableEq

namespace FieldMap

/-- Puts an entry among ascending ones. Of an entry with the same key and the
new one, `choose old new` stays. -/
def place (choose : String → String → String) (key value : String) :
    List (String × String) → List (String × String)
  | [] => [(key, value)]
  | (k, v) :: rest =>
    if key = k then (k, choose v value) :: rest
    else if key < k then (key, value) :: (k, v) :: rest
    else (k, v) :: place choose key value rest

theorem key_mem_place {choose : String → String → String} {key value : String} :
    ∀ {entries : List (String × String)} {e : String × String},
      e ∈ place choose key value entries → e.1 = key ∨ ∃ e' ∈ entries, e'.1 = e.1
  | [], e, h => by simp [place] at h; exact .inl (by rw [h])
  | (k, v) :: rest, e, h => by
    rw [place] at h
    split at h
    · rename_i heq
      rcases List.mem_cons.1 h with rfl | h
      · exact .inl heq.symm
      · exact .inr ⟨e, List.mem_cons_of_mem _ h, rfl⟩
    · split at h
      · rcases List.mem_cons.1 h with rfl | h
        · exact .inl rfl
        · exact .inr ⟨e, h, rfl⟩
      · rcases List.mem_cons.1 h with rfl | h
        · exact .inr ⟨_, List.mem_cons_self, rfl⟩
        · rcases key_mem_place h with h | ⟨e', he', h⟩
          · exact .inl h
          · exact .inr ⟨e', List.mem_cons_of_mem _ he', h⟩

theorem place_ascending (choose : String → String → String) (key value : String) :
    ∀ {entries : List (String × String)}, entries.Pairwise (fun a b => a.1 < b.1) →
      (place choose key value entries).Pairwise (fun a b => a.1 < b.1)
  | [], _ => by simp [place]
  | (k, v) :: rest, h => by
    have ⟨hk, hrest⟩ := List.pairwise_cons.1 h
    rw [place]
    split
    · exact List.pairwise_cons.2 ⟨hk, hrest⟩
    · rename_i hne
      split
      · rename_i hlt
        refine List.pairwise_cons.2 ⟨fun e he => ?_, h⟩
        rcases List.mem_cons.1 he with rfl | he
        · exact hlt
        · exact String.lt_trans hlt (hk e he)
      · rename_i hge
        have hlt : k < key := by
          rcases Decidable.em (k < key) with h | h
          · exact h
          · exact absurd (String.le_antisymm (String.not_lt.1 h) (String.not_lt.1 hge)) hne
        refine List.pairwise_cons.2 ⟨fun e he => ?_, place_ascending choose key value hrest⟩
        rcases key_mem_place he with h | ⟨e', he', h⟩
        · rw [h]; exact hlt
        · rw [← h]; exact hk e' he'

/-- The map without entries. -/
def empty : FieldMap := ⟨[], .nil⟩

instance : Inhabited FieldMap := ⟨empty⟩

/-- The text under a key. -/
def get? (m : FieldMap) (key : String) : Option String := m.entries.lookup key

/-- Puts a text under a key, in place of the one that stands there. -/
def insert (m : FieldMap) (key value : String) : FieldMap :=
  ⟨place (fun _ new => new) key value m.entries, place_ascending _ key value m.ascending⟩

/-- Puts a text under a key if there is none yet. -/
def insertNew (m : FieldMap) (key value : String) : FieldMap :=
  ⟨place (fun old _ => old) key value m.entries, place_ascending _ key value m.ascending⟩

/-- The map of a list of entries. Of several under one key the last counts. -/
def ofList (entries : List (String × String)) : FieldMap :=
  entries.foldl (fun m e => m.insert e.1 e.2) empty

end FieldMap
end RuleHarvest
