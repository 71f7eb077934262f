/-
# Trees in the node table

A tree that is built into a page takes up consecutive rows of the node table,
each part before what is in it. `NodeTable.grow` is the table with such rows at
its end and their roots as new children of a node; everything a builder does
with plain trees comes down to it. From the rows of a tree its node can be
read back, and its elements stand in the document in the order of the tree
(`elements_of_rows`).

Key definitions: `Tree.rows`, `NodeTable.grow`, `NodeTable.Holds`.
Key theorems: `NodeTable.grow_grow`, `NodeTable.grow_inside`,
`NodeTable.node_of_rows`, `NodeTable.elements_of_rows`.
-/
import RuleHarvest.Proofs.Html.Tree

namespace RuleHarvest
namespace Html

/-! ### The rows of a tree -/

namespace Tree

/-- The rows of a text: one, or none if the text is empty. -/
def textRows (parent : Nat) (text : List Char) : List NodeRow :=
  if text.isEmpty then [] else [{ kind := .text (String.ofList text), parent := some parent }]

/-- The number of the row of a text. -/
def textIds (start : Nat) (text : List Char) : List Nat := if text.isEmpty then [] else [start]

mutual

/-- The number of rows of a tree. -/
def size : Tree → Nat
  | node _ text children => (textRows 0 text).length + sizeAll children + 1

def sizeAll : List Tree → Nat
  | [] => 0
  | t :: ts => size t + sizeAll ts

end

/-- The numbers of the rows in which trees begin that are put into a table from
some row on. -/
def roots (start : Nat) : List Tree → List Nat
  | [] => []
  | t :: ts => start :: roots (start + t.size) ts

mutual

/-- The rows of a tree that is put into a table from some row on. -/
def rows (start parent : Nat) : Tree → List NodeRow
  | node part text children =>
    let first := start + 1 + (textRows 0 text).length
    { kind := .element .html part.name part.attributes, parent := some parent
      children := (textIds (start + 1) text ++ roots first children).toArray } ::
      (textRows start text ++ rowsAll first start children)

def rowsAll (start parent : Nat) : List Tree → List NodeRow
  | [] => []
  | t :: ts => rows start parent t ++ rowsAll (start + t.size) parent ts

end

theorem length_textRows (m n : Nat) (text : List Char) :
    (textRows m text).length = (textRows n text).length := by
  unfold textRows
  split <;> rfl

mutual

theorem length_rows (start parent : Nat) : ∀ t : Tree, (rows start parent t).length = t.size
  | node part text children => by
    rw [rows, size, List.length_cons, List.length_append, length_rowsAll,
      length_textRows start 0]

theorem length_rowsAll (start parent : Nat) : ∀ ts : List Tree,
    (rowsAll start parent ts).length = sizeAll ts
  | [] => rfl
  | t :: ts => by
    rw [rowsAll, sizeAll, List.length_append, length_rows, length_rowsAll]

end

end Tree

/-! ### Tables that grow -/

/-- A row with more children. -/
def NodeRow.gain (row : NodeRow) (ids : List Nat) : NodeRow :=
  { row with children := row.children ++ ids.toArray }

namespace NodeTable

/-- New rows at the end of a table, with new children of a node among them. -/
def grow (t : NodeTable) (parent : Nat) (ids : List Nat) (rows : List NodeRow) : NodeTable :=
  t.modify parent (·.gain ids) ++ rows.toArray

variable {t : NodeTable} {p : Nat} {ids ids' : List Nat} {rows rows' : List NodeRow}

@[simp]
theorem size_grow : (t.grow p ids rows).size = t.size + rows.length := by
  simp [grow]

theorem getElem?_grow (i : Nat) : (t.grow p ids rows)[i]? =
    if i < t.size then (if p = i then t[i]?.map (·.gain ids) else t[i]?)
    else rows[i - t.size]? := by
  unfold grow
  rw [Array.getElem?_append]
  simp only [Array.size_modify, Array.getElem?_modify, List.getElem?_toArray]

/-- A node of the table gets new children when the table grows there. -/
theorem getElem?_grow_self (hp : p < t.size) :
    (t.grow p ids rows)[p]? = t[p]?.map (·.gain ids) := by
  rw [getElem?_grow, if_pos hp, if_pos rfl]

/-- The other nodes stay as they are. -/
theorem getElem?_grow_of_lt {i : Nat} (hi : i < t.size) (hne : p ≠ i) :
    (t.grow p ids rows)[i]? = t[i]? := by
  rw [getElem?_grow, if_pos hi, if_neg hne]

theorem getElem?_grow_of_le {i : Nat} (hi : t.size ≤ i) :
    (t.grow p ids rows)[i]? = rows[i - t.size]? := by
  rw [getElem?_grow, if_neg (Nat.not_lt.2 hi)]

theorem gain_gain (row : NodeRow) : (row.gain ids).gain ids' = row.gain (ids ++ ids') := by
  simp [NodeRow.gain]

theorem grow_nil : t.grow p [] [] = t := by
  have hgain : ∀ row : NodeRow, row.gain [] = row := fun row => by simp [NodeRow.gain]
  apply Array.ext_getElem?
  intro i
  rw [getElem?_grow]
  by_cases hi : i < t.size
  · rw [if_pos hi]
    simp [hgain]
  · rw [if_neg hi, List.getElem?_nil, Array.getElem?_eq_none (Nat.le_of_not_lt hi)]

/-- Growing twice at the same node is growing once. -/
theorem grow_grow (hp : p < t.size) :
    (t.grow p ids rows).grow p ids' rows' = t.grow p (ids ++ ids') (rows ++ rows') := by
  apply Array.ext_getElem?
  intro i
  rcases Nat.lt_or_ge i t.size with hi | hi
  · have hi' : i < (t.grow p ids rows).size := by rw [size_grow]; omega
    by_cases hne : p = i
    · subst hne
      rw [getElem?_grow_self hi', getElem?_grow_self hi, getElem?_grow_self hi, Option.map_map]
      exact congrArg (t[p]?.map ·) (funext gain_gain)
    · rw [getElem?_grow_of_lt hi' hne, getElem?_grow_of_lt hi hne, getElem?_grow_of_lt hi hne]
  · have hne : p ≠ i := by omega
    rw [getElem?_grow_of_le hi, List.getElem?_append]
    by_cases hi' : i - t.size < rows.length
    · rw [getElem?_grow_of_lt (by rw [size_grow]; omega) hne, getElem?_grow_of_le hi, if_pos hi']
    · have hlater : (t.grow p ids rows).size ≤ i := by rw [size_grow]; omega
      rw [getElem?_grow_of_le hlater, size_grow, if_neg hi', Nat.sub_add_eq]

/-- Growing inside the row that is new. -/
theorem grow_inside {row : NodeRow} :
    (t.grow p [t.size] [row]).grow t.size ids rows = t.grow p [t.size] (row.gain ids :: rows) := by
  apply Array.ext_getElem?
  intro i
  have hsize : (t.grow p [t.size] [row]).size = t.size + 1 := size_grow
  rcases Nat.lt_trichotomy i t.size with hi | hi | hi
  · have hi' : i < (t.grow p [t.size] [row]).size := by omega
    rw [getElem?_grow_of_lt hi' (Nat.ne_of_gt hi), getElem?_grow, getElem?_grow, if_pos hi,
      if_pos hi]
  · subst hi
    rw [getElem?_grow_self (by omega), getElem?_grow_of_le (Nat.le_refl _),
      getElem?_grow_of_le (Nat.le_refl _), Nat.sub_self]
    rfl
  · obtain ⟨k, rfl⟩ := Nat.exists_eq_add_of_lt hi
    have hlater : (t.grow p [t.size] [row]).size ≤ t.size + k + 1 := by omega
    have hk : t.size + k + 1 - t.size = k + 1 := by omega
    have hk' : t.size + k + 1 - (t.size + 1) = k := by omega
    rw [getElem?_grow_of_le hlater, getElem?_grow_of_le (Nat.le_of_lt hi), hsize, hk, hk',
      List.getElem?_cons_succ]

/-- A new node at the end of another's children. -/
theorem append_new (kind : NodeKind) (hp : p < t.size) :
    (t.add kind).append p t.size = t.grow p [t.size] [{ kind, parent := some p }] := by
  apply Array.ext_getElem?
  intro i
  unfold append add
  rw [Array.getElem?_modify, Array.getElem?_modify, Array.getElem?_push]
  rcases Nat.lt_trichotomy i t.size with hi | hi | hi
  · rw [getElem?_grow, if_pos hi, if_neg (Nat.ne_of_gt hi), if_neg (Nat.ne_of_lt hi)]
    simp [NodeRow.gain]
  · subst hi
    rw [getElem?_grow_of_le (Nat.le_refl _), if_pos rfl, if_neg (Nat.ne_of_lt hp), if_pos rfl,
      Nat.sub_self]
    rfl
  · have hnone : t[i]? = none := Array.getElem?_eq_none (Nat.le_of_lt hi)
    rw [getElem?_grow_of_le (Nat.le_of_lt hi), if_neg (Nat.ne_of_lt hi), if_neg (by omega),
      if_neg (Nat.ne_of_gt hi), hnone]
    rw [List.getElem?_eq_none (by simp only [List.length_cons, List.length_nil]; omega)]

/-! ### Text -/

/-- The last child of a node is not a text. -/
def EndsOpen (t : NodeTable) (p : Nat) : Prop :=
  (t[p]?.bind (·.children.back?)).filter (fun last => (t.text? last).isSome) = none

/-- A new node has no child yet. -/
theorem endsOpen_grow (kind : NodeKind) (parent : Option Nat) :
    (t.grow p ids [{ kind, parent }]).EndsOpen t.size := by
  unfold EndsOpen
  rw [getElem?_grow_of_le (Nat.le_refl _), Nat.sub_self]
  rfl

/-- A character after something else than text makes a text of its own. -/
theorem appendChar_new (hp : p < t.size) (h : t.EndsOpen p) (c : Char) :
    t.appendChar p c = t.grow p [t.size] (Tree.textRows p [c]) := by
  unfold appendChar
  rw [h]
  exact append_new _ hp

/-- Changing the row that is new. -/
theorem modify_grow {row : NodeRow} (f : NodeRow → NodeRow) :
    (t.grow p ids [row]).modify t.size f = t.grow p ids [f row] := by
  apply Array.ext_getElem?
  intro i
  rw [Array.getElem?_modify]
  rcases Nat.lt_trichotomy i t.size with hi | hi | hi
  · rw [if_neg (Nat.ne_of_gt hi), getElem?_grow, getElem?_grow, if_pos hi, if_pos hi]
  · subst hi
    rw [if_pos rfl, getElem?_grow_of_le (Nat.le_refl _), getElem?_grow_of_le (Nat.le_refl _),
      Nat.sub_self]
    rfl
  · have hk : i - t.size ≠ 0 := by omega
    obtain ⟨k, hk⟩ := Nat.exists_eq_succ_of_ne_zero hk
    rw [if_neg (Nat.ne_of_lt hi), getElem?_grow_of_le (Nat.le_of_lt hi),
      getElem?_grow_of_le (Nat.le_of_lt hi), hk]
    rfl

/-- A character after a text is added to it. -/
theorem appendChar_more (hp : p < t.size) {text : List Char} (hne : text ≠ []) (c : Char) :
    (t.grow p [t.size] (Tree.textRows p text)).appendChar p c =
      t.grow p [t.size] (Tree.textRows p (text ++ [c])) := by
  have hrows : ∀ s : List Char, s ≠ [] → Tree.textRows p s =
      [{ kind := .text (String.ofList s), parent := some p }] := by
    intro s hs
    unfold Tree.textRows
    rw [if_neg (by simpa using hs)]
  rw [hrows text hne, hrows (text ++ [c]) (by simp)]
  have hlast : ((t.grow p [t.size] [{ kind := .text (String.ofList text), parent := some p }])[p]?.bind
      (·.children.back?)) = some t.size := by
    rw [getElem?_grow_self hp, Array.getElem?_eq_getElem hp]
    simp [NodeRow.gain]
  have htext : (t.grow p [t.size] [{ kind := .text (String.ofList text), parent := some p }])[t.size]? =
      some { kind := .text (String.ofList text), parent := some p } := by
    rw [getElem?_grow_of_le (Nat.le_refl _), Nat.sub_self]
    rfl
  unfold appendChar
  rw [hlast]
  simp only [Option.filter, text?, htext, Option.isSome_some, if_true]
  unfold pushChar
  rw [modify_grow]
  simp [String.ofList_append]

/-! ### Reading rows back -/

/-- The table has these rows from some row on. -/
def Holds (t : NodeTable) : Nat → List NodeRow → Prop
  | _, [] => True
  | n, row :: rows => t[n]? = some row ∧ Holds t (n + 1) rows

theorem holds_append : ∀ {n : Nat} {rows : List NodeRow},
    t.Holds n (rows ++ rows') ↔ t.Holds n rows ∧ t.Holds (n + rows.length) rows'
  | n, [] => by simp [Holds]
  | n, row :: rows => by
    have hsize : n + (row :: rows).length = n + 1 + rows.length := by
      rw [List.length_cons]
      omega
    rw [List.cons_append, Holds, Holds, holds_append, hsize, and_assoc]

theorem holds_of_getElem? : ∀ {n : Nat} {rows : List NodeRow},
    (∀ i < rows.length, t[n + i]? = rows[i]?) → t.Holds n rows
  | _, [], _ => trivial
  | n, row :: rows, h => by
    refine ⟨h 0 (Nat.succ_pos _), holds_of_getElem? fun i hi => ?_⟩
    have := h (i + 1) (Nat.succ_lt_succ hi)
    rwa [List.getElem?_cons_succ, ← Nat.add_assoc, Nat.add_right_comm] at this

theorem holds_grow : (t.grow p ids rows).Holds t.size rows := by
  refine holds_of_getElem? fun i hi => ?_
  rw [getElem?_grow_of_le (Nat.le_add_right _ _), Nat.add_sub_cancel_left]

theorem node_of_textRows {n k : Nat} {text : List Char} (h : t.Holds n (Tree.textRows p text))
    (hk : (Tree.textRows p text).length ≤ k) :
    (Tree.textIds n text).map (t.node k) = Tree.textNodes text := by
  unfold Tree.textRows at h hk
  unfold Tree.textIds Tree.textNodes
  by_cases htext : text.isEmpty = true
  · rw [if_pos htext, if_pos htext]
    rfl
  · rw [if_neg htext] at h hk
    rw [if_neg htext, if_neg htext]
    rcases k with _ | k
    · exact absurd hk (by simp)
    · rw [List.map_singleton, node, h.1]

mutual

/-- **A tree can be read back from its rows.** -/
theorem node_of_rows {n p k : Nat} : ∀ {tree : Tree},
    t.Holds n (tree.rows n p) → tree.size ≤ k → t.node k n = tree.read
  | .node part text children, h, hk => by
    rw [Tree.rows, Holds, holds_append] at h
    obtain ⟨hrow, htext, hchildren⟩ := h
    rw [Tree.size, Tree.length_textRows 0 n] at hk
    rw [Tree.length_textRows n 0] at hchildren
    obtain ⟨k, rfl⟩ := Nat.exists_eq_add_of_le' (Nat.le_trans (Nat.le_add_left 1 _) hk)
    have htexts := node_of_textRows (k := k) htext (by omega)
    have hnodes := nodes_of_rows (k := k) hchildren (by omega)
    rw [node, hrow, Tree.read]
    dsimp only
    rw [List.map_append, htexts, hnodes]

theorem nodes_of_rows {n p k : Nat} : ∀ {trees : List Tree},
    t.Holds n (Tree.rowsAll n p trees) → Tree.sizeAll trees ≤ k →
      (Tree.roots n trees).map (t.node k) = Tree.readAll trees
  | [], _, _ => rfl
  | tree :: trees, h, hk => by
    rw [Tree.rowsAll, holds_append, Tree.length_rows] at h
    rw [Tree.sizeAll] at hk
    rw [Tree.roots, List.map_cons, Tree.readAll, node_of_rows h.1 (by omega),
      nodes_of_rows h.2 (by omega)]

end

/-- The element of a row. -/
def elementAt (t : NodeTable) (n : Nat) : Option Node :=
  match t[n]? with
  | some row => if row.isPlacedElement then some (t.node t.size n) else none
  | none => none

theorem elements_of_textRows {n : Nat} {text : List Char} (h : t.Holds n (Tree.textRows p text)) :
    (List.range' n (Tree.textRows p text).length).filterMap t.elementAt = [] := by
  unfold Tree.textRows at h ⊢
  by_cases htext : text.isEmpty = true
  · rw [if_pos htext]
    rfl
  · rw [if_neg htext] at h ⊢
    have hnone : t.elementAt n = none := by
      unfold elementAt
      rw [h.1]
      rfl
    simp [List.range'_succ, hnone]

theorem descendantsAll_append (ns ms : List Node) :
    Node.descendantsAll (ns ++ ms) = Node.descendantsAll ns ++ Node.descendantsAll ms := by
  induction ns with
  | nil => rfl
  | cons n ns ih =>
    rw [List.cons_append, Node.descendantsAll, ih, Node.descendantsAll, List.append_assoc]

theorem descendantsAll_textNodes (text : List Char) :
    Node.descendantsAll (Tree.textNodes text) = [] := by
  unfold Tree.textNodes
  split <;> rfl

mutual

/-- **The elements of a tree are listed in the order of the tree.** -/
theorem elements_of_rows {n p : Nat} : ∀ {tree : Tree},
    t.Holds n (tree.rows n p) → tree.size ≤ t.size →
      (List.range' n tree.size).filterMap t.elementAt = tree.read :: tree.read.descendants
  | .node part text children, h, hsize => by
    have hread : t.elementAt n = some (Tree.node part text children).read := by
      have hnode := node_of_rows h hsize
      rw [Tree.rows, Holds] at h
      unfold elementAt
      rw [h.1, hnode]
      rfl
    rw [Tree.rows, Holds, holds_append, Tree.length_textRows n 0] at h
    obtain ⟨-, htext, hchildren⟩ := h
    have hsplit : List.range' (n + 1) ((Tree.textRows 0 text).length + Tree.sizeAll children) =
        List.range' (n + 1) (Tree.textRows n text).length ++
          List.range' (n + 1 + (Tree.textRows 0 text).length) (Tree.sizeAll children) := by
      rw [Tree.length_textRows n 0, List.range'_append_1]
    have hinner := elements_of_rowsAll hchildren (by rw [Tree.size] at hsize; omega)
    rw [Tree.size, List.range'_succ, List.filterMap_cons, hread, hsplit, List.filterMap_append,
      elements_of_textRows htext, hinner, Tree.read, Node.descendants, descendantsAll_append,
      descendantsAll_textNodes]

theorem elements_of_rowsAll {n p : Nat} : ∀ {trees : List Tree},
    t.Holds n (Tree.rowsAll n p trees) → Tree.sizeAll trees ≤ t.size →
      (List.range' n (Tree.sizeAll trees)).filterMap t.elementAt =
        Node.descendantsAll (Tree.readAll trees)
  | [], _, _ => rfl
  | tree :: trees, h, hsize => by
    rw [Tree.rowsAll, holds_append, Tree.length_rows] at h
    rw [Tree.sizeAll] at hsize
    have hfirst := elements_of_rows h.1 (by omega)
    have hrest := elements_of_rowsAll h.2 (by omega)
    have helement : tree.read.isElement = true := by cases tree; rfl
    rw [Tree.sizeAll, ← List.range'_append_1, List.filterMap_append, hfirst, hrest, Tree.readAll,
      Node.descendantsAll, if_pos helement]

end

end NodeTable
end Html
end RuleHarvest
