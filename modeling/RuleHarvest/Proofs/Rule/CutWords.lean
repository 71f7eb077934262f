/-
# Words cut by markup

A text in an element comes in text nodes, one before, in and after each element
or comment that stands in it. The text of an element is read from them node by
node, as if there were a space between each two (`textOf_eq_collapsed_join`). So
markup that stands between words does no harm, and markup inside a word cuts it:
the text of an element is that of its text nodes run together exactly when no
seam between them lies inside a word, and its key is theirs exactly when no seam
lies inside a run of letters and digits (`text_run_together_iff`). In
`PM<sub>2.5</sub>` there is such a seam.

Key theorems: `words_textOf`, `textOf_inj`, `keyRuns_textOf`,
`text_run_together_iff`.
-/
import RuleHarvest.Proofs.Rule.KeyAsLabel
import RuleHarvest.Proofs.Text.Seams

namespace RuleHarvest

open Html (Node Document)
open Text

variable {n n' : Node} {a b : List Char} {before after : List (List Char)}

/-! ### Words -/

/-- **The words of an element are those of its text nodes.** -/
theorem words_textOf (n : Node) : words (textOf n).toList = n.texts.flatMap words := by
  rw [textOf, String.toList_ofList]
  refine runs_join_self rfl fun w hw => ?_
  obtain ⟨s, -, hw⟩ := List.mem_flatMap.1 hw
  exact of_mem_runs hw

/-- Elements have the same text exactly when they have the same words. -/
theorem textOf_inj : textOf n = textOf n' ↔ n.texts.flatMap words = n'.texts.flatMap words := by
  constructor
  · intro h
    rw [← words_textOf, h, words_textOf]
  · intro h
    rw [textOf, h, textOf]

theorem textOf_eq_collapsed_iff {s : List Char} :
    textOf n = collapsed s ↔ n.texts.flatMap words = words s := by
  constructor
  · intro h
    rw [← words_textOf, h, words_collapsed]
  · intro h
    rw [textOf, h, collapsed]

/-- **Text nodes are read as if there were a space between each two.** -/
theorem textOf_eq_collapsed_join (n : Node) : textOf n = collapsed (join [' '] n.texts) :=
  textOf_eq_collapsed_iff.2 (runs_join rfl n.texts).symm

/-! ### Keys -/

/-- The key of an element is made of the runs of letters and digits in its text
nodes. -/
theorem keyRuns_textOf (n : Node) : keyRuns (textOf n).toList =
    (n.texts.flatMap (runs isAlphanumeric)).map fun run => run.flatMap lowercase := by
  have hruns : runs isAlphanumeric (textOf n).toList = n.texts.flatMap (runs isAlphanumeric) := by
    have hblank : ∀ c, (!isBlank c) = false → isAlphanumeric c = false := by
      intro c hc
      exact isAlphanumeric_of_isBlank (by simpa using hc)
    calc runs isAlphanumeric (textOf n).toList
        = (words (textOf n).toList).flatMap (runs isAlphanumeric) := runs_eq_flatMap hblank _
      _ = n.texts.flatMap fun s => (words s).flatMap (runs isAlphanumeric) := by
          rw [words_textOf, List.flatMap_assoc]
      _ = n.texts.flatMap (runs isAlphanumeric) :=
          congrArg n.texts.flatMap (funext fun s => (runs_eq_flatMap hblank s).symm)
  rw [keyRuns, hruns]

theorem length_keyRuns (label : List Char) :
    (keyRuns label).length = (runs isAlphanumeric label).length := List.length_map _

theorem length_keyRuns_textOf (n : Node) : (keyRuns (textOf n).toList).length =
    (n.texts.flatMap (runs isAlphanumeric)).length := by
  rw [keyRuns_textOf, List.length_map]

/-! ### Seams -/

/-- **The text of an element is that of its text nodes run together** exactly
when no word is cut. -/
theorem textOf_eq_collapsed_flatten_iff :
    textOf n = collapsed n.texts.flatten ↔ ¬ CutsRun (!isBlank ·) n.texts := by
  rw [textOf_eq_collapsed_iff]
  constructor
  · intro h
    exact length_flatMap_runs_iff.1 (congrArg List.length h)
  · exact flatMap_runs

theorem fieldKey_textOf_eq_iff : fieldKey (textOf n) = fieldKey (String.ofList n.texts.flatten) ↔
    ¬ CutsRun isAlphanumeric n.texts := by
  rw [fieldKey_inj, String.toList_ofList]
  constructor
  · intro h
    have hlength := congrArg List.length h
    rw [length_keyRuns_textOf, length_keyRuns] at hlength
    exact length_flatMap_runs_iff.1 hlength
  · intro h
    rw [keyRuns_textOf, flatMap_runs h, keyRuns]

/-- Markup that cuts a text node in two adds a space exactly when it stands
inside a word. -/
theorem textOf_split_iff (h : n.texts = before ++ (a ++ b) :: after)
    (h' : n'.texts = before ++ a :: b :: after) :
    textOf n' = textOf n ↔ ¬ RunsOn (!isBlank ·) a b := by
  rw [textOf_inj, h, h']
  constructor
  · intro hwords
    exact (length_flatMap_runs_split_iff before after).1 (congrArg List.length hwords)
  · intro hruns
    exact flatMap_runs_split hruns before after

/-- Markup that cuts a text node in two changes the key exactly when it stands
between two letters or digits. -/
theorem fieldKey_split_iff (h : n.texts = before ++ (a ++ b) :: after)
    (h' : n'.texts = before ++ a :: b :: after) :
    fieldKey (textOf n') = fieldKey (textOf n) ↔ ¬ RunsOn isAlphanumeric a b := by
  rw [fieldKey_inj]
  constructor
  · intro hkeys
    have hlength := congrArg List.length hkeys
    rw [length_keyRuns_textOf, length_keyRuns_textOf, h, h'] at hlength
    exact (length_flatMap_runs_split_iff before after).1 hlength
  · intro hruns
    rw [keyRuns_textOf, keyRuns_textOf, h, h', flatMap_runs_split hruns]

/-- **Where markup cuts no word the text of an element is that of its text nodes
run together**, with its words one space apart, and nowhere else. Its key is
that of the text nodes run together exactly where no run of letters and digits
is cut. In general the text nodes are read as if there were a space between each
two. So an element or a comment that is put into a text changes what is read
exactly when it stands inside a word, and the key exactly when it stands between
two letters or digits. -/
theorem text_run_together_iff (n : Node) :
    (textOf n = collapsed n.texts.flatten ↔ ¬ CutsRun (!isBlank ·) n.texts) ∧
    (fieldKey (textOf n) = fieldKey (String.ofList n.texts.flatten) ↔
      ¬ CutsRun isAlphanumeric n.texts) ∧
    textOf n = collapsed (join [' '] n.texts) ∧
    ∀ n' before a b after, n.texts = before ++ (a ++ b) :: after →
      n'.texts = before ++ a :: b :: after →
        (textOf n' = textOf n ↔ ¬ RunsOn (!isBlank ·) a b) ∧
        (fieldKey (textOf n') = fieldKey (textOf n) ↔ ¬ RunsOn isAlphanumeric a b) := by
  refine ⟨textOf_eq_collapsed_flatten_iff, fieldKey_textOf_eq_iff, textOf_eq_collapsed_join n, ?_⟩
  intro n' before a b after h h'
  exact ⟨textOf_split_iff h h', fieldKey_split_iff h h'⟩

/-- A page with markup in the words of its title and of a label, and a comment in
a value. -/
def markedPage : String :=
  "<h1>PM<sub>2.5</sub></h1><dl><dt>CO<sub>2</sub> limit</dt><dd>20<!-- -->60</dd></dl>"

/-- **Markup inside words adds spaces** to the title, the key and the value that
are read from a page. -/
theorem markup_adds_spaces :
    (extract "https://www.gao.gov/fedrules/1" markedPage "now").title = some "PM 2.5" ∧
    (extract "https://www.gao.gov/fedrules/1" markedPage "now").fields.entries =
      [("co_2_limit", "20 60")] ∧
    ((Document.parse markedPage).elements.filter fun n =>
      n.isNamed "h1" || n.isNamed "dt" || n.isNamed "dd").map (fun n =>
        (textOf n, collapsed n.texts.flatten)) =
      [("PM 2.5", "PM2.5"), ("CO 2 limit", "CO2 limit"), ("20 60", "2060")] ∧
    fieldKey "CO2 limit" = "co2_limit" := by
  refine ⟨?_, ?_, ?_, ?_⟩
  all_goals decide +kernel

end RuleHarvest
