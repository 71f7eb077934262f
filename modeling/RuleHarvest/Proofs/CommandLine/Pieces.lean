/-
# How a command line is spelled

A command line is a row of pieces, and perhaps two dashes and what stands
behind them. A piece is one or two arguments that belong together: an address;
a parameter with its value, in the next argument or attached; a flag; or
letters, the last of which may be that of a parameter. Each piece says one or
more items (`Item`).

How an argument is taken is told by its first characters. The texts of the
pieces are built up from names and letters here, and `ofString_*` say how each
of them is taken; `ofString_cases` says that there are no other arguments.

Key definitions: `Plain`, `Lettered`, `LetterValue`, `Piece`,
`Piece.arguments`, `Piece.items`, `Line`, `Line.arguments`, `Line.addresses`,
`Line.numbers`, `Line.values`.
Key theorems: `ofString_plain`, `ofString_keyword`, `ofString_letters`,
`ofString_cases`, `ofLetter?_eq_some_iff`, `ofName?_eq_some_iff`.
-/
import RuleHarvest.Proofs.CommandLine.Items
import RuleHarvest.Proofs.Text.Trim

namespace RuleHarvest
namespace CommandLine

/-! ### Pieces -/

/-- A text that is no keyword when it stands alone: it has no dash in front, or
is nothing but a dash. -/
structure Plain where
  text : String
  noKeyword : text.toList.head? = some '-' → text = "-"

/-- The letter of a flag. -/
def Flag.letter : Flag → Char
  | .verbose => 'v'
  | .help => 'h'
  | .version => 'V'

/-- A parameter that has a letter. -/
structure Lettered where
  parameter : Parameter
  letter : Char
  isLetter : Keyword.letter? (.parameter parameter) = some letter

/-- How the value of a letter is written: in the next argument, right behind the
letter, or behind an equals sign. -/
inductive LetterValue where
  | next (text : Plain)
  | joined (c : Char) (cs : List Char) (h : c ≠ '=')
  | equals (text : String)

namespace LetterValue

def text : LetterValue → String
  | next text => text.text
  | joined c cs _ => String.ofList (c :: cs)
  | equals text => text

/-- What stands behind the letter, in the same argument. -/
def attached : LetterValue → List Char
  | next _ => []
  | joined c cs _ => c :: cs
  | equals text => '=' :: text.toList

/-- The argument behind the letters, if the value stands there. -/
def following : LetterValue → List String
  | next text => [text.text]
  | joined _ _ _ | equals _ => []

end LetterValue

/-- Arguments that belong together. -/
inductive Piece where
  | address (text : Plain)
  /-- As in `--input list`. -/
  | next (p : Parameter) (text : Plain)
  /-- As in `--input=list`. -/
  | equals (p : Parameter) (text : String)
  /-- As in `--verbose`. -/
  | flag (f : Flag)
  /-- As in `-v`. -/
  | letters (f : Flag) (more : List Flag)
  /-- As in `-i list`, `-ilist` and `-vi=list`. -/
  | lettersValue (flags : List Flag) (p : Lettered) (value : LetterValue)

namespace Piece

/-- How a piece is written. -/
def arguments : Piece → List String
  | address text => [text.text]
  | next p text => ["--" ++ p.name, text.text]
  | equals p text => ["--" ++ p.name ++ "=" ++ text]
  | flag f => ["--" ++ f.name]
  | letters f more => [String.ofList ('-' :: f.letter :: more.map Flag.letter)]
  | lettersValue flags p value =>
    String.ofList ('-' :: (flags.map Flag.letter ++ p.letter :: value.attached)) :: value.following

/-- What a piece says. -/
def items : Piece → List Item
  | address text => [.address text.text]
  | next p text => [.parameter p text.text]
  | equals p text => [.parameter p text]
  | flag f => [.flag f]
  | letters f more => .flag f :: more.map .flag
  | lettersValue flags p value => flags.map .flag ++ [.parameter p.parameter value.text]

end Piece

/-- A command line taken apart. -/
structure Line where
  pieces : List Piece
  /-- What stands behind the two dashes, if they are there. -/
  behind? : Option (List String)

namespace Line

/-- How a command line is written. -/
def arguments (l : Line) : List String :=
  l.pieces.flatMap Piece.arguments ++ (l.behind?.map ("--" :: ·)).getD []

/-- What a command line says before the two dashes. -/
def items (l : Line) : List Item := l.pieces.flatMap Piece.items

/-- The addresses. All that stands behind the two dashes is one. -/
def addresses (l : Line) : List String := l.items.filterMap Item.address? ++ l.behind?.getD []

/-- The numbers of rules. -/
def numbers (l : Line) : List String := l.items.filterMap Item.number?

/-- The values that are written for a setting. -/
def values (l : Line) (s : Setting) : List String := l.items.filterMap (Item.value? s)

/-- A line with a piece in front. -/
def cons (p : Piece) (l : Line) : Line := { l with pieces := p :: l.pieces }

theorem arguments_cons (p : Piece) (l : Line) :
    (cons p l).arguments = p.arguments ++ l.arguments := by
  simp [cons, arguments]

end Line

/-! ### Names and letters -/

theorem ofName?_eq_some_iff {name : String} {k : Keyword} :
    Keyword.ofName? name = some k ↔ k.name = name := by
  constructor
  · intro h
    simpa using List.find?_some h
  · rintro rfl
    cases k with
    | parameter p =>
      cases p with
      | ruleId => decide
      | setting s => cases s <;> decide
    | flag f => cases f <;> decide

theorem ofLetter?_eq_some_iff {c : Char} {k : Keyword} :
    Keyword.ofLetter? c = some k ↔ k.letter? = some c := by
  constructor
  · intro h
    simpa using List.find?_some h
  · intro h
    cases k with
    | parameter p =>
      cases p with
      | ruleId => cases h
      | setting s =>
        cases s with
        | input =>
          obtain rfl := Option.some.inj h
          decide
        | _ => cases h
    | flag f =>
      cases f
      all_goals
        obtain rfl := Option.some.inj h
        decide

theorem letter?_flag (f : Flag) : Keyword.letter? (.flag f) = some f.letter := by
  cases f <;> rfl

/-- A letter is not the dash, so letters are told from a keyword. -/
theorem ne_dash_of_letter? {k : Keyword} {c : Char} (h : k.letter? = some c) : c ≠ '-' := by
  rintro rfl
  have hdash : Keyword.ofLetter? '-' = none := by decide
  rw [ofLetter?_eq_some_iff.2 h] at hdash
  cases hdash

theorem equals_notMem_name (k : Keyword) : '=' ∉ k.name.toList := by
  cases k with
  | parameter p =>
    cases p with
    | ruleId => decide
    | setting s => cases s <;> decide
  | flag f => cases f <;> decide

theorem name_ne_empty (k : Keyword) : k.name ≠ "" := by
  cases k with
  | parameter p =>
    cases p with
    | ruleId => decide
    | setting s => cases s <;> decide
  | flag f => cases f <;> decide

/-! ### How arguments are taken -/

theorem ofString_plain (text : Plain) : Argument.ofString text.text = .plain text.text := by
  obtain ⟨text, hplain⟩ := text
  show Argument.ofString text = .plain text
  by_cases hdash : text.toList.head? = some '-'
  · rw [hplain hdash]
    decide
  · unfold Argument.ofString
    split
    · rename_i htext
      exact absurd (congrArg List.head? htext) hdash
    · rename_i htext
      exact absurd (congrArg List.head? htext) hdash
    · rfl
    · rename_i htext
      exact absurd (congrArg List.head? htext) hdash
    · rfl

theorem ofString_dashes {cs : List Char} (hne : cs ≠ []) :
    Argument.ofString (String.ofList ('-' :: '-' :: cs)) =
      .keyword (String.ofList (cs.takeWhile (· ≠ '=')))
        (if cs.contains '=' then some (String.ofList ((cs.dropWhile (· ≠ '=')).drop 1)) else none) := by
  obtain ⟨c, cs, rfl⟩ := List.exists_cons_of_ne_nil hne
  unfold Argument.ofString
  rw [String.toList_ofList]
  rfl

/-- A name behind two dashes is a keyword without a value. -/
theorem ofString_keyword (k : Keyword) :
    Argument.ofString ("--" ++ k.name) = .keyword k.name none := by
  have hno := equals_notMem_name k
  have htext : "--" ++ k.name = String.ofList ('-' :: '-' :: k.name.toList) := by
    rw [String.ext_iff]
    simp
  have htake : k.name.toList.takeWhile (· ≠ '=') = k.name.toList :=
    List.takeWhile_eq_self_iff.2 fun c hc => decide_eq_true (ne_of_mem_of_not_mem hc hno)
  rw [htext, ofString_dashes (by simpa using name_ne_empty k), htake, String.ofList_toList,
    if_neg (by simpa using hno)]

/-- Behind an equals sign there is the value. -/
theorem ofString_keyword_equals (k : Keyword) (text : String) :
    Argument.ofString ("--" ++ k.name ++ "=" ++ text) = .keyword k.name (some text) := by
  have hno := equals_notMem_name k
  have hpos : ∀ c ∈ k.name.toList, decide (c ≠ '=') = true := fun c hc =>
    decide_eq_true (ne_of_mem_of_not_mem hc hno)
  have htext : "--" ++ k.name ++ "=" ++ text =
      String.ofList ('-' :: '-' :: (k.name.toList ++ '=' :: text.toList)) := by
    rw [String.ext_iff]
    simp
  have htake : (k.name.toList ++ '=' :: text.toList).takeWhile (· ≠ '=') = k.name.toList :=
    Text.takeWhile_append_stop hpos (by simp)
  have hdrop : (k.name.toList ++ '=' :: text.toList).dropWhile (· ≠ '=') = '=' :: text.toList := by
    rw [List.dropWhile_append_of_pos hpos, List.dropWhile_cons_of_neg (by simp)]
  rw [htext, ofString_dashes (by simp), htake, hdrop, String.ofList_toList, if_pos (by simp),
    List.drop_one, List.tail_cons, String.ofList_toList]

/-- What is behind a single dash are letters. -/
theorem ofString_letters {c : Char} (hc : c ≠ '-') (cs : List Char) :
    Argument.ofString (String.ofList ('-' :: c :: cs)) = .letters (c :: cs) := by
  unfold Argument.ofString
  rw [String.toList_ofList]
  split
  · rename_i htext
    cases htext
    exact absurd rfl hc
  · rename_i htext
    cases htext
    exact absurd rfl hc
  · rename_i htext
    cases htext
  · rename_i htext
    cases htext
    rfl
  · rename_i h1 h2 h3 h4
    exact absurd rfl (h4 (c :: cs))

/-- **There are no other arguments.** -/
theorem ofString_cases (text : String) :
    (text = "--" ∧ Argument.ofString text = .separator) ∨
    (∃ name value?, Argument.ofString text = .keyword name value? ∧
      text = "--" ++ name ++ (value?.map ("=" ++ ·)).getD "") ∨
    (∃ c cs, Argument.ofString text = .letters (c :: cs) ∧ text = String.ofList ('-' :: c :: cs)) ∨
    ∃ plain : Plain, plain.text = text ∧ Argument.ofString text = .plain text := by
  have hofList : ∀ {cs : List Char}, text.toList = cs → text = String.ofList cs := by
    rintro cs rfl
    exact String.ofList_toList.symm
  unfold Argument.ofString
  split
  · rename_i htext
    exact .inl ⟨hofList htext, rfl⟩
  · rename_i cs _ htext
    refine .inr (.inl ⟨_, _, rfl, ?_⟩)
    have hsplit := List.takeWhile_append_dropWhile (p := fun c => decide (c ≠ '=')) (l := cs)
    rw [hofList htext, String.ext_iff]
    by_cases hmem : '=' ∈ cs
    · have hdrop : cs.dropWhile (fun c => decide (c ≠ '=')) =
          '=' :: (cs.dropWhile fun c => decide (c ≠ '=')).drop 1 := by
        have hstop := Text.head?_dropWhile (fun c => decide (c ≠ '=')) cs
        cases hcs : cs.dropWhile fun c => decide (c ≠ '=') with
        | nil =>
          have hall := List.dropWhile_eq_nil_iff.1 hcs '=' hmem
          simp at hall
        | cons d ds =>
          rw [hcs] at hstop
          have hd : d = '=' := by simpa using hstop d rfl
          rw [hd]
          rfl
      rw [if_pos (by simpa using hmem)]
      simp only [String.toList_append, String.toList_ofList, Option.map_some, Option.getD_some]
      rw [show "--".toList = ['-', '-'] from rfl, show "=".toList = ['='] from rfl,
        List.singleton_append, ← hdrop, List.append_assoc, hsplit]
      rfl
    · have htake : cs.takeWhile (fun c => decide (c ≠ '=')) = cs :=
        List.takeWhile_eq_self_iff.2 fun c hc => decide_eq_true (ne_of_mem_of_not_mem hc hmem)
      rw [if_neg (by simpa using hmem), htake]
      simp
  · rename_i htext
    have hdash : text = "-" := hofList htext
    exact .inr (.inr (.inr ⟨⟨text, fun _ => hdash⟩, rfl, rfl⟩))
  · rename_i cs _ _ hdash htext
    cases cs with
    | nil => exact absurd rfl hdash
    | cons c cs => exact .inr (.inr (.inl ⟨c, cs, rfl, hofList htext⟩))
  · rename_i hother
    refine .inr (.inr (.inr ⟨⟨text, fun hhead => ?_⟩, rfl, rfl⟩))
    cases htext : text.toList with
    | nil =>
      rw [htext] at hhead
      cases hhead
    | cons c cs =>
      rw [htext] at hhead
      obtain rfl := Option.some.inj hhead
      exact absurd htext (hother cs)

end CommandLine
end RuleHarvest
