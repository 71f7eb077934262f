/-
# Texts that hold a JSON value

What is said in a JSON text, apart from the blanks in it, is a tree (`Raw`): words,
numbers as they stand there, texts piece by piece, lists, and maps with their
members in order. `Written` says that a tree stands in a text, with any blanks
between its tokens. So two texts of one tree differ in blanks only.

What follows a value ends it, also if it is a number (`IsEnded`).

Key definitions: `IsNumber`, `Raw`, `Part`, `Written`, `IsObject`, `IsEnded`.
Key theorems: `written_spread`, `Written.startsItem`, `Written.isEnded_items`,
`Written.isEnded_members`.
-/
import RuleHarvest.Proofs.Json.Pieces
import RuleHarvest.Proofs.Json.Shape

namespace RuleHarvest
namespace Json

/-! ### Numbers -/

/-- One digit or more. -/
def IsDigits (s : List Char) : Prop := s ≠ [] ∧ ∀ c ∈ s, c.isDigit = true

/-- Digits that begin with no needless zero. -/
def IsWhole (s : List Char) : Prop := s = ['0'] ∨ IsDigits s ∧ s.head? ≠ some '0'

/-- A fraction, or none. -/
inductive IsFraction : List Char → Prop where
  | none : IsFraction []
  | some {digits} (h : IsDigits digits) : IsFraction ('.' :: digits)

/-- An exponent, or none. -/
inductive IsExponent : List Char → Prop where
  | none : IsExponent []
  | some {e : Char} {sign digits : List Char} (he : e = 'e' ∨ e = 'E')
    (hsign : sign = [] ∨ sign = ['-'] ∨ sign = ['+']) (h : IsDigits digits) :
    IsExponent (e :: (sign ++ digits))

/-- A number without its sign. -/
inductive IsUnsigned : List Char → Prop where
  | parts {whole fraction exponent} (hwhole : IsWhole whole) (hfraction : IsFraction fraction)
    (hexponent : IsExponent exponent) : IsUnsigned (whole ++ (fraction ++ exponent))

/-- A number as it may be written. -/
def IsNumber (s : List Char) : Prop := IsUnsigned s ∨ ∃ s', IsUnsigned s' ∧ s = '-' :: s'

/-! ### Values -/

inductive Word where
  | null
  | true
  | false

def Word.chars : Word → List Char
  | null => ['n', 'u', 'l', 'l']
  | true => ['t', 'r', 'u', 'e']
  | false => ['f', 'a', 'l', 's', 'e']

/-- What stands in a text, apart from blanks. -/
inductive Raw where
  | word (w : Word)
  | number (s : List Char) (h : IsNumber s)
  | text (ps : List Piece)
  | list (items : List Raw)
  | map (members : List (List Piece × Raw))

/-- A member of a map: the pieces of its name, and its value. -/
abbrev Member := List Piece × Raw

/-- What is to be written: a value, or what follows an opening bracket, or a value
in brackets. -/
inductive Part where
  | value (v : Raw)
  | items (first : Bool) (vs : List Raw)
  | members (first : Bool) (ms : List Member)

/-- What parts an item from the bracket or from the item before it. -/
def IsGap : Bool → List Char → Prop
  | true, s => AllBlank s
  | false, s => ∃ before after, AllBlank before ∧ AllBlank after ∧ s = before ++ ',' :: after

/-- A part stands in a text, with any blanks between its tokens. -/
inductive Written : Part → List Char → Prop where
  | word (w : Word) : Written (.value (.word w)) w.chars
  | number {s} (h : IsNumber s) : Written (.value (.number s h)) s
  | text (ps : List Piece) : Written (.value (.text ps)) (quoted ps)
  | list {vs s} (h : Written (.items true vs) s) : Written (.value (.list vs)) ('[' :: s)
  | map {ms s} (h : Written (.members true ms) s) : Written (.value (.map ms)) ('\x7b' :: s)
  | noItems {first blanks} (hblanks : AllBlank blanks) :
    Written (.items first []) (blanks ++ [']'])
  | item {first gap v s vs rest} (hgap : IsGap first gap) (hvalue : Written (.value v) s)
    (hrest : Written (.items false vs) rest) :
    Written (.items first (v :: vs)) (gap ++ (s ++ rest))
  | noMembers {first blanks} (hblanks : AllBlank blanks) :
    Written (.members first []) (blanks ++ ['\x7d'])
  | member {first gap name before after v s ms rest} (hgap : IsGap first gap)
    (hbefore : AllBlank before) (hafter : AllBlank after) (hvalue : Written (.value v) s)
    (hrest : Written (.members false ms) rest) :
    Written (.members first ((name, v) :: ms))
      (gap ++ (quoted name ++ (before ++ ':' :: (after ++ (s ++ rest)))))

/-- A text that holds one map and nothing else. -/
def IsObject (ms : List Member) (text : List Char) : Prop :=
  ∃ before s after, AllBlank before ∧ AllBlank after ∧ Written (.value (.map ms)) s ∧
    text = before ++ (s ++ after)

/-! ### Every tree is written -/

/-- A gap with the same blanks at all places. -/
def spreadGap (blanks : List Char) : Bool → List Char
  | true => blanks
  | false => blanks ++ ',' :: blanks

mutual

/-- A value with the same blanks between all its tokens. -/
def Raw.spread (blanks : List Char) : Raw → List Char
  | .word w => w.chars
  | .number s _ => s
  | .text ps => quoted ps
  | .list vs => '[' :: spreadItems blanks true vs
  | .map ms => '\x7b' :: spreadMembers blanks true ms

def spreadItems (blanks : List Char) : Bool → List Raw → List Char
  | _, [] => blanks ++ [']']
  | first, v :: vs => spreadGap blanks first ++ (v.spread blanks ++ spreadItems blanks false vs)

def spreadMembers (blanks : List Char) : Bool → List Member → List Char
  | _, [] => blanks ++ ['\x7d']
  | first, (name, v) :: ms =>
    spreadGap blanks first ++ (quoted name ++
      (blanks ++ ':' :: (blanks ++ (v.spread blanks ++ spreadMembers blanks false ms))))

end

theorem isGap_spread {blanks : List Char} (hblanks : AllBlank blanks) :
    ∀ first, IsGap first (spreadGap blanks first)
  | true => hblanks
  | false => ⟨blanks, blanks, hblanks, hblanks, rfl⟩

mutual

/-- **Every tree stands in a text**, with any blanks between its tokens. -/
theorem written_spread {blanks : List Char} (hblanks : AllBlank blanks) :
    ∀ v : Raw, Written (.value v) (v.spread blanks)
  | .word w => .word w
  | .number _ h => .number h
  | .text ps => .text ps
  | .list vs => .list (written_spreadItems hblanks true vs)
  | .map ms => .map (written_spreadMembers hblanks true ms)

theorem written_spreadItems {blanks : List Char} (hblanks : AllBlank blanks) :
    ∀ (first : Bool) (vs : List Raw), Written (.items first vs) (spreadItems blanks first vs)
  | _, [] => .noItems hblanks
  | first, v :: vs =>
    .item (isGap_spread hblanks first) (written_spread hblanks v)
      (written_spreadItems hblanks false vs)

theorem written_spreadMembers {blanks : List Char} (hblanks : AllBlank blanks) :
    ∀ (first : Bool) (ms : List Member),
      Written (.members first ms) (spreadMembers blanks first ms)
  | _, [] => .noMembers hblanks
  | first, (_, v) :: ms =>
    .member (isGap_spread hblanks first) hblanks hblanks (written_spread hblanks v)
      (written_spreadMembers hblanks false ms)

end

theorem isObject_spread {blanks : List Char} (hblanks : AllBlank blanks) (ms : List Member) :
    IsObject ms ((Raw.map ms).spread blanks) :=
  ⟨[], _, [], allBlank_nil, allBlank_nil, written_spread hblanks (.map ms),
    (List.append_nil _).symm⟩

/-! ### Ends of values -/

/-- What may stand behind a value: nothing, a blank, a comma or a closing bracket. -/
def IsEnded (s : List Char) : Prop :=
  ∀ c, s.head? = some c → isBlank c = true ∨ c = ',' ∨ c = ']' ∨ c = '\x7d'

theorem not_isEnded {c : Char} {s : List Char}
    (h : ¬ (isBlank c = true ∨ c = ',' ∨ c = ']' ∨ c = '\x7d')) : ¬ IsEnded (c :: s) :=
  fun hended => h (hended c rfl)

/-- No digit comes next. -/
def NoDigit (s : List Char) : Prop := ∀ c, s.head? = some c → c.isDigit = false

theorem IsEnded.noDigit {s : List Char} (h : IsEnded s) : NoDigit s := by
  intro c hc
  rcases h c hc with hblank | rfl | rfl | rfl
  · simp only [isBlank, Bool.or_eq_true, decide_eq_true_eq] at hblank
    rcases hblank with ((rfl | rfl) | rfl) | rfl <;> rfl
  · rfl
  · rfl
  · rfl

/-- Blanks and a mark that may stand behind a value. -/
theorem isEnded_append {blanks : List Char} (h : AllBlank blanks) {c : Char}
    (hc : c = ',' ∨ c = ']' ∨ c = '\x7d') (s : List Char) : IsEnded (blanks ++ c :: s) := by
  rcases blanks with _ | ⟨b, blanks⟩
  · rintro d ⟨⟩
    exact .inr hc
  · rintro d ⟨⟩
    exact .inl (h b List.mem_cons_self)

theorem isEnded_gap {gap : List Char} (h : IsGap false gap) (s : List Char) :
    IsEnded (gap ++ s) := by
  obtain ⟨before, after, hbefore, -, rfl⟩ := h
  rw [List.append_assoc]
  exact isEnded_append hbefore (.inl rfl) _

/-- Behind an item of a list stands what ends it. -/
theorem Written.isEnded_items {vs : List Raw} {s : List Char} (h : Written (.items false vs) s)
    (rest : List Char) : IsEnded (s ++ rest) := by
  cases h with
  | noItems hblanks =>
    rw [List.append_assoc]
    exact isEnded_append hblanks (.inr (.inl rfl)) rest
  | item hgap hvalue hrest =>
    rw [List.append_assoc]
    exact isEnded_gap hgap _

/-- Behind a member of a map stands what ends it. -/
theorem Written.isEnded_members {ms : List Member} {s : List Char}
    (h : Written (.members false ms) s) (rest : List Char) : IsEnded (s ++ rest) := by
  cases h with
  | noMembers hblanks =>
    rw [List.append_assoc]
    exact isEnded_append hblanks (.inr (.inr rfl)) rest
  | member hgap hbefore hafter hvalue hrest =>
    rw [List.append_assoc]
    exact isEnded_gap hgap _

/-! ### Beginnings of values -/

theorem IsUnsigned.exists_digit {s : List Char} (h : IsUnsigned s) :
    ∃ c cs, s = c :: cs ∧ c.isDigit = true := by
  obtain ⟨hwhole, hfraction, hexponent⟩ := h
  rcases hwhole with rfl | ⟨⟨hne, hdigits⟩, -⟩
  · exact ⟨_, _, rfl, rfl⟩
  · obtain ⟨d, ds, rfl⟩ := List.exists_cons_of_ne_nil hne
    exact ⟨d, _, rfl, hdigits d List.mem_cons_self⟩

/-- A digit is none of the other characters that values begin with or that stand
between them. -/
theorem ne_of_isDigit {c d : Char} (hc : c.isDigit = true) (hd : d.isDigit = false) : c ≠ d := by
  rintro rfl
  rw [hc] at hd
  cases hd

theorem isBlank_of_isDigit {c : Char} (h : c.isDigit = true) : isBlank c = false := by
  have hspace := ne_of_isDigit h (d := ' ') rfl
  have hline := ne_of_isDigit h (d := '\n') rfl
  have htab := ne_of_isDigit h (d := '\t') rfl
  have hreturn := ne_of_isDigit h (d := '\r') rfl
  simp only [isBlank, hspace, hline, htab, hreturn, decide_false, Bool.or_self]

/-- **A value begins with a character of its own.** -/
theorem Written.startsItem {v : Raw} {s : List Char} (h : Written (.value v) s) : StartsItem s := by
  cases h with
  | word w => cases w <;> exact ⟨_, _, rfl, rfl, by decide, by decide⟩
  | number hnumber =>
    rcases hnumber with hunsigned | ⟨s', -, rfl⟩
    · obtain ⟨c, cs, rfl, hc⟩ := hunsigned.exists_digit
      exact ⟨c, cs, rfl, isBlank_of_isDigit hc, ne_of_isDigit hc rfl, ne_of_isDigit hc rfl⟩
    · exact ⟨_, _, rfl, rfl, by decide, by decide⟩
  | text ps => exact ⟨_, _, rfl, rfl, by decide, by decide⟩
  | list h => exact ⟨_, _, rfl, rfl, by decide, by decide⟩
  | map h => exact ⟨_, _, rfl, rfl, by decide, by decide⟩

end Json
end RuleHarvest
