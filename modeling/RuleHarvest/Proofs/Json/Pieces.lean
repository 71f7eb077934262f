/-
# Texts piece by piece

What stands between quotation marks is made of pieces: characters that stand for
themselves, and characters after a backslash. A piece may be a UTF-16 unit that is
no character by itself, so pieces come to a text only if such units come in pairs
(`denoted?`). Pieces that come to a text are read as this text and others are
refused (`readText_pieces`); all of them can be skipped (`skipText_pieces`).

Key definitions: `Piece`, `quoted`, `denoted?`.
Key theorems: `readText_pieces`, `skipText_pieces`.
-/
import RuleHarvest.Proofs.Json.Text

namespace RuleHarvest
namespace Json

/-! ### Pieces of a text -/

/-- A hexadecimal digit. -/
abbrev HexDigit := {c : Char // (hexValue? c).isSome}

def HexDigit.value (d : HexDigit) : Nat := (hexValue? d.1).get d.2

/-- Four hexadecimal digits. -/
structure HexUnit where
  a : HexDigit
  b : HexDigit
  c : HexDigit
  d : HexDigit

namespace HexUnit

def value (u : HexUnit) : Nat := ((u.a.value * 16 + u.b.value) * 16 + u.c.value) * 16 + u.d.value

def chars (u : HexUnit) : List Char := [u.a.1, u.b.1, u.c.1, u.d.1]

end HexUnit

/-- The characters that a letter after a backslash stands for. -/
inductive Short where
  | quote
  | backslash
  | slash
  | backspace
  | formFeed
  | lineFeed
  | carriageReturn
  | tab

namespace Short

def letter : Short → Char
  | quote => '"'
  | backslash => '\\'
  | slash => '/'
  | backspace => 'b'
  | formFeed => 'f'
  | lineFeed => 'n'
  | carriageReturn => 'r'
  | tab => 't'

def char : Short → Char
  | quote => '"'
  | backslash => '\\'
  | slash => '/'
  | backspace => '\x08'
  | formFeed => '\x0c'
  | lineFeed => '\n'
  | carriageReturn => '\r'
  | tab => '\t'

end Short

/-- A piece of what stands between quotation marks. -/
inductive Piece where
  /-- A character that stands for itself. -/
  | plain (c : Char) (h : c ≠ '"' ∧ c ≠ '\\' ∧ 32 ≤ c.toNat)
  | short (e : Short)
  /-- The number of a UTF-16 unit. -/
  | unit (u : HexUnit)

def Piece.chars : Piece → List Char
  | .plain c _ => [c]
  | .short e => ['\\', e.letter]
  | .unit u => '\\' :: 'u' :: u.chars

/-- The pieces between quotation marks. -/
def quoted (ps : List Piece) : List Char := '"' :: ps.flatMap Piece.chars ++ ['"']

theorem quoted_append (ps : List Piece) (rest : List Char) :
    quoted ps ++ rest = '"' :: (ps.flatMap Piece.chars ++ '"' :: rest) := by
  simp only [quoted, List.cons_append, List.append_assoc, List.nil_append]

/-- The character of a pair of surrogates. -/
def pairChar (high low : Nat) : Char :=
  Char.ofNat ((high - 0xD800) * 1024 + (low - 0xDC00) + 0x10000)

/-- The text that pieces come to. Surrogates must come in pairs. -/
def denoted? : List Piece → Option (List Char)
  | [] => some []
  | .plain c _ :: ps => (denoted? ps).map (c :: ·)
  | .short e :: ps => (denoted? ps).map (e.char :: ·)
  | .unit u :: ps =>
    if isLowSurrogate u.value then none
    else if isHighSurrogate u.value then
      match ps with
      | .unit v :: ps =>
        if isLowSurrogate v.value then (denoted? ps).map (pairChar u.value v.value :: ·) else none
      | _ => none
    else (denoted? ps).map (Char.ofNat u.value :: ·)

/-! ### Reading -/

theorem toOption_map {ε α β : Type} (x : Except ε α) (f : α → β) :
    (x.map f).toOption = x.toOption.map f := by
  cases x <;> rfl

theorem toOption_eq_some {ε α : Type} {x : Except ε α} {a : α} (h : x.toOption = some a) :
    x = .ok a := by
  rcases x with e | a' <;> cases h
  rfl

theorem toOption_eq_none {ε α : Type} {x : Except ε α} (h : x.toOption = none) :
    ∃ e, x = .error e := by
  rcases x with e | a
  · exact ⟨e, rfl⟩
  · cases h

theorem hexValue?_digit (d : HexDigit) : hexValue? d.1 = some d.value := (Option.some_get d.2).symm

theorem readHex_unit (u : HexUnit) (rest : List Char) :
    readHex (u.chars ++ rest) = .ok (u.value, rest) := by
  have hbytes : ¬ (Text.Utf8.encode u.chars).length < 4 :=
    Nat.not_lt.2 (length_le_encode u.chars)
  have hchars : u.chars ++ rest = u.a.1 :: u.b.1 :: u.c.1 :: u.d.1 :: rest := rfl
  have htake : (u.chars ++ rest).take 4 = u.chars := rfl
  unfold readHex
  rw [htake, if_neg hbytes, hchars]
  simp only [hexValue?_digit, HexUnit.value]

theorem readEscape_short (e : Short) (rest : List Char) :
    readEscape (e.letter :: rest) = .ok (e.char, rest) := by
  cases e <;> rfl

/-- A unit that is a character by itself. -/
theorem readEscape_unit {u : HexUnit} (hlow : isLowSurrogate u.value = false)
    (hhigh : isHighSurrogate u.value = false) (rest : List Char) :
    readEscape ('u' :: (u.chars ++ rest)) = .ok (Char.ofNat u.value, rest) := by
  simp only [readEscape, readHex_unit, bind, Except.bind, hlow, hhigh, Bool.false_eq_true, if_false]

theorem readEscape_low {u : HexUnit} (hlow : isLowSurrogate u.value = true) (rest : List Char) :
    readEscape ('u' :: (u.chars ++ rest)) = .error (.here .loneSurrogate rest) := by
  simp only [readEscape, readHex_unit, bind, Except.bind, hlow, if_true]

theorem readEscape_high {u : HexUnit} (hlow : isLowSurrogate u.value = false)
    (hhigh : isHighSurrogate u.value = true) (rest : List Char) :
    readEscape ('u' :: (u.chars ++ rest)) = readLowHalf u.value rest := by
  simp only [readEscape, readHex_unit, bind, Except.bind, hlow, hhigh, Bool.false_eq_true, if_false,
    if_true]

theorem readLowHalf_unit (high : Nat) {v : HexUnit} (hlow : isLowSurrogate v.value = true)
    (rest : List Char) : readLowHalf high ('\\' :: 'u' :: (v.chars ++ rest)) =
      .ok (pairChar high v.value, rest) := by
  simp only [readLowHalf, readHex_unit, bind, Except.bind, hlow, if_true, pairChar]

/-- Without its other half a surrogate is at fault. -/
theorem readLowHalf_fault {high : Nat} {ps : List Piece} (rest : List Char)
    (h : ∀ v ps', ps = .unit v :: ps' → isLowSurrogate v.value = false) :
    ∃ fault, readLowHalf high (ps.flatMap Piece.chars ++ '"' :: rest) = .error fault := by
  rcases ps with _ | ⟨p, ps⟩
  · exact ⟨_, rfl⟩
  · rw [List.flatMap_cons, List.append_assoc]
    cases p with
    | plain c hc =>
      rw [Piece.chars, List.singleton_append, readLowHalf.eq_def]
      split
      · exact ⟨_, rfl⟩
      · rename_i heq
        exact absurd (List.cons.inj heq).1 hc.2.1
      · exact ⟨_, rfl⟩
    | short e => cases e <;> exact ⟨_, rfl⟩
    | unit v =>
      have hlow := h v ps rfl
      refine ⟨.here .loneSurrogate (ps.flatMap Piece.chars ++ '"' :: rest), ?_⟩
      simp only [Piece.chars, List.cons_append, readLowHalf, readHex_unit, bind, Except.bind, hlow,
        Bool.false_eq_true, if_false]

theorem readTextFrom_plain {c : Char} (h : c ≠ '"' ∧ c ≠ '\\' ∧ 32 ≤ c.toNat) (rest : List Char) :
    readTextFrom 0 (c :: rest) = (readTextFrom 0 rest).map (withFirst c) := by
  rw [readTextFrom, if_neg h.1, if_neg h.2.1, if_neg (Nat.not_lt.2 h.2.2)]
  rcases readTextFrom 0 rest with fault | ⟨s, after⟩ <;> rfl

/-- An escape that is at fault. -/
theorem readTextFrom_fault {s : List Char} {fault : Fault} (h : readEscape s = .error fault) :
    readTextFrom 0 ('\\' :: s) = .error fault := by
  rw [readTextFrom, if_neg (by decide), if_pos rfl]
  simp only [h, bind, Except.bind]

/-- The rest of a text behind its next character. -/
theorem readText_next {c : Char} {e rest : List Char} {s : Option (List Char)} {after : List Char}
    (hchar : readTextFrom 0 (e ++ rest) = (readTextFrom 0 rest).map (withFirst c))
    (hrest : (readText rest).toOption = s.map (·, after)) :
    (readText (e ++ rest)).toOption = (s.map (c :: ·)).map (·, after) := by
  rw [readText] at hrest ⊢
  rw [hchar, toOption_map, hrest, Option.map_map, Option.map_map]
  rfl

theorem readText_fault {s : List Char} {fault : Fault} (h : readEscape s = .error fault) :
    (readText ('\\' :: s)).toOption = none := by
  rw [readText, readTextFrom_fault h]
  rfl

/-- **Pieces are read as the text they come to**, and refused when they come to
none. -/
theorem readText_pieces : ∀ (ps : List Piece) (rest : List Char),
    (readText (ps.flatMap Piece.chars ++ '"' :: rest)).toOption = (denoted? ps).map (·, rest)
  | [], rest => rfl
  | .plain c h :: ps, rest => by
    have ih := readText_pieces ps rest
    have hchar := readTextFrom_plain h (ps.flatMap Piece.chars ++ '"' :: rest)
    rw [List.flatMap_cons, List.append_assoc, denoted?]
    exact readText_next hchar ih
  | .short e :: ps, rest => by
    have ih := readText_pieces ps rest
    have hescape : readEscape ([e.letter] ++ _) = _ :=
      readEscape_short e (ps.flatMap Piece.chars ++ '"' :: rest)
    rw [List.flatMap_cons, List.append_assoc, denoted?]
    exact readText_next (readTextFrom_backslash hescape) ih
  | .unit u :: ps, rest => by
    have hchars : (Piece.unit u :: ps).flatMap Piece.chars ++ '"' :: rest =
        '\\' :: ('u' :: (u.chars ++ (ps.flatMap Piece.chars ++ '"' :: rest))) := by
      simp only [List.flatMap_cons, Piece.chars, List.cons_append, List.append_assoc]
    rw [hchars, denoted?.eq_def]
    dsimp only
    cases hlow : isLowSurrogate u.value with
    | true =>
      rw [if_pos rfl]
      exact readText_fault (readEscape_low hlow _)
    | false =>
      rw [if_neg Bool.false_ne_true]
      cases hhigh : isHighSurrogate u.value with
      | false =>
        have ih := readText_pieces ps rest
        have hescape := readEscape_unit hlow hhigh (ps.flatMap Piece.chars ++ '"' :: rest)
        rw [if_neg Bool.false_ne_true]
        exact readText_next (e := '\\' :: 'u' :: u.chars)
          (readTextFrom_backslash (e := 'u' :: u.chars) hescape) ih
      | true =>
        have hescape := readEscape_high hlow hhigh (ps.flatMap Piece.chars ++ '"' :: rest)
        have halone (h : ∀ v ps', ps = .unit v :: ps' → isLowSurrogate v.value = false) :
            (readText ('\\' :: ('u' :: (u.chars ++
              (ps.flatMap Piece.chars ++ '"' :: rest))))).toOption = none := by
          obtain ⟨fault, hfault⟩ := readLowHalf_fault rest h
          exact readText_fault (hescape.trans hfault)
        rw [if_pos rfl]
        rcases ps with _ | ⟨c | e | v, ps⟩
        · exact halone fun v ps' h => nomatch h
        · exact halone fun v ps' h => nomatch h
        · exact halone fun v ps' h => nomatch h
        · dsimp only
          cases hpair : isLowSurrogate v.value with
          | false =>
            rw [if_neg Bool.false_ne_true]
            exact halone fun v' ps' h => by cases h; exact hpair
          | true =>
            have ih := readText_pieces ps rest
            have hboth : readEscape (('u' :: (u.chars ++ '\\' :: 'u' :: v.chars)) ++
                (ps.flatMap Piece.chars ++ '"' :: rest)) = .ok (pairChar u.value v.value, _) :=
              hescape.trans (readLowHalf_unit u.value hpair _)
            rw [if_pos rfl]
            exact readText_next (e := '\\' :: 'u' :: (u.chars ++ '\\' :: 'u' :: v.chars))
              (readTextFrom_backslash hboth) ih

theorem readText_some {ps : List Piece} {t : List Char} (h : denoted? ps = some t)
    (rest : List Char) : readText (ps.flatMap Piece.chars ++ '"' :: rest) = .ok (t, rest) := by
  have hread := readText_pieces ps rest
  rw [h] at hread
  exact toOption_eq_some hread

theorem readText_none {ps : List Piece} (h : denoted? ps = none) (rest : List Char) :
    ∃ fault, readText (ps.flatMap Piece.chars ++ '"' :: rest) = .error fault := by
  have hread := readText_pieces ps rest
  rw [h] at hread
  exact toOption_eq_none hread

/-! ### Skipping -/

theorem skipTextFrom_skip : ∀ (skipped rest : List Char),
    skipTextFrom skipped.length (skipped ++ rest) = skipTextFrom 0 rest
  | [], _ => rfl
  | c :: skipped, rest => by
    rw [List.length_cons, List.cons_append, skipTextFrom, skipTextFrom_skip skipped rest]

theorem skipTextFrom_backslash {e rest : List Char} (h : skipEscape (e ++ rest) = .ok rest) :
    skipTextFrom 0 ('\\' :: (e ++ rest)) = skipTextFrom 0 rest := by
  rw [skipTextFrom, if_neg (by decide), if_pos rfl]
  simp only [h, bind, Except.bind, length_sub_rest, skipTextFrom_skip]

theorem skipEscape_short (e : Short) (rest : List Char) :
    skipEscape ([e.letter] ++ rest) = .ok rest := by
  cases e <;> rfl

theorem skipEscape_unit (u : HexUnit) (rest : List Char) :
    skipEscape (('u' :: u.chars) ++ rest) = .ok rest := by
  rw [List.cons_append, skipEscape, readHex_unit]
  rfl

/-- **Pieces are skipped** whatever they come to. -/
theorem skipText_pieces (rest : List Char) : ∀ ps : List Piece,
    skipText (ps.flatMap Piece.chars ++ '"' :: rest) = .ok rest
  | [] => rfl
  | p :: ps => by
    have ih := skipText_pieces rest ps
    rw [skipText] at ih ⊢
    rw [List.flatMap_cons, List.append_assoc, ← ih]
    cases p with
    | plain c h =>
      rw [Piece.chars, List.singleton_append, skipTextFrom, if_neg h.1, if_neg h.2.1,
        if_neg (Nat.not_lt.2 h.2.2)]
    | short e => exact skipTextFrom_backslash (skipEscape_short e _)
    | unit u => exact skipTextFrom_backslash (skipEscape_unit u _)

end Json
end RuleHarvest
