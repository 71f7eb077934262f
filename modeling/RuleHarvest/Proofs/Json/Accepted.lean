/-
# What is accepted is written

The other direction of the grammar: a reader that succeeds has gone over a value, and a
text that is accepted as a value of a shape holds a map, or begins as a list. For words,
numbers and texts the parts are found one by one. The skipping is taken from the inside:
what the open brackets still demand of a text is told by `Closes`, and a step that
succeeds leaves to the text behind it no more than that (`skipAhead_ok`), so by induction
on the rounds a value and what closes the brackets have been there (`skipRounds_ok`).

Key definitions: `Closes`, `StartsValue`, `AcceptsValues`, `StartsMembers`.
Key theorems: `skipNumber_ok`, `skipAhead_ok`, `skipValue_ok`, `readMembers_ok`,
`Shape.isObject_of_decode`.
-/
import RuleHarvest.Proofs.Json.Skipping

namespace RuleHarvest
namespace Json

variable {α δ : Type} {s rest : List Char}

/-! ### Steps that succeed -/

theorem ok_of_bind {ε β : Type} {x : Except ε α} {f : α → Except ε β} {b : β}
    (h : x >>= f = .ok b) : ∃ a, x = .ok a ∧ f a = .ok b := by
  cases x with
  | error e => cases h
  | ok a => exact ⟨a, rfl, h⟩

theorem ok_of_map {ε β : Type} {x : Except ε α} {f : α → β} {b : β} (h : x.map f = .ok b) :
    ∃ a, x = .ok a ∧ f a = b := by
  cases x with
  | error e => cases h
  | ok a => exact ⟨a, rfl, Except.ok.inj h⟩

theorem ok_of_map_some {ε : Type} {x : Except ε α} {a : α} (h : x.map some = .ok (some a)) :
    x = .ok a := by
  obtain ⟨a', hx, ha⟩ := ok_of_map h
  rw [hx, Option.some.inj ha]

theorem exists_blanks {t : List Char} (h : skipBlank s = t) :
    ∃ blanks, AllBlank blanks ∧ s = blanks ++ t :=
  ⟨s.takeWhile isBlank, fun _ hc => List.all_eq_true.1 List.all_takeWhile _ hc,
    h ▸ List.takeWhile_append_dropWhile.symm⟩

theorem AllBlank.append {blanks blanks' : List Char} (h : AllBlank blanks) (h' : AllBlank blanks') :
    AllBlank (blanks ++ blanks') := List.forall_mem_append.2 ⟨h, h'⟩

/-! ### Texts -/

theorem readHex_ok {n : Nat} (h : readHex s = .ok (n, rest)) :
    ∃ u : HexUnit, s = u.chars ++ rest := by
  unfold readHex at h
  split at h
  · cases h
  split at h
  · rename_i a b c d _ _
    split at h
    · rename_i ha hb hc hd
      obtain ⟨-, rfl⟩ := Prod.mk.inj (Except.ok.inj h)
      exact ⟨⟨⟨a, ha ▸ rfl⟩, ⟨b, hb ▸ rfl⟩, ⟨c, hc ▸ rfl⟩, ⟨d, hd ▸ rfl⟩⟩, rfl⟩
    · cases h
  · cases h

theorem readLowHalf_ok {high : Nat} {c : Char} (h : readLowHalf high s = .ok (c, rest)) :
    ∃ u : HexUnit, s = '\\' :: 'u' :: (u.chars ++ rest) := by
  unfold readLowHalf at h
  split at h
  · cases h
  · split at h
    · cases h
    · obtain ⟨⟨low, after⟩, hhex, hlow⟩ := ok_of_bind h
      obtain ⟨u, rfl⟩ := readHex_ok hhex
      dsimp only at hlow
      split at hlow
      · obtain ⟨-, rfl⟩ := Prod.mk.inj (Except.ok.inj hlow)
        exact ⟨u, rfl⟩
      · cases hlow
    · cases h
  · cases h

/-- An escape is made of one piece or two. -/
def IsEscape (esc : List Char) : Prop := ∃ ps : List Piece, '\\' :: esc = ps.flatMap Piece.chars

theorem isEscape_letter {c : Char} (h : c ∈ ['"', '\\', '/', 'b', 'f', 'n', 'r', 't']) :
    IsEscape [c] := by
  simp only [List.mem_cons, List.not_mem_nil, or_false] at h
  rcases h with rfl | rfl | rfl | rfl | rfl | rfl | rfl | rfl
  · exact ⟨[.short .quote], rfl⟩
  · exact ⟨[.short .backslash], rfl⟩
  · exact ⟨[.short .slash], rfl⟩
  · exact ⟨[.short .backspace], rfl⟩
  · exact ⟨[.short .formFeed], rfl⟩
  · exact ⟨[.short .lineFeed], rfl⟩
  · exact ⟨[.short .carriageReturn], rfl⟩
  · exact ⟨[.short .tab], rfl⟩

theorem isEscape_unit (u : HexUnit) : IsEscape ('u' :: u.chars) := ⟨[.unit u], rfl⟩

theorem isEscape_pair (u v : HexUnit) : IsEscape ('u' :: (u.chars ++ '\\' :: 'u' :: v.chars)) :=
  ⟨[.unit u, .unit v], rfl⟩

theorem readEscape_ok {c : Char} (h : readEscape s = .ok (c, rest)) :
    ∃ esc, IsEscape esc ∧ s = esc ++ rest := by
  unfold readEscape at h
  split at h
  case h_10 cs =>
    obtain ⟨⟨n, after⟩, hhex, hunit⟩ := ok_of_bind h
    obtain ⟨u, rfl⟩ := readHex_ok hhex
    dsimp only at hunit
    split at hunit
    · cases hunit
    split at hunit
    · obtain ⟨v, rfl⟩ := readLowHalf_ok hunit
      exact ⟨_, isEscape_pair u v, by simp⟩
    · obtain ⟨-, rfl⟩ := Prod.mk.inj (Except.ok.inj hunit)
      exact ⟨_, isEscape_unit u, rfl⟩
  all_goals cases h
  all_goals exact ⟨_, isEscape_letter (by decide), rfl⟩

theorem skipEscape_ok (h : skipEscape s = .ok rest) : ∃ esc, IsEscape esc ∧ s = esc ++ rest := by
  unfold skipEscape at h
  split at h
  · cases h
  · obtain ⟨⟨n, after⟩, hhex, rfl⟩ := ok_of_map h
    obtain ⟨u, rfl⟩ := readHex_ok hhex
    exact ⟨_, isEscape_unit u, rfl⟩
  · rename_i c cs _
    split at h
    · rename_i hc
      obtain rfl := Except.ok.inj h
      exact ⟨[c], isEscape_letter (List.contains_iff_mem.1 hc), rfl⟩
    · cases h

/-- A piece more, or two, before the closing quotation mark. -/
theorem pieces_escape {esc : List Char} (hesc : IsEscape esc) {ps : List Piece} {t : List Char}
    (h : t = ps.flatMap Piece.chars ++ '"' :: rest) :
    ∃ ps' : List Piece, '\\' :: (esc ++ t) = ps'.flatMap Piece.chars ++ '"' :: rest := by
  obtain ⟨ps', hps'⟩ := hesc
  refine ⟨ps' ++ ps, ?_⟩
  rw [List.flatMap_append, ← hps', h, List.cons_append, List.cons_append, List.append_assoc]

theorem pieces_plain {c : Char} (hc : c ≠ '"' ∧ c ≠ '\\' ∧ 32 ≤ c.toNat) {ps : List Piece}
    {t : List Char} (h : t = ps.flatMap Piece.chars ++ '"' :: rest) :
    ∃ ps' : List Piece, c :: t = ps'.flatMap Piece.chars ++ '"' :: rest :=
  ⟨.plain c hc :: ps, by rw [h]; rfl⟩

/-- What is read as a text are pieces. An escape is passed over in one go, so the
induction is on the length. -/
theorem readTextFrom_ok : ∀ {s t rest : List Char}, readTextFrom 0 s = .ok (t, rest) →
    ∃ ps : List Piece, s = ps.flatMap Piece.chars ++ '"' :: rest
  | [], _, _, h => by cases h
  | c :: cs, t, rest, h => by
    rw [readTextFrom] at h
    by_cases hquote : c = '"'
    · rw [if_pos hquote] at h
      obtain ⟨-, rfl⟩ := Prod.mk.inj (Except.ok.inj h)
      exact ⟨[], by rw [hquote]; rfl⟩
    rw [if_neg hquote] at h
    by_cases hback : c = '\\'
    · rw [if_pos hback] at h
      obtain ⟨⟨e, after⟩, hescape, hmore⟩ := ok_of_bind h
      obtain ⟨⟨t', rest'⟩, htext, hend⟩ := ok_of_bind hmore
      obtain ⟨-, rfl⟩ := Prod.mk.inj (Except.ok.inj hend)
      obtain ⟨esc, hesc, rfl⟩ := readEscape_ok hescape
      rw [length_sub_rest, readTextFrom_skip] at htext
      obtain ⟨ps, hps⟩ := readTextFrom_ok htext
      rw [hback]
      exact pieces_escape hesc hps
    · rw [if_neg hback] at h
      by_cases hcontrol : c.toNat < 32
      · rw [if_pos hcontrol] at h
        cases h
      · rw [if_neg hcontrol] at h
        obtain ⟨⟨t', rest'⟩, htext, hend⟩ := ok_of_bind h
        obtain ⟨-, rfl⟩ := Prod.mk.inj (Except.ok.inj hend)
        obtain ⟨ps, hps⟩ := readTextFrom_ok htext
        exact pieces_plain ⟨hquote, hback, Nat.le_of_not_lt hcontrol⟩ hps
termination_by s => s.length

theorem skipTextFrom_ok : ∀ {s : List Char}, skipTextFrom 0 s = .ok rest →
    ∃ ps : List Piece, s = ps.flatMap Piece.chars ++ '"' :: rest
  | [], h => by cases h
  | c :: cs, h => by
    rw [skipTextFrom] at h
    by_cases hquote : c = '"'
    · rw [if_pos hquote] at h
      obtain rfl := Except.ok.inj h
      exact ⟨[], by rw [hquote]; rfl⟩
    rw [if_neg hquote] at h
    by_cases hback : c = '\\'
    · rw [if_pos hback] at h
      obtain ⟨after, hescape, htext⟩ := ok_of_bind h
      obtain ⟨esc, hesc, rfl⟩ := skipEscape_ok hescape
      rw [length_sub_rest, skipTextFrom_skip] at htext
      obtain ⟨ps, hps⟩ := skipTextFrom_ok htext
      rw [hback]
      exact pieces_escape hesc hps
    · rw [if_neg hback] at h
      by_cases hcontrol : c.toNat < 32
      · rw [if_pos hcontrol] at h
        cases h
      · rw [if_neg hcontrol] at h
        obtain ⟨ps, hps⟩ := skipTextFrom_ok h
        exact pieces_plain ⟨hquote, hback, Nat.le_of_not_lt hcontrol⟩ hps
termination_by s => s.length

/-! ### Numbers -/

theorem isDigits_dropWhile {c : Char} (hc : c.isDigit = true) (cs : List Char) :
    ∃ digits, IsDigits (c :: digits) ∧ cs = digits ++ cs.dropWhile Char.isDigit :=
  ⟨cs.takeWhile Char.isDigit, ⟨List.cons_ne_nil _ _, List.forall_mem_cons.2 ⟨hc,
    fun _ hd => List.all_eq_true.1 List.all_takeWhile _ hd⟩⟩, List.takeWhile_append_dropWhile.symm⟩

/-- The text after the digits of an exponent, from behind its sign. -/
def skipDigits (s : List Char) : Except Fault (List Char) :=
  match s with
  | [] => .error (.here .badNumber [])
  | c :: cs => if c.isDigit then .ok (cs.dropWhile Char.isDigit) else .error (.next .badNumber s)

theorem skipDigits_ok (h : skipDigits s = .ok rest) :
    ∃ digits, IsDigits digits ∧ s = digits ++ rest := by
  unfold skipDigits at h
  split at h
  · cases h
  · rename_i c cs
    split at h
    · rename_i hc
      obtain rfl := Except.ok.inj h
      obtain ⟨digits, hdigits, hcs⟩ := isDigits_dropWhile hc cs
      exact ⟨c :: digits, hdigits, congrArg (c :: ·) hcs⟩
    · cases h

theorem skipExponent_ok {e : Char} (he : e = 'e' ∨ e = 'E') (h : skipExponent s = .ok rest) :
    ∃ exponent, IsExponent exponent ∧ e :: s = exponent ++ rest := by
  have hsigned : ∃ sign t, (sign = [] ∨ sign = ['-'] ∨ sign = ['+']) ∧ s = sign ++ t ∧
      skipDigits t = .ok rest := by
    unfold skipExponent at h
    split at h
    · exact ⟨['-'], _, .inr (.inl rfl), rfl, h⟩
    · exact ⟨['+'], _, .inr (.inr rfl), rfl, h⟩
    · exact ⟨[], _, .inl rfl, rfl, h⟩
  obtain ⟨sign, t, hsign, rfl, hskip⟩ := hsigned
  obtain ⟨digits, hdigits, rfl⟩ := skipDigits_ok hskip
  exact ⟨_, .some he hsign hdigits, by rw [List.cons_append, List.append_assoc]⟩

theorem skipFraction_ok (h : skipFraction s = .ok rest) : ∃ fraction exponent,
    IsFraction fraction ∧ IsExponent exponent ∧ '.' :: s = fraction ++ (exponent ++ rest) := by
  unfold skipFraction at h
  rcases s with _ | ⟨c, cs⟩
  · cases h
  rw [List.head?_cons, Option.any_some] at h
  by_cases hc : c.isDigit = true
  · rw [if_pos hc, List.dropWhile_cons_of_pos hc] at h
    obtain ⟨digits, hdigits, hcs⟩ := isDigits_dropWhile hc cs
    have hparts : ∃ exponent, IsExponent exponent ∧
        cs.dropWhile Char.isDigit = exponent ++ rest := by
      split at h
      · rename_i heq
        rw [heq]
        exact skipExponent_ok (.inl rfl) h
      · rename_i heq
        rw [heq]
        exact skipExponent_ok (.inr rfl) h
      · exact ⟨[], .none, Except.ok.inj h⟩
    obtain ⟨exponent, hexponent, hmore⟩ := hparts
    refine ⟨_, exponent, .some hdigits, hexponent, ?_⟩
    rw [← hmore, List.cons_append, List.cons_append, ← hcs]
  · rw [if_neg hc] at h
    cases h

theorem skipTail_ok (h : skipTail s = .ok rest) : ∃ fraction exponent,
    IsFraction fraction ∧ IsExponent exponent ∧ s = fraction ++ (exponent ++ rest) := by
  unfold skipTail at h
  split at h
  · exact skipFraction_ok h
  · obtain ⟨exponent, hexponent, hs⟩ := skipExponent_ok (.inl rfl) h
    exact ⟨[], exponent, .none, hexponent, hs⟩
  · obtain ⟨exponent, hexponent, hs⟩ := skipExponent_ok (.inr rfl) h
    exact ⟨[], exponent, .none, hexponent, hs⟩
  · exact ⟨[], [], .none, .none, Except.ok.inj h⟩

theorem isUnsigned_of_tail {whole t : List Char} (hwhole : IsWhole whole)
    (h : skipTail t = .ok rest) : ∃ number, IsUnsigned number ∧ whole ++ t = number ++ rest := by
  obtain ⟨fraction, exponent, hfraction, hexponent, rfl⟩ := skipTail_ok h
  exact ⟨_, .parts hwhole hfraction hexponent, by simp only [List.append_assoc]⟩

/-- **What is skipped as a number is one.** -/
theorem skipNumber_ok (h : skipNumber s = .ok rest) :
    ∃ number, IsUnsigned number ∧ s = number ++ rest := by
  rcases s with _ | ⟨c, cs⟩
  · cases h
  by_cases hzero : c = '0'
  · subst hzero
    simp only [skipNumber] at h
    split at h
    · cases h
    · exact isUnsigned_of_tail (.inl rfl) h
  · unfold skipNumber at h
    dsimp only at h
    split at h
    · cases ‹c :: cs = []›
    · rename_i heq
      exact absurd (List.cons.inj heq).1 hzero
    · rename_i heq
      obtain ⟨rfl, rfl⟩ := List.cons.inj heq
      by_cases hc : c.isDigit = true
      · rw [if_pos hc, List.dropWhile_cons_of_pos hc] at h
        obtain ⟨digits, hdigits, hcs⟩ := isDigits_dropWhile hc cs
        have hwhole : IsWhole (c :: digits) := .inr ⟨hdigits, fun h => hzero (Option.some.inj h)⟩
        obtain ⟨number, hnumber, hs⟩ := isUnsigned_of_tail hwhole h
        exact ⟨number, hnumber, by rw [← hs, List.cons_append, ← hcs]⟩
      · rw [if_neg hc] at h
        cases h

/-! ### Values without brackets -/

theorem readWord_ok : ∀ {w s : List Char}, readWord w s = .ok rest → s = w ++ rest
  | [], s, h => Except.ok.inj h
  | _ :: _, [], h => by cases h
  | c :: w, d :: s, h => by
    rw [readWord] at h
    by_cases hd : d = c
    · rw [if_pos hd] at h
      rw [hd, readWord_ok h, List.cons_append]
    · rw [if_neg hd] at h
      cases h

theorem skipScalar?_some (h : skipScalar? s = .ok (some rest)) :
    ∃ v t, Written (.value v) t ∧ s = t ++ rest := by
  unfold skipScalar? at h
  split at h
  · cases h
  · exact ⟨_, _, .word .null, congrArg _ (readWord_ok (ok_of_map_some h))⟩
  · exact ⟨_, _, .word .true, congrArg _ (readWord_ok (ok_of_map_some h))⟩
  · exact ⟨_, _, .word .false, congrArg _ (readWord_ok (ok_of_map_some h))⟩
  · obtain ⟨number, hunsigned, rfl⟩ := skipNumber_ok (ok_of_map_some h)
    exact ⟨_, _, .number (.inr ⟨number, hunsigned, rfl⟩), rfl⟩
  · obtain ⟨ps, rfl⟩ := skipTextFrom_ok (ok_of_map_some h)
    exact ⟨_, _, .text ps, (quoted_append ps _).symm⟩
  · cases h
  · cases h
  · split at h
    · obtain ⟨number, hunsigned, hs⟩ := skipNumber_ok (ok_of_map_some h)
      exact ⟨_, _, .number (.inl hunsigned), hs⟩
    · cases h

theorem skipScalar?_none (h : skipScalar? s = .ok none) :
    ∃ cs, s = '[' :: cs ∨ s = '\x7b' :: cs := by
  have hsome {x : Except Fault (List Char)} : x.map some ≠ .ok none := fun h => by
    obtain ⟨_, -, heq⟩ := ok_of_map h
    cases heq
  unfold skipScalar? at h
  split at h
  · cases h
  · exact absurd h hsome
  · exact absurd h hsome
  · exact absurd h hsome
  · exact absurd h hsome
  · exact absurd h hsome
  · exact ⟨_, .inl rfl⟩
  · exact ⟨_, .inr rfl⟩
  · split at h
    · exact absurd h hsome
    · cases h

/-! ### Open brackets -/

/-- What may stand behind an opening bracket up to where it closes, or behind a
value in it. -/
def Bracket.Holds (first : Bool) : Bracket → List Char → Prop
  | .list, s => ∃ vs, Written (.items first vs) s
  | .map, s => ∃ ms, Written (.members first ms) s

/-- What the open brackets still demand of a text before the rest. -/
def Closes (rest : List Char) : Bool → List Bracket → List Char → Prop
  | _, [], s => s = rest
  | first, b :: outer, s => ∃ inside more, b.Holds first inside ∧ s = inside ++ more ∧
      Closes rest false outer more

/-- A value stands at the start of a text, and then what the open brackets demand. -/
def ValueThenCloses (rest : List Char) (brackets : List Bracket) (s : List Char) : Prop :=
  ∃ blanks v t more, AllBlank blanks ∧ Written (.value v) t ∧ s = blanks ++ (t ++ more) ∧
    Closes rest false brackets more

/-- What a step demands of the text behind it. -/
def SkipStep.Demands (rest : List Char) : SkipStep → Prop
  | .finished rest' => rest' = rest
  | .value brackets s => ValueThenCloses rest brackets s

theorem skipKey_ok (h : skipKey s = .ok rest) : ∃ blanks name before, AllBlank blanks ∧
    AllBlank before ∧ s = blanks ++ (quoted name ++ (before ++ ':' :: rest)) := by
  unfold skipKey at h
  split at h
  · cases h
  · rename_i hquote
    obtain ⟨after, htext, hcolon⟩ := ok_of_bind h
    split at hcolon
    · cases hcolon
    · rename_i hskip
      obtain rfl := Except.ok.inj hcolon
      obtain ⟨blanks, hblanks, hs⟩ := exists_blanks hquote
      obtain ⟨before, hbefore, hafter⟩ := exists_blanks hskip
      obtain ⟨name, hname⟩ := skipTextFrom_ok htext
      exact ⟨blanks, name, before, hblanks, hbefore, by rw [quoted_append, ← hafter, ← hname, hs]⟩
    · cases hcolon
  · cases h

/-- A value behind a gap, and then what the brackets demand. -/
theorem closes_value (first : Bool) {b : Bracket} {outer : List Bracket} {before t : List Char}
    (hgap : ∀ blanks, AllBlank blanks → IsGap first (before ++ blanks)) (h : valueIn b s = .ok t)
    (hvalue : ValueThenCloses rest (b :: outer) t) :
    Closes rest first (b :: outer) (before ++ s) := by
  obtain ⟨blanks, v, u, more, hblanks, hwritten, rfl, hmore⟩ := hvalue
  obtain ⟨inside, after, hinside, rfl, hcloses⟩ := hmore
  cases b with
  | list =>
    obtain ⟨vs, hvs⟩ := hinside
    obtain rfl := Except.ok.inj h
    have hitems := Written.item (hgap blanks hblanks) hwritten hvs
    exact ⟨_, after, ⟨v :: vs, hitems⟩, by simp only [List.append_assoc], hcloses⟩
  | map =>
    obtain ⟨ms, hms⟩ := hinside
    obtain ⟨blanks', name, colon, hblanks', hcolon, rfl⟩ := skipKey_ok h
    have hmembers : Written (.members first ((name, v) :: ms)) _ :=
      .member (hgap blanks' hblanks') hcolon hblanks hwritten hms
    exact ⟨_, after, ⟨(name, v) :: ms, hmembers⟩, by
      simp only [List.append_assoc, List.cons_append], hcloses⟩

theorem holds_closing (b : Bracket) (first : Bool) {blanks : List Char} (h : AllBlank blanks) :
    b.Holds first (blanks ++ [b.closing]) := by
  cases b with
  | list => exact ⟨[], .noItems h⟩
  | map => exact ⟨[], .noMembers h⟩

/-- Going on inside the open brackets. -/
theorem skipAhead_ok : ∀ {brackets : List Bracket} {afterValue : Bool} {s : List Char}
    {step : SkipStep}, skipAhead brackets afterValue s = .ok step → step.Demands rest →
      Closes rest (!afterValue) brackets s
  | [], _, s, step, h, hstep => by
    obtain rfl := Except.ok.inj h
    exact hstep
  | b :: outer, afterValue, s, step, h, hstep => by
    have hahead := h
    rw [skipAhead] at h
    split at h
    · cases h
    · rename_i c cs hskip
      obtain ⟨blanks, hblanks, hs⟩ := exists_blanks hskip
      -- a comma leads to one more entry, a closing bracket to the outer brackets, and
      -- anything else is the first entry
      by_cases hcomma : (c = ',' && afterValue) = true
      · obtain ⟨hc, rfl⟩ := Bool.and_eq_true_iff.1 hcomma
        rw [decide_eq_true_eq] at hc
        rw [hc] at hskip hs
        rw [skipAhead_comma hskip] at hahead
        obtain ⟨t, ht, rfl⟩ := ok_of_map hahead
        have hgap : ∀ blanks', AllBlank blanks' → IsGap false ((blanks ++ [',']) ++ blanks') :=
          fun blanks' hblanks' => ⟨blanks, blanks', hblanks, hblanks', by simp⟩
        have hcloses := closes_value false hgap ht hstep
        rw [List.append_assoc] at hcloses
        rw [hs]
        exact hcloses
      · rw [if_neg hcomma] at h
        by_cases hclosing : c = b.closing
        · rw [if_pos hclosing] at h
          have ih := skipAhead_ok h hstep
          exact ⟨_, cs, holds_closing b _ hblanks, by rw [hs, hclosing]; simp, ih⟩
        · rw [if_neg hclosing] at h
          cases afterValue with
          | true => cases h
          | false =>
            rw [skipAhead_first hskip hclosing] at hahead
            obtain ⟨t, ht, rfl⟩ := ok_of_map hahead
            rw [hs]
            exact closes_value true (fun blanks' hblanks' => hblanks.append hblanks') ht hstep

/-- What is skipped from inside the open brackets on, when so many rounds do as they
should. -/
theorem resume_ok {n : Nat} {brackets : List Bracket} {afterValue : Bool}
    (ih : ∀ {brackets s}, skipRounds n brackets s = .ok rest → ValueThenCloses rest brackets s)
    (h : resume n brackets afterValue s = .ok rest) : Closes rest (!afterValue) brackets s := by
  rw [resume] at h
  cases hahead : skipAhead brackets afterValue s with
  | error e =>
    rw [hahead] at h
    cases h
  | ok step =>
    rw [hahead] at h
    refine skipAhead_ok hahead ?_
    cases step with
    | finished rest' => exact Except.ok.inj h
    | value brackets' t => exact ih h

/-- What the rounds skip is a value and what closes the brackets. -/
theorem skipRounds_ok : ∀ {n : Nat} {brackets : List Bracket} {s : List Char},
    skipRounds n brackets s = .ok rest → ValueThenCloses rest brackets s
  | 0, _, _, h => by cases h
  | n + 1, brackets, s, h => by
    obtain ⟨scalar, hscalar, -⟩ := ok_of_bind h
    obtain ⟨blanks, hblanks, hs⟩ := exists_blanks (s := s) rfl
    cases scalar with
    | some after =>
      obtain ⟨v, t, hwritten, ht⟩ := skipScalar?_some hscalar
      rw [skipRounds_scalar hscalar] at h
      exact ⟨blanks, v, t, after, hblanks, hwritten, ht ▸ hs, resume_ok skipRounds_ok h⟩
    | none =>
      obtain ⟨cs, hopen | hopen⟩ := skipScalar?_none hscalar
      · rw [hopen] at hs
        rw [hs, skipRounds_list hblanks] at h
        obtain ⟨inside, more, ⟨vs, hvs⟩, rfl, hcloses⟩ := resume_ok skipRounds_ok h
        exact ⟨blanks, .list vs, '[' :: inside, more, hblanks, .list hvs, hs, hcloses⟩
      · rw [hopen] at hs
        rw [hs, skipRounds_map hblanks] at h
        obtain ⟨inside, more, ⟨ms, hms⟩, rfl, hcloses⟩ := resume_ok skipRounds_ok h
        exact ⟨blanks, .map ms, '\x7b' :: inside, more, hblanks, .map hms, hs, hcloses⟩

/-! ### Values that are read -/

/-- A value stands at the start of a text, blanks before it or not. -/
def StartsValue (s rest : List Char) : Prop :=
  ∃ blanks v t, AllBlank blanks ∧ Written (.value v) t ∧ s = blanks ++ (t ++ rest)

/-- **What is skipped is a value.** -/
theorem skipValue_ok (h : skipValue s = .ok rest) : StartsValue s rest := by
  obtain ⟨blanks, v, t, more, hblanks, hwritten, hs, rfl⟩ := skipRounds_ok h
  exact ⟨blanks, v, t, hblanks, hwritten, hs⟩

/-- The reader accepts values only. -/
def AcceptsValues (read : Reader α) : Prop :=
  ∀ ⦃s a rest⦄, read s = .ok (a, rest) → StartsValue s rest

theorem AcceptsValues.slot {read : Reader α} (h : AcceptsValues read) (name : String)
    (get : δ → Option α) (set : δ → Option α → δ) (draft : δ) :
    AcceptsValues ((Slot.of name read get set).read draft) := by
  intro s draft' rest hread
  obtain ⟨⟨a, rest'⟩, ha, heq⟩ := ok_of_map hread
  obtain ⟨-, rfl⟩ := Prod.mk.inj heq
  exact h ha

theorem textValue_ok : AcceptsValues textValue := by
  intro s a rest h
  unfold textValue at h
  split at h
  · rename_i hskip
    obtain ⟨⟨t, after⟩, htext, heq⟩ := ok_of_map h
    obtain ⟨-, rfl⟩ := Prod.mk.inj heq
    obtain ⟨blanks, hblanks, hs⟩ := exists_blanks hskip
    obtain ⟨ps, hps⟩ := readTextFrom_ok htext
    exact ⟨blanks, _, _, hblanks, .text ps, by rw [quoted_append, ← hps, hs]⟩
  · cases h

theorem textOrNull_ok : AcceptsValues textOrNull := by
  intro s a rest h
  unfold textOrNull at h
  split at h
  · rename_i hskip
    obtain ⟨after, hword, heq⟩ := ok_of_map h
    obtain ⟨-, rfl⟩ := Prod.mk.inj heq
    obtain ⟨blanks, hblanks, hs⟩ := exists_blanks hskip
    exact ⟨blanks, _, _, hblanks, .word .null, by rw [hs, readWord_ok hword]; rfl⟩
  · obtain ⟨⟨t, after⟩, htext, heq⟩ := ok_of_map h
    obtain ⟨-, rfl⟩ := Prod.mk.inj heq
    obtain ⟨blanks, hblanks, hs⟩ := exists_blanks (s := s) rfl
    obtain ⟨blanks', v, u, hblanks', hwritten, hu⟩ := textValue_ok htext
    exact ⟨blanks ++ blanks', v, u, hblanks.append hblanks', hwritten, by
      rw [List.append_assoc, ← hu, ← hs]⟩

/-! ### Members that are read -/

theorem nextKey_end_ok {first : Bool} (h : nextKey first s = .ok (.error rest)) :
    ∃ blanks, AllBlank blanks ∧ s = blanks ++ '\x7d' :: rest := by
  unfold nextKey at h
  split at h
  · cases h
  · rename_i hskip
    obtain rfl := Except.error.inj (Except.ok.inj h)
    exact exists_blanks hskip
  · split at h <;> cases h
  · split at h
    · cases h
    · split at h <;> cases h
  · cases h

theorem nextKey_key_ok {first : Bool} {t : List Char} (h : nextKey first s = .ok (.ok t)) :
    ∃ gap, IsGap first gap ∧ s = gap ++ '"' :: t := by
  unfold nextKey at h
  split at h
  · cases h
  · cases h
  · rename_i hskip
    split at h
    · rename_i hfirst
      obtain rfl := Except.ok.inj (Except.ok.inj h)
      obtain ⟨blanks, hblanks, hs⟩ := exists_blanks hskip
      exact ⟨blanks, hfirst ▸ hblanks, hs⟩
    · cases h
  · rename_i hskip
    split at h
    · cases h
    · rename_i hfirst
      split at h
      · rename_i hkey
        obtain rfl := Except.ok.inj (Except.ok.inj h)
        obtain ⟨before, hbefore, hs⟩ := exists_blanks hskip
        obtain ⟨after, hafter, hcs⟩ := exists_blanks hkey
        rw [Bool.not_eq_true] at hfirst
        rw [hfirst]
        exact ⟨_, ⟨before, after, hbefore, hafter, rfl⟩, by rw [hs, hcs]; simp⟩
      · cases h
      · cases h
      · cases h
  · cases h

theorem readColon_ok (h : readColon s = .ok rest) :
    ∃ before, AllBlank before ∧ s = before ++ ':' :: rest := by
  unfold readColon at h
  split at h
  · rename_i hskip
    obtain rfl := Except.ok.inj h
    exact exists_blanks hskip
  · cases h
  · cases h

/-- The members of a map stand at the start of a text, up to its closing bracket. -/
def StartsMembers (first : Bool) (s rest : List Char) : Prop :=
  ∃ ms t, Written (.members first ms) t ∧ s = t ++ rest

theorem startsMembers_end {first : Bool} (h : nextKey first s = .ok (.error rest)) :
    StartsMembers first s rest := by
  obtain ⟨blanks, hblanks, rfl⟩ := nextKey_end_ok h
  exact ⟨[], _, .noMembers hblanks, by simp⟩

/-- One member, then the others. -/
theorem startsMembers_step {first : Bool} {key t u w more : List Char}
    (hkey : nextKey first s = .ok (.ok t)) (htext : readText t = .ok (key, u))
    (hcolon : readColon u = .ok w) (hvalue : StartsValue w more)
    (hmore : StartsMembers false more rest) : StartsMembers first s rest := by
  obtain ⟨gap, hgap, rfl⟩ := nextKey_key_ok hkey
  obtain ⟨name, rfl⟩ := readTextFrom_ok htext
  obtain ⟨before, hbefore, rfl⟩ := readColon_ok hcolon
  obtain ⟨after, v, x, hafter, hwritten, rfl⟩ := hvalue
  obtain ⟨ms, y, hms, rfl⟩ := hmore
  refine ⟨(name, v) :: ms, _, .member hgap hbefore hafter hwritten hms, ?_⟩
  rw [← quoted_append]
  simp only [List.append_assoc, List.cons_append]

theorem readEntries_ok : ∀ {n : Nat} {first : Bool} {entries : List (String × String)}
    {s : List Char} {all : List (String × String)},
    readEntries n first entries s = .ok (all, rest) → StartsMembers first s rest
  | 0, _, _, _, _, h => by cases h
  | n + 1, first, entries, s, all, h => by
    obtain ⟨next, hnext, h⟩ := ok_of_bind h
    cases next with
    | error rest' =>
      obtain ⟨-, rfl⟩ := Prod.mk.inj (Except.ok.inj h)
      exact startsMembers_end hnext
    | ok t =>
      obtain ⟨⟨key, u⟩, htext, h⟩ := ok_of_bind h
      obtain ⟨w, hcolon, h⟩ := ok_of_bind h
      obtain ⟨⟨value, more⟩, hvalue, h⟩ := ok_of_bind h
      exact startsMembers_step hnext htext hcolon (textValue_ok hvalue) (readEntries_ok h)

theorem startsValue_map {cs : List Char} (hskip : skipBlank s = '\x7b' :: cs)
    (h : StartsMembers true cs rest) : StartsValue s rest := by
  obtain ⟨blanks, hblanks, hs⟩ := exists_blanks hskip
  obtain ⟨ms, t, hms, rfl⟩ := h
  exact ⟨blanks, .map ms, '\x7b' :: t, hblanks, .map hms, hs⟩

theorem textMap_ok : AcceptsValues textMap := by
  intro s a rest h
  unfold textMap at h
  split at h
  · rename_i hskip
    exact startsValue_map hskip (readEntries_ok h)
  · cases h

namespace Shape

variable {shape : Shape δ α}

/-- **The members of a shape that are read stand in the text.** -/
theorem readMembers_ok (hslots : ∀ slot ∈ shape.slots, ∀ draft, AcceptsValues (slot.read draft)) :
    ∀ {n : Nat} {first : Bool} {draft : δ} {s : List Char} {a : α},
      shape.readMembers n first draft s = .ok (a, rest) → StartsMembers first s rest
  | 0, _, _, _, _, h => by cases h
  | n + 1, first, draft, s, a, h => by
    obtain ⟨next, hnext, h⟩ := ok_of_bind h
    cases next with
    | error rest' =>
      dsimp only at h
      split at h
      · obtain ⟨-, rfl⟩ := Prod.mk.inj (Except.ok.inj h)
        exact startsMembers_end hnext
      · cases h
    | ok t =>
      obtain ⟨⟨key, u⟩, htext, h⟩ := ok_of_bind h
      dsimp only at h
      split at h
      · obtain ⟨w, hcolon, h⟩ := ok_of_bind h
        obtain ⟨more, hvalue, h⟩ := ok_of_bind h
        exact startsMembers_step hnext htext hcolon (skipValue_ok hvalue) (readMembers_ok hslots h)
      · rename_i slot hslot
        split at h
        · cases h
        · obtain ⟨w, hcolon, h⟩ := ok_of_bind h
          obtain ⟨⟨draft', more⟩, hvalue, h⟩ := ok_of_bind h
          have hstarts := hslots slot (List.mem_of_find?_eq_some hslot) draft hvalue
          exact startsMembers_step hnext htext hcolon hstarts (readMembers_ok hslots h)

/-- **A text that is accepted holds a map**, unless it holds a list. -/
theorem isObject_of_decode (hslots : ∀ slot ∈ shape.slots, ∀ draft, AcceptsValues (slot.read draft))
    {text : List Char} {a : α} (h : decode shape.read text = .ok a) :
    (∃ ms, IsObject ms text) ∨ (skipBlank text).head? = some '[' := by
  obtain ⟨⟨a', rest⟩, hread, hend⟩ := ok_of_bind h
  dsimp only at hend
  split at hend
  · rename_i hblank
    obtain ⟨after, hafter, hrest⟩ := exists_blanks hblank
    rw [List.append_nil] at hrest
    unfold read at hread
    split at hread
    · rename_i hskip
      obtain ⟨before, hbefore, htext⟩ := exists_blanks hskip
      obtain ⟨ms, t, hms, rfl⟩ := readMembers_ok hslots hread
      exact .inl ⟨ms, before, _, rest, hbefore, hrest ▸ hafter, .map hms, htext⟩
    · rename_i hskip
      exact .inr (by rw [hskip]; rfl)
    · cases hread
  · cases hend

end Shape

end Json
end RuleHarvest
