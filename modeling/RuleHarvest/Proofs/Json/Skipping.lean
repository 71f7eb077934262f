/-
# Whole values are skipped

A member with an unknown name is skipped up to the end of its value. The skipping
keeps a list of the brackets that are open and goes round once for each value in
it, while the grammar nests values in each other. Both are taken together by
induction on how the value is written: a value takes some rounds, no more than it
has characters, and leaves the brackets as they were (`Skips`). What a list or map
takes is one round and the rounds of what is in it.

Key definitions: `resume`, `Skips`.
Key theorems: `skipNumber_unsigned`, `Written.skips`, `skipValue_written`.
-/
import RuleHarvest.Proofs.Json.Grammar

namespace RuleHarvest
namespace Json

variable {rest : List Char}

/-! ### Numbers -/

theorem dropWhile_digits {digits rest : List Char} (h : ∀ c ∈ digits, c.isDigit = true)
    (hrest : NoDigit rest) : (digits ++ rest).dropWhile Char.isDigit = rest := by
  rw [List.dropWhile_append_of_pos h]
  rcases rest with _ | ⟨c, rest⟩
  · rfl
  · exact List.dropWhile_cons_of_neg (by simp [hrest c rfl])

theorem skipExponent_digits {sign digits : List Char}
    (hsign : sign = [] ∨ sign = ['-'] ∨ sign = ['+']) (h : IsDigits digits) (hrest : NoDigit rest) :
    skipExponent (sign ++ digits ++ rest) = .ok rest := by
  obtain ⟨hne, hdigits⟩ := h
  obtain ⟨d, ds, rfl⟩ := List.exists_cons_of_ne_nil hne
  obtain ⟨hd, hds⟩ := List.forall_mem_cons.1 hdigits
  have hdrop : (ds ++ rest).dropWhile Char.isDigit = rest := dropWhile_digits hds hrest
  rcases hsign with rfl | rfl | rfl
  · rw [List.nil_append, List.cons_append]
    unfold skipExponent
    split
    · rename_i heq
      exact absurd (List.cons.inj heq).1 (ne_of_isDigit hd rfl)
    · rename_i heq
      exact absurd (List.cons.inj heq).1 (ne_of_isDigit hd rfl)
    · simp only [hd, if_true, hdrop]
  · simp only [skipExponent, List.cons_append, List.nil_append, hd, if_true, hdrop]
  · simp only [skipExponent, List.cons_append, List.nil_append, hd, if_true, hdrop]

theorem skipFraction_digits {digits exponent : List Char} (h : IsDigits digits)
    (hexponent : IsExponent exponent) (hrest : IsEnded rest) :
    skipFraction (digits ++ (exponent ++ rest)) = .ok rest := by
  obtain ⟨hne, hdigits⟩ := h
  have hnext : NoDigit (exponent ++ rest) := by
    cases hexponent with
    | none => exact hrest.noDigit
    | some he hsign h =>
      rintro c ⟨⟩
      rcases he with rfl | rfl <;> rfl
  have hdrop := dropWhile_digits hdigits hnext
  obtain ⟨d, ds, rfl⟩ := List.exists_cons_of_ne_nil hne
  have hfirst : (d :: ds ++ (exponent ++ rest)).head?.any Char.isDigit = true :=
    hdigits d List.mem_cons_self
  rw [skipFraction, if_pos hfirst, hdrop]
  cases hexponent with
  | none =>
    rw [List.nil_append]
    split
    · exact absurd hrest (not_isEnded (by decide))
    · exact absurd hrest (not_isEnded (by decide))
    · rfl
  | some he hsign h =>
    rcases he with rfl | rfl
    · exact skipExponent_digits hsign h hrest.noDigit
    · exact skipExponent_digits hsign h hrest.noDigit

/-- The rest of a number behind its whole part. -/
def skipTail (s : List Char) : Except Fault (List Char) :=
  match s with
  | '.' :: cs => skipFraction cs
  | 'e' :: cs | 'E' :: cs => skipExponent cs
  | _ => .ok s

theorem skipNumber_zero {s : List Char} (h : NoDigit s) : skipNumber ('0' :: s) = skipTail s := by
  have hnone : ¬ s.head?.any Char.isDigit = true := by
    cases s with
    | nil => simp
    | cons c s => simp [h c rfl]
  simp only [skipNumber, if_neg hnone]
  rfl

theorem skipNumber_digits {digits s : List Char} (h : IsDigits digits)
    (hfirst : digits.head? ≠ some '0') (hs : NoDigit s) : skipNumber (digits ++ s) = skipTail s := by
  obtain ⟨hne, hdigits⟩ := h
  have hdrop := dropWhile_digits hdigits hs
  obtain ⟨d, ds, rfl⟩ := List.exists_cons_of_ne_nil hne
  rw [List.cons_append] at hdrop ⊢
  unfold skipNumber
  dsimp only
  split
  · rename_i heq
    cases heq
  · rename_i heq
    exact absurd (congrArg some (List.cons.inj heq).1) hfirst
  · rename_i heq
    obtain ⟨rfl, rfl⟩ := List.cons.inj heq
    rw [if_pos (hdigits _ List.mem_cons_self), hdrop]
    rfl

theorem skipTail_parts {fraction exponent : List Char} (hfraction : IsFraction fraction)
    (hexponent : IsExponent exponent) (hrest : IsEnded rest) :
    skipTail (fraction ++ (exponent ++ rest)) = .ok rest := by
  cases hfraction with
  | some h => exact skipFraction_digits h hexponent hrest
  | none =>
    cases hexponent with
    | some he hsign h =>
      rcases he with rfl | rfl
      · exact skipExponent_digits hsign h hrest.noDigit
      · exact skipExponent_digits hsign h hrest.noDigit
    | none =>
      rw [List.nil_append, List.nil_append]
      unfold skipTail
      split
      · exact absurd hrest (not_isEnded (by decide))
      · exact absurd hrest (not_isEnded (by decide))
      · exact absurd hrest (not_isEnded (by decide))
      · rfl

/-- What follows the whole part of a number is no digit. -/
theorem noDigit_parts {fraction exponent : List Char} (hfraction : IsFraction fraction)
    (hexponent : IsExponent exponent) (hrest : IsEnded rest) :
    NoDigit (fraction ++ (exponent ++ rest)) := by
  cases hfraction with
  | some h =>
    rintro c ⟨⟩
    rfl
  | none =>
    cases hexponent with
    | none => exact hrest.noDigit
    | some he hsign h =>
      rintro c ⟨⟩
      rcases he with rfl | rfl <;> rfl

/-- **A number is skipped** up to what ends it. -/
theorem skipNumber_unsigned {s : List Char} (h : IsUnsigned s) (hrest : IsEnded rest) :
    skipNumber (s ++ rest) = .ok rest := by
  obtain ⟨hwhole, hfraction, hexponent⟩ := h
  have htail := skipTail_parts hfraction hexponent hrest
  have hnext := noDigit_parts hfraction hexponent hrest
  rw [List.append_assoc, List.append_assoc]
  rcases hwhole with rfl | ⟨hdigits, hfirst⟩
  · exact (skipNumber_zero hnext).trans htail
  · exact (skipNumber_digits hdigits hfirst hnext).trans htail

/-! ### Rounds -/

/-- A value that opens no bracket. -/
def Raw.IsScalar : Raw → Prop
  | .word _ | .number .. | .text _ => True
  | .list _ | .map _ => False

theorem skipScalar?_digit {c : Char} (hc : c.isDigit = true) (s : List Char) :
    skipScalar? (c :: s) = (skipNumber (c :: s)).map some := by
  unfold skipScalar?
  split
  case h_9 heq =>
    obtain ⟨rfl, rfl⟩ := List.cons.inj heq
    exact if_pos hc
  all_goals
    rename_i heq
    cases heq
  all_goals cases hc

theorem skipScalar?_written {v : Raw} {s : List Char} (h : Written (.value v) s) (hv : v.IsScalar)
    (hrest : IsEnded rest) : skipScalar? (s ++ rest) = .ok (some rest) := by
  cases h with
  | word w => cases w <;> rfl
  | @number s hnumber =>
    rcases hnumber with hunsigned | ⟨s', hunsigned, rfl⟩
    · have hskip := skipNumber_unsigned hunsigned hrest
      obtain ⟨c, cs, rfl, hc⟩ := hunsigned.exists_digit
      rw [List.cons_append] at hskip ⊢
      rw [skipScalar?_digit hc, hskip]
      rfl
    · have hskip := skipNumber_unsigned hunsigned hrest
      rw [List.cons_append, skipScalar?, hskip]
      rfl
  | text ps =>
    rw [quoted_append, skipScalar?, skipText_pieces]
    rfl
  | list => exact hv.elim
  | map => exact hv.elim

/-- What skipping comes to that goes on behind a value, or behind a bracket that
opens, with so many rounds. -/
def resume (n : Nat) (brackets : List Bracket) (afterValue : Bool) (s : List Char) :
    Except Fault (List Char) :=
  match skipAhead brackets afterValue s with
  | .error e => .error e
  | .ok (.finished rest) => .ok rest
  | .ok (.value brackets rest) => skipRounds n brackets rest

theorem resume_value {n : Nat} {brackets : List Bracket} {afterValue : Bool} {s t : List Char}
    (h : skipAhead brackets afterValue s = .ok (.value brackets t)) :
    resume n brackets afterValue s = skipRounds n brackets t := by
  rw [resume, h]

/-- A round at a value that opens no bracket. -/
theorem skipRounds_scalar {n : Nat} {brackets : List Bracket} {s : List Char}
    (h : skipScalar? (skipBlank s) = .ok (some rest)) :
    skipRounds (n + 1) brackets s = resume n brackets true rest := by
  simp only [skipRounds, h, bind, Except.bind, resume]
  rcases skipAhead brackets true rest with e | ⟨_ | _⟩ <;> rfl

/-- A round at a bracket. -/
theorem skipRounds_list {n : Nat} {brackets : List Bracket} {blanks : List Char}
    (h : AllBlank blanks) (s : List Char) :
    skipRounds (n + 1) brackets (blanks ++ '[' :: s) = resume n (.list :: brackets) false s := by
  have hskip : skipBlank (blanks ++ '[' :: s) = '[' :: s := skipBlank_to h rfl s
  have hscalar : skipScalar? ('[' :: s) = .ok none := rfl
  have hdrop : List.drop 1 ('[' :: s) = s := rfl
  simp only [skipRounds, hskip, hscalar, hdrop, List.head?_cons, if_true, bind, Except.bind, resume]
  rcases skipAhead (.list :: brackets) false s with e | ⟨_ | _⟩ <;> rfl

theorem skipRounds_map {n : Nat} {brackets : List Bracket} {blanks : List Char}
    (h : AllBlank blanks) (s : List Char) :
    skipRounds (n + 1) brackets (blanks ++ '\x7b' :: s) = resume n (.map :: brackets) false s := by
  have hskip : skipBlank (blanks ++ '\x7b' :: s) = '\x7b' :: s := skipBlank_to h rfl s
  have hscalar : skipScalar? ('\x7b' :: s) = .ok none := rfl
  have hopen : ¬ (some '\x7b' = some '[') := by decide
  have hdrop : List.drop 1 ('\x7b' :: s) = s := rfl
  simp only [skipRounds, hskip, hscalar, hdrop, List.head?_cons, if_neg hopen, bind, Except.bind,
    resume]
  rcases skipAhead (.map :: brackets) false s with e | ⟨_ | _⟩ <;> rfl

/-- A bracket closes, and the next outer one goes on. -/
theorem resume_close {n : Nat} (b : Bracket) {outer : List Bracket} {afterValue : Bool}
    {blanks : List Char} (h : AllBlank blanks) (s : List Char) :
    resume n (b :: outer) afterValue (blanks ++ b.closing :: s) = resume n outer true s := by
  have hskip : skipBlank (blanks ++ b.closing :: s) = b.closing :: s := by
    cases b <;> exact skipBlank_to h rfl s
  have hcomma : ¬ (b.closing = ',' && afterValue) = true := by
    cases b <;> simp [Bracket.closing]
  have hahead : skipAhead (b :: outer) afterValue (blanks ++ b.closing :: s) =
      skipAhead outer true s := by
    rw [skipAhead, hskip]
    dsimp only
    rw [if_neg hcomma, if_pos rfl]
  rw [resume, resume, hahead]

/-- The name of a member is skipped, up to behind its colon. -/
theorem skipKey_member {blanks before : List Char} (hblanks : AllBlank blanks)
    (hbefore : AllBlank before) (name : List Piece) (s : List Char) :
    skipKey (blanks ++ (quoted name ++ (before ++ ':' :: s))) = .ok s := by
  have hskip : skipBlank (blanks ++ (quoted name ++ (before ++ ':' :: s))) =
      '"' :: (name.flatMap Piece.chars ++ '"' :: (before ++ ':' :: s)) := by
    rw [quoted_append]
    exact skipBlank_to hblanks rfl _
  have hcolon : skipBlank (before ++ ':' :: s) = ':' :: s := skipBlank_to hbefore rfl s
  simp only [skipKey, hskip, skipText_pieces, bind, Except.bind, hcolon]

/-- Where the value of an entry begins in a bracket. -/
def valueIn (b : Bracket) (s : List Char) : Except Fault (List Char) :=
  if b = .map then skipKey s else .ok s

theorem skipAhead_first {b : Bracket} {outer : List Bracket} {s cs : List Char} {c : Char}
    (h : skipBlank s = c :: cs) (hc : c ≠ b.closing) :
    skipAhead (b :: outer) false s = (valueIn b (c :: cs)).map (.value (b :: outer)) := by
  rw [skipAhead, h]
  simp only [Bool.and_false, Bool.false_eq_true, if_false, if_neg hc]
  cases b with
  | list => rfl
  | map =>
    simp only [valueIn, if_true, bind, Except.bind]
    cases skipKey (c :: cs) <;> rfl

theorem skipAhead_comma {b : Bracket} {outer : List Bracket} {s cs : List Char}
    (h : skipBlank s = ',' :: cs) :
    skipAhead (b :: outer) true s = (valueIn b cs).map (.value (b :: outer)) := by
  rw [skipAhead, h]
  simp only [decide_true, Bool.and_true, if_true]
  cases b with
  | list => rfl
  | map =>
    simp only [valueIn, if_true, bind, Except.bind]
    cases skipKey cs <;> rfl

/-- From behind a gap the next value of a list is gone to. -/
theorem resume_item (n : Nat) (outer : List Bracket) {first : Bool} {gap s : List Char}
    (hgap : IsGap first gap) (hs : StartsItem s) (rest : List Char) : ∃ blanks, AllBlank blanks ∧
      resume n (.list :: outer) (!first) (gap ++ (s ++ rest)) =
        skipRounds n (.list :: outer) (blanks ++ (s ++ rest)) := by
  cases first with
  | true =>
    obtain ⟨c, cs, rfl, hc, -, hend⟩ := hs
    have hskip : skipBlank (gap ++ (c :: cs ++ rest)) = c :: (cs ++ rest) := skipBlank_to hgap hc _
    exact ⟨[], allBlank_nil, resume_value (skipAhead_first hskip hend)⟩
  | false =>
    obtain ⟨before, after, hbefore, hafter, rfl⟩ := hgap
    have hskip : skipBlank (before ++ ',' :: after ++ (s ++ rest)) =
        ',' :: (after ++ (s ++ rest)) := by
      rw [List.append_assoc]
      exact skipBlank_to hbefore rfl _
    exact ⟨after, hafter, resume_value (skipAhead_comma hskip)⟩

/-- From behind a gap the value of the next member of a map is gone to. -/
theorem resume_member (n : Nat) (outer : List Bracket) {first : Bool} {gap before : List Char}
    (hgap : IsGap first gap) (hbefore : AllBlank before) (name : List Piece) (s : List Char) :
    resume n (.map :: outer) (!first) (gap ++ (quoted name ++ (before ++ ':' :: s))) =
      skipRounds n (.map :: outer) s := by
  refine resume_value ?_
  cases first with
  | true =>
    have hskip : skipBlank (gap ++ (quoted name ++ (before ++ ':' :: s))) =
        '"' :: (name.flatMap Piece.chars ++ '"' :: (before ++ ':' :: s)) := by
      rw [quoted_append]
      exact skipBlank_to hgap rfl _
    have hkey : skipKey (quoted name ++ (before ++ ':' :: s)) = .ok s :=
      skipKey_member allBlank_nil hbefore name s
    rw [quoted_append] at hkey
    have hvalue : valueIn .map ('"' :: (name.flatMap Piece.chars ++ '"' :: (before ++ ':' :: s))) =
        .ok s := hkey
    rw [Bool.not_true, skipAhead_first hskip (by decide), hvalue]
    rfl
  | false =>
    obtain ⟨blanks, after, hblanks, hafter, rfl⟩ := hgap
    have hskip : skipBlank (blanks ++ ',' :: after ++ (quoted name ++ (before ++ ':' :: s))) =
        ',' :: (after ++ (quoted name ++ (before ++ ':' :: s))) := by
      rw [List.append_assoc]
      exact skipBlank_to hblanks rfl _
    have hvalue : valueIn .map (after ++ (quoted name ++ (before ++ ':' :: s))) = .ok s :=
      skipKey_member hafter hbefore name s
    rw [Bool.not_false, skipAhead_comma hskip, hvalue]
    rfl

/-! ### Values -/

/-- A part is skipped in some rounds, no more than it has characters. A value leaves
the brackets as they were; what follows a bracket closes it. -/
def Skips : Part → List Char → Prop
  | .value _, s => ∃ rounds ≤ s.length, ∀ n brackets blanks rest, AllBlank blanks → IsEnded rest →
      skipRounds (rounds + n) brackets (blanks ++ (s ++ rest)) = resume n brackets true rest
  | .items first _, s => ∃ rounds < s.length, ∀ n outer rest,
      resume (rounds + n) (.list :: outer) (!first) (s ++ rest) = resume n outer true rest
  | .members first _, s => ∃ rounds < s.length, ∀ n outer rest,
      resume (rounds + n) (.map :: outer) (!first) (s ++ rest) = resume n outer true rest

theorem skips_scalar {v : Raw} {s : List Char} (h : Written (.value v) s) (hv : v.IsScalar) :
    Skips (.value v) s := by
  obtain ⟨c, cs, rfl, hc, -, -⟩ := h.startsItem
  refine ⟨1, Nat.succ_le_succ (Nat.zero_le _), fun n brackets blanks rest hblanks hrest => ?_⟩
  have hscalar := skipScalar?_written h hv hrest
  rw [Nat.add_comm]
  refine skipRounds_scalar ?_
  rw [List.cons_append] at hscalar ⊢
  rw [skipBlank_to hblanks hc, hscalar]

/-- **A part that is written is skipped.** -/
theorem Written.skips {part : Part} {s : List Char} (h : Written part s) : Skips part s := by
  induction h with
  | word w => exact skips_scalar (.word w) trivial
  | number h => exact skips_scalar (.number h) trivial
  | text ps => exact skips_scalar (.text ps) trivial
  | @list vs s h ih =>
    obtain ⟨rounds, hlength, hskip⟩ := ih
    refine ⟨rounds + 1, Nat.succ_le_succ (Nat.le_of_lt hlength),
      fun n brackets blanks rest hb _ => ?_⟩
    rw [List.cons_append, Nat.add_right_comm, skipRounds_list hb]
    exact hskip n brackets rest
  | @map ms s h ih =>
    obtain ⟨rounds, hlength, hskip⟩ := ih
    refine ⟨rounds + 1, Nat.succ_le_succ (Nat.le_of_lt hlength),
      fun n brackets blanks rest hb _ => ?_⟩
    rw [List.cons_append, Nat.add_right_comm, skipRounds_map hb]
    exact hskip n brackets rest
  | noItems hblanks =>
    refine ⟨0, by simp, fun n outer rest => ?_⟩
    rw [List.append_assoc, Nat.zero_add]
    exact resume_close .list hblanks rest
  | @item first gap v s vs others hgap hvalue hothers ihvalue ihothers =>
    obtain ⟨rounds, hlength, hskip⟩ := ihvalue
    obtain ⟨rounds', hlength', hskip'⟩ := ihothers
    refine ⟨rounds + rounds', ?_, fun n outer rest => ?_⟩
    · simp only [List.length_append]
      omega
    · obtain ⟨blanks, hblanks, hresume⟩ :=
        resume_item (rounds + rounds' + n) outer hgap hvalue.startsItem (others ++ rest)
      rw [List.append_assoc, List.append_assoc, hresume, Nat.add_assoc,
        hskip _ _ _ _ hblanks (hothers.isEnded_items rest)]
      exact hskip' n outer rest
  | noMembers hblanks =>
    refine ⟨0, by simp, fun n outer rest => ?_⟩
    rw [List.append_assoc, Nat.zero_add]
    exact resume_close .map hblanks rest
  | @member first gap name before after v s ms others hgap hbefore hafter hvalue hothers ihvalue
      ihothers =>
    obtain ⟨rounds, hlength, hskip⟩ := ihvalue
    obtain ⟨rounds', hlength', hskip'⟩ := ihothers
    refine ⟨rounds + rounds', ?_, fun n outer rest => ?_⟩
    · simp only [List.length_append, List.length_cons]
      omega
    · have hresume := resume_member (rounds + rounds' + n) outer hgap hbefore name
        (after ++ (s ++ (others ++ rest)))
      simp only [List.append_assoc, List.cons_append] at hresume ⊢
      rw [hresume, Nat.add_assoc, hskip _ _ _ _ hafter (hothers.isEnded_members rest)]
      exact hskip' n outer rest

/-- **A value is skipped** up to what follows it, with blanks before it or not. -/
theorem skipValue_written {v : Raw} {s : List Char} (h : Written (.value v) s) {blanks : List Char}
    (hblanks : AllBlank blanks) (hrest : IsEnded rest) :
    skipValue (blanks ++ (s ++ rest)) = .ok rest := by
  obtain ⟨rounds, hlength, hskip⟩ := h.skips
  obtain ⟨n, hn⟩ : ∃ n, (blanks ++ (s ++ rest)).length + 1 = rounds + n := by
    refine Nat.exists_eq_add_of_le ?_
    simp only [List.length_append]
    omega
  rw [skipValue, hn, hskip n [] blanks rest hblanks hrest]
  rfl

end Json
end RuleHarvest
