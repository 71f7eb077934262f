/-
# Text written into a page

In a page `&` and `<` of a text are written as character references. Reading
the text up to the next tag gives it back (`lex_escape`), whatever else it
looks like: references and tags in it are not taken for such. Uniform line
ends may be made before or after the text is written (`normalizeLineEnds_escape`),
and they change no words (`runs_normalizeLineEnds`).

Key definitions: `escape`.
Key theorems: `expand_escape`, `lex_escape`, `normalizeLineEnds_append`,
`normalizeLineEnds_escape`, `runs_normalizeLineEnds`.
-/
import RuleHarvest.Html.Lexer
import RuleHarvest.Proofs.Text.Words

namespace RuleHarvest
namespace Html

/-- A character of text as it is written in a page. -/
def escapeChar (c : Char) : List Char :=
  if c = '&' then "&amp;".toList else if c = '<' then "&lt;".toList else [c]

/-- A text as it is written in a page. -/
def escape (s : List Char) : List Char := s.flatMap escapeChar

theorem escape_cons (c : Char) (s : List Char) : escape (c :: s) = escapeChar c ++ escape s :=
  List.flatMap_cons

theorem escapeChar_ne_nil (c : Char) : escapeChar c ≠ [] := by
  unfold escapeChar
  split
  · decide
  · split
    · decide
    · simp

/-! ### Reading it back -/

theorem reference_amp (s : List Char) :
    reference? false ("amp;".toList ++ s) = some (['&'], 4) := by
  rfl

theorem reference_lt (s : List Char) : reference? false ("lt;".toList ++ s) = some (['<'], 3) := by
  rfl

theorem expandFrom_skip (a s : List Char) :
    expandFrom false a.length (a ++ s) = expandFrom false 0 s := by
  induction a with
  | nil => rfl
  | cons c a ih => exact ih

/-- **A written text with its references replaced is the text.** -/
theorem expand_escape (s : List Char) : expand false (escape s) = s := by
  unfold expand
  induction s with
  | nil => rfl
  | cons c s ih =>
    rw [escape_cons]
    by_cases hamp : c = '&'
    · have hskip := expandFrom_skip "amp;".toList (escape s)
      rw [hamp]
      change expandFrom false 0 ('&' :: ("amp;".toList ++ escape s)) = '&' :: s
      rw [expandFrom, if_pos rfl, reference_amp]
      exact congrArg ('&' :: ·) (hskip.trans ih)
    · by_cases hlt : c = '<'
      · have hskip := expandFrom_skip "lt;".toList (escape s)
        rw [hlt]
        change expandFrom false 0 ('&' :: ("lt;".toList ++ escape s)) = '<' :: s
        rw [expandFrom, if_pos rfl, reference_lt]
        exact congrArg ('<' :: ·) (hskip.trans ih)
      · have hchar : escapeChar c = [c] := by
          unfold escapeChar
          rw [if_neg hamp, if_neg hlt]
        rw [hchar, List.singleton_append, expandFrom, if_neg hamp, ih]

theorem lt_not_mem_escape (s : List Char) : '<' ∉ escape s := by
  intro h
  obtain ⟨d, -, hc⟩ := List.mem_flatMap.1 h
  unfold escapeChar at hc
  split at hc
  · revert hc
    decide
  · split at hc
    · revert hc
      decide
    · rename_i hd
      exact hd (List.mem_singleton.1 hc).symm

/-- **A written text up to the next tag is one token, the text.** -/
theorem lex_escape {s : List Char} (hs : s ≠ []) (foreign : Bool) (rest : List Char) :
    lex .markup foreign (escape s ++ '<' :: rest) = ⟨some (.text s), (escape s).length⟩ := by
  have hrun : (escape s ++ '<' :: rest).takeWhile (· ≠ '<') = escape s := by
    rw [List.takeWhile_append_of_pos]
    · simp
    · exact fun c hc => decide_eq_true fun heq => lt_not_mem_escape s (heq ▸ hc)
  have hne : (escape s).isEmpty = false := by
    obtain ⟨c, s, rfl⟩ := List.exists_cons_of_ne_nil hs
    rw [escape_cons]
    simp [escapeChar_ne_nil]
  unfold lex
  dsimp only
  rw [hrun, hne, expand_escape]
  rfl

/-! ### Line ends -/

theorem normalizeLineEnds_cr {s : List Char} (h : s.head? ≠ some '\n') :
    normalizeLineEnds ('\r' :: s) = '\n' :: normalizeLineEnds s :=
  normalizeLineEnds.eq_3 s fun cs hcs => h (by rw [hcs]; rfl)

theorem normalizeLineEnds_cons {c : Char} (h : c ≠ '\r') (s : List Char) :
    normalizeLineEnds (c :: s) = c :: normalizeLineEnds s :=
  normalizeLineEnds.eq_4 c s (fun _ hc => absurd hc h) h

/-- Text without a carriage return stays as it is. -/
theorem normalizeLineEnds_of_no_cr {a : List Char} (h : '\r' ∉ a) (b : List Char) :
    normalizeLineEnds (a ++ b) = a ++ normalizeLineEnds b := by
  induction a with
  | nil => rfl
  | cons c a ih =>
    have hc : c ≠ '\r' := fun hc => h (hc ▸ List.mem_cons_self)
    rw [List.cons_append, normalizeLineEnds_cons hc, ih fun hmem => h (List.mem_cons_of_mem _ hmem),
      List.cons_append]

/-- Line ends on both sides of a cut are made uniform apart, if the cut is not
inside one. -/
theorem normalizeLineEnds_append {b : List Char} (hb : b.head? ≠ some '\n') (a : List Char) :
    normalizeLineEnds (a ++ b) = normalizeLineEnds a ++ normalizeLineEnds b := by
  induction a using normalizeLineEnds.induct with
  | case1 => rfl
  | case2 cs ih =>
    rw [normalizeLineEnds, List.cons_append, List.cons_append, normalizeLineEnds, ih,
      List.cons_append]
  | case3 cs hcs ih =>
    have hhead : (cs ++ b).head? ≠ some '\n' := by
      rcases cs with _ | ⟨d, cs⟩
      · exact hb
      · rintro ⟨⟩
        exact hcs cs rfl
    rw [normalizeLineEnds.eq_3 cs hcs, List.cons_append, normalizeLineEnds_cr hhead, ih,
      List.cons_append]
  | case4 c cs _ hc ih =>
    rw [List.cons_append, normalizeLineEnds_cons hc, normalizeLineEnds_cons hc, ih,
      List.cons_append]

theorem head?_escape {s : List Char} (h : s.head? ≠ some '\n') : (escape s).head? ≠ some '\n' := by
  rcases s with _ | ⟨c, s⟩
  · simp [escape]
  · rw [escape_cons, escapeChar]
    split
    · change some '&' ≠ some '\n'
      decide
    · split
      · change some '&' ≠ some '\n'
        decide
      · exact h

theorem cr_not_mem_escapeChar {c : Char} (hc : c ≠ '\r') : '\r' ∉ escapeChar c := by
  intro h
  unfold escapeChar at h
  split at h
  · revert h
    decide
  · split at h
    · revert h
      decide
    · exact hc (List.mem_singleton.1 h).symm

/-- Line ends made uniform are the same before and after a text is written. -/
theorem normalizeLineEnds_escape (s : List Char) :
    normalizeLineEnds (escape s) = escape (normalizeLineEnds s) := by
  induction s using normalizeLineEnds.induct with
  | case1 => rfl
  | case2 cs ih =>
    rw [normalizeLineEnds.eq_2]
    change normalizeLineEnds ('\r' :: '\n' :: escape cs) = '\n' :: escape (normalizeLineEnds cs)
    rw [normalizeLineEnds.eq_2, ih]
  | case3 cs hcs ih =>
    have hhead : cs.head? ≠ some '\n' := by
      rcases cs with _ | ⟨d, cs⟩
      · simp
      · rintro ⟨⟩
        exact hcs cs rfl
    rw [normalizeLineEnds.eq_3 cs hcs]
    change normalizeLineEnds ('\r' :: escape cs) = '\n' :: escape (normalizeLineEnds cs)
    rw [normalizeLineEnds_cr (head?_escape hhead), ih]
  | case4 c cs _ hc ih =>
    rw [normalizeLineEnds_cons hc, escape_cons, escape_cons,
      normalizeLineEnds_of_no_cr (cr_not_mem_escapeChar hc), ih]

/-- Uniform line ends change no runs of other characters. -/
theorem runs_normalizeLineEnds {p : Char → Bool} (hcr : p '\r' = false) (hlf : p '\n' = false)
    (s : List Char) : Text.runs p (normalizeLineEnds s) = Text.runs p s := by
  -- a run may have begun before `s`
  have hrun : ∀ a, Text.runs p (a ++ normalizeLineEnds s) = Text.runs p (a ++ s) := by
    induction s using normalizeLineEnds.induct with
    | case1 => exact fun a => rfl
    | case2 cs ih =>
      intro a
      rw [normalizeLineEnds, Text.runs_append_cut hlf, Text.runs_append_cut hcr,
        Text.runs_cons_cut hlf]
      exact congrArg _ (ih [])
    | case3 cs hcs ih =>
      intro a
      rw [normalizeLineEnds.eq_3 cs hcs, Text.runs_append_cut hlf, Text.runs_append_cut hcr]
      exact congrArg _ (ih [])
    | case4 c cs _ hc ih =>
      intro a
      have := ih (a ++ [c])
      rw [normalizeLineEnds_cons hc]
      simpa using this
  exact hrun []

end Html
end RuleHarvest
