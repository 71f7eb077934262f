/-
# Written texts are read back

A text is written in quotation marks with some characters escaped. Each
character is read back from what is written for it (`readTextFrom_escape`), so
the reader gets to the closing quotation mark with the whole text
(`readText_escape`), and what follows is left as it is.

Key theorems: `readEscape_control`, `readTextFrom_escape`, `readText_escape`.
-/
import RuleHarvest.Json.Scalar
import RuleHarvest.Json.Value

namespace RuleHarvest
namespace Json

/-! ### Escapes -/

/-- A text has at least as many bytes as characters. -/
theorem length_le_encode : ∀ s : List Char, s.length ≤ (Text.Utf8.encode s).length
  | [] => Nat.le_refl 0
  | c :: s => by
    have ih := length_le_encode s
    have hpos : 0 < (String.utf8EncodeChar c).length :=
      List.length_pos_iff.2 String.utf8EncodeChar_ne_nil
    show s.length + 1 ≤ (String.utf8EncodeChar c ++ Text.Utf8.encode s).length
    rw [List.length_append]
    omega

theorem hexValue?_hexDigit : ∀ n < 16, hexValue? (hexDigit n) = some n := by decide

/-- The escape of a control character is read as the character. -/
theorem readEscape_control {c : Char} (hc : c.toNat < 32) (rest : List Char) :
    readEscape ('u' :: '0' :: '0' :: hexDigit (c.toNat / 16) :: hexDigit (c.toNat % 16) :: rest) =
      .ok (c, rest) := by
  have hbytes : 4 ≤ (Text.Utf8.encode ['0', '0', hexDigit (c.toNat / 16),
      hexDigit (c.toNat % 16)]).length := length_le_encode ['0', '0', _, _]
  have hhex : readHex ('0' :: '0' :: hexDigit (c.toNat / 16) :: hexDigit (c.toNat % 16) :: rest) =
      .ok (c.toNat, rest) := by
    have hzero : hexValue? '0' = some 0 := by decide
    have hvalue : ((0 * 16 + 0) * 16 + c.toNat / 16) * 16 + c.toNat % 16 = c.toNat := by omega
    rw [readHex, List.take_succ_cons, List.take_succ_cons, List.take_succ_cons, List.take_succ_cons,
      List.take_zero, if_neg (Nat.not_lt.2 hbytes)]
    simp only [hzero, hexValue?_hexDigit _ (show c.toNat / 16 < 16 by omega),
      hexValue?_hexDigit _ (show c.toNat % 16 < 16 by omega), hvalue]
  have hlow : isLowSurrogate c.toNat = false := by
    simp only [isLowSurrogate, Bool.and_eq_false_iff, decide_eq_false_iff_not]
    omega
  have hhigh : isHighSurrogate c.toNat = false := by
    simp only [isHighSurrogate, Bool.and_eq_false_iff, decide_eq_false_iff_not]
    omega
  simp only [readEscape, hhex, bind, Except.bind, hlow, hhigh, Bool.false_eq_true, if_false,
    Char.ofNat_toNat]

/-! ### Texts -/

/-- Characters that belong to an escape are passed over. -/
theorem readTextFrom_skip : ∀ (skipped rest : List Char),
    readTextFrom skipped.length (skipped ++ rest) = readTextFrom 0 rest
  | [], _ => rfl
  | c :: skipped, rest => by
    rw [List.length_cons, List.cons_append, readTextFrom, readTextFrom_skip skipped rest]

/-- As many characters as the rest is shorter by come before it. -/
theorem length_sub_rest (skipped rest : List Char) :
    (skipped ++ rest).length - rest.length = skipped.length := by
  rw [List.length_append, Nat.add_sub_cancel]

/-- What comes before the text that was read from the rest. -/
def withFirst (c : Char) (r : List Char × List Char) : List Char × List Char := (c :: r.1, r.2)

theorem readTextFrom_backslash {c : Char} {e rest : List Char}
    (h : readEscape (e ++ rest) = .ok (c, rest)) :
    readTextFrom 0 ('\\' :: (e ++ rest)) = (readTextFrom 0 rest).map (withFirst c) := by
  rw [readTextFrom, if_neg (by decide), if_pos rfl]
  simp only [h, bind, Except.bind, length_sub_rest, readTextFrom_skip]
  rcases readTextFrom 0 rest with fault | ⟨s, after⟩ <;> rfl

/-- **A character is read back** from what is written for it. -/
theorem readTextFrom_escape (c : Char) (rest : List Char) :
    readTextFrom 0 (escape c ++ rest) = (readTextFrom 0 rest).map (withFirst c) := by
  unfold escape
  split
  · exact readTextFrom_backslash (e := ['"']) rfl
  · exact readTextFrom_backslash (e := ['\\']) rfl
  · exact readTextFrom_backslash (e := ['b']) rfl
  · exact readTextFrom_backslash (e := ['f']) rfl
  · exact readTextFrom_backslash (e := ['n']) rfl
  · exact readTextFrom_backslash (e := ['r']) rfl
  · exact readTextFrom_backslash (e := ['t']) rfl
  · rename_i hquote hbackslash _ _ _ _ _
    split
    · rename_i hcontrol
      exact readTextFrom_backslash (readEscape_control hcontrol rest)
    · rename_i hcontrol
      rw [List.singleton_append, readTextFrom, if_neg hquote, if_neg hbackslash, if_neg hcontrol]
      rcases readTextFrom 0 rest with fault | ⟨s, after⟩ <;> rfl

/-- **A text is read back** up to its closing quotation mark. -/
theorem readText_escape (rest : List Char) : ∀ s : List Char,
    readText (s.flatMap escape ++ '"' :: rest) = .ok (s, rest)
  | [] => rfl
  | c :: s => by
    have ih : readTextFrom 0 (s.flatMap escape ++ '"' :: rest) = .ok (s, rest) :=
      readText_escape rest s
    show readTextFrom 0 _ = _
    rw [List.flatMap_cons, List.append_assoc, readTextFrom_escape, ih]
    rfl

end Json
end RuleHarvest
