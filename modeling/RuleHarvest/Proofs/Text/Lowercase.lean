/-
# Lower case of letters

The lower case of a letter or digit is one letter or digit, which is its own
lower case (`lowercase_of_isAlphanumeric`). There is one exception: the capital
I with a dot above, U+0130, becomes `i` and the combining dot U+0307, which is
no letter. So the combining dot comes from this letter only, and no letter
becomes U+0130 (`dot_mem_lowercase_iff`, `dotted_not_mem_lowercase`).

The table of capital letters is checked run by run (`caseRuns_checked`). A run
is mapped into one range of letters, and what it is mapped to is mapped by no
run: the code points of the two lie apart, or both go in steps of two and one is
even where the other is odd. Characters of ASCII are few and are checked one by
one.

Key definitions: `rangeWithin`, `CaseRun.misses`, `IsImage`.
Key theorems: `IsImage.isAlphanumeric`, `IsImage.lowercase`,
`lowercase_of_isAlphanumeric`, `dot_mem_lowercase_iff`.
-/
import RuleHarvest.Rule.Key

namespace RuleHarvest
namespace Text

/-! ### Ranges and runs

The checks compare numbers with `Nat.ble` and `Nat.blt`, which the kernel
computes at once. -/

/-- The code points from `first` to `last` lie in one of the ranges. -/
def rangeWithin (first last : Nat) : List (Nat × Nat) → Bool
  | [] => false
  | (low, high) :: rest =>
    Nat.ble low first && (Nat.ble last high || (Nat.blt high first && rangeWithin first last rest))

theorem inRanges_of_rangeWithin {first last n : Nat} (hfirst : first ≤ n) (hlast : n ≤ last) :
    ∀ {ranges : List (Nat × Nat)}, rangeWithin first last ranges = true → inRanges ranges n = true
  | [], h => h
  | (low, high) :: rest, h => by
    simp only [rangeWithin, Bool.and_eq_true, Bool.or_eq_true, Nat.ble_eq, Nat.blt_eq] at h
    obtain ⟨hlow, hhigh | ⟨hhigh, hrest⟩⟩ := h
    · rw [inRanges, if_neg (by omega), if_pos (by omega)]
    · rw [inRanges, if_neg (by omega), if_neg (by omega)]
      exact inRanges_of_rangeWithin hfirst hlast hrest

namespace CaseRun

/-- The last code point that a run is mapped to. -/
def lastImage (r : CaseRun) : Nat := r.image + (r.last - r.first)

/-- What the run `r` is mapped to is not mapped by the run `q`. -/
def misses (r q : CaseRun) : Bool :=
  Nat.blt q.last r.image || Nat.blt r.lastImage q.first ||
    ((Nat.beq (r.step % 2) 0 || Nat.beq r.first r.last) && Nat.beq q.step 2 &&
      Nat.beq ((r.image + q.first) % 2) 1)

/-- What a run is mapped to goes in its steps. -/
theorem apply_sub_even {r : CaseRun} {n : Nat} (h : r.step % 2 = 0 ∨ r.first = r.last)
    (hn : r.maps n = true) : (r.apply n - r.image) % 2 = 0 := by
  simp only [maps, Bool.and_eq_true, decide_eq_true_eq, beq_iff_eq] at hn
  obtain ⟨⟨hfirst, hlast⟩, hstep⟩ := hn
  rw [apply, Nat.add_sub_cancel_left]
  rcases h with heven | hsingle
  · exact Nat.mod_eq_zero_of_dvd
      (Nat.dvd_trans (Nat.dvd_of_mod_eq_zero heven) (Nat.dvd_of_mod_eq_zero hstep))
  · omega

theorem apply_bounds {r : CaseRun} {n : Nat} (hn : r.maps n = true) :
    r.image ≤ r.apply n ∧ r.apply n ≤ r.lastImage := by
  simp only [maps, Bool.and_eq_true, decide_eq_true_eq] at hn
  unfold apply lastImage
  omega

theorem not_maps_of_misses {r q : CaseRun} {n : Nat} (h : r.misses q = true)
    (hn : r.maps n = true) : q.maps (r.apply n) = false := by
  have hbounds := apply_bounds hn
  refine Bool.eq_false_iff.2 fun hq => ?_
  simp only [maps, Bool.and_eq_true, decide_eq_true_eq, beq_iff_eq] at hq
  simp only [misses, Bool.and_eq_true, Bool.or_eq_true, Nat.blt_eq, Nat.beq_eq] at h
  obtain ⟨⟨hfirst, hlast⟩, hstep⟩ := hq
  rcases h with (hbelow | habove) | ⟨⟨hsteps, htwo⟩, hparity⟩
  · omega
  · omega
  · have heven := apply_sub_even hsteps hn
    rw [htwo] at hstep
    omega

end CaseRun

/-- The table maps every run to letters that it does not map again and that are
not U+0130. -/
theorem caseRuns_checked : (caseRuns.all fun r =>
    rangeWithin r.image r.lastImage alphanumericRanges && caseRuns.all r.misses &&
      (Nat.blt r.lastImage 0xD800 || (Nat.blt 0xDFFF r.image && Nat.blt r.lastImage 0x110000)) &&
      (Nat.blt r.lastImage 0x130 || Nat.blt 0x130 r.image)) = true := by
  decide +kernel

/-! ### Images -/

/-- A code point that a capital letter is mapped to. -/
def IsImage (n : Nat) : Prop := ∃ r ∈ caseRuns, ∃ m, r.maps m = true ∧ n = r.apply m

namespace IsImage

variable {n : Nat}

theorem toNat_ofNat (h : IsImage n) : (Char.ofNat n).toNat = n := by
  obtain ⟨r, hr, m, hm, rfl⟩ := h
  have hchecked := List.all_eq_true.1 caseRuns_checked r hr
  have hbounds := r.apply_bounds hm
  simp only [Bool.and_eq_true, Bool.or_eq_true, Nat.blt_eq] at hchecked
  have hvalid : (r.apply m).isValidChar := by
    rcases hchecked.1.2 with hlow | hhigh
    · exact .inl (by omega)
    · exact .inr (by omega)
  rw [Char.ofNat, dif_pos hvalid]
  rfl

theorem inRanges (h : IsImage n) : Text.inRanges alphanumericRanges n = true := by
  obtain ⟨r, hr, m, hm, rfl⟩ := h
  have hchecked := List.all_eq_true.1 caseRuns_checked r hr
  have hbounds := r.apply_bounds hm
  simp only [Bool.and_eq_true] at hchecked
  exact inRanges_of_rangeWithin hbounds.1 hbounds.2 hchecked.1.1.1

theorem not_maps (h : IsImage n) : ∀ q ∈ caseRuns, q.maps n = false := by
  obtain ⟨r, hr, m, hm, rfl⟩ := h
  have hchecked := List.all_eq_true.1 caseRuns_checked r hr
  simp only [Bool.and_eq_true, List.all_eq_true] at hchecked
  exact fun q hq => CaseRun.not_maps_of_misses (hchecked.1.1.2 q hq) hm

theorem ne_dotted (h : IsImage n) : Char.ofNat n ≠ '\u0130' := by
  intro heq
  have hn : n = 0x130 := by
    rw [← h.toNat_ofNat, heq]
    rfl
  obtain ⟨r, hr, m, hm, rfl⟩ := h
  have hchecked := List.all_eq_true.1 caseRuns_checked r hr
  have hbounds := r.apply_bounds hm
  simp only [Bool.and_eq_true, Bool.or_eq_true, Nat.blt_eq] at hchecked
  rcases hchecked.2 with hbelow | habove
  · omega
  · omega

end IsImage

/-! ### ASCII -/

theorem ascii_isAlphanum : ∀ n < 128,
    inRanges alphanumericRanges n = true → (Char.ofNat n).isAlphanum = true := by
  decide +kernel

theorem ascii_toLower : ∀ n < 128,
    (∀ q ∈ caseRuns.head?, q.maps n = false) → (Char.ofNat n).toLower = Char.ofNat n := by
  decide +kernel

theorem ascii_lowercase : ∀ n < 128, (Char.ofNat n).isAlphanum = true →
    (Char.ofNat n).toLower.toNat < 128 ∧ (Char.ofNat n).toLower.isAlphanum = true ∧
      (Char.ofNat n).toLower.toLower = (Char.ofNat n).toLower := by
  decide +kernel

/-! ### Letters and digits -/

theorem IsImage.isAlphanumeric {n : Nat} (h : IsImage n) :
    isAlphanumeric (Char.ofNat n) = true := by
  unfold Text.isAlphanumeric
  rw [h.toNat_ofNat]
  by_cases hascii : n < 128
  · rw [if_pos hascii]
    exact ascii_isAlphanum n hascii h.inRanges
  · rw [if_neg hascii]
    exact h.inRanges

/-- A letter that a capital one is mapped to is its own lower case. -/
theorem IsImage.lowercase {n : Nat} (h : IsImage n) :
    lowercase (Char.ofNat n) = [Char.ofNat n] := by
  unfold Text.lowercase
  rw [h.toNat_ofNat]
  by_cases hascii : n < 128
  · rw [if_pos hascii, ascii_toLower n hascii fun q hq => h.not_maps q (List.mem_of_mem_head? hq)]
  · have hnone : caseRuns.find? (·.maps n) = none :=
      List.find?_eq_none.2 fun q hq => by simp [h.not_maps q hq]
    rw [if_neg hascii, if_neg h.ne_dotted, hnone]

/-- **The lower case of a letter or digit** is one letter or digit, which is its
own lower case. -/
theorem lowercase_of_isAlphanumeric {c : Char} (h : isAlphanumeric c = true)
    (hdot : c ≠ '\u0130') :
    ∃ d, lowercase c = [d] ∧ isAlphanumeric d = true ∧ lowercase d = [d] := by
  by_cases hascii : c.toNat < 128
  · have halphanum : c.isAlphanum = true := by
      rw [isAlphanumeric, if_pos hascii] at h
      exact h
    have hlower := ascii_lowercase c.toNat hascii
    rw [Char.ofNat_toNat] at hlower
    obtain ⟨hlt, hd, hagain⟩ := hlower halphanum
    refine ⟨c.toLower, ?_, ?_, ?_⟩
    · rw [lowercase, if_pos hascii]
    · rw [isAlphanumeric, if_pos hlt, hd]
    · rw [lowercase, if_pos hlt, hagain]
  · rcases hfind : caseRuns.find? (·.maps c.toNat) with _ | r
    · have hc : lowercase c = [c] := by rw [lowercase, if_neg hascii, if_neg hdot, hfind]
      exact ⟨c, hc, h, hc⟩
    · have hc : lowercase c = [Char.ofNat (r.apply c.toNat)] := by
        rw [lowercase, if_neg hascii, if_neg hdot, hfind]
      have hmaps : r.maps c.toNat = true := by simpa using List.find?_some hfind
      have himage : IsImage (r.apply c.toNat) :=
        ⟨r, List.mem_of_find?_eq_some hfind, c.toNat, hmaps, rfl⟩
      exact ⟨_, hc, himage.isAlphanumeric, himage.lowercase⟩

theorem lowercase_dotted : lowercase '\u0130' = ['i', '\u0307'] := rfl

/-- The combining dot comes from one letter only. -/
theorem dot_mem_lowercase_iff {c : Char} (h : isAlphanumeric c = true) :
    '\u0307' ∈ lowercase c ↔ c = '\u0130' := by
  constructor
  · intro hmem
    refine Decidable.byContradiction fun hdot => ?_
    obtain ⟨d, hd, halphanumeric, -⟩ := lowercase_of_isAlphanumeric h hdot
    rw [hd, List.mem_singleton] at hmem
    rw [← hmem] at halphanumeric
    exact absurd halphanumeric (by decide +kernel)
  · rintro rfl
    exact List.mem_cons_of_mem _ List.mem_cons_self

/-- The capital I with a dot is the lower case of no letter. -/
theorem dotted_not_mem_lowercase {c : Char} (h : isAlphanumeric c = true) :
    '\u0130' ∉ lowercase c := by
  by_cases hdot : c = '\u0130'
  · rw [hdot, lowercase_dotted]
    decide
  · obtain ⟨d, hd, -, hagain⟩ := lowercase_of_isAlphanumeric h hdot
    rw [hd, List.mem_singleton]
    rintro rfl
    rw [lowercase_dotted] at hagain
    cases hagain

end Text
end RuleHarvest
