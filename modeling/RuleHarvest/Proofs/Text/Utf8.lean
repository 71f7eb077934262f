/-
# UTF-8 is read back

The bytes of a character are read as this character whatever follows them, so
the bytes of a text are read as the text (`decode?_encode`). No other bytes are
read as a text (`decode?_eq_some_iff`): bytes without a damaged piece start
with those of a character.

The order of texts by code point is the order of their bytes
(`encode_lt_encode`): of two characters the greater one has more bytes, or as
many and the first that differs is greater.

Key theorems: `piecesFrom_encodeChar`, `decode?_encode`, `exists_encodeChar`,
`decode?_eq_some_iff`, `encode_lt_encode`.
-/
import Mathlib.Tactic.SplitIfs
import RuleHarvest.Text.Utf8

namespace RuleHarvest
namespace Text
namespace Utf8

variable {n : Nat} {p : Pending} (bs : List UInt8)

theorem toNat_byte (h : n < 256) : (UInt8.ofNat n).toNat = n := by
  rw [UInt8.toNat_ofNat']
  exact Nat.mod_eq_of_lt h

theorem piecesFrom_single (h : n < 0x80) :
    piecesFrom none (UInt8.ofNat n :: bs) = some (Char.ofNat n) :: piecesFrom none bs := by
  rw [piecesFrom, toNat_byte (by omega), start, if_pos h]

theorem piecesFrom_first (hn : n < 256) (h : start n = .ok p) :
    piecesFrom none (UInt8.ofNat n :: bs) = piecesFrom (some p) bs := by
  rw [piecesFrom, toNat_byte hn, h]

theorem piecesFrom_more (hlow : p.low ≤ n) (hhigh : n ≤ p.high) (hn : n < 256) (h : 1 < p.missing) :
    piecesFrom (some p) (UInt8.ofNat n :: bs) =
      piecesFrom (some ⟨p.missing - 1, 0x80, 0xBF, p.value * 64 + (n - 0x80)⟩) bs := by
  rw [piecesFrom, toNat_byte hn, if_pos (by simp [hlow, hhigh])]
  exact if_neg (by omega)

theorem piecesFrom_last (hlow : p.low ≤ n) (hhigh : n ≤ p.high) (hn : n < 256) (h : p.missing = 1) :
    piecesFrom (some p) (UInt8.ofNat n :: bs) =
      some (Char.ofNat (p.value * 64 + (n - 0x80))) :: piecesFrom none bs := by
  rw [piecesFrom, toNat_byte hn, if_pos (by simp [hlow, hhigh])]
  exact if_pos (by omega)

/-- The bytes of one character are read as that character, whatever follows. -/
theorem piecesFrom_encodeChar (c : Char) :
    piecesFrom none (String.utf8EncodeChar c ++ bs) = some c :: piecesFrom none bs := by
  have hchar : Char.ofNat c.val.toNat = c := Char.ofNat_toNat c
  have hvalid : c.val.toNat < 0xD800 ∨ (0xDFFF < c.val.toNat ∧ c.val.toNat < 0x110000) := c.valid
  rw [String.utf8EncodeChar.eq_1]
  generalize c.val.toNat = v at hchar hvalid
  split_ifs with h1 h2 h3
  · show piecesFrom none (UInt8.ofNat v :: bs) = _
    rw [piecesFrom_single bs (by omega), hchar]
  · show piecesFrom none (UInt8.ofNat (v / 64 % 32 + 192) :: UInt8.ofNat (v % 64 + 128) :: bs) = _
    have hstart : start (v / 64 % 32 + 192) = .ok ⟨1, 0x80, 0xBF, v / 64 % 32 + 192 - 0xC0⟩ := by
      rw [start, if_neg (by omega), if_neg (by omega), if_pos (by omega)]
    have hvalue : (v / 64 % 32 + 192 - 0xC0) * 64 + (v % 64 + 128 - 0x80) = v := by omega
    rw [piecesFrom_first _ (by omega) hstart,
      piecesFrom_last bs (by dsimp only; omega) (by dsimp only; omega) (by omega) rfl]
    dsimp only
    rw [hvalue, hchar]
  · show piecesFrom none (UInt8.ofNat (v / 4096 % 16 + 224) :: UInt8.ofNat (v / 64 % 64 + 128) ::
      UInt8.ofNat (v % 64 + 128) :: bs) = _
    have hstart : start (v / 4096 % 16 + 224) = .ok ⟨2,
        if v / 4096 % 16 + 224 = 0xE0 then 0xA0 else 0x80,
        if v / 4096 % 16 + 224 = 0xED then 0x9F else 0xBF, v / 4096 % 16 + 224 - 0xE0⟩ := by
      rw [start, if_neg (by omega), if_neg (by omega), if_neg (by omega), if_pos (by omega)]
    have hvalue : ((v / 4096 % 16 + 224 - 0xE0) * 64 + (v / 64 % 64 + 128 - 0x80)) * 64 +
        (v % 64 + 128 - 0x80) = v := by omega
    rw [piecesFrom_first _ (by omega) hstart,
      piecesFrom_more _ (by dsimp only; split_ifs <;> omega) (by dsimp only; split_ifs <;> omega) (by omega)
        (by dsimp only; omega),
      piecesFrom_last bs (by dsimp only; omega) (by dsimp only; omega) (by omega) rfl]
    dsimp only
    rw [hvalue, hchar]
  · show piecesFrom none (UInt8.ofNat (v / 262144 % 8 + 240) :: UInt8.ofNat (v / 4096 % 64 + 128) ::
      UInt8.ofNat (v / 64 % 64 + 128) :: UInt8.ofNat (v % 64 + 128) :: bs) = _
    have hstart : start (v / 262144 % 8 + 240) = .ok ⟨3,
        if v / 262144 % 8 + 240 = 0xF0 then 0x90 else 0x80,
        if v / 262144 % 8 + 240 = 0xF4 then 0x8F else 0xBF, v / 262144 % 8 + 240 - 0xF0⟩ := by
      rw [start, if_neg (by omega), if_neg (by omega), if_neg (by omega), if_neg (by omega),
        if_pos (by omega)]
    have hvalue : (((v / 262144 % 8 + 240 - 0xF0) * 64 + (v / 4096 % 64 + 128 - 0x80)) * 64 +
        (v / 64 % 64 + 128 - 0x80)) * 64 + (v % 64 + 128 - 0x80) = v := by omega
    rw [piecesFrom_first _ (by omega) hstart,
      piecesFrom_more _ (by dsimp only; split_ifs <;> omega) (by dsimp only; split_ifs <;> omega) (by omega)
        (by dsimp only; omega),
      piecesFrom_more _ (by dsimp only; omega) (by dsimp only; omega) (by omega) (by dsimp only; omega),
      piecesFrom_last bs (by dsimp only; omega) (by dsimp only; omega) (by omega) rfl]
    dsimp only
    rw [hvalue, hchar]

theorem pieces_encode : ∀ s : List Char, pieces (encode s) = s.map some
  | [] => rfl
  | c :: s => by
    have ih : piecesFrom none (encode s) = s.map some := pieces_encode s
    show piecesFrom none (String.utf8EncodeChar c ++ encode s) = _
    rw [piecesFrom_encodeChar, ih, List.map_cons]

theorem mapM_id_eq_some_iff : ∀ {ps : List (Option Char)} {s : List Char},
    ps.mapM id = some s ↔ ps = s.map some
  | [], s => by
    rw [List.mapM_nil, Option.pure_def, Option.some.injEq, eq_comm, eq_comm (a := []),
      List.map_eq_nil_iff]
  | none :: ps, s => by
    rw [List.mapM_cons]
    cases s <;> simp
  | some c :: ps, s => by
    have hrest : ((some c :: ps).mapM id = some s) ↔ ∃ t, ps.mapM id = some t ∧ c :: t = s := by
      rw [List.mapM_cons]
      cases ps.mapM id <;> simp
    rw [hrest, eq_comm, List.map_eq_cons_iff]
    simp only [mapM_id_eq_some_iff]
    constructor
    · rintro ⟨t, rfl, rfl⟩
      exact ⟨c, t, rfl, rfl, rfl⟩
    · rintro ⟨d, t, rfl, hc, rfl⟩
      obtain rfl := Option.some.inj hc
      exact ⟨t, rfl, rfl⟩

/-- **A text is read from its bytes.** -/
theorem decode?_encode (s : List Char) : decode? (encode s) = some s :=
  mapM_id_eq_some_iff.2 (pieces_encode s)

/-! ### No other bytes -/

/-- A sequence that is not damaged goes on with a byte that lies in its range. -/
theorem exists_byte {bytes : List UInt8} (h : none ∉ piecesFrom (some p) bytes) :
    ∃ n bs, bytes = UInt8.ofNat n :: bs ∧ n < 256 ∧ p.low ≤ n ∧ n ≤ p.high := by
  cases bytes with
  | nil => exact absurd (List.mem_singleton.2 rfl) h
  | cons b bs =>
    by_cases hrange : p.low ≤ b.toNat ∧ b.toNat ≤ p.high
    · exact ⟨b.toNat, bs, by rw [UInt8.ofNat_toNat], b.toNat_lt, hrange⟩
    · refine absurd ?_ h
      rw [piecesFrom, if_neg (by simpa using hrange)]
      split <;> exact List.mem_cons_self

/-- A byte that starts nothing is damage. -/
theorem started_of_whole {bytes : List UInt8} (hn : n < 256)
    (h : none ∉ piecesFrom none (UInt8.ofNat n :: bytes)) : n < 0x80 ∨ 0xC2 ≤ n ∧ n < 0xF5 := by
  by_cases hstarts : n < 0x80 ∨ 0xC2 ≤ n ∧ n < 0xF5
  · exact hstarts
  · have hstart : start n = .error none := by
      unfold start
      by_cases hlow : n < 0xC2
      · rw [if_neg (by omega), if_pos hlow]
      · rw [if_neg (by omega), if_neg hlow, if_neg (by omega), if_neg (by omega), if_neg (by omega)]
    rw [piecesFrom, toNat_byte hn, hstart] at h
    exact absurd List.mem_cons_self h

theorem val_ofNat {v : Nat} (h : v < 0xD800 ∨ 0xDFFF < v ∧ v < 0x110000) :
    (Char.ofNat v).val.toNat = v := by
  have hvalid : v.isValidChar := h
  rw [Char.ofNat, dif_pos hvalid]
  rfl

/-! The sequences of one to four bytes, as far as their ranges go. -/

theorem encodeChar_one (h : n < 0x80) : String.utf8EncodeChar (Char.ofNat n) = [UInt8.ofNat n] := by
  rw [String.utf8EncodeChar.eq_1, val_ofNat (by omega), if_pos (by omega)]

theorem exists_encodeChar_two {m : Nat} (hn : 0xC2 ≤ n ∧ n < 0xE0) (hm : 0x80 ≤ m ∧ m ≤ 0xBF) :
    ∃ c, String.utf8EncodeChar c = [UInt8.ofNat n, UInt8.ofNat m] := by
  obtain ⟨v, hv⟩ : ∃ v, v = (n - 0xC0) * 64 + (m - 0x80) := ⟨_, rfl⟩
  have hfirst : v / 64 % 32 + 192 = n := by omega
  have hlast : v % 64 + 128 = m := by omega
  refine ⟨Char.ofNat v, ?_⟩
  rw [String.utf8EncodeChar.eq_1, val_ofNat (by omega), if_neg (by omega), if_pos (by omega), hfirst,
    hlast]

theorem exists_encodeChar_three {m k : Nat} (hn : 0xE0 ≤ n ∧ n < 0xF0) (hm : 0x80 ≤ m ∧ m ≤ 0xBF)
    (hlow : n = 0xE0 → 0xA0 ≤ m) (hhigh : n = 0xED → m ≤ 0x9F) (hk : 0x80 ≤ k ∧ k ≤ 0xBF) :
    ∃ c, String.utf8EncodeChar c = [UInt8.ofNat n, UInt8.ofNat m, UInt8.ofNat k] := by
  obtain ⟨v, hv⟩ : ∃ v, v = ((n - 0xE0) * 64 + (m - 0x80)) * 64 + (k - 0x80) := ⟨_, rfl⟩
  have hfirst : v / 4096 % 16 + 224 = n := by omega
  have hsecond : v / 64 % 64 + 128 = m := by omega
  have hlast : v % 64 + 128 = k := by omega
  refine ⟨Char.ofNat v, ?_⟩
  rw [String.utf8EncodeChar.eq_1, val_ofNat (by omega), if_neg (by omega), if_neg (by omega),
    if_pos (by omega), hfirst, hsecond, hlast]

theorem exists_encodeChar_four {m k l : Nat} (hn : 0xF0 ≤ n ∧ n < 0xF5) (hm : 0x80 ≤ m ∧ m ≤ 0xBF)
    (hlow : n = 0xF0 → 0x90 ≤ m) (hhigh : n = 0xF4 → m ≤ 0x8F) (hk : 0x80 ≤ k ∧ k ≤ 0xBF)
    (hl : 0x80 ≤ l ∧ l ≤ 0xBF) :
    ∃ c, String.utf8EncodeChar c = [UInt8.ofNat n, UInt8.ofNat m, UInt8.ofNat k, UInt8.ofNat l] := by
  obtain ⟨v, hv⟩ : ∃ v, v = (((n - 0xF0) * 64 + (m - 0x80)) * 64 + (k - 0x80)) * 64 + (l - 0x80) :=
    ⟨_, rfl⟩
  have hfirst : v / 262144 % 8 + 240 = n := by omega
  have hsecond : v / 4096 % 64 + 128 = m := by omega
  have hthird : v / 64 % 64 + 128 = k := by omega
  have hlast : v % 64 + 128 = l := by omega
  refine ⟨Char.ofNat v, ?_⟩
  rw [String.utf8EncodeChar.eq_1, val_ofNat (by omega), if_neg (by omega), if_neg (by omega),
    if_neg (by omega), hfirst, hsecond, hthird, hlast]

/-- **Bytes without damage start with those of a character.** -/
theorem exists_encodeChar {b : UInt8} {bytes : List UInt8} (h : none ∉ piecesFrom none (b :: bytes)) :
    ∃ c bs, b :: bytes = String.utf8EncodeChar c ++ bs := by
  obtain ⟨n, hn, rfl⟩ : ∃ n < 256, b = UInt8.ofNat n := ⟨b.toNat, b.toNat_lt, UInt8.ofNat_toNat.symm⟩
  have hstarts := started_of_whole hn h
  by_cases h1 : n < 0x80
  · exact ⟨Char.ofNat n, bytes, by rw [encodeChar_one h1]; rfl⟩
  by_cases h2 : n < 0xE0
  · have hstart : start n = .ok ⟨1, 0x80, 0xBF, n - 0xC0⟩ := by
      rw [start, if_neg h1, if_neg (by omega), if_pos h2]
    rw [piecesFrom_first _ hn hstart] at h
    obtain ⟨m, bs, rfl, hm, hrange⟩ := exists_byte h
    obtain ⟨c, hc⟩ := exists_encodeChar_two ⟨by omega, h2⟩ hrange
    exact ⟨c, bs, by rw [hc]; rfl⟩
  by_cases h3 : n < 0xF0
  · have hstart : start n = .ok ⟨2, if n = 0xE0 then 0xA0 else 0x80,
        if n = 0xED then 0x9F else 0xBF, n - 0xE0⟩ := by
      rw [start, if_neg h1, if_neg (by omega), if_neg h2, if_pos h3]
    rw [piecesFrom_first _ hn hstart] at h
    obtain ⟨m, bs, rfl, hm, hlow, hhigh⟩ := exists_byte h
    rw [piecesFrom_more _ hlow hhigh hm (Nat.lt_succ_self 1)] at h
    obtain ⟨k, bs, rfl, hk, hrange⟩ := exists_byte h
    have hm : (0x80 ≤ m ∧ m ≤ 0xBF) ∧ (n = 0xE0 → 0xA0 ≤ m) ∧ (n = 0xED → m ≤ 0x9F) := by
      dsimp only at hlow hhigh
      split_ifs at hlow hhigh <;> omega
    obtain ⟨c, hc⟩ := exists_encodeChar_three ⟨by omega, h3⟩ hm.1 hm.2.1 hm.2.2 hrange
    exact ⟨c, bs, by rw [hc]; rfl⟩
  · have hstart : start n = .ok ⟨3, if n = 0xF0 then 0x90 else 0x80,
        if n = 0xF4 then 0x8F else 0xBF, n - 0xF0⟩ := by
      rw [start, if_neg h1, if_neg (by omega), if_neg h2, if_neg h3, if_pos (by omega)]
    rw [piecesFrom_first _ hn hstart] at h
    obtain ⟨m, bs, rfl, hm, hlow, hhigh⟩ := exists_byte h
    rw [piecesFrom_more _ hlow hhigh hm (Nat.lt_add_of_pos_right Nat.two_pos)] at h
    obtain ⟨k, bs, rfl, hk, hklow, hkhigh⟩ := exists_byte h
    rw [piecesFrom_more _ hklow hkhigh hk (Nat.lt_succ_self 1)] at h
    obtain ⟨l, bs, rfl, hl, hrange⟩ := exists_byte h
    have hm : (0x80 ≤ m ∧ m ≤ 0xBF) ∧ (n = 0xF0 → 0x90 ≤ m) ∧ (n = 0xF4 → m ≤ 0x8F) := by
      dsimp only at hlow hhigh
      split_ifs at hlow hhigh <;> omega
    obtain ⟨c, hc⟩ :=
      exists_encodeChar_four ⟨by omega, by omega⟩ hm.1 hm.2.1 hm.2.2 ⟨hklow, hkhigh⟩ hrange
    exact ⟨c, bs, by rw [hc]; rfl⟩

/-- Bytes without damage are those of the text that is read from them. -/
theorem encode_of_pieces (bytes : List UInt8) (s : List Char) (h : piecesFrom none bytes = s.map some) :
    bytes = encode s := by
  cases bytes with
  | nil =>
    rw [piecesFrom] at h
    rw [List.map_eq_nil_iff.1 h.symm]
    rfl
  | cons b bytes =>
    have hwhole : none ∉ piecesFrom none (b :: bytes) := by
      rw [h]
      simp
    obtain ⟨c, bs, hbytes⟩ := exists_encodeChar hwhole
    rw [hbytes, piecesFrom_encodeChar] at h
    obtain ⟨d, t, rfl, hc, ht⟩ := List.map_eq_cons_iff.1 h.symm
    obtain rfl := Option.some.inj hc
    have hshorter : bs.length < (b :: bytes).length := by
      have hpos : 0 < (String.utf8EncodeChar d).length :=
        List.length_pos_iff.2 String.utf8EncodeChar_ne_nil
      rw [hbytes, List.length_append]
      omega
    rw [hbytes, encode_of_pieces bs t ht.symm]
    rfl
termination_by bytes.length

/-- **Only the bytes of a text are read as the text.** -/
theorem decode?_eq_some_iff {bytes : List UInt8} {s : List Char} :
    decode? bytes = some s ↔ bytes = encode s := by
  constructor
  · intro h
    exact encode_of_pieces bytes s (mapM_id_eq_some_iff.1 h)
  · rintro rfl
    exact decode?_encode s

/-! ### Order -/

/-- Bytes are in order if the first ones are, and the others where the first
ones are equal. -/
theorem bytes_lt_bytes {m n : Nat} {a b : List UInt8} (hn : n < 256) (hle : m ≤ n)
    (h : m = n → a < b) : UInt8.ofNat m :: a < UInt8.ofNat n :: b := by
  rw [List.cons_lt_cons_iff, UInt8.lt_iff_toNat_lt, toNat_byte hn, toNat_byte (by omega)]
  rcases Nat.lt_or_eq_of_le hle with hlt | rfl
  · exact .inl hlt
  · exact .inr ⟨rfl, h rfl⟩

/-- The bytes of a greater character are greater, whatever follows. -/
theorem encodeChar_lt_encodeChar {c d : Char} (h : c < d) (a b : List UInt8) :
    String.utf8EncodeChar c ++ a < String.utf8EncodeChar d ++ b := by
  have hlt : c.val.toNat < d.val.toNat := h
  have hd : d.val.toNat < 0xD800 ∨ (0xDFFF < d.val.toNat ∧ d.val.toNat < 0x110000) := d.valid
  rw [String.utf8EncodeChar.eq_1, String.utf8EncodeChar.eq_1]
  generalize c.val.toNat = v at hlt
  generalize d.val.toNat = w at hlt hd
  -- characters with fewer bytes have a smaller first byte
  by_cases h1 : w ≤ 127
  · rw [if_pos h1, if_pos (by omega)]
    exact bytes_lt_bytes (by omega) (by omega) fun _ => by omega
  rw [if_neg h1]
  by_cases h2 : w ≤ 2047
  · rw [if_pos h2]
    split_ifs
    · exact bytes_lt_bytes (by omega) (by omega) fun _ => by omega
    · exact bytes_lt_bytes (by omega) (by omega) fun _ =>
        bytes_lt_bytes (by omega) (by omega) fun _ => by omega
    all_goals omega
  rw [if_neg h2]
  by_cases h3 : w ≤ 65535
  · rw [if_pos h3]
    split_ifs
    · exact bytes_lt_bytes (by omega) (by omega) fun _ => by omega
    · exact bytes_lt_bytes (by omega) (by omega) fun _ => by omega
    · exact bytes_lt_bytes (by omega) (by omega) fun _ =>
        bytes_lt_bytes (by omega) (by omega) fun _ =>
          bytes_lt_bytes (by omega) (by omega) fun _ => by omega
    · omega
  rw [if_neg h3]
  split_ifs
  · exact bytes_lt_bytes (by omega) (by omega) fun _ => by omega
  · exact bytes_lt_bytes (by omega) (by omega) fun _ => by omega
  · exact bytes_lt_bytes (by omega) (by omega) fun _ => by omega
  · exact bytes_lt_bytes (by omega) (by omega) fun _ =>
      bytes_lt_bytes (by omega) (by omega) fun _ =>
        bytes_lt_bytes (by omega) (by omega) fun _ =>
          bytes_lt_bytes (by omega) (by omega) fun _ => by omega

theorem append_lt_append (x : List UInt8) {a b : List UInt8} (h : a < b) : x ++ a < x ++ b := by
  induction x with
  | nil => exact h
  | cons y x ih => exact List.cons_lt_cons_iff.2 (.inr ⟨rfl, ih⟩)

/-- **The order by code point is the order by bytes.** -/
theorem encode_lt_encode : ∀ {s t : List Char}, s < t → encode s < encode t
  | _, [], h => absurd h (List.not_lt_nil _)
  | [], d :: t, _ => by
    show [] < String.utf8EncodeChar d ++ encode t
    rcases hbytes : String.utf8EncodeChar d with _ | ⟨b, bs⟩
    · exact absurd hbytes String.utf8EncodeChar_ne_nil
    · exact List.nil_lt_cons b _
  | c :: s, d :: t, h => by
    show String.utf8EncodeChar c ++ encode s < String.utf8EncodeChar d ++ encode t
    rcases List.cons_lt_cons_iff.1 h with hlt | ⟨rfl, hlt⟩
    · exact encodeChar_lt_encodeChar hlt _ _
    · exact append_lt_append _ (encode_lt_encode hlt)

end Utf8
end Text
end RuleHarvest
