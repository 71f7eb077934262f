/-
# What the members of a map are read as

The readers of fixed shapes are taken to the grammar of values: what a reader finds
in a text depends on the value that stands there, not on the blanks in it
(`ReadsRaw`). A text is found where its pieces come to one, a map of texts where all
of its names and values do. The members of a map fill a draft in their order
(`Shape.fill`); a member of an unknown name is passed over, whatever its value is.

Key definitions: `textOf?`, `Raw.text?`, `Raw.textOrNull?`, `Raw.entries?`,
`ReadsRaw`, `Shape.fill`.
Key theorems: `readsRaw_textValue`, `readsRaw_textOrNull`, `readsRaw_textMap`,
`Shape.decode_object`.
-/
import RuleHarvest.Proofs.Json.Skipping

namespace RuleHarvest
namespace Json

variable {α δ : Type} {rest : List Char}

/-! ### What stands there -/

/-- The text that pieces come to. -/
def textOf? (ps : List Piece) : Option String := (denoted? ps).map String.ofList

namespace Raw

def text? : Raw → Option String
  | text ps => textOf? ps
  | _ => none

def textOrNull? : Raw → Option (Option String)
  | word .null => some none
  | v => v.text?.map some

/-- The entry of a map of texts. -/
def entry? (m : Member) : Option (String × String) :=
  (textOf? m.1).bind fun key => m.2.text?.map (key, ·)

def entries? : Raw → Option (List (String × String))
  | map ms => ms.mapM entry?
  | _ => none

/-- The characters that a value may begin with. -/
def Begins : Raw → Char → Prop
  | word w, c => w.chars.head? = some c
  | number _ _, c => c.isDigit = true ∨ c = '-'
  | text _, c => c = '"'
  | list _, c => c = '['
  | map _, c => c = '\x7b'

end Raw

theorem Written.begins {v : Raw} {s : List Char} (h : Written (.value v) s) :
    ∃ c cs, s = c :: cs ∧ isBlank c = false ∧ v.Begins c := by
  cases h with
  | word w => cases w <;> exact ⟨_, _, rfl, rfl, rfl⟩
  | number hnumber =>
    rcases hnumber with hunsigned | ⟨s', -, rfl⟩
    · obtain ⟨c, cs, rfl, hc⟩ := hunsigned.exists_digit
      exact ⟨c, cs, rfl, isBlank_of_isDigit hc, .inl hc⟩
    · exact ⟨_, _, rfl, rfl, .inr rfl⟩
  | text ps => exact ⟨_, _, rfl, rfl, rfl⟩
  | list h => exact ⟨_, _, rfl, rfl, rfl⟩
  | map h => exact ⟨_, _, rfl, rfl, rfl⟩

namespace Raw

theorem exists_text {v : Raw} (h : v.Begins '"') : ∃ ps, v = text ps := by
  cases v with
  | text ps => exact ⟨ps, rfl⟩
  | word w => cases w <;> cases h
  | number s hs => rcases h with h | h <;> cases h
  | _ => cases h

theorem exists_map {v : Raw} (h : v.Begins '\x7b') : ∃ ms, v = map ms := by
  cases v with
  | map ms => exact ⟨ms, rfl⟩
  | word w => cases w <;> cases h
  | number s hs => rcases h with h | h <;> cases h
  | _ => cases h

theorem eq_null {v : Raw} (h : v.Begins 'n') : v = word .null := by
  cases v with
  | word w =>
    cases w with
    | null => rfl
    | _ => cases h
  | number s hs => rcases h with h | h <;> cases h
  | _ => cases h

end Raw

/-! ### Readers of values -/

/-- What the reader finds in a text is what stands there. -/
def ReadsRaw (read : Reader α) (value? : Raw → Option α) : Prop :=
  ∀ ⦃v s⦄, Written (.value v) s → ∀ ⦃blanks rest⦄, AllBlank blanks → IsEnded rest →
    (read (blanks ++ (s ++ rest))).toOption = (value? v).map (·, rest)

theorem readsRaw_map {β : Type} {read : Reader α} {value? : Raw → Option α}
    (h : ReadsRaw read value?) (f : α → β) :
    ReadsRaw (fun s => (read s).map fun (a, rest) => (f a, rest)) fun v => (value? v).map f := by
  intro v s hvalue blanks rest hblanks hrest
  have hread := h hvalue hblanks hrest
  rw [toOption_map, hread, Option.map_map, Option.map_map]
  rfl

theorem textValue_quote {s cs : List Char} (h : skipBlank s = '"' :: cs) :
    textValue s = (readText cs).map fun (t, rest) => (String.ofList t, rest) := by
  simp only [textValue, h]

theorem textValue_of_ne {s cs : List Char} {c : Char} (h : skipBlank s = c :: cs) (hc : c ≠ '"') :
    (textValue s).toOption = none := by
  unfold textValue
  rw [h]
  split
  · rename_i heq
    exact absurd (List.cons.inj heq).1 hc
  · rfl

/-- **Texts are read.** -/
theorem readsRaw_textValue : ReadsRaw textValue Raw.text? := by
  intro v s h blanks rest hblanks _
  obtain ⟨c, cs, rfl, hc, hbegins⟩ := h.begins
  have hskip : skipBlank (blanks ++ (c :: cs ++ rest)) = c :: (cs ++ rest) :=
    skipBlank_to hblanks hc _
  by_cases hquote : c = '"'
  · subst hquote
    obtain ⟨ps, rfl⟩ := Raw.exists_text hbegins
    have hquoted : '"' :: cs ++ rest = quoted ps ++ rest := by cases h; rfl
    have hchars : cs ++ rest = ps.flatMap Piece.chars ++ '"' :: rest :=
      (List.cons.inj (hquoted.trans (quoted_append ps rest))).2
    rw [textValue_quote hskip, hchars, toOption_map, readText_pieces, Raw.text?, textOf?,
      Option.map_map, Option.map_map]
    rfl
  · rw [textValue_of_ne hskip hquote]
    cases v with
    | text ps => exact absurd hbegins hquote
    | _ => rfl

theorem textOrNull_of_ne {s cs : List Char} {c : Char} (h : skipBlank s = c :: cs) (hc : c ≠ 'n') :
    textOrNull s = (textValue (c :: cs)).map fun (t, rest) => (some t, rest) := by
  unfold textOrNull
  rw [h]
  split
  · rename_i heq
    exact absurd (List.cons.inj heq).1 hc
  · rfl

/-- **Texts that may be missing are read.** -/
theorem readsRaw_textOrNull : ReadsRaw textOrNull Raw.textOrNull? := by
  intro v s h blanks rest hblanks hrest
  obtain ⟨c, cs, rfl, hc, hbegins⟩ := h.begins
  have hskip : skipBlank (blanks ++ (c :: cs ++ rest)) = c :: (cs ++ rest) :=
    skipBlank_to hblanks hc _
  by_cases hnull : c = 'n'
  · subst hnull
    obtain rfl := Raw.eq_null hbegins
    cases h
    rw [textOrNull, hskip]
    rfl
  · have hvalue := readsRaw_textValue h allBlank_nil hrest
    have hother : v.textOrNull? = v.text?.map some := by
      cases v with
      | word w =>
        cases w with
        | null => exact absurd (Option.some.inj hbegins).symm hnull
        | _ => rfl
      | _ => rfl
    rw [List.nil_append, List.cons_append] at hvalue
    rw [textOrNull_of_ne hskip hnull, toOption_map, hvalue, hother, Option.map_map, Option.map_map]
    rfl

/-! ### Entries of maps -/

theorem nextKey_gap {first : Bool} {gap : List Char} (hgap : IsGap first gap) (name : List Piece)
    (rest : List Char) : nextKey first (gap ++ (quoted name ++ rest)) =
      .ok (.ok (name.flatMap Piece.chars ++ '"' :: rest)) := by
  rw [quoted_append]
  cases first with
  | true => exact nextKey_first hgap _
  | false =>
    obtain ⟨before, after, hbefore, hafter, rfl⟩ := hgap
    have hmore := nextKey_more hafter (name.flatMap Piece.chars ++ '"' :: rest)
    rw [List.append_assoc, List.cons_append]
    unfold nextKey at hmore ⊢
    rw [skipBlank_append hbefore]
    exact hmore

theorem readColon_blanks {before : List Char} (hbefore : AllBlank before) (s : List Char) :
    readColon (before ++ ':' :: s) = .ok s := by
  have hcolon := readColon_colon s
  unfold readColon at hcolon ⊢
  rw [skipBlank_append hbefore]
  exact hcolon

/-- One entry, then the others. -/
theorem readEntries_step {n : Nat} {first : Bool} {entries : List (String × String)}
    {name : List Piece} {v : Raw} {gap before after s : List Char} (hgap : IsGap first gap)
    (hbefore : AllBlank before) (hafter : AllBlank after) (hvalue : Written (.value v) s)
    (hrest : IsEnded rest) :
    (readEntries (n + 1) first entries
        (gap ++ (quoted name ++ (before ++ ':' :: (after ++ (s ++ rest)))))).toOption =
      (Raw.entry? (name, v)).bind fun e => (readEntries n false (entries ++ [e]) rest).toOption := by
  have hnext := nextKey_gap hgap name (before ++ ':' :: (after ++ (s ++ rest)))
  have hcolon := readColon_blanks hbefore (after ++ (s ++ rest))
  have hread := readsRaw_textValue hvalue hafter hrest
  simp only [Raw.entry?, textOf?]
  cases hname : denoted? name with
  | none =>
    obtain ⟨fault, hfault⟩ := readText_none hname (before ++ ':' :: (after ++ (s ++ rest)))
    simp only [readEntries, hnext, hfault, bind, Except.bind]
    rfl
  | some key =>
    have hkey := readText_some hname (before ++ ':' :: (after ++ (s ++ rest)))
    simp only [readEntries, hnext, hkey, hcolon, bind, Except.bind]
    cases hentry : v.text? with
    | none =>
      rw [hentry] at hread
      obtain ⟨fault, hfault⟩ := toOption_eq_none hread
      rw [hfault]
      rfl
    | some value =>
      rw [hentry] at hread
      rw [toOption_eq_some hread]
      rfl

/-- **The entries of a map of texts are read**, when all of them are such. -/
theorem readEntries_written (rest : List Char) : ∀ {ms : List Member} {s : List Char} {n : Nat}
    {first : Bool} {entries : List (String × String)}, Written (.members first ms) s →
      ms.length < n → (readEntries n first entries (s ++ rest)).toOption =
        (ms.mapM Raw.entry?).map fun more => (entries ++ more, rest)
  | _, _, 0, _, _, _, hn => absurd hn (Nat.not_lt_zero _)
  | _, _, n + 1, first, entries, .noMembers hblanks, _ => by
    have hend := nextKey_end first hblanks rest
    rw [List.append_assoc, List.singleton_append, readEntries_end hend, List.mapM_nil]
    simp [Except.toOption]
  | _, _, n + 1, first, entries, .member hgap hbefore hafter hvalue hothers, hn => by
    simp only [List.append_assoc, List.cons_append]
    rw [readEntries_step hgap hbefore hafter hvalue (hothers.isEnded_members rest), List.mapM_cons]
    cases Raw.entry? _ with
    | none => rfl
    | some e =>
      rw [Option.bind_some, readEntries_written rest hothers (Nat.lt_of_succ_lt_succ hn)]
      simp only [bind, Option.bind_some, Option.map_bind]
      cases List.mapM Raw.entry? _ with
      | none => rfl
      | some more => simp [pure]

/-- There is a character for each member, and one more for the end. -/
theorem Written.length_lt : ∀ {ms : List Member} {s : List Char} {first : Bool},
    Written (.members first ms) s → ms.length < s.length
  | _, _, _, .noMembers _ => by simp
  | _, _, _, .member _ _ _ _ hothers => by
    have ih := hothers.length_lt
    simp only [List.length_append, List.length_cons]
    omega

theorem textMap_brace {s cs : List Char} (h : skipBlank s = '\x7b' :: cs) :
    textMap s = readEntries (cs.length + 1) true [] cs := by
  simp only [textMap, h]

theorem textMap_of_ne {s cs : List Char} {c : Char} (h : skipBlank s = c :: cs) (hc : c ≠ '\x7b') :
    (textMap s).toOption = none := by
  unfold textMap
  rw [h]
  split
  · rename_i heq
    exact absurd (List.cons.inj heq).1 hc
  · rfl

/-- **Maps of texts are read.** -/
theorem readsRaw_textMap : ReadsRaw textMap Raw.entries? := by
  intro v s h blanks rest hblanks _
  obtain ⟨c, cs, rfl, hc, hbegins⟩ := h.begins
  have hskip : skipBlank (blanks ++ (c :: cs ++ rest)) = c :: (cs ++ rest) :=
    skipBlank_to hblanks hc _
  by_cases hbrace : c = '\x7b'
  · subst hbrace
    obtain ⟨ms, rfl⟩ := Raw.exists_map hbegins
    cases h with
    | map hmembers =>
      have hlength := hmembers.length_lt
      rw [textMap_brace hskip, readEntries_written rest hmembers (by simp; omega)]
      rfl
  · rw [textMap_of_ne hskip hbrace]
    cases v with
    | map ms => exact absurd hbegins hbrace
    | _ => rfl

/-! ### Members of a shape -/

namespace Shape

variable (shape : Shape δ α) (means : String → δ → Raw → Option δ)

/-- What the members of a map make of a draft, where `means` says what the value
of a known member makes of it. Members of other names are passed over. -/
def fill : δ → List Member → Option α
  | draft, [] => (shape.finish draft).toOption
  | draft, m :: ms =>
    (textOf? m.1).bind fun name =>
      match shape.slots.find? (fun slot => slot.name = name) with
      | none => fill draft ms
      | some slot =>
        if slot.isFilled draft then none else (means name draft m.2).bind fun draft => fill draft ms

variable {shape} {means}

/-- Each slot reads what its values mean. -/
def Understands (shape : Shape δ α) (means : String → δ → Raw → Option δ) : Prop :=
  ∀ name slot, shape.slots.find? (fun slot => slot.name = name) = some slot →
    ∀ draft, ReadsRaw (slot.read draft) (means name draft)

/-- One member, then the others. -/
theorem readMembers_step (hmeans : shape.Understands means) {n : Nat} {first : Bool} {draft : δ}
    {name : List Piece} {v : Raw} {gap before after s : List Char} (hgap : IsGap first gap)
    (hbefore : AllBlank before) (hafter : AllBlank after) (hvalue : Written (.value v) s)
    (hrest : IsEnded rest) {ms : List Member} {end' : List Char}
    (hmore : ∀ draft, (shape.readMembers n false draft rest).toOption =
      (shape.fill means draft ms).map (·, end')) :
    (shape.readMembers (n + 1) first draft
        (gap ++ (quoted name ++ (before ++ ':' :: (after ++ (s ++ rest)))))).toOption =
      (shape.fill means draft ((name, v) :: ms)).map (·, end') := by
  have hnext := nextKey_gap hgap name (before ++ ':' :: (after ++ (s ++ rest)))
  have hcolon := readColon_blanks hbefore (after ++ (s ++ rest))
  rw [fill, textOf?]
  cases hname : denoted? name with
  | none =>
    obtain ⟨fault, hfault⟩ := readText_none hname (before ++ ':' :: (after ++ (s ++ rest)))
    simp only [readMembers, hnext, hfault, bind, Except.bind]
    rfl
  | some key =>
    have hkey := readText_some hname (before ++ ':' :: (after ++ (s ++ rest)))
    simp only [readMembers, hnext, hkey, hcolon, bind, Except.bind, Option.map_some,
      Option.bind_some]
    cases hslot : shape.slots.find? (fun slot => slot.name = String.ofList key) with
    | none =>
      simp only [skipValue_written hvalue hafter hrest]
      exact hmore draft
    | some slot =>
      dsimp only
      cases slot.isFilled draft with
      | true => rfl
      | false =>
        have hread := hmeans _ _ hslot draft hvalue hafter hrest
        rw [if_neg Bool.false_ne_true, if_neg Bool.false_ne_true]
        cases hmember : means (String.ofList key) draft v with
        | none =>
          rw [hmember] at hread
          obtain ⟨fault, hfault⟩ := toOption_eq_none hread
          rw [hfault]
          rfl
        | some draft' =>
          rw [hmember] at hread
          rw [toOption_eq_some hread]
          exact hmore draft'

/-- **The members of a map fill a draft.** -/
theorem readMembers_written (hmeans : shape.Understands means) (rest : List Char) :
    ∀ {ms : List Member} {s : List Char} {n : Nat} {first : Bool} {draft : δ},
      Written (.members first ms) s → ms.length < n →
        (shape.readMembers n first draft (s ++ rest)).toOption =
          (shape.fill means draft ms).map (·, rest)
  | _, _, 0, _, _, _, hn => absurd hn (Nat.not_lt_zero _)
  | _, _, n + 1, first, draft, .noMembers hblanks, _ => by
    have hend := nextKey_end first hblanks rest
    rw [List.append_assoc, List.singleton_append, fill]
    simp only [readMembers, hend, bind, Except.bind]
    cases shape.finish draft <;> rfl
  | _, _, n + 1, first, draft, .member hgap hbefore hafter hvalue hothers, hn => by
    simp only [List.append_assoc, List.cons_append]
    exact readMembers_step hmeans hgap hbefore hafter hvalue (hothers.isEnded_members rest)
      fun draft => readMembers_written hmeans rest hothers (Nat.lt_of_succ_lt_succ hn)

/-- **A map is decoded by its members**, whatever the blanks in the text. -/
theorem decode_object (hmeans : shape.Understands means) {ms : List Member} {text : List Char}
    (h : IsObject ms text) :
    (decode shape.read text).toOption = shape.fill means shape.start ms := by
  obtain ⟨before, s, after, hbefore, hafter, hwritten, rfl⟩ := h
  cases hwritten with
  | @map _ s hmembers =>
    have hskip : skipBlank (before ++ ('\x7b' :: s ++ after)) = '\x7b' :: (s ++ after) :=
      skipBlank_to hbefore rfl _
    have hlength := hmembers.length_lt
    have hcount : ms.length < (s ++ after).length + 1 := by
      rw [List.length_append]
      omega
    have hread : (shape.readMembers _ true shape.start (s ++ after)).toOption = _ :=
      readMembers_written hmeans after hmembers hcount
    have hend : skipBlank after = [] := by
      have hall := skipBlank_append hafter []
      rwa [List.append_nil] at hall
    simp only [decode, read, hskip, bind, Except.bind]
    cases hfill : shape.fill means shape.start ms with
    | none =>
      rw [hfill] at hread
      obtain ⟨fault, hfault⟩ := toOption_eq_none hread
      rw [hfault]
      rfl
    | some a =>
      rw [hfill] at hread
      rw [toOption_eq_some hread]
      simp only [hend]
      rfl

end Shape

end Json
end RuleHarvest
