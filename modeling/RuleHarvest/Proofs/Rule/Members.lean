/-
# What members a request and a record need

Which record an object text holds is told by its members, name by name: an address, the
fields and a time must be there exactly once, a rule id and a title at most once, and
all names must be texts (`recordIn?`). The shape fills a draft member by member instead.
By induction on the members, the draft comes to hold what each name has
(`fill_recordDraft`); so the order of the members does not show in it.

Key definitions: `found`, `only?`, `requestIn?`, `recordIn?`, `gather`.
Key theorems: `recordDraft?_cons`, `decodeRecord_object`, `decodeRequest_object`.
-/
import RuleHarvest.Proofs.Json.Members
import RuleHarvest.Rule.Encoding

namespace RuleHarvest

open Json

variable {α : Type} {ms ms' : List Member}

/-! ### Members by their names -/

def Json.Shape.names {δ : Type} (shape : Shape δ α) : List String := shape.slots.map (·.name)

theorem Json.Shape.find?_slots_eq_none {δ : Type} (shape : Shape δ α) {k : String}
    (h : k ∉ shape.names) : shape.slots.find? (fun slot => slot.name = k) = none := by
  rw [List.find?_eq_none]
  intro slot hslot hk
  exact h (List.mem_map.2 ⟨slot, hslot, of_decide_eq_true hk⟩)

/-- The values of all members of a name, in their order. -/
def found (name : String) (ms : List Member) : List Raw :=
  ms.filterMap fun m => if textOf? m.1 = some name then some m.2 else none

theorem found_cons (name : String) (m : Member) (ms : List Member) :
    found name (m :: ms) =
      if textOf? m.1 = some name then m.2 :: found name ms else found name ms := by
  unfold found
  rw [List.filterMap_cons]
  by_cases hname : textOf? m.1 = some name
  · simp only [hname, if_true]
  · simp only [hname, if_false]

theorem found_append (name : String) (ms ms' : List Member) :
    found name (ms ++ ms') = found name ms ++ found name ms' := List.filterMap_append

/-- All names are texts. -/
def NamesAreTexts (ms : List Member) : Prop := ∀ m ∈ ms, (textOf? m.1).isSome = true

instance (ms : List Member) : Decidable (NamesAreTexts ms) :=
  inferInstanceAs (Decidable (∀ m ∈ ms, (textOf? m.1).isSome = true))

theorem namesAreTexts_cons {m : Member} :
    NamesAreTexts (m :: ms) ↔ (textOf? m.1).isSome = true ∧ NamesAreTexts ms := List.forall_mem_cons

/-- What the only one of some values means. -/
def only? (value? : Raw → Option α) : List Raw → Option α
  | [v] => value? v
  | _ => none

theorem only?_eq_none {value? : Raw → Option α} {vs : List Raw} (h : 2 ≤ vs.length) :
    only? value? vs = none := by
  rcases vs with _ | ⟨v, _ | ⟨w, vs⟩⟩
  · rfl
  · exact absurd h (by simp)
  · rfl

theorem only?_eq_some {value? : Raw → Option α} {vs : List Raw} {a : α}
    (h : only? value? vs = some a) : ∃ v, vs = [v] ∧ value? v = some a := by
  rcases vs with _ | ⟨v, _ | ⟨w, vs⟩⟩
  · cases h
  · exact ⟨v, rfl, h⟩
  · cases h

/-- The text that the only one of some values says, if there is one. `null` says none. -/
def optional? : List Raw → Option (Option String)
  | [] => some none
  | vs => only? Raw.textOrNull? vs

theorem optional?_eq_none {vs : List Raw} (h : 2 ≤ vs.length) : optional? vs = none := by
  rcases vs with _ | ⟨v, vs⟩
  · cases h
  · exact only?_eq_none h

theorem length_le_one_of_optional? {vs : List Raw} {s : Option String} (h : optional? vs = some s) :
    vs.length ≤ 1 := by
  refine Nat.le_of_not_lt fun hmore => ?_
  rw [optional?_eq_none hmore] at h
  cases h

/-- The map of the fields in a value. -/
def Json.Raw.fieldMap? (v : Raw) : Option FieldMap := v.entries?.map FieldMap.ofList

/-- The request that members come to. -/
def requestIn? (ms : List Member) : Option Request :=
  if NamesAreTexts ms then do
    let url ← only? Raw.text? (found "url" ms)
    some { url }
  else none

/-- The record that members come to. -/
def recordIn? (ms : List Member) : Option Record :=
  if NamesAreTexts ms then do
    let url ← only? Raw.text? (found "url" ms)
    let ruleId ← optional? (found "rule_id" ms)
    let title ← optional? (found "title" ms)
    let fields ← only? Raw.fieldMap? (found "fields" ms)
    let scrapedAt ← only? Raw.text? (found "scraped_at" ms)
    some { url, ruleId, title, fields, scrapedAt }
  else none

/-! ### Drafts -/

/-- What a draft holds of a member in the end: what it held before, or what the only
value means. -/
def gather (value? : Raw → Option α) : Option α → List Raw → Option (Option α)
  | o, [] => some o
  | none, vs => (only? value? vs).map some
  | some _, _ => none

theorem gather_nil (value? : Raw → Option α) (o : Option α) : gather value? o [] = some o := by
  cases o <;> rfl

theorem gather_cons (value? : Raw → Option α) (o : Option α) (v : Raw) (vs : List Raw) :
    gather value? o (v :: vs) =
      if o.isSome then none else (value? v).bind fun a => gather value? (some a) vs := by
  cases o with
  | some a => rfl
  | none =>
    rcases vs with _ | ⟨w, ws⟩
    · cases hvalue : value? v <;> simp [gather, only?, hvalue]
    · cases hvalue : value? v <;> simp [gather, only?]

/-- What the value of a member of a record makes of its draft. -/
def recordMeans (name : String) (d : RecordDraft) : Raw → Option RecordDraft :=
  if name = "url" then
    fun v => v.text?.map fun url => { d with url := some url }
  else if name = "rule_id" then
    fun v => v.textOrNull?.map fun ruleId => { d with ruleId := some ruleId }
  else if name = "title" then
    fun v => v.textOrNull?.map fun title => { d with title := some title }
  else if name = "fields" then
    fun v => v.entries?.map fun fields => { d with fields := some fields }
  else if name = "scraped_at" then
    fun v => v.text?.map fun scrapedAt => { d with scrapedAt := some scrapedAt }
  else fun _ => none

/-- What members make of the draft of a record. -/
def recordDraft? (d : RecordDraft) (ms : List Member) : Option RecordDraft :=
  if NamesAreTexts ms then do
    let url ← gather Raw.text? d.url (found "url" ms)
    let ruleId ← gather Raw.textOrNull? d.ruleId (found "rule_id" ms)
    let title ← gather Raw.textOrNull? d.title (found "title" ms)
    let fields ← gather Raw.entries? d.fields (found "fields" ms)
    let scrapedAt ← gather Raw.text? d.scrapedAt (found "scraped_at" ms)
    some { url, ruleId, title, fields, scrapedAt }
  else none

theorem mem_recordNames {k : String} : k ∈ recordShape.names ↔ k = "url" ∨ k = "rule_id" ∨
    k = "title" ∨ k = "fields" ∨ k = "scraped_at" := by
  simp [Shape.names, recordShape, Slot.of]

theorem recordDraft?_cons {name : List Piece} {k : String} (hname : textOf? name = some k) (v : Raw)
    (d : RecordDraft) : recordDraft? d ((name, v) :: ms) =
      match recordShape.slots.find? (fun slot => slot.name = k) with
      | none => recordDraft? d ms
      | some slot =>
        if slot.isFilled d then none else (recordMeans k d v).bind fun d => recordDraft? d ms := by
  have hnames : NamesAreTexts ((name, v) :: ms) ↔ NamesAreTexts ms := by
    simp [namesAreTexts_cons, hname]
  by_cases hk : k ∈ recordShape.names
  · -- each known name has its own part of the draft, and leaves the others
    rcases mem_recordNames.1 hk with rfl | rfl | rfl | rfl | rfl
    · cases hfilled : d.url.isSome <;> cases hvalue : v.text? <;>
        simp [recordShape, Slot.of, recordDraft?, recordMeans, found_cons, gather_cons, *]
    · cases hfilled : d.ruleId.isSome <;> cases hvalue : v.textOrNull? <;>
        simp [recordShape, Slot.of, recordDraft?, recordMeans, found_cons, gather_cons, *]
    · cases hfilled : d.title.isSome <;> cases hvalue : v.textOrNull? <;>
        simp [recordShape, Slot.of, recordDraft?, recordMeans, found_cons, gather_cons, *]
    · cases hfilled : d.fields.isSome <;> cases hvalue : v.entries? <;>
        simp [recordShape, Slot.of, recordDraft?, recordMeans, found_cons, gather_cons, *]
    · cases hfilled : d.scrapedAt.isSome <;> cases hvalue : v.text? <;>
        simp [recordShape, Slot.of, recordDraft?, recordMeans, found_cons, gather_cons, *]
  · have hslot := recordShape.find?_slots_eq_none hk
    rw [mem_recordNames] at hk
    push Not at hk
    simp [recordDraft?, found_cons, *]

theorem fill_recordDraft : ∀ (ms : List Member) (d : RecordDraft),
    recordShape.fill recordMeans d ms = (recordDraft? d ms).bind fun d => d.finish.toOption
  | [], d => by
    simp only [Shape.fill, recordDraft?, NamesAreTexts, found, List.filterMap_nil, gather_nil]
    rfl
  | (name, v) :: ms, d => by
    have ih := fill_recordDraft ms
    rw [Shape.fill]
    cases hname : textOf? name with
    | none => simp [recordDraft?, namesAreTexts_cons, hname]
    | some k =>
      rw [Option.bind_some, recordDraft?_cons hname]
      cases recordShape.slots.find? (fun slot => slot.name = k) with
      | none => exact ih d
      | some slot =>
        dsimp only
        cases slot.isFilled d with
        | true => rfl
        | false =>
          simp only [ih, Bool.false_eq_true, if_false, Option.bind_assoc]

theorem finish_eq (d : RecordDraft) : d.finish.toOption = d.url.bind fun url =>
    d.fields.bind fun fields => d.scrapedAt.bind fun scrapedAt => some
      { url, ruleId := d.ruleId.join, title := d.title.join, fields := .ofList fields, scrapedAt } := by
  rcases d with ⟨_ | url, ruleId, title, _ | fields, _ | scrapedAt⟩ <;> rfl

/-- What must be there is the only one, rather than at most one. -/
theorem gather_none (value? : Raw → Option α) (vs : List Raw) :
    only? value? vs = none ∧ gather value? none vs = some none ∨
      gather value? none vs = (only? value? vs).bind fun a => some (some a) := by
  rcases vs with _ | ⟨v, vs⟩
  · exact .inl ⟨rfl, rfl⟩
  · exact .inr Option.map_eq_bind

theorem optional?_eq (vs : List Raw) :
    optional? vs = (gather Raw.textOrNull? none vs).bind fun o => some o.join := by
  rcases vs with _ | ⟨v, vs⟩
  · rfl
  · rw [optional?, gather]
    · cases only? Raw.textOrNull? (v :: vs) <;> rfl
    all_goals exact List.cons_ne_nil v vs

theorem only?_map {β : Type} (value? : Raw → Option α) (f : α → β) (vs : List Raw) :
    only? (fun v => (value? v).map f) vs = (only? value? vs).bind fun a => some (f a) := by
  rcases vs with _ | ⟨v, _ | ⟨w, vs⟩⟩
  · rfl
  · exact Option.map_eq_bind
  · rfl

theorem recordDraft?_start (ms : List Member) :
    ((recordDraft? {} ms).bind fun d => d.finish.toOption) = recordIn? ms := by
  unfold recordDraft? recordIn?
  by_cases hnames : NamesAreTexts ms
  · rw [if_pos hnames, if_pos hnames]
    have hfields : only? Raw.fieldMap? (found "fields" ms) = _ :=
      only?_map Raw.entries? FieldMap.ofList (found "fields" ms)
    simp only [finish_eq, bind, Option.bind_assoc, Option.bind_some, hfields, optional?_eq]
    rcases gather_none Raw.text? (found "url" ms) with ⟨h, h'⟩ | h
    · simp [h, h']
    rcases gather_none Raw.entries? (found "fields" ms) with ⟨h₂, h₂'⟩ | h₂
    · simp [h, h₂, h₂']
    rcases gather_none Raw.text? (found "scraped_at" ms) with ⟨h₃, h₃'⟩ | h₃
    · simp [h, h₂, h₃, h₃']
    · simp only [h, h₂, h₃, Option.bind_assoc, Option.bind_some]
  · rw [if_neg hnames, if_neg hnames]
    rfl

/-! ### Objects -/

theorem recordShape_understands : recordShape.Understands recordMeans := by
  intro name slot hslot draft
  have hname := List.find?_some hslot
  rw [decide_eq_true_eq] at hname
  subst hname
  have hmem : slot ∈ recordShape.slots := List.mem_of_find?_eq_some hslot
  simp only [recordShape, List.mem_cons, List.not_mem_nil, or_false] at hmem
  rcases hmem with rfl | rfl | rfl | rfl | rfl
  · simpa [recordMeans, Slot.of] using
      readsRaw_map readsRaw_textValue fun url => { draft with url := some url }
  · simpa [recordMeans, Slot.of] using
      readsRaw_map readsRaw_textOrNull fun ruleId => { draft with ruleId := some ruleId }
  · simpa [recordMeans, Slot.of] using
      readsRaw_map readsRaw_textOrNull fun title => { draft with title := some title }
  · simpa [recordMeans, Slot.of] using
      readsRaw_map readsRaw_textMap fun fields => { draft with fields := some fields }
  · simpa [recordMeans, Slot.of] using
      readsRaw_map readsRaw_textValue fun scrapedAt => { draft with scrapedAt := some scrapedAt }

/-- **The record in an object text** is the one its members come to. -/
theorem decodeRecord_object {text : String} (h : IsObject ms text.toList) :
    (decodeRecord text).toOption = recordIn? ms :=
  (Shape.decode_object recordShape_understands h).trans
    ((fill_recordDraft ms {}).trans (recordDraft?_start ms))

/-- What the value of a member of a request makes of its draft. -/
def requestMeans (_ : String) (_ : Option String) (v : Raw) : Option (Option String) :=
  v.text?.map some

theorem mem_requestNames {k : String} : k ∈ requestShape.names ↔ k = "url" := by
  simp [Shape.names, requestShape, Slot.of]

theorem fill_requestDraft : ∀ (ms : List Member) (d : Option String),
    requestShape.fill requestMeans d ms =
      if NamesAreTexts ms then (gather Raw.text? d (found "url" ms)).bind (·.map Request.mk)
      else none
  | [], d => by
    rcases d with _ | url <;> rfl
  | (name, v) :: ms, d => by
    have ih := fill_requestDraft ms
    rw [Shape.fill]
    cases hname : textOf? name with
    | none => simp [namesAreTexts_cons, hname]
    | some k =>
      rw [Option.bind_some]
      by_cases hk : k ∈ requestShape.names
      · obtain rfl := mem_requestNames.1 hk
        have hslot : requestShape.slots.find? (fun slot => slot.name = "url") =
          some (.of "url" textValue id fun _ url => url) := rfl
        simp only [hslot]
        rcases d with _ | url <;> cases hvalue : v.text? <;>
          simp [Slot.of, requestMeans, found_cons, gather_cons, namesAreTexts_cons, *]
      · have hslot := requestShape.find?_slots_eq_none hk
        rw [mem_requestNames] at hk
        simp [found_cons, namesAreTexts_cons, *]

theorem requestShape_understands : requestShape.Understands requestMeans := by
  intro name slot hslot draft
  have hmem : slot ∈ requestShape.slots := List.mem_of_find?_eq_some hslot
  obtain rfl := List.mem_singleton.1 hmem
  exact readsRaw_map readsRaw_textValue some

/-- **The request in an object text** is the one its members come to. -/
theorem decodeRequest_object {text : String} (h : IsObject ms text.toList) :
    (decodeRequest text).toOption = requestIn? ms := by
  have hfill := fill_requestDraft ms none
  refine (Shape.decode_object requestShape_understands h).trans (hfill.trans ?_)
  unfold requestIn?
  by_cases hnames : NamesAreTexts ms
  · rw [if_pos hnames, if_pos hnames]
    rcases gather_none Raw.text? (found "url" ms) with ⟨h, h'⟩ | h
    · simp [h, h']
    · simp only [h, Option.map_eq_bind, Option.bind_assoc, Option.bind_some]
      rfl
  · rw [if_neg hnames, if_neg hnames]

end RuleHarvest
