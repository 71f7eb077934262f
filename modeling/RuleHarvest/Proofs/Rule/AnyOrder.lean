/-
# Requests and records in any order of members

An object is told by its members, whatever the blanks in its text. So what is decoded
from it stays the same under every change that leaves to each known name what it has
(`Change.found_cases`): another order of the members, a member of an unknown name more,
`null` for a text that may be missing, another order of the fields. For the last the map
of the fields must not show the order of its entries, which holds when their keys are
distinct (`fieldMap?_perm`); of equal keys the last one counts.

Key definitions: `Change`, `RecordChange`, `RequestChange`, `HoldsRecord`.
Key theorems: `fieldMap?_perm`, `Change.found_cases`, `RecordChange.recordIn?_eq`,
`RequestChange.requestIn?_eq`, `recordIn?_eq_some`, `decoded_by_members`.
-/
import Mathlib.Data.List.Forall2
import Mathlib.Data.List.Perm.Basic
import Mathlib.Logic.Relation
import RuleHarvest.Proofs.Json.Accepted
import RuleHarvest.Proofs.Rule.FieldMap
import RuleHarvest.Proofs.Rule.Members
import RuleHarvest.Proofs.Rule.ReadBack

namespace RuleHarvest

open Json

variable {α : Type} {ms ms' : List Member}

/-! ### Maps of fields -/

theorem mapM_eq_some_iff {β γ : Type} {f : β → Option γ} : ∀ {l : List β} {r : List γ},
    l.mapM f = some r ↔ List.Forall₂ (fun a b => f a = some b) l r
  | [], r => by
    rw [List.mapM_nil, List.forall₂_nil_left_iff]
    exact ⟨fun h => (Option.some.inj h).symm, fun h => by rw [h]; rfl⟩
  | a :: l, r => by
    rw [List.mapM_cons, List.forall₂_cons_left_iff]
    constructor
    · intro h
      obtain ⟨b, hb, h⟩ := Option.bind_eq_some_iff.1 h
      obtain ⟨bs, hbs, h⟩ := Option.bind_eq_some_iff.1 h
      exact ⟨b, bs, hb, mapM_eq_some_iff.1 hbs, (Option.some.inj h).symm⟩
    · rintro ⟨b, bs, hb, hbs, rfl⟩
      simp [hb, mapM_eq_some_iff.2 hbs]

/-- The texts that members are named by. -/
def keysIn (es : List Member) : List String := es.filterMap fun e => textOf? e.1

theorem keysIn_perm {es es' : List Member} (h : es.Perm es') : (keysIn es).Perm (keysIn es') :=
  h.filterMap _

/-- The keys of the entries are the names of the members. -/
theorem map_fst_entries {es : List Member} {entries : List (String × String)}
    (h : List.Forall₂ (fun e entry => Raw.entry? e = some entry) es entries) :
    entries.map (·.1) = keysIn es := by
  induction h with
  | nil => rfl
  | cons hentry hrest ih =>
    obtain ⟨key, hkey, hvalue⟩ := Option.bind_eq_some_iff.1 hentry
    obtain ⟨value, -, rfl⟩ := Option.map_eq_some_iff.1 hvalue
    rw [List.map_cons, ih, keysIn, keysIn, List.filterMap_cons, hkey]

/-- **Fields of different keys come to the same map in any order.** -/
theorem fieldMap?_perm {es es' : List Member} (h : es.Perm es')
    (hkeys : (keysIn es).Nodup) :
    (Raw.map es).fieldMap? = (Raw.map es').fieldMap? := by
  -- both maps are the same once one is found, and both directions are alike
  have hto : ∀ {es es' : List Member}, es.Perm es' → (keysIn es).Nodup →
      ∀ m, (Raw.map es).fieldMap? = some m → (Raw.map es').fieldMap? = some m := by
    intro es es' h hkeys m hm
    obtain ⟨entries, hentries, rfl⟩ := Option.map_eq_some_iff.1 hm
    have hall := mapM_eq_some_iff.1 hentries
    obtain ⟨entries', hall', hperm⟩ := List.perm_comp_forall₂ h.symm hall
    have hmap : FieldMap.ofList entries = FieldMap.ofList entries' :=
      FieldMap.ofList_perm hperm.symm (by rwa [map_fst_entries hall])
    rw [hmap]
    exact Option.map_eq_some_iff.2 ⟨entries', mapM_eq_some_iff.2 hall', rfl⟩
  exact Option.ext fun m =>
    ⟨hto h hkeys m, hto h.symm ((keysIn_perm h).nodup_iff.1 hkeys) m⟩

/-! ### Changes -/

/-- A change of the members of an object that leaves what it holds: their order, a member
of an unknown name, `null` for a text that may be missing, or the order of the entries
of a map when their keys are distinct. -/
inductive Change (known nullable maps : List String) : List Member → List Member → Prop where
  /-- Another order. -/
  | order {ms ms' : List Member} (h : ms.Perm ms') : Change known nullable maps ms ms'
  /-- A member more, whose name is a text that is not known, whatever its value. -/
  | unknown {before after name k} (v : Raw) (hname : textOf? name = some k) (hk : k ∉ known) :
    Change known nullable maps (before ++ after) (before ++ (name, v) :: after)
  /-- `null` for the only member of a name. -/
  | null {before after name k} (hname : textOf? name = some k) (hk : k ∈ nullable)
    (hnone : found k (before ++ after) = []) :
    Change known nullable maps (before ++ after) (before ++ (name, .word .null) :: after)
  /-- Another order of entries of different keys. -/
  | entries {before after name k es es'} (hname : textOf? name = some k) (hk : k ∈ maps)
    (hes : es.Perm es') (hkeys : (keysIn es).Nodup) :
    Change known nullable maps (before ++ (name, .map es) :: after)
      (before ++ (name, .map es') :: after)

variable {known nullable maps : List String}

theorem namesAreTexts_append : NamesAreTexts (ms ++ ms') ↔ NamesAreTexts ms ∧ NamesAreTexts ms' :=
  List.forall_mem_append

theorem Change.namesAreTexts (h : Change known nullable maps ms ms') :
    NamesAreTexts ms ↔ NamesAreTexts ms' := by
  cases h with
  | order h =>
    exact ⟨fun hnames m hm => hnames m (h.mem_iff.2 hm),
      fun hnames m hm => hnames m (h.mem_iff.1 hm)⟩
  | unknown v hname hk => simp [namesAreTexts_append, namesAreTexts_cons, hname]
  | null hname hk hnone => simp [namesAreTexts_append, namesAreTexts_cons, hname]
  | entries hname hk hes hkeys => simp [namesAreTexts_append, namesAreTexts_cons, hname]

theorem found_middle {name : List Piece} {k : String} (hname : textOf? name = some k) (v : Raw)
    (before after : List Member) (k' : String) : found k' (before ++ (name, v) :: after) =
      found k' before ++ ((if k = k' then [v] else []) ++ found k' after) := by
  rw [found_append, found_cons, hname]
  by_cases hk : k = k'
  · rw [if_pos (congrArg some hk), if_pos hk]
    rfl
  · rw [if_neg fun h => hk (Option.some.inj h), if_neg hk]
    rfl

/-- What a change does to the values of one known name. -/
theorem Change.found_cases (h : Change known nullable maps ms ms') {k : String} (hk : k ∈ known) :
    (found k ms).Perm (found k ms') ∨
    (k ∈ nullable ∧ found k ms = [] ∧ found k ms' = [.word .null]) ∨
    (k ∈ maps ∧ ∃ vs ws es es', found k ms = vs ++ .map es :: ws ∧
      found k ms' = vs ++ .map es' :: ws ∧ es.Perm es' ∧ (keysIn es).Nodup) := by
  cases h with
  | order h => exact .inl (h.filterMap _)
  | @unknown before after name k' v hname hk' =>
    have hne : k' ≠ k := fun heq => hk' (heq ▸ hk)
    rw [found_middle hname, if_neg hne, found_append]
    exact .inl (.refl _)
  | @null before after name k' hname hk' hnone =>
    by_cases heq : k' = k
    · subst heq
      refine .inr (.inl ⟨hk', hnone, ?_⟩)
      rw [found_append, List.append_eq_nil_iff] at hnone
      rw [found_middle hname, if_pos rfl, hnone.1, hnone.2]
      rfl
    · rw [found_middle hname, if_neg heq, found_append]
      exact .inl (.refl _)
  | @entries before after name k' es es' hname hk' hes hkeys =>
    rw [found_middle hname, found_middle hname]
    by_cases heq : k' = k
    · subst heq
      rw [if_pos rfl, if_pos rfl]
      exact .inr (.inr ⟨hk', _, _, es, es', rfl, rfl, hes, hkeys⟩)
    · rw [if_neg heq, if_neg heq]
      exact .inl (.refl _)

theorem perm_le_one {vs vs' : List α} (h : vs.Perm vs') :
    vs = vs' ∨ 2 ≤ vs.length ∧ 2 ≤ vs'.length := by
  have hlength := h.length_eq
  rcases vs with _ | ⟨v, _ | ⟨w, vs⟩⟩
  · exact .inl (List.nil_perm.1 h).symm
  · exact .inl (List.perm_singleton.1 h.symm).symm
  · simp only [List.length_cons] at hlength ⊢
    exact .inr ⟨by omega, by omega⟩

theorem only?_middle {value? : Raw → Option α} {a b : Raw} (h : value? a = value? b)
    (vs ws : List Raw) : only? value? (vs ++ a :: ws) = only? value? (vs ++ b :: ws) := by
  rcases vs with _ | ⟨v, vs⟩
  · rcases ws with _ | ⟨w, ws⟩
    · exact h
    · rfl
  · rw [only?_eq_none (by simp; omega), only?_eq_none (by simp; omega)]

/-- A name that must be there. -/
theorem Change.only?_eq (h : Change known nullable maps ms ms') {k : String} (hk : k ∈ known)
    (hnullable : k ∉ nullable) {value? : Raw → Option α}
    (hmaps : k ∈ maps → ∀ es es', es.Perm es' → (keysIn es).Nodup →
      value? (.map es) = value? (.map es')) :
    only? value? (found k ms) = only? value? (found k ms') := by
  rcases h.found_cases hk with hperm | ⟨hmem, -⟩ | ⟨hmem, vs, ws, es, es', hms, hms', hes, hkeys⟩
  · rcases perm_le_one hperm with heq | ⟨hmore, hmore'⟩
    · rw [heq]
    · rw [only?_eq_none hmore, only?_eq_none hmore']
  · exact absurd hmem hnullable
  · rw [hms, hms']
    exact only?_middle (hmaps hmem es es' hes hkeys) vs ws

/-- A name that may be missing. -/
theorem Change.optional?_eq (h : Change known nullable maps ms ms') {k : String} (hk : k ∈ known)
    (hmaps : k ∉ maps) : optional? (found k ms) = optional? (found k ms') := by
  rcases h.found_cases hk with hperm | ⟨-, hms, hms'⟩ | ⟨hmem, -⟩
  · rcases perm_le_one hperm with heq | ⟨hmore, hmore'⟩
    · rw [heq]
    · rw [optional?_eq_none hmore, optional?_eq_none hmore']
  · rw [hms, hms']
    rfl
  · exact absurd hmem hmaps

/-! ### Records and requests -/

/-- Changes that leave the record in an object. -/
def RecordChange : List Member → List Member → Prop :=
  Change recordShape.names ["rule_id", "title"] ["fields"]

/-- Changes that leave the request in an object. -/
def RequestChange : List Member → List Member → Prop := Change requestShape.names [] []

theorem RecordChange.recordIn?_eq (h : RecordChange ms ms') : recordIn? ms = recordIn? ms' := by
  have hurl : only? Raw.text? (found "url" ms) = only? Raw.text? (found "url" ms') :=
    h.only?_eq (mem_recordNames.2 (by simp)) (by simp) (by simp)
  have hruleId : optional? (found "rule_id" ms) = optional? (found "rule_id" ms') :=
    h.optional?_eq (mem_recordNames.2 (by simp)) (by simp)
  have htitle : optional? (found "title" ms) = optional? (found "title" ms') :=
    h.optional?_eq (mem_recordNames.2 (by simp)) (by simp)
  have hfields : only? Raw.fieldMap? (found "fields" ms) =
      only? Raw.fieldMap? (found "fields" ms') :=
    h.only?_eq (mem_recordNames.2 (by simp)) (by simp) fun _ _ _ hes hkeys =>
      fieldMap?_perm hes hkeys
  have hscrapedAt : only? Raw.text? (found "scraped_at" ms) =
      only? Raw.text? (found "scraped_at" ms') :=
    h.only?_eq (mem_recordNames.2 (by simp)) (by simp) (by simp)
  simp only [recordIn?, h.namesAreTexts, hurl, hruleId, htitle, hfields, hscrapedAt]

theorem RequestChange.requestIn?_eq (h : RequestChange ms ms') : requestIn? ms = requestIn? ms' := by
  have hurl : only? Raw.text? (found "url" ms) = only? Raw.text? (found "url" ms') :=
    h.only?_eq (mem_requestNames.2 rfl) (by simp) (by simp)
  simp only [requestIn?, h.namesAreTexts, hurl]

/-- What every step of a chain leaves, the chain leaves. -/
theorem eq_of_eqvGen {β : Type} {r : List Member → List Member → Prop} {f : List Member → β}
    (hstep : ∀ {ms ms'}, r ms ms' → f ms = f ms') (h : Relation.EqvGen r ms ms') : f ms = f ms' := by
  induction h with
  | rel ms ms' h => exact hstep h
  | refl ms => rfl
  | symm ms ms' _ ih => exact ih.symm
  | trans ms₁ ms₂ ms₃ _ _ ih ih' => exact ih.trans ih'

/-! ### What is accepted -/

/-- What an object has that holds a record. -/
structure HoldsRecord (ms : List Member) (r : Record) : Prop where
  /-- No known member is repeated. -/
  once : ∀ name ∈ recordShape.names, (found name ms).length ≤ 1
  url : ∃ v, found "url" ms = [v] ∧ v.text? = some r.url
  scrapedAt : ∃ v, found "scraped_at" ms = [v] ∧ v.text? = some r.scrapedAt
  /-- Of repeated keys among the fields the last one counts. -/
  fields : ∃ es entries, found "fields" ms = [.map es] ∧ es.mapM Raw.entry? = some entries ∧
    ∀ key, r.fields.get? key = entries.reverse.lookup key

theorem fieldMap?_eq_some {v : Raw} {m : FieldMap} (h : v.fieldMap? = some m) :
    ∃ es entries, v = .map es ∧ es.mapM Raw.entry? = some entries ∧
      ∀ key, m.get? key = entries.reverse.lookup key := by
  obtain ⟨entries, hentries, rfl⟩ := Option.map_eq_some_iff.1 h
  cases v with
  | map es => exact ⟨es, entries, rfl, hentries, FieldMap.get?_ofList entries⟩
  | _ => cases hentries

theorem recordIn?_eq_some {r : Record} (h : recordIn? ms = some r) : HoldsRecord ms r := by
  unfold recordIn? at h
  by_cases hnames : NamesAreTexts ms
  · rw [if_pos hnames] at h
    obtain ⟨url, hurl, h⟩ := Option.bind_eq_some_iff.1 h
    obtain ⟨ruleId, hruleId, h⟩ := Option.bind_eq_some_iff.1 h
    obtain ⟨title, htitle, h⟩ := Option.bind_eq_some_iff.1 h
    obtain ⟨fields, hfields, h⟩ := Option.bind_eq_some_iff.1 h
    obtain ⟨scrapedAt, hscrapedAt, h⟩ := Option.bind_eq_some_iff.1 h
    obtain rfl := Option.some.inj h
    have hfoundUrl := only?_eq_some hurl
    have hfoundScrapedAt := only?_eq_some hscrapedAt
    obtain ⟨v, hfound, hv⟩ := only?_eq_some hfields
    obtain ⟨es, entries, rfl, hentries, hlast⟩ := fieldMap?_eq_some hv
    refine ⟨fun name hname => ?_, hfoundUrl, hfoundScrapedAt, es, entries, hfound, hentries, hlast⟩
    rcases mem_recordNames.1 hname with rfl | rfl | rfl | rfl | rfl
    · obtain ⟨w, hw, -⟩ := hfoundUrl
      exact Nat.le_of_eq (congrArg List.length hw)
    · exact length_le_one_of_optional? hruleId
    · exact length_le_one_of_optional? htitle
    · exact Nat.le_of_eq (congrArg List.length hfound)
    · obtain ⟨w, hw, -⟩ := hfoundScrapedAt
      exact Nat.le_of_eq (congrArg List.length hw)
  · rw [if_neg hnames] at h
    cases h

theorem requestIn?_eq_some {r : Request} (h : requestIn? ms = some r) :
    ∃ v, found "url" ms = [v] ∧ v.text? = some r.url := by
  unfold requestIn? at h
  by_cases hnames : NamesAreTexts ms
  · rw [if_pos hnames] at h
    obtain ⟨url, hurl, h⟩ := Option.bind_eq_some_iff.1 h
    obtain rfl := Option.some.inj h
    exact only?_eq_some hurl
  · rw [if_neg hnames] at h
    cases h

theorem decodeRecord_holds {text : String} {r : Record} (h : IsObject ms text.toList)
    (hr : decodeRecord text = .ok r) : HoldsRecord ms r := by
  have hmembers := decodeRecord_object h
  rw [hr] at hmembers
  exact recordIn?_eq_some hmembers.symm

theorem decodeRequest_holds {text : String} {r : Request} (h : IsObject ms text.toList)
    (hr : decodeRequest text = .ok r) : ∃ v, found "url" ms = [v] ∧ v.text? = some r.url := by
  have hmembers := decodeRequest_object h
  rw [hr] at hmembers
  exact requestIn?_eq_some hmembers.symm

/-- A text in which a record is found holds an object, unless it holds a list. -/
theorem isObject_of_decodeRecord {text : String} {r : Record} (h : decodeRecord text = .ok r) :
    (∃ ms, IsObject ms text.toList) ∨ (skipBlank text.toList).head? = some '[' := by
  refine Shape.isObject_of_decode (fun slot hslot draft => ?_) h
  simp only [recordShape, List.mem_cons, List.not_mem_nil, or_false] at hslot
  rcases hslot with rfl | rfl | rfl | rfl | rfl
  · exact textValue_ok.slot _ _ _ draft
  · exact textOrNull_ok.slot _ _ _ draft
  · exact textOrNull_ok.slot _ _ _ draft
  · exact textMap_ok.slot _ _ _ draft
  · exact textValue_ok.slot _ _ _ draft

theorem isObject_of_decodeRequest {text : String} {r : Request} (h : decodeRequest text = .ok r) :
    (∃ ms, IsObject ms text.toList) ∨ (skipBlank text.toList).head? = some '[' := by
  refine Shape.isObject_of_decode (fun slot hslot draft => ?_) h
  obtain rfl := List.mem_singleton.1 hslot
  exact textValue_ok.slot _ _ _ draft

theorem exists_fault {ε : Type} {x : Except ε α} (h : ∀ a, x ≠ .ok a) : ∃ e, x = .error e := by
  cases x with
  | error e => exact ⟨e, rfl⟩
  | ok a => exact absurd rfl (h a)

/-- Texts that are written for a value, and from which it is decoded, are written again. -/
theorem written_again {toJson : α → Value} {decode : String → Except Fault α} {a : α}
    {text : Layout → List Char} (hwrite : ∀ layout, (toJson a).write layout 0 = .ok (text layout))
    (hdecode : ∀ layout, decode (String.ofList (text layout)) = .ok a) : ∃ compact pretty,
    (toJson a).compact = .ok compact ∧ (toJson a).pretty = .ok pretty ∧
    ∀ written ∈ [compact, pretty], ∃ a', decode written = .ok a' ∧
      (toJson a').compact = .ok compact ∧ (toJson a').pretty = .ok pretty := by
  have hcompact : (toJson a).compact = .ok (String.ofList (text .compact)) := by
    rw [Value.compact, hwrite]
    rfl
  have hpretty : (toJson a).pretty = .ok (String.ofList (text .pretty)) := by
    rw [Value.pretty, hwrite]
    rfl
  refine ⟨_, _, hcompact, hpretty, fun written hwritten => ?_⟩
  rcases List.mem_pair.1 hwritten with rfl | rfl
  · exact ⟨a, hdecode .compact, hcompact, hpretty⟩
  · exact ⟨a, hdecode .pretty, hcompact, hpretty⟩

/-- **An object is decoded by its members.** What is written for a request or a record
that was decoded is decoded again and is written as the same texts, compact and pretty.
A text that is accepted holds an object, unless it begins as a list. Whether an object
holds a request or a record, and which, is the same for two texts of it with different
blanks, and stays the same along any chain of changes of its members. An object with a
known member twice is refused, as is one without a member that must be there, and of
repeated keys among the fields the last one counts. -/
theorem decoded_by_members :
    (∀ text r, decodeRecord text = .ok r → ∃ compact pretty,
      r.toJson.compact = .ok compact ∧ r.toJson.pretty = .ok pretty ∧
      ∀ written ∈ [compact, pretty], ∃ r', decodeRecord written = .ok r' ∧
        r'.toJson.compact = .ok compact ∧ r'.toJson.pretty = .ok pretty) ∧
    (∀ text r, decodeRequest text = .ok r → ∃ compact pretty,
      r.toJson.compact = .ok compact ∧ r.toJson.pretty = .ok pretty ∧
      ∀ written ∈ [compact, pretty], ∃ r', decodeRequest written = .ok r' ∧
        r'.toJson.compact = .ok compact ∧ r'.toJson.pretty = .ok pretty) ∧
    (∀ text, (∃ r, decodeRecord text = .ok r) ∨ (∃ r, decodeRequest text = .ok r) →
      (∃ ms, IsObject ms text.toList) ∨ (skipBlank text.toList).head? = some '[') ∧
    (∀ ms ms' text text', IsObject ms text.toList → IsObject ms' text'.toList →
      (Relation.EqvGen RecordChange ms ms' →
        (decodeRecord text).toOption = (decodeRecord text').toOption) ∧
      (Relation.EqvGen RequestChange ms ms' →
        (decodeRequest text).toOption = (decodeRequest text').toOption)) ∧
    ∀ ms text, IsObject ms text.toList →
      (∀ name ∈ recordShape.names, 2 ≤ (found name ms).length →
        ∃ fault, decodeRecord text = .error fault) ∧
      (∀ name ∈ ["url", "fields", "scraped_at"], found name ms = [] →
        ∃ fault, decodeRecord text = .error fault) ∧
      (∀ r, decodeRecord text = .ok r → ∃ es entries, found "fields" ms = [.map es] ∧
        es.mapM Raw.entry? = some entries ∧ ∀ key, r.fields.get? key = entries.reverse.lookup key) ∧
      ((found "url" ms).length ≠ 1 → ∃ fault, decodeRequest text = .error fault) := by
  refine ⟨fun text r _ => written_again (fun _ => r.write_eq) fun layout => r.decode_text layout 0,
    fun text r _ => written_again (fun _ => r.write_eq) fun layout => r.decode_text layout 0,
    fun text haccepted => ?_, fun ms ms' text text' h h' => ⟨fun hchange => ?_, fun hchange => ?_⟩,
    fun ms text h => ⟨fun name hname hmore => ?_, fun name hname hnone => ?_, fun r hr => ?_,
      fun hcount => ?_⟩⟩
  · rcases haccepted with ⟨r, hr⟩ | ⟨r, hr⟩
    · exact isObject_of_decodeRecord hr
    · exact isObject_of_decodeRequest hr
  · rw [decodeRecord_object h, decodeRecord_object h']
    exact eq_of_eqvGen RecordChange.recordIn?_eq hchange
  · rw [decodeRequest_object h, decodeRequest_object h']
    exact eq_of_eqvGen RequestChange.requestIn?_eq hchange
  · exact exists_fault fun r hr =>
      absurd ((decodeRecord_holds h hr).once name hname) (Nat.not_le.2 hmore)
  · refine exists_fault fun r hr => ?_
    have hholds := decodeRecord_holds h hr
    have hmissing : ∀ v, found name ms ≠ [v] := fun v hv => by
      rw [hnone] at hv
      cases hv
    rcases List.mem_cons.1 hname with rfl | hname
    · obtain ⟨v, hv, -⟩ := hholds.url
      exact hmissing v hv
    · rcases List.mem_pair.1 hname with rfl | rfl
      · obtain ⟨es, -, hes, -⟩ := hholds.fields
        exact hmissing _ hes
      · obtain ⟨v, hv, -⟩ := hholds.scrapedAt
        exact hmissing v hv
  · exact (decodeRecord_holds h hr).fields
  · refine exists_fault fun r hr => ?_
    obtain ⟨v, hv, -⟩ := decodeRequest_holds h hr
    exact hcount (congrArg List.length hv)

/-- The pieces of a text in which all characters stand for themselves. -/
def spelled (s : String) : List Piece :=
  s.toList.filterMap fun c =>
    if h : c ≠ '"' ∧ c ≠ '\\' ∧ 32 ≤ c.toNat then some (.plain c h) else none

/-- A record with and without a title, in two orders and with different blanks. -/
theorem decoded_by_members_respelled :
    let ms := [(spelled "url", .text (spelled "u")), (spelled "fields", .map []),
      (spelled "scraped_at", .text (spelled "now"))]
    let ms' := [(spelled "title", .word .null), (spelled "scraped_at", .text (spelled "now")),
      (spelled "url", .text (spelled "u")), (spelled "fields", .map [])]
    let text := String.ofList ((Raw.map ms).spread [])
    let text' := String.ofList ((Raw.map ms').spread ['\n', ' '])
    IsObject ms text.toList ∧ IsObject ms' text'.toList ∧ Relation.EqvGen RecordChange ms ms' ∧
      (decodeRecord text).toOption = (decodeRecord text').toOption ∧
      (decodeRecord text).toOption = some ⟨"u", none, none, .empty, "now"⟩ := by
  intro ms ms' text text'
  have h : IsObject ms text.toList := by
    rw [String.toList_ofList]
    exact isObject_spread allBlank_nil ms
  have h' : IsObject ms' text'.toList := by
    rw [String.toList_ofList]
    exact isObject_spread (fun c hc => by rcases List.mem_pair.1 hc with rfl | rfl <;> rfl) ms'
  have hnull : RecordChange ([] ++ ms) ([] ++ (spelled "title", .word .null) :: ms) :=
    .null (k := "title") (by decide) (by decide) (by decide)
  have hperm : (ms.take 2 ++ ms.drop 2).Perm (ms.drop 2 ++ ms.take 2) := List.perm_append_comm
  have horder : RecordChange ((spelled "title", .word .null) :: ms) ms' := .order (hperm.cons _)
  have hchange : Relation.EqvGen RecordChange ms ms' :=
    .trans _ _ _ (.rel _ _ hnull) (.rel _ _ horder)
  exact ⟨h, h', hchange, (decoded_by_members.2.2.2.1 ms ms' text text' h h').1 hchange,
    (decodeRecord_object h).trans (by decide)⟩

end RuleHarvest
