/-
# Requests and records are read back

What is written for a request or a record is told as a text (`Request.text`,
`Record.text`): the members in their fixed order, and among them the fields of
a record in the order of their keys. Reading fills the members in one after
the other (`Record.fills`), so a request, a record and a list of records are
read back from both of their layouts, and a list of records from the bytes of
an output file.

Key definitions: `Record.text`, `Request.text`, `recordsIn?`.
Key theorems: `Record.write_eq`, `Record.readsAs_text`, `recordsIn?_contentOf`,
`records_read_back`.
-/
import RuleHarvest.Proofs.Json.Shape
import RuleHarvest.Proofs.Store.Calls
import RuleHarvest.Proofs.Text.Utf8
import RuleHarvest.Rule.Encoding

namespace RuleHarvest

open Files Json

/-! ### What is written -/

/-- A request as it is written. -/
def Request.text (layout : Layout) (depth : Nat) (r : Request) : List Char :=
  bracket layout depth '\x7b' '\x7d' [entryText layout "url" (quote r.url.toList)]

/-- The fields as they are written, in ascending order of keys. -/
def FieldMap.text (layout : Layout) (depth : Nat) (m : FieldMap) : List Char :=
  bracket layout depth '\x7b' '\x7d' (m.entries.map (textEntry layout))

/-- A record as it is written. -/
def Record.text (layout : Layout) (depth : Nat) (r : Record) : List Char :=
  bracket layout depth '\x7b' '\x7d' [
    entryText layout "url" (quote r.url.toList),
    entryText layout "rule_id" (orNull r.ruleId),
    entryText layout "title" (orNull r.title),
    entryText layout "fields" (r.fields.text layout (depth + 1)),
    entryText layout "scraped_at" (quote r.scrapedAt.toList)]

variable {layout : Layout} {depth : Nat}

theorem Request.write_eq (r : Request) : r.toJson.write layout depth = .ok (r.text layout depth) := rfl

theorem write_textJson (s : Option String) : (textJson s).write layout depth = .ok (orNull s) := by
  cases s <;> rfl

theorem writeEntries_texts (layout : Layout) (depth : Nat) : ∀ entries : List (String × String),
    Value.writeEntries layout depth (entries.map fun (key, value) => (.text key, .text value)) =
      .ok (entries.map (textEntry layout))
  | [] => rfl
  | (key, value) :: entries => by
    have ih := writeEntries_texts layout depth entries
    rw [List.map_cons, Value.writeEntries, ih]
    rfl

theorem FieldMap.write_eq (m : FieldMap) : m.toJson.write layout depth = .ok (m.text layout depth) := by
  rw [toJson, Value.write, writeEntries_texts]
  rfl

/-- **A record is written as its text.** -/
theorem Record.write_eq (r : Record) : r.toJson.write layout depth = .ok (r.text layout depth) := by
  simp only [toJson, Value.write, Value.writeEntries, writeKey, write_textJson, FieldMap.write_eq,
    bind, Except.bind]
  rfl

theorem writeItems_records (layout : Layout) (depth : Nat) : ∀ records : List Record,
    Value.writeItems layout depth (records.map (·.toJson)) = .ok (records.map (·.text layout depth))
  | [] => rfl
  | r :: records => by
    have ih := writeItems_records layout depth records
    rw [List.map_cons, Value.writeItems, ih, r.write_eq]
    rfl

/-! ### Field maps -/

namespace FieldMap

/-- An entry whose key is greater than all others goes to the end. -/
theorem place_eq_append (choose : String → String → String) (key value : String) :
    ∀ {entries : List (String × String)}, (∀ e ∈ entries, e.1 < key) →
      place choose key value entries = entries ++ [(key, value)]
  | [], _ => rfl
  | (k, v) :: rest, h => by
    have hk : k < key := h (k, v) List.mem_cons_self
    have hne : key ≠ k := fun heq => String.lt_irrefl key (heq ▸ hk)
    have hnot : ¬ key < k := fun hlt => String.lt_irrefl k (String.lt_trans hk hlt)
    have ih := place_eq_append choose key value fun e he => h e (List.mem_cons_of_mem _ he)
    rw [place, if_neg hne, if_neg hnot, ih, List.cons_append]

/-- The map of the entries of a map is the map. -/
theorem ofList_entries (m : FieldMap) : ofList m.entries = m := by
  have hfold : ∀ (entries : List (String × String)) (start : FieldMap),
      (start.entries ++ entries).Pairwise (fun a b => a.1 < b.1) →
      (entries.foldl (fun m e => m.insert e.1 e.2) start).entries = start.entries ++ entries := by
    intro entries
    induction entries with
    | nil => exact fun start _ => (List.append_nil _).symm
    | cons e entries ih =>
      intro start hascending
      obtain ⟨-, -, hlt⟩ := List.pairwise_append.1 hascending
      have hplace : (start.insert e.1 e.2).entries = start.entries ++ [e] :=
        place_eq_append _ e.1 e.2 fun e' he' => hlt e' he' e List.mem_cons_self
      have hassoc : start.entries ++ e :: entries = (start.insert e.1 e.2).entries ++ entries := by
        rw [hplace, List.append_assoc, List.singleton_append]
      rw [List.foldl_cons, hassoc]
      exact ih _ (hassoc ▸ hascending)
  have hentries : (ofList m.entries).entries = m.entries := hfold m.entries empty m.ascending
  rcases m with ⟨entries, hascending⟩
  rcases hlist : ofList entries with ⟨entries', hascending'⟩
  rw [hlist] at hentries
  cases hentries
  rfl

/-- Keys ascend by their bytes. -/
theorem ascending_bytes (m : FieldMap) : m.entries.Pairwise fun a b =>
    Text.Utf8.encode a.1.toList < Text.Utf8.encode b.1.toList :=
  m.ascending.imp fun h => Text.Utf8.encode_lt_encode (String.lt_iff.1 h)

end FieldMap

/-! ### What is read -/

theorem readsAs_slot {α δ : Type} {name : String} {read : Reader α} {get : δ → Option α}
    {set : δ → Option α → δ} {text : List Char} {a : α} (h : ReadsAs read text a) (draft : δ) :
    ReadsAs ((Slot.of name read get set).read draft) text (set draft (some a)) := by
  intro blanks rest hblanks
  show (read (blanks ++ (text ++ rest))).map _ = _
  rw [h blanks rest hblanks]
  rfl

/-- **A request is read back.** -/
theorem Request.readsAs_text (r : Request) : ReadsAs requestShape.read (r.text layout depth) r :=
  Shape.readsAs_map (.member rfl rfl (readsAs_slot (readsAs_quote r.url) none) (.done rfl))

/-- **A record is read back.** Its members come in the order of the shape. -/
theorem Record.readsAs_text (r : Record) : ReadsAs recordShape.read (r.text layout depth) r := by
  refine Shape.readsAs_map ?_
  refine .member rfl rfl (readsAs_slot (readsAs_quote r.url) _) ?_
  refine .member rfl rfl (readsAs_slot (readsAs_orNull r.ruleId) _) ?_
  refine .member rfl rfl (readsAs_slot (readsAs_orNull r.title) _) ?_
  refine .member rfl rfl (readsAs_slot (readsAs_textMap r.fields.entries) _) ?_
  refine .member rfl rfl (readsAs_slot (readsAs_quote r.scrapedAt) _) (.done ?_)
  show Except.ok { r with fields := .ofList r.fields.entries } = _
  rw [r.fields.ofList_entries]

theorem readsAs_records (records : List Record) : ReadsAs (listOf recordShape.read)
    (bracket layout depth '[' ']' (records.map (·.text layout (depth + 1)))) records := by
  refine readsAs_list (List.forall₂_map_left_iff.2 (List.forall₂_same.2 fun r _ => ⟨?_, ?_⟩))
  · exact ⟨'\x7b', _, rfl, rfl, by decide, by decide⟩
  · exact r.readsAs_text

/-! ### Texts and files -/

theorem Request.decode_text (layout : Layout) (depth : Nat) (r : Request) :
    decodeRequest (String.ofList (r.text layout depth)) = .ok r := by
  have hread : ReadsAs requestShape.read (r.text layout depth) r := r.readsAs_text
  have hdecode := decode_readsAs hread allBlank_nil
  rw [List.append_nil] at hdecode
  rw [decodeRequest, String.toList_ofList, hdecode]

theorem Record.decode_text (layout : Layout) (depth : Nat) (r : Record) :
    decodeRecord (String.ofList (r.text layout depth)) = .ok r := by
  have hread : ReadsAs recordShape.read (r.text layout depth) r := r.readsAs_text
  have hdecode := decode_readsAs hread allBlank_nil
  rw [List.append_nil] at hdecode
  rw [decodeRecord, String.toList_ofList, hdecode]

/-- The records in the bytes of a file. -/
def recordsIn? (bytes : List UInt8) : Option (List Record) :=
  (Text.Utf8.decode? bytes).bind fun text => (decodeRecords (String.ofList text)).toOption

/-- What an output file holds for records. -/
theorem contentOf_records (records : List Record) : contentOf (records.map (·.toJson)) =
    .ok (Text.Utf8.encode
      (bracket .pretty 0 '[' ']' (records.map (·.text .pretty 1)) ++ ['\n'])) := by
  have hwrite : (Value.list (records.map (·.toJson))).write .pretty 0 =
      .ok (bracket .pretty 0 '[' ']' (records.map (·.text .pretty 1))) := by
    rw [Value.write, writeItems_records]
    rfl
  rw [contentOf, Value.pretty, hwrite]
  simp only [Except.map, String.toList_ofList]

/-- **Records are read back from the content of their output file.** -/
theorem recordsIn?_contentOf (records : List Record) : ∃ content,
    contentOf (records.map (·.toJson)) = .ok content ∧ recordsIn? content = some records := by
  have hend : AllBlank ['\n'] := fun c hc => by
    rw [List.mem_singleton.1 hc]
    rfl
  have hread : ReadsAs (listOf recordShape.read)
      (bracket .pretty 0 '[' ']' (records.map (·.text .pretty 1))) records := readsAs_records records
  refine ⟨_, contentOf_records records, ?_⟩
  rw [recordsIn?, Text.Utf8.decode?_encode, Option.bind_some, decodeRecords, String.toList_ofList,
    decode_readsAs hread hend]
  rfl

/-- Different records have different output files. -/
theorem contentOf_injective :
    Function.Injective fun records : List Record => contentOf (records.map (·.toJson)) := by
  intro records records' h
  obtain ⟨content, hcontent, hread⟩ := recordsIn?_contentOf records
  obtain ⟨content', hcontent', hread'⟩ := recordsIn?_contentOf records'
  dsimp only at h
  rw [hcontent, hcontent', Except.ok.injEq] at h
  rw [h, hread', Option.some.injEq] at hread
  exact hread.symm

/-- Records that were saved are in the output file. -/
theorem saveRecords_file? {t : FileTree} {directory filename path : String} {records : List Record}
    (h : (saveRecords t directory filename records).2 = .ok path) :
    ∃ content, contentOf (records.map (·.toJson)) = .ok content ∧
      (saveRecords t directory filename records).1.file? ((Location.ofString path).place t.here) =
        some content := by
  obtain ⟨-, content, hcontent, hstores⟩ := saveValues_ok h
  refine ⟨content, hcontent, ?_⟩
  have hfile : (saveRecords t directory filename records).1.file?
      ((Location.ofString path).place t.here) = _ := hstores.file?
  rw [hfile, if_pos rfl]

/-- **What is written is read back.** A list of records has a content, from
which it is read back, and this content is what an output file holds once the
records are saved there; so different lists have different contents. A record
and a request are read back from their compact and from their pretty text,
whatever texts they are made of. The fields of a record stand in its text in
the order of their keys, and the bytes of the keys ascend strictly. -/
theorem records_read_back :
    (∀ records : List Record, ∃ content,
      contentOf (records.map (·.toJson)) = .ok content ∧
      content = Text.Utf8.encode
        (bracket .pretty 0 '[' ']' (records.map (·.text .pretty 1)) ++ ['\n']) ∧
      recordsIn? content = some records ∧
      ∀ (t : FileTree) (directory filename path : String),
        (saveRecords t directory filename records).2 = .ok path →
          (saveRecords t directory filename records).1.file?
            ((Location.ofString path).place t.here) = some content) ∧
    (Function.Injective fun records : List Record => contentOf (records.map (·.toJson))) ∧
    (∀ r : Record, ∃ compact pretty, r.toJson.compact = .ok compact ∧ r.toJson.pretty = .ok pretty ∧
      decodeRecord compact = .ok r ∧ decodeRecord pretty = .ok r) ∧
    (∀ r : Request, ∃ compact pretty, r.toJson.compact = .ok compact ∧ r.toJson.pretty = .ok pretty ∧
      decodeRequest compact = .ok r ∧ decodeRequest pretty = .ok r) ∧
    ∀ r : Record, (∀ layout depth, r.toJson.write layout depth = .ok (r.text layout depth)) ∧
      r.fields.entries.Pairwise fun a b =>
        Text.Utf8.encode a.1.toList < Text.Utf8.encode b.1.toList := by
  refine ⟨fun records => ?_, contentOf_injective, fun r => ?_, fun r => ?_, fun r => ?_⟩
  · obtain ⟨content, hcontent, hread⟩ := recordsIn?_contentOf records
    have htext := contentOf_records records
    rw [hcontent, Except.ok.injEq] at htext
    refine ⟨content, hcontent, htext, hread, fun t directory filename path h => ?_⟩
    obtain ⟨content', hcontent', hfile⟩ := saveRecords_file? h
    rw [hcontent, Except.ok.injEq] at hcontent'
    rw [hfile, hcontent']
  · refine ⟨_, _, ?_, ?_, r.decode_text .compact 0, r.decode_text .pretty 0⟩
    · rw [Value.compact, r.write_eq]
      rfl
    · rw [Value.pretty, r.write_eq]
      rfl
  · exact ⟨_, _, rfl, rfl, r.decode_text .compact 0, r.decode_text .pretty 0⟩
  · exact ⟨fun layout depth => r.write_eq, r.fields.ascending_bytes⟩

/-- A record with a quotation mark, a line end and a character beyond 16 bits,
saved under a name of its own. -/
theorem records_read_back_saved :
    let r : Record := ⟨"u\"", none, some "\n", ⟨[("", "😀"), ("a", "\\")], by decide⟩, "now"⟩
    (saveRecords { entries := [] } "" "out" [r]).2 = .ok "out.json" ∧
      ∃ content, (saveRecords { entries := [] } "" "out" [r]).1.file? ["out.json"] = some content ∧
        recordsIn? content = some [r] := by
  intro r
  have hsaved : (saveRecords { entries := [] } "" "out" [r]).2 = .ok "out.json" := by decide +kernel
  obtain ⟨content, -, -, hread, hfile⟩ := records_read_back.1 [r]
  exact ⟨hsaved, content, hfile { entries := [] } "" "out" "out.json" hsaved, hread⟩

end RuleHarvest
