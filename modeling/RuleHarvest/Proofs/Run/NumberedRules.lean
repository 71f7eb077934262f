/-
# Rules asked for by number

The number of a rule is read back from the address of its page, whatever blanks
stand around it and whatever slashes, query or fragment stand behind the
address. A record has the number that its address names. So a run that is asked
for a rule by its number, and gets its pages, has a record with this number and
hands it to the store (`rule_number_read_back`).

How the pages are fetched does not matter for this: all that counts is that the
records are made of pages of the addresses that were asked for
(`MakesRecordsOfPages`), as those of every `Fetcher` are.

Key definitions: `MakesRecordsOfPages`.
Key theorems: `NumberParts.number_unique`, `Fetcher.makesRecordsOfPages`,
`RunGoes.numbered`, `rule_number_read_back`.
-/
import RuleHarvest.Proofs.Rule.RuleNumber
import RuleHarvest.Proofs.Run.Targets

namespace RuleHarvest

open Files CommandLine

/-- An address names at most one rule. -/
theorem NumberParts.number_unique {url path d slashes behind path' d' slashes' behind' : String}
    (h : NumberParts url path d slashes behind) (h' : NumberParts url path' d' slashes' behind') :
    d = d' :=
  Option.some.inj ((ruleId?_of_parts h).symm.trans (ruleId?_of_parts h'))

/-! ### Records of rules by number -/

/-- A way to fetch whose records, when it succeeds, are those of pages, one for
each address that was asked for. Nothing is said about how the pages are got. -/
def MakesRecordsOfPages (fetch : Config → List Request → Except FetchError (List Record) × Trail) :
    Prop :=
  ∀ config requests records, checkConfig config = .ok () →
    (fetch config requests).1 = .ok records →
      List.Forall₂ (fun r record => ∃ page now, record = extract r.url page now) requests records

/-- However the pages of a network are fetched, the records are those of
pages. -/
theorem Fetcher.makesRecordsOfPages {network : Network} (fetcher : Fetcher network) :
    MakesRecordsOfPages fetcher.fetch := by
  intro config requests records hconfig hfetch
  obtain ⟨w, hsteps, hends, -⟩ := fetcher.scheduled config requests hconfig
  rw [hfetch] at hends
  have hrecords := Batch.yields_ok_iff.1 (Window.Steps.yields hsteps hends)
  refine hrecords.imp fun r record hrecord => ?_
  obtain ⟨page, hharvested⟩ := hrecord
  obtain ⟨page, now, -, hmade⟩ := harvested_ok_iff.1 hharvested
  exact ⟨page, now, hmade⟩

/-- Each address has its record. -/
theorem exists_record_of_page {requests : List Request} {records : List Record} {r : Request}
    (h : List.Forall₂ (fun r record => ∃ page now, record = extract r.url page now) requests records)
    (hr : r ∈ requests) : ∃ record ∈ records, record.url = r.url ∧ record.ruleId = ruleId? r.url := by
  induction h with
  | nil => cases hr
  | @cons first record requests records hrecord hrest ih =>
    by_cases hfirst : r = first
    · obtain ⟨page, now, rfl⟩ := hrecord
      exact ⟨_, List.mem_cons_self, by rw [hfirst, extract_url], by rw [hfirst, extract_ruleId]⟩
    · have hmem : r ∈ requests := by simpa [hfirst] using hr
      obtain ⟨found, hfound, hurl⟩ := ih hmem
      exact ⟨found, List.mem_cons_of_mem _ hfound, hurl⟩

section Run

variable {environment : Environment} {l : Line} {o : Options} {text d : String}

/-- A rule that is asked for by its number is among the addresses of a run. -/
theorem CommandLine.Line.Targets.mem_of_number {t : FileTree} {urls : List String}
    (h : l.Targets environment t (.ok urls)) (htext : text ∈ l.numbers) : ruleUrl text ∈ urls := by
  cases h with
  | asked hsomething hlisted =>
    have hpage : ruleUrl text ∈ l.numbers.map ruleUrl := List.mem_map_of_mem htext
    simp [hpage]
  | fallback hnothing =>
    rw [hnothing.numbers] at htext
    cases htext

/-- What the source answers comes from the requests of the addresses, and goes to
the store. -/
theorem StagesGo.answered {σ ε : Type} {stages : Stages (StateM σ) ε} {urls : List String}
    {directory filename : String} {s s' : σ} {log : List (StageCall ε)}
    {result : Except (PipelineError ε) RunStats}
    (h : StagesGo stages urls directory filename s log result s') {requests : List Request}
    {records : List Record} (hasked : .asked requests (.ok records) ∈ log) :
    (∃ s₁ s₂, (stages.fetch (buildRequests urls)).run s₁ = (.ok records, s₂)) ∧
      ∃ stored, .stored records directory filename stored ∈ log := by
  cases h with
  | noDirectory => simp at hasked
  | noRecords => simp at hasked
  | @noFile s₁ answer s₂ e s₃ hprepare hfetch hpersist =>
    obtain ⟨-, rfl⟩ : requests = buildRequests urls ∧ records = answer := by simpa using hasked
    exact ⟨⟨s₁, s₂, hfetch⟩, .error e, by simp⟩
  | @done s₁ answer s₂ path s₃ hprepare hfetch hpersist =>
    obtain ⟨-, rfl⟩ : requests = buildRequests urls ∧ records = answer := by simpa using hasked
    exact ⟨⟨s₁, s₂, hfetch⟩, .ok path, by simp⟩

/-- What the source answers in a run has a record of each rule that is asked
for by number, and goes to the store. -/
theorem RunGoes.numbered
    {fetch : Config → List Request → Except FetchError (List Record) × Trail}
    (hfetch : MakesRecordsOfPages fetch) (haccepted : l.Accepted environment o)
    (htext : text ∈ l.numbers) {s s' : Session} {log : List (StageCall FetchError)}
    {ending : Ending} (h : RunGoes (Session.world fetch) o s log ending s')
    {requests : List Request} {records : List Record}
    (hasked : .asked requests (.ok records) ∈ log) :
    (∃ record ∈ records, record.url = ruleUrl text ∧ record.ruleId = ruleId? (ruleUrl text)) ∧
      ∃ stored, .stored records (o.value .dataPath) (o.value .filename) stored ∈ log := by
  cases h with
  | unreadable => cases hasked
  | unusable => cases hasked
  | @staged urls s₁ log result s' hread hconfig hgo =>
    obtain ⟨⟨s₁, s₂, hanswer⟩, hstored⟩ := hgo.answered hasked
    refine ⟨?_, hstored⟩
    rw [readTargets_run] at hread
    have hurls : o.readTargets (m := Id) s.tree.readText = .ok urls := congrArg Prod.fst hread
    have htargets := haccepted.targets s.tree
    rw [hurls] at htargets
    have hrequest : (⟨ruleUrl text⟩ : Request) ∈ buildRequests urls :=
      List.mem_map_of_mem (htargets.mem_of_number htext)
    exact exists_record_of_page (hfetch _ _ _ hconfig (congrArg Prod.fst hanswer)) hrequest

end Run

/-- **The number of a rule is read back.** An address names the rule `d` exactly
if it is a path that is empty or ends in a slash, without a question mark or a
number sign, then the digits of `d`, then slashes and then a query or a
fragment, and it names no other one. The address of the page of a rule is such
an address, whatever blanks stand around the number, and stays one with slashes,
a query or a fragment behind it. So whenever the pages of a run that is asked
for this number are fetched, one record has the number, and the records go to
the store. -/
theorem rule_number_read_back :
    (∀ url d, ruleId? url = some d ↔ ∃ path slashes behind, NumberParts url path d slashes behind) ∧
    (∀ url d d' path slashes behind path' slashes' behind', NumberParts url path d slashes behind →
      NumberParts url path' d' slashes' behind' → d = d') ∧
    (∀ {network : Network} (fetcher : Fetcher network), MakesRecordsOfPages fetcher.fetch) ∧
    ∀ id d, IsRuleNumber d →
      (∃ a b, Text.AllBlank a ∧ Text.AllBlank b ∧ id.toList = a ++ d.toList ++ b) →
      ruleId? (ruleUrl id) = some d ∧
      (∀ slashes behind, (∀ c ∈ slashes.toList, c = '/') → IsQueryOrFragment behind →
        ruleId? (ruleUrl id ++ slashes ++ behind) = some d) ∧
      ∀ fetch, MakesRecordsOfPages fetch → ∀ (environment : Environment) (l : Line) (o : Options)
        (t : FileTree), Options.ofArguments environment l.arguments = .ok o → id ∈ l.numbers →
        ∃ ending log s',
          ((runProgram (Session.world fetch).recorded environment l.arguments).run []).run
            { tree := t } = ((ending, log), s') ∧
          runWith fetch environment l.arguments t = (ending, s') ∧
          ∀ requests records, .asked requests (.ok records) ∈ log →
            (∃ record ∈ records, record.url = ruleUrl id ∧ record.ruleId = some d) ∧
            ∃ result, .stored records (o.value .dataPath) (o.value .filename) result ∈ log := by
  refine ⟨fun url d => ruleId?_eq_some_iff, fun url d d' path slashes behind path' slashes' behind'
    h h' => h.number_unique h', fun fetcher => fetcher.makesRecordsOfPages,
    fun id d hd hblanks => ?_⟩
  have hid : Text.TrimsTo id d := ⟨isTrimmed_of_isRuleNumber hd, hblanks⟩
  have hread : ruleId? (ruleUrl id) = some d := ruleId?_ruleUrl hd hid
  refine ⟨hread, fun slashes behind hslashes hbehind => ?_,
    fun fetch hfetch environment l o t hoptions hnumber => ?_⟩
  · exact ruleId?_of_parts (numberParts_ruleUrl hd hid hslashes hbehind)
  · obtain ⟨ending, log, s', hrecorded, hplain, hgo⟩ :=
      runProgram_go (Session.world fetch) hoptions { tree := t }
    refine ⟨ending, log, s', hrecorded, hplain, fun requests records hasked => ?_⟩
    have haccepted := (ofArguments_eq_ok_iff l).1 hoptions
    obtain ⟨⟨record, hrecord, hurl, hnumbered⟩, hstored⟩ :=
      hgo.numbered hfetch haccepted hnumber hasked
    exact ⟨⟨record, hrecord, hurl, hnumbered.trans hread⟩, hstored⟩

/-- A way to fetch on which every page is empty. -/
def emptyPages : Config → List Request → Except FetchError (List Record) × Trail :=
  fun _ requests => (.ok (requests.map fun r => extract r.url "" ""), {})

theorem emptyPages_makesRecordsOfPages : MakesRecordsOfPages emptyPages := by
  intro config requests records hconfig hrecords
  obtain rfl := Except.ok.inj hrecords
  exact List.forall₂_map_right_iff.2 (List.forall₂_same.2 fun r _ => ⟨"", "", rfl⟩)

theorem rule_number_read_back_fetched :
    ∃ requests records, .asked requests (.ok records) ∈
        (((runProgram (Session.world emptyPages).recorded (fun _ => none) ["--rule-id", " 12\n"]).run
          []).run { tree := { entries := [] } }).1.2 ∧
      ∃ record ∈ records, record.ruleId = some "12" := by
  obtain ⟨o, ho⟩ : ∃ o, Options.ofArguments (fun _ => none) ["--rule-id", " 12\n"] = .ok o :=
    exists_eq_ok (by decide +kernel)
  have hasked : (((runProgram (Session.world emptyPages).recorded (fun _ => none)
      ["--rule-id", " 12\n"]).run []).run { tree := { entries := [] } }).1.2[1]? =
        some (.asked [⟨ruleUrl "12"⟩] (.ok [extract (ruleUrl "12") "" ""])) := by decide +kernel
  have hnumber : IsRuleNumber "12" := ⟨by decide, List.all_eq_true.1 (by decide)⟩
  have hblanks : ∃ a b, Text.AllBlank a ∧ Text.AllBlank b ∧
      " 12\n".toList = a ++ "12".toList ++ b :=
    ⟨[' '], ['\n'], by simp [Text.AllBlank, Text.isBlank], by simp [Text.AllBlank, Text.isBlank], rfl⟩
  obtain ⟨ending, log, s', hrecorded, -, hnumbered⟩ :=
    (rule_number_read_back.2.2.2 " 12\n" "12" hnumber hblanks).2.2 emptyPages
      emptyPages_makesRecordsOfPages (fun _ => none) ⟨[.next .ruleId ⟨" 12\n", by decide⟩], none⟩ o
      { entries := [] } ho (by decide +kernel)
  have hrun : ((runProgram (Session.world emptyPages).recorded (fun _ => none)
      ["--rule-id", " 12\n"]).run []).run { tree := { entries := [] } } = ((ending, log), s') :=
    hrecorded
  rw [hrun] at hasked ⊢
  obtain ⟨⟨record, hrecord, -, hid⟩, -⟩ := hnumbered _ _ (List.mem_of_getElem? hasked)
  exact ⟨_, _, List.mem_of_getElem? hasked, record, hrecord, hid⟩

end RuleHarvest
