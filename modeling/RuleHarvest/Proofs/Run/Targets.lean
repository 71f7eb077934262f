/-
# What a run fetches

The addresses of a run are those on the command line, then the pages of the
rule numbers, then the addresses in the input file, which the command line
names or else a variable of the environment (`Line.Targets`). The pages to fall
back on take their place exactly when none of the three is asked for; a file
that lists no address is asked for.

A file that is not there, or does not hold the bytes of a text, ends the run
with an error that names its path.

Key definitions: `FileTree.HasText`, `Line.inputFile?`, `Line.AsksNothing`,
`Line.Targets`.
Key theorems: `readText_eq_ok_iff`, `Line.Accepted.input`,
`Line.Accepted.targets`, `targets_of_line`.
-/
import RuleHarvest.Proofs.CommandLine.Chosen
import RuleHarvest.Proofs.Run.Stages
import RuleHarvest.Proofs.Text.Utf8

namespace RuleHarvest

/-! ### The text in a file -/

namespace Files

variable {t : FileTree} {path text : String}

/-- There is a file at a path, and it holds the bytes of a text. -/
def FileTree.HasText (t : FileTree) (path text : String) : Prop :=
  ∃ p, t.locate (.ofString path) = .ok p ∧ t.node? p = some (.file (Text.Utf8.encode text.toList))

/-- **A text is read from a file exactly if the file holds its bytes.** -/
theorem readText_eq_ok_iff : t.readText path = .ok text ↔ t.HasText path text := by
  constructor
  · intro h
    obtain ⟨p, hlocate, hread⟩ := CommandLine.bind_eq_ok_iff.1 h
    refine ⟨p, hlocate, ?_⟩
    split at hread
    · rename_i content hnode
      split at hread
      · rename_i s hdecode
        obtain rfl := Except.ok.inj hread
        rw [hnode, Text.Utf8.decode?_eq_some_iff.1 hdecode, String.toList_ofList]
      · cases hread
    · cases hread
    · cases hread
  · rintro ⟨p, hlocate, hnode⟩
    refine CommandLine.bind_eq_ok_iff.2 ⟨p, hlocate, ?_⟩
    rw [hnode]
    dsimp only
    rw [Text.Utf8.decode?_encode]
    exact congrArg Except.ok String.ofList_toList

/-- Otherwise there is a fault. -/
theorem exists_fault_of_no_text (h : ∀ text, ¬ t.HasText path text) :
    ∃ fault, t.readText path = .error fault := by
  cases hread : t.readText path with
  | ok text => exact absurd (readText_eq_ok_iff.1 hread) (h text)
  | error fault => exact ⟨fault, rfl⟩

/-- The addresses in a file, if one is named. -/
inductive FileTree.Lists (t : FileTree) : Option String → List String → Prop
  | nothing : Lists t none []
  | file {path text : String} (h : t.HasText path text) : Lists t (some path) (urlList text)

end Files

open Files CommandLine

/-! ### The addresses of a run -/

namespace CommandLine

/-- The input file: named on the command line, or else by a variable. -/
def Line.inputFile? (l : Line) (environment : Environment) : Option String :=
  (l.values .input).head?.or (environment "FEDRULES_INPUT")

/-- No address, no number of a rule and no input file. -/
structure Line.AsksNothing (l : Line) (environment : Environment) : Prop where
  addresses : l.addresses = []
  numbers : l.numbers = []
  inputFile? : l.inputFile? environment = none

/-- The addresses that a line asks for, or why they are not known. -/
inductive Line.Targets (l : Line) (environment : Environment) (t : FileTree) :
    Except ListError (List String) → Prop
  | asked {listed : List String} (h : ¬ l.AsksNothing environment)
      (hlisted : t.Lists (l.inputFile? environment) listed) :
    Targets l environment t (.ok (l.addresses ++ l.numbers.map ruleUrl ++ listed))
  | fallback (h : l.AsksNothing environment) : Targets l environment t (.ok defaultUrls)
  | unreadable {path : String} {fault : FileFault} (h : l.inputFile? environment = some path)
      (htext : ∀ text, ¬ t.HasText path text) (hfault : t.readText path = .error fault) :
    Targets l environment t (.error ⟨path, fault⟩)

namespace Line.Accepted

variable {l : Line} {environment : Environment} {o : Options}

theorem input (h : l.Accepted environment o) : o.value .input = l.inputFile? environment := by
  have hchosen : Setting.input.Chosen (l.values .input) (environment "FEDRULES_INPUT")
      (o.value .input) := h.value .input
  -- what is read is the path itself
  have hread : ∀ {text : String} {v : Option String}, Setting.input.read text = .ok v →
      v = some text := by
    intro text v hv
    by_cases hempty : text.isEmpty
    · simp [Setting.read, Setting.readPath, hempty, Except.map] at hv
    · simp [Setting.read, Setting.readPath, hempty, Except.map] at hv
      exact hv.symm
  unfold inputFile?
  generalize o.value .input = v at hchosen
  generalize l.values .input = texts at hchosen
  generalize environment "FEDRULES_INPUT" = found? at hchosen
  cases hchosen with
  | written hv => exact hread hv
  | fromVariable hv => exact hread hv
  | byDefault => rfl

/-- **What a run fetches.** -/
theorem targets (h : l.Accepted environment o) (t : FileTree) :
    l.Targets environment t (o.readTargets (m := Id) t.readText) := by
  have hasked : o.urls ++ o.ruleIds.map ruleUrl = l.addresses ++ l.numbers.map ruleUrl := by
    rw [h.urls, h.ruleIds]
  unfold Options.readTargets
  rw [h.input]
  cases hinput : l.inputFile? environment with
  | none =>
    show l.Targets environment t (.ok (o.targets none))
    unfold Options.targets
    by_cases hnone : l.addresses ++ l.numbers.map ruleUrl = []
    · have hnothing : l.AsksNothing environment := by
        rw [List.append_eq_nil_iff, List.map_eq_nil_iff] at hnone
        exact ⟨hnone.1, hnone.2, hinput⟩
      rw [hasked, hnone]
      exact .fallback hnothing
    · have hsomething : ¬ l.AsksNothing environment := by
        intro hnothing
        rw [hnothing.addresses, hnothing.numbers] at hnone
        exact hnone rfl
      have hlisted : t.Lists (l.inputFile? environment) [] := by
        rw [hinput]
        exact .nothing
      have htargets := Targets.asked hsomething hlisted
      rw [List.append_nil] at htargets
      dsimp only
      rwa [hasked, if_neg (by simpa using hnone)]
  | some path =>
    dsimp only
    cases hread : t.readText path with
    | ok text =>
      have hsomething : ¬ l.AsksNothing environment := by
        intro hnothing
        rw [hnothing.inputFile?] at hinput
        cases hinput
      have hlisted : t.Lists (l.inputFile? environment) (urlList text) := by
        rw [hinput]
        exact .file (readText_eq_ok_iff.1 hread)
      have htargets := Targets.asked hsomething hlisted
      rwa [← hasked] at htargets
    | error fault =>
      refine Targets.unreadable hinput (fun text htext => ?_) hread
      rw [readText_eq_ok_iff.2 htext] at hread
      cases hread

end Line.Accepted
end CommandLine

/-- **The addresses of a run.** Every command line that is accepted is spelled
in pieces, and however it is, the run fetches the addresses on it, then the
pages of the rule numbers, then the addresses in the input file; or else, when
none of the three is asked for, the pages to fall back on. The pieces may trade
places as long as the addresses keep their order and the numbers keep theirs:
the run is then the same. An input file without a text ends the run with an
error that names its path, whatever else is asked for. -/
theorem targets_of_line {environment : Environment} {arguments : List String} {o : Options}
    (h : Options.ofArguments environment arguments = .ok o) :
    (∃ l : Line, l.arguments = arguments) ∧ ∀ l : Line, l.arguments = arguments →
      (∀ t : FileTree, l.Targets environment t (o.readTargets (m := Id) t.readText)) ∧
      (∀ l' : Line, l'.pieces.Perm l.pieces → l'.addresses = l.addresses → l'.numbers = l.numbers →
        Options.ofArguments environment l'.arguments = .ok o) ∧
      ∀ (fetch : Config → List Request → Except FetchError (List Record) × Trail) (t : FileTree)
        (path : String), l.inputFile? environment = some path → (∀ text, ¬ t.HasText path text) →
        ∃ fault, o.readTargets (m := Id) t.readText = .error ⟨path, fault⟩ ∧
          runWith fetch environment arguments t =
            (.failed (.unreadable ⟨path, fault⟩), { tree := t }) ∧
          (Ending.failed (.unreadable ⟨path, fault⟩)).complaint =
            ["Error: " ++ ("reading URL list " ++ path), fault.message] := by
  refine ⟨exists_line_of_options h, ?_⟩
  rintro l rfl
  have haccepted := (ofArguments_eq_ok_iff l).1 h
  refine ⟨haccepted.targets, fun l' hpieces haddresses hnumbers => ?_,
    fun fetch t path hpath htext => ?_⟩
  · exact ofArguments_of_perm h hpieces haddresses hnumbers
  · obtain ⟨fault, hfault⟩ := exists_fault_of_no_text htext
    have hread : o.readTargets (m := Id) t.readText = .error ⟨path, fault⟩ := by
      unfold Options.readTargets
      rw [haccepted.input, hpath]
      dsimp only
      rw [hfault]
      rfl
    exact ⟨fault, hread, (runWith_of_no_stages fetch h t).1 _ hread, rfl⟩

theorem targets_of_line_in_another_order :
    (∃ o, Options.ofArguments (fun _ => none) ["--rule-id=7", "http://b/", "-v", "http://a/"] = .ok o ∧
      Options.ofArguments (fun _ => none) ["http://b/", "-v", "--rule-id=7", "http://a/"] = .ok o ∧
      o.readTargets (m := Id) ({ entries := [] } : FileTree).readText =
        .ok ["http://b/", "http://a/", ruleUrl "7"]) ∧
    ∃ o, Options.ofArguments (fun _ => none) ["http://b/", "-ilist"] = .ok o ∧
      ∃ fault, o.readTargets (m := Id) ({ entries := [] } : FileTree).readText =
        .error ⟨"list", fault⟩ := by
  let a : Piece := .address ⟨"http://a/", by decide⟩
  let b : Piece := .address ⟨"http://b/", by decide⟩
  constructor
  · obtain ⟨o, ho⟩ : ∃ o, Options.ofArguments (fun _ => none)
        ["--rule-id=7", "http://b/", "-v", "http://a/"] = .ok o := exists_eq_ok (by decide +kernel)
    let l : Line := ⟨[.equals .ruleId "7", b, .letters .verbose [], a], none⟩
    let l' : Line := ⟨[b, .letters .verbose [], .equals .ruleId "7", a], none⟩
    have hperm : l'.pieces.Perm l.pieces :=
      ((List.Perm.swap _ _ _).cons b).trans (List.Perm.swap _ _ _)
    obtain ⟨htargets, horder, -⟩ := (targets_of_line ho).2 l (by decide +kernel)
    refine ⟨o, ho, horder l' hperm (by decide +kernel) (by decide +kernel), ?_⟩
    have hlast := htargets { entries := [] }
    generalize o.readTargets (m := Id) ({ entries := [] } : FileTree).readText = result at hlast
    cases hlast with
    | asked hsomething hlisted =>
      cases hlisted
      rfl
    | fallback hnothing => cases hnothing.addresses
    | unreadable hinput => cases hinput
  · obtain ⟨o, ho⟩ : ∃ o, Options.ofArguments (fun _ => none) ["http://b/", "-ilist"] = .ok o :=
      exists_eq_ok (by decide +kernel)
    let l : Line := ⟨[b, .lettersValue [] ⟨.setting .input, 'i', rfl⟩
      (.joined 'l' ['i', 's', 't'] (by decide))], none⟩
    obtain ⟨-, -, herror⟩ := (targets_of_line ho).2 l (by decide +kernel)
    have hnone : ∀ text, ¬ ({ entries := [] } : FileTree).HasText "list" text := by
      rintro text ⟨p, hlocate, -⟩
      have hmissing : ({ entries := [] } : FileTree).locate (.ofString "list") = .error .notFound := by
        decide +kernel
      rw [hmissing] at hlocate
      cases hlocate
    obtain ⟨fault, hread, -⟩ := herror (fun _ _ => (.ok [], {})) { entries := [] } "list" rfl hnone
    exact ⟨o, ho, fault, hread⟩

end RuleHarvest
