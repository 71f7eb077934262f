/-
# When the ending of an output file is added

A name is to be kept if it ends in `.json`, in whatever case, and is to be
extended if it does not (`NamedAfter`). The name of an output file is told in
another way: by its extension, which is what stands behind the last dot if
there is something before this dot. The two ways differ on one name, that is
nothing but the ending (`hasExtension_toList_iff`). Such a name is accepted
and extended, so the ending stands there twice; every other name is kept or
extended as it is to be, and the ending is doubled in none.

Key definitions: `IsJsonEnding`, `EndsInJson`, `EndsTwice`, `NamedAfter`.
Key theorems: `hasExtension_toList_iff`, `namedAfter_outputName_iff`,
`endsTwice_outputName_iff`, `output_named_after_unless_bare`.
-/
import RuleHarvest.Proofs.Store.OutputNames

namespace RuleHarvest

variable {name file stem ending : String}

/-! ### Endings -/

/-- The text `.json`, up to the case of ASCII letters. -/
def IsJsonEnding (s : String) : Prop := s.toList.map Char.toLower = ".json".toList

instance (s : String) : Decidable (IsJsonEnding s) := inferInstanceAs (Decidable (_ = _))

/-- The ending stands at the end of a name, perhaps with nothing before it. -/
def EndsInJson (name : String) : Prop :=
  ∃ stem ending : String, name = stem ++ ending ∧ IsJsonEnding ending

/-- The ending stands at the end of a name, and once more before that. -/
def EndsTwice (name : String) : Prop :=
  ∃ stem ending : String, name = stem ++ ending ∧ EndsInJson stem ∧ IsJsonEnding ending

/-- The name that an output file is to have: the given one if it ends in `.json`,
or else this one with the ending added. -/
inductive NamedAfter (name : String) : String → Prop
  | kept (h : EndsInJson name) : NamedAfter name name
  | added (h : ¬ EndsInJson name) : NamedAfter name (name ++ ".json")

theorem IsJsonEnding.length (h : IsJsonEnding ending) : ending.toList.length = 5 := by
  have hlength := congrArg List.length h
  rw [List.length_map] at hlength
  exact hlength

theorem IsJsonEnding.endsInJson (h : IsJsonEnding name) : EndsInJson name :=
  ⟨"", name, String.empty_append.symm, h⟩

/-- An ending has the length of an ending, so there is nothing before it. -/
theorem IsJsonEnding.stem_eq (h : IsJsonEnding (stem ++ ending)) (hending : IsJsonEnding ending) :
    stem = "" := by
  have hlength := h.length
  rw [String.toList_append, List.length_append, hending.length] at hlength
  rw [← String.toList_eq_nil_iff, ← List.length_eq_zero_iff]
  omega

theorem EndsInJson.append (hending : IsJsonEnding ending) (stem : String) :
    EndsInJson (stem ++ ending) := ⟨stem, ending, rfl, hending⟩

/-- Where the ending stands the name can be cut in one place only. -/
theorem endsTwice_append_iff (hending : IsJsonEnding ending) :
    EndsTwice (stem ++ ending) ↔ EndsInJson stem := by
  constructor
  · rintro ⟨stem', ending', happend, hstem, hending'⟩
    have hlists := congrArg String.toList happend
    rw [String.toList_append, String.toList_append] at hlists
    have hcut := List.append_inj' hlists (hending.length.trans hending'.length.symm)
    rwa [String.toList_inj.1 hcut.1]
  · intro hstem
    exact ⟨stem, ending, rfl, hstem, hending⟩

theorem EndsTwice.endsInJson (h : EndsTwice name) : EndsInJson name := by
  obtain ⟨stem, ending, rfl, -, hending⟩ := h
  exact .append hending stem

/-- Two endings are longer than one. -/
theorem EndsTwice.not_isJsonEnding (h : EndsTwice name) : ¬ IsJsonEnding name := by
  obtain ⟨stem, ending, rfl, ⟨front, first, rfl, hfirst⟩, hending⟩ := h
  intro hname
  have hstem := congrArg (fun s => s.toList.length) (hname.stem_eq hending)
  simp only [String.toList_append, List.length_append, hfirst.length] at hstem
  cases hstem

/-! ### Endings and extensions -/

/-- Lower case makes letters, so a dot was one before. -/
theorem eq_dot_of_toLower {c : Char} (h : c.toLower = '.') : c = '.' := by
  unfold Char.toLower at h
  split at h
  · rename_i hupper
    have hvalue := congrArg (·.val.toNat) h
    have hlow := UInt32.le_iff_toNat_le.1 hupper.1
    have hhigh := UInt32.le_iff_toNat_le.1 hupper.2
    simp only [UInt32.toNat_add] at hvalue
    grind
  · exact h

theorem IsJsonEnding.exists_extension (h : IsJsonEnding ending) :
    ∃ extension, ending.toList = '.' :: extension ∧ extension.map Char.toLower = "json".toList := by
  obtain ⟨c, extension, hcs⟩ : ∃ c extension, ending.toList = c :: extension :=
    List.exists_cons_of_length_eq_add_one h.length
  rw [IsJsonEnding, hcs] at h
  obtain ⟨hdot, hextension⟩ := List.cons.inj h
  exact ⟨extension, by rw [hcs, eq_dot_of_toLower hdot], hextension⟩

/-- What stands before the ending is empty in the bare ending only. -/
theorem hasJsonEnding_iff : HasJsonEnding name ↔ EndsInJson name ∧ ¬ IsJsonEnding name := by
  constructor
  · rintro ⟨stem, ending, rfl, hstem, hending⟩
    exact ⟨.append hending stem, fun hbare => hstem (hbare.stem_eq hending)⟩
  · rintro ⟨⟨stem, ending, rfl, hending⟩, hbare⟩
    refine ⟨stem, ending, rfl, fun hnil => hbare ?_, hending⟩
    rwa [hnil, String.empty_append]

/-- **A name has the extension** exactly if it ends in `.json` and is more than
that. -/
theorem hasExtension_toList_iff :
    hasExtension name.toList = true ↔ EndsInJson name ∧ ¬ IsJsonEnding name := by
  rw [← hasJsonEnding_iff]
  constructor
  · intro h
    have hending := hasJsonEnding_of_hasExtension h
    rwa [String.ofList_toList] at hending
  · rintro ⟨stem, ending, rfl, hstem, hending⟩
    obtain ⟨extension, hcs, hextension⟩ := IsJsonEnding.exists_extension hending
    refine hasExtension_iff.2 ⟨stem.toList, extension, ?_, by simpa using hstem, hextension⟩
    rw [String.toList_append, hcs]

/-- Without the extension a name that ends in `.json` is nothing but the ending. -/
theorem endsInJson_iff_of_not_hasExtension (h : ¬ hasExtension name.toList = true) :
    EndsInJson name ↔ IsJsonEnding name := by
  rw [hasExtension_toList_iff, not_and_not_right] at h
  exact ⟨h, IsJsonEnding.endsInJson⟩

/-! ### Names of output files -/

theorem isJsonEnding_json : IsJsonEnding ".json" := by decide

/-- The name of the output file of a name without blanks around it. -/
def outputNameOf (name : String) : String := String.ofList (withExtension name.toList)

theorem outputNameOf_of_hasExtension (h : hasExtension name.toList = true) :
    outputNameOf name = name := by
  rw [outputNameOf, withExtension_of_hasExtension h, String.ofList_toList]

theorem outputNameOf_of_not_hasExtension (h : ¬ hasExtension name.toList = true) :
    outputNameOf name = name ++ ".json" := by
  rw [outputNameOf, withExtension, if_neg h, String.ofList_append, String.ofList_toList,
    String.ofList_toList]

theorem append_json_ne (name : String) : name ++ ".json" ≠ name := by
  intro h
  have hlength := congrArg (fun s => s.toList.length) h
  simp at hlength

/-- **The output file is named after every name but the bare ending.** -/
theorem namedAfter_outputNameOf_iff : NamedAfter name (outputNameOf name) ↔ ¬ IsJsonEnding name := by
  by_cases h : hasExtension name.toList = true
  · obtain ⟨hends, hbare⟩ := hasExtension_toList_iff.1 h
    rw [outputNameOf_of_hasExtension h]
    exact iff_of_true (.kept hends) hbare
  · rw [outputNameOf_of_not_hasExtension h, ← endsInJson_iff_of_not_hasExtension h]
    constructor
    · intro hnamed hends
      generalize hfile : name ++ ".json" = file at hnamed
      cases hnamed with
      | kept => exact append_json_ne name hfile
      | added hnot => exact hnot hends
    · exact .added

/-- **The ending is doubled** exactly where it stands twice already, or stands
alone. -/
theorem endsTwice_outputNameOf_iff :
    EndsTwice (outputNameOf name) ↔ EndsTwice name ∨ IsJsonEnding name := by
  by_cases h : hasExtension name.toList = true
  · rw [outputNameOf_of_hasExtension h, or_iff_left (hasExtension_toList_iff.1 h).2]
  · have honce : ¬ EndsTwice name := fun htwice =>
      h (hasExtension_toList_iff.2 ⟨htwice.endsInJson, htwice.not_isJsonEnding⟩)
    rw [outputNameOf_of_not_hasExtension h, endsTwice_append_iff isJsonEnding_json,
      endsInJson_iff_of_not_hasExtension h, or_iff_right honce]

theorem outputNameOf_bare (h : IsJsonEnding name) : outputNameOf name = name ++ ".json" :=
  outputNameOf_of_not_hasExtension fun hextension => (hasExtension_toList_iff.1 hextension).2 h

/-- The bare ending is a name that is accepted. -/
theorem isPlainName_of_isJsonEnding (h : IsJsonEnding name) : isPlainName name.toList = true := by
  have hlength : ∀ short : List Char, short.length < 5 → name.toList ≠ short := by
    rintro short hshort heq
    rw [← heq, h.length] at hshort
    omega
  -- neither slash is a letter, so lower case would keep it
  have hother : ∀ c, c.toLower ∉ ".json".toList → c ∉ name.toList := by
    intro c hc hmem
    rw [← h] at hc
    exact hc (List.mem_map_of_mem hmem)
  rw [isPlainName_iff]
  exact ⟨hlength _ (by decide), hother _ (by decide), hother _ (by decide), hlength _ (by decide),
    hlength _ (by decide)⟩

theorem outputName?_eq_some_iff {filename : String} (h : Text.TrimsTo filename name) :
    outputName? filename = some file ↔ isPlainName name.toList = true ∧ file = outputNameOf name := by
  obtain rfl := Text.trimsTo_iff.1 h
  rw [outputName?_eq, outputNameOf, String.toList_ofList]
  split
  · rename_i hplain
    simp [hplain, eq_comm]
  · rename_i hplain
    simp [hplain]

/-- **The ending is added where it is missing, and to the bare ending.** Without
the blanks around it a filename that is accepted is the name of the output file
if it ends in `.json`, in whatever case, and gets the ending if it does not;
unless it is nothing but the ending. This name is accepted too, and extended. So
the ending stands twice in the name of an output file exactly if it does so in
the given name, or stands there alone. -/
theorem output_named_after_unless_bare (directory filename : String) :
    ∃ name, Text.TrimsTo filename name ∧
      (∀ path, outputPath directory filename = .ok path → ∃ file, StandsIn directory file path ∧
        (NamedAfter name file ↔ ¬ IsJsonEnding name) ∧
        (IsJsonEnding name → file = name ++ ".json") ∧
        (EndsTwice file ↔ EndsTwice name ∨ IsJsonEnding name)) ∧
      (IsJsonEnding name → ∃ path, outputPath directory filename = .ok path) := by
  have htrims : Text.TrimsTo filename (String.ofList (Text.trim filename.toList)) :=
    Text.trimsTo_iff.2 rfl
  generalize String.ofList (Text.trim filename.toList) = name at htrims
  refine ⟨name, htrims, fun path h => ?_, fun hbare => ?_⟩
  · obtain ⟨file, hfile, rfl⟩ := outputPath_eq_ok_iff.1 h
    obtain ⟨-, rfl⟩ := (outputName?_eq_some_iff htrims).1 hfile
    exact ⟨outputNameOf name, standsIn_joinPath (outputName?_eq_some hfile).1,
      namedAfter_outputNameOf_iff, outputNameOf_bare, endsTwice_outputNameOf_iff⟩
  · exact ⟨_, outputPath_eq_ok_iff.2
      ⟨_, (outputName?_eq_some_iff htrims).2 ⟨isPlainName_of_isJsonEnding hbare, rfl⟩, rfl⟩⟩

/-- **The bare ending is doubled**, although it is to be kept. -/
theorem bare_ending_doubled :
    outputPath "raw_data" ".json" = .ok "raw_data/.json.json" ∧
    NamedAfter ".json" ".json" ∧ ¬ NamedAfter ".json" ".json.json" ∧
    ¬ EndsTwice ".json" ∧ EndsTwice ".json.json" := by
  have hkept : EndsInJson ".json" := isJsonEnding_json.endsInJson
  refine ⟨by decide +kernel, .kept hkept, ?_, fun htwice => ?_, ?_⟩
  · rw [show ".json.json" = outputNameOf ".json" from rfl, namedAfter_outputNameOf_iff]
    exact not_not_intro isJsonEnding_json
  · exact htwice.not_isJsonEnding isJsonEnding_json
  · exact ⟨".json", ".json", rfl, hkept, isJsonEnding_json⟩

end RuleHarvest
