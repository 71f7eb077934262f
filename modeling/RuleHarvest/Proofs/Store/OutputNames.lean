/-
# Which names output files have

A filename counts without the blanks around it. What is left is the name of a
file unless it is empty, has a slash or a backslash in it, or is one of the two
names with a meaning of their own. The output file then has this name, with the
extension added if it is missing. That name is a name again and has the
extension, so it is kept when it is passed through once more
(`outputName?_again`). In a path it is one name more than the directory has,
whatever the directory is (`StandsIn`).

Key definitions: `StandsIn`, `HasJsonEnding`, `withExtension`, `passedThrough`.
Key theorems: `hasExtension_iff`, `standsIn_joinPath`, `outputName?_again`,
`output_stands_in_directory`.
-/
import RuleHarvest.Proofs.Store.Names
import RuleHarvest.Proofs.Text.Trim

namespace RuleHarvest

open Files

/-! ### The extension -/

/-- The last dot is the one behind which there is none. -/
theorem splitAtLastDot_append {stem extension : List Char} (h : '.' ∉ extension) :
    splitAtLastDot (stem ++ '.' :: extension) = some (stem, extension) := by
  have hafter : ((stem ++ '.' :: extension).reverse.takeWhile (· ≠ '.')).reverse = extension := by
    have hnodot : ∀ c ∈ extension.reverse, decide (c ≠ '.') = true := by
      intro c hc
      have hmem : c ∈ extension := List.mem_reverse.1 hc
      simpa using ne_of_mem_of_not_mem hmem h
    rw [List.reverse_append, List.reverse_cons, List.append_assoc,
      List.takeWhile_append_of_pos hnodot]
    simp
  unfold splitAtLastDot
  simp only [hafter]
  have hlonger : (stem ++ '.' :: extension).length = stem.length + extension.length + 1 := by
    simp only [List.length_append, List.length_cons]
    omega
  have hstem : stem.length + extension.length + 1 - extension.length - 1 = stem.length := by omega
  rw [hlonger, if_neg (by omega), hstem, List.take_left]

/-- **A name has the extension** if it is `.json`, in whatever case, behind
something. -/
theorem hasExtension_iff {name : List Char} :
    hasExtension name = true ↔ ∃ stem extension, name = stem ++ '.' :: extension ∧ stem ≠ [] ∧
      extension.map Char.toLower = "json".toList := by
  constructor
  · intro h
    unfold hasExtension at h
    split at h
    · rename_i stem extension hsplit
      refine ⟨stem, extension, splitAtLastDot_eq_some hsplit, ?_⟩
      simpa using h
    · cases h
  · rintro ⟨stem, extension, rfl, hstem, hextension⟩
    have hdot : '.' ∉ extension := by
      intro hmem
      have hlower : '.' ∈ "json".toList := by
        rw [← hextension]
        exact List.mem_map.2 ⟨'.', hmem, rfl⟩
      revert hlower
      decide
    unfold hasExtension
    rw [splitAtLastDot_append hdot]
    simpa using ⟨hstem, hextension⟩

/-- A name that ends in `.json`, up to the case of ASCII letters, and has
something before it. -/
def HasJsonEnding (name : String) : Prop :=
  ∃ stem ending : String, name = stem ++ ending ∧ stem ≠ "" ∧
    ending.toList.map Char.toLower = ".json".toList

theorem hasJsonEnding_of_hasExtension {name : List Char} (h : hasExtension name = true) :
    HasJsonEnding (String.ofList name) := by
  obtain ⟨stem, extension, rfl, hstem, hextension⟩ := hasExtension_iff.1 h
  refine ⟨String.ofList stem, String.ofList ('.' :: extension), String.ofList_append, ?_, ?_⟩
  · simpa using hstem
  · have hdot : Char.toLower '.' = '.' := by decide
    rw [String.toList_ofList, List.map_cons, hextension, hdot]
    rfl

/-- A name with the extension. -/
def withExtension (name : List Char) : List Char :=
  if hasExtension name then name else name ++ ".json".toList

theorem withExtension_of_hasExtension {name : List Char} (h : hasExtension name = true) :
    withExtension name = name := if_pos h

theorem hasExtension_withExtension {name : List Char} (h : name ≠ []) :
    hasExtension (withExtension name) = true := by
  unfold withExtension
  split
  · assumption
  · exact hasExtension_iff.2 ⟨name, "json".toList, rfl, h, by decide⟩

/-- Nothing is added in front, and no blank behind. -/
theorem isTrimmed_withExtension {name : List Char} (h : Text.IsTrimmed name) (hne : name ≠ []) :
    Text.IsTrimmed (withExtension name) := by
  unfold withExtension
  split
  · exact h
  · obtain ⟨c, cs, rfl⟩ := List.exists_cons_of_ne_nil hne
    refine ⟨fun d hd => h.1 d (by simpa using hd), fun d hd => ?_⟩
    have hend : (c :: cs ++ ".json".toList).getLast? = some 'n' := by
      rw [List.getLast?_append]
      rfl
    rw [hend, Option.mem_some_iff] at hd
    rw [← hd]
    decide

/-! ### Names that are accepted -/

theorem isPlainName_iff {name : List Char} :
    isPlainName name = true ↔
      name ≠ [] ∧ '/' ∉ name ∧ '\\' ∉ name ∧ name ≠ ['.'] ∧ name ≠ ['.', '.'] := by
  simp [isPlainName, and_assoc]

theorem isPlainName_withExtension {name : List Char} (h : isPlainName name = true) :
    isPlainName (withExtension name) = true := by
  unfold withExtension
  split
  · exact h
  · obtain ⟨hne, hslash, hback, -, -⟩ := isPlainName_iff.1 h
    obtain ⟨c, cs, rfl⟩ := List.exists_cons_of_ne_nil hne
    have hlong : ∀ short : List Char, short.length ≤ 2 → c :: cs ++ ".json".toList ≠ short := by
      rintro short hshort rfl
      simp at hshort
    rw [isPlainName_iff]
    refine ⟨by simp, ?_, ?_, hlong _ (by decide), hlong _ (by decide)⟩
    · simpa using hslash
    · simpa using hback

theorem outputName?_eq (filename : String) :
    outputName? filename = if isPlainName (Text.trim filename.toList) then
      some (String.ofList (withExtension (Text.trim filename.toList))) else none := rfl

/-- **A name that was given to an output file is kept.** -/
theorem outputName?_again {filename name : String} (h : outputName? filename = some name) :
    outputName? name = some name := by
  rw [outputName?_eq] at h
  split at h
  · rename_i hplain
    have hne := (isPlainName_iff.1 hplain).1
    have htrim : Text.trim name.toList = name.toList := by
      rw [← Option.some.inj h, String.toList_ofList]
      exact Text.trim_of_isTrimmed (isTrimmed_withExtension (Text.isTrimmed_trim _) hne)
    have hname : name.toList = withExtension (Text.trim filename.toList) := by
      rw [← Option.some.inj h, String.toList_ofList]
    rw [outputName?_eq, htrim, hname, if_pos (isPlainName_withExtension hplain),
      withExtension_of_hasExtension (hasExtension_withExtension hne), ← hname, String.ofList_toList]
  · cases h

/-- The name that is left when a filename is passed through several times. -/
def passedThrough (filename : String) : Nat → Option String
  | 0 => some filename
  | n + 1 => (passedThrough filename n).bind outputName?

/-- A name is extended at most once, however often it is passed through. -/
theorem passedThrough_succ (filename : String) (n : Nat) :
    passedThrough filename (n + 1) = outputName? filename := by
  induction n with
  | zero => rfl
  | succ n ih =>
    rw [passedThrough, ih]
    cases hname : outputName? filename with
    | none => rfl
    | some name => exact outputName?_again hname

/-! ### Where output files stand -/

/-- A path is that of a directory and then one name. So wherever the directory
is, the path names a place directly in it. -/
structure StandsIn (directory name path : String) : Prop where
  isName : IsName name
  path_eq : path = joinPath directory name
  names : (Location.ofString path).names = (Location.ofString directory).names ++ [name]
  absolute : (Location.ofString path).absolute = (Location.ofString directory).absolute
  noSlashBehind : (Location.ofString path).trailing = false
  place : ∀ here, (Location.ofString path).place here =
    (Location.ofString directory).place here ++ [name]

theorem trailing_joinPath {directory name : String} (h : IsName name) :
    (Location.ofString (joinPath directory name)).trailing = false := by
  have hlast : name.toList.getLast? ≠ some '/' := fun hslash =>
    h.noSlash '/' (List.mem_of_getLast? hslash) rfl
  have hne : name.toList ≠ [] := by simpa using h.nonempty
  have hjoined : (joinPath directory name).toList.getLast? = name.toList.getLast? := by
    rcases Location.toList_joinPath directory name with ⟨-, hpath⟩ | ⟨cs, hpath, -⟩
    · rw [hpath]
    · rw [hpath, List.getLast?_append, List.getLast?_cons_of_ne_nil hne,
        List.getLast?_eq_some_getLast hne]
      rfl
  show decide ((joinPath directory name).toList.getLast? = some '/') = false
  rw [hjoined]
  exact decide_eq_false hlast

theorem standsIn_joinPath {directory name : String} (h : IsName name) :
    StandsIn directory name (joinPath directory name) where
  isName := h
  path_eq := rfl
  names := Location.names_joinPath h
  absolute := Location.absolute_joinPath h
  noSlashBehind := trailing_joinPath h
  place here := Location.place_joinPath here h

theorem outputPath_eq_ok_iff {directory filename path : String} :
    outputPath directory filename = .ok path ↔
      ∃ name, outputName? filename = some name ∧ path = joinPath directory name := by
  unfold outputPath
  cases outputName? filename with
  | none => simp
  | some name => simp [eq_comm]

/-- A name with the extension comes out of every filename that is accepted. -/
theorem hasJsonEnding_outputName? {filename name : String} (h : outputName? filename = some name) :
    HasJsonEnding name := by
  rw [outputName?_eq] at h
  split at h
  · rename_i hplain
    rw [← Option.some.inj h]
    exact hasJsonEnding_of_hasExtension
      (hasExtension_withExtension (isPlainName_iff.1 hplain).1)
  · cases h

/-- **Output files stand in their directory.** A filename is accepted exactly
when what is left of it without the blanks around it is the name of a file; the
error of any other holds it as it was given. The output file stands directly in
the directory under one name with the extension `.json`, and this name is
accepted as it is, in whatever directory: however often a name is passed
through, it is extended at most once. -/
theorem output_stands_in_directory (directory filename : String) :
    ∃ name, Text.TrimsTo filename name ∧
      ((∃ path, outputPath directory filename = .ok path) ↔
        name ≠ "" ∧ '/' ∉ name.toList ∧ '\\' ∉ name.toList ∧ name ≠ "." ∧ name ≠ "..") ∧
      (∀ e, outputPath directory filename = .error e → e = .invalidFilename filename) ∧
      (∀ path, outputPath directory filename = .ok path → ∃ file,
        StandsIn directory file path ∧ HasJsonEnding file ∧
        outputPath directory file = .ok path ∧
        ∀ other, outputPath other file = .ok (joinPath other file)) ∧
      ∀ n, passedThrough filename (n + 1) = outputName? filename := by
  refine ⟨String.ofList (Text.trim filename.toList), Text.trimsTo_iff.2 rfl, ?_, ?_, ?_,
    passedThrough_succ filename⟩
  · have haccepted : (∃ path, outputPath directory filename = .ok path) ↔
        isPlainName (Text.trim filename.toList) = true := by
      simp [outputPath_eq_ok_iff, outputName?_eq]
    rw [haccepted, isPlainName_iff, String.toList_ofList]
    simp [String.ext_iff]
  · intro e h
    unfold outputPath at h
    split at h
    · cases h
    · exact (Except.error.inj h).symm
  · intro path h
    obtain ⟨name, hname, rfl⟩ := outputPath_eq_ok_iff.1 h
    have hagain : ∀ other, outputPath other name = .ok (joinPath other name) := fun other =>
      outputPath_eq_ok_iff.2 ⟨name, outputName?_again hname, rfl⟩
    exact ⟨name, standsIn_joinPath (outputName?_eq_some hname).1, hasJsonEnding_outputName? hname,
      hagain directory, hagain⟩

end RuleHarvest
