/-
# Names of temporary files and of output files

A name at the end of a path stands in the directory that the path names,
however the path is spelled (`Location.place_joinPath`). The name of an output
file has a dot behind its first character (`outputName?_eq_some`), and that of
a temporary file has its only dot in front. So an output file and a temporary
file are never at one place, whatever directories they are in
(`TempName.place_ne_output`).

Key definitions: `IsName`, `TempName`, `TempName.ofNat`.
Key theorems: `Location.place_joinPath`, `outputPath_place`,
`TempName.place_ne_output`.
-/
import RuleHarvest.Proofs.Files.Growth
import RuleHarvest.Proofs.Text.Words
import RuleHarvest.Store.Save

namespace RuleHarvest

open Files

/-! ### The end of a path -/

/-- A name that stands for itself at the end of a path. -/
structure Files.IsName (name : String) : Prop where
  noSlash : ∀ c ∈ name.toList, c ≠ '/'
  nonempty : name ≠ ""
  notHere : name ≠ "."
  notUp : name ≠ ".."

theorem Files.IsName.ofList {cs : List Char} (hslash : '/' ∉ cs) (hne : cs ≠ [])
    (hhere : cs ≠ ['.']) (hup : cs ≠ ['.', '.']) : IsName (String.ofList cs) := by
  have htoList : (String.ofList cs).toList = cs := String.toList_ofList
  refine ⟨fun c hc hslash' => ?_, fun h => ?_, fun h => ?_, fun h => ?_⟩
  · rw [htoList, hslash'] at hc
    exact hslash hc
  all_goals rw [h] at htoList
  · exact hne htoList.symm
  · exact hhere htoList.symm
  · exact hup htoList.symm

namespace Files.Location

variable {directory name : String}

/-- The characters of a path that ends in a name: behind those of the directory
there is a slash, unless it has one or is the empty path. -/
theorem toList_joinPath (directory name : String) :
    (directory = "" ∧ joinPath directory name = name) ∨
      ∃ cs, (joinPath directory name).toList = cs ++ '/' :: name.toList ∧
        (directory.toList = cs ∧ cs ≠ [] ∨ directory.toList = cs ++ ['/']) := by
  unfold joinPath
  split
  · rename_i hlast
    exact .inl ⟨String.toList_eq_nil_iff.1 (List.getLast?_eq_none_iff.1 hlast), rfl⟩
  · rename_i hlast
    obtain ⟨cs, hcs⟩ := List.getLast?_eq_some_iff.1 hlast
    refine .inr ⟨cs, ?_, .inr hcs⟩
    rw [String.toList_append, hcs, List.append_assoc]
    rfl
  · rename_i c _ hlast
    refine .inr ⟨directory.toList, ?_, .inl ⟨rfl, fun hnil => ?_⟩⟩
    · rw [String.toList_append, String.toList_append, List.append_assoc]
      rfl
    · rw [hnil] at hlast
      cases hlast

theorem names_joinPath (h : IsName name) :
    (ofString (joinPath directory name)).names = (ofString directory).names ++ [name] := by
  have hslash : decide ('/' ≠ '/') = false := by decide
  have hname : Text.runs (· ≠ '/') name.toList = [name.toList] :=
    Text.runs_of_all (by simpa using h.noSlash) (by simpa using h.nonempty)
  rcases toList_joinPath directory name with ⟨rfl, hpath⟩ | ⟨cs, hpath, hdirectory⟩
  · have hempty : (ofString "").names = [] := rfl
    rw [hpath, hempty, ofString, hname, List.map_singleton, String.ofList_toList, List.nil_append]
  · have hnames : (ofString directory).names = (Text.runs (· ≠ '/') cs).map String.ofList := by
      rcases hdirectory with ⟨hcs, -⟩ | hcs
      · rw [ofString, hcs]
      · rw [ofString, hcs, Text.runs_append_cut hslash]
        simp [Text.runs, Text.splitWhere]
    rw [hnames, ofString, hpath, Text.runs_append_cut hslash, hname, List.map_append,
      List.map_singleton, String.ofList_toList]

theorem absolute_joinPath (h : IsName name) :
    (ofString (joinPath directory name)).absolute = (ofString directory).absolute := by
  have hname : name.toList.head? ≠ some '/' := fun hhead =>
    h.noSlash '/' (List.mem_of_mem_head? hhead) rfl
  unfold ofString
  rcases toList_joinPath directory name with ⟨rfl, hpath⟩ | ⟨cs, hpath, hdirectory⟩
  · simpa [hpath] using hname
  · rcases hdirectory with ⟨hcs, hne⟩ | hcs
    · obtain ⟨c, cs, rfl⟩ := List.exists_cons_of_ne_nil hne
      simp [hpath, hcs]
    · rcases cs with _ | ⟨c, cs⟩ <;> simp [hpath, hcs]

/-- **A name at the end of a path stands in the directory that the path
names.** -/
theorem place_joinPath (here : Place) (h : IsName name) :
    (ofString (joinPath directory name)).place here = (ofString directory).place here ++ [name] := by
  unfold place origin
  rw [names_joinPath h, absolute_joinPath h, resolve_append, resolve_singleton h.notHere h.notUp]

end Files.Location

/-! ### Output files -/

/-- What stands around the last dot of a name. -/
theorem splitAtLastDot_eq_some {name stem extension : List Char}
    (h : splitAtLastDot name = some (stem, extension)) : name = stem ++ '.' :: extension := by
  unfold splitAtLastDot at h
  dsimp only at h
  generalize hafter : (name.reverse.takeWhile (· ≠ '.')).reverse = after at h
  split_ifs at h with hlength
  obtain ⟨rfl, rfl⟩ := Prod.mk.inj (Option.some.inj h)
  have hparts : name = (name.reverse.dropWhile (· ≠ '.')).reverse ++ after := by
    rw [← hafter, ← List.reverse_append, List.takeWhile_append_dropWhile, List.reverse_reverse]
  rcases hdrop : name.reverse.dropWhile (· ≠ '.') with _ | ⟨c, front⟩
  · rw [hdrop] at hparts
    exact absurd (congrArg List.length hparts).symm hlength
  · have hdot : c = '.' := by
      have hhead := List.head?_dropWhile_not (· ≠ '.') name.reverse
      rw [hdrop] at hhead
      simpa using hhead
    have hname : name = front.reverse ++ '.' :: after := by
      rw [hparts, hdrop, hdot, List.reverse_cons, List.append_assoc, List.singleton_append]
    have hstem : name.length - after.length - 1 = front.reverse.length := by
      rw [hname, List.length_append, List.length_cons]
      omega
    rw [hstem, hname, List.take_left]

/-- A name with the extension has a dot behind its first character. -/
theorem dot_mem_of_hasExtension {name : List Char} (h : hasExtension name = true) :
    '.' ∈ name.tail := by
  unfold hasExtension at h
  split at h
  · rename_i stem extension hsplit
    obtain ⟨hstem, -⟩ := Bool.and_eq_true_iff.1 h
    have hname := splitAtLastDot_eq_some hsplit
    rcases stem with _ | ⟨c, stem⟩
    · cases hstem
    · rw [hname]
      simp
  · cases h

/-- **The name of an output file has a dot behind its first character.** -/
theorem outputName?_eq_some {filename name : String} (h : outputName? filename = some name) :
    IsName name ∧ '.' ∈ name.toList.tail := by
  unfold outputName? at h
  dsimp only at h
  generalize Text.trim filename.toList = given at h
  split_ifs at h with hplain hextension
  all_goals
    simp only [isPlainName, Bool.and_eq_true, Bool.not_eq_true', decide_eq_true_eq,
      List.isEmpty_eq_false_iff, List.contains_eq_mem, decide_eq_false_iff_not] at hplain
    obtain ⟨⟨⟨⟨hne, hslash⟩, -⟩, hhere⟩, hup⟩ := hplain
    cases h
    rw [String.toList_ofList]
  · exact ⟨.ofList hslash hne hhere hup, dot_mem_of_hasExtension hextension⟩
  · obtain ⟨c, cs, rfl⟩ := List.exists_cons_of_ne_nil hne
    have hslash' : '/' ∉ (c :: cs) ++ ".json".toList := by
      rw [List.mem_append, not_or]
      exact ⟨hslash, by decide⟩
    refine ⟨.ofList hslash' (by simp) (fun h => ?_) (fun h => ?_), by simp⟩
    all_goals
      have hlength := congrArg List.length h
      simp at hlength

/-- An output file stands in its directory. -/
theorem outputPath_place {directory filename path : String} (here : Place)
    (h : outputPath directory filename = .ok path) :
    ∃ name, outputName? filename = some name ∧
      (Location.ofString path).place here = (Location.ofString directory).place here ++ [name] := by
  unfold outputPath at h
  rcases hname : outputName? filename with _ | name
  · rw [hname] at h
    cases h
  · rw [hname] at h
    cases h
    exact ⟨name, rfl, Location.place_joinPath here (outputName?_eq_some hname).1⟩

/-! ### Temporary files -/

/-- A name for a temporary file, whatever its random characters are. -/
structure TempName where
  random : List Char
  alphanumeric : ∀ c ∈ random, c.isAlphanum = true

namespace TempName

def name (n : TempName) : String := ".tmp" ++ String.ofList n.random

/-- The names that `freshTempName` chooses from. -/
def ofNat (n : Nat) : TempName where
  random := List.replicate (6 - (toString n).length) '0' ++ (toString n).toList
  alphanumeric c hc := by
    rcases List.mem_append.1 hc with hzero | hdigit
    · rw [List.eq_of_mem_replicate hzero]
      decide
    · rw [Nat.toString_eq_ofList_toDigits, String.toList_ofList] at hdigit
      have hc := Nat.isDigit_of_mem_toDigits (by decide) (by decide) hdigit
      unfold Char.isAlphanum
      rw [hc, Bool.or_true]

theorem name_ofNat (n : Nat) : (ofNat n).name = tempName n := by
  unfold name ofNat tempName
  rw [String.ofList_append, String.ofList_toList, String.append_assoc]

theorem toList_name (n : TempName) : n.name.toList = '.' :: ("tmp".toList ++ n.random) := by
  simp [name]

/-- The only dot of the name is in front. -/
theorem dot_notMem_tail (n : TempName) : '.' ∉ n.name.toList.tail := by
  rw [toList_name, List.tail_cons, List.mem_append, not_or]
  refine ⟨by decide, fun hdot => ?_⟩
  have halphanumeric := n.alphanumeric '.' hdot
  revert halphanumeric
  decide

theorem isName (n : TempName) : IsName n.name := by
  have hofList : n.name = String.ofList ('.' :: ("tmp".toList ++ n.random)) := by
    rw [← toList_name, String.ofList_toList]
  rw [hofList]
  refine .ofList ?_ (by simp) (by simp) (by simp)
  simp only [List.mem_cons, List.mem_append, not_or]
  refine ⟨by decide, by decide, fun hslash => ?_⟩
  have halphanumeric := n.alphanumeric '/' hslash
  revert halphanumeric
  decide

/-- **No output file is where a temporary file is**, in whatever directories the
two are. -/
theorem place_ne_output (n : TempName) {directory filename path : String} (here p : Place)
    (h : outputPath directory filename = .ok path) :
    (Location.ofString path).place here ≠ p ++ [n.name] := by
  obtain ⟨name, hname, hplace⟩ := outputPath_place here h
  obtain ⟨-, hdot⟩ := outputName?_eq_some hname
  rw [hplace]
  intro heq
  have hlast : name = n.name := by
    have := List.append_inj_right' heq rfl
    exact List.singleton_inj.1 this
  rw [hlast] at hdot
  exact n.dot_notMem_tail hdot

end TempName

end RuleHarvest
