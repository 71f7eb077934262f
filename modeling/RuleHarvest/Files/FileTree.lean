/-
# The file tree

Files and directories by place. A place is the list of names from the root;
the root itself is always there. The tree knows the working directory, and
directories in which nothing can be made.

Making directories may fail half-way: `makeAll` gives back the tree with what
was made before the fault. All other operations change nothing when they
fail.

Key definitions: `FileTree`, `node?`, `walk`, `locate`, `makeDirectory`,
`makeAll`, `createFile`, `append`, `remove`, `rename`, `readText`, `listing`.
Key theorems: `node?_put`, `node?_remove`, `node?_append`.
-/
import RuleHarvest.Files.Location
import RuleHarvest.Text.Utf8

namespace RuleHarvest
namespace Files

inductive Node where
  | directory
  | file (content : List UInt8)
deriving Repr, DecidableEq

/-- Why an operation on the tree fails. -/
inductive FileFault where
  | notFound
  | exists
  | notDirectory
  | isDirectory
  | invalidArgument
  | nameTooLong
  | nulInName
  | notText
deriving Repr, DecidableEq

def FileFault.message : FileFault → String
  | .notFound => "No such file or directory (os error 2)"
  | .exists => "File exists (os error 17)"
  | .notDirectory => "Not a directory (os error 20)"
  | .isDirectory => "Is a directory (os error 21)"
  | .invalidArgument => "Invalid argument (os error 22)"
  | .nameTooLong => "File name too long (os error 36)"
  | .nulInName => "file name contained an unexpected NUL byte"
  | .notText => "stream did not contain valid UTF-8"

/-- A place in the tree: the names from the root. -/
abbrev Place := List String

/-- Files and directories. -/
structure FileTree where
  entries : List (Place × Node)
  /-- The working directory. -/
  here : Place := []
  /-- Directories in which nothing can be made. -/
  closed : List Place := []
deriving Repr

namespace FileTree

/-! ### Entries -/

/-- What is at a place. -/
def node? (t : FileTree) (p : Place) : Option Node :=
  if p = [] then some .directory else t.entries.lookup p

/-- Puts a node at a place, instead of what is there. -/
def put (t : FileTree) (p : Place) (n : Node) : FileTree :=
  { t with entries := (p, n) :: t.entries.filter (·.1 ≠ p) }

/-- Takes away what is at a place. -/
def remove (t : FileTree) (p : Place) : FileTree :=
  { t with entries := t.entries.filter (·.1 ≠ p) }

@[simp] theorem put_here (t : FileTree) (p : Place) (n : Node) : (t.put p n).here = t.here := rfl

@[simp] theorem remove_here (t : FileTree) (p : Place) : (t.remove p).here = t.here := rfl

theorem node?_root (t : FileTree) : t.node? [] = some .directory := rfl

theorem lookup_filter_ne (p q : Place) : ∀ entries : List (Place × Node),
    (entries.filter (·.1 ≠ p)).lookup q = if q = p then none else entries.lookup q
  | [] => by simp
  | (r, n) :: entries => by
    have ih := lookup_filter_ne p q entries
    by_cases hr : r = p
    · rw [List.filter_cons_of_neg (by simpa using hr), ih]
      by_cases hq : q = p
      · rw [if_pos hq, if_pos hq]
      · have hqr : (q == r) = false := by rw [hr]; simpa using hq
        rw [if_neg hq, if_neg hq, List.lookup_cons, hqr]
    · rw [List.filter_cons_of_pos (by simpa using hr), List.lookup_cons, List.lookup_cons, ih]
      by_cases hqr : q = r
      · subst hqr
        simp [hr]
      · have hqr' : (q == r) = false := by simpa using hqr
        rw [hqr']

/-- What is at a place after a node was put somewhere below the root. -/
theorem node?_put {t : FileTree} {p : Place} (hp : p ≠ []) (n : Node) (q : Place) :
    (t.put p n).node? q = if q = p then some n else t.node? q := by
  unfold node? put
  by_cases hq : q = p
  · subst hq
    rw [if_neg hp, if_pos rfl, List.lookup_cons_self]
  · have hqp : (q == p) = false := by simpa using hq
    rw [if_neg hq, List.lookup_cons, hqp, lookup_filter_ne, if_neg hq]

/-- What is at a place after another one was cleared. -/
theorem node?_remove {t : FileTree} {p : Place} (hp : p ≠ []) (q : Place) :
    (t.remove p).node? q = if q = p then none else t.node? q := by
  unfold node? remove
  by_cases hq : q = p
  · subst hq
    rw [if_neg hp, if_pos rfl, lookup_filter_ne, if_pos rfl]
  · rw [if_neg hq, lookup_filter_ne, if_neg hq]

/-! ### Finding a place -/

/-- A name of more than 255 bytes. -/
def isTooLong (name : String) : Bool := name.utf8ByteSize > 255

/-- Follows names from a place on. Each must stand in a directory. -/
def walk (t : FileTree) (p : Place) : List String → Except FileFault Place
  | [] => .ok p
  | n :: ns =>
    match t.node? p with
    | none => .error .notFound
    | some (.file _) => .error .notDirectory
    | some .directory =>
      if n = "." then walk t p ns
      else if n = ".." then walk t p.dropLast ns
      else if isTooLong n then .error .nameTooLong
      else if (t.node? (p ++ [n])).isNone then .error .notFound
      else walk t (p ++ [n]) ns

/-- Where a path starts. -/
def start (t : FileTree) (l : Location) : Place := if l.absolute then [] else t.here

def hasNul (l : Location) : Bool := l.names.any (·.toList.contains '\x00')

/-- The place that a path names. -/
def locate (t : FileTree) (l : Location) : Except FileFault Place :=
  if hasNul l then .error .nulInName
  else if l.isEmpty then .error .notFound
  else walk t (t.start l) (if l.trailing then l.names ++ ["."] else l.names)

/-- A path that names a directory. -/
def isDirectory (t : FileTree) (l : Location) : Bool :=
  match t.locate l with
  | .ok p => t.node? p = some .directory
  | .error _ => false

/-- The directory in which a path's last name stands, and that name. -/
def slot (t : FileTree) (l : Location) : Except FileFault (Place × String) :=
  match l.names.getLast? with
  | none => .error (if l.absolute then .exists else .notFound)
  | some name => do
    let p ← walk t (t.start l) l.names.dropLast
    match t.node? p with
    | some .directory =>
      if name = "." || name = ".." then .error .exists
      else if isTooLong name then .error .nameTooLong
      else .ok (p, name)
    | some (.file _) => .error .notDirectory
    | none => .error .notFound

/-! ### Directories -/

/-- Makes one directory. -/
def makeDirectory (t : FileTree) (l : Location) : Except FileFault FileTree :=
  if hasNul l then .error .nulInName
  else do
    let (p, name) ← t.slot l
    if (t.node? (p ++ [name])).isSome then .error .exists
    else if t.closed.contains p then .error .notFound
    else .ok (t.put (p ++ [name]) .directory)

/-- A fault of making a directory, unless the directory is there. -/
def unlessThere (t : FileTree) (l : Location) (e : FileFault) : Option FileFault :=
  if t.isDirectory l then none else some e

/-- Makes the first of some nested directories, given inside out, and all that
it stands in. -/
def makeNested (t : FileTree) : List Location → FileTree × Option FileFault
  | [] => (t, none)
  | l :: outer =>
    match t.makeDirectory l with
    | .ok t => (t, none)
    | .error .notFound =>
      match makeNested t outer with
      | (t, some e) => (t, some e)
      | (t, none) =>
        match t.makeDirectory l with
        | .ok t => (t, none)
        | .error e => (t, t.unlessThere l e)
    | .error e => (t, t.unlessThere l e)

/-- Makes a directory and all that it stands in, as far as they are missing. -/
def makeAll (t : FileTree) (l : Location) : FileTree × Option FileFault :=
  t.makeNested l.ancestors

/-! ### Files -/

/-- Makes an empty file that was not there. -/
def createFile (t : FileTree) (l : Location) : Except FileFault (FileTree × Place) :=
  if hasNul l then .error .nulInName
  else do
    let (p, name) ← t.slot l
    if (t.node? (p ++ [name])).isSome then .error .exists
    else if t.closed.contains p then .error .notFound
    else .ok (t.put (p ++ [name]) (.file []), p ++ [name])

/-- Writes at the end of a file. -/
def append (t : FileTree) (p : Place) (bytes : List UInt8) : FileTree :=
  match t.node? p with
  | some (.file content) => t.put p (.file (content ++ bytes))
  | _ => t

@[simp] theorem append_here (t : FileTree) (p : Place) (bytes : List UInt8) :
    (t.append p bytes).here = t.here := by
  unfold append
  split <;> rfl

/-- What is at a place after bytes were written to a file. -/
theorem node?_append {t : FileTree} {p : Place} {content : List UInt8}
    (h : t.node? p = some (.file content)) (bytes : List UInt8) (q : Place) :
    (t.append p bytes).node? q =
      if q = p then some (.file (content ++ bytes)) else t.node? q := by
  have hp : p ≠ [] := by
    rintro rfl
    rw [node?_root] at h
    cases h
  unfold append
  rw [h]
  exact node?_put hp _ q

/-- Moves a file to a path, in one step. A file there is replaced. -/
def rename (t : FileTree) (source : Place) (target : Location) : Except FileFault FileTree :=
  if hasNul target then .error .invalidArgument
  else do
    let (p, name) ← t.slot target
    match t.node? (p ++ [name]), t.node? source with
    | some .directory, _ => .error .isDirectory
    | _, some node => .ok ((t.remove source).put (p ++ [name]) node)
    | _, none => .error .notFound

/-- The text in a file. -/
def readText (t : FileTree) (path : String) : Except FileFault String := do
  let p ← t.locate (.ofString path)
  match t.node? p with
  | some (.file content) =>
    match Text.Utf8.decode? content with
    | some s => .ok (String.ofList s)
    | none => .error .notText
  | some .directory => .error .isDirectory
  | none => .error .notFound

/-! ### Filling and listing a tree -/

/-- Adds the directories from `p` along some names. -/
def addDirectories (t : FileTree) (p : Place) : List String → FileTree
  | [] => t
  | n :: ns =>
    let q := p ++ [n]
    addDirectories (if (t.node? q).isSome then t else t.put q .directory) q ns

/-- Adds a file at a relative path, or an empty directory if the path ends in a
slash. What it stands in is made. -/
def add (t : FileTree) (path : String) (content : List UInt8) : FileTree :=
  let l := Location.ofString path
  if l.trailing then t.addDirectories t.here l.names
  else (t.addDirectories t.here l.names.dropLast).put (t.here ++ l.names) (.file content)

/-- Everything below a place, by relative path in ascending order: a directory
with a slash at its end, a file with its content. -/
def listing (t : FileTree) (p : Place) : List (String × Option (List UInt8)) :=
  let below := t.entries.filterMap fun (q, node) =>
    if p.isPrefixOf q && q ≠ p then
      let path := String.intercalate "/" (q.drop p.length)
      some (match node with
        | .directory => (path ++ "/", none)
        | .file content => (path, some content))
    else none
  below.mergeSort fun a b => a.1 ≤ b.1

end FileTree
end Files
end RuleHarvest
