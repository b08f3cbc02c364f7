import ContentBlocker.CommandLine.FilePath

/-!
# File systems

A file system is what stands at each path: a file with its text, or a directory.  The root is always
a directory.  The operations are those that the commands need, and each fails as such operations
do where something is missing, or is not what it should be.
-/

set_option autoImplicit false
namespace ContentBlocker.CommandLine

/-- What stands at a path. -/
inductive FileNode where
  | file (text : String)
  | directory
  deriving DecidableEq

/-- Why an operation on files fails. -/
inductive FileFault where
  | notFound
  | isDirectory
  | notDirectory
  | alreadyExists
  deriving DecidableEq

/-- The usual code of a failure. -/
def FileFault.code : FileFault → String
  | .notFound => "ENOENT"
  | .isDirectory => "EISDIR"
  | .notDirectory => "ENOTDIR"
  | .alreadyExists => "EEXIST"

/-- What stands at each path but the root. -/
structure FileSystem where
  nodes : List (FilePath × FileNode)
  deriving DecidableEq

namespace FileSystem

/-- A file system with nothing in it. -/
def empty : FileSystem :=
  ⟨[]⟩

/-- What stands at a path, if something does. -/
def get? (fs : FileSystem) (path : FilePath) : Option FileNode :=
  if path.isEmpty then some .directory else fs.nodes.lookup path

/-- The file system with something else at a path. -/
def set (fs : FileSystem) (path : FilePath) (node : FileNode) : FileSystem :=
  ⟨fs.nodes.filter (·.1 != path) ++ [(path, node)]⟩

/-- The paths of the directories that a path goes through, from the root down. -/
def ancestors (path : FilePath) : List FilePath :=
  (List.range path.length).map path.take

/-- What stands at a path; a fault if nothing does, or if the way there does not go through
directories. -/
def find (fs : FileSystem) (path : FilePath) : Except FileFault FileNode :=
  match (ancestors path ++ [path]).find? fun p => fs.get? p != some .directory with
  | none => .ok .directory
  | some p =>
    match fs.get? p with
    | none => .error .notFound
    | some node => if p = path then .ok node else .error .notDirectory

/-- The text of a file. -/
def read (fs : FileSystem) (path : FilePath) : Except FileFault String :=
  match fs.find path with
  | .error fault => .error fault
  | .ok .directory => .error .isDirectory
  | .ok (.file text) => .ok text

/-- The file system with a file that has the given text. -/
def write (fs : FileSystem) (path : FilePath) (text : String) : Except FileFault FileSystem :=
  match fs.find path with
  | .ok .directory => .error .isDirectory
  | .ok (.file _) => .ok (fs.set path (.file text))
  | .error fault =>
    match fs.find path.parent with
    | .ok .directory => .ok (fs.set path (.file text))
    | _ => .error fault

/-- The file system with a directory at a path, and with the directories that it goes through. -/
def makeDirectories (fs : FileSystem) (path : FilePath) : Except FileFault FileSystem :=
  (ancestors path ++ [path]).foldlM (fun fs p =>
    match fs.get? p with
    | none => .ok (fs.set p .directory)
    | some .directory => .ok fs
    | some (.file _) => .error (if p = path then .alreadyExists else .notDirectory)) fs

/-- The names of the files directly in a directory. -/
def filesIn (fs : FileSystem) (path : FilePath) : List String :=
  fs.nodes.filterMap fun (p, node) =>
    match node with
    | .file _ => if p.parent = path then p.getLast? else none
    | .directory => none

/-- All files, with their texts. -/
def files (fs : FileSystem) : List (FilePath × String) :=
  fs.nodes.filterMap fun (p, node) =>
    match node with
    | .file text => some (p, text)
    | .directory => none

end FileSystem

/-! ## Looking up what has been set -/

section
variable {κ ν : Type} [BEq κ] [LawfulBEq κ]

/-- What has another key stays where all pairs with a key are taken out. -/
theorem lookup_filter_ne (pairs : List (κ × ν)) {key other : κ} (h : other ≠ key) :
    (pairs.filter (·.1 != key)).lookup other = pairs.lookup other := by
  induction pairs with
  | nil => rfl
  | cons pair pairs ih =>
    obtain ⟨first, value⟩ := pair
    by_cases hfirst : first = key
    · subst hfirst
      have hne : (other == first) = false := beq_false_of_ne h
      simp [ih, List.lookup_cons, hne]
    · simp [hfirst, List.lookup_cons, ih]

theorem lookup_filter_self (pairs : List (κ × ν)) (key : κ) :
    (pairs.filter (·.1 != key)).lookup key = none := by
  rw [List.lookup_eq_none_iff]
  intro pair hpair
  have hne := (List.mem_filter.1 hpair).2
  rw [bne_iff_ne] at hne
  exact bne_iff_ne.2 hne.symm

end

namespace FileSystem

theorem get?_set_self (fs : FileSystem) {path : FilePath} (h : path ≠ []) (node : FileNode) :
    (fs.set path node).get? path = some node := by
  have hempty : path.isEmpty = false := by simpa using h
  simp [get?, set, hempty, List.lookup_append, lookup_filter_self]

theorem get?_set_of_ne (fs : FileSystem) {path other : FilePath} (h : other ≠ path)
    (node : FileNode) : (fs.set path node).get? other = fs.get? other := by
  have hne : (other == path) = false := beq_false_of_ne h
  simp [get?, set, List.lookup_append, lookup_filter_ne _ h, List.lookup_cons, hne]

end FileSystem
end ContentBlocker.CommandLine
