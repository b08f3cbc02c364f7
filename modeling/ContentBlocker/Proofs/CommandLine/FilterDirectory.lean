import ContentBlocker.Proofs.CommandLine.DistinctPaths
import ContentBlocker.Proofs.CommandLine.Writability
import ContentBlocker.Proofs.Conversion.LineByLine
import ContentBlocker.Proofs.Text.CodeUnits
import Mathlib.Logic.ExistsUnique
import Mathlib.Tactic.Choose
import Mathlib.Tactic.MkIffOfInductiveProp

/-!
# Directories with filter lists

The filter lists in a directory are the files directly in it whose names end in `.txt`, in the order
of their names (`DirectoryLists`).  This says which files they are and not where they are found:
a file system holds its files in any order, and there is one way to put names in order.  So what is
loaded from a directory depends on its filter lists alone, and their lines are converted as if the
texts were one, put together with a line feed between each two (`directory_loaded_as_one_list`).
-/

set_option autoImplicit false
namespace ContentBlocker.CommandLine

open Session

namespace FileSystem

variable {fs : FileSystem} {directory : FilePath} {name : String}

/-! ## The files in a directory -/

/-- A file is directly in a directory if its path has one more name than that of the directory. -/
private theorem fileIn_eq_some_iff (p : FilePath) (node : FileNode) :
    (match node with
      | .file _ => if p.parent = directory then p.getLast? else none
      | .directory => none) = some name ↔
      p = directory ++ [name] ∧ ∃ text, node = .file text := by
  cases node with
  | directory => exact iff_of_false (fun h => nomatch h) fun ⟨_, text, h⟩ => nomatch h
  | file text =>
    rw [and_iff_left ⟨text, rfl⟩]
    constructor
    · intro h
      dsimp only at h
      split at h
      · rename_i hparent
        obtain ⟨way, rfl⟩ := List.getLast?_eq_some_iff.1 h
        rw [FilePath.parent, List.dropLast_concat] at hparent
        rw [hparent]
      · cases h
    · rintro rfl
      dsimp only
      rw [FilePath.parent, List.dropLast_concat, if_pos rfl, List.getLast?_concat]

/-- The names of the files in a directory are those at whose paths in it there are files. -/
theorem Distinct.mem_filesIn_iff (h : fs.Distinct) :
    name ∈ fs.filesIn directory ↔ ∃ text, fs.get? (directory ++ [name]) = some (.file text) := by
  have hroot : directory ++ [name] ≠ [] := by simp
  simp only [h.get?_eq_some_iff hroot]
  rw [filesIn, List.mem_filterMap]
  constructor
  · rintro ⟨⟨p, node⟩, hnode, hname⟩
    obtain ⟨rfl, text, rfl⟩ := (fileIn_eq_some_iff p node).1 hname
    exact ⟨text, hnode⟩
  · rintro ⟨text, hnode⟩
    exact ⟨_, hnode, (fileIn_eq_some_iff _ _).2 ⟨rfl, text, rfl⟩⟩

/-- A file is found in a directory once. -/
theorem Distinct.nodup_filesIn (h : fs.Distinct) (directory : FilePath) :
    (fs.filesIn directory).Nodup := by
  rw [filesIn, List.Nodup, List.pairwise_filterMap]
  refine (List.pairwise_map.1 h).imp fun {a b} hne name hname name' hname' heq => hne ?_
  have hpath := ((fileIn_eq_some_iff a.1 a.2).1 hname).1
  have hpath' := ((fileIn_eq_some_iff b.1 b.2).1 hname').1
  rw [hpath, hpath', heq]

/-- A file in a directory that is there can be read. -/
theorem read_of_directory (hdirectory : fs.find directory = .ok .directory) {text : String}
    (hfile : fs.get? (directory ++ [name]) = some (.file text)) :
    fs.read (directory ++ [name]) = .ok text := by
  have hway : ∀ p, p <+: directory ++ [name] → p ≠ directory ++ [name] →
      fs.get? p = some .directory := by
    intro p hp hne
    have hparent := FilePath.prefix_parent hp hne
    rw [FilePath.parent, List.dropLast_concat] at hparent
    exact get?_of_find_directory hdirectory hparent
  rw [read, find_of_way hway hfile]

end FileSystem

/-! ## The filter lists in a directory -/

namespace FileSystem

variable {fs : FileSystem} {directory : FilePath}

/-- A filter list directly in a directory: a file with a name that ends in `.txt`. -/
@[mk_iff]
structure HoldsList (fs : FileSystem) (directory : FilePath) (name text : String) : Prop where
  extension : filterListExtension <:+ name.toList
  file : fs.get? (directory ++ [name]) = some (.file text)

theorem Distinct.mem_filterListNames_iff (h : fs.Distinct) {name : String} :
    name ∈ filterListNames (fs.filesIn directory) ↔ ∃ text, fs.HoldsList directory name text := by
  rw [filterListNames, Text.mem_sorted, List.mem_filter, h.mem_filesIn_iff,
    List.isSuffixOf_iff_suffix]
  constructor
  · rintro ⟨⟨text, hfile⟩, hextension⟩
    exact ⟨text, hextension, hfile⟩
  · rintro ⟨text, hextension, hfile⟩
    exact ⟨⟨text, hfile⟩, hextension⟩

theorem Distinct.pairwise_filterListNames (h : fs.Distinct) (directory : FilePath) :
    (filterListNames (fs.filesIn directory)).Pairwise
      fun name name' => Text.le name name' = true ∧ name ≠ name' :=
  Text.pairwise_sorted ((h.nodup_filesIn directory).filter _)

end FileSystem

/-- The names of all filter lists in a directory with their texts, in the order of the names. -/
structure DirectoryLists (fs : FileSystem) (directory : FilePath)
    (lists : List (String × String)) : Prop where
  mem_iff : ∀ list, list ∈ lists ↔ fs.HoldsList directory list.1 list.2
  ordered : lists.Pairwise fun list list' => Text.le list.1 list'.1 = true ∧ list.1 ≠ list'.1

namespace DirectoryLists

variable {fs fs' : FileSystem} {directory : FilePath} {lists lists' : List (String × String)}

/-- The filter lists in a directory can be put in order. -/
theorem exists_of_distinct (h : fs.Distinct) (directory : FilePath) :
    ∃ lists, DirectoryLists fs directory lists := by
  have htexts : ∀ name ∈ filterListNames (fs.filesIn directory),
      ∃ text, fs.HoldsList directory name text :=
    fun name hname => h.mem_filterListNames_iff.1 hname
  choose! textOf htextOf using htexts
  refine ⟨(filterListNames (fs.filesIn directory)).map fun name => (name, textOf name),
    fun list => ?_, List.pairwise_map.2 (h.pairwise_filterListNames directory)⟩
  rw [List.mem_map]
  constructor
  · rintro ⟨name, hname, rfl⟩
    exact htextOf name hname
  · intro hholds
    have hname := h.mem_filterListNames_iff.2 ⟨list.2, hholds⟩
    have htext := (htextOf list.1 hname).file.symm.trans hholds.file
    exact ⟨list.1, hname, Prod.ext rfl (FileNode.file.inj (Option.some.inj htext))⟩

/-- The filter lists in a directory can be put in order in one way only. -/
theorem unique (h : DirectoryLists fs directory lists) (h' : DirectoryLists fs directory lists') :
    lists = lists' :=
  Text.eq_of_ordered Prod.fst h.ordered h'.ordered fun list =>
    (h.mem_iff list).trans (h'.mem_iff list).symm

/-- The filter lists in a directory are the same where the same are held. -/
theorem congr (h : DirectoryLists fs directory lists)
    (hsame : ∀ name text, fs'.HoldsList directory name text ↔ fs.HoldsList directory name text) :
    DirectoryLists fs' directory lists :=
  ⟨fun list => (h.mem_iff list).trans (hsame _ _).symm, h.ordered⟩

theorem filterListNames_eq (h : DirectoryLists fs directory lists) (hdistinct : fs.Distinct) :
    filterListNames (fs.filesIn directory) = lists.map Prod.fst := by
  refine Text.eq_of_ordered id (hdistinct.pairwise_filterListNames directory)
    (List.pairwise_map.2 h.ordered) fun name => ?_
  rw [hdistinct.mem_filterListNames_iff, List.mem_map]
  constructor
  · rintro ⟨text, hholds⟩
    exact ⟨(name, text), (h.mem_iff _).2 hholds, rfl⟩
  · rintro ⟨list, hlist, rfl⟩
    exact ⟨list.2, (h.mem_iff list).1 hlist⟩

end DirectoryLists

/-! ## Loading -/

namespace Session

variable {world : World} {directory : FilePath}

theorem outcome_inputFiles_of_directory (h : world.files.find directory = .ok .directory) :
    outcome (inputFiles directory) world =
      (.ok ((filterListNames (world.files.filesIn directory)).map (directory ++ [·])), world) := by
  have hfind := outcome_ask world (·.find directory)
  rw [h] at hfind
  have hdirectory : outcome (Host.isDirectory directory) world = (.ok true, world) :=
    outcome_bind_of_ok hfind _
  have hnames := outcome_ask world fun fs => .ok (fs.filesIn directory)
  rw [inputFiles, outcome_bind_of_ok hdirectory]
  exact outcome_bind_of_ok hnames _

/-- **The filter lists in a directory are loaded** in their order. -/
theorem outcome_loadLists_of_directory {lists : List (String × String)}
    (hdistinct : world.files.Distinct) (hdirectory : world.files.find directory = .ok .directory)
    (hlists : DirectoryLists world.files directory lists) :
    outcome (loadLists directory) world =
      (.ok ⟨lists.map fun list => directory ++ [list.1],
        lists.flatMap fun list => Text.lines list.2⟩, world) := by
  have hfiles := outcome_inputFiles_of_directory hdirectory
  rw [hlists.filterListNames_eq hdistinct, List.map_map] at hfiles
  have hread : ∀ list ∈ lists,
      outcome (Host.readText (directory ++ [list.1])) world = (.ok list.2, world) :=
    fun list hlist => outcome_readText_of_ok
      (FileSystem.read_of_directory hdirectory ((hlists.mem_iff list).1 hlist).file)
  have htexts := outcome_mapM_of_ok hread
  rw [loadLists, outcome_bind_of_ok hfiles, List.mapM_map]
  refine (outcome_bind_of_ok htexts _).trans ?_
  rw [outcome_pure, List.flatMap_map]
  rfl

end Session

/-! ## Conversion -/

/-- The lines of several texts are converted as the texts with a line feed between each two. -/
theorem convertLines_flatMap_lines (texts : List String) (options : ConversionOptions) :
    convertLines (texts.flatMap Text.lines) options = convertLines [Text.unlines texts] options := by
  have hone : Text.unlines [Text.unlines texts] = Text.unlines texts := String.intercalate_singleton
  rw [convertLines, convertLines, FilterList.ofText_unlines_flatMap_lines, hone]

/-- **A directory is loaded as one list.**  The filter lists in a directory can be put in order in
one way.  They are loaded in this order, and for all options their lines are converted as the one
text that their texts make with a line feed between each two.  The same is loaded wherever the
same filter lists are in the directory: in whatever order a file system holds what is in it, and
whatever else is there. -/
theorem directory_loaded_as_one_list (world : World) (directory : FilePath)
    (hdistinct : world.files.Distinct)
    (hdirectory : world.files.find directory = .ok .directory) :
    (∃! lists, DirectoryLists world.files directory lists) ∧
      ∀ lists, DirectoryLists world.files directory lists →
        let loaded : LoadedLists := ⟨lists.map fun list => directory ++ [list.1],
          lists.flatMap fun list => Text.lines list.2⟩
        outcome (loadLists directory) world = (.ok loaded, world) ∧
        (∀ options, convertLines loaded.lines options =
          convertLines [Text.unlines (lists.map Prod.snd)] options) ∧
        (∀ world' : World, world'.files.nodes.Perm world.files.nodes →
          outcome (loadLists directory) world' = (.ok loaded, world')) ∧
        ∀ world' : World, world'.files.Distinct →
          world'.files.find directory = .ok .directory →
          (∀ name text, world'.files.HoldsList directory name text ↔
            world.files.HoldsList directory name text) →
          outcome (loadLists directory) world' = (.ok loaded, world') := by
  have hload (world' : World) (hdistinct' : world'.files.Distinct)
      (hdirectory' : world'.files.find directory = .ok .directory)
      (hsame : ∀ name text, world'.files.HoldsList directory name text ↔
        world.files.HoldsList directory name text) {lists : List (String × String)}
      (hlists : DirectoryLists world.files directory lists) :=
    outcome_loadLists_of_directory hdistinct' hdirectory' (hlists.congr hsame)
  refine ⟨?_, fun lists hlists => ⟨?_, fun options => ?_, fun world' hperm => ?_, ?_⟩⟩
  · obtain ⟨lists, hlists⟩ := DirectoryLists.exists_of_distinct hdistinct directory
    exact ⟨lists, hlists, fun lists' hlists' => hlists'.unique hlists⟩
  · exact outcome_loadLists_of_directory hdistinct hdirectory hlists
  · rw [← convertLines_flatMap_lines, List.flatMap_map]
  · have hget := hdistinct.get?_eq_of_perm hperm
    refine hload world' (hdistinct.of_perm hperm) ?_ (fun name text => ?_) hlists
    · rw [← hdirectory]
      simp only [FileSystem.find, hget]
    · simp only [FileSystem.holdsList_iff, hget]
  · exact fun world' hdistinct' hdirectory' hsame =>
      hload world' hdistinct' hdirectory' hsame hlists

/-- A directory with two filter lists, not in the order of their names, a file that is none, and a
directory. -/
def mixedDirectory : FileSystem where
  nodes := [
    (["lists"], .directory),
    (["lists", "b.txt"], .file "||b.example^\r"),
    (["lists", "notes.md"], .file "||c.example^"),
    (["lists", "a.txt"], .file "! remark\r\n||a.example^$popup\r"),
    (["lists", "old.txt"], .directory),
    (["lists", "old.txt", "d.txt"], .file "||d.example^")]

theorem directory_loaded_as_one_list_of_mixed :
    let world : World := {
      files := mixedDirectory
      workingDirectory := []
      time := "", output := [], errors := [] }
    world.files.Distinct ∧ world.files.find ["lists"] = .ok .directory ∧
      outcome (loadLists ["lists"]) world = (.ok {
        files := [["lists", "a.txt"], ["lists", "b.txt"]]
        lines := ["! remark", "||a.example^$popup\r", "||b.example^\r"] }, world) ∧
      ∀ options,
        convertLines ["! remark", "||a.example^$popup\r", "||b.example^\r"] options =
          convertLines ["! remark\r\n||a.example^$popup\r\n||b.example^\r"] options := by
  intro world
  have hdistinct : world.files.Distinct := by decide
  have hdirectory : world.files.find ["lists"] = .ok .directory := by decide
  have hlists : DirectoryLists world.files ["lists"]
      [("a.txt", "! remark\r\n||a.example^$popup\r"), ("b.txt", "||b.example^\r")] := by
    refine ⟨fun ⟨name, text⟩ => ?_, by decide⟩
    rw [FileSystem.holdsList_iff, hdistinct.get?_eq_some_iff (by simp)]
    constructor
    · intro hmem
      rcases List.mem_pair.1 hmem with heq | heq <;> cases heq <;> decide
    · rintro ⟨hextension, hnode⟩
      have hcases : name = "b.txt" ∧ text = "||b.example^\r" ∨
          name = "notes.md" ∧ text = "||c.example^" ∨
          name = "a.txt" ∧ text = "! remark\r\n||a.example^$popup\r" := by
        simpa [world, mixedDirectory] using hnode
      rcases hcases with ⟨rfl, rfl⟩ | ⟨rfl, rfl⟩ | ⟨rfl, rfl⟩
      · decide
      · exact absurd hextension (by decide)
      · decide
  obtain ⟨hload, hconvert, -⟩ :=
    (directory_loaded_as_one_list world ["lists"] hdistinct hdirectory).2 _ hlists
  exact ⟨hdistinct, hdirectory, hload, hconvert⟩

end ContentBlocker.CommandLine
