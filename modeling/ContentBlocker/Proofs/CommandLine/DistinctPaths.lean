import ContentBlocker.Proofs.CommandLine.FileChanges
import Mathlib.Data.List.Nodup

/-!
# Paths are different

A file system is a list of what stands at each path, and no path is in it twice
(`FileSystem.Distinct`).  This is so in the empty file system, setting what stands at a path keeps
it so, and with that each operation on files and each command (`relates_run_keepsDistinct`).

Where the paths are different, what stands at a path is what is in the list with this path, in
whatever order the list is (`Distinct.get?_eq_of_perm`).
-/

set_option autoImplicit false
namespace ContentBlocker.CommandLine

open Session

/-! ## Things with different keys -/

/-- What is looked up is what is there, if the keys are different. -/
theorem lookup_eq_some_iff_mem {κ ν : Type} [BEq κ] [LawfulBEq κ] {pairs : List (κ × ν)}
    (h : (pairs.map Prod.fst).Nodup) {key : κ} {value : ν} :
    pairs.lookup key = some value ↔ (key, value) ∈ pairs := by
  constructor
  · intro hlookup
    obtain ⟨before, after, rfl, -⟩ := List.lookup_eq_some_iff.1 hlookup
    exact List.mem_append_right before List.mem_cons_self
  · intro hmem
    obtain ⟨before, after, rfl⟩ := List.append_of_mem hmem
    refine List.lookup_eq_some_iff.2 ⟨before, after, rfl, fun pair hpair => bne_iff_ne.2 ?_⟩
    rw [List.map_append, List.map_cons, List.nodup_append] at h
    exact (h.2.2 _ (List.mem_map_of_mem hpair) _ List.mem_cons_self).symm

namespace FileSystem

variable {fs fs' : FileSystem} {path : FilePath}

/-! ## File systems with one thing at each path -/

/-- No two things stand at the same path. -/
def Distinct (fs : FileSystem) : Prop :=
  (fs.nodes.map Prod.fst).Nodup

instance (fs : FileSystem) : Decidable fs.Distinct :=
  inferInstanceAs (Decidable (List.Nodup _))

theorem distinct_empty : empty.Distinct :=
  List.nodup_nil

theorem Distinct.set (h : fs.Distinct) (path : FilePath) (node : FileNode) :
    (fs.set path node).Distinct := by
  rw [Distinct, FileSystem.set, List.map_append, List.map_singleton, ← List.concat_eq_append]
  refine List.Nodup.concat (fun hmem => ?_) (h.sublist (List.filter_sublist.map _))
  obtain ⟨pair, hpair, heq⟩ := List.mem_map.1 hmem
  exact bne_iff_ne.1 (List.mem_filter.1 hpair).2 heq

theorem Distinct.write (h : fs.Distinct) {text : String} (hwrite : fs.write path text = .ok fs') :
    fs'.Distinct := by
  obtain ⟨-, rfl⟩ := write_eq_ok hwrite
  exact h.set _ _

theorem Distinct.makeDirectories (h : fs.Distinct) (hmake : fs.makeDirectories path = .ok fs') :
    fs'.Distinct := by
  rw [FileSystem.makeDirectories] at hmake
  generalize ancestors path ++ [path] = paths at hmake
  induction paths generalizing fs with
  | nil =>
    obtain rfl := Except.ok.inj hmake
    exact h
  | cons p paths ih =>
    rw [List.foldlM_cons] at hmake
    obtain ⟨next, hnext, hrest⟩ := bind_eq_ok_iff.1 hmake
    refine ih ?_ hrest
    split at hnext
    · obtain rfl := Except.ok.inj hnext
      exact h.set _ _
    · obtain rfl := Except.ok.inj hnext
      exact h
    · cases hnext

theorem Distinct.get?_eq_some_iff (h : fs.Distinct) (hroot : path ≠ []) {node : FileNode} :
    fs.get? path = some node ↔ (path, node) ∈ fs.nodes := by
  rw [get?, if_neg (by simpa using hroot), lookup_eq_some_iff_mem h]

theorem Distinct.of_perm (h : fs.Distinct) (hperm : fs'.nodes.Perm fs.nodes) : fs'.Distinct :=
  (hperm.map Prod.fst).nodup_iff.2 h

/-- The order in which the things in a file system are held does not matter. -/
theorem Distinct.get?_eq_of_perm (h : fs.Distinct) (hperm : fs'.nodes.Perm fs.nodes)
    (path : FilePath) : fs'.get? path = fs.get? path := by
  by_cases hroot : path = []
  · rw [hroot]
    rfl
  · refine Option.ext fun node => ?_
    rw [h.get?_eq_some_iff hroot, (h.of_perm hperm).get?_eq_some_iff hroot,
      hperm.mem_iff]

end FileSystem

/-! ## Commands -/

/-- Different paths stay different. -/
def KeepsDistinct (before after : World) : Prop :=
  before.files.Distinct → after.files.Distinct

instance : IsPreorder World KeepsDistinct where
  refl _ := id
  trans _ _ _ h h' := h' ∘ h

theorem relates_change_keepsDistinct {f : FileSystem → Except FileFault FileSystem}
    (h : ∀ fs fs', f fs = .ok fs' → fs.Distinct → fs'.Distinct) :
    Relates KeepsDistinct (change f) := by
  intro world
  rw [outcome_change]
  split
  · rename_i files hfiles
    exact h _ _ hfiles
  · exact refl_of _ world

/-- What leaves the files as they are keeps their paths different. -/
theorem relates_of_files_eq {α : Type} {command : Session α}
    (h : ∀ world, (outcome command world).2.files = world.files) :
    Relates KeepsDistinct command := by
  intro world hdistinct
  rwa [h world]

theorem relates_writeText_keepsDistinct (path : FilePath) (text : String) :
    Relates KeepsDistinct (Host.writeText path text) :=
  relates_change_keepsDistinct fun _ _ hwrite h => h.write hwrite

theorem relates_writeOutput_keepsDistinct (path : FilePath) (text : String) :
    Relates KeepsDistinct (writeOutput path text) :=
  (relates_change_keepsDistinct fun _ _ hmake h => h.makeDirectories hmake).bind fun _ =>
    relates_writeText_keepsDistinct path text

theorem relates_printError_keepsDistinct (line : String) (code : Nat) :
    Relates KeepsDistinct (Host.printError line >>= fun _ => pure code) :=
  relates_of_files_eq fun _ => rfl

/-- The end of a conversion: its summary, and how many entries have been dropped if some have. -/
theorem relates_announcement_keepsDistinct (line : String) (overLimit : Bool) (dropped : String) :
    Relates KeepsDistinct (do
      Host.print line
      if overLimit then
        Host.printError dropped
      return 0) := by
  refine relates_of_files_eq fun _ => ?_
  cases overLimit <;> rfl

theorem relates_convertWith_keepsDistinct (flags : ConvertFlags) :
    Relates KeepsDistinct (convertWith flags) := by
  refine (relates_of_files_eq fun _ => rfl).bind fun directory =>
    (relates_loadLists _).bind fun loaded => ?_
  split
  · exact relates_printError_keepsDistinct _ 1
  · dsimp only
    split
    · exact relates_of_files_eq fun _ => rfl
    · refine (relates_writeOutput_keepsDistinct _ _).bind fun _ => ?_
      have hnow : Relates KeepsDistinct Host.now := relates_of_files_eq fun _ => rfl
      split
      case' h_1 => refine (relates_writeOutput_keepsDistinct _ _).bind fun _ => ?_
      -- From here on it does not matter whether there is an output for advanced blocking.
      all_goals
        split
        · exact hnow.bind fun time => (relates_writeOutput_keepsDistinct _ _).bind fun _ =>
            relates_announcement_keepsDistinct _ _ _
        · exact relates_announcement_keepsDistinct _ _ _

theorem relates_editWith_keepsDistinct (flags : AllowlistFlags) :
    Relates KeepsDistinct (editWith flags) := by
  refine (relates_of_files_eq fun _ => rfl).bind fun directory => (relates_ask _).bind fun text => ?_
  split
  · exact relates_of_files_eq fun _ => rfl
  · split
    · exact relates_printError_keepsDistinct _ 1
    · refine (relates_writeText_keepsDistinct _ _).bind fun _ => ?_
      exact relates_of_files_eq fun _ => rfl

theorem relates_withFlags_keepsDistinct {α : Type} (flags : Except FlagError α)
    {command : α → Session Nat} (h : ∀ a, Relates KeepsDistinct (command a)) :
    Relates KeepsDistinct (withFlags flags command) := by
  cases flags with
  | error error => exact relates_printError_keepsDistinct _ 1
  | ok flags => exact h flags

/-- **Paths are different after a command** if they were before, however the command ends. -/
theorem relates_run_keepsDistinct (arguments : List String) :
    Relates KeepsDistinct (run arguments) := by
  rw [run]
  split
  · exact relates_withFlags_keepsDistinct _ relates_convertWith_keepsDistinct
  · exact relates_withFlags_keepsDistinct _ relates_editWith_keepsDistinct
  · exact relates_of_files_eq fun _ => rfl

end ContentBlocker.CommandLine
