import ContentBlocker.CommandLine.Commands
import ContentBlocker.Proofs.CommandLine.Outcome
import ContentBlocker.Proofs.Rule.Reading

/-!
# What writing changes in a file system

Writing a file changes what stands at its path and nothing else.  Making the directories for it
changes nothing that is there, and what comes into being are directories on the way to the file.
Both together are `ChangesOnly`, a preorder for every set of paths, so it is kept by everything that
is made of such steps (`relates_writeOutput`).

When several files are written one after the other, to paths that are all different, each of them is
there in the end with the text that was written to it (`WritesAll.get?_eq`).
-/

set_option autoImplicit false
namespace ContentBlocker.CommandLine

open Session

namespace FileSystem

/-! ## Changes at some paths only -/

/-- Nothing changes but what stands at some paths, and what else comes into being are directories on
the way to them. -/
def ChangesOnly (targets : FilePath → Prop) (before after : FileSystem) : Prop :=
  ∀ p, ¬ targets p → after.get? p = before.get? p ∨
    before.get? p = none ∧ after.get? p = some .directory ∧ ∃ q, targets q ∧ p <+: q

namespace ChangesOnly

variable {targets targets' : FilePath → Prop} {fs fs' fs'' : FileSystem}

theorem refl (targets : FilePath → Prop) (fs : FileSystem) : ChangesOnly targets fs fs :=
  fun _ _ => .inl rfl

theorem trans (h : ChangesOnly targets fs fs') (h' : ChangesOnly targets fs' fs'') :
    ChangesOnly targets fs fs'' := by
  intro p hp
  rcases h' p hp with hsame' | ⟨hnone', hdirectory', hway'⟩
  · rw [hsame']
    exact h p hp
  · rcases h p hp with hsame | ⟨-, hdirectory, -⟩
    · exact .inr ⟨hsame ▸ hnone', hdirectory', hway'⟩
    · rw [hdirectory] at hnone'
      cases hnone'

theorem mono (htargets : ∀ p, targets p → targets' p) (h : ChangesOnly targets fs fs') :
    ChangesOnly targets' fs fs' := by
  intro p hp
  refine (h p (mt (htargets p) hp)).imp_right fun ⟨hnone, hdirectory, q, hq, hway⟩ => ?_
  exact ⟨hnone, hdirectory, q, htargets q hq, hway⟩

/-- What stands at another path stays there. -/
theorem get?_eq (h : ChangesOnly targets fs fs') {p : FilePath} (hp : ¬ targets p)
    {node : FileNode} (hnode : fs.get? p = some node) : fs'.get? p = some node := by
  rcases h p hp with hsame | ⟨hnone, -⟩
  · rw [hsame, hnode]
  · rw [hnone] at hnode
    cases hnode

end ChangesOnly

/-! ## Making directories -/

/-- Every step of a run makes at most the directory that it is about. -/
private theorem foldlM_changes {step : FileSystem → FilePath → Except FileFault FileSystem}
    (hstep : ∀ fs p fs', step fs p = .ok fs' → ∀ q, fs'.get? q = fs.get? q ∨
      fs.get? q = none ∧ fs'.get? q = some .directory ∧ q = p)
    {paths : List FilePath} {fs fs' : FileSystem} (h : paths.foldlM step fs = .ok fs')
    (q : FilePath) :
    fs'.get? q = fs.get? q ∨ fs.get? q = none ∧ fs'.get? q = some .directory ∧ q ∈ paths := by
  induction paths generalizing fs with
  | nil =>
    obtain rfl := Except.ok.inj h
    exact .inl rfl
  | cons p paths ih =>
    rw [List.foldlM_cons] at h
    obtain ⟨next, hnext, hrest⟩ := bind_eq_ok_iff.1 h
    rcases hstep fs p next hnext q with hsame | ⟨hnone, hdirectory, rfl⟩
    · rw [← hsame]
      exact (ih hrest).imp_right fun ⟨hnone, hdirectory, hq⟩ =>
        ⟨hnone, hdirectory, List.mem_cons_of_mem p hq⟩
    · refine .inr ⟨hnone, ?_, List.mem_cons_self⟩
      rcases ih hrest with hsame | ⟨hnone', -⟩
      · rw [hsame, hdirectory]
      · rw [hdirectory] at hnone'
        cases hnone'

/-- The paths that a path goes through, and itself, are what it begins with. -/
theorem mem_ancestors_iff {p path : FilePath} : p ∈ ancestors path ++ [path] ↔ p <+: path := by
  rw [List.mem_append, List.mem_singleton, ancestors, List.mem_map]
  constructor
  · rintro (⟨n, -, rfl⟩ | rfl)
    · exact List.take_prefix n path
    · exact List.prefix_refl p
  · rintro ⟨rest, rfl⟩
    cases rest with
    | nil => exact .inr (List.append_nil p).symm
    | cons name rest =>
      refine .inl ⟨p.length, List.mem_range.2 ?_, List.take_left⟩
      rw [List.length_append, List.length_cons]
      omega

/-- **Making directories changes nothing that is there.** -/
theorem makeDirectories_changes {fs fs' : FileSystem} {path : FilePath}
    (h : fs.makeDirectories path = .ok fs') (q : FilePath) : fs'.get? q = fs.get? q ∨
      fs.get? q = none ∧ fs'.get? q = some .directory ∧ q <+: path := by
  refine (foldlM_changes (fun fs p fs' hp q => ?_) h q).imp_right
    fun ⟨hnone, hdirectory, hq⟩ => ⟨hnone, hdirectory, mem_ancestors_iff.1 hq⟩
  split at hp
  · rename_i hnone
    obtain rfl := Except.ok.inj hp
    by_cases hq : q = p
    · subst hq
      have hroot : q ≠ [] := by
        rintro rfl
        cases hnone
      exact .inr ⟨hnone, get?_set_self fs hroot _, rfl⟩
    · exact .inl (get?_set_of_ne fs hq _)
  · obtain rfl := Except.ok.inj hp
    exact .inl rfl
  · cases hp

/-! ## Writing a file -/

theorem find_nil (fs : FileSystem) : fs.find [] = .ok .directory :=
  rfl

/-- The root is not written to, and elsewhere there is the file that was written. -/
theorem write_eq_ok {fs fs' : FileSystem} {path : FilePath} {text : String}
    (h : fs.write path text = .ok fs') : path ≠ [] ∧ fs' = fs.set path (.file text) := by
  constructor
  · rintro rfl
    rw [write, find_nil] at h
    cases h
  · rw [write] at h
    split at h
    · cases h
    · exact (Except.ok.inj h).symm
    · split at h
      · exact (Except.ok.inj h).symm
      · cases h

theorem find_of_read {fs : FileSystem} {path : FilePath} {text : String}
    (h : fs.read path = .ok text) : fs.find path = .ok (.file text) := by
  rw [read] at h
  split at h
  · cases h
  · cases h
  · rename_i hfind
    rw [hfind, Except.ok.inj h]

/-- A file that has been read can be written. -/
theorem write_of_read {fs : FileSystem} {path : FilePath} {old : String}
    (h : fs.read path = .ok old) (text : String) :
    fs.write path text = .ok (fs.set path (.file text)) := by
  rw [write, find_of_read h]

theorem ne_nil_of_read {fs : FileSystem} {path : FilePath} {text : String}
    (h : fs.read path = .ok text) : path ≠ [] :=
  (write_eq_ok (write_of_read h text)).1

/-! ## Writing files one after the other -/

/-- A file has been written, and nothing else has changed but for directories on the way to it. -/
structure Writes (before : FileSystem) (path : FilePath) (text : String) (after : FileSystem) :
    Prop where
  changes : ChangesOnly (· = path) before after
  holds : after.get? path = some (.file text)

theorem writes_of_makeDirectories {fs mid fs' : FileSystem} {path : FilePath} {text : String}
    (hmake : fs.makeDirectories path.parent = .ok mid) (hwrite : mid.write path text = .ok fs') :
    Writes fs path text fs' := by
  obtain ⟨hroot, rfl⟩ := write_eq_ok hwrite
  refine ⟨fun q hq => ?_, get?_set_self mid hroot _⟩
  rw [get?_set_of_ne mid hq]
  refine (makeDirectories_changes hmake q).imp_right fun ⟨hnone, hdirectory, hway⟩ => ?_
  exact ⟨hnone, hdirectory, path, rfl, hway.trans (List.dropLast_prefix path)⟩

/-- Files have been written, one after the other. -/
inductive WritesAll : FileSystem → List (FilePath × String) → FileSystem → Prop
  | nil (fs : FileSystem) : WritesAll fs [] fs
  | cons {fs mid fs' : FileSystem} {path : FilePath} {text : String}
      {outputs : List (FilePath × String)} (first : Writes fs path text mid)
      (rest : WritesAll mid outputs fs') : WritesAll fs ((path, text) :: outputs) fs'

namespace WritesAll

variable {fs fs' : FileSystem} {outputs : List (FilePath × String)}

/-- Nothing changes but the files that are written. -/
theorem changes (h : WritesAll fs outputs fs') :
    ChangesOnly (· ∈ outputs.map Prod.fst) fs fs' := by
  induction h with
  | nil fs => exact .refl _ fs
  | cons first _ ih =>
    refine (first.changes.mono fun p hp => ?_).trans (ih.mono fun p hp => ?_)
    · exact List.mem_cons.2 (.inl hp)
    · exact List.mem_cons_of_mem _ hp

/-- **Each file has the text that was written to it**, if no two of them are the same. -/
theorem get?_eq (h : WritesAll fs outputs fs') (hdistinct : (outputs.map Prod.fst).Nodup) :
    ∀ output ∈ outputs, fs'.get? output.1 = some (.file output.2) := by
  induction h with
  | nil => exact fun _ houtput => nomatch houtput
  | cons first rest ih =>
    rw [List.map_cons, List.nodup_cons] at hdistinct
    refine List.forall_mem_cons.2 ⟨?_, ih hdistinct.2⟩
    exact rest.changes.get?_eq hdistinct.1 first.holds

end WritesAll
end FileSystem

/-! ## Outputs of commands -/

open FileSystem (ChangesOnly Writes WritesAll)

/-- A file that can be read can be written. -/
theorem outcome_writeText_of_read {world : World} {path : FilePath} {old : String}
    (h : world.files.read path = .ok old) (text : String) :
    outcome (Host.writeText path text) world =
      (.ok (), { world with files := world.files.set path (.file text) }) := by
  have hwrite := outcome_change world (·.write path text)
  rwa [FileSystem.write_of_read h text] at hwrite

theorem outcome_writeOutput_eq_ok {path : FilePath} {text : String} {world next : World}
    (h : outcome (writeOutput path text) world = (.ok (), next)) :
    ∃ files, next = { world with files := files } ∧ Writes world.files path text files := by
  obtain ⟨⟨⟩, middle, hmake, hwrite⟩ := outcome_bind_eq_ok_iff.1 h
  have hmake := (outcome_change world _).symm.trans hmake
  split at hmake
  · rename_i made hmade
    cases hmake
    have hwrite := (outcome_change _ _).symm.trans hwrite
    split at hwrite
    · rename_i written hwritten
      cases hwrite
      exact ⟨written, rfl, FileSystem.writes_of_makeDirectories hmade hwritten⟩
    · cases hwrite
  · cases hmake

/-- The files change at some paths only. -/
def FilesChangeOnly (targets : FilePath → Prop) (before after : World) : Prop :=
  ChangesOnly targets before.files after.files

instance (targets : FilePath → Prop) : IsPreorder World (FilesChangeOnly targets) where
  refl world := .refl targets world.files
  trans _ _ _ h h' := h.trans h'

section
variable {targets : FilePath → Prop}

theorem relates_change {f : FileSystem → Except FileFault FileSystem}
    (h : ∀ fs fs', f fs = .ok fs' → ChangesOnly targets fs fs') :
    Relates (FilesChangeOnly targets) (change f) := by
  intro world
  rw [outcome_change]
  split
  · rename_i files hfiles
    exact h _ _ hfiles
  · exact refl_of _ world

/-- **An output changes nothing but its file**, also where it breaks off. -/
theorem relates_writeOutput {path : FilePath} (hpath : targets path) (text : String) :
    Relates (FilesChangeOnly targets) (writeOutput path text) := by
  refine (relates_change fun fs fs' hmake q hq => ?_).bind fun _ =>
    relates_change fun fs fs' hwrite q hq => ?_
  · refine (FileSystem.makeDirectories_changes hmake q).imp_right
      fun ⟨hnone, hdirectory, hway⟩ => ?_
    exact ⟨hnone, hdirectory, path, hpath, hway.trans (List.dropLast_prefix path)⟩
  · obtain ⟨-, rfl⟩ := FileSystem.write_eq_ok hwrite
    have hne : q ≠ path := by
      rintro rfl
      exact hq hpath
    exact .inl (FileSystem.get?_set_of_ne fs hne _)

end

/-! ## Writing several files -/

/-- Writes files, one after the other. -/
def writeAll : List (FilePath × String) → Session Unit
  | [] => pure ()
  | (path, text) :: outputs => do
    writeOutput path text
    writeAll outputs

theorem outcome_writeAll_eq_ok {outputs : List (FilePath × String)} {world next : World}
    (h : outcome (writeAll outputs) world = (.ok (), next)) :
    ∃ files, next = { world with files := files } ∧ WritesAll world.files outputs files := by
  induction outputs generalizing world with
  | nil =>
    cases h
    exact ⟨_, rfl, .nil _⟩
  | cons output outputs ih =>
    obtain ⟨⟨⟩, middle, hfirst, hrest⟩ := outcome_bind_eq_ok_iff.1 h
    obtain ⟨written, rfl, hwrites⟩ := outcome_writeOutput_eq_ok hfirst
    obtain ⟨files, rfl, hall⟩ := ih hrest
    exact ⟨files, rfl, .cons hwrites hall⟩

theorem relates_writeAll {targets : FilePath → Prop} {outputs : List (FilePath × String)}
    (h : ∀ output ∈ outputs, targets output.1) :
    Relates (FilesChangeOnly targets) (writeAll outputs) := by
  induction outputs with
  | nil => exact .pure ()
  | cons output outputs ih =>
    obtain ⟨hfirst, hrest⟩ := List.forall_mem_cons.1 h
    exact (relates_writeOutput hfirst output.2).bind fun _ => ih hrest

end ContentBlocker.CommandLine
