import ContentBlocker.Proofs.CommandLine.FileChanges

/-!
# When files can be written

A file can be written where no directory stands in its place and no file stands on the way to it
(`FileSystem.Writable`): the directories that are missing on the way are made.

Writing a file does not get in the way of another one if neither path goes through the other
(`Writable.of_writes`).  So several files can be written one after the other if each of them can be
written and no path goes through another (`outcome_writeAll_of_writable`).
-/

set_option autoImplicit false
namespace ContentBlocker.CommandLine

open Session

/-! ## The way to a file -/

namespace FilePath

theorem parent_isPrefix (path : FilePath) : path.parent <+: path :=
  List.dropLast_prefix path

/-- What lies on the way to a file lies on the way to its directory, or is that directory. -/
theorem prefix_parent {p path : FilePath} (h : p <+: path) (hne : p ≠ path) :
    p <+: path.parent := by
  have hlength : p.length ≠ path.length := mt h.eq_of_length hne
  have hle := h.length_le
  refine List.prefix_of_prefix_length_le h (parent_isPrefix path) ?_
  rw [parent, List.length_dropLast]
  omega

theorem ne_of_prefix_parent {p path : FilePath} (hroot : path ≠ []) (h : p <+: path.parent) :
    p ≠ path := by
  rintro rfl
  have hle := h.length_le
  have hpos := List.length_pos_iff.2 hroot
  rw [parent, List.length_dropLast] at hle
  omega

end FilePath

namespace FileSystem

variable {fs fs' : FileSystem} {path : FilePath} {text : String}

/-! ## Making directories -/

/-- Directories are made where no file stands, and what is a directory stays one. -/
private theorem foldlM_makes {step : FileSystem → FilePath → Except FileFault FileSystem}
    (hstep : ∀ fs p, (∀ text, fs.get? p ≠ some (.file text)) → ∃ fs', step fs p = .ok fs' ∧
      fs'.get? p = some .directory ∧ ∀ q ≠ p, fs'.get? q = fs.get? q)
    {paths : List FilePath} {fs : FileSystem}
    (h : ∀ p ∈ paths, ∀ text, fs.get? p ≠ some (.file text)) :
    ∃ fs', paths.foldlM step fs = .ok fs' ∧
      ∀ q, fs.get? q = some .directory ∨ q ∈ paths → fs'.get? q = some .directory := by
  -- That directories stay is part of the induction: the one made first has to be there in the end.
  induction paths generalizing fs with
  | nil => exact ⟨fs, rfl, fun q hq => hq.resolve_right List.not_mem_nil⟩
  | cons p paths ih =>
    obtain ⟨next, hnext, hmade, hsame⟩ := hstep fs p (h p List.mem_cons_self)
    have hkept (q : FilePath) (hq : fs.get? q = some .directory ∨ q = p) :
        next.get? q = some .directory := by
      by_cases hqp : q = p
      · rw [hqp, hmade]
      · rw [hsame q hqp, hq.resolve_right hqp]
    obtain ⟨fs', hrest, hdirectories⟩ := @ih next (by
      intro q hq text
      by_cases hqp : q = p
      · rw [hqp, hmade]
        exact fun heq => nomatch heq
      · rw [hsame q hqp]
        exact h q (List.mem_cons_of_mem p hq) text)
    refine ⟨fs', ?_, fun q hq => hdirectories q ?_⟩
    · rw [List.foldlM_cons, hnext]
      exact hrest
    · rcases hq with hq | hq
      · exact .inl (hkept q (.inl hq))
      · exact (List.mem_cons.1 hq).imp (fun heq => hkept q (.inr heq)) id

/-- Where no file is in the way all directories of a path are made. -/
theorem makeDirectories_eq_ok (h : ∀ p, p <+: path → ∀ text, fs.get? p ≠ some (.file text)) :
    ∃ fs', fs.makeDirectories path = .ok fs' ∧ ∀ p, p <+: path → fs'.get? p = some .directory := by
  have hmakes : ∃ fs', fs.makeDirectories path = .ok fs' ∧
      ∀ q, fs.get? q = some .directory ∨ q ∈ ancestors path ++ [path] →
        fs'.get? q = some .directory := by
    refine foldlM_makes (fun fs p hp => ?_) fun p hp => h p (mem_ancestors_iff.1 hp)
    cases hnode : fs.get? p with
    | none =>
      have hroot : p ≠ [] := by
        rintro rfl
        cases hnode
      exact ⟨_, rfl, get?_set_self fs hroot _, fun q hq => get?_set_of_ne fs hq _⟩
    | some node =>
      cases node with
      | file text => exact absurd hnode (hp text)
      | directory => exact ⟨fs, rfl, hnode, fun _ _ => rfl⟩
  obtain ⟨fs', hmake, hdirectories⟩ := hmakes
  exact ⟨fs', hmake, fun p hp => hdirectories p (.inr (mem_ancestors_iff.2 hp))⟩

/-! ## Writing a file -/

/-- A path that goes through directories alone. -/
theorem find_of_directories (h : ∀ p, p <+: path → fs.get? p = some .directory) :
    fs.find path = .ok .directory := by
  have hnone : (ancestors path ++ [path]).find? (fs.get? · != some .directory) = none := by
    rw [List.find?_eq_none]
    intro p hp
    simp [h p (mem_ancestors_iff.1 hp)]
  rw [find, hnone]

/-- A path at which a directory is found goes through directories alone. -/
theorem get?_of_find_directory (h : fs.find path = .ok .directory) {p : FilePath}
    (hp : p <+: path) : fs.get? p = some .directory := by
  have hnone : (ancestors path ++ [path]).find? (fs.get? · != some .directory) = none := by
    cases hfirst : (ancestors path ++ [path]).find? (fs.get? · != some .directory) with
    | none => rfl
    | some q =>
      have hq := List.find?_some hfirst
      rw [find, hfirst] at h
      dsimp only at h hq
      split at h
      · cases h
      · rename_i node hnode
        split at h
        · rw [hnode, Except.ok.inj h] at hq
          cases hq
        · cases h
  have hdirectory := List.find?_eq_none.1 hnone p (mem_ancestors_iff.2 hp)
  simpa using hdirectory

section
variable (hway : ∀ p, p <+: path → p ≠ path → fs.get? p = some .directory)
include hway

/-- What is no directory at the end of a way through directories is the first on it. -/
theorem find?_of_way (hplace : fs.get? path ≠ some .directory) :
    (ancestors path ++ [path]).find? (fs.get? · != some .directory) = some path := by
  have hancestors : (ancestors path).find? (fs.get? · != some .directory) = none := by
    rw [List.find?_eq_none]
    intro p hp
    obtain ⟨n, hn, rfl⟩ := List.mem_map.1 hp
    have hne : path.take n ≠ path := by
      intro heq
      have hlength := congrArg List.length heq
      rw [List.length_take] at hlength
      have hshort := List.mem_range.1 hn
      omega
    simp [hway _ (List.take_prefix n path) hne]
  rw [List.find?_append, hancestors]
  simp [hplace]

/-- A file at the end of a way through directories is found. -/
theorem find_of_way {text : String} (hfile : fs.get? path = some (.file text)) :
    fs.find path = .ok (.file text) := by
  have hplace : fs.get? path ≠ some .directory := by
    rw [hfile]
    exact fun heq => nomatch heq
  rw [find, find?_of_way hway hplace]
  dsimp only
  rw [hfile]
  dsimp only
  rw [if_pos rfl]

/-- A file is written where there is no directory, in one that is there. -/
theorem write_of_way (hplace : fs.get? path ≠ some .directory) (text : String) :
    fs.write path text = .ok (fs.set path (.file text)) := by
  have hroot : path ≠ [] := by
    rintro rfl
    exact hplace rfl
  have hparent : fs.find path.parent = .ok .directory := by
    refine find_of_directories fun p hp => hway p (hp.trans path.parent_isPrefix) ?_
    exact FilePath.ne_of_prefix_parent hroot hp
  cases hnode : fs.get? path with
  | none =>
    have hfind : fs.find path = .error .notFound := by
      rw [find, find?_of_way hway hplace]
      dsimp only
      rw [hnode]
    rw [write, hfind]
    dsimp only
    rw [hparent]
  | some node =>
    cases node with
    | file old => rw [write, find_of_way hway hnode]
    | directory => exact absurd hnode hplace

end

/-- No directory stands in the place of a file, and no file on the way to it. -/
structure Writable (fs : FileSystem) (path : FilePath) : Prop where
  way : ∀ p, p <+: path → p ≠ path → ∀ text, fs.get? p ≠ some (.file text)
  place : fs.get? path ≠ some .directory

/-- **Writing a file does not get in the way of another one** if neither path goes through the
other. -/
theorem Writable.of_writes {other : FilePath} (h : Writable fs other)
    (hwrites : Writes fs path text fs') (hthrough : ¬ path <+: other) (hbehind : ¬ other <+: path) :
    Writable fs' other := by
  constructor
  · intro p hp hne text
    have hpath : p ≠ path := by
      rintro rfl
      exact hthrough hp
    rcases hwrites.changes p hpath with hsame | ⟨-, hdirectory, -⟩
    · rw [hsame]
      exact h.way p hp hne text
    · rw [hdirectory]
      exact fun heq => nomatch heq
  · have hpath : other ≠ path := by
      rintro rfl
      exact hthrough (List.prefix_refl other)
    rcases hwrites.changes other hpath with hsame | ⟨-, -, q, rfl, hway⟩
    · rw [hsame]
      exact h.place
    · exact absurd hway hbehind

end FileSystem

/-! ## Outputs of commands -/

open FileSystem (Writable)

/-- A file that can be written is written. -/
theorem outcome_writeOutput_of_writable {path : FilePath} {world : World}
    (h : Writable world.files path) (text : String) :
    ∃ files, outcome (writeOutput path text) world = (.ok (), { world with files := files }) := by
  have hroot : path ≠ [] := by
    rintro rfl
    exact h.place rfl
  have hbefore (p : FilePath) (hp : p <+: path.parent) := FilePath.ne_of_prefix_parent hroot hp
  obtain ⟨made, hmake, hdirectories⟩ : ∃ made, world.files.makeDirectories path.parent = .ok made ∧
      ∀ p, p <+: path.parent → made.get? p = some .directory :=
    FileSystem.makeDirectories_eq_ok fun p hp =>
      h.way p (hp.trans path.parent_isPrefix) (hbefore p hp)
  have hplace : made.get? path ≠ some .directory := by
    rcases FileSystem.makeDirectories_changes hmake path with hsame | ⟨-, -, hway⟩
    · rw [hsame]
      exact h.place
    · exact absurd rfl (hbefore path hway)
  have hwrite := FileSystem.write_of_way
    (fun p hp hne => hdirectories p (FilePath.prefix_parent hp hne)) hplace text
  have hfirst := outcome_change world (·.makeDirectories path.parent)
  rw [hmake] at hfirst
  have hsecond := outcome_change { world with files := made } (·.write path text)
  rw [hwrite] at hsecond
  exact ⟨_, (outcome_bind_of_ok hfirst _).trans hsecond⟩

theorem outcome_writeAll_of_writable {outputs : List (FilePath × String)} {world : World}
    (h : ∀ output ∈ outputs, Writable world.files output.1)
    (hapart : outputs.Pairwise fun output output' =>
      ¬ output.1 <+: output'.1 ∧ ¬ output'.1 <+: output.1) :
    ∃ next, outcome (writeAll outputs) world = (.ok (), next) := by
  induction outputs generalizing world with
  | nil => exact ⟨world, rfl⟩
  | cons output outputs ih =>
    obtain ⟨hfirst, hrest⟩ := List.forall_mem_cons.1 h
    obtain ⟨hthis, hothers⟩ := List.pairwise_cons.1 hapart
    obtain ⟨files, hwrite⟩ := outcome_writeOutput_of_writable hfirst output.2
    obtain ⟨written, heq, hwrites⟩ := outcome_writeOutput_eq_ok hwrite
    obtain rfl : files = written := congrArg World.files heq
    obtain ⟨next, hnext⟩ := @ih { world with files := files } (fun other hother =>
      (hrest other hother).of_writes hwrites (hthis other hother).1 (hthis other hother).2) hothers
    exact ⟨next, (outcome_bind_of_ok hwrite _).trans hnext⟩

end ContentBlocker.CommandLine
