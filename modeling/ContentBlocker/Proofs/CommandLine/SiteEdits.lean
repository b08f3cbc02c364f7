import ContentBlocker.Proofs.Allowlist.Addition
import ContentBlocker.Proofs.CommandLine.FileChanges
import ContentBlocker.Proofs.CommandLine.FlagValues

/-!
# What the editing of a site does to the files

The command that edits a content blocker reads a file, edits what is in it and writes it back.  It
can fail in many places, but it writes last, to a file that it has just read, so that it fails
before anything has changed (`allowlist_edits_one_file`).

`SiteEdit` is what it takes for the command to do its work, said of the arguments and the files
alone.  If there is such an edit the command ends with 0 and has written it
(`SiteEdit.outcome_run`), and if there is none the command is refused (`refuses_allowlist`).
-/

set_option autoImplicit false
namespace ContentBlocker.CommandLine

open Session

/-! ## Edits that can be done -/

/-- The content blocker that a text holds, with its entries counted and a placeholder left out. -/
def countedBlocker (text : String) (entries : List Json) : Blocker :=
  let count : Int := if text = placeholder then 0 else entries.length
  ⟨text, count, count⟩

/-- The edit of a content blocker for a site that two switches choose. -/
def switchedEdit (arguments : List String) (site : String) (blocker : Blocker) :
    Except EditError Blocker :=
  let kind : AllowKind := if LastBare "inverted" arguments then .offSite else .onSite
  if LastBare "remove" arguments then blocker.remove kind site else blocker.add kind site

/-- An edit that can be done with some arguments on some files. -/
structure SiteEdit (arguments : List String) (world : World) where
  /-- The file of the content blocker, as it is given. -/
  file : String
  /-- The site, as it is given. -/
  domain : String
  /-- What is in the file before the edit. -/
  old : String
  /-- The entries that there are before the edit. -/
  entries : List Json
  edited : Blocker
  file_given : (Flags.ofItems (items arguments)).text? "converted" = some file
  file_ne : file ≠ ""
  domain_given : (Flags.ofItems (items arguments)).text? "domain" = some domain
  site_ne : Text.lower (Text.trim domain) ≠ ""
  old_read : world.files.read (FilePath.resolve world.workingDirectory file) = .ok old
  old_array : Json.read (Text.trim old) = some (.arr entries)
  edits : switchedEdit arguments (Text.lower (Text.trim domain))
    (countedBlocker (Text.trim old) entries) = .ok edited

/-- The path of the file that is edited. -/
def SiteEdit.path {arguments : List String} {world : World} (edit : SiteEdit arguments world) :
    FilePath :=
  FilePath.resolve world.workingDirectory edit.file

/-- A placeholder counts as nothing, so it gives way to the entry of the site. -/
theorem switchedEdit_placeholder {arguments : List String} {site : String} (hsite : IsSite site)
    (hinverted : ¬ LastBare "inverted" arguments) (hremove : ¬ LastBare "remove" arguments)
    (hne : AllowKind.onSite.siteEntry site ≠ placeholderEntry) (entries : List Json) :
    switchedEdit arguments site (countedBlocker placeholder entries) =
      .ok ⟨serializeEntries [AllowKind.onSite.siteEntry site], 1, 1⟩ := by
  have hcounted : countedBlocker placeholder entries = ⟨placeholder, 0, 0⟩ := by
    rw [countedBlocker, if_pos rfl]
  have hempty : (⟨placeholder, 0, 0⟩ : Blocker).isEmpty = true := by
    rw [Blocker.isEmpty, Bool.or_eq_true]
    exact .inl rfl
  have hmem : AllowKind.onSite.siteEntry site ∉ [placeholderEntry] := mt List.mem_singleton.1 hne
  have hentry := AllowKind.entryText_ruleText hsite .onSite
  have hadd := Blocker.addRule_eq_ok (b := ⟨placeholder, 0, 0⟩) hentry rfl (List.cons_ne_nil _ _)
    hmem
  rw [if_pos hempty] at hadd
  rw [hcounted, switchedEdit, if_neg hinverted, if_neg hremove]
  exact hadd

/-! ## The parts of the command -/

theorem readBlocker_eq_ok_iff {path : FilePath} {text : String} {blocker : Blocker} :
    readBlocker path text = .ok blocker ↔ ∃ entries,
      Json.read (Text.trim text) = some (.arr entries) ∧
        blocker = countedBlocker (Text.trim text) entries := by
  rw [readBlocker]
  cases hread : Json.read (Text.trim text) with
  | none => simp only [reduceCtorEq, false_and, exists_false]
  | some json =>
    cases json with
    | arr entries =>
      simp only [Option.some.injEq, Json.arr.injEq, exists_eq_left', Except.ok.injEq,
        countedBlocker, beq_iff_eq]
      exact eq_comm
    | _ => simp only [reduceCtorEq, Option.some.injEq, false_and, exists_false]

theorem Flags.forAllowlist_eq_ok_iff {flags : Flags} {given : AllowlistFlags} :
    flags.forAllowlist = .ok given ↔ ∃ file domain, flags.text? "converted" = some file ∧
      file ≠ "" ∧ flags.text? "domain" = some domain ∧ Text.lower (Text.trim domain) ≠ "" ∧
        given = ⟨file, Text.lower (Text.trim domain), flags.isSet "remove",
          flags.isSet "inverted"⟩ := by
  rw [forAllowlist, bind_eq_ok_iff]
  constructor
  · rintro ⟨file, hfile, hrest⟩
    obtain ⟨htext, hne⟩ := required_eq_ok_iff.1 hfile
    dsimp only at hrest
    split at hrest
    · cases hrest
    · rename_i hsite
      rw [String.isEmpty_iff] at hsite
      cases hdomain : flags.text? "domain" with
      | none =>
        rw [hdomain] at hsite
        exact absurd (by decide) hsite
      | some domain =>
        rw [hdomain] at hsite hrest
        exact ⟨file, domain, htext, hne, rfl, hsite, (Except.ok.inj hrest).symm⟩
  · rintro ⟨file, domain, htext, hne, hdomain, hsite, rfl⟩
    refine ⟨file, required_eq_ok_iff.2 ⟨htext, hne⟩, ?_⟩
    dsimp only
    rw [hdomain, Option.getD_some, if_neg (mt String.isEmpty_iff.1 hsite)]
    rfl

/-- The switches choose the edit. -/
theorem edit_eq_switchedEdit (arguments : List String) (file site : String) (blocker : Blocker) :
    edit ⟨file, site, (Flags.ofItems (items arguments)).isSet "remove",
      (Flags.ofItems (items arguments)).isSet "inverted"⟩ blocker =
      switchedEdit arguments site blocker := by
  have hremove : (Flags.ofItems (items arguments)).isSet "remove" = true ↔
      LastBare "remove" arguments := Flags.isSet_iff_lastBare (by decide) arguments
  have hinverted : (Flags.ofItems (items arguments)).isSet "inverted" = true ↔
      LastBare "inverted" arguments := Flags.isSet_iff_lastBare (by decide) arguments
  simp only [edit, switchedEdit, hremove, hinverted]

/-! ## The whole command -/

theorem run_allowlist (arguments : List String) :
    (run ("allowlist" :: arguments) : Session Nat) =
      withFlags (Flags.ofItems (items arguments)).forAllowlist editWith := by
  rfl

section
variable {arguments : List String} {world : World}

/-- An edit that can be done is done: its file is written, and nothing else changes. -/
theorem SiteEdit.outcome_run (edit : SiteEdit arguments world) :
    ∃ output, outcome (run ("allowlist" :: arguments)) world =
      (.ok 0, { world with
        files := world.files.set edit.path (.file edit.edited.text), output := output }) := by
  have hflags := Flags.forAllowlist_eq_ok_iff.2 ⟨edit.file, edit.domain, edit.file_given,
    edit.file_ne, edit.domain_given, edit.site_ne, rfl⟩
  have hblocker : readBlocker edit.path edit.old = .ok _ :=
    readBlocker_eq_ok_iff.2 ⟨_, edit.old_array, rfl⟩
  have hold : world.files.read edit.path = .ok edit.old := edit.old_read
  have hwrite := outcome_writeText_of_read hold edit.edited.text
  rw [run_allowlist, hflags]
  dsimp only [withFlags]
  rw [editWith, outcome_bind_of_ok (outcome_workingDirectory world), ← SiteEdit.path,
    outcome_bind_of_ok (outcome_readText_of_ok hold), hblocker]
  dsimp only
  rw [edit_eq_switchedEdit, edit.edits]
  dsimp only
  rw [outcome_bind_of_ok hwrite]
  exact ⟨_, rfl⟩

/-- Where no edit can be done the command is refused. -/
theorem refuses_allowlist (h : ¬ Nonempty (SiteEdit arguments world)) :
    Refuses (run ("allowlist" :: arguments)) world := by
  rw [run_allowlist]
  cases hflags : (Flags.ofItems (items arguments)).forAllowlist with
  | error error => exact .printError _
  | ok flags =>
    obtain ⟨file, domain, hfile, hne, hdomain, hsite, rfl⟩ := Flags.forAllowlist_eq_ok_iff.1 hflags
    refine .of_ok (outcome_workingDirectory world) ?_
    cases hold : world.files.read (FilePath.resolve world.workingDirectory file) with
    | error fault => exact .of_error (outcome_readText_of_error hold) _
    | ok old =>
      refine .of_ok (outcome_readText_of_ok hold) ?_
      dsimp only
      cases hblocker : readBlocker (FilePath.resolve world.workingDirectory file) old with
      | error failure => exact .fail failure
      | ok blocker =>
        obtain ⟨entries, harray, rfl⟩ := readBlocker_eq_ok_iff.1 hblocker
        dsimp only
        rw [edit_eq_switchedEdit]
        cases hedit : switchedEdit arguments (Text.lower (Text.trim domain))
            (countedBlocker (Text.trim old) entries) with
        | error error => exact .printError _
        | ok edited =>
          exact absurd ⟨⟨file, domain, old, entries, edited, hfile, hne, hdomain, hsite, hold,
            harray, hedit⟩⟩ h

end

/-- **The command that edits a content blocker changes its file or nothing.**  It ends with 0
exactly if the edit that its arguments ask for can be done.  Then the file holds the edited content
blocker and everything else is as it was; in all other cases, whether the command ends with another
number or breaks off, all files are as they were. -/
theorem allowlist_edits_one_file (arguments : List String) (world : World) :
    let ended := (outcome (run ("allowlist" :: arguments)) world).1
    let after := (outcome (run ("allowlist" :: arguments)) world).2
    (ended ≠ .ok 0 → after.files = world.files) ∧
      (ended = .ok 0 ↔ Nonempty (SiteEdit arguments world)) ∧
      ∀ edit : SiteEdit arguments world,
        after.files.get? edit.path = some (.file edit.edited.text) ∧
          ∀ path ≠ edit.path, after.files.get? path = world.files.get? path := by
  refine ⟨fun hended => ?_, ⟨fun hended => ?_, ?_⟩, fun edit => ?_⟩
  · by_cases hedit : Nonempty (SiteEdit arguments world)
    · obtain ⟨edit⟩ := hedit
      obtain ⟨output, houtcome⟩ := edit.outcome_run
      rw [houtcome] at hended
      exact absurd rfl hended
    · exact (refuses_allowlist hedit).files
  · by_contra hedit
    exact (refuses_allowlist hedit).ended hended
  · rintro ⟨edit⟩
    obtain ⟨output, houtcome⟩ := edit.outcome_run
    rw [houtcome]
  · obtain ⟨output, houtcome⟩ := edit.outcome_run
    rw [houtcome]
    exact ⟨FileSystem.get?_set_self _ (FileSystem.ne_nil_of_read edit.old_read) _,
      fun path hpath => FileSystem.get?_set_of_ne _ hpath _⟩

/-- The name of the site is taken in lower case, and a switch with a value is not set. -/
theorem allowlist_edits_one_file_of_placeholder : ∃ world : World,
    world.files.get? ["lists", "blocker.json"] = some (.file (placeholder ++ "\n")) ∧
      let arguments := ["--converted", "blocker.json", "--remove=no", "--domain", " Example.org "]
      let ended := (outcome (run ("allowlist" :: arguments)) world).1
      let after := (outcome (run ("allowlist" :: arguments)) world).2
      ended = .ok 0 ∧ after.files.get? ["lists", "blocker.json"] =
        some (.file (serializeEntries [AllowKind.onSite.siteEntry "example.org"])) := by
  have htrim : Text.trim (placeholder ++ "\n") = placeholder := by decide +kernel
  generalize placeholder ++ "\n" = old at htrim ⊢
  let world : World := {
    files := ⟨[(["lists"], .directory), (["lists", "blocker.json"], .file old)]⟩
    workingDirectory := ["lists"]
    time := "", output := [], errors := [] }
  have hpath : FilePath.resolve ["lists"] "blocker.json" = ["lists", "blocker.json"] := by decide
  have hsite : Text.lower (Text.trim " Example.org ") = "example.org" := by decide
  let edit : SiteEdit
      ["--converted", "blocker.json", "--remove=no", "--domain", " Example.org "] world := {
    file := "blocker.json"
    domain := " Example.org "
    old := old
    entries := [placeholderEntry.toJson]
    edited := ⟨serializeEntries [AllowKind.onSite.siteEntry "example.org"], 1, 1⟩
    file_given := by decide +kernel
    file_ne := by decide
    domain_given := by decide +kernel
    site_ne := by rw [hsite]; decide
    old_read := rfl
    old_array := by
      rw [htrim]
      exact read_serializeEntries [placeholderEntry]
    edits := by
      rw [htrim, hsite]
      exact switchedEdit_placeholder (by decide) (by decide) (by decide) (by decide) _ }
  obtain ⟨-, hended, hfile⟩ := allowlist_edits_one_file
    ["--converted", "blocker.json", "--remove=no", "--domain", " Example.org "] world
  have hheld := (hfile edit).1
  rw [show edit.path = ["lists", "blocker.json"] from hpath] at hheld
  exact ⟨world, rfl, hended.2 ⟨edit⟩, hheld⟩

end ContentBlocker.CommandLine
