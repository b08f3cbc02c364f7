import ContentBlocker.Proofs.CommandLine.FlagValues
import ContentBlocker.Proofs.CommandLine.ReportText
import ContentBlocker.Proofs.CommandLine.Writability

/-!
# What the conversion of filter lists does to the files

The command that converts filter lists writes up to three files: the content blocker always, the
output for advanced blocking if it is asked for, and a report if a file is given for it.

`ListConversion` is what it takes for the command to have something to write.  Everything that the
command looks at has been looked at before the first file is written, and behind the last one it
only prints.  So if there is such a conversion the command comes down to writing its outputs one
after the other (`ListConversion.outcome_run`), and if there is none it is refused
(`refuses_convert`).  Both together say what becomes of the files (`convert_writes_its_outputs`).
-/

set_option autoImplicit false
namespace ContentBlocker.CommandLine

open Session
open FileSystem (ChangesOnly Writable WritesAll)

/-! ## Conversions that can be done -/

section
variable (arguments : List String) (directory : FilePath)

/-- The file of the content blocker. -/
def outPath : FilePath :=
  FilePath.resolve directory (((Flags.ofItems (items arguments)).text? "out").getD defaultOut)

/-- The file of the output for advanced blocking. -/
def advancedOutPath : FilePath :=
  FilePath.resolve directory
    (((Flags.ofItems (items arguments)).text? "advanced-out").getD defaultAdvancedOut)

/-- The file of the report, if one is given. -/
def reportPath? : Option FilePath :=
  (((Flags.ofItems (items arguments)).text? "report").filter (!·.isEmpty)).map
    (FilePath.resolve directory)

/-- The files that a conversion writes: two of them only if they are asked for. -/
def IsOutput (path : FilePath) : Prop :=
  path = outPath arguments directory ∨
    (LastBare "advanced-blocking" arguments ∧ path = advancedOutPath arguments directory) ∨
    reportPath? arguments directory = some path

end

/-- A conversion that can be done with some arguments on some files. -/
structure ListConversion (arguments : List String) (world : World) where
  /-- The input, as it is given. -/
  input : String
  limit : Option Number
  loaded : LoadedLists
  result : ConversionResult
  input_given : (Flags.ofItems (items arguments)).text? "input" = some input
  input_ne : input ≠ ""
  limit_given : (Flags.ofItems (items arguments)).limit = .ok limit
  loads : outcome (loadLists (FilePath.resolve world.workingDirectory input)) world =
    (.ok loaded, world)
  files_ne : loaded.files ≠ []
  converts : convertLines loaded.lines {
    limit := limit.getD (.ofNat maxEntries)
    advancedBlocking := decide (LastBare "advanced-blocking" arguments) } = .ok result

namespace ListConversion

variable {arguments : List String} {world : World} (conversion : ListConversion arguments world)

/-- The report of a conversion. -/
def report : Json :=
  reportJson world.time conversion.loaded.files conversion.result

/-- The files that are written for a conversion, with their texts. -/
def outputs : List (FilePath × String) :=
  (outPath arguments world.workingDirectory, conversion.result.converted) ::
    (conversion.result.advancedBlocking.toList.map
        (advancedOutPath arguments world.workingDirectory, ·) ++
      (reportPath? arguments world.workingDirectory).toList.map
        (·, conversion.report.indented))

/-- The files are those that the arguments name, at most. -/
theorem fst_outputs_sublist : (conversion.outputs.map Prod.fst).Sublist
    (outPath arguments world.workingDirectory ::
      advancedOutPath arguments world.workingDirectory ::
        (reportPath? arguments world.workingDirectory).toList) := by
  have hreport : ((reportPath? arguments world.workingDirectory).toList.map
      (·, conversion.report.indented)).map Prod.fst =
        (reportPath? arguments world.workingDirectory).toList := by
    simp [Function.comp_def]
  rw [outputs, List.map_cons, List.map_append, hreport]
  refine .cons_cons _ ?_
  cases conversion.result.advancedBlocking with
  | none => exact .cons _ (.refl _)
  | some advanced => exact .refl _

/-- There is an output for advanced blocking exactly if it is asked for. -/
theorem isSome_advancedBlocking :
    conversion.result.advancedBlocking.isSome = true ↔ LastBare "advanced-blocking" arguments := by
  obtain ⟨limit, -, hresult, -⟩ := convert_eq_ok_iff.1 conversion.converts
  rw [hresult, ConversionResult.isSome_advancedBlocking_ofList, decide_eq_true_eq]

/-- The files that may be written. -/
theorem fst_mem_outputs {output : FilePath × String} (h : output ∈ conversion.outputs) :
    IsOutput arguments world.workingDirectory output.1 := by
  rcases List.mem_cons.1 h with rfl | h
  · exact .inl rfl
  · rcases List.mem_append.1 h with h | h
    · obtain ⟨text, htext, rfl⟩ := List.mem_map.1 h
      have hsome : conversion.result.advancedBlocking.isSome = true := by
        rw [Option.mem_toList.1 htext]
        rfl
      exact .inr (.inl ⟨conversion.isSome_advancedBlocking.1 hsome, rfl⟩)
    · obtain ⟨path, hpath, rfl⟩ := List.mem_map.1 h
      exact .inr (.inr (Option.mem_toList.1 hpath))

end ListConversion

/-! ## The parts of the command -/

theorem Flags.forConvert_eq_ok_iff {flags : Flags} {given : ConvertFlags} :
    flags.forConvert = .ok given ↔ ∃ input limit, flags.text? "input" = some input ∧
      input ≠ "" ∧ flags.limit = .ok limit ∧
        given = ⟨input, flags.text? "out", flags.text? "advanced-out", flags.text? "report",
          limit, flags.isSet "advanced-blocking"⟩ := by
  simp only [forConvert, bind_eq_ok_iff, required_eq_ok_iff]
  constructor
  · rintro ⟨input, ⟨hinput, hne⟩, limit, hlimit, hgiven⟩
    exact ⟨input, limit, hinput, hne, hlimit, (Except.ok.inj hgiven).symm⟩
  · rintro ⟨input, limit, hinput, hne, hlimit, rfl⟩
    exact ⟨input, ⟨hinput, hne⟩, limit, hlimit, rfl⟩

theorem run_convert (arguments : List String) :
    (run ("convert" :: arguments) : Session Nat) =
      withFlags (Flags.ofItems (items arguments)).forConvert convertWith := by
  rfl

theorem isSet_advancedBlocking (arguments : List String) :
    (Flags.ofItems (items arguments)).isSet "advanced-blocking" =
      decide (LastBare "advanced-blocking" arguments) := by
  rw [Bool.eq_iff_iff, Flags.isSet_iff_lastBare (by decide), decide_eq_true_eq]

section
variable {arguments : List String} {world : World}

/-- A conversion that can be done is done: its files are written, and then the command ends with 0
without another change. -/
theorem ListConversion.outcome_run (conversion : ListConversion arguments world) :
    ∃ announce : Session Nat,
      (∀ world, ∃ output errors,
        outcome announce world = (.ok 0, { world with output := output, errors := errors })) ∧
      outcome (run ("convert" :: arguments)) world =
        outcome (writeAll conversion.outputs >>= fun _ => announce) world := by
  have hflags := Flags.forConvert_eq_ok_iff.2 ⟨conversion.input, conversion.limit,
    conversion.input_given, conversion.input_ne, conversion.limit_given, rfl⟩
  rw [run_convert, hflags]
  dsimp only [withFlags]
  rw [convertWith, outcome_bind_of_ok (outcome_workingDirectory world)]
  dsimp only
  rw [outcome_bind_of_ok conversion.loads, isSet_advancedBlocking,
    if_neg (mt List.isEmpty_iff.1 conversion.files_ne), conversion.converts]
  dsimp only
  -- What is done behind the outputs is the same whichever of them are there, and is found in the
  -- first case.
  refine ⟨?announce, ?quiet, ?outputs⟩
  case outputs =>
    rw [ListConversion.outputs, ListConversion.report, reportPath?]
    cases conversion.result.advancedBlocking with
    | none =>
      cases ((Flags.ofItems (items arguments)).text? "report").filter (!·.isEmpty) with
      | none =>
        simp only [Option.toList_none, Option.map_none, List.map_nil, List.append_nil, writeAll,
          bind_assoc, pure_bind]
        rfl
      | some report =>
        simp only [Option.toList_none, Option.map_some, Option.toList_some, List.map_nil,
          List.nil_append, List.map_cons, writeAll, bind_assoc, pure_bind]
        refine outcome_bind_congr fun _ next hnext => ?_
        obtain ⟨files, rfl, -⟩ := outcome_writeOutput_eq_ok hnext
        exact outcome_bind_of_ok (outcome_now _) _
    | some advanced =>
      cases ((Flags.ofItems (items arguments)).text? "report").filter (!·.isEmpty) with
      | none =>
        simp only [Option.toList_none, Option.toList_some, Option.map_none, List.map_nil,
          List.map_cons, List.append_nil, writeAll, bind_assoc, pure_bind]
        rfl
      | some report =>
        simp only [Option.map_some, Option.toList_some, List.map_nil, List.cons_append,
          List.nil_append, List.map_cons, writeAll, bind_assoc, pure_bind]
        refine outcome_bind_congr fun _ next hnext => ?_
        obtain ⟨files, rfl, -⟩ := outcome_writeOutput_eq_ok hnext
        refine outcome_bind_congr fun _ next hnext => ?_
        obtain ⟨files, rfl, -⟩ := outcome_writeOutput_eq_ok hnext
        exact outcome_bind_of_ok (outcome_now _) _
  case quiet =>
    intro world
    rw [outcome_bind_of_ok (outcome_print world _)]
    split
    · rw [outcome_bind_of_ok (outcome_printError _ _), outcome_pure]
      exact ⟨_, _, rfl⟩
    · exact ⟨_, _, rfl⟩

/-- Where no conversion can be done the command is refused. -/
theorem refuses_convert (h : ¬ Nonempty (ListConversion arguments world)) :
    Refuses (run ("convert" :: arguments)) world := by
  rw [run_convert]
  cases hflags : (Flags.ofItems (items arguments)).forConvert with
  | error error => exact .printError _
  | ok flags =>
    obtain ⟨input, limit, hinput, hne, hlimit, rfl⟩ := Flags.forConvert_eq_ok_iff.1 hflags
    refine .of_ok (outcome_workingDirectory world) ?_
    dsimp only
    rcases hloads : outcome (loadLists (FilePath.resolve world.workingDirectory input)) world
      with ⟨failure | loaded, next⟩
    · obtain rfl := eq_of_outcome_loadLists hloads
      exact .of_error hloads _
    · obtain rfl := eq_of_outcome_loadLists hloads
      refine .of_ok hloads ?_
      split
      · exact .printError _
      · rename_i hfiles
        rw [isSet_advancedBlocking]
        cases hconverts : convertLines loaded.lines {
            limit := limit.getD (.ofNat maxEntries)
            advancedBlocking := decide (LastBare "advanced-blocking" arguments) } with
        | error error => exact .fail _
        | ok result =>
          exact absurd ⟨⟨input, limit, loaded, result, hinput, hne, hlimit, hloads,
            mt List.isEmpty_iff.2 hfiles, hconverts⟩⟩ h

/-- If a conversion can be done the command ends with 0, or breaks off. -/
theorem ListConversion.writesAll_of_ended (conversion : ListConversion arguments world) {code : Nat}
    {after : World} (h : outcome (run ("convert" :: arguments)) world = (.ok code, after)) :
    code = 0 ∧ WritesAll world.files conversion.outputs after.files := by
  obtain ⟨announce, hquiet, houtcome⟩ := conversion.outcome_run
  rw [houtcome] at h
  obtain ⟨⟨⟩, next, hwrites, hannounce⟩ := outcome_bind_eq_ok_iff.1 h
  obtain ⟨files, rfl, hall⟩ := outcome_writeAll_eq_ok hwrites
  obtain ⟨output, errors, hworld⟩ := hquiet { world with files := files }
  rw [hworld] at hannounce
  cases hannounce
  exact ⟨rfl, hall⟩

/-- If a conversion can be done and its outputs can be written the command ends with 0. -/
theorem ListConversion.ended_of_writable (conversion : ListConversion arguments world)
    (hdistinct : (conversion.outputs.map Prod.fst).Nodup)
    (hwritable : ∀ path, IsOutput arguments world.workingDirectory path →
      Writable world.files path)
    (hapart : ∀ path path', IsOutput arguments world.workingDirectory path →
      IsOutput arguments world.workingDirectory path' → path <+: path' → path = path') :
    (outcome (run ("convert" :: arguments)) world).1 = .ok 0 := by
  have hpairs : conversion.outputs.Pairwise fun output output' =>
      ¬ output.1 <+: output'.1 ∧ ¬ output'.1 <+: output.1 := by
    refine (List.pairwise_map.1 hdistinct).imp_of_mem fun hfirst hsecond hne => ?_
    have houtput := conversion.fst_mem_outputs hfirst
    have houtput' := conversion.fst_mem_outputs hsecond
    exact ⟨fun h => hne (hapart _ _ houtput houtput' h),
      fun h => hne (hapart _ _ houtput' houtput h).symm⟩
  obtain ⟨next, hwrites⟩ := outcome_writeAll_of_writable
    (fun output houtput => hwritable output.1 (conversion.fst_mem_outputs houtput)) hpairs
  obtain ⟨announce, hquiet, houtcome⟩ := conversion.outcome_run
  obtain ⟨output, errors, hannounce⟩ := hquiet next
  rw [houtcome, outcome_bind_of_ok hwrites, hannounce]

/-- However the command ends, nothing changes but its outputs. -/
theorem changesOnly_run_convert (arguments : List String) (world : World) :
    ChangesOnly (IsOutput arguments world.workingDirectory) world.files
      (outcome (run ("convert" :: arguments)) world).2.files := by
  by_cases h : Nonempty (ListConversion arguments world)
  · obtain ⟨conversion⟩ := h
    obtain ⟨announce, hquiet, houtcome⟩ := conversion.outcome_run
    have hannounce : Relates (FilesChangeOnly (IsOutput arguments world.workingDirectory))
        announce := by
      intro world
      obtain ⟨output, errors, hworld⟩ := hquiet world
      rw [hworld]
      exact .refl _ world.files
    rw [houtcome]
    exact (relates_writeAll fun _ => conversion.fst_mem_outputs).bind (fun _ => hannounce) world
  · rw [(refuses_convert h).files]
    exact .refl _ world.files

end

/-- **The command that converts filter lists writes its outputs and nothing else.**  If it ends with
1 nothing has changed.  If it ends with 0 there is a conversion of the input whose content blocker
is in the one file; the output for advanced blocking is in another if the switch is set, and if a
file is given for the report, its text is read as a report with the counts of that conversion.
However it ends, also where it breaks off, nothing else has changed, but for directories that were
made for the outputs.

If the outputs can be written, and none stands on the way to another, the command ends with 0
exactly if the conversion can be done. -/
theorem convert_writes_its_outputs (arguments : List String) (world : World)
    (hdistinct : (outPath arguments world.workingDirectory ::
      advancedOutPath arguments world.workingDirectory ::
        (reportPath? arguments world.workingDirectory).toList).Nodup) :
    let ended := (outcome (run ("convert" :: arguments)) world).1
    let after := (outcome (run ("convert" :: arguments)) world).2
    (ended = .ok 1 → after.files = world.files) ∧
      (ended = .ok 0 → ∃ conversion : ListConversion arguments world,
        after.files.get? (outPath arguments world.workingDirectory) =
          some (.file conversion.result.converted) ∧
        (LastBare "advanced-blocking" arguments →
          ∃ text, conversion.result.advancedBlocking = some text ∧
            after.files.get? (advancedOutPath arguments world.workingDirectory) =
              some (.file text)) ∧
        ∀ path, reportPath? arguments world.workingDirectory = some path →
          ∃ (text : String) (report : Json), after.files.get? path = some (.file text) ∧
            Json.read text = some report ∧ text = report.indented ∧
              CarriesCounts report conversion.result) ∧
      ChangesOnly (IsOutput arguments world.workingDirectory) world.files after.files ∧
      ((∀ path, IsOutput arguments world.workingDirectory path → Writable world.files path) →
        (∀ path path', IsOutput arguments world.workingDirectory path →
          IsOutput arguments world.workingDirectory path' → path <+: path' → path = path') →
        (ended = .ok 0 ↔ Nonempty (ListConversion arguments world))) := by
  refine ⟨fun hended => ?_, fun hended => ?_, changesOnly_run_convert arguments world,
    fun hwritable hapart => ⟨fun hended => ?_, ?_⟩⟩
  · by_cases h : Nonempty (ListConversion arguments world)
    · obtain ⟨conversion⟩ := h
      exact absurd (conversion.writesAll_of_ended (Prod.ext hended rfl)).1 Nat.one_ne_zero
    · exact (refuses_convert h).files
  · by_cases h : Nonempty (ListConversion arguments world)
    · obtain ⟨conversion⟩ := h
      have hholds := (conversion.writesAll_of_ended (Prod.ext hended rfl)).2.get?_eq
        (hdistinct.sublist conversion.fst_outputs_sublist)
      refine ⟨conversion, hholds _ List.mem_cons_self, fun hswitch => ?_, fun path hpath => ?_⟩
      · obtain ⟨text, htext⟩ := Option.isSome_iff_exists.1
          (conversion.isSome_advancedBlocking.2 hswitch)
        refine ⟨text, htext, hholds (_, text) (List.mem_cons_of_mem _ (List.mem_append_left _ ?_))⟩
        exact List.mem_map_of_mem (Option.mem_toList.2 htext)
      · refine ⟨_, conversion.report, hholds (path, conversion.report.indented) ?_,
          read_indented_reportJson _ _ _, rfl, carriesCounts_reportJson _ _ conversion.converts⟩
        refine List.mem_cons_of_mem _ (List.mem_append_right _ ?_)
        exact List.mem_map_of_mem (Option.mem_toList.2 hpath)
    · exact absurd hended (refuses_convert h).ended
  · by_contra h
    exact (refuses_convert h).ended hended
  · rintro ⟨conversion⟩
    exact conversion.ended_of_writable (hdistinct.sublist conversion.fst_outputs_sublist) hwritable
      hapart

/-- A run that writes all three outputs, one of them in a directory that has to be made. -/
theorem convert_writes_its_outputs_of_report : ∃ world after : World,
    world.files.get? ["ads.txt"] = some (.file "||example.org^") ∧
      outcome (run ["convert", "--input", "ads.txt", "--advanced-blocking",
        "--report", "out/report.json"]) world = (.ok 0, after) ∧
      ∃ (result : ConversionResult) (advanced text : String) (report : Json),
        result.advancedBlocking = some advanced ∧
        after.files.get? ["content-blocker.json"] = some (.file result.converted) ∧
        after.files.get? ["advanced-blocking.json"] = some (.file advanced) ∧
        after.files.get? ["out", "report.json"] = some (.file text) ∧
        Json.read text = some report ∧ CarriesCounts report result := by
  obtain ⟨arguments, harguments⟩ : ∃ arguments, arguments =
    ["--input", "ads.txt", "--advanced-blocking", "--report", "out/report.json"] := ⟨_, rfl⟩
  obtain ⟨world, hfile, hdirectory, hended⟩ : ∃ world : World,
      world.files.get? ["ads.txt"] = some (.file "||example.org^") ∧ world.workingDirectory = [] ∧
        (outcome (run ("convert" :: arguments)) world).1 = .ok 0 := by
    rw [harguments]
    refine ⟨{
      files := ⟨[(["ads.txt"], .file "||example.org^")]⟩
      workingDirectory := []
      time := "", output := [], errors := [] }, ?_⟩
    decide +kernel
  have hout : outPath arguments world.workingDirectory = ["content-blocker.json"] := by
    rw [harguments, hdirectory]
    decide +kernel
  have hadvanced :
      advancedOutPath arguments world.workingDirectory = ["advanced-blocking.json"] := by
    rw [harguments, hdirectory]
    decide +kernel
  have hreport : reportPath? arguments world.workingDirectory = some ["out", "report.json"] := by
    rw [harguments, hdirectory]
    decide +kernel
  have hswitch : LastBare "advanced-blocking" arguments := by
    rw [harguments]
    decide
  obtain ⟨-, hwritten, -⟩ := convert_writes_its_outputs arguments world (by
    rw [hout, hadvanced, hreport]
    decide)
  obtain ⟨conversion, hconverted, hcase, hcounts⟩ := hwritten hended
  obtain ⟨advanced, hsome, hadvancedFile⟩ := hcase hswitch
  obtain ⟨text, report, hreportFile, hread, -, hcarries⟩ := hcounts _ hreport
  rw [hout] at hconverted
  rw [hadvanced] at hadvancedFile
  refine ⟨world, _, hfile, ?_, conversion.result, advanced, text, report, hsome, hconverted,
    hadvancedFile, hreportFile, hread, hcarries⟩
  rw [← harguments, ← hended]

end ContentBlocker.CommandLine
