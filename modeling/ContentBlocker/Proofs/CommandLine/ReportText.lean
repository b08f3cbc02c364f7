import ContentBlocker.CommandLine.Commands
import ContentBlocker.Proofs.Conversion.Accounting
import ContentBlocker.Proofs.Json.ReadBack

/-!
# The text of a report

The report on a conversion is written on several lines.  Every number in it is a count
(`countsOnly_reportJson`), so whoever reads the text finds the report again
(`read_indented_reportJson`), and in it the counts of the conversion (`carriesCounts_reportJson`).
Those of rules, entries and rejections stand under the names of their kinds, of which no two are the
same (`Statistics.exists_field?_tallyMembers`).
-/

set_option autoImplicit false
namespace ContentBlocker

open Json (CountsOnly)

/-! ## Numbers in a report -/

@[simp] theorem RejectedRule.countsOnly_toJson (rejected : RejectedRule) :
    CountsOnly rejected.toJson := by
  simp [toJson]

@[simp] theorem Issue.countsOnly_toJson (issue : Issue) : CountsOnly issue.toJson := by
  simp [toJson]

theorem Statistics.countsOnly_of_mem_tallyMembers {α : Type} {name : α → String}
    {counts : List (α × Nat)} : ∀ m ∈ tallyMembers name counts, CountsOnly m.2 := by
  intro m hm
  obtain ⟨count, -, rfl⟩ := List.mem_map.1 hm
  exact .count _

@[simp] theorem Statistics.countsOnly_toJson (s : Statistics) : CountsOnly s.toJson := by
  have hrules : CountsOnly s.rulesToJson :=
    .obj (List.forall_mem_append.2 ⟨countsOnly_of_mem_tallyMembers, by simp⟩)
  have hactions : CountsOnly s.actionsToJson := .obj countsOnly_of_mem_tallyMembers
  have hrejections : CountsOnly s.rejectionsToJson := .obj countsOnly_of_mem_tallyMembers
  simp [toJson, hrules, hactions, hrejections]

@[simp] theorem Report.countsOnly_toJson (report : Report) : CountsOnly report.toJson := by
  simp [toJson]

/-! ## Tallies -/

/-- What is reached from a value by the names of members, one after the other. -/
def Json.follow? (v : Json) (names : List String) : Option Json :=
  names.foldl (fun v name => v.bind (·.field? name)) (some v)

namespace Statistics

/-- A tally is written with the count of each kind under the name of that kind. -/
theorem exists_field?_tallyMembers {α : Type} [DecidableEq α] {name : α → String} {kinds : List α}
    (hname : ∀ a ∈ kinds, ∀ b ∈ kinds, name a = name b → a = b) (items : List α) {kind : α}
    (h : kind ∈ kinds) : ∃ n, (kind, n) ∈ tally kinds items ∧
      (Json.obj (tallyMembers name (tally kinds items))).field? (name kind) = some (.ofNat n) := by
  have hcount : (kind, items.count kind) ∈ tally kinds items := List.mem_map_of_mem h
  have hmember : (name kind, .ofNat (items.count kind)) ∈ tallyMembers name (tally kinds items) :=
    List.mem_map_of_mem hcount
  refine ⟨items.count kind, hcount, ?_⟩
  rw [Json.field?]
  cases hfind : (tallyMembers name (tally kinds items)).reverse.find? (·.1 == name kind) with
  | none =>
    have hnone := List.find?_eq_none.1 hfind _ (List.mem_reverse.2 hmember)
    exact absurd (beq_self_eq_true (name kind)) hnone
  | some m =>
    have hsame := List.find?_some hfind
    obtain ⟨c, hc, rfl⟩ := List.mem_map.1 (List.mem_reverse.1 (List.mem_of_find?_eq_some hfind))
    obtain ⟨other, hother, rfl⟩ := List.mem_map.1 hc
    rw [hname other hother kind h (eq_of_beq hsame)]
    rfl

theorem field?_allowlist (s : Statistics) :
    s.rulesToJson.field? "allowlist" = some (.ofNat s.exceptions) := by
  rw [rulesToJson, Json.field?_append, Json.field?_singleton, if_pos rfl]
  rfl

section
variable {s : Statistics} {rules : List Rule} {entries : List Entry} {reasons : List RejectReason}
  (h : s = .of rules entries reasons)
include h

theorem exists_field?_rulesToJson (kind : RuleType) :
    ∃ n, (kind, n) ∈ s.rules ∧ s.rulesToJson.field? kind.name = some (.ofNat n) := by
  subst h
  have hname : "allowlist" ≠ kind.name := by cases kind <;> decide
  rw [rulesToJson, Json.field?_append, Json.field?_singleton, if_neg hname]
  exact exists_field?_tallyMembers (by decide) _ kind.mem_all

theorem exists_field?_actionsToJson (kind : ActionType) :
    ∃ n, (kind, n) ∈ s.actions ∧ s.actionsToJson.field? kind.name = some (.ofNat n) := by
  subst h
  exact exists_field?_tallyMembers (by decide) _ kind.mem_all

theorem exists_field?_rejectionsToJson (kind : RejectReason) :
    ∃ n, (kind, n) ∈ s.rejections ∧ s.rejectionsToJson.field? kind.name = some (.ofNat n) := by
  subst h
  exact exists_field?_tallyMembers (by decide) _ kind.mem_all

end

end Statistics

namespace CommandLine

variable (time : String) (inputs : List FilePath) (result : ConversionResult)

theorem countsOnly_reportJson : CountsOnly (reportJson time inputs result) := by
  simp [reportJson, Json.ofStrings]

/-- **A report is read back from its text.** -/
theorem read_indented_reportJson :
    Json.read (reportJson time inputs result).indented = some (reportJson time inputs result) :=
  (countsOnly_reportJson time inputs result).read_indented

/-! ## Counts -/

/-- A report has the counts of a conversion, each by its digits: those of the conversion as a whole,
and those of rules, entries and rejections of each kind. -/
structure CarriesCounts (report : Json) (result : ConversionResult) : Prop where
  converted : report.field? "convertedCount" = some (.number (toString result.convertedCount))
  total : report.field? "totalConvertedCount" =
    some (.number (toString result.totalConvertedCount))
  errors : report.field? "errorsCount" = some (.number (toString result.errorsCount))
  overLimit : report.field? "overLimit" = some (.bool result.overLimit)
  advanced : report.field? "advancedBlockingConvertedCount" =
    some (.number (toString result.advancedBlockingConvertedCount))
  details : report.field? "report" = some result.report.toJson
  rules (kind : RuleType) : ∃ n, (kind, n) ∈ result.report.statistics.rules ∧
    report.follow? ["report", "stats", "rules", kind.name] = some (.number (toString n))
  exceptions : report.follow? ["report", "stats", "rules", "allowlist"] =
    some (.number (toString result.report.statistics.exceptions))
  actions (kind : ActionType) : ∃ n, (kind, n) ∈ result.report.statistics.actions ∧
    report.follow? ["report", "stats", "actions", kind.name] = some (.number (toString n))
  rejections (kind : RejectReason) : ∃ n, (kind, n) ∈ result.report.statistics.rejections ∧
    report.follow? ["report", "stats", "rejections", kind.name] = some (.number (toString n))

variable {result} in
/-- **The report on a conversion has its counts.** -/
theorem carriesCounts_reportJson {lines : List String} {options : ConversionOptions}
    (h : convertLines lines options = .ok result) :
    CarriesCounts (reportJson time inputs result) result := by
  obtain ⟨rules, entries, reasons, hcounts⟩ : ∃ rules entries reasons,
      result.report.statistics = .of rules entries reasons := by
    obtain ⟨limit, -, rfl, -⟩ := convert_eq_ok_iff.1 h
    exact ⟨_, _, _, rfl⟩
  exact {
    converted := rfl
    total := rfl
    errors := rfl
    overLimit := rfl
    advanced := rfl
    details := rfl
    rules := Statistics.exists_field?_rulesToJson hcounts
    exceptions := Statistics.field?_allowlist _
    actions := Statistics.exists_field?_actionsToJson hcounts
    rejections := Statistics.exists_field?_rejectionsToJson hcounts }

end CommandLine
end ContentBlocker
