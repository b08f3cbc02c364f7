import Mathlib.Data.List.Basic
import ContentBlocker.Proofs.Conversion.Strict
import ContentBlocker.Proofs.Entry.UrlFilter

/-!
# Conversions with advanced blocking and without

Two conversions of one list, of which only one has an output for advanced blocking, have the same
content blocker (`advancedBlocking_changes_no_entry`).  They differ in what becomes of the rules that
need advanced blocking: in one these have entries of their own, and in the other they are rejected
for the want of it.

The two are compared rule by rule.  Whether there is advanced blocking matters in two places, for
the action of a script or scriptlet and for what becomes of a rule with an extended selector.  In
both it comes after all that could rule out the entry of such a rule (`Rule.compile_cases`), so the
rules that are rejected for another reason are the same (`Rule.judge_enabled`).
-/

set_option autoImplicit false
namespace ContentBlocker

/-! ## One rule -/

/-- What becomes of a rule without and with advanced blocking. -/
inductive Verdict.Enabled : Verdict → Verdict → Prop
  /-- The same, which has nothing to do with advanced blocking. -/
  | same {verdict : Verdict} (hadvanced : verdict.advanced? = none)
    (hreason : ∀ rejection ∈ verdict.rejection?, rejection.reason ≠ .advancedBlockingDisabled) :
    Enabled verdict verdict
  /-- It is rejected for the want of advanced blocking, and has an entry with it. -/
  | enabled (kind : AdvancedKind) (e : Entry) :
    Enabled (.rejected (.advancedBlockingDisabled kind)) (.advanced e)

namespace Verdict.Enabled

variable {off on : Verdict} (h : Enabled off on)
include h

theorem entryOf?_eq (group : EntryGroup) : on.entryOf? group = off.entryOf? group := by
  cases h with
  | same _ _ => rfl
  | enabled kind e => rfl

theorem advanced?_off : off.advanced? = none := by
  cases h with
  | same hadvanced _ => exact hadvanced
  | enabled kind e => rfl

/-- With advanced blocking there is no rejection for the want of it, and each other one stays. -/
theorem rejection?_eq : on.rejection? =
    off.rejection?.filter fun rejection => rejection.reason ≠ .advancedBlockingDisabled := by
  cases h with
  | same _ hreason =>
    cases hrejection : off.rejection? with
    | none => rfl
    | some rejection =>
      rw [Option.filter_some, if_pos (decide_eq_true (hreason rejection hrejection))]
  | enabled kind e => rfl

end Verdict.Enabled

/-- If something is missing, it is not for the want of advanced blocking. -/
def FailsOtherwise {α : Type} (result : Except Rejection α) : Prop :=
  ∀ rejection, result = .error rejection → rejection.reason ≠ .advancedBlockingDisabled

namespace FailsOtherwise

theorem ok {α : Type} (a : α) : FailsOtherwise (.ok a) := by
  rintro rejection ⟨⟩

theorem error {α : Type} {rejection : Rejection}
    (h : rejection.reason ≠ .advancedBlockingDisabled) :
    FailsOtherwise (.error rejection : Except Rejection α) := by
  rintro rejection' ⟨⟩
  exact h

theorem bind {α β : Type} {result : Except Rejection α} {f : α → Except Rejection β}
    (h : FailsOtherwise result) (hf : ∀ a, FailsOtherwise (f a)) :
    FailsOtherwise (result >>= f) := by
  intro rejection hbind
  rcases bind_eq_error_iff.1 hbind with hresult | ⟨a, -, hfa⟩
  · exact h rejection hresult
  · exact hf a rejection hfa

end FailsOtherwise

namespace Rule

variable (rule : Rule)

theorem failsOtherwise_trigger : FailsOtherwise rule.trigger := by
  intro rejection h hreason
  have hmem := reason_of_trigger h
  rw [hreason] at hmem
  revert hmem
  decide

/-- The action of a rule is the same without advanced blocking, or it is one that needs it. -/
theorem action_cases :
    rule.action true = rule.action false ∧ FailsOtherwise (rule.action false) ∨
    rule.isAdvanced = true ∧ rule.blocksPages = false ∧ ∃ kind action,
      rule.action false = .error (.advancedBlockingDisabled kind) ∧
      rule.action true = .ok action := by
  rw [action, action, isAdvanced, blocksPages]
  cases rule.body with
  | network network => exact .inl ⟨rfl, .ok _⟩
  | hide extended selector =>
    refine .inl ⟨rfl, ?_⟩
    dsimp only
    rw [hideAction]
    split
    · exact .ok _
    · exact .error (by rintro ⟨⟩)
  | script source => exact .inr ⟨rfl, rfl, .script, _, rfl, rfl⟩
  | scriptlet name parameter => exact .inr ⟨rfl, rfl, .scriptlet, _, rfl, rfl⟩

/-- A rule compiles to the same without advanced blocking, or nothing but the want of it is in the
way of its entry. -/
theorem compile_cases :
    rule.compile true = rule.compile false ∧ FailsOtherwise (rule.compile false) ∨
    rule.isAdvanced = true ∧ ∃ kind e,
      rule.compile false = .error (.advancedBlockingDisabled kind) ∧ rule.compile true = .ok e := by
  have htrigger := rule.failsOtherwise_trigger
  rw [compile_eq, compile_eq]
  split
  · exact .inl ⟨rfl, .error (by rintro ⟨⟩)⟩
  · split
    · exact .inl ⟨rfl, .error (by rintro ⟨⟩)⟩
    · rcases rule.action_cases with ⟨haction, hfails⟩ | ⟨hadvanced, hpages, kind, action, hoff, hon⟩
      · rw [haction]
        refine .inl ⟨rfl, htrigger.bind fun trigger => hfails.bind fun action => ?_⟩
        split
        · exact .error (by rintro ⟨⟩)
        · exact .ok _
      · rw [hoff, hon, hpages]
        -- What fails for the trigger comes first, with advanced blocking or without.
        cases hresult : rule.trigger with
        | error rejection => exact .inl ⟨rfl, .error (htrigger rejection hresult)⟩
        | ok trigger => exact .inr ⟨hadvanced, kind, ⟨trigger, action⟩, rfl, rfl⟩

/-- **Advanced blocking matters only to the rules that need it**, and to these only where nothing
else rules out their entries. -/
theorem judge_enabled : Verdict.Enabled (rule.judge false) (rule.judge true) := by
  rw [judge, judge]
  rcases rule.compile_cases with ⟨hcompile, hfails⟩ | ⟨hadvanced, kind, e, hoff, hon⟩
  · rw [hcompile]
    cases hfalse : rule.compile false with
    | error rejection =>
      refine .same rfl fun rejection' h => ?_
      obtain rfl : rejection = rejection' := Option.some.inj h
      exact hfails rejection hfalse
    | ok e =>
      cases rule.isAdvanced with
      | false =>
        refine .same rfl fun rejection h => ?_
        cases h
      | true => exact .enabled .extendedCss e
  · rw [hoff, hon, hadvanced]
    exact .enabled kind e

end Rule

/-! ## All rules -/

namespace Sorting

variable (rules : List Rule)

theorem entries_ofRules_eq : (ofRules true rules).entries = (ofRules false rules).entries := by
  have hgroup (group : EntryGroup) :
      (rules.map fun rule => (rule.text, rule.judge true)).filterMap (·.2.entryOf? group) =
        (rules.map fun rule => (rule.text, rule.judge false)).filterMap (·.2.entryOf? group) := by
    rw [List.filterMap_map, List.filterMap_map]
    exact congrArg (List.filterMap · rules)
      (funext fun rule => rule.judge_enabled.entryOf?_eq group)
  simp only [ofRules, ofVerdicts, hgroup]

theorem advanced_ofRules_false : (ofRules false rules).advanced = [] := by
  refine List.filterMap_eq_nil_iff.2 fun judged hjudged => ?_
  obtain ⟨rule, -, rfl⟩ := List.mem_map.1 hjudged
  exact rule.judge_enabled.advanced?_off

/-- The rules that are rejected with advanced blocking are those that are rejected without it for
another reason, in the same order. -/
theorem rejected_ofRules_true : (ofRules true rules).rejected =
    (ofRules false rules).rejected.filter
      fun rejected => rejected.rejection.reason ≠ .advancedBlockingDisabled := by
  induction rules with
  | nil => rfl
  | cons rule rules ih =>
    rw [rejected_ofRules_cons, rejected_ofRules_cons, List.filter_append, ih,
      rule.judge_enabled.rejection?_eq]
    congr 1
    cases (rule.judge false).rejection? with
    | none => rfl
    | some rejection =>
      rw [Option.filter_some, Option.map_some, Option.toList_some, List.filter_singleton, cond_eq_ite]
      split <;> rfl

/-- A rule that has an entry for advanced blocking would otherwise be rejected. -/
theorem length_rejected_ofRules_false : (ofRules false rules).rejected.length =
    (ofRules true rules).rejected.length + (ofRules true rules).advanced.length := by
  have hoff := length_ofRules false rules
  have hon := length_ofRules true rules
  rw [advanced_ofRules_false, List.length_nil] at hoff
  rw [entries_ofRules_eq] at hon
  omega

/-- As many rules are rejected for the want of advanced blocking as have an entry with it. -/
theorem length_filter_rejected_ofRules_false : ((ofRules false rules).rejected.filter
      fun rejected => rejected.rejection.reason = .advancedBlockingDisabled).length =
    (ofRules true rules).advanced.length := by
  have hparts : (ofRules false rules).rejected.length = _ + _ := List.length_eq_length_filter_add
    fun rejected => decide (rejected.rejection.reason = .advancedBlockingDisabled)
  have hothers := congrArg List.length (rejected_ofRules_true rules)
  simp only [ne_eq, decide_not] at hothers
  have hrejected := length_rejected_ofRules_false rules
  omega

end Sorting

/-! ## Two conversions -/

/-- **Advanced blocking changes nothing in the content blocker.**  Two conversions of one list, one
with advanced blocking and one without, have the same content blocker with the same counts.  The
one with it rejects what the other rejects for other reasons than the want of it, and has as many
entries for it as the other rejects for that reason. -/
theorem advancedBlocking_changes_no_entry (list : FilterList) {limit : Number} {n : Nat}
    (hlimit : limit.toNat? = some n) :
    ∃ off on, convert list { limit, advancedBlocking := false, strict := false } = .ok off ∧
      convert list { limit, advancedBlocking := true, strict := false } = .ok on ∧
      on.converted = off.converted ∧ on.convertedCount = off.convertedCount ∧
      on.totalConvertedCount = off.totalConvertedCount ∧ on.overLimit = off.overLimit ∧
      on.report.issues = off.report.issues ∧
      on.report.statistics.rules = off.report.statistics.rules ∧
      on.report.statistics.exceptions = off.report.statistics.exceptions ∧
      on.report.rejected = off.report.rejected.filter
        (fun rejected => rejected.rejection.reason ≠ .advancedBlockingDisabled) ∧
      (off.report.rejected.filter
        fun rejected => rejected.rejection.reason = .advancedBlockingDisabled).length =
        on.advancedBlockingConvertedCount ∧
      off.errorsCount = on.errorsCount + on.advancedBlockingConvertedCount := by
  let off := Sorting.ofRules false list.rules
  let on := Sorting.ofRules true list.rules
  have hentries : on.entries = off.entries := Sorting.entries_ofRules_eq list.rules
  have hcount : off.rejected.length = on.rejected.length + on.advanced.length :=
    Sorting.length_rejected_ofRules_false list.rules
  refine ⟨.ofSorting list off n false, .ofSorting list on n true,
    convert_of_lenient hlimit list rfl, convert_of_lenient hlimit list rfl, ?_⟩
  dsimp only [ConversionResult.ofSorting]
  rw [hentries, hcount]
  exact ⟨rfl, rfl, rfl, rfl, rfl, rfl, rfl, Sorting.rejected_ofRules_true list.rules,
    Sorting.length_filter_rejected_ofRules_false list.rules, (Nat.add_assoc ..).symm⟩

/-- A rule that does not need advanced blocking, two that do, and one that has no entry with it
either. -/
def advancedLines : List String :=
  ["##.ad", "example.org#%#//scriptlet('log')", "example.org#?#.a:has(.b)",
    "a.example,~b.example#%#alert(1)"]

theorem advancedBlocking_changes_no_entry_of_advancedLines :
    (Number.ofNat maxEntries).toNat? = some maxEntries ∧
      ∃ off on, convertLines advancedLines {} = .ok off ∧
        convertLines advancedLines { advancedBlocking := true } = .ok on ∧
        on.converted = off.converted ∧ on.errorsCount = 1 ∧ off.errorsCount = 3 := by
  let list := FilterList.ofText (Text.unlines advancedLines)
  obtain ⟨off, on, hoff, hon, hconverted, -, -, -, -, -, -, -, -, hcount⟩ :=
    advancedBlocking_changes_no_entry list toNat?_maxEntries
  obtain rfl : on = .ofList list maxEntries true :=
    Except.ok.inj (hon.symm.trans (convert_of_lenient toNat?_maxEntries list rfl))
  have herrors : (ConversionResult.ofList list maxEntries true).errorsCount = 1 := by
    decide +kernel
  have hadvanced :
      (ConversionResult.ofList list maxEntries true).advancedBlockingConvertedCount = 2 := by
    decide +kernel
  rw [herrors, hadvanced] at hcount
  exact ⟨toNat?_maxEntries, off, _, hoff, hon, hconverted, herrors, hcount⟩

end ContentBlocker
