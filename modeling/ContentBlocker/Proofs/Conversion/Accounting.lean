import ContentBlocker.Proofs.Conversion.Strict
import ContentBlocker.Proofs.Entry.WireForm

/-!
# The accounts of a conversion

A conversion counts in several places: the entries of the content blocker before and after the
limit, those for advanced blocking, what was left out, and all of these once more by kind.  Here it
is shown that the counts agree with each other and with the texts that they are about, whatever is
converted (`convertLines_accounts`).

Each count of `ConversionResult.ofList` is compared with what it counts on its own first.
-/

set_option autoImplicit false
namespace ContentBlocker

/-! ## When there is a result -/

/-- A conversion has a result if its limit is a natural number, and, where it is strict, if it
leaves nothing out. -/
theorem convert_eq_ok_iff {list : FilterList} {options : ConversionOptions}
    {result : ConversionResult} : convert list options = .ok result ↔
      ∃ limit, options.limit.toNat? = some limit ∧
        result = .ofList list limit options.advancedBlocking ∧
        (options.strict = true → result.report.firstFailure? = none) := by
  cases hlimit : options.limit.toNat? with
  | none =>
    rw [convert_of_invalid hlimit]
    refine ⟨fun h => (nomatch h), ?_⟩
    rintro ⟨limit, h, -⟩
    cases h
  | some limit =>
    cases hstrict : options.strict with
    | false =>
      rw [convert_of_lenient hlimit list hstrict]
      constructor
      · intro h
        exact ⟨limit, rfl, (Except.ok.inj h).symm, fun h => nomatch h⟩
      · rintro ⟨limit', hlimit', rfl, -⟩
        rw [Option.some.inj hlimit']
    | true =>
      rw [convert_of_strict hlimit list hstrict]
      cases hfailure : (ConversionResult.ofList list limit
          options.advancedBlocking).report.firstFailure? with
      | none =>
        constructor
        · intro h
          obtain rfl := Except.ok.inj h
          exact ⟨limit, rfl, rfl, fun _ => hfailure⟩
        · rintro ⟨limit', hlimit', rfl, -⟩
          rw [Option.some.inj hlimit']
      | some failure =>
        refine ⟨fun h => (nomatch h), ?_⟩
        rintro ⟨limit', hlimit', rfl, h⟩
        rw [← Option.some.inj hlimit', hfailure] at h
        exact nomatch h rfl

namespace ConversionResult

variable (list : FilterList) (limit : Nat) (advancedBlocking : Bool)

/-! ## Counts of rules and of entries -/

/-- Each rule is counted once. -/
theorem length_rules_ofList :
    list.rules.length = (ofList list limit advancedBlocking).totalConvertedCount +
      (ofList list limit advancedBlocking).advancedBlockingConvertedCount +
      (ofList list limit advancedBlocking).report.rejected.length :=
  (Sorting.length_ofRules advancedBlocking list.rules).symm

theorem issues_ofList : (ofList list limit advancedBlocking).report.issues = list.issues :=
  rfl

theorem errorsCount_ofList : (ofList list limit advancedBlocking).errorsCount =
    (ofList list limit advancedBlocking).report.issues.length +
      (ofList list limit advancedBlocking).report.rejected.length :=
  rfl

theorem convertedCount_ofList : (ofList list limit advancedBlocking).convertedCount =
    min limit (ofList list limit advancedBlocking).totalConvertedCount :=
  List.length_take

theorem overLimit_ofList : (ofList list limit advancedBlocking).overLimit = true ↔
    limit < (ofList list limit advancedBlocking).totalConvertedCount :=
  decide_eq_true_iff

/-! ## The texts -/

theorem converted_ofList_of_zero (h : (ofList list limit advancedBlocking).convertedCount = 0) :
    (ofList list limit advancedBlocking).converted = placeholder :=
  if_pos (List.isEmpty_iff.2 (List.length_eq_zero_iff.1 h))

theorem converted_ofList_of_ne_zero (h : (ofList list limit advancedBlocking).convertedCount ≠ 0) :
    ∃ es : List Entry, es.length = (ofList list limit advancedBlocking).convertedCount ∧
      (ofList list limit advancedBlocking).converted = serializeEntries es :=
  ⟨(Sorting.ofRules advancedBlocking list.rules).entries.take limit, rfl,
    if_neg fun hempty => h (List.length_eq_zero_iff.2 (List.isEmpty_iff.1 hempty))⟩

/-- The content blocker is an array of as many entries as are counted. -/
theorem read_converted_ofList (h : (ofList list limit advancedBlocking).convertedCount ≠ 0) :
    ∃ es : List Entry, es.length = (ofList list limit advancedBlocking).convertedCount ∧
      Json.read (ofList list limit advancedBlocking).converted =
        some (.arr (es.map Entry.toJson)) := by
  obtain ⟨es, hlength, hconverted⟩ := converted_ofList_of_ne_zero list limit advancedBlocking h
  exact ⟨es, hlength, by rw [hconverted, read_serializeEntries]⟩

/-- The output for advanced blocking is an array of as many entries as are counted. -/
theorem read_advancedBlocking_ofList {text : String}
    (h : (ofList list limit advancedBlocking).advancedBlocking = some text) :
    ∃ es : List Entry,
      es.length = (ofList list limit advancedBlocking).advancedBlockingConvertedCount ∧
      Json.read text = some (.arr (es.map Entry.toJson)) := by
  refine ⟨(Sorting.ofRules advancedBlocking list.rules).advanced, rfl, ?_⟩
  cases advancedBlocking with
  | false => cases h
  | true =>
    obtain rfl := Option.some.inj h
    exact read_serializeEntries _

theorem isSome_advancedBlocking_ofList :
    (ofList list limit advancedBlocking).advancedBlocking.isSome = advancedBlocking := by
  cases advancedBlocking <;> rfl

/-! ## Counts by kind -/

theorem total_rules_ofList :
    total (ofList list limit advancedBlocking).report.statistics.rules = list.rules.length := by
  show total (tally RuleType.all (list.rules.map (·.type))) = _
  rw [total_tally (by decide) fun t _ => t.mem_all, List.length_map]

theorem total_actions_ofList :
    total (ofList list limit advancedBlocking).report.statistics.actions =
      (ofList list limit advancedBlocking).convertedCount +
        (ofList list limit advancedBlocking).advancedBlockingConvertedCount := by
  let sorting := Sorting.ofRules advancedBlocking list.rules
  show total (tally ActionType.all
    ((sorting.entries.take limit ++ sorting.advanced).map (·.action.type))) = _
  rw [total_tally (by decide) fun t _ => t.mem_all, List.length_map, List.length_append]
  rfl

theorem total_rejections_ofList :
    total (ofList list limit advancedBlocking).report.statistics.rejections =
      (ofList list limit advancedBlocking).report.rejected.length := by
  let sorting := Sorting.ofRules advancedBlocking list.rules
  show total (tally RejectReason.all (sorting.rejected.map (·.rejection.reason))) = _
  rw [total_tally (by decide) fun r _ => r.mem_all, List.length_map]
  rfl

end ConversionResult

/-! ## All accounts -/

/-- **A conversion loses and invents nothing.**  Every rule that was read is an entry, an entry for
advanced blocking, or rejected; the content blocker has all entries up to the limit, or the
placeholder if that leaves none; and the counts by kind add up to the counts of what they are
about. -/
theorem convertLines_accounts (lines : List String) (options : ConversionOptions) (limit : Nat)
    (hlimit : options.limit.toNat? = some limit) (hstrict : options.strict = false) :
    ∃ result, convertLines lines options = .ok result ∧
      let parsed := FilterList.ofText (Text.unlines lines)
      parsed.rules.length = result.totalConvertedCount + result.advancedBlockingConvertedCount +
        result.report.rejected.length ∧
      result.report.issues = parsed.issues ∧
      result.errorsCount = result.report.issues.length + result.report.rejected.length ∧
      result.convertedCount = min limit result.totalConvertedCount ∧
      (result.overLimit = true ↔ limit < result.totalConvertedCount) ∧
      (result.convertedCount = 0 → result.converted = placeholder) ∧
      (result.convertedCount ≠ 0 → ∃ es : List Entry, es.length = result.convertedCount ∧
        Json.read result.converted = some (.arr (es.map Entry.toJson))) ∧
      result.advancedBlocking.isSome = options.advancedBlocking ∧
      (∀ text, result.advancedBlocking = some text → ∃ es : List Entry,
        es.length = result.advancedBlockingConvertedCount ∧
        Json.read text = some (.arr (es.map Entry.toJson))) ∧
      total result.report.statistics.rules = parsed.rules.length ∧
      total result.report.statistics.actions =
        result.convertedCount + result.advancedBlockingConvertedCount ∧
      total result.report.statistics.rejections = result.report.rejected.length := by
  generalize hlist : FilterList.ofText (Text.unlines lines) = list
  have hresult : convertLines lines options = .ok (.ofList list limit options.advancedBlocking) := by
    rw [convertLines, hlist]
    refine convert_eq_ok_iff.2 ⟨limit, hlimit, rfl, fun h => ?_⟩
    rw [hstrict] at h
    cases h
  exact ⟨_, hresult, ConversionResult.length_rules_ofList list limit _,
    ConversionResult.issues_ofList list limit _, ConversionResult.errorsCount_ofList list limit _,
    ConversionResult.convertedCount_ofList list limit _,
    ConversionResult.overLimit_ofList list limit _,
    ConversionResult.converted_ofList_of_zero list limit _,
    ConversionResult.read_converted_ofList list limit _,
    ConversionResult.isSome_advancedBlocking_ofList list limit _,
    fun _ => ConversionResult.read_advancedBlocking_ofList list limit _,
    ConversionResult.total_rules_ofList list limit _,
    ConversionResult.total_actions_ofList list limit _,
    ConversionResult.total_rejections_ofList list limit _⟩

/-- With the limit that a conversion has unless another is asked for. -/
theorem convertLines_accounts_of_default : ∃ result,
    convertLines ["||example.org^", "example.org##.ad", "@@||example.org$document"] {} = .ok result ∧
      3 = result.totalConvertedCount + result.advancedBlockingConvertedCount +
        result.report.rejected.length := by
  have hrules : (FilterList.ofText (Text.unlines
      ["||example.org^", "example.org##.ad", "@@||example.org$document"])).rules.length = 3 := rfl
  obtain ⟨result, hresult, hcount, -⟩ := convertLines_accounts
    ["||example.org^", "example.org##.ad", "@@||example.org$document"] {} maxEntries toNat?_maxEntries rfl
  rw [hrules] at hcount
  exact ⟨result, hresult, hcount⟩

end ContentBlocker
