import ContentBlocker.Conversion.Basic

/-!
# Strict conversions

A strict conversion goes through a filter list as any other does, but it stops at the first thing
that it would have to leave out.  So it fails exactly if another conversion of the same list reports
something, and with what that report names first: a line that could not be read if there is one, and
otherwise a rule without an entry.  With nothing to stop at, it comes to the same result
(`strict_fails_at_first_reported`).

What a conversion does at one rule is told by `judge_of_lenient`, `judge_of_rejected` and
`judge_of_rejection?_eq_none`; what it does with all rules follows by induction
(`mapM_judge_of_lenient`, `mapM_judge_of_strict`).
-/

set_option autoImplicit false
namespace ContentBlocker

theorem Verdict.eq_rejected_of_rejection? {verdict : Verdict} {rejection : Rejection}
    (h : verdict.rejection? = some rejection) : verdict = .rejected rejection := by
  cases verdict with
  | entry group e => cases h
  | advanced e => cases h
  | rejected rejection' => rw [Option.some.inj h]

namespace ConversionOptions

variable {options : ConversionOptions} {rule : Rule} {rejection : Rejection}

/-! ## The limit and the lines -/

theorem entryLimit_of_toNat?_eq_some {limit : Nat} (h : options.limit.toNat? = some limit) :
    options.entryLimit = .ok limit := by
  rw [entryLimit, h]

theorem entryLimit_of_toNat?_eq_none (h : options.limit.toNat? = none) :
    options.entryLimit = .error (.invalidLimit options.limit) := by
  rw [entryLimit, h]

theorem rulesOf_of_lenient (h : options.strict = false) (list : FilterList) :
    options.rulesOf list = .ok list.rules := by
  rw [rulesOf, h]
  cases list.issues with
  | nil => rfl
  | cons issue issues => rfl

theorem rulesOf_of_issues_eq_nil {list : FilterList} (h : list.issues = []) :
    options.rulesOf list = .ok list.rules := by
  rw [rulesOf, h]

theorem rulesOf_of_issues_eq_cons {list : FilterList} {issue : Issue} {issues : List Issue}
    (hstrict : options.strict = true) (h : list.issues = issue :: issues) :
    options.rulesOf list = .error (.unreadableLine issue) := by
  rw [rulesOf, h, hstrict]
  rfl

/-! ## One rule -/

/-- A rule with an entry is judged alike whether the conversion is strict or not. -/
theorem judge_of_rejection?_eq_none
    (h : (rule.judge options.advancedBlocking).rejection? = none) :
    options.judge rule = .ok (rule.text, rule.judge options.advancedBlocking) := by
  rw [judge]
  cases hjudge : rule.judge options.advancedBlocking with
  | entry group e => rfl
  | advanced e => rfl
  | rejected rejection =>
    rw [hjudge] at h
    cases h

theorem judge_of_rejected (hstrict : options.strict = true)
    (h : rule.judge options.advancedBlocking = .rejected rejection) :
    options.judge rule = .error (.rejectedRule rule.text rejection) := by
  rw [judge, h, hstrict]
  rfl

theorem judge_of_lenient (h : options.strict = false) (rule : Rule) :
    options.judge rule = .ok (rule.text, rule.judge options.advancedBlocking) := by
  rw [judge, h]
  cases rule.judge options.advancedBlocking <;> rfl

/-! ## All rules -/

theorem mapM_judge_of_lenient (h : options.strict = false) (rules : List Rule) :
    rules.mapM options.judge =
      .ok (rules.map fun rule => (rule.text, rule.judge options.advancedBlocking)) := by
  induction rules with
  | nil => rfl
  | cons rule rules ih =>
    rw [List.mapM_cons, judge_of_lenient h, ih]
    rfl

end ConversionOptions

/-- A rule without an entry is listed before those of the rules behind it. -/
theorem Sorting.rejected_ofRules_cons (advancedBlocking : Bool) (rule : Rule) (rules : List Rule) :
    (ofRules advancedBlocking (rule :: rules)).rejected =
      ((rule.judge advancedBlocking).rejection?.map (⟨rule.text, ·⟩)).toList ++
        (ofRules advancedBlocking rules).rejected := by
  simp only [ofRules, ofVerdicts, List.map_cons, List.filterMap_cons]
  cases (rule.judge advancedBlocking).rejection? with
  | none => rfl
  | some rejection => rfl

namespace ConversionOptions

variable {options : ConversionOptions}

/-- **A strict conversion goes through the rules up to the first that would be reported.** -/
theorem mapM_judge_of_strict (hstrict : options.strict = true) (rules : List Rule) :
    rules.mapM options.judge =
      match (Sorting.ofRules options.advancedBlocking rules).rejected with
      | [] => .ok (rules.map fun rule => (rule.text, rule.judge options.advancedBlocking))
      | rejected :: _ => .error (.rejectedRule rejected.text rejected.rejection) := by
  induction rules with
  | nil => rfl
  | cons rule rules ih =>
    rw [List.mapM_cons, Sorting.rejected_ofRules_cons]
    cases hrejection : (rule.judge options.advancedBlocking).rejection? with
    | some rejection =>
      rw [judge_of_rejected hstrict (Verdict.eq_rejected_of_rejection? hrejection)]
      rfl
    | none =>
      rw [judge_of_rejection?_eq_none hrejection, ih]
      -- The head of the list of rejections is now that of the rules behind the first.
      dsimp only [Option.map_none, Option.toList_none, List.nil_append]
      cases (Sorting.ofRules options.advancedBlocking rules).rejected with
      | nil => rfl
      | cons rejected rest => rfl

end ConversionOptions

/-! ## Conversions -/

theorem convert_of_invalid {options : ConversionOptions} (h : options.limit.toNat? = none)
    (list : FilterList) : convert list options = .error (.invalidLimit options.limit) := by
  rw [convert, ConversionOptions.entryLimit_of_toNat?_eq_none h]
  rfl

section
variable {options : ConversionOptions} {limit : Nat} (hlimit : options.limit.toNat? = some limit)
  (list : FilterList)
include hlimit

/-- A conversion that is not strict has a result, whatever it leaves out. -/
theorem convert_of_lenient (hstrict : options.strict = false) :
    convert list options = .ok (.ofList list limit options.advancedBlocking) := by
  rw [convert, ConversionOptions.entryLimit_of_toNat?_eq_some hlimit,
    ConversionOptions.rulesOf_of_lenient hstrict]
  dsimp only [bind, Except.bind]
  rw [ConversionOptions.mapM_judge_of_lenient hstrict]
  rfl

/-- A strict conversion fails with what the report of its result would name first. -/
theorem convert_of_strict (hstrict : options.strict = true) : convert list options =
    match (ConversionResult.ofList list limit options.advancedBlocking).report.firstFailure? with
    | some failure => .error failure
    | none => .ok (.ofList list limit options.advancedBlocking) := by
  have hissues : (ConversionResult.ofList list limit options.advancedBlocking).report.issues =
      list.issues := rfl
  have hrejected : (ConversionResult.ofList list limit options.advancedBlocking).report.rejected =
      (Sorting.ofRules options.advancedBlocking list.rules).rejected := rfl
  rw [convert, ConversionOptions.entryLimit_of_toNat?_eq_some hlimit, Report.firstFailure?, hissues,
    hrejected]
  cases hlist : list.issues with
  | cons issue issues =>
    rw [ConversionOptions.rulesOf_of_issues_eq_cons hstrict hlist]
    rfl
  | nil =>
    rw [ConversionOptions.rulesOf_of_issues_eq_nil hlist]
    dsimp only [bind, Except.bind]
    rw [ConversionOptions.mapM_judge_of_strict hstrict]
    cases (Sorting.ofRules options.advancedBlocking list.rules).rejected with
    | nil => rfl
    | cons rejected rest => rfl

end

/-- The limit of a conversion that is asked for nothing else. -/
theorem toNat?_maxEntries : (Number.ofNat maxEntries).toNat? = some maxEntries := by
  decide

theorem convertLines_default (lines : List String) :
    convertLines lines {} = .ok (.ofList (.ofText (Text.unlines lines)) maxEntries false) :=
  convert_of_lenient toNat?_maxEntries _ rfl

/-- A report names something exactly if something was counted as left out. -/
theorem ConversionResult.firstFailure?_eq_none_iff (list : FilterList) (limit : Nat)
    (advancedBlocking : Bool) :
    (ofList list limit advancedBlocking).report.firstFailure? = none ↔
      (ofList list limit advancedBlocking).errorsCount = 0 := by
  have hcount : (ofList list limit advancedBlocking).errorsCount =
      (ofList list limit advancedBlocking).report.issues.length +
        (ofList list limit advancedBlocking).report.rejected.length := rfl
  rw [hcount, Report.firstFailure?]
  cases (ofList list limit advancedBlocking).report.issues with
  | cons issue issues => simp
  | nil =>
    cases (ofList list limit advancedBlocking).report.rejected with
    | cons rejected rest => simp
    | nil => simp

/-- **A strict conversion fails at the first thing that would be left out.**  A conversion that is
not strict has a result.  A strict one of the same lines fails exactly if that result counts
something as left out: with the first line that could not be read, and if all could be read with the
first rule without an entry.  Otherwise it has the same result.  If the limit is no natural number,
either fails for that reason, whatever the lines are. -/
theorem strict_fails_at_first_reported (options : ConversionOptions) :
    (∀ limit, options.limit.toNat? = some limit → ∀ lines, ∃ result,
      convertLines lines { options with strict := false } = .ok result ∧
      let strictly := convertLines lines { options with strict := true }
      ((∃ failure, strictly = .error failure) ↔ 0 < result.errorsCount) ∧
      (∀ issue ∈ result.report.issues.head?, strictly = .error (.unreadableLine issue)) ∧
      (result.report.issues = [] → ∀ rejected ∈ result.report.rejected.head?,
        strictly = .error (.rejectedRule rejected.text rejected.rejection)) ∧
      ∀ strictResult, strictly = .ok strictResult → strictResult = result) ∧
    (options.limit.toNat? = none → ∀ lines strict,
      convertLines lines { options with strict } = .error (.invalidLimit options.limit)) := by
  constructor
  · intro limit hlimit lines
    generalize hlist : FilterList.ofText (Text.unlines lines) = list
    generalize hresult : ConversionResult.ofList list limit options.advancedBlocking = result
    have hlenient : convertLines lines { options with strict := false } = .ok result := by
      have hlimit : ({ options with strict := false } : ConversionOptions).limit.toNat? =
          some limit := hlimit
      rw [convertLines, hlist, ← hresult]
      exact convert_of_lenient hlimit list rfl
    have hstrict : convertLines lines { options with strict := true } =
        match result.report.firstFailure? with
        | some failure => .error failure
        | none => .ok result := by
      have hlimit : ({ options with strict := true } : ConversionOptions).limit.toNat? =
          some limit := hlimit
      rw [convertLines, hlist, ← hresult]
      exact convert_of_strict hlimit list rfl
    have hcount := ConversionResult.firstFailure?_eq_none_iff list limit options.advancedBlocking
    rw [hresult] at hcount
    refine ⟨result, hlenient, ?_⟩
    dsimp only
    rw [hstrict]
    refine ⟨?_, fun issue hissue => ?_, fun hissues rejected hrejected => ?_, ?_⟩
    · rw [Nat.pos_iff_ne_zero, ne_eq, ← hcount]
      cases result.report.firstFailure? with
      | none => simp
      | some failure => simp
    · obtain ⟨issues, hissues⟩ := List.head?_eq_some_iff.1 hissue
      rw [Report.firstFailure?, hissues]
    · obtain ⟨rest, hrest⟩ := List.head?_eq_some_iff.1 hrejected
      rw [Report.firstFailure?, hissues, hrest]
    · intro strictResult h
      cases hfailure : result.report.firstFailure? with
      | none =>
        rw [hfailure] at h
        exact (Except.ok.inj h).symm
      | some failure =>
        rw [hfailure] at h
        cases h
  · intro h lines strict
    have h : ({ options with strict } : ConversionOptions).limit.toNat? = none := h
    exact convert_of_invalid h _

/-- A rule without an entry before a line that cannot be read: it is the line that is told. -/
def failingLines : List String :=
  ["||a.example^", "/(a|b)/", "||a.example^$popup"]

theorem strict_fails_at_first_reported_of_failingLines :
    ({} : ConversionOptions).limit.toNat? = some maxEntries ∧
      (∃ result, convertLines failingLines {} = .ok result ∧ 0 < result.report.rejected.length) ∧
      convertLines failingLines { strict := true } =
        .error (.unreadableLine ⟨3, "||a.example^$popup", .unsupportedModifier "popup"⟩) ∧
      Number.notANumber.toNat? = none ∧
      convertLines failingLines { limit := .notANumber } = .error (.invalidLimit .notANumber) := by
  have hlimit : ({} : ConversionOptions).limit.toNat? = some maxEntries := toNat?_maxEntries
  have hissues : (FilterList.ofText (Text.unlines failingLines)).issues =
      [⟨3, "||a.example^$popup", .unsupportedModifier "popup"⟩] := by decide +kernel
  have hrejected : (Sorting.ofRules false
      (FilterList.ofText (Text.unlines failingLines)).rules).rejected.length = 1 := by
    decide +kernel
  obtain ⟨result, hresult, -, hissue, -⟩ :=
    (strict_fails_at_first_reported {}).1 maxEntries hlimit failingLines
  obtain rfl : result = .ofList (.ofText (Text.unlines failingLines)) maxEntries false :=
    Except.ok.inj (hresult.symm.trans (convertLines_default failingLines))
  refine ⟨hlimit, ⟨_, hresult, Nat.lt_of_lt_of_eq Nat.one_pos hrejected.symm⟩, hissue _ ?_, rfl, ?_⟩
  · exact congrArg List.head? hissues
  · exact (strict_fails_at_first_reported { limit := .notANumber }).2 rfl failingLines false

end ContentBlocker
