import ContentBlocker.Proofs.Conversion.Accounting

/-!
# Conversions with different limits

The limit of a conversion comes last: the rules have been read, judged and sorted by then, and all
that is left to do is to take so many entries from the front.  So two conversions of one list that
differ in nothing but their limits fail alike (`convert_eq_error_iff`), agree in all that does not
count the entries that are kept (`ConversionResult.AgreesBesidesLimit`), and of their entries the
one with the lower limit keeps the first (`limit_cuts_suffix`).
-/

set_option autoImplicit false
namespace ContentBlocker

/-- The content blocker of some entries, with the placeholder in place of none. -/
def blockerText (es : List Entry) : String :=
  if es = [] then placeholder else serializeEntries es

/-- The entries that a conversion keeps. -/
def keptEntries (list : FilterList) (limit : Nat) (advancedBlocking : Bool) : List Entry :=
  (Sorting.ofRules advancedBlocking list.rules).entries.take limit

namespace ConversionResult

/-- Two results agree in all that the limit of a conversion has nothing to do with. -/
structure AgreesBesidesLimit (a b : ConversionResult) : Prop where
  totalConvertedCount : a.totalConvertedCount = b.totalConvertedCount
  errorsCount : a.errorsCount = b.errorsCount
  advancedBlocking : a.advancedBlocking = b.advancedBlocking
  advancedBlockingConvertedCount :
    a.advancedBlockingConvertedCount = b.advancedBlockingConvertedCount
  rejected : a.report.rejected = b.report.rejected
  issues : a.report.issues = b.report.issues
  rules : a.report.statistics.rules = b.report.statistics.rules
  exceptions : a.report.statistics.exceptions = b.report.statistics.exceptions
  rejections : a.report.statistics.rejections = b.report.statistics.rejections

variable (list : FilterList) (advancedBlocking : Bool)

theorem agreesBesidesLimit_ofList (m n : Nat) :
    (ofList list m advancedBlocking).AgreesBesidesLimit (ofList list n advancedBlocking) :=
  ⟨rfl, rfl, rfl, rfl, rfl, rfl, rfl, rfl, rfl⟩

theorem AgreesBesidesLimit.firstFailure? {a b : ConversionResult} (h : a.AgreesBesidesLimit b) :
    a.report.firstFailure? = b.report.firstFailure? := by
  rw [Report.firstFailure?, Report.firstFailure?, h.issues, h.rejected]

theorem converted_ofList (limit : Nat) : (ofList list limit advancedBlocking).converted =
    blockerText (keptEntries list limit advancedBlocking) := by
  show (if (keptEntries list limit advancedBlocking).isEmpty then placeholder
    else serializeEntries (keptEntries list limit advancedBlocking)) = _
  cases keptEntries list limit advancedBlocking <;> rfl

theorem length_keptEntries (limit : Nat) : (keptEntries list limit advancedBlocking).length =
    (ofList list limit advancedBlocking).convertedCount :=
  rfl

end ConversionResult

/-- **What a lower limit keeps is the front of what a higher one keeps.** -/
theorem take_keptEntries (list : FilterList) (advancedBlocking : Bool) {m n : Nat} (h : m ≤ n) :
    (keptEntries list n advancedBlocking).take m = keptEntries list m advancedBlocking := by
  rw [keptEntries, keptEntries, List.take_take, Nat.min_eq_left h]

/-- A limit that there is room under keeps everything. -/
theorem keptEntries_of_total_le {list : FilterList} {limit : Nat} {advancedBlocking : Bool}
    (h : (ConversionResult.ofList list limit advancedBlocking).totalConvertedCount ≤ limit) :
    keptEntries list limit advancedBlocking =
      (Sorting.ofRules advancedBlocking list.rules).entries := by
  have hlength : (Sorting.ofRules advancedBlocking list.rules).entries.length ≤ limit := h
  rw [keptEntries, List.take_of_length_le hlength]

/-- **A conversion with a limit fails if it is strict and has something to report**, whatever its
limit is. -/
theorem convert_eq_error_iff {options : ConversionOptions} {limit : Nat}
    (hlimit : options.limit.toNat? = some limit) {list : FilterList} {failure : ConversionError} :
    convert list options = .error failure ↔ options.strict = true ∧
      (ConversionResult.ofList list limit options.advancedBlocking).report.firstFailure? =
        some failure := by
  cases hstrict : options.strict with
  | false =>
    rw [convert_of_lenient hlimit list hstrict]
    exact iff_of_false nofun fun h => Bool.noConfusion h.1
  | true =>
    rw [convert_of_strict hlimit list hstrict, eq_self_iff_true, true_and]
    cases (ConversionResult.ofList list limit options.advancedBlocking).report.firstFailure? with
    | none => exact ⟨fun h => (nomatch h), fun h => (nomatch h)⟩
    | some failure' => rw [Except.error.injEq, Option.some.injEq]

/-- **A limit cuts off the last entries and does nothing else.**  Two conversions of one list whose
limits are natural numbers and which are asked for the same otherwise both fail, for the same reason,
or both have results.  The results agree in all that the limits have nothing to do with, and the
entries that the lower limit keeps are the first of those that the higher one keeps. -/
theorem limit_cuts_suffix (list : FilterList) (options : ConversionOptions) {lower upper : Number}
    {m n : Nat} (hlower : lower.toNat? = some m) (hupper : upper.toNat? = some n) (hle : m ≤ n) :
    (∀ failure, convert list { options with limit := lower } = .error failure ↔
      convert list { options with limit := upper } = .error failure) ∧
    ∀ cut full, convert list { options with limit := lower } = .ok cut →
      convert list { options with limit := upper } = .ok full →
      cut.AgreesBesidesLimit full ∧ cut.convertedCount = min m full.totalConvertedCount ∧
      ∃ kept : List Entry, kept.length = full.convertedCount ∧ full.converted = blockerText kept ∧
        cut.converted = blockerText (kept.take (min m full.totalConvertedCount)) := by
  have hlower' : ({ options with limit := lower } : ConversionOptions).limit.toNat? = some m :=
    hlower
  have hupper' : ({ options with limit := upper } : ConversionOptions).limit.toNat? = some n :=
    hupper
  constructor
  · intro failure
    have hagree :=
      ConversionResult.agreesBesidesLimit_ofList list options.advancedBlocking m n
    rw [convert_eq_error_iff hlower', convert_eq_error_iff hupper']
    dsimp only
    rw [hagree.firstFailure?]
  · intro cut full hcut hfull
    obtain ⟨m', hm, rfl, -⟩ := convert_eq_ok_iff.1 hcut
    obtain ⟨n', hn, rfl, -⟩ := convert_eq_ok_iff.1 hfull
    obtain rfl : m = m' := Option.some.inj (hlower.symm.trans hm)
    obtain rfl : n = n' := Option.some.inj (hupper.symm.trans hn)
    dsimp only
    have hagree := ConversionResult.agreesBesidesLimit_ofList list options.advancedBlocking m n
    have hcount : (keptEntries list m options.advancedBlocking).length =
        min m (ConversionResult.ofList list n options.advancedBlocking).totalConvertedCount := by
      rw [ConversionResult.length_keptEntries, ConversionResult.convertedCount_ofList,
        hagree.totalConvertedCount]
    refine ⟨hagree, hcount, keptEntries list n options.advancedBlocking, rfl,
      ConversionResult.converted_ofList list _ n, ?_⟩
    have htake := take_keptEntries list options.advancedBlocking hle
    rw [ConversionResult.converted_ofList, ← hcount, ← htake, List.length_take, ← List.take_take,
      List.take_length]

/-- A rule that hides, one that is rejected, and one that blocks. -/
def mixedLines : List String :=
  ["##.ad", "||a.example^$object", "||b.example^"]

/-- Of two entries the first is kept where the limit is one. -/
theorem limit_cuts_suffix_of_mixedLines :
    (Number.ofNat 1).toNat? = some 1 ∧ (Number.ofNat 2).toNat? = some 2 ∧ 1 ≤ 2 ∧
      ∃ cut full, convertLines mixedLines { limit := .ofNat 1 } = .ok cut ∧
        convertLines mixedLines { limit := .ofNat 2 } = .ok full ∧
        cut.convertedCount = 1 ∧ full.convertedCount = 2 ∧ cut.errorsCount = 1 ∧
        cut.AgreesBesidesLimit full := by
  have hone : (Number.ofNat 1).toNat? = some 1 := by decide
  have htwo : (Number.ofNat 2).toNat? = some 2 := by decide
  let list := FilterList.ofText (Text.unlines mixedLines)
  have hcut : convert list { limit := .ofNat 1 } = .ok (.ofList list 1 false) :=
    convert_of_lenient hone list rfl
  have hfull : convert list { limit := .ofNat 2 } = .ok (.ofList list 2 false) :=
    convert_of_lenient htwo list rfl
  obtain ⟨htotal, herrors⟩ : (ConversionResult.ofList list 2 false).totalConvertedCount = 2 ∧
      (ConversionResult.ofList list 2 false).errorsCount = 1 := by decide +kernel
  obtain ⟨hagree, hcount, -⟩ := (limit_cuts_suffix list {} hone htwo (by decide)).2 _ _ hcut hfull
  refine ⟨hone, htwo, by decide, _, _, hcut, hfull, hcount.trans (by rw [htotal]; rfl), ?_,
    hagree.errorsCount.trans herrors, hagree⟩
  rw [ConversionResult.convertedCount_ofList, htotal, Nat.min_self]

end ContentBlocker
