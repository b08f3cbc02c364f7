import ContentBlocker.Proofs.CommandLine.FlagValues
import ContentBlocker.Proofs.Number.Numeral

/-!
# Which limits are accepted

The limit of a conversion is given as a text.  `WritesLimit` says which texts should be accepted and
as which number: without the blanks around it the text is a numeral of one digit or more, and the
number that it writes is natural.

Every such text is accepted, and of the others those that are not blank are refused.  A blank text is
no numeral and is accepted nevertheless, as zero, so that all entries are left out
(`limit_accepted_iff`).
-/

set_option autoImplicit false
namespace ContentBlocker.CommandLine

/-- Without the blanks around it a text is a numeral that writes a natural number. -/
structure WritesLimit (text : String) (limit : Number) : Prop where
  numeral : Numeral (Text.trimChars text.toList) limit
  digit : ∃ c ∈ Text.trimChars text.toList, Text.isDigit 10 c = true
  natural : limit.toNat?.isSome = true

theorem toNat?_ofNat_zero : (Number.ofNat 0).toNat? = some 0 := by
  decide +kernel

theorem ne_notANumber_of_toNat? {x : Number} (h : x.toNat?.isSome = true) : x ≠ .notANumber := by
  rintro rfl
  cases h

/-- A natural number is read from a text if the text writes it, and zero from a blank text. -/
theorem natural_ofText_iff {text : String} {limit : Number} :
    Number.ofText text = limit ∧ limit.toNat?.isSome = true ↔
      Text.trimChars text.toList = [] ∧ limit = .ofNat 0 ∨ WritesLimit text limit := by
  constructor
  · rintro ⟨hread, hnatural⟩
    have hne := ne_notANumber_of_toNat? hnatural
    rcases (Number.ofChars_eq_iff hne).1 hread with hblank | hnumeral
    · exact .inl hblank
    · exact .inr ⟨hnumeral, hnumeral.exists_isDigit hnatural, hnatural⟩
  · rintro (⟨hnil, hzero⟩ | ⟨hnumeral, -, hnatural⟩)
    · have hnatural : limit.toNat?.isSome = true := by rw [hzero, toNat?_ofNat_zero]; rfl
      exact ⟨(Number.ofChars_eq_iff (ne_notANumber_of_toNat? hnatural)).2 (.inl ⟨hnil, hzero⟩),
        hnatural⟩
    · exact ⟨(Number.ofChars_eq_iff (ne_notANumber_of_toNat? hnatural)).2 (.inr hnumeral),
        hnatural⟩

namespace Flags

variable {flags : Flags} {text : String}

/-- A limit is the natural number that is read from its text. -/
theorem limit_eq_ok_iff (htext : flags.text? "limit" = some text) {limit : Option Number} :
    flags.limit = .ok limit ↔ ∃ number, limit = some number ∧
      (Text.trimChars text.toList = [] ∧ number = .ofNat 0 ∨ WritesLimit text number) := by
  rw [Flags.limit, htext]
  dsimp only
  split
  · rename_i hnatural
    constructor
    · rintro ⟨⟩
      exact ⟨_, rfl, natural_ofText_iff.1 ⟨rfl, hnatural⟩⟩
    · rintro ⟨number, rfl, hnumber⟩
      rw [(natural_ofText_iff.2 hnumber).1]
  · rename_i hnatural
    refine iff_of_false (fun h => nomatch h) ?_
    rintro ⟨number, -, hnumber⟩
    obtain ⟨rfl, hsome⟩ := natural_ofText_iff.2 hnumber
    exact hnatural hsome

/-- A limit that is refused is named. -/
theorem limit_eq_error (htext : flags.text? "limit" = some text)
    (h : ∀ limit, flags.limit ≠ .ok limit) : flags.limit = .error (.invalidLimit text) := by
  rw [Flags.limit, htext] at h ⊢
  dsimp only at h ⊢
  split
  · rename_i hnatural
    rw [if_pos hnatural] at h
    exact absurd rfl (h _)
  · rfl

/-- Where there is an input, it depends on the limit whether the flags are accepted. -/
theorem forConvert_eq_map {input : String} (hinput : flags.text? "input" = some input)
    (hne : input ≠ "") :
    flags.forConvert = flags.limit.map fun limit =>
      ⟨input, flags.text? "out", flags.text? "advanced-out", flags.text? "report", limit,
        flags.isSet "advanced-blocking"⟩ := by
  rw [forConvert, required_eq_ok_iff.2 ⟨hinput, hne⟩]
  cases flags.limit <;> rfl

end Flags

/-- Only texts that write a natural number are accepted as the limit, and all others are refused. -/
structure OnlyNumeralsAccepted (flags : Flags) (text : String) : Prop where
  accepted : ∀ given, flags.forConvert = .ok given →
    ∃ limit, given.limit = some limit ∧ WritesLimit text limit
  refused : (∀ limit, ¬ WritesLimit text limit) → ∃ error, flags.forConvert = .error error ∧
    error.message = "--limit expects a non-negative integer, got " ++ Json.quote text

section
variable {flags : Flags} {input text : String} (hinput : flags.text? "input" = some input)
  (hne : input ≠ "") (htext : flags.text? "limit" = some text)
include hinput hne htext

/-- A limit is accepted as the number that is read from its text. -/
theorem forConvert_accepts_iff (limit : Number) :
    (∃ given, flags.forConvert = .ok given ∧ given.limit = some limit) ↔
      Text.trimChars text.toList = [] ∧ limit = .ofNat 0 ∨ WritesLimit text limit := by
  have hlimit : flags.limit = .ok (some limit) ↔ _ := Flags.limit_eq_ok_iff htext
  simp only [Option.some.injEq, exists_eq_left'] at hlimit
  rw [← hlimit, Flags.forConvert_eq_map hinput hne]
  cases flags.limit with
  | error error => simp [Except.map]
  | ok limit => simp [Except.map]

theorem exists_limit_of_forConvert {given : ConvertFlags} (h : flags.forConvert = .ok given) :
    ∃ limit, given.limit = some limit := by
  rw [Flags.forConvert_eq_map hinput hne] at h
  cases hlimit : flags.limit with
  | error error =>
    rw [hlimit] at h
    cases h
  | ok limit =>
    rw [hlimit] at h
    cases h
    obtain ⟨number, hnumber, -⟩ := (Flags.limit_eq_ok_iff htext).1 hlimit
    exact ⟨number, hnumber⟩

/-- A limit that is not accepted is refused with the reason. -/
theorem forConvert_refuses (h : ∀ given, flags.forConvert ≠ .ok given) :
    ∃ error, flags.forConvert = .error error ∧
      error.message = "--limit expects a non-negative integer, got " ++ Json.quote text := by
  rw [Flags.forConvert_eq_map hinput hne] at h ⊢
  have hlimit : flags.limit = .error (.invalidLimit text) := by
    refine Flags.limit_eq_error htext fun limit hok => ?_
    rw [hok] at h
    exact h _ rfl
  rw [hlimit]
  exact ⟨_, rfl, rfl⟩

/-- **Only texts that write a natural number are accepted as the limit, blank texts apart.**  A blank
text writes no number and is accepted as zero.  Of all other texts those are accepted that are a
numeral for a natural number without the blanks around them, as the number that they write, and the
rest is refused with the reason. -/
theorem limit_accepted_iff :
    (OnlyNumeralsAccepted flags text ↔ ∃ c ∈ text.toList, Text.isBlank c = false) ∧
    ((∀ c ∈ text.toList, Text.isBlank c = true) →
      ∃ given, flags.forConvert = .ok given ∧ given.limit = some (.ofNat 0)) ∧
    ∀ limit, WritesLimit text limit →
      ∃ given, flags.forConvert = .ok given ∧ given.limit = some limit := by
  have haccepts := forConvert_accepts_iff hinput hne htext
  have hzero (hnil : Text.trimChars text.toList = []) := (haccepts _).2 (.inl ⟨hnil, rfl⟩)
  refine ⟨⟨fun h => ?_, fun h => ?_⟩, fun hblank => hzero (Text.trimChars_eq_nil_iff.2 hblank),
    fun limit hlimit => (haccepts limit).2 (.inr hlimit)⟩
  · by_contra hblank
    have hnil : Text.trimChars text.toList = [] := by
      rw [Text.trimChars_eq_nil_iff]
      intro c hc
      by_contra hvisible
      exact hblank ⟨c, hc, Bool.eq_false_iff.2 hvisible⟩
    obtain ⟨given, hgiven, -⟩ := hzero hnil
    obtain ⟨limit, -, hlimit⟩ := h.accepted given hgiven
    have hnumeral := hlimit.numeral
    rw [hnil] at hnumeral
    exact not_numeral_nil limit hnumeral
  · have hnil : Text.trimChars text.toList ≠ [] := by
      rw [ne_eq, Text.trimChars_eq_nil_iff]
      intro hall
      obtain ⟨c, hc, hvisible⟩ := h
      rw [hall c hc] at hvisible
      cases hvisible
    have hwrites {given : ConvertFlags} (hgiven : flags.forConvert = .ok given) :
        ∃ limit, given.limit = some limit ∧ WritesLimit text limit := by
      obtain ⟨limit, hlimit⟩ := exists_limit_of_forConvert hinput hne htext hgiven
      refine ⟨limit, hlimit, ((haccepts limit).1 ⟨given, hgiven, hlimit⟩).resolve_left ?_⟩
      exact fun hblank => hnil hblank.1
    refine ⟨fun given hgiven => hwrites hgiven, fun hnone => ?_⟩
    refine forConvert_refuses hinput hne htext fun given hgiven => ?_
    obtain ⟨limit, -, hlimit⟩ := hwrites hgiven
    exact hnone limit hlimit

end

/-- A limit to the base sixteen, with blanks around it. -/
theorem limit_accepted_iff_of_base :
    let flags := (Arguments.ofList ["convert", "--input=ads.txt", "--limit", " 0x1F\t"]).flags
    OnlyNumeralsAccepted flags " 0x1F\t" ∧
      ∃ given, flags.forConvert = .ok given ∧ given.limit = some (.ofNat 31) := by
  intro flags
  have hinput : flags.text? "input" = some "ads.txt" := by decide +kernel
  have htext : flags.text? "limit" = some " 0x1F\t" := by decide +kernel
  obtain ⟨honly, -, haccepted⟩ := limit_accepted_iff hinput (by decide) htext
  have htrim : Text.trimChars " 0x1F\t".toList = ['0', 'x', '1', 'F'] := by decide
  refine ⟨honly.2 ⟨'x', by decide, by decide⟩, haccepted _ ⟨?_, ?_, by decide⟩⟩
  · rw [htrim]
    have hmark : ('x', 16) ∈ baseMarks := by decide
    exact .marked hmark rfl
  · rw [htrim]
    exact ⟨'0', by decide, by decide⟩

/-- **A blank limit is accepted**, although it is no numeral. -/
theorem blank_limit_accepted :
    let flags := (Arguments.ofList ["convert", "--input=ads.txt", "--limit="]).flags
    flags.text? "input" = some "ads.txt" ∧ flags.text? "limit" = some "" ∧
      (∃ given, flags.forConvert = .ok given ∧ given.limit = some (.ofNat 0)) ∧
      ¬ OnlyNumeralsAccepted flags "" := by
  intro flags
  have hinput : flags.text? "input" = some "ads.txt" := by decide
  have htext : flags.text? "limit" = some "" := by decide
  obtain ⟨given, hgiven, hlimit⟩ := (forConvert_accepts_iff hinput (by decide) htext _).2
    (.inl ⟨by decide, rfl⟩)
  refine ⟨hinput, htext, ⟨given, hgiven, hlimit⟩, fun honly => ?_⟩
  obtain ⟨limit, -, hwrites⟩ := honly.accepted given hgiven
  exact not_numeral_nil limit hwrites.numeral

end ContentBlocker.CommandLine
