import ContentBlocker.Proofs.Allowlist.Commas

/-!
# Gaps between commas

When entries have been cut out of the text of an array, what stands between its commas is an entry or
nothing.  A gap is where nothing stands.  The repair of commas closes the gaps: a gap at either end
that stands next to an entry goes together with its comma (`repairStart_bracketed`,
`repairEnd_bracketed`), and of what is left the runs of commas become one comma each
(`squeezeCommas_bracketed`).

So all gaps are closed but for those at an end of the array where there are two or more next to each
other.  Of these one is left (`repairCommas_bracketed`).
-/

set_option autoImplicit false
namespace ContentBlocker

open Json (bracketed)

/-! ## Words -/

/-- A text that has something other than a comma at both ends. -/
structure IsWord (s : List Char) : Prop where
  head : ∃ c t, c ≠ ',' ∧ s = c :: t
  last : ∃ t c, c ≠ ',' ∧ s = t ++ [c]

theorem IsWord.ne_nil {s : List Char} (h : IsWord s) : s ≠ [] := by
  obtain ⟨c, t, -, rfl⟩ := h.head
  exact List.cons_ne_nil c t

theorem IsWord.head?_ne {s : List Char} (h : IsWord s) (t : List Char) :
    (s ++ t).head? ≠ some ',' := by
  obtain ⟨c, u, hc, rfl⟩ := h.head
  exact fun heq => hc (Option.some.inj heq)

theorem IsWord.getLast?_ne {s : List Char} (h : IsWord s) : s.getLast? ≠ some ',' := by
  obtain ⟨t, c, hc, rfl⟩ := h.last
  rw [List.getLast?_concat]
  exact fun heq => hc (Option.some.inj heq)

theorem squeezeCommas_word_append {s : List Char} (h : IsWord s) (t : List Char) :
    squeezeCommas (s ++ t) = squeezeCommas s ++ squeezeCommas t :=
  squeezeCommas_append_of_apart fun hlast => absurd hlast h.getLast?_ne

/-- A word behind a comma. -/
theorem squeezeCommas_comma_word {s : List Char} (h : IsWord s) (t : List Char) :
    squeezeCommas (',' :: (s ++ t)) = ',' :: (squeezeCommas s ++ squeezeCommas t) := by
  rw [← List.singleton_append, squeezeCommas_append_of_apart fun _ => h.head?_ne t,
    squeezeCommas_word_append h]
  rfl

/-! ## Words and gaps between brackets -/

theorem bracketed_cons (opening closing : Char) (w : List Char) (ws : List (List Char)) :
    bracketed opening closing (w :: ws) =
      opening :: (w ++ (ws.flatMap (',' :: ·) ++ [closing])) := by
  rw [bracketed, intercalate_cons, List.cons_append, List.append_assoc]

/-- The words in a list of words and gaps. -/
def wordsOf (ws : List (List Char)) : List (List Char) :=
  ws.filter (· ≠ [])

theorem wordsOf_gap_cons (ws : List (List Char)) : wordsOf ([] :: ws) = wordsOf ws :=
  List.filter_cons_of_neg (by simp)

theorem wordsOf_cons {w : List Char} (hw : w ≠ []) (ws : List (List Char)) :
    wordsOf (w :: ws) = w :: wordsOf ws :=
  List.filter_cons_of_pos (by simpa using hw)

/-- The item, if it is there and is a gap. -/
def gapOf (item? : Option (List Char)) : List (List Char) :=
  if item? = some [] then [[]] else []

/-- The gap at the start of a list, where it is not all there is. -/
def startGap (ws : List (List Char)) : List (List Char) :=
  gapOf ws.dropLast.head?

/-- The gap at the end of a list, where it is not all there is. -/
def endGap (ws : List (List Char)) : List (List Char) :=
  gapOf ws.tail.getLast?

theorem startGap_word_cons {w : List Char} (hw : w ≠ []) (ws : List (List Char)) :
    startGap (w :: ws) = [] := by
  cases ws with
  | nil => rfl
  | cons v ws => exact if_neg fun heq => hw (Option.some.inj heq)

theorem startGap_cons {ws : List (List Char)} (hws : ws ≠ []) (w : List Char) :
    startGap (w :: ws) = gapOf (some w) := by
  rw [startGap, List.dropLast_cons_of_ne_nil hws, List.head?_cons]

theorem endGap_eq_reverse (ws : List (List Char)) : endGap ws = startGap ws.reverse := by
  rw [endGap, startGap, List.dropLast_reverse, List.head?_reverse]

theorem startGap_of_words {ws : List (List Char)} (h : ∀ w ∈ ws, w ≠ []) : startGap ws = [] := by
  cases ws with
  | nil => rfl
  | cons w ws => exact startGap_word_cons (h w List.mem_cons_self) ws

theorem endGap_of_words {ws : List (List Char)} (h : ∀ w ∈ ws, w ≠ []) : endGap ws = [] := by
  rw [endGap_eq_reverse]
  exact startGap_of_words fun w hw => h w (List.mem_reverse.1 hw)

/-- Of the commas around gaps that follow something, those before words are left, and one if there
is a gap at the end. -/
theorem squeezeCommas_behind {closing : Char} (hclosing : closing ≠ ',') {ws : List (List Char)}
    (h : ∀ w ∈ ws, w = [] ∨ IsWord w) :
    squeezeCommas (ws.flatMap (',' :: ·) ++ [closing]) =
      ((wordsOf ws).map squeezeCommas ++ gapOf ws.getLast?).flatMap (',' :: ·) ++ [closing] := by
  induction ws with
  | nil => exact squeezeCommas_cons hclosing []
  | cons w ws ih =>
    have ih := ih fun v hv => h v (List.mem_cons_of_mem w hv)
    rw [List.flatMap_cons, List.append_assoc, List.cons_append]
    rcases h w List.mem_cons_self with rfl | hw
    · rw [wordsOf_gap_cons, List.nil_append]
      cases ws with
      | nil =>
        have hlast : squeezeCommas ([','] ++ [closing]) = [','] ++ squeezeCommas [closing] :=
          squeezeCommas_append_of_apart fun _ heq => hclosing (Option.some.inj heq)
        exact hlast.trans (congrArg (',' :: ·) (squeezeCommas_cons hclosing []))
      | cons v ws =>
        rw [List.getLast?_cons_cons, ← ih, List.flatMap_cons, List.cons_append, List.cons_append,
          squeezeCommas_comma_comma]
    · rw [wordsOf_cons hw.ne_nil, squeezeCommas_comma_word hw, ih, List.map_cons,
        List.cons_append, List.flatMap_cons]
      cases ws with
      | nil => simp [gapOf, hw.ne_nil, wordsOf]
      | cons v ws => rw [List.getLast?_cons_cons, List.append_assoc, List.cons_append]

/-- **One comma is left of every run of commas around gaps.** -/
theorem squeezeCommas_bracketed {opening closing : Char} (hopening : opening ≠ ',')
    (hclosing : closing ≠ ',') {ws : List (List Char)} (h : ∀ w ∈ ws, w = [] ∨ IsWord w) :
    squeezeCommas (bracketed opening closing ws) =
      bracketed opening closing (startGap ws ++ (wordsOf ws).map squeezeCommas ++ endGap ws) := by
  have hsingle : squeezeCommas [closing] = [closing] := squeezeCommas_cons hclosing []
  cases ws with
  | nil =>
    show squeezeCommas [opening, closing] = [opening, closing]
    rw [squeezeCommas_cons hopening, hsingle]
  | cons w ws =>
    have hbehind := squeezeCommas_behind hclosing fun v hv => h v (List.mem_cons_of_mem w hv)
    rw [bracketed_cons, squeezeCommas_cons hopening]
    rcases h w List.mem_cons_self with rfl | hw
    · rw [List.nil_append, hbehind, wordsOf_gap_cons]
      cases ws with
      | nil => rfl
      | cons v ws =>
        show _ = bracketed opening closing ([] :: ((wordsOf (v :: ws)).map squeezeCommas ++ _))
        rw [bracketed_cons]
        rfl
    · rw [squeezeCommas_word_append hw, hbehind, wordsOf_cons hw.ne_nil,
        startGap_word_cons hw.ne_nil, List.nil_append, List.map_cons, List.cons_append,
        bracketed_cons]
      rfl

/-- Where there are no gaps, runs of commas are within words. -/
theorem squeezeCommas_bracketed_words {opening closing : Char} (hopening : opening ≠ ',')
    (hclosing : closing ≠ ',') {ws : List (List Char)} (h : ∀ w ∈ ws, IsWord w) :
    squeezeCommas (bracketed opening closing ws) =
      bracketed opening closing (ws.map squeezeCommas) := by
  have hne : ∀ w ∈ ws, w ≠ [] := fun w hw => (h w hw).ne_nil
  have hwords : wordsOf ws = ws := List.filter_eq_self.2 fun w hw => by simpa using hne w hw
  rw [squeezeCommas_bracketed hopening hclosing fun w hw => .inr (h w hw), startGap_of_words hne,
    endGap_of_words hne, hwords, List.nil_append, List.append_nil]

/-! ## The repair of an end -/

/-- The text of an object. -/
def IsObjectText (s : List Char) : Prop :=
  ∃ inner, s = '\x7b' :: (inner ++ ['\x7d'])

theorem IsObjectText.isWord {s : List Char} (h : IsObjectText s) : IsWord s := by
  obtain ⟨inner, rfl⟩ := h
  exact ⟨⟨_, _, by decide, rfl⟩, ⟨'\x7b' :: inner, _, by decide, rfl⟩⟩

/-- A list without the gap at its start, if a word stands next to it. -/
def dropStartGap : List (List Char) → List (List Char)
  | [] :: (c :: w) :: ws => (c :: w) :: ws
  | ws => ws

/-- A list without the gap at its end, if a word stands next to it. -/
def dropEndGap (ws : List (List Char)) : List (List Char) :=
  (dropStartGap ws.reverse).reverse

theorem bracketed_concat (opening closing : Char) (ws : List (List Char)) (w : List Char) :
    bracketed opening closing (ws ++ [w]) =
      opening :: ws.flatMap (· ++ [',']) ++ (w ++ [closing]) := by
  rw [bracketed, intercalate_append_cons]
  simp

theorem repairEnd_comma (s : List Char) :
    repairEnd (s ++ ['\x7d', ',', ']']) = s ++ ['\x7d', ']'] := by
  rw [repairEnd, if_pos (List.isSuffixOf_iff_suffix.2 (List.suffix_append _ _))]
  simp

theorem repairEnd_brace (s : List Char) :
    repairEnd (s ++ ['\x7d', ']']) = s ++ ['\x7d', ']'] := by
  rw [repairEnd, if_neg]
  intro hsuffix
  obtain ⟨t, ht⟩ := List.isSuffixOf_iff_suffix.1 hsuffix
  have hreverse := congrArg List.reverse ht
  rw [List.reverse_append, List.reverse_append] at hreverse
  cases hreverse

/-- Two gaps at the end are left alone. -/
private theorem repairEnd_gaps (ws : List (List Char)) :
    repairEnd ('[' :: ws.flatMap (· ++ [',']) ++ ([] ++ [','] ++ ([] ++ [']']))) =
      '[' :: ws.flatMap (· ++ [',']) ++ ([] ++ [','] ++ ([] ++ [']'])) := by
  rw [repairEnd, if_neg]
  intro hsuffix
  obtain ⟨t, ht⟩ := List.isSuffixOf_iff_suffix.1 hsuffix
  have hreverse := congrArg List.reverse ht
  -- what stands before the two gaps is a comma or the opening bracket
  rcases List.eq_nil_or_concat ws with rfl | ⟨us, u, rfl⟩
  · simp at hreverse
  · rw [List.concat_eq_append] at hreverse
    simp at hreverse

section
variable {ws : List (List Char)} (h : ∀ w ∈ ws, w = [] ∨ IsObjectText w)
include h

theorem repairStart_bracketed :
    repairStart (bracketed '[' ']' ws) = bracketed '[' ']' (dropStartGap ws) := by
  cases ws with
  | nil => rfl
  | cons w ws =>
    rcases h w List.mem_cons_self with rfl | ⟨inner, rfl⟩
    · cases ws with
      | nil => rfl
      | cons v ws =>
        rcases h v (List.mem_cons_of_mem _ List.mem_cons_self) with rfl | ⟨inner, rfl⟩
        · cases ws <;> rfl
        · rw [bracketed_cons, dropStartGap, bracketed_cons, List.flatMap_cons, List.append_assoc]
          rfl
    · show repairStart _ = bracketed '[' ']' (_ :: ws)
      rw [bracketed_cons]
      rfl

theorem repairEnd_bracketed :
    repairEnd (bracketed '[' ']' ws) = bracketed '[' ']' (dropEndGap ws) := by
  obtain ⟨vs, rfl⟩ : ∃ vs, ws = List.reverse vs := ⟨ws.reverse, ws.reverse_reverse.symm⟩
  rw [dropEndGap, List.reverse_reverse]
  cases vs with
  | nil => rfl
  | cons w vs =>
    rcases h w (by simp) with rfl | ⟨inner, rfl⟩
    · cases vs with
      | nil => rfl
      | cons v vs =>
        rcases h v (by simp) with rfl | ⟨inner, rfl⟩
        · show repairEnd _ = bracketed '[' ']' ([] :: [] :: vs).reverse
          rw [List.reverse_cons, bracketed_concat, List.reverse_cons, List.flatMap_append,
            List.flatMap_singleton, ← List.cons_append, List.append_assoc]
          exact repairEnd_gaps vs.reverse
        · show repairEnd _ = bracketed '[' ']' (('\x7b' :: (inner ++ ['\x7d'])) :: vs).reverse
          have hcomma := repairEnd_comma
            ('[' :: vs.reverse.flatMap (· ++ [',']) ++ '\x7b' :: inner)
          rw [List.reverse_cons, bracketed_concat, List.reverse_cons, bracketed_concat,
            List.flatMap_append, List.flatMap_singleton]
          simpa only [List.append_assoc, List.cons_append, List.nil_append] using hcomma
    · show repairEnd _ = bracketed '[' ']' (('\x7b' :: (inner ++ ['\x7d'])) :: vs).reverse
      have hbrace := repairEnd_brace ('[' :: vs.reverse.flatMap (· ++ [',']) ++ '\x7b' :: inner)
      rw [List.reverse_cons, bracketed_concat]
      simpa only [List.append_assoc, List.cons_append, List.nil_append] using hbrace

end

/-! ## Gaps that are left -/

theorem dropStartGap_cases (ws : List (List Char)) : dropStartGap ws = ws ∨
    ∃ v us, v ≠ [] ∧ ws = [] :: v :: us ∧ dropStartGap ws = v :: us := by
  cases ws with
  | nil => exact .inl rfl
  | cons w ws =>
    cases w with
    | cons c w => exact .inl rfl
    | nil =>
      cases ws with
      | nil => exact .inl rfl
      | cons v us =>
        cases v with
        | nil => exact .inl rfl
        | cons c v => exact .inr ⟨c :: v, us, List.cons_ne_nil c v, rfl, rfl⟩

theorem dropStartGap_suffix (ws : List (List Char)) : dropStartGap ws <:+ ws := by
  rcases dropStartGap_cases ws with h | ⟨v, us, -, hws, h⟩
  · exact ⟨[], h⟩
  · rw [h, hws]
    exact List.suffix_cons [] (v :: us)

theorem wordsOf_dropStartGap (ws : List (List Char)) : wordsOf (dropStartGap ws) = wordsOf ws := by
  rcases dropStartGap_cases ws with h | ⟨v, us, -, hws, h⟩
  · rw [h]
  · rw [h, hws, wordsOf_gap_cons]

theorem wordsOf_dropEndGap (ws : List (List Char)) : wordsOf (dropEndGap ws) = wordsOf ws := by
  rw [dropEndGap, wordsOf, List.filter_reverse, ← wordsOf, wordsOf_dropStartGap, wordsOf,
    List.filter_reverse, List.reverse_reverse, wordsOf]

/-- Only of two gaps or more at the start one is left. -/
theorem startGap_dropStartGap (ws : List (List Char)) :
    startGap (dropStartGap ws) = if [[], []] <+: ws then [[]] else [] := by
  cases ws with
  | nil => rfl
  | cons w ws =>
    cases ws with
    | nil => cases w <;> rfl
    | cons v us =>
      cases w with
      | cons c w => simp [dropStartGap, startGap_word_cons]
      | nil =>
        cases v with
        | nil => simp [dropStartGap, startGap_cons, gapOf]
        | cons c v => simp [dropStartGap, startGap_word_cons]

theorem startGap_dropEndGap (ws : List (List Char)) : startGap (dropEndGap ws) = startGap ws := by
  rcases dropStartGap_cases ws.reverse with h | ⟨v, us, hv, hws, h⟩
  · rw [dropEndGap, h, List.reverse_reverse]
  · obtain rfl := List.reverse_eq_iff.1 hws
    rw [dropEndGap, h]
    -- the first item stays the first one, and if it is alone then it is a word
    rcases List.eq_nil_or_concat us with rfl | ⟨us, u, rfl⟩
    · simp [startGap_word_cons hv]
    · simp [startGap_cons]

theorem endGap_dropEndGap (ws : List (List Char)) :
    endGap (dropEndGap ws) = if [[], []] <:+ ws then [[]] else [] := by
  rw [endGap_eq_reverse, dropEndGap, List.reverse_reverse, startGap_dropStartGap]
  have hreverse : [[], []] <+: ws.reverse ↔ [[], []] <:+ ws := @List.reverse_prefix _ [[], []] ws
  simp only [hreverse]

theorem gaps_suffix_dropStartGap (ws : List (List Char)) :
    [[], []] <:+ dropStartGap ws ↔ [[], []] <:+ ws := by
  rcases dropStartGap_cases ws with h | ⟨v, us, hv, hws, h⟩
  · rw [h]
  · rw [h, hws]
    refine (List.suffix_cons_iff.trans (or_iff_right fun heq => ?_)).symm
    exact hv (List.cons.inj (List.cons.inj heq).2).1.symm

/-- **The repair closes all gaps but two or more at an end**, of which one is left. -/
theorem repairCommas_bracketed {ws : List (List Char)} (h : ∀ w ∈ ws, w = [] ∨ IsObjectText w) :
    repairCommas (bracketed '[' ']' ws) = bracketed '[' ']'
      ((if [[], []] <+: ws then [[]] else []) ++ (wordsOf ws).map squeezeCommas ++
        if [[], []] <:+ ws then [[]] else []) := by
  have hstart : ∀ w ∈ dropStartGap ws, w = [] ∨ IsObjectText w :=
    fun w hw => h w ((dropStartGap_suffix ws).subset hw)
  have hend : ∀ w ∈ dropEndGap (dropStartGap ws), w = [] ∨ IsWord w := by
    intro w hw
    have hmem := (dropStartGap_suffix _).subset (List.mem_reverse.1 hw)
    exact (hstart w (List.mem_reverse.1 hmem)).imp_right IsObjectText.isWord
  rw [repairCommas, collapseCommas_eq, repairStart_bracketed h, repairEnd_bracketed hstart,
    squeezeCommas_bracketed (by decide) (by decide) hend, startGap_dropEndGap,
    startGap_dropStartGap, endGap_dropEndGap, wordsOf_dropEndGap, wordsOf_dropStartGap]
  simp only [gaps_suffix_dropStartGap]

/-! ## Cutting entries out -/

theorem Entry.isObjectText (e : Entry) : IsObjectText e.chars :=
  ⟨_, rfl⟩

end ContentBlocker
