import ContentBlocker.Proofs.Json.Tokens

/-!
# Reading what has been written

A value in which every number is a count is read back from its text, whether it is written without
white space (`CountsOnly.read_compact`) or on several lines (`CountsOnly.read_indented`).  The two
differ only in the white space between the tokens, and `readsAs_arr` and `readsAs_obj` do not say
which white space that is.

Something may stand behind the text of a value as long as it does not go on with a numeral
(`EndsBefore`).  Behind a value without numbers it can be anything, so the text of such a value says
where it ends: no such text is the start of another (`NumberFree.eq_of_chars_append_eq`), and two
values with the same text are the same.
-/

set_option autoImplicit false
namespace ContentBlocker.Json

open Text (isDigit)

/-! ## Texts that are read as a value -/

/-- What can stand behind a value: behind a number, nothing that its numeral could go on with. -/
def EndsBefore : Json → List Char → Prop
  | .number _, rest => EndsNumeral rest
  | _, _ => True

theorem EndsNumeral.endsBefore {rest : List Char} (h : EndsNumeral rest) (v : Json) :
    EndsBefore v rest := by
  cases v with
  | number => exact h
  | null | bool | str | arr | obj => trivial

/-- Whether a text is read as a value, with what stands behind it left over.  Every step of reading
takes a character, so the number of characters is fuel enough. -/
def ReadsAs (v : Json) (s : List Char) : Prop :=
  ∀ (fuel : Nat) (rest : List Char), s.length ≤ fuel → EndsBefore v rest →
    readValue fuel (s ++ rest) = some (v, rest)

/-- White space before a value is passed over. -/
theorem IsGap.readValue_append {gap : List Char} (h : IsGap gap) (fuel : Nat) (s : List Char) :
    readValue fuel (gap ++ s) = readValue fuel s := by
  cases fuel with
  | zero => rfl
  | succ fuel => rw [readValue, readValue, h.skipSpace_append]

theorem IsGap.readsAs_append {gap : List Char} (hgap : IsGap gap) {v : Json} {s : List Char}
    (h : ReadsAs v s) : ReadsAs v (gap ++ s) := by
  intro fuel rest hfuel hrest
  rw [List.length_append] at hfuel
  rw [List.append_assoc, hgap.readValue_append, h fuel rest (by omega) hrest]

/-- A text that is read as a value is that value if nothing stands behind it. -/
theorem ReadsAs.readChars_eq {v : Json} {s : List Char} (h : ReadsAs v s) :
    readChars s = some v := by
  have hread := h (s.length + 1) [] (Nat.le_succ _) (endsNumeral_nil.endsBefore v)
  rw [List.append_nil] at hread
  rw [readChars, hread]
  rfl

/-- A closing bracket does not start a value. -/
theorem readValue_closing (fuel : Nat) (s : List Char) : readValue fuel (']' :: s) = none := by
  cases fuel <;> rfl

theorem ReadsAs.skipSpace_ne_closing {v : Json} {s rest : List Char} (h : ReadsAs v s)
    (hrest : EndsBefore v rest) (t : List Char) : skipSpace (s ++ rest) ≠ ']' :: t := by
  intro hclosing
  obtain ⟨gap, hgap, hs⟩ := exists_gap (s ++ rest)
  have hread := h s.length rest (Nat.le_refl _) hrest
  rw [hs, hclosing, hgap.readValue_append, readValue_closing] at hread
  cases hread

/-! ## Items with white space between them -/

/-- Items between brackets, with one gap behind the opening bracket and behind every comma and
another before the closing bracket. -/
def spaced (gap gap' : List Char) (opening closing : Char) (items : List (List Char)) : List Char :=
  opening :: (gap ++ (',' :: gap).intercalate items ++ (gap' ++ [closing]))

theorem bracketed_eq_spaced (opening closing : Char) (items : List (List Char)) :
    bracketed opening closing items = spaced [] [] opening closing items :=
  rfl

theorem spaced_append (gap gap' : List Char) (opening closing : Char) (items : List (List Char))
    (rest : List Char) : spaced gap gap' opening closing items ++ rest =
      opening :: (gap ++ ((',' :: gap).intercalate items ++ (gap' ++ closing :: rest))) := by
  simp [spaced]

/-- If an item is read up to the comma behind it, items are read one by one up to the last. -/
theorem exists_read_last {α β : Type} {read : Nat → List α → List Char → β}
    {text : α → List Char} {gap : List Char}
    (hgap : ∀ fuel done s, read fuel done (gap ++ s) = read fuel done s) {items : List α}
    (hcomma : ∀ a ∈ items, ∀ fuel done rest, (text a).length ≤ fuel →
      read (fuel + 1) done (text a ++ ',' :: rest) = read fuel (a :: done) rest)
    (last : α) (fuel : Nat) (done : List α) (rest : List Char)
    (hfuel : ((',' :: gap).intercalate ((items ++ [last]).map text)).length < fuel) :
    ∃ fuel', (text last).length ≤ fuel' ∧
      read fuel done ((',' :: gap).intercalate ((items ++ [last]).map text) ++ rest) =
        read (fuel' + 1) (items.reverse ++ done) (text last ++ rest) := by
  induction items generalizing fuel done with
  | nil =>
    cases fuel with
    | zero => omega
    | succ fuel =>
      rw [List.nil_append, List.map_singleton, List.intercalate_singleton] at hfuel ⊢
      exact ⟨fuel, Nat.le_of_lt_succ hfuel, rfl⟩
  | cons a items ih =>
    cases fuel with
    | zero => omega
    | succ fuel =>
      have hne : (items ++ [last]).map text ≠ [] := by simp
      rw [List.cons_append, List.map_cons, List.intercalate_cons_of_ne_nil hne] at hfuel ⊢
      simp only [List.length_append, List.length_cons] at hfuel
      obtain ⟨fuel', hlast, hread⟩ := ih (fun b hb => hcomma b (List.mem_cons_of_mem a hb)) fuel
        (a :: done) (by omega)
      refine ⟨fuel', hlast, ?_⟩
      rw [List.append_assoc, List.append_assoc, List.cons_append,
        hcomma a List.mem_cons_self fuel done _ (by omega), hgap, hread, List.reverse_cons,
        List.append_assoc, List.singleton_append]

section
variable {text : Json → List Char} {gap gap' : List Char}

/-! ## Arrays -/

theorem IsGap.readElements_append (h : IsGap gap) (fuel : Nat) (read : List Json)
    (s : List Char) : readElements fuel read (gap ++ s) = readElements fuel read s := by
  cases fuel with
  | zero => rfl
  | succ fuel => rw [readElements, readElements, h.readValue_append]

theorem readValue_emptyArray (fuel : Nat) {s rest : List Char} (h : skipSpace s = ']' :: rest) :
    readValue (fuel + 1) ('[' :: s) = some (.arr [], rest) := by
  rw [readValue, skipSpace_cons rfl]
  simp only [h]

/-- An array that does not end at once is read element by element. -/
theorem readValue_openArray (fuel : Nat) {s : List Char} (h : ∀ t, skipSpace s ≠ ']' :: t) :
    readValue (fuel + 1) ('[' :: s) = readElements fuel [] s := by
  obtain ⟨gap, hgap, hs⟩ := exists_gap s
  have hread : readValue (fuel + 1) ('[' :: s) = readElements fuel [] (skipSpace s) := by
    rw [readValue, skipSpace_cons rfl]
    -- that the array does not end at once is found among the hypotheses
    simp only
  rw [hread, ← hgap.readElements_append, ← hs]

/-- One element is read, and another is looked for behind the comma. -/
theorem ReadsAs.readElements_comma {v : Json} {s : List Char} (h : ReadsAs v s) {fuel : Nat}
    (hfuel : s.length ≤ fuel) (read : List Json) (rest : List Char) :
    readElements (fuel + 1) read (s ++ ',' :: rest) = readElements fuel (v :: read) rest := by
  rw [readElements, h _ _ hfuel ((endsNumeral_cons rfl _).endsBefore v)]
  simp only [skipSpace_cons (c := ',') rfl]

/-- The last element is read, and the end of the array behind it. -/
theorem ReadsAs.readElements_closing {v : Json} {s : List Char} (h : ReadsAs v s) {fuel : Nat}
    (hfuel : s.length ≤ fuel) (hgap : IsGap gap') (read : List Json) (rest : List Char) :
    readElements (fuel + 1) read (s ++ (gap' ++ ']' :: rest)) =
      some (.arr (v :: read).reverse, rest) := by
  rw [readElements, h _ _ hfuel ((hgap.endsNumeral rfl _).endsBefore v)]
  simp only [hgap.skipSpace_append, skipSpace_cons (c := ']') rfl]

/-- Elements are read one by one up to the last. -/
theorem exists_readElements_last (hgap : IsGap gap) {vs : List Json}
    (h : ∀ v ∈ vs, ReadsAs v (text v)) (last : Json) (fuel : Nat) (rest : List Char)
    (hfuel : ((',' :: gap).intercalate ((vs ++ [last]).map text)).length < fuel) :
    ∃ fuel', (text last).length ≤ fuel' ∧
      readElements fuel [] ((',' :: gap).intercalate ((vs ++ [last]).map text) ++ rest) =
        readElements (fuel' + 1) vs.reverse (text last ++ rest) := by
  have hread := exists_read_last hgap.readElements_append
    (fun v hv fuel read rest hfuel => (h v hv).readElements_comma hfuel read rest) last fuel [] rest
    hfuel
  rwa [List.append_nil] at hread

variable (gap) in
/-- Elements do not begin with a closing bracket. -/
theorem skipSpace_elements_ne {vs : List Json} {last : Json}
    (h : ∀ v ∈ vs ++ [last], ReadsAs v (text v)) {rest : List Char} (hrest : EndsNumeral rest)
    (t : List Char) :
    skipSpace ((',' :: gap).intercalate ((vs ++ [last]).map text) ++ rest) ≠ ']' :: t := by
  cases vs with
  | nil =>
    rw [List.nil_append, List.map_singleton, List.intercalate_singleton]
    exact (h last (List.mem_singleton_self last)).skipSpace_ne_closing (hrest.endsBefore last) t
  | cons v vs =>
    have hne : (vs ++ [last]).map text ≠ [] := by simp
    rw [List.cons_append, List.map_cons, List.intercalate_cons_of_ne_nil hne, List.append_assoc,
      List.append_assoc, List.cons_append]
    exact (h v List.mem_cons_self).skipSpace_ne_closing ((endsNumeral_cons rfl _).endsBefore v) t

/-- **An array is read if its elements are**, whatever white space stands between them. -/
theorem readsAs_arr (hgap : IsGap gap) (hgap' : IsGap gap') {vs : List Json}
    (h : ∀ v ∈ vs, ReadsAs v (text v)) :
    ReadsAs (.arr vs) (spaced gap gap' '[' ']' (vs.map text)) := by
  intro fuel rest hfuel _
  cases fuel with
  | zero => cases hfuel
  | succ fuel =>
    rw [spaced_append]
    rcases List.eq_nil_or_concat vs with rfl | ⟨vs, last, rfl⟩
    · rw [List.map_nil, List.intercalate_nil, List.nil_append, readValue_emptyArray]
      rw [hgap.skipSpace_append, hgap'.skipSpace_append, skipSpace_cons rfl]
    · rw [List.concat_eq_append] at h hfuel ⊢
      have hlast := h last (List.mem_append_right vs (List.mem_singleton_self last))
      have hopen := skipSpace_elements_ne gap h (hgap'.endsNumeral (c := ']') rfl rest)
      simp only [spaced, List.length_append, List.length_cons] at hfuel
      obtain ⟨fuel', hfuel', hread⟩ := exists_readElements_last hgap
        (fun v hv => h v (List.mem_append_left _ hv)) last fuel (gap' ++ ']' :: rest) (by omega)
      rw [readValue_openArray fuel (by rwa [hgap.skipSpace_append]), hgap.readElements_append,
        hread, hlast.readElements_closing hfuel' hgap', List.reverse_cons, List.reverse_reverse]

/-! ## Objects -/

/-- The text of a member of an object, given those of values. -/
def memberText (text : Json → List Char) (m : String × Json) : List Char :=
  quoteChars m.1.toList ++ ':' :: text m.2

theorem IsGap.readMembers_append (h : IsGap gap) (fuel : Nat) (read : List (String × Json))
    (s : List Char) : readMembers fuel read (gap ++ s) = readMembers fuel read s := by
  cases fuel with
  | zero => rfl
  | succ fuel => rw [readMembers, readMembers, h.skipSpace_append]

theorem readValue_emptyObject (fuel : Nat) {s rest : List Char}
    (h : skipSpace s = '\x7d' :: rest) : readValue (fuel + 1) ('\x7b' :: s) = some (.obj [], rest) := by
  rw [readValue, skipSpace_cons rfl]
  simp only [h]

/-- An object that begins with the mark of a name is read member by member. -/
theorem readValue_openObject (hgap : IsGap gap) (fuel : Nat) (s : List Char) :
    readValue (fuel + 1) ('\x7b' :: (gap ++ '"' :: s)) = readMembers fuel [] ('"' :: s) := by
  have hopen : skipSpace (gap ++ '"' :: s) = '"' :: s := by
    rw [hgap.skipSpace_append, skipSpace_cons rfl]
  rw [readValue, skipSpace_cons rfl]
  simp only [hopen]
  rfl

/-- One member is read, and another member or the end of the object is found behind its value. -/
theorem readMembers_memberText {m : String × Json} (h : ReadsAs m.2 (text m.2)) {fuel : Nat}
    (hfuel : (memberText text m).length ≤ fuel) (read : List (String × Json)) {rest : List Char}
    (hrest : EndsNumeral rest) (s : List Char) :
    (skipSpace rest = ',' :: s →
        readMembers (fuel + 1) read (memberText text m ++ rest) = readMembers fuel (m :: read) s) ∧
      (skipSpace rest = '\x7d' :: s →
        readMembers (fuel + 1) read (memberText text m ++ rest) =
          some (.obj (m :: read).reverse, s)) := by
  obtain ⟨name, v⟩ := m
  have hv : (text v).length ≤ fuel := by
    simp only [memberText, List.length_append, List.length_cons] at hfuel
    omega
  have htext : memberText text (name, v) ++ rest =
      '"' :: (name.toList.flatMap escapeChar ++ '"' :: ':' :: (text v ++ rest)) := by
    simp [memberText, quoteChars]
  have hname : readString (name.toList.flatMap escapeChar ++ '"' :: ':' :: (text v ++ rest)) =
      some (name, ':' :: (text v ++ rest)) := by
    rw [readString_flatMap_escapeChar, String.ofList_toList]
  have hvalue : readValue fuel (text v ++ rest) = some (v, rest) :=
    h fuel rest hv (hrest.endsBefore v)
  rw [htext, readMembers, skipSpace_cons rfl]
  refine ⟨fun hs => ?comma, fun hs => ?closing⟩
  all_goals simp only [hname, skipSpace_cons (c := ':') rfl, hvalue, hs]

/-- **An object is read if the values of its members are**, whatever white space stands between
them. -/
theorem readsAs_obj (hgap : IsGap gap) (hgap' : IsGap gap') {ms : List (String × Json)}
    (h : ∀ m ∈ ms, ReadsAs m.2 (text m.2)) :
    ReadsAs (.obj ms) (spaced gap gap' '\x7b' '\x7d' (ms.map (memberText text))) := by
  intro fuel rest hfuel _
  cases fuel with
  | zero => cases hfuel
  | succ fuel =>
    rw [spaced_append]
    rcases List.eq_nil_or_concat ms with rfl | ⟨ms, last, rfl⟩
    · rw [List.map_nil, List.intercalate_nil, List.nil_append, readValue_emptyObject]
      rw [hgap.skipSpace_append, hgap'.skipSpace_append, skipSpace_cons rfl]
    · rw [List.concat_eq_append] at h hfuel ⊢
      have hlast := h last (List.mem_append_right ms (List.mem_singleton_self last))
      simp only [spaced, List.length_append, List.length_cons] at hfuel
      have hcomma : ∀ m ∈ ms, ∀ fuel read rest, (memberText text m).length ≤ fuel →
          readMembers (fuel + 1) read (memberText text m ++ ',' :: rest) =
            readMembers fuel (m :: read) rest := by
        intro m hm fuel read rest hfuel
        exact (readMembers_memberText (h m (List.mem_append_left _ hm)) hfuel read
          (endsNumeral_cons rfl rest) rest).1 (skipSpace_cons rfl rest)
      have hclosing : skipSpace (gap' ++ '\x7d' :: rest) = '\x7d' :: rest := by
        rw [hgap'.skipSpace_append, skipSpace_cons rfl]
      obtain ⟨fuel', hfuel', hread⟩ := exists_read_last hgap.readMembers_append hcomma last fuel []
        (gap' ++ '\x7d' :: rest) (by omega)
      obtain ⟨t, ht⟩ : ∃ t, (',' :: gap).intercalate ((ms ++ [last]).map (memberText text)) ++
          (gap' ++ '\x7d' :: rest) = '"' :: t := by
        cases ms <;> simp [memberText, quoteChars, List.intercalate_cons_of_ne_nil]
      rw [ht, readValue_openObject hgap, ← ht, hread,
        (readMembers_memberText hlast hfuel' _ (hgap'.endsNumeral rfl rest) rest).2 hclosing]
      simp

end

/-! ## Values -/

/-- Values without numbers in them. -/
inductive NumberFree : Json → Prop
  | null : NumberFree .null
  | bool (b : Bool) : NumberFree (.bool b)
  | str (s : String) : NumberFree (.str s)
  | arr {vs : List Json} (h : ∀ v ∈ vs, NumberFree v) : NumberFree (.arr vs)
  | obj {ms : List (String × Json)} (h : ∀ m ∈ ms, NumberFree m.2) : NumberFree (.obj ms)

/-- Values in which every number is a count. -/
inductive CountsOnly : Json → Prop
  | null : CountsOnly .null
  | bool (b : Bool) : CountsOnly (.bool b)
  | count (n : Nat) : CountsOnly (.ofNat n)
  | str (s : String) : CountsOnly (.str s)
  | arr {vs : List Json} (h : ∀ v ∈ vs, CountsOnly v) : CountsOnly (.arr vs)
  | obj {ms : List (String × Json)} (h : ∀ m ∈ ms, CountsOnly m.2) : CountsOnly (.obj ms)

theorem NumberFree.countsOnly {v : Json} (h : NumberFree v) : CountsOnly v := by
  induction h with
  | null => exact .null
  | bool b => exact .bool b
  | str s => exact .str s
  | arr _ ih => exact .arr ih
  | obj _ ih => exact .obj ih

attribute [simp] CountsOnly.null CountsOnly.bool CountsOnly.count CountsOnly.str

@[simp] theorem countsOnly_arr {vs : List Json} :
    CountsOnly (.arr vs) ↔ ∀ v ∈ vs, CountsOnly v :=
  ⟨fun | .arr h => h, .arr⟩

@[simp] theorem countsOnly_obj {ms : List (String × Json)} :
    CountsOnly (.obj ms) ↔ ∀ m ∈ ms, CountsOnly m.2 :=
  ⟨fun | .obj h => h, .obj⟩

/-- Anything can stand behind a value without numbers. -/
theorem NumberFree.endsBefore {v : Json} (h : NumberFree v) (rest : List Char) :
    EndsBefore v rest := by
  cases h <;> trivial

theorem readsAs_null : ReadsAs .null (chars .null) := by
  intro fuel rest hfuel _
  cases fuel with
  | zero => cases hfuel
  | succ fuel => rfl

theorem readsAs_bool (b : Bool) : ReadsAs (.bool b) (chars (.bool b)) := by
  intro fuel rest hfuel _
  cases fuel with
  | zero => cases b <;> cases hfuel
  | succ fuel => cases b <;> rfl

theorem readsAs_str (s : String) : ReadsAs (.str s) (chars (.str s)) := by
  intro fuel rest hfuel _
  cases fuel with
  | zero => cases hfuel
  | succ fuel =>
    have htext : chars (.str s) ++ rest = '"' :: (s.toList.flatMap escapeChar ++ '"' :: rest) := by
      simp [chars, quoteChars]
    rw [htext, readValue, skipSpace_cons rfl]
    simp only [readString_flatMap_escapeChar, String.ofList_toList, Option.map_some]

/-- A value that begins with a digit is a number. -/
theorem readValue_of_isDigit {d : Char} (h : isDigit 10 d = true) (fuel : Nat) (s : List Char) :
    readValue (fuel + 1) (d :: s) = readNumber (d :: s) := by
  have hspace : isSpace d = false := Bool.eq_false_iff.2 fun hd => by
    have hgo := goesOn_of_isSpace hd
    rw [goesOn, h] at hgo
    cases hgo
  rw [readValue, skipSpace_cons hspace]
  split
  iterate 6 (rename_i heq; cases heq; cases h)
  rfl

theorem readsAs_count (n : Nat) : ReadsAs (.ofNat n) (chars (.ofNat n)) := by
  intro fuel rest hfuel hrest
  have htext : chars (.ofNat n) = Nat.toDigits 10 n := Nat.toList_repr
  obtain ⟨d, digits, hdigits⟩ := List.exists_cons_of_ne_nil (Nat.toDigits_ne_nil (n := n))
  have hread := readNumber_toDigits n hrest
  rw [htext, hdigits] at hfuel ⊢
  rw [hdigits] at hread
  cases fuel with
  | zero => cases hfuel
  | succ fuel =>
    have hd : isDigit 10 d = true := isDigit_of_mem_toDigits (hdigits ▸ List.mem_cons_self)
    rw [List.cons_append, readValue_of_isDigit hd]
    exact hread

/-! ## Values without white space -/

theorem chars_obj (ms : List (String × Json)) :
    chars (.obj ms) = bracketed '\x7b' '\x7d' (ms.map (memberText chars)) := by
  rw [chars, memberChars_eq_map]
  rfl

/-- **What is written without white space is read back.** -/
theorem CountsOnly.readsAs_chars {v : Json} (h : CountsOnly v) : ReadsAs v (chars v) := by
  induction h with
  | null => exact readsAs_null
  | bool b => exact readsAs_bool b
  | count n => exact readsAs_count n
  | str s => exact readsAs_str s
  | @arr vs _ ih =>
    rw [chars_arr, bracketed_eq_spaced]
    exact readsAs_arr isGap_nil isGap_nil ih
  | @obj ms _ ih =>
    rw [chars_obj, bracketed_eq_spaced]
    exact readsAs_obj isGap_nil isGap_nil ih

/-- A text that is a value without white space is read as that value. -/
theorem CountsOnly.read_compact {v : Json} (h : CountsOnly v) : read v.compact = some v := by
  rw [read, compact, String.toList_ofList, h.readsAs_chars.readChars_eq]

theorem NumberFree.read_compact {v : Json} (h : NumberFree v) : read v.compact = some v :=
  h.countsOnly.read_compact

/-- **A text ends where its value ends**: no text of a value is the start of another one. -/
theorem NumberFree.eq_of_chars_append_eq {v w : Json} (hv : NumberFree v) (hw : NumberFree w)
    {x y : List Char} (h : chars v ++ x = chars w ++ y) : v = w ∧ x = y := by
  have hreadv := hv.countsOnly.readsAs_chars ((chars v).length + (chars w).length) x (by omega)
    (hv.endsBefore x)
  have hreadw := hw.countsOnly.readsAs_chars ((chars v).length + (chars w).length) y (by omega)
    (hw.endsBefore y)
  rw [h, hreadw] at hreadv
  simpa [eq_comm] using hreadv

/-! ## Values on several lines -/

theorem isGap_newLine (level : Nat) : IsGap (newLine level) := by
  intro c hc
  rcases List.mem_cons.1 hc with rfl | hc
  · rfl
  · rw [List.eq_of_mem_replicate hc]
    rfl

/-- A block is items with white space between them. -/
theorem exists_blockOf_eq_spaced (level : Nat) (opening closing : Char)
    (items : List (List Char)) : ∃ gap gap', IsGap gap ∧ IsGap gap' ∧
      blockOf level opening closing items = spaced gap gap' opening closing items := by
  cases items with
  | nil => exact ⟨[], [], isGap_nil, isGap_nil, rfl⟩
  | cons item items =>
    refine ⟨newLine (level + 1), newLine level, isGap_newLine _, isGap_newLine _, ?_⟩
    simp [blockOf, spaced]

theorem indentedElements_eq_map (level : Nat) (vs : List Json) :
    indentedElements level vs = vs.map (indentedChars level) := by
  induction vs with
  | nil => rfl
  | cons v vs ih => rw [indentedElements, ih, List.map_cons]

theorem indentedMembers_eq_map (level : Nat) (ms : List (String × Json)) :
    indentedMembers level ms = ms.map (memberText fun v => ' ' :: indentedChars level v) := by
  induction ms with
  | nil => rfl
  | cons m ms ih =>
    rw [indentedMembers, ih, List.map_cons]
    rfl

/-- **What is written on several lines is read back.** -/
theorem CountsOnly.readsAs_indentedChars {v : Json} (h : CountsOnly v) (level : Nat) :
    ReadsAs v (indentedChars level v) := by
  induction h generalizing level with
  | null => exact readsAs_null
  | bool b => exact readsAs_bool b
  | count n => exact readsAs_count n
  | str s => exact readsAs_str s
  | @arr vs _ ih =>
    obtain ⟨gap, gap', hgap, hgap', htext⟩ :=
      exists_blockOf_eq_spaced level '[' ']' (vs.map (indentedChars (level + 1)))
    rw [indentedChars, indentedElements_eq_map, htext]
    exact readsAs_arr hgap hgap' fun v hv => ih v hv (level + 1)
  | @obj ms _ ih =>
    have hspace : IsGap [' '] := by
      rintro c (_ | ⟨_, ⟨⟩⟩)
      rfl
    obtain ⟨gap, gap', hgap, hgap', htext⟩ := exists_blockOf_eq_spaced level '\x7b' '\x7d'
      (ms.map (memberText fun v => ' ' :: indentedChars (level + 1) v))
    rw [indentedChars, indentedMembers_eq_map, htext]
    exact readsAs_obj hgap hgap' fun m hm => hspace.readsAs_append (ih m hm (level + 1))

/-- A text that is a value on several lines is read as that value. -/
theorem CountsOnly.read_indented {v : Json} (h : CountsOnly v) : read v.indented = some v := by
  rw [read, indented, String.toList_ofList, (h.readsAs_indentedChars 0).readChars_eq]

/-! ## Commas next to brackets -/

/-- A comma does not start a value. -/
theorem readValue_comma (fuel : Nat) (s : List Char) : readValue fuel (',' :: s) = none := by
  cases fuel <;> rfl

private theorem readElements_eq_none {s : List Char} (h : ∀ fuel, readValue fuel s = none)
    (fuel : Nat) (read : List Json) : readElements fuel read s = none := by
  cases fuel with
  | zero => rfl
  | succ fuel => rw [readElements, h]

/-- **An array with a comma behind its opening bracket is not read.** -/
theorem readChars_comma_first (s : List Char) : readChars ('[' :: ',' :: s) = none := by
  have hopen (t : List Char) : skipSpace (',' :: s) ≠ ']' :: t := by
    rw [skipSpace_cons rfl]
    simp
  rw [readChars, readValue_openArray _ hopen,
    readElements_eq_none fun fuel => readValue_comma fuel s]

/-- **An array with a comma before its closing bracket is not read.** -/
theorem readChars_comma_last {vs : List Json} (h : ∀ v ∈ vs, NumberFree v) (hne : vs ≠ []) :
    readChars ('[' :: ([','].intercalate (vs.map chars) ++ [',', ']'])) = none := by
  obtain ⟨vs, last, rfl⟩ := (List.eq_nil_or_concat vs).resolve_left hne
  rw [List.concat_eq_append] at h ⊢
  have hreads : ∀ v ∈ vs ++ [last], ReadsAs v (chars v) := fun v hv =>
    (h v hv).countsOnly.readsAs_chars
  have hend : EndsNumeral [',', ']'] := endsNumeral_cons rfl _
  obtain ⟨fuel, hfuel, hread⟩ := exists_readElements_last isGap_nil
    (fun v hv => hreads v (List.mem_append_left _ hv)) last _ [',', ']']
    (Nat.lt_succ_of_le (List.prefix_append _ [',', ']']).length_le)
  rw [readChars, List.length_cons, readValue_openArray _ (skipSpace_elements_ne [] hreads hend),
    hread, (hreads last (by simp)).readElements_comma hfuel,
    readElements_eq_none fun fuel => readValue_closing fuel []]

end ContentBlocker.Json
