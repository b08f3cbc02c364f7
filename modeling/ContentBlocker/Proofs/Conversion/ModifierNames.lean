import ContentBlocker.Proofs.Conversion.Limit
import ContentBlocker.Proofs.Conversion.Ordering

/-!
# The names of modifiers

A network rule is read only if its modifiers have names that are known.  Those that are documented
are `Modifier.documentedNames`, but two more words are accepted where a content type is named
(`Modifier.reservedNames`).

* A rule names content types other than the documented ones exactly if one of its modifiers has a
  reserved name (`NetworkLine.documented_iff`).
* A reserved name that a rule asks for and does not exclude becomes a kind of resources without a
  name (`Rule.lists_unnamed_iff_of_compile`), which is written as `null` among the names of the others
  (`Json.forall_listedResourceTypes_iff`).

Both together are `documented_modifiers_iff`.
-/

set_option autoImplicit false
namespace ContentBlocker

namespace Modifier

/-! ## Names -/

/-- The names by which modifiers are documented. -/
def documentedNames : List String :=
  ["all", "image", "stylesheet", "css", "script", "media", "xmlhttprequest", "xhr", "other",
   "websocket", "ping", "font", "subdocument", "frame", "object", "object-subrequest", "webrtc",
   "third-party", "3p", "first-party", "1p", "match-case", "domain", "document", "doc", "replace"]

/-- The words that are accepted although they name inherited properties and no content types. -/
def reservedNames : List String :=
  [(ContentType.reserved .constructorWord).name, (ContentType.reserved .prototypeWord).name]

theorem not_documented_of_reserved {name : String} (h : name ∈ reservedNames) :
    name ∉ documentedNames := by
  revert name
  decide

/-- The name of a modifier in lower case, without a tilde and a value. -/
def writtenName (s : List Char) : String :=
  (split s).2.1

/-- What a name that a content type goes by has to do with it. -/
theorem name_of_ofModifier? {name : String} {type : ContentType}
    (h : ContentType.ofModifier? name = some type) :
    (name ∈ documentedNames ∧ type ∈ ContentType.documented) ∨
      name ∈ reservedNames ∧ type ∉ ContentType.documented := by
  obtain ⟨before, after, hnames, -⟩ := List.lookup_eq_some_iff.1 h
  have hmem : (name, type) ∈ ContentType.modifierNames := by
    rw [hnames]
    exact List.mem_append_right _ List.mem_cons_self
  have hall : ∀ p ∈ ContentType.modifierNames,
      (p.1 ∈ documentedNames ∧ p.2 ∈ ContentType.documented) ∨
        p.1 ∈ reservedNames ∧ p.2 ∉ ContentType.documented := by decide
  exact hall (name, type) hmem

/-- Whether the content type that a modifier names, if it names one, is documented. -/
def NamesDocumented (modifier : Modifier) : Prop :=
  ∀ negated type, modifier = .contentType negated type → type ∈ ContentType.documented

/-- **A modifier that is read has a documented name**, or else a reserved one, and then it names no
documented content type. -/
theorem name_of_ofChars {s : List Char} {modifier : Modifier} (h : ofChars s = .ok modifier) :
    (writtenName s ∈ documentedNames ∧ modifier.NamesDocumented) ∨
      writtenName s ∈ reservedNames ∧ ¬ modifier.NamesDocumented := by
  have hnamed := named_of_ofChars h
  have hparty : ∀ name ∈ partyNames, name ∈ documentedNames := by decide
  have hdocument : ∀ name ∈ documentNames, name ∈ documentedNames := by decide
  rw [writtenName]
  generalize (split s).2.1 = name at hnamed
  cases hnamed with
  | domain => exact .inl ⟨by decide, nofun⟩
  | party hname => exact .inl ⟨hparty _ hname, nofun⟩
  | matchCase => exact .inl ⟨by decide, nofun⟩
  | document hname => exact .inl ⟨hdocument _ hname, nofun⟩
  | replace => exact .inl ⟨by decide, nofun⟩
  | contentType htype =>
    rcases name_of_ofModifier? htype with ⟨hname, hdocumented⟩ | ⟨hname, hnot⟩
    · refine .inl ⟨hname, fun _ type' heq => ?_⟩
      cases heq
      exact hdocumented
    · exact .inr ⟨hname, fun hall => hnot (hall _ _ rfl)⟩

/-- The names of a list of modifiers. -/
def writtenNames (s : List Char) : List String :=
  (parts s).map writtenName

section
variable {s : List Char} {modifiers : List Modifier} (h : readList s = .ok modifiers)
include h

theorem mem_names_of_readList :
    ∀ name ∈ writtenNames s, name ∈ documentedNames ∨ name ∈ reservedNames := by
  intro name hname
  obtain ⟨part, hpart, rfl⟩ := List.mem_map.1 hname
  obtain ⟨modifier, -, hmodifier⟩ := exists_mem_of_mapM h part hpart
  exact (name_of_ofChars hmodifier).imp And.left And.left

/-- The names of modifiers are documented exactly if all content types are that they name. -/
theorem documented_iff_of_readList : (∀ name ∈ writtenNames s, name ∈ documentedNames) ↔
    ∀ modifier ∈ modifiers, modifier.NamesDocumented := by
  constructor
  · intro hnames modifier hmodifier
    obtain ⟨part, hpart, hread⟩ := exists_of_mem_mapM h modifier hmodifier
    have hname := hnames _ (List.mem_map_of_mem hpart)
    rcases name_of_ofChars hread with ⟨-, hdocumented⟩ | ⟨hreserved, -⟩
    · exact hdocumented
    · exact absurd hname (not_documented_of_reserved hreserved)
  · intro hall name hname
    obtain ⟨part, hpart, rfl⟩ := List.mem_map.1 hname
    obtain ⟨modifier, hmodifier, hread⟩ := exists_mem_of_mapM h part hpart
    rcases name_of_ofChars hread with ⟨hname, -⟩ | ⟨-, hnot⟩
    · exact hname
    · exact absurd (hall modifier hmodifier) hnot

end

/-- The content types of a rule are those that its modifiers name, and `document`. -/
theorem documented_types_iff (isException : Bool) (pattern : String) (regex : Option String)
    (modifiers : List Modifier) :
    let rule := toNetworkRule isException pattern regex modifiers
    (∀ type ∈ rule.permittedTypes ++ rule.restrictedTypes, type ∈ ContentType.documented) ↔
      ∀ modifier ∈ modifiers, modifier.NamesDocumented := by
  intro rule
  constructor
  · rintro hall modifier hmodifier negated type rfl
    refine hall type (List.mem_append.2 ?_)
    cases negated with
    | false => exact .inl (List.mem_filterMap.2 ⟨_, hmodifier, rfl⟩)
    | true => exact .inr (List.mem_filterMap.2 ⟨_, hmodifier, rfl⟩)
  · intro hall type htype
    rcases List.mem_append.1 htype with htype | htype
    · obtain ⟨modifier, hmodifier, htype⟩ := List.mem_filterMap.1 htype
      rw [permittedType?.eq_def] at htype
      split at htype
      · obtain ⟨-, heq⟩ := Option.ite_none_left_eq_some.1 htype
        cases heq
        decide
      · cases htype
        exact hall _ hmodifier _ _ rfl
      · cases htype
    · obtain ⟨modifier, hmodifier, htype⟩ := List.mem_filterMap.1 htype
      rw [restrictedType?.eq_def] at htype
      split at htype
      · cases htype
        decide
      · cases htype
        exact hall _ hmodifier _ _ rfl
      · cases htype

end Modifier

namespace Rule

/-- The names of the modifiers of a network rule on a line. -/
def writtenNames (line : String) : List String :=
  Modifier.writtenNames (splitModifiers (splitException (Text.trimChars line.toList)).2).2

end Rule

/-- A line with the network rule that is read from it. -/
structure NetworkLine where
  line : String
  rule : Rule
  network : NetworkRule
  read : Rule.ofText? line = .ok (some rule)
  body : rule.body = .network network

namespace NetworkLine

/-- All modifiers have documented names. -/
def HasDocumentedNames (l : NetworkLine) : Prop :=
  ∀ name ∈ Rule.writtenNames l.line, name ∈ Modifier.documentedNames

/-- All content types of the rule are documented. -/
def HasDocumentedTypes (l : NetworkLine) : Prop :=
  ∀ type ∈ l.network.permittedTypes ++ l.network.restrictedTypes, type ∈ ContentType.documented

/-- The modifiers of the line are read, and the rule is made from them. -/
theorem exists_ofModifiers (l : NetworkLine) : ∃ modifiers,
    Modifier.readList (splitModifiers (splitException (Text.trimChars l.line.toList)).2).2 =
      .ok modifiers ∧
    l.rule = Rule.ofModifiers (Text.trimChars l.line.toList) modifiers :=
  Rule.ofNetwork_eq_ok_iff.1 (Rule.ofNetwork_of_body l.read l.body)

theorem exists_modifiers (l : NetworkLine) : ∃ isException pattern regex modifiers,
    Modifier.readList (splitModifiers (splitException (Text.trimChars l.line.toList)).2).2 =
      .ok modifiers ∧
    l.network = Modifier.toNetworkRule isException pattern regex modifiers := by
  obtain ⟨modifiers, hmodifiers, hrule⟩ := l.exists_ofModifiers
  have hbody : (Rule.ofModifiers _ modifiers).body = .network l.network := hrule ▸ l.body
  exact ⟨_, _, _, modifiers, hmodifiers, (RuleBody.network.inj hbody).symm⟩

/-- **All modifiers of a network rule have documented or reserved names.** -/
theorem mem_names (l : NetworkLine) : ∀ name ∈ Rule.writtenNames l.line,
    name ∈ Modifier.documentedNames ∨ name ∈ Modifier.reservedNames := by
  obtain ⟨_, _, _, _, hmodifiers, -⟩ := l.exists_modifiers
  exact Modifier.mem_names_of_readList hmodifiers

/-- **Its names are documented exactly if its content types are.** -/
theorem documented_iff (l : NetworkLine) : l.HasDocumentedNames ↔ l.HasDocumentedTypes := by
  obtain ⟨_, _, _, _, hmodifiers, hnetwork⟩ := l.exists_modifiers
  rw [HasDocumentedTypes, hnetwork]
  exact (Modifier.documented_iff_of_readList hmodifiers).trans
    (Modifier.documented_types_iff _ _ _ _).symm

end NetworkLine

/-! ## Kinds of resources -/

/-- Of the content types that a trigger can list only the reserved ones have no name there. -/
theorem ContentType.resourceType_eq_unnamed_iff {type : ContentType} (hall : type ≠ .all)
    (hsupported : type.isUnsupported = false) :
    type.resourceType = .unnamed ↔ type ∉ documented := by
  cases type <;> simp_all [resourceType, isUnsupported, documented]

/-- A rule asks for a content type that is not documented, and does not exclude it. -/
def NetworkRule.AsksForReserved (rule : NetworkRule) : Prop :=
  .all ∉ rule.permittedTypes ∧
    ∃ type ∈ rule.permittedTypes, type ∉ ContentType.documented ∧ type ∉ rule.restrictedTypes

theorem NetworkRule.not_asksForReserved {rule : NetworkRule}
    (h : isUnrestricted rule.permittedTypes = true) : ¬ rule.AsksForReserved := by
  rintro ⟨hall, type, htype, -⟩
  have hrestricted := isUnrestricted_eq_false_iff.2 ⟨List.ne_nil_of_mem htype, hall⟩
  rw [h] at hrestricted
  cases hrestricted

/-- **A trigger lists a kind without a name exactly if its rule asks for a reserved word.** -/
theorem NetworkRule.lists_unnamed_iff {rule : NetworkRule} {types? : Option (List ResourceType)}
    (h : resourceTypes rule.permittedTypes rule.restrictedTypes rule.isReplace = .ok types?) :
    (∃ types, types? = some types ∧ .unnamed ∈ types) ↔ rule.AsksForReserved := by
  obtain ⟨hsupported, ⟨rfl, hunrestricted⟩ | ⟨-, rfl⟩⟩ := resourceTypes_cases h
  · exact iff_of_false (fun ⟨_, htypes, _⟩ => nomatch htypes) (not_asksForReserved hunrestricted)
  · have hmem : (∃ types, some ((remainingTypes rule.permittedTypes rule.restrictedTypes).map
          ContentType.resourceType).eraseDups = some types ∧ .unnamed ∈ types) ↔
        ∃ type ∈ declaredTypes rule.permittedTypes, type ∉ rule.restrictedTypes ∧
          type.resourceType = .unnamed := by
      simp [remainingTypes, List.mem_eraseDups, and_assoc]
    rw [hmem, declaredTypes]
    cases hunrestricted : isUnrestricted rule.permittedTypes with
    | true =>
      refine iff_of_false ?_ (not_asksForReserved hunrestricted)
      rintro ⟨type, htype, -, hunnamed⟩
      rw [if_pos rfl] at htype
      revert type
      decide
    | false =>
      obtain ⟨-, hall⟩ := isUnrestricted_eq_false_iff.1 hunrestricted
      rw [if_neg Bool.false_ne_true, AsksForReserved, and_iff_right hall]
      constructor
      · rintro ⟨type, htype, hrestricted, hunnamed⟩
        have hpermitted := (List.mem_filter.1 htype).1
        have hne : type ≠ .all := fun heq => hall (heq ▸ hpermitted)
        exact ⟨type, hpermitted, (ContentType.resourceType_eq_unnamed_iff hne
          (hsupported type hpermitted)).1 hunnamed, hrestricted⟩
      · rintro ⟨type, hpermitted, hdocumented, hrestricted⟩
        have hne : type ≠ .all := fun heq => hall (heq ▸ hpermitted)
        refine ⟨type, List.mem_filter.2 ⟨hpermitted, ?_⟩, hrestricted,
          (ContentType.resourceType_eq_unnamed_iff hne (hsupported type hpermitted)).2 hdocumented⟩
        rw [hsupported type hpermitted, bne_iff_ne.2 hne]
        rfl

namespace Rule

/-- A network rule asks for a content type that is not documented, and does not exclude it. -/
def AsksForReserved (rule : Rule) : Prop :=
  ∃ network, rule.body = .network network ∧ network.AsksForReserved

/-- **An entry lists a kind of resources without a name exactly if its rule asks for a reserved
word.** -/
theorem lists_unnamed_iff_of_compile {rule : Rule} {advanced : Bool} {e : Entry}
    (h : rule.compile advanced = .ok e) :
    (∃ types, e.trigger.resourceType = some types ∧ .unnamed ∈ types) ↔ rule.AsksForReserved := by
  obtain ⟨-, -, htrigger, -⟩ := compile_eq_ok_iff.1 h
  rw [trigger] at htrigger
  split at htrigger
  · rename_i network hbody
    obtain ⟨_, _, types, -, -, htypes, heq⟩ := NetworkRule.trigger_eq_ok_iff.1 htrigger
    rw [heq]
    refine (NetworkRule.lists_unnamed_iff htypes).trans ⟨fun hasks => ⟨network, hbody, hasks⟩, ?_⟩
    rintro ⟨network', hbody', hasks⟩
    obtain rfl := RuleBody.network.inj (hbody.symm.trans hbody')
    exact hasks
  all_goals
    rename_i hbody
    rw [cosmeticTrigger] at htrigger
    split at htrigger
    · cases htrigger
    · obtain heq := Except.ok.inj htrigger
      rw [← heq]
      refine iff_of_false (fun ⟨_, htypes, _⟩ => nomatch htypes) ?_
      rintro ⟨network, hbody', -⟩
      rw [hbody] at hbody'
      cases hbody'

end Rule

/-! ## What is written -/

/-- The names of the kinds of resources. -/
def ResourceType.names : List String :=
  ["image", "style-sheet", "script", "media", "raw", "font", "document"]

theorem ResourceType.toJson_mem_names_iff {type : ResourceType} :
    type.toJson ∈ names.map Json.str ↔ type ≠ .unnamed := by
  cases type <;> simp [toJson, name?, names]

/-- What the entries of a content blocker list as kinds of resources. -/
def Json.listedResourceTypes (v : Json) : List Json :=
  (v.elements?.getD []).flatMap fun entry =>
    (((entry.field? "trigger").bind (·.field? "resource-type")).bind elements?).getD []

theorem Json.listedResourceTypes_entries (es : List Entry) :
    (Json.arr (es.map Entry.toJson)).listedResourceTypes =
      es.flatMap fun e => (e.trigger.resourceType.getD []).map ResourceType.toJson := by
  show (es.map Entry.toJson).flatMap _ = _
  rw [List.flatMap_map]
  refine congrArg es.flatMap (funext fun e => ?_)
  have htrigger : e.toJson.field? "trigger" = some e.trigger.toJson := by simp [Entry.toJson]
  have htypes : e.trigger.toJson.field? "resource-type" =
      e.trigger.resourceType.map fun types => .arr (types.map (·.toJson)) := by
    simp [Trigger.toJson]
  rw [htrigger, Option.bind_some, htypes]
  cases e.trigger.resourceType <;> rfl

/-- All kinds of resources are written by their names if none of them has no name. -/
theorem Json.forall_listedResourceTypes_iff (es : List Entry) :
    (∀ v ∈ (Json.arr (es.map Entry.toJson)).listedResourceTypes, v ∈ ResourceType.names.map .str) ↔
      ∀ e ∈ es, ¬ ∃ types, e.trigger.resourceType = some types ∧ .unnamed ∈ types := by
  rw [listedResourceTypes_entries]
  constructor
  · rintro hall e he ⟨types, htypes, hmem⟩
    have hunnamed := hall ResourceType.unnamed.toJson (List.mem_flatMap.2 ⟨e, he, ?_⟩)
    · exact ResourceType.toJson_mem_names_iff.1 hunnamed rfl
    · rw [htypes]
      exact List.mem_map_of_mem hmem
  · intro hnone v hv
    obtain ⟨e, he, hv⟩ := List.mem_flatMap.1 hv
    obtain ⟨type, htype, rfl⟩ := List.mem_map.1 hv
    refine ResourceType.toJson_mem_names_iff.2 ?_
    rintro rfl
    cases htypes : e.trigger.resourceType with
    | none =>
      rw [htypes] at htype
      cases htype
    | some types =>
      rw [htypes] at htype
      exact hnone e he ⟨types, htypes, htype⟩

/-- The placeholder lists no kinds of resources, so it is of no account. -/
theorem forall_listedResourceTypes_blockerText_iff (es : List Entry) :
    ∃ v, Json.read (blockerText es) = some v ∧
      ((∀ w ∈ v.listedResourceTypes, w ∈ ResourceType.names.map .str) ↔
        ∀ e ∈ es, ¬ ∃ types, e.trigger.resourceType = some types ∧ .unnamed ∈ types) := by
  rw [blockerText]
  split
  · rename_i hnil
    refine ⟨_, read_serializeEntries _, ?_⟩
    rw [Json.forall_listedResourceTypes_iff, hnil]
    simp [placeholderEntry]
  · exact ⟨_, read_serializeEntries _, Json.forall_listedResourceTypes_iff es⟩

/-! ## Rules and what they are converted to -/

theorem keptEntries_eq_map (list : FilterList) (limit : Nat) (advancedBlocking : Bool) :
    keptEntries list limit advancedBlocking =
      ((inOrder (compiledRules advancedBlocking list.rules)).take limit).map (·.2) := by
  rw [keptEntries, entries_ofRules, List.map_take]

theorem compile_of_mem_kept {advanced : Bool} {rules : List Rule} {limit : Nat} {p : Rule × Entry}
    (h : p ∈ (inOrder (compiledRules advanced rules)).take limit) :
    p.1 ∈ rules ∧ p.1.compile advanced = .ok p.2 :=
  compile_of_mem_compiledRules ((perm_inOrder _).mem_iff.1 (List.mem_of_mem_take h))

/-- The kinds of resources of a conversion have names as long as no rule that has an entry asks for a
reserved word. -/
theorem forall_listedResourceTypes_of_convert {list : FilterList} {options : ConversionOptions}
    {result : ConversionResult} (h : convert list options = .ok result) :
    ∃ limit v, options.limit.toNat? = some limit ∧ Json.read result.converted = some v ∧
      ((∀ w ∈ v.listedResourceTypes, w ∈ ResourceType.names.map .str) ↔
        ∀ p ∈ (inOrder (compiledRules options.advancedBlocking list.rules)).take limit,
          ¬ p.1.AsksForReserved) := by
  obtain ⟨limit, hlimit, rfl, -⟩ := convert_eq_ok_iff.1 h
  obtain ⟨v, hread, hlisted⟩ := forall_listedResourceTypes_blockerText_iff
    (keptEntries list limit options.advancedBlocking)
  rw [← ConversionResult.converted_ofList] at hread
  refine ⟨limit, v, hlimit, hread, hlisted.trans ?_⟩
  rw [keptEntries_eq_map, List.forall_mem_map]
  exact forall₂_congr fun p hp =>
    not_congr (Rule.lists_unnamed_iff_of_compile (compile_of_mem_kept hp).2)

/-- A rule whose modifiers have documented names does not ask for a reserved word. -/
theorem NetworkLine.not_asksForReserved {l : NetworkLine} (h : l.HasDocumentedNames) :
    ¬ l.rule.AsksForReserved := by
  rintro ⟨network, hbody, -, type, htype, hnot, -⟩
  obtain rfl := RuleBody.network.inj (hbody.symm.trans l.body)
  exact hnot (l.documented_iff.1 h type (List.mem_append_left _ htype))

/-- **Modifiers have documented names, but for two words.**  Every modifier of a network rule that is
read has a documented name or a reserved one, and the content types of the rule are documented
exactly if all names are.  In a content blocker of such rules all kinds of resources are written by
their names exactly if no rule that has an entry there asks for a reserved word without excluding it,
so they are in particular if all names are documented. -/
theorem documented_modifiers_iff (lines : List NetworkLine) :
    (∀ l ∈ lines,
      (∀ name ∈ Rule.writtenNames l.line,
        name ∈ Modifier.documentedNames ∨ name ∈ Modifier.reservedNames) ∧
      (l.HasDocumentedNames ↔ l.HasDocumentedTypes)) ∧
    ∀ options result, convertRules (lines.map (·.rule)) options = .ok result →
      ∃ limit v, options.limit.toNat? = some limit ∧ Json.read result.converted = some v ∧
        ((∀ w ∈ v.listedResourceTypes, w ∈ ResourceType.names.map .str) ↔
          ∀ p ∈ (inOrder (compiledRules options.advancedBlocking
            (lines.map (·.rule)))).take limit, ¬ p.1.AsksForReserved) ∧
        ((∀ l ∈ lines, l.HasDocumentedNames) →
          ∀ w ∈ v.listedResourceTypes, w ∈ ResourceType.names.map .str) := by
  refine ⟨fun l _ => ⟨l.mem_names, l.documented_iff⟩, fun options result hresult => ?_⟩
  obtain ⟨limit, v, hlimit, hread, hlisted⟩ := forall_listedResourceTypes_of_convert hresult
  refine ⟨limit, v, hlimit, hread, hlisted, fun hnames => hlisted.2 fun p hp => ?_⟩
  obtain ⟨l, hl, hrule⟩ := List.mem_map.1 (compile_of_mem_kept hp).1
  rw [← hrule]
  exact NetworkLine.not_asksForReserved (hnames l hl)

/-- A line with a capital letter and a tilde. -/
def fontLine : String :=
  "||a.example^$Image,~third-party,font"

/-- The rule on it. -/
def fontRule : Rule :=
  Rule.ofModifiers fontLine.toList
    [.contentType false .image, .party false, .contentType false .font]

theorem documented_modifiers_iff_of_fontRule :
    ∃ l : NetworkLine, l.line = fontLine ∧ l.rule = fontRule ∧
      Rule.writtenNames l.line = ["image", "third-party", "font"] ∧ l.HasDocumentedTypes ∧
      ∃ result v, convertRules [l.rule] {} = .ok result ∧ Json.read result.converted = some v ∧
        ∀ w ∈ v.listedResourceTypes, w ∈ ResourceType.names.map .str := by
  have hread : Rule.ofText? fontLine = .ok (some fontRule) := by decide +kernel
  have hwritten : Rule.writtenNames fontLine = ["image", "third-party", "font"] := by
    decide +kernel
  let l : NetworkLine := ⟨fontLine, fontRule, _, hread, rfl⟩
  have hnames : l.HasDocumentedNames := by
    rw [NetworkLine.HasDocumentedNames, hwritten]
    decide
  obtain ⟨hrule, hconvert⟩ := documented_modifiers_iff [l]
  have hresult : convertRules [l.rule] {} = .ok (.ofList ⟨[l.rule], []⟩ maxEntries false) :=
    convert_of_lenient toNat?_maxEntries _ rfl
  obtain ⟨limit, v, -, hv, -, hlisted⟩ := hconvert _ _ hresult
  exact ⟨l, rfl, rfl, hwritten, (hrule l List.mem_cons_self).2.1 hnames, _, v, hresult, hv,
    hlisted (List.forall_mem_singleton.2 hnames)⟩

/-- A line with a modifier that has a reserved name. -/
def reservedLine : String :=
  "||a.example^$constructor"

/-- The rule on it. -/
def reservedRule : Rule :=
  Rule.ofModifiers reservedLine.toList [.contentType false (.reserved .constructorWord)]

theorem Rule.asksForReserved_reservedRule : reservedRule.AsksForReserved :=
  ⟨_, rfl, by decide, .reserved .constructorWord, by decide, by decide, by decide⟩

/-- **A word that is the name of no modifier is accepted.**  So not all names are documented, nor are
all content types, and not all kinds of resources are written by their names. -/
theorem reserved_word_accepted :
    (¬ ∀ line rule network, Rule.ofText? line = .ok (some rule) → rule.body = .network network →
      ∀ name ∈ Rule.writtenNames line, name ∈ Modifier.documentedNames) ∧
    (¬ ∀ line rule network, Rule.ofText? line = .ok (some rule) → rule.body = .network network →
      ∀ type ∈ network.permittedTypes ++ network.restrictedTypes,
        type ∈ ContentType.documented) ∧
    ¬ ∀ line rule network, Rule.ofText? line = .ok (some rule) → rule.body = .network network →
      ∀ result v, convertRules [rule] {} = .ok result → Json.read result.converted = some v →
        ∀ w ∈ v.listedResourceTypes, w ∈ ResourceType.names.map .str := by
  have hread : Rule.ofText? reservedLine = .ok (some reservedRule) := by decide +kernel
  have hwritten : Rule.writtenNames reservedLine = ["constructor"] := by decide +kernel
  refine ⟨fun hall => ?_, fun hall => ?_, fun hall => ?_⟩
  · have hnames := hall _ _ _ hread rfl
    rw [hwritten] at hnames
    exact absurd (hnames "constructor" List.mem_cons_self) (by decide)
  · exact absurd (hall _ _ _ hread rfl (.reserved .constructorWord) (by decide)) (by decide)
  · have hresult : convertRules [reservedRule] {} =
        .ok (.ofList ⟨[reservedRule], []⟩ maxEntries false) :=
      convert_of_lenient toNat?_maxEntries _ rfl
    obtain ⟨limit, v, hlimit, hv, hlisted⟩ := forall_listedResourceTypes_of_convert hresult
    obtain rfl : maxEntries = limit := Option.some.inj (toNat?_maxEntries.symm.trans hlimit)
    have hkept : ((inOrder (compiledRules false [reservedRule])).take maxEntries).map (·.1) =
        [reservedRule] := by decide +kernel
    obtain ⟨p, hp, hrule⟩ := List.mem_map.1
      (hkept ▸ List.mem_singleton_self reservedRule : reservedRule ∈ List.map _ _)
    refine hlisted.1 (hall _ _ _ hread rfl _ v hresult hv) p hp ?_
    rw [hrule]
    exact Rule.asksForReserved_reservedRule

end ContentBlocker
