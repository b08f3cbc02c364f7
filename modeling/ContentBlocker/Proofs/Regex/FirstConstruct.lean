import ContentBlocker.Proofs.Regex.Texts

/-!
# The construct that is reported

An expression that is not in the url-filter language is reported with one reason, and where that is
a construct, it is the first of the tree: the nodes are listed each before those inside it and from
the left (`Node.preorder`), the ones that the language lacks are picked out (`Node.unsupported`),
and the head of that list is reported (`check_reports_first`).

A disjunction is one node there, however many alternatives it has.  In `Node` it is nested to the
right, so the listing has to know whether it is in the middle of one.  `Node.constructs` does not,
and has an alternation for each bar; the heads of the two lists are the same
(`Node.head?_unsupported`).
-/

set_option autoImplicit false
namespace ContentBlocker.Regex

namespace Node

/-- The construct that a node is by itself, whatever is inside it. -/
def construct? : Node → Option Construct
  | .atom (.reference _) => some .backReference
  | .anchor a => if a.isWordBoundary then some .wordBoundary else none
  | .group kind _ => if kind.isLookaround then some .lookaround else none
  | .repetition q _ _ => if q.braced then some .boundedRepetition else none
  | .alt _ _ => some .alternation
  | .empty | .atom _ | .seq _ _ => none

/-- The nodes of a tree in pre-order.  The flag says that the tree is what is left of a disjunction
that has been listed already. -/
def preorderFrom : Bool → Node → List Node
  | _, .empty => []
  | _, .atom a => [.atom a]
  | _, .anchor a => [.anchor a]
  | _, .group kind body => .group kind body :: body.preorderFrom false
  | _, .repetition q text body => .repetition q text body :: body.preorderFrom false
  | _, .seq first rest => first.preorderFrom false ++ rest.preorderFrom false
  | listed, .alt first rest =>
    (if listed then [] else [.alt first rest]) ++
      (first.preorderFrom false ++ rest.preorderFrom true)

/-- The nodes of a tree in pre-order, where the parts of a sequence stand side by side.  Sets are
not looked into. -/
def preorder (node : Node) : List Node :=
  node.preorderFrom false

/-- The nodes that the url-filter language does not have, in pre-order, each as what it is. -/
def unsupported (node : Node) : List Construct :=
  node.preorder.filterMap construct?

/-! ## The listing and the search -/

theorem filterMap_construct?_cons (node : Node) (nodes : List Node) :
    (node :: nodes).filterMap construct? =
      node.construct?.toList ++ nodes.filterMap construct? := by
  rw [List.filterMap_cons]
  cases node.construct? <;> rfl

theorem unsupported_group (kind : GroupKind) (body : Node) :
    (Node.group kind body).unsupported = (Node.group kind body).construct?.toList ++
      body.unsupported :=
  filterMap_construct?_cons _ _

theorem unsupported_repetition (q : Quantifier) (text : List Char) (body : Node) :
    (Node.repetition q text body).unsupported = (Node.repetition q text body).construct?.toList ++
      body.unsupported :=
  filterMap_construct?_cons _ _

theorem unsupported_seq (first rest : Node) :
    (Node.seq first rest).unsupported = first.unsupported ++ rest.unsupported :=
  List.filterMap_append

/-- An alternation comes before all that is in its alternatives. -/
theorem head?_unsupported_alt (first rest : Node) :
    (Node.alt first rest).unsupported.head? = some .alternation := rfl

/-- The first node in pre-order is the first construct. -/
theorem head?_unsupported (node : Node) : node.unsupported.head? = node.constructs.head? := by
  induction node with
  | empty => rfl
  | atom a => cases a <;> rfl
  | anchor a => cases a <;> rfl
  | group kind body ih =>
    rw [unsupported_group, constructs, construct?]
    split
    · rfl
    · exact ih
  | repetition q text body ih =>
    rw [unsupported_repetition, constructs, construct?]
    split
    · rfl
    · exact ih
  | seq first rest ihf ihr =>
    rw [unsupported_seq, constructs, List.head?_append, List.head?_append, ihf, ihr]
  | alt first rest => exact head?_unsupported_alt first rest

end Node

theorem firstConstruct?_eq_head?_unsupported {source : List Char} {node : Node}
    (h : parse? source = some node) : node.firstConstruct? = node.unsupported.head? := by
  rw [firstConstruct?_of_parse? h, node.head?_unsupported]

/-! ## What is reported -/

/-- In ASCII it is the first node that is reported, unless there is no tree. -/
theorem checkChars_of_isAscii {source : List Char} (h : isAscii source = true) :
    checkChars source = match parse? source with
      | none => some .malformed
      | some node => node.unsupported.head?.map .unsupported := by
  rw [checkChars, if_pos h]
  cases hparse : parse? source with
  | none => rfl
  | some node =>
    dsimp only
    rw [firstConstruct?_eq_head?_unsupported hparse]

theorem checkChars_eq_none_iff_unsupported {source : List Char} :
    checkChars source = none ↔ isAscii source = true ∧
      ∃ node, parse? source = some node ∧ node.unsupported = [] := by
  cases hascii : isAscii source with
  | false => simp [checkChars, hascii]
  | true => cases hparse : parse? source <;> simp [checkChars_of_isAscii hascii, hparse]

theorem checkChars_eq_unsupported_iff {source : List Char} {k : Construct} :
    checkChars source = some (.unsupported k) ↔ isAscii source = true ∧
      ∃ node rest, parse? source = some node ∧ node.unsupported = k :: rest := by
  cases hascii : isAscii source with
  | false => simp [checkChars, hascii]
  | true =>
    cases hparse : parse? source <;>
      simp [checkChars_of_isAscii hascii, hparse, List.head?_eq_some_iff]

theorem checkChars_eq_nonAscii_iff {source : List Char} :
    checkChars source = some .nonAscii ↔ isAscii source = false := by
  cases hascii : isAscii source with
  | false => simp [checkChars, hascii]
  | true => cases hparse : parse? source <;> simp [checkChars_of_isAscii hascii, hparse]

theorem checkChars_eq_malformed_iff {source : List Char} :
    checkChars source = some .malformed ↔ isAscii source = true ∧ parse? source = none := by
  cases hascii : isAscii source with
  | false => simp [checkChars, hascii]
  | true => cases hparse : parse? source <;> simp [checkChars_of_isAscii hascii, hparse]

/-- **The first construct in pre-order is the one that is reported.**  An expression passes exactly
if it is ASCII, it can be read, and there is no such construct in its tree.  A character outside of
ASCII is reported before anything else, and otherwise what cannot be read. -/
theorem check_reports_first (source : String) :
    (check source = none ↔ isAscii source.toList = true ∧
      ∃ node, parse? source.toList = some node ∧ node.unsupported = []) ∧
    (∀ k, check source = some (.unsupported k) ↔ isAscii source.toList = true ∧
      ∃ node rest, parse? source.toList = some node ∧ node.unsupported = k :: rest) ∧
    (check source = some .nonAscii ↔ ∃ c ∈ source.toList, 0x80 ≤ c.toNat) ∧
    (check source = some .malformed ↔ isAscii source.toList = true ∧
      parse? source.toList = none) :=
  ⟨checkChars_eq_none_iff_unsupported, fun _ => checkChars_eq_unsupported_iff,
    checkChars_eq_nonAscii_iff.trans isAscii_eq_false_iff, checkChars_eq_malformed_iff⟩

/-- Braces that are characters, escaped or in a set are passed over, even with a mark behind. -/
example : check "a\x7b\\\x7b2\x7d?[\x7b2\x7d]?(b\x7b1,\x7d?\\b)" =
    some (.unsupported .boundedRepetition) := by decide +kernel

end ContentBlocker.Regex
