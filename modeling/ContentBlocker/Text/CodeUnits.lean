/-!
# The order of texts by code unit

File names and flag names are listed in the order of their 16-bit code units, which is not the
order of their code points: a character from U+10000 up is a pair of units that start with
U+D800 to U+DBFF, so it stands before U+E000.
-/

set_option autoImplicit false
namespace ContentBlocker.Text

/-- The one or two 16-bit units that write a character. -/
def codeUnits (c : Char) : List Nat :=
  let n := c.toNat
  if n < 0x10000 then
    [n]
  else
    [0xd800 + (n - 0x10000) / 0x400, 0xdc00 + (n - 0x10000) % 0x400]

/-- The 16-bit units of a text. -/
def textUnits (s : String) : List Nat :=
  s.toList.flatMap codeUnits

/-- Whether a list of numbers comes before another or equals it, compared from the left. -/
def unitsLe : List Nat → List Nat → Bool
  | [], _ => true
  | _ :: _, [] => false
  | a :: as, b :: bs => a < b || (a == b && unitsLe as bs)

/-- Whether one text comes before another, or equals it, in the order of code units. -/
def le (s t : String) : Bool :=
  unitsLe (textUnits s) (textUnits t)

example : le "😀" "\uffff" = true ∧ ("😀" < "\uffff") = False := by
  constructor
  · decide
  · simp only [eq_iff_iff, iff_false]; decide

theorem unitsLe_total (a b : List Nat) : unitsLe a b = true ∨ unitsLe b a = true := by
  induction a generalizing b with
  | nil => simp [unitsLe]
  | cons x xs ih =>
    cases b with
    | nil => simp [unitsLe]
    | cons y ys =>
      have := ih ys
      rcases Nat.lt_trichotomy x y with h | rfl | h <;> simp_all [unitsLe]

theorem unitsLe_trans {a b c : List Nat} (hab : unitsLe a b = true) (hbc : unitsLe b c = true) :
    unitsLe a c = true := by
  induction a generalizing b c with
  | nil => simp [unitsLe]
  | cons x xs ih =>
    cases b with
    | nil => simp [unitsLe] at hab
    | cons y ys =>
      cases c with
      | nil => simp [unitsLe] at hbc
      | cons z zs =>
        simp only [unitsLe, Bool.or_eq_true, decide_eq_true_eq, Bool.and_eq_true,
          beq_iff_eq] at hab hbc ⊢
        rcases hab with hab | ⟨rfl, hab⟩ <;> rcases hbc with hbc | ⟨rfl, hbc⟩
        · exact .inl (Nat.lt_trans hab hbc)
        · exact .inl hab
        · exact .inl hbc
        · exact .inr ⟨rfl, ih hab hbc⟩

/-- The texts in the order of code units. -/
def sorted (texts : List String) : List String :=
  texts.mergeSort le

end ContentBlocker.Text
