import ContentBlocker.Json.Basic
import ContentBlocker.Text.Digits

/-!
# Reading JSON

`Json.read` reads a text that is one JSON value, with white space around its tokens, and nothing
else.  The grammar is the strict one: no comments, no final commas, no leading zeros, no control
characters inside strings.  In a string a pair of escaped surrogates is one character, and an
escaped surrogate without its partner is read as U+FFFD.

A value is read by descent.  Every step of the descent takes at least one character, so the
number of characters bounds their number; that bound is the first argument of `readValue`.
-/

set_option autoImplicit false
namespace ContentBlocker.Json

/-- White space between tokens. -/
def isSpace (c : Char) : Bool :=
  c == ' ' || c == '\t' || c == '\n' || c == '\r'

/-- The text from its first token on. -/
def skipSpace (s : List Char) : List Char :=
  s.dropWhile isSpace

/-! ## Strings -/

/-- The character that a letter after a backslash stands for. -/
def unescape? (c : Char) : Option Char :=
  match c with
  | '"' => some '"'
  | '\\' => some '\\'
  | '/' => some '/'
  | 'b' => some '\x08'
  | 'f' => some '\x0c'
  | 'n' => some '\n'
  | 'r' => some '\r'
  | 't' => some '\t'
  | _ => none

/-- Reads a string up to its closing mark, as numbers: a character gives its code point and an
escape by digits the number it writes.  The first list holds what has been read, last one first. -/
def readUnits (units : List Nat) : List Char → Option (List Nat × List Char)
  | [] => none
  | '"' :: rest => some (units.reverse, rest)
  | '\\' :: 'u' :: a :: b :: c :: d :: rest =>
    match Text.digitsValue? 16 [a, b, c, d] with
    | some n => readUnits (n :: units) rest
    | none => none
  | '\\' :: c :: rest =>
    match unescape? c with
    | some e => readUnits (e.toNat :: units) rest
    | none => none
  | c :: rest => if c.toNat < 0x20 then none else readUnits (c.toNat :: units) rest

/-- The character with a given code point, or U+FFFD where there is none. -/
def charOfUnit (n : Nat) : Char :=
  if n.isValidChar then Char.ofNat n else '\ufffd'

/-- The characters that units write: a high and a low surrogate next to each other are one. -/
def joinSurrogates : List Nat → List Char
  | [] => []
  | [n] => [charOfUnit n]
  | n :: m :: rest =>
    if 0xd800 ≤ n ∧ n < 0xdc00 ∧ 0xdc00 ≤ m ∧ m < 0xe000 then
      charOfUnit (0x10000 + (n - 0xd800) * 0x400 + (m - 0xdc00)) :: joinSurrogates rest
    else
      charOfUnit n :: joinSurrogates (m :: rest)

/-- Reads a string from behind its opening mark. -/
def readString (s : List Char) : Option (String × List Char) :=
  (readUnits [] s).map fun (units, rest) => (String.ofList (joinSurrogates units), rest)

/-! ## Numbers -/

/-- The sign of a number, which is a minus or nothing. -/
def readSign : List Char → List Char × List Char
  | '-' :: rest => (['-'], rest)
  | s => ([], s)

/-- One digit or more. -/
def readDigits (s : List Char) : Option (List Char × List Char) :=
  match s.span (Text.isDigit 10) with
  | ([], _) => none
  | (digits, rest) => some (digits, rest)

/-- The whole part of a number: a zero, or digits that do not start with one. -/
def readWhole : List Char → Option (List Char × List Char)
  | '0' :: rest => some (['0'], rest)
  | s => readDigits s

/-- The fraction of a number, which is a point and digits or nothing. -/
def readFraction : List Char → Option (List Char × List Char)
  | '.' :: rest => (readDigits rest).map fun (digits, rest) => ('.' :: digits, rest)
  | s => some ([], s)

/-- The digits of an exponent, with or without a sign. -/
def readSignedDigits : List Char → Option (List Char × List Char)
  | '+' :: rest => (readDigits rest).map fun (digits, rest) => ('+' :: digits, rest)
  | '-' :: rest => (readDigits rest).map fun (digits, rest) => ('-' :: digits, rest)
  | s => readDigits s

/-- The exponent of a number, which is a letter and digits or nothing. -/
def readExponent : List Char → Option (List Char × List Char)
  | 'e' :: rest => (readSignedDigits rest).map fun (digits, rest) => ('e' :: digits, rest)
  | 'E' :: rest => (readSignedDigits rest).map fun (digits, rest) => ('E' :: digits, rest)
  | s => some ([], s)

/-- A number. -/
def readNumber (s : List Char) : Option (Json × List Char) := do
  let (sign, s) := readSign s
  let (whole, s) ← readWhole s
  let (fraction, s) ← readFraction s
  let (exponent, s) ← readExponent s
  some (.number (String.ofList (sign ++ whole ++ fraction ++ exponent)), s)

/-! ## Values -/

mutual

/-- Reads a value at the start of a text and gives what is left of the text. -/
def readValue : Nat → List Char → Option (Json × List Char)
  | 0, _ => none
  | fuel + 1, s =>
    match skipSpace s with
    | 'n' :: 'u' :: 'l' :: 'l' :: rest => some (.null, rest)
    | 't' :: 'r' :: 'u' :: 'e' :: rest => some (.bool true, rest)
    | 'f' :: 'a' :: 'l' :: 's' :: 'e' :: rest => some (.bool false, rest)
    | '"' :: rest => (readString rest).map fun (text, rest) => (.str text, rest)
    | '[' :: rest =>
      match skipSpace rest with
      | ']' :: rest => some (.arr [], rest)
      | rest => readElements fuel [] rest
    | '\x7b' :: rest =>
      match skipSpace rest with
      | '\x7d' :: rest => some (.obj [], rest)
      | rest => readMembers fuel [] rest
    | s => readNumber s

/-- Reads the elements of an array up to its closing bracket.  The list holds those already read,
last one first. -/
def readElements : Nat → List Json → List Char → Option (Json × List Char)
  | 0, _, _ => none
  | fuel + 1, elements, s =>
    match readValue fuel s with
    | none => none
    | some (v, rest) =>
      match skipSpace rest with
      | ',' :: rest => readElements fuel (v :: elements) rest
      | ']' :: rest => some (.arr (v :: elements).reverse, rest)
      | _ => none

/-- Reads the members of an object up to its closing bracket.  The list holds those already read,
last one first. -/
def readMembers : Nat → List (String × Json) → List Char → Option (Json × List Char)
  | 0, _, _ => none
  | fuel + 1, members, s =>
    match skipSpace s with
    | '"' :: rest =>
      match readString rest with
      | none => none
      | some (name, rest) =>
        match skipSpace rest with
        | ':' :: rest =>
          match readValue fuel rest with
          | none => none
          | some (v, rest) =>
            match skipSpace rest with
            | ',' :: rest => readMembers fuel ((name, v) :: members) rest
            | '\x7d' :: rest => some (.obj ((name, v) :: members).reverse, rest)
            | _ => none
        | _ => none
    | _ => none

end

/-- Reads characters that are one value and nothing else. -/
def readChars (s : List Char) : Option Json :=
  match readValue (s.length + 1) s with
  | some (v, rest) => if (skipSpace rest).isEmpty then some v else none
  | none => none

/-- Reads a text that is one value and nothing else. -/
def read (s : String) : Option Json :=
  readChars s.toList

end ContentBlocker.Json
