import EnergyGateway.Json.Basic
import EnergyGateway.Text.Digits

/-!
# Reading JSON

The grammar is the strict one: no comments, no trailing commas, no leading zeros, no bare control characters in
texts, and nothing but blanks around the value.  Three kinds of well-formed parts have no value: a text with
half of a surrogate pair, a number whose magnitude exceeds the range of binary64, and an array or object inside
127 others.

A whole number that fits a 64-bit word is kept as it is.  Any other number is a binary64 number computed the
quick way: as many leading digits as fit a word, scaled once by a power of ten.  The result may differ from the
nearest number in its last place.
-/

namespace EnergyGateway.Document

/-! ### Numbers -/

/-- `digits · 10 ^ exponent` with the digits in a word; the digits that do not fit are left out. -/
structure Scaled where
  digits : Nat
  exponent : Int

/-- The digits in front of the point.  Once one does not fit, it and all behind it only count as a power of ten. -/
def wholeDigits (acc : Nat) : List Char → Scaled × Bool
  | [] => (⟨acc, 0⟩, true)
  | c :: rest =>
    let next := 10 * acc + (c.toNat - '0'.toNat)
    if next ≤ Text.wordMax then wholeDigits next rest else (⟨acc, (c :: rest).length⟩, false)

/-- The digits behind the point.  Once one does not fit, it and all behind it are left out. -/
def placeDigits (acc : Scaled) : List Char → Scaled
  | [] => acc
  | c :: rest =>
    let next := 10 * acc.digits + (c.toNat - '0'.toNat)
    if next ≤ Text.wordMax then placeDigits ⟨next, acc.exponent - 1⟩ rest else acc

/-- The greatest power of ten that is scaled with in one step. -/
def largestStep : Nat := 308

def powerOfTen (n : Nat) : Float := Float.ofScientific 1 false n

/-- Division by a power of ten, in steps. -/
def scaleDown : Nat → Float → Nat → Float
  | 0, x, _ => x
  | fuel + 1, x, n =>
    if n ≤ largestStep then x / powerOfTen n
    else if x == 0 then x
    else scaleDown fuel (x / powerOfTen largestStep) (n - largestStep)

/-- The magnitude of a scaled number, none if it is beyond the range of binary64. -/
def Scaled.magnitude? (s : Scaled) : Option Float :=
  let x := s.digits.toUInt64.toFloat
  match s.exponent with
  | .ofNat n =>
    if n ≤ largestStep then
      let y := x * powerOfTen n
      if y.isInf then none else some y
    else if x == 0 then some x else none
  | .negSucc n => some (scaleDown 4 x (n + 1))

/-- The parts of a number: sign, digits in front of the point, digits behind it, and the exponent. -/
structure Literal where
  negative : Bool
  whole : List Char
  places : Option (List Char)
  exponent : Option Int

/-- The value of a number, none if it is beyond the range of binary64. -/
def Literal.number? (l : Literal) : Option Number :=
  let (whole, fits) := wholeDigits 0 l.whole
  let signed (x : Float) : Number := .float (if l.negative then -x else x)
  let isWord := fits && !(l.negative && (whole.digits == 0 || Nat.pow 2 63 < whole.digits))
  if l.places.isNone && l.exponent.isNone && isWord then
    some (.int (if l.negative then -whole.digits else whole.digits))
  else
    let scaled := match l.places with
      | some ds => placeDigits whole ds
      | none => whole
    (Scaled.magnitude? ⟨scaled.digits, scaled.exponent + l.exponent.getD 0⟩).map signed

/-- A minus sign, if one stands in front of a text, and the rest of the text. -/
def minus : List Char → Bool × List Char
  | '-' :: rest => (true, rest)
  | cs => (false, cs)

/-- The digits behind a point, if one stands in front of a text, and the rest of the text. -/
def placesPart? : List Char → Option (Option (List Char) × List Char)
  | '.' :: rest =>
    let ds := rest.takeWhile Char.isDigit
    if ds.isEmpty then none else some (some ds, rest.dropWhile Char.isDigit)
  | cs => some (none, cs)

/-- The sign of an exponent and the rest of a text. -/
def exponentSign : List Char → Bool × List Char
  | '+' :: rest => (false, rest)
  | cs => minus cs

/-- The exponent in front of the rest of a text, its mark already read. -/
def exponent? (cs : List Char) : Option (Int × List Char) :=
  let (negative, ds) := exponentSign cs
  (Text.digits? (ds.takeWhile Char.isDigit)).map fun (n : Nat) =>
    (if negative then -(n : Int) else (n : Int), ds.dropWhile Char.isDigit)

/-- The exponent, if its mark stands in front of a text, and the rest of the text. -/
def exponentPart? : List Char → Option (Option Int × List Char)
  | [] => some (none, [])
  | c :: rest =>
    if c = 'e' ∨ c = 'E' then (exponent? rest).map fun (e, r) => (some e, r) else some (none, c :: rest)

/-- The number in front of the rest of a text. -/
def literal? (cs : List Char) : Option (Literal × List Char) := do
  let (negative, cs) := minus cs
  let whole := cs.takeWhile Char.isDigit
  if whole.isEmpty || (whole.length != 1 && whole.head? == some '0') then none
  let (places, cs) ← placesPart? (cs.dropWhile Char.isDigit)
  let (exponent, cs) ← exponentPart? cs
  return (⟨negative, whole, places, exponent⟩, cs)

/-! ### Texts -/

def hexDigit? (c : Char) : Option Nat :=
  if c.isDigit then some (c.toNat - '0'.toNat)
  else if 'a' ≤ c ∧ c ≤ 'f' then some (c.toNat - 'a'.toNat + 10)
  else if 'A' ≤ c ∧ c ≤ 'F' then some (c.toNat - 'A'.toNat + 10)
  else none

/-- The number of four hexadecimal digits. -/
def hexUnit? (a b c d : Char) : Option Nat := do
  return ((← hexDigit? a) * 16 + (← hexDigit? b)) * 256 + ((← hexDigit? c) * 16 + (← hexDigit? d))

/-- The character that a backslash and a letter stand for. -/
def escaped? : Char → Option Nat
  | '"' => some 0x22
  | '\\' => some 0x5C
  | '/' => some 0x2F
  | 'b' => some 0x08
  | 'f' => some 0x0C
  | 'n' => some 0x0A
  | 'r' => some 0x0D
  | 't' => some 0x09
  | _ => none

/-- The code points and escaped code units up to the closing quote, and the rest of the text. -/
def units? : List Char → Option (List Nat × List Char)
  | [] => none
  | '"' :: rest => some ([], rest)
  | '\\' :: 'u' :: a :: b :: c :: d :: rest => do
    let u ← hexUnit? a b c d
    let (us, r) ← units? rest
    return (u :: us, r)
  | '\\' :: e :: rest => do
    let u ← escaped? e
    let (us, r) ← units? rest
    return (u :: us, r)
  | c :: rest => do
    if c.toNat < 0x20 then none
    let (us, r) ← units? rest
    return (c.toNat :: us, r)

def isHighSurrogate (u : Nat) : Bool := 0xD800 ≤ u && u < 0xDC00

def isLowSurrogate (u : Nat) : Bool := 0xDC00 ≤ u && u < 0xE000

/-- The text of code points and code units, each surrogate in a pair. -/
def joinUnits? : List Nat → Option (List Char)
  | [] => some []
  | [u] => if isHighSurrogate u || isLowSurrogate u then none else some [Char.ofNat u]
  | u :: v :: rest =>
    if isHighSurrogate u then
      if isLowSurrogate v then
        (joinUnits? rest).map (Char.ofNat (0x10000 + (u - 0xD800) * 0x400 + (v - 0xDC00)) :: ·)
      else none
    else if isLowSurrogate u then none
    else (joinUnits? (v :: rest)).map (Char.ofNat u :: ·)

/-- A text behind its opening quote, none inside for one that has no value. -/
def text? (cs : List Char) : Option (Option String × List Char) :=
  (units? cs).map fun (us, rest) => ((joinUnits? us).map String.ofList, rest)

/-! ### Values -/

def isSpace (c : Char) : Bool := c == ' ' || c == '\n' || c == '\t' || c == '\r'

def skipSpace (cs : List Char) : List Char := cs.dropWhile isSpace

/-- How many arrays and objects may stand around another one that has a value. -/
def depthLimit : Nat := 127

/-- An array or object inside `depth` others. -/
def bounded (depth : Nat) (d : Document) : Document := if depth < depthLimit then d else .unreadable

mutual

/-- The value in front of the rest of a text.  Each step needs fuel for itself and for the parts of the value. -/
def readValue : Nat → Nat → List Char → Option (Document × List Char)
  | 0, _, _ => none
  | fuel + 1, depth, cs =>
    match cs with
    | 'n' :: 'u' :: 'l' :: 'l' :: rest => some (.null, rest)
    | 't' :: 'r' :: 'u' :: 'e' :: rest => some (.bool true, rest)
    | 'f' :: 'a' :: 'l' :: 's' :: 'e' :: rest => some (.bool false, rest)
    | '"' :: rest => (text? rest).map fun (s, r) => (s.elim .unreadable .string, r)
    | '[' :: rest =>
      match skipSpace rest with
      | ']' :: r => some (bounded depth (.array []), r)
      | r => (readItems fuel (depth + 1) r).map fun (items, r) => (bounded depth (.array items), r)
    | '{' :: rest =>
      match skipSpace rest with
      | '}' :: r => some (bounded depth (.object []), r)
      | r => (readMembers fuel (depth + 1) r).map fun (members, r) =>
        (bounded depth (members.elim .unreadable .object), r)
    | _ => (literal? cs).map fun (l, r) => (l.number?.elim .unreadable .number, r)

/-- The items of an array up to its closing bracket, no blanks in front of the first. -/
def readItems : Nat → Nat → List Char → Option (List Document × List Char)
  | 0, _, _ => none
  | fuel + 1, depth, cs => do
    let (d, rest) ← readValue fuel depth cs
    match skipSpace rest with
    | ',' :: r => do
      let (ds, r) ← readItems fuel depth (skipSpace r)
      return (d :: ds, r)
    | ']' :: r => some ([d], r)
    | _ => none

/-- The members of an object up to its closing brace, no blanks in front of the first; none inside if a name
has no value. -/
def readMembers : Nat → Nat → List Char → Option (Option (List (String × Document)) × List Char)
  | 0, _, _ => none
  | fuel + 1, depth, cs =>
    match cs with
    | '"' :: rest => do
      let (key, rest) ← text? rest
      match skipSpace rest with
      | ':' :: rest => do
        let (d, rest) ← readValue fuel depth (skipSpace rest)
        match skipSpace rest with
        | ',' :: r => do
          let (ms, r) ← readMembers fuel depth (skipSpace r)
          return (key.bind fun k => ms.map ((k, d) :: ·), r)
        | '}' :: r => some (key.map fun k => [(k, d)], r)
        | _ => none
      | _ => none
    | _ => none

end

/-- The document that a whole text writes. -/
def readChars (cs : List Char) : Option Document :=
  match readValue (2 * cs.length + 1) 0 (skipSpace cs) with
  | some (d, rest) => if (skipSpace rest).isEmpty then some d else none
  | none => none

def read (s : String) : Option Document := readChars s.toList

end EnergyGateway.Document

namespace EnergyGateway.Json

/-- The value that a whole text writes. -/
def read (s : String) : Option Json := (Document.read s).bind Document.value?

end EnergyGateway.Json
