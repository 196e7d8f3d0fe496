import EnergyGateway.Decimal.Reader
import EnergyGateway.Json.Basic
import EnergyGateway.Toml.Text

/-!
# Numbers, truth values and dates in TOML

Single underscores may stand between digits.  A whole number may have a sign, or a mark for its base instead.  A
word can pass for a number and still have no value: a whole number that does not fit a word of 128 bits, a number
beyond the range of binary64, the mark of a base alone, and a word with more than digits behind an underscore.  A
date or time counts as a table of one member whose name no record has.
-/

namespace EnergyGateway.Toml

/-- The value of a digit in a base of at most sixteen. -/
def digit? (base : Nat) (c : Char) : Option Nat := (hex? [c]).filter (· < base)

/-- Whether a character is a digit of a base. -/
def isDigit (base : Nat) (c : Char) : Bool := (digit? base c).isSome

/-- Whether the underscores of a word stand between digits of a base.  If a single character stands in front of
the first one, it may also be a sign. -/
def isGrouped (base : Nat) (cs : List Char) : Bool :=
  let parts := cs.splitOn '_'
  cs.head? != some '_' && parts.tail.all (fun part => (part.head?).any (isDigit base)) &&
    parts.dropLast.all fun part => part.length ≤ 1 || (part.getLast?).any (isDigit base)

/-- What is left of a word without its underscores. -/
def dropUnderscores (cs : List Char) : List Char := cs.filter (· != '_')

/-- A sign and what follows. -/
def signed (cs : List Char) : Bool × List Char :=
  match cs with
  | '-' :: rest => (true, rest)
  | '+' :: rest => (false, rest)
  | _ => (false, cs)

/-! ### Whole numbers -/

/-- Whether a whole number fits a word of 128 bits, with or without a sign. -/
def fitsWord (n : Int) : Bool := -(Nat.pow 2 127 : Int) ≤ n && n < (Nat.pow 2 128 : Int)

/-- The number that digits of a base write. -/
def natural? (base : Nat) (ds : List Char) : Option Nat :=
  if ds.isEmpty then none else ds.foldlM (fun n c => (digit? base c).map (base * n + ·)) 0

/-- The whole number that a sign and digits of a base write; it has no value if it does not fit, or if what should
be digits is something else. -/
def whole (base : Nat) (negative : Bool) (ds : List Char) : Document :=
  match natural? base ds with
  | none => .unreadable
  | some n =>
    let n : Int := if negative then -(n : Int) else n
    if fitsWord n then .number (.int n) else .unreadable

/-- A whole number behind the mark of its base. -/
def inBase? (base : Nat) (cs : List Char) : Option Document :=
  let ds := dropUnderscores cs
  if ds.all (isDigit base) && isGrouped base cs then some (whole base false ds) else none

/-- A whole number without a mark, which has no leading zero.  From the first underscore on the word may hold
anything but what would make it a number with a point or an exponent. -/
def decimal? (cs : List Char) : Option Document :=
  let (negative, ds) := signed cs
  let behind := ds.dropWhile Char.isDigit
  let passes := behind.head? == some '_' && behind.all (fun c => c ∉ ['.', 'e', 'E']) && isGrouped 16 cs
  if ds.isEmpty || (ds.head? == some '0' && ds.length != 1) then none
  else if behind.isEmpty || passes then some (whole 10 negative (dropUnderscores ds))
  else none

/-- A whole number. -/
def integer? (cs : List Char) : Option Document :=
  match cs with
  | '0' :: 'x' :: ds => inBase? 16 ds
  | '0' :: 'o' :: ds => inBase? 8 ds
  | '0' :: 'b' :: ds => inBase? 2 ds
  | _ => decimal? cs

/-! ### Numbers with a point or an exponent -/

/-- Whether a text without underscores starts like places or an exponent. -/
def isFraction : List Char → Bool
  | '.' :: c :: _ => c.isDigit
  | 'e' :: _ | 'E' :: _ => true
  | _ => false

/-- A number with a point or an exponent, or one of the two names. -/
def float? (cs : List Char) : Option Document := do
  let (negative, ds) := signed cs
  let number (x : Float) : Document := .number (.float (if negative then -x else x))
  if ds = "inf".toList then return number (1 / 0)
  if ds = "nan".toList then return number (0 / 0)
  let digits := dropUnderscores ds
  let whole := digits.takeWhile Char.isDigit
  if whole.isEmpty || (ds.head? == some '0' && whole.length != 1) then none
  if !(isGrouped 10 cs && isFraction (digits.dropWhile Char.isDigit)) then none
  let x ← Decimal.number? digits
  return if x.isInf then .unreadable else number x

/-! ### Dates -/

/-- Two digits in front, as a number of at most `max`. -/
def two? (max : Nat) : List Char → Option (Nat × List Char)
  | a :: b :: rest =>
    if a.isDigit && b.isDigit then
      let n := Nat.ofDigitChars 10 [a, b] 0
      if n ≤ max then some (n, rest) else none
    else none
  | _ => none

/-- How many days a month has. -/
def daysOf (year month : Nat) : Nat :=
  if month = 2 then if year % 4 = 0 ∧ (year % 100 ≠ 0 ∨ year % 400 = 0) then 29 else 28
  else if [4, 6, 9, 11].contains month then 30
  else 31

/-- What follows a date. -/
def behindDate? (cs : List Char) : Option (List Char) := do
  let (century, cs) ← two? 99 cs
  let (year, cs) ← two? 99 cs
  let cs ← (match cs with
    | '-' :: rest => some rest
    | _ => none)
  let (month, cs) ← two? 12 cs
  let cs ← (match cs with
    | '-' :: rest => some rest
    | _ => none)
  let (day, cs) ← two? (daysOf (100 * century + year) month) cs
  if month = 0 ∨ day = 0 then none else return cs

/-- What follows the places of a second. -/
def behindPlaces? : List Char → Option (List Char)
  | '.' :: rest => if (rest.takeWhile Char.isDigit).isEmpty then none else some (rest.dropWhile Char.isDigit)
  | cs => some cs

/-- What follows a time of day; the seconds may be missing. -/
def behindTime? (cs : List Char) : Option (List Char) := do
  let (_, cs) ← two? 23 cs
  let cs ← (match cs with
    | ':' :: rest => some rest
    | _ => none)
  let (_, cs) ← two? 59 cs
  match cs with
  | ':' :: rest =>
    let (_, rest) ← two? 60 rest
    behindPlaces? rest
  | _ => return cs

/-- Whether a text is the offset of a time from universal time, or nothing. -/
def isOffset (cs : List Char) : Bool :=
  match cs with
  | [] | ['Z'] | ['z'] => true
  | sign :: rest =>
    (sign == '+' || sign == '-') &&
      match two? 23 rest with
      | some (_, ':' :: rest) => (two? 59 rest).any (·.2.isEmpty)
      | _ => false

/-- Whether a text is a time, a date, or a date and a time. -/
def isMoment (cs : List Char) : Bool :=
  match behindDate? cs with
  | some [] => true
  | some (separator :: time) =>
    [' ', 'T', 't'].contains separator && (behindTime? time).any isOffset
  | none => (behindTime? cs).any List.isEmpty

/-! ### Scalars -/

/-- Whether a character belongs to a value without quotes or brackets: whatever does not stand between values. -/
def isScalarChar (c : Char) : Bool :=
  c ∉ ['=', ',', '[', ']', '{', '}', '#', ' ', '\t', '\r', '\n']

/-- The word in front.  A date and a time with a blank between them are one word. -/
def word (cs : List Char) : List Char × List Char :=
  let first := cs.takeWhile isScalarChar
  let behind := cs.dropWhile isScalarChar
  match behind with
  | ' ' :: rest =>
    if behindDate? first == some [] && (rest.head?).any Char.isDigit then
      (first ++ ' ' :: rest.takeWhile isScalarChar, rest.dropWhile isScalarChar)
    else (first, behind)
  | _ => (first, behind)

/-- A date, a time or both. -/
def moment? (word : List Char) : Option Document :=
  if isMoment word then some (.object [("$moment", .string (String.ofList word))]) else none

/-- The value that a word writes. -/
def scalar? (word : List Char) : Option Document :=
  if word = "true".toList then some (.bool true)
  else if word = "false".toList then some (.bool false)
  else integer? word <|> float? word <|> moment? word

end EnergyGateway.Toml
