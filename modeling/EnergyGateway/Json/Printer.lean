import EnergyGateway.Json.Basic
import EnergyGateway.Decimal.Layout

/-!
# Writing JSON

The compact form has no blanks.  The indented form, for people, puts every item and member on a line of its own,
two blanks deeper than the bracket around it.  Only the quote, the backslash and the control characters are
escaped in a text.
-/

namespace EnergyGateway

/-- The text of a number inside a document. -/
def Number.text : Number → String
  | .int n => toString n
  | .float x => Decimal.Layout.document.write x

namespace Json

/-- A character inside quotes. -/
def escapeChar (c : Char) : List Char :=
  if c = '"' then ['\\', '"']
  else if c = '\\' then ['\\', '\\']
  else if c = '\x08' then ['\\', 'b']
  else if c = '\x0c' then ['\\', 'f']
  else if c = '\n' then ['\\', 'n']
  else if c = '\r' then ['\\', 'r']
  else if c = '\t' then ['\\', 't']
  else if c.toNat < 0x20 then
    ['\\', 'u', '0', '0', Nat.digitChar (c.toNat / 16), Nat.digitChar (c.toNat % 16)]
  else [c]

/-- A text in quotes. -/
def quote (s : String) : List Char := '"' :: s.toList.flatMap escapeChar ++ ['"']

mutual

/-- The characters of the compact form. -/
def compactChars : Json → List Char
  | .null => "null".toList
  | .bool b => (if b then "true" else "false").toList
  | .number n => n.text.toList
  | .string s => quote s
  | .array items => '[' :: compactItems items ++ [']']
  | .object members => '{' :: compactMembers members ++ ['}']

def compactItems : List Json → List Char
  | [] => []
  | [j] => j.compactChars
  | j :: rest => j.compactChars ++ ',' :: compactItems rest

def compactMembers : List (String × Json) → List Char
  | [] => []
  | [(key, j)] => quote key ++ ':' :: j.compactChars
  | (key, j) :: rest => quote key ++ ':' :: j.compactChars ++ ',' :: compactMembers rest

end

/-- The compact form. -/
def compact (j : Json) : String := String.ofList j.compactChars

/-- A new line with the indentation of a depth. -/
def newLine (depth : Nat) : List Char := '\n' :: List.replicate (2 * depth) ' '

mutual

/-- The characters of the indented form of a value inside `depth` brackets. -/
def indentedChars (depth : Nat) : Json → List Char
  | .null => "null".toList
  | .bool b => (if b then "true" else "false").toList
  | .number n => n.text.toList
  | .string s => quote s
  | .array [] => ['[', ']']
  | .array items => '[' :: indentedItems (depth + 1) items ++ newLine depth ++ [']']
  | .object [] => ['{', '}']
  | .object members => '{' :: indentedMembers (depth + 1) members ++ newLine depth ++ ['}']

def indentedItems (depth : Nat) : List Json → List Char
  | [] => []
  | [j] => newLine depth ++ j.indentedChars depth
  | j :: rest => newLine depth ++ j.indentedChars depth ++ ',' :: indentedItems depth rest

def indentedMembers (depth : Nat) : List (String × Json) → List Char
  | [] => []
  | [(key, j)] => newLine depth ++ quote key ++ ':' :: ' ' :: j.indentedChars depth
  | (key, j) :: rest =>
    newLine depth ++ quote key ++ ':' :: ' ' :: j.indentedChars depth ++ ',' :: indentedMembers depth rest

end

/-- The indented form. -/
def indented (j : Json) : String := String.ofList (j.indentedChars 0)

end Json

end EnergyGateway
