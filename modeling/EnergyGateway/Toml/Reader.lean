import EnergyGateway.Toml.Scalar
import EnergyGateway.Toml.Table

/-!
# Reading TOML

A text is a list of lines, each with a header, a key and its value, or nothing; values with brackets may run
over several lines, with comments at their ends.  Each header opens the table that the keys behind it belong to.
The result is the document of the whole table, none if the text breaks a rule anywhere.
-/

namespace EnergyGateway.Toml

/-! ### Values -/

/-- How deep arrays and tables may stand in each other within one value. -/
def depthLimit : Nat := 80

/-- Skip blanks, line breaks and comments.  A comment runs to the end of its line. -/
def skipLines (inComment : Bool) : List Char → Option (List Char)
  | [] => some []
  | '\r' :: '\n' :: rest => skipLines false rest
  | '\n' :: rest => skipLines false rest
  | c :: rest =>
    if inComment then if isPlain c then skipLines true rest else none
    else if c = '#' then skipLines true rest
    else if isBlank c then skipLines false rest
    else some (c :: rest)

mutual

/-- The value in front of the rest of a text.  Each step needs fuel for itself and for the parts of the value. -/
def value? : Nat → Nat → List Char → Option (Document × List Char)
  | 0, _, _ => none
  | fuel + 1, depth, cs =>
    match cs with
    | '[' :: rest =>
      if depthLimit ≤ depth then none else (items? fuel (depth + 1) rest).map fun (ds, r) => (.array ds, r)
    | '{' :: rest =>
      if depthLimit ≤ depth then none
      else (pairs? fuel (depth + 1) [] rest).map fun (ms, r) => (.object (memberDocuments ms), r)
    | '"' :: _ | '\'' :: _ => (text? cs).map fun (t, r) => (.string (String.ofList t), r)
    | _ =>
      let (w, rest) := word cs
      (scalar? w).map (·, rest)

/-- The items of an array up to its closing bracket. -/
def items? : Nat → Nat → List Char → Option (List Document × List Char)
  | 0, _, _ => none
  | fuel + 1, depth, cs => do
    match ← skipLines false cs with
    | ']' :: rest => return ([], rest)
    | cs =>
      let (d, rest) ← value? fuel depth cs
      match ← skipLines false rest with
      | ',' :: rest =>
        let (ds, rest) ← items? fuel depth rest
        return (d :: ds, rest)
      | ']' :: rest => return ([d], rest)
      | _ => none

/-- The keys and values of a table up to its closing brace, behind those that were read. -/
def pairs? : Nat → Nat → Members → List Char → Option (Members × List Char)
  | 0, _, _, _ => none
  | fuel + 1, depth, ms, cs => do
    match ← skipLines false cs with
    | '}' :: rest => return (ms, rest)
    | cs =>
      let (key, rest) ← key? cs
      match ← skipLines false rest with
      | '=' :: rest =>
        let (d, rest) ← value? fuel depth (← skipLines false rest)
        let ms ← ms.assign d true key
        match ← skipLines false rest with
        | ',' :: rest => pairs? fuel depth ms rest
        | '}' :: rest => return (ms, rest)
        | _ => none
      | _ => none

end

/-! ### Lines -/

inductive Line where
  /-- The header of a table. -/
  | table (key : List String)
  /-- The header of one more table of an array. -/
  | item (key : List String)
  | pair (key : List String) (value : Document)
  | empty

/-- What follows the end of a line; the text may end instead. -/
def behindLine? (cs : List Char) : Option (List Char) :=
  let cs := skipBlanks cs
  let cs := match cs with
    | '#' :: rest => rest.dropWhile isPlain
    | _ => cs
  match cs with
  | [] => some []
  | '\n' :: rest | '\r' :: '\n' :: rest => some rest
  | _ => none

/-- What a line says, and what follows it. -/
def line? (cs : List Char) : Option (Line × List Char) := do
  match skipBlanks cs with
  | [] | '#' :: _ | '\n' :: _ | '\r' :: _ => return (.empty, cs)
  | '[' :: '[' :: rest =>
    match ← key? rest with
    | (key, ']' :: ']' :: rest) => return (.item key, rest)
    | _ => none
  | '[' :: rest =>
    match ← key? rest with
    | (key, ']' :: rest) => return (.table key, rest)
    | _ => none
  | cs =>
    match ← key? cs with
    | (key, '=' :: rest) =>
      let (d, rest) ← value? (2 * cs.length + 1) 0 (skipBlanks rest)
      return (.pair key d, rest)
    | _ => none

/-- The lines of a text, each of which takes fuel. -/
def lines? : Nat → List Char → Option (List Line)
  | 0, _ => none
  | fuel + 1, cs => do
    let (line, rest) ← line? cs
    match ← behindLine? rest with
    | [] => return [line]
    | rest => return line :: (← lines? fuel rest)

/-! ### Documents -/

/-- What was read so far: the whole table, and the path of the one that the next keys belong to. -/
structure Reading where
  root : Members := []
  current : List String := []

/-- Take in a line. -/
def Reading.take (r : Reading) : Line → Option Reading
  | .empty => some r
  | .table key => do
    let name ← key.getLast?
    return ⟨← r.root.changeAt (Members.openTable name) key.dropLast, key⟩
  | .item key => do
    let name ← key.getLast?
    return ⟨← r.root.changeAt (Members.openItem name) key.dropLast, key⟩
  | .pair key d => (r.root.changeAt (Members.assign d true key) r.current).map (⟨·, r.current⟩)

/-- The document that a whole text writes.  A byte order mark in front does not count. -/
def read (s : String) : Option Document := do
  let cs := match s.toList with
    | '\uFEFF' :: rest => rest
    | cs => cs
  let reading ← (← lines? (cs.length + 1) cs).foldlM Reading.take {}
  return .object (memberDocuments reading.root)

end EnergyGateway.Toml
