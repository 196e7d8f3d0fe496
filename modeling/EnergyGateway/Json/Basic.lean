import EnergyGateway.KeyMap

/-!
# JSON trees

`Json` is the value of a JSON text.  Members of an object stand in the order in which they are written out; an open map
has them in key order, a record in the order of its fields.

`Document` is what a text is read to.  It still has the members of an object as the text lists them,
repeats included, because a record refuses a repeated field while an open map lets the last one win.  A part that is
well-formed text but has no value is `unreadable`: it is harmless in a member nobody asks for and an error
everywhere else.
-/

namespace EnergyGateway

/-- A number is a whole number of a 64-bit word, signed or not, or a binary64 number. -/
inductive Number where
  | int (n : Int)
  | float (x : Float)
  deriving DecidableEq

/-- A JSON value. -/
inductive Json where
  | null
  | bool (b : Bool)
  | number (n : Number)
  | string (s : String)
  | array (items : List Json)
  | object (members : List (String × Json))
  deriving Inhabited

/-- A JSON text as it is written. -/
inductive Document where
  | null
  | bool (b : Bool)
  | number (n : Number)
  | string (s : String)
  | array (items : List Document)
  | object (members : List (String × Document))
  | unreadable
  deriving Inhabited

namespace Json

def nat (n : Nat) : Json := .number (.int n)

def float (x : Float) : Json := .number (.float x)

/-- The value of an option, `null` when there is none. -/
def ofOption {α : Type} (write : α → Json) : Option α → Json
  | none => .null
  | some a => write a

/-- The member of an object. -/
def member? (key : String) : Json → Option Json
  | .object members => members.lookup key
  | _ => none

/-- The value at the end of a path of member names. -/
def at? : List String → Json → Option Json
  | [], j => some j
  | key :: path, j => (j.member? key).bind (at? path)

def text? : Json → Option String
  | .string s => some s
  | _ => none

def isNull : Json → Bool
  | .null => true
  | _ => false

mutual

/-- The text of a value, seen as what reading it gives. -/
def document : Json → Document
  | .null => .null
  | .bool b => .bool b
  | .number n => .number n
  | .string s => .string s
  | .array items => .array (documents items)
  | .object members => .object (memberDocuments members)

def documents : List Json → List Document
  | [] => []
  | j :: rest => j.document :: documents rest

def memberDocuments : List (String × Json) → List (String × Document)
  | [] => []
  | (key, j) :: rest => (key, j.document) :: memberDocuments rest

end

end Json

namespace Document

mutual

/-- The value of a text in which every part has one; the members of each object are put into key order. -/
def value? : Document → Option Json
  | .null => some .null
  | .bool b => some (.bool b)
  | .number n => some (.number n)
  | .string s => some (.string s)
  | .array items => (values? items).map .array
  | .object members => (memberValues? members).map fun ms => .object (sortKeys ms)
  | .unreadable => none

def values? : List Document → Option (List Json)
  | [] => some []
  | d :: rest => do
    let j ← d.value?
    let js ← values? rest
    return j :: js

def memberValues? : List (String × Document) → Option (List (String × Json))
  | [] => some []
  | (key, d) :: rest => do
    let j ← d.value?
    let js ← memberValues? rest
    return (key, j) :: js

end

end Document

end EnergyGateway
