import EnergyGateway.Json.Basic

/-!
# Tables in TOML

A table comes about in one of three ways: by its own header, by a header of a table inside it, or by a key with
dots.  How it came about decides what may still be added.  A value is complete where it stands, also if it is a
table or an array, but an array of tables grows with every header that repeats its name.
-/

namespace EnergyGateway.Toml

/-- How a table came about. -/
inductive Origin where
  /-- By its own header. -/
  | header
  /-- By the header of a table inside it. -/
  | implied
  /-- By a key with dots. -/
  | dotted
  deriving DecidableEq, Repr

inductive Entry where
  | value (d : Document)
  | table (origin : Origin) (members : List (String × Entry))
  /-- An array of tables that have headers, the latest first. -/
  | tables (items : List (List (String × Entry)))
  deriving Inhabited

/-- The entries of a table, by name. -/
abbrev Members := List (String × Entry)

namespace Members

/-- Give a name another entry; a new name goes to the end. -/
def put (name : String) (e : Entry) : Members → Members
  | [] => [(name, e)]
  | (n, old) :: rest => if n = name then (name, e) :: rest else (n, old) :: put name e rest

/-- Change the table at the end of a path of names in a header.  Tables on the way that are not there yet are
implied; of an array of tables the latest counts. -/
def changeAt (change : Members → Option Members) : List String → Members → Option Members
  | [], ms => change ms
  | name :: path, ms =>
    match ms.lookup name with
    | none => (changeAt change path []).map fun inner => ms.put name (.table .implied inner)
    | some (.table origin inner) => (changeAt change path inner).map fun inner => ms.put name (.table origin inner)
    | some (.tables (latest :: items)) =>
      (changeAt change path latest).map fun latest => ms.put name (.tables (latest :: items))
    | some _ => none

/-- Open a table under a name: a new one, or one that a header only implied. -/
def openTable (name : String) (ms : Members) : Option Members :=
  match ms.lookup name with
  | none => some (ms.put name (.table .header []))
  | some (.table .implied inner) => some (ms.put name (.table .header inner))
  | some _ => none

/-- Open one more table of an array of tables. -/
def openItem (name : String) (ms : Members) : Option Members :=
  match ms.lookup name with
  | none => some (ms.put name (.tables [[]]))
  | some (.tables items) => some (ms.put name (.tables ([] :: items)))
  | some _ => none

/-- Set a value under a key.  Names in front of the last lead through tables, which a header must not have
opened; the table that takes the value is the one where the key starts, or one that came about by keys with
dots. -/
def assign (d : Document) (takesValues : Bool) : List String → Members → Option Members
  | [], _ => none
  | [name], ms =>
    match ms.lookup name with
    | none => if takesValues then some (ms.put name (.value d)) else none
    | some _ => none
  | name :: path, ms =>
    match ms.lookup name with
    | none => (assign d true path []).map fun inner => ms.put name (.table .dotted inner)
    | some (.table .header _) => none
    | some (.table origin inner) =>
      (assign d (origin == .dotted) path inner).map fun inner => ms.put name (.table origin inner)
    | some (.tables (latest :: items)) =>
      (assign d false path latest).map fun latest => ms.put name (.tables (latest :: items))
    | some _ => none

end Members

mutual

/-- The document of an entry. -/
def Entry.document : Entry → Document
  | .value d => d
  | .table _ members => .object (memberDocuments members)
  | .tables items => .array (tableDocuments items).reverse

def memberDocuments : List (String × Entry) → List (String × Document)
  | [] => []
  | (name, e) :: rest => (name, e.document) :: memberDocuments rest

def tableDocuments : List (List (String × Entry)) → List Document
  | [] => []
  | members :: rest => .object (memberDocuments members) :: tableDocuments rest

end

end EnergyGateway.Toml
