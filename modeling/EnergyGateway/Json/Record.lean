import EnergyGateway.Json.Basic
import EnergyGateway.Text.Digits

/-!
# Records in JSON

A record has declared fields.  It is written as an object, or, if it is closed, also as an array that lists the
fields in their order.  A declared field must not be repeated.  A closed record ignores the members it does not
declare; an open record keeps them.

`Fields` is a record taken apart: the declared fields that are there, and the members that are left.
-/

namespace EnergyGateway

/-- A record taken apart. -/
structure Fields where
  declared : List (String × Document)
  /-- Whether the record was written as an array. -/
  positional : Bool
  others : List (String × Document)

namespace Document

/-- The object's declared and other members, none if a declared one is repeated. -/
def split? (names : List String) (members : List (String × Document)) : Option Fields :=
  let declared := members.filter (names.contains ·.1)
  if (declared.map Prod.fst).Nodup then
    some ⟨declared, false, members.filter (!names.contains ·.1)⟩
  else none

/-- A record that keeps the members it does not declare. -/
def openRecord? (names : List String) : Document → Option Fields
  | .object members => split? names members
  | _ => none

/-- A record that ignores the members it does not declare, as an object or as an array of at most as many items
as there are fields. -/
def closedRecord? (names : List String) : Document → Option Fields
  | .object members => split? names members
  | .array items => if items.length ≤ names.length then some ⟨names.zip items, true, []⟩ else none
  | _ => none

/-! ### Readers of single values -/

def text : Document → Option String
  | .string s => some s
  | _ => none

def boolean : Document → Option Bool
  | .bool b => some b
  | _ => none

/-- A whole number from `0` to `max`. -/
def natural (max : Nat) : Document → Option Nat
  | .number (.int (.ofNat n)) => if n ≤ max then some n else none
  | _ => none

/-- A whole number of a signed word of 64 bits. -/
def word : Document → Option Int
  | .number (.int n) => if n < (Nat.pow 2 63 : Int) then some n else none
  | _ => none

/-- Any number, as binary64. -/
def float : Document → Option Float
  | .number (.float x) => some x
  | .number (.int n) => some (Float.ofInt n)
  | _ => none

/-- A list whose items all read. -/
def list {α : Type} (item : Document → Option α) : Document → Option (List α)
  | .array items => items.mapM item
  | _ => none

/-- An open map whose values all read; the last of repeated keys counts. -/
def map {α : Type} (item : Document → Option α) : Document → Option (KeyMap α)
  | .object members => (members.mapM fun m => (item m.2).map ((m.1, ·))).map KeyMap.ofList
  | _ => none

/-- `null` for none. -/
def option {α : Type} (item : Document → Option α) : Document → Option (Option α)
  | .null => some none
  | d => (item d).map some

end Document

namespace Fields

variable {α : Type}

/-- A field that must be there. -/
def required (r : Fields) (name : String) (item : Document → Option α) : Option α :=
  (r.declared.lookup name).bind item

/-- A field with a value for when it is missing. -/
def withDefault (r : Fields) (name : String) (item : Document → Option α) (value : α) : Option α :=
  match r.declared.lookup name with
  | none => some value
  | some d => item d

/-- A field that may be `null` or missing. -/
def optional (r : Fields) (name : String) (item : Document → Option α) : Option (Option α) :=
  r.withDefault name (Document.option item) none

/-- A field that may be `null`, or missing from an object, but not from an array. -/
def optionalByName (r : Fields) (name : String) (item : Document → Option α) : Option (Option α) :=
  if r.positional then r.required name (Document.option item) else r.optional name item

/-- The members that are not declared, in key order. -/
def rest (r : Fields) : Option (KeyMap Json) := (Document.memberValues? r.others).map KeyMap.ofList

end Fields

end EnergyGateway
