import EnergyGateway.Json.Printer
import EnergyGateway.Text.Percent

/-!
# Forms

The configuration manager takes changes as forms: fields in order, the same key possibly more than once.  Of a
repeated key it keeps the first value, which is how a checkbox is sent: `true` followed by the `false` that
every box sends.
-/

namespace EnergyGateway

mutual

/-- A property value as the text of a form field: nothing for `null`, the items of an array with commas between
them, and JSON text for an object. -/
def formValue : Json → String
  | .null => ""
  | .bool b => if b then "true" else "false"
  | .number n => n.text
  | .string s => s
  | .array items => ",".intercalate (formValues items)
  | .object members => (Json.object members).compact

def formValues : List Json → List String
  | [] => []
  | j :: rest => formValue j :: formValues rest

end

/-- A form: its fields in the order in which they are sent. -/
structure Form where
  fields : List (String × String) := []
  deriving DecidableEq, Repr, Inhabited

namespace Form

/-- Fields in which the first one named `key` takes the value and later ones of that name are dropped; a new field
goes to the end. -/
def setField (key value : String) : List (String × String) → List (String × String)
  | [] => [(key, value)]
  | (k, v) :: rest =>
    if k = key then (key, value) :: rest.filter (·.1 ≠ key) else (k, v) :: setField key value rest

/-- Give a field one value. -/
def set (f : Form) (key value : String) : Form := ⟨setField key value f.fields⟩

/-- Send one more value for a field. -/
def append (f : Form) (key value : String) : Form := ⟨f.fields ++ [(key, value)]⟩

def remove (f : Form) (key : String) : Form := ⟨f.fields.filter (·.1 ≠ key)⟩

/-- The text of a truth value in a form. -/
def truth (b : Bool) : String := if b then "true" else "false"

/-- A checked box sends `true` and then `false`, an unchecked one only `false`. -/
def setCheckbox (f : Form) (key : String) (checked : Bool) : Form :=
  let bare := f.remove key
  (if checked then bare.append key "true" else bare).append key "false"

/-- Fields set one after the other. -/
def setAll (f : Form) (fields : List (String × String)) : Form :=
  fields.foldl (fun f (key, value) => f.set key value) f

/-- One field per property, in key order. -/
def ofProperties (properties : KeyMap Json) : Form :=
  Form.setAll {} (properties.entries.map fun (key, value) => (key, formValue value))

/-- The value that counts: the first one. -/
def get? (f : Form) (key : String) : Option String := f.fields.lookup key

def getAll (f : Form) (key : String) : List String := (f.fields.filter (·.1 = key)).map Prod.snd

def contains (f : Form) (key : String) : Bool := f.fields.any (·.1 == key)

/-- The first occurrence of each text. -/
def distinct : List String → List String
  | [] => []
  | k :: rest => k :: (distinct rest).filter (· ≠ k)

/-- The names of the fields, each once, by first occurrence. -/
def keys (f : Form) : List String := distinct (f.fields.map Prod.fst)

/-- A field with name and value encoded. -/
def encodeField (field : String × String) : List Char :=
  Text.percentEncode field.1.toList ++ '=' :: Text.percentEncode field.2.toList

/-- The form as the body of a request. -/
def encode (f : Form) : String := String.ofList (['&'].intercalate (f.fields.map encodeField))

end Form

end EnergyGateway
