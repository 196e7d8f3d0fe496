import EnergyGateway.Proofs.Configuration.Forms
import EnergyGateway.Proofs.Decimal
import EnergyGateway.Proofs.KeyMap
import EnergyGateway.Status

/-!
# A configuration is read back from its forms

The configuration manager takes of a form the properties that its list names, each with its first value.  The component
that comes of this is read as it was configured: the readers find the alias, the bridge, the role, the port, the powers,
the state and the settings of the line (`exists_readable_forms`).
-/

namespace EnergyGateway

/-! ### The component of a form -/

namespace Form

/-- The names in the list of a form. -/
def listedNames (f : Form) : List String := (((f.get? "propertylist").getD "").toList.splitOn ',').map String.ofList

/-- The component that a form describes: of each property that the list names, the first value, as a text. -/
def component (factory : String) (f : Form) : Component where
  factory
  properties := .ofList (f.listedNames.filterMap fun key => (f.get? key).map fun value => (key, .string value))

namespace Draft

variable {d : Draft}

theorem Consistent.listedNames_finish (h : d.Consistent) (hne : d.listed ≠ []) : d.finish.listedNames = d.listed := by
  have hlist : d.finish.get? "propertylist" = some (",".intercalate d.listed) := by
    rw [finish, get?_set, if_pos rfl]
  have hsplit : (",".intercalate d.listed).toList.splitOn ',' = d.listed.map String.toList := by
    rw [String.toList_intercalate]
    exact List.splitOn_intercalate ',' (List.forall_mem_map.2 h.no_comma) (by simpa using hne)
  rw [listedNames, hlist, Option.getD_some, hsplit, List.map_map]
  simp [Function.comp_def]

/-- The component of a form has the properties that were filled in, and no others. -/
theorem Consistent.property?_component (h : d.Consistent) (hne : d.listed ≠ []) (factory : String) {k : String}
    (hk : k ∉ controlKeys) : (d.finish.component factory).property? k = (d.form.get? k).map .string := by
  have hproperties : (d.finish.component factory).properties = .ofList (d.finish.listedNames.filterMap fun key =>
      ((d.finish.get? key).map Json.string).map ((key, ·))) := by
    simp only [component, Option.map_map]
    rfl
  have hvalue : d.finish.get? k = d.form.get? k := d.get?_finish (by rintro rfl; exact hk (by decide))
  rw [Component.property?, hproperties, KeyMap.get?_ofList_filterMap, h.listedNames_finish hne, hvalue]
  split
  · rfl
  · -- what is not listed was not filled in, since it steers nothing
    rename_i hlisted
    have hnone : ¬ (d.form.get? k).isSome := by
      rw [isSome_get?_iff]
      exact fun hmem => hlisted (h.listed_eq ▸ mem_propertyKeys.2 ⟨hmem, hk⟩)
    rw [Option.not_isSome_iff_eq_none.1 hnone]
    rfl

end Draft

end Form

/-! ### Readers of a text -/

namespace Component

variable {p : Component} {key : String}

theorem text?_of_string {s : String} (h : p.property? key = some (.string s)) : p.text? key = some s := by
  rw [text?, h]

theorem truth?_of_truth {b : Bool} (h : p.property? key = some (.string (Form.truth b))) : p.truth? key = some b := by
  rw [truth?, h]
  cases b <;> rfl

/-- A property that holds a whole number as a text: the text that is read is the decimal text of the number, and what
it is read as is the number nearest to it. -/
structure Holds (p : Component) (key : String) (n : Nat) : Prop where
  property?_eq : p.property? key = some (.string (toString n))
  number?_eq_text : p.number? key = Decimal.number? (toString n).toList
  number?_eq : p.number? key = some (Decimal.nearest n 0)

theorem holds_of_string {n : Nat} (h : p.property? key = some (.string (toString n))) : p.Holds key n := by
  have hdigits : (toString n).toList = Nat.toDigits 10 n := by simp
  have htrim : Text.trimChars (Nat.toDigits 10 n) = Nat.toDigits 10 n :=
    Text.trimChars_of_not_isBlank fun c hc => Text.not_isBlank_of_isDigit (Decimal.isDigit_of_mem_toDigits hc)
  have hread : p.number? key = Decimal.number? (toString n).toList := by
    rw [number?, h]
    simp only [hdigits, htrim]
  exact ⟨h, hread, by rw [hread, hdigits, Decimal.number?_toDigits]⟩

theorem displayName_of_string {s : String} (h : p.property? "alias" = some (.string s)) (hs : s ≠ "")
    (fallback : String) : p.displayName fallback = s := by
  simp [displayName, h, hs]

end Component

namespace Configuration

open Form (Draft)

/-! ### What the forms say -/

/-- A consistent draft that says how the component is called, in which state it is, and what its properties are. -/
structure Filled (c : Configuration) (d : Draft) : Prop where
  consistent : d.Consistent
  label : d.form.get? "alias" = some c.label
  state : d.form.get? "enabled" = c.enabled?.map Form.truth
  properties : ∀ e ∈ c.properties, d.form.get? e.1 = some e.2

private theorem get?_alias_putAll {c : Configuration} {d : Draft} {properties : List (String × String)}
    (hown : (properties.map Prod.fst).Sublist c.ownNames) :
    (d.putAll properties).form.get? "alias" = d.form.get? "alias" := by
  obtain ⟨-, -, hdisjoint⟩ := List.nodup_append.1 c.nodup_names
  exact Draft.get?_putAll fun hmem => hdisjoint "alias" (by decide) "alias" (hown.subset hmem) rfl

theorem filled_creationDraft (c : Configuration) : c.Filled c.creationDraft := by
  have hown : ((c.properties ++ c.initialProperties).map Prod.fst).Sublist c.ownNames := List.Sublist.refl _
  have hnodup : ((c.properties ++ c.initialProperties).map Prod.fst).Nodup := (List.nodup_append.1 c.nodup_names).2.1
  refine ⟨c.creationDraft_consistent.1, ?_, c.creationDraft_consistent.2, fun e he => ?_⟩
  · rw [creationDraft, ← Draft.putAll_append, get?_alias_putAll hown]
    cases c.enabled? <;> simp [Draft.get?_put]
  · rw [creationDraft, ← Draft.putAll_append]
    exact Draft.get?_putAll_of_mem hnodup (List.mem_append_left _ he)

theorem filled_changeDraft (c : Configuration) : c.Filled c.changeDraft := by
  have hnodup : (c.properties.map Prod.fst).Nodup := (List.nodup_append.1 c.nodup_names).2.1.sublist c.own_properties
  refine ⟨c.changeDraft_consistent.1, ?_, c.changeDraft_consistent.2, fun e he => ?_⟩
  · rw [changeDraft, get?_alias_putAll c.own_properties]
    cases c.enabled? <;> cases c.hasCheckbox <;> simp [Draft.get?_put, Draft.get?_putCheckbox]
  · exact Draft.get?_putAll_of_mem hnodup he

namespace Filled

variable {c : Configuration} {d : Draft}

private theorem property? (h : c.Filled d) {k : String} (hk : k ∉ Form.controlKeys) :
    (d.finish.component c.factory).property? k = (d.form.get? k).map .string := by
  refine h.consistent.property?_component ?_ c.factory hk
  have halias : "alias" ∈ d.listed := by
    rw [h.consistent.listed_eq, Form.mem_propertyKeys, ← Form.isSome_get?_iff, h.label]
    exact ⟨rfl, by decide⟩
  exact List.ne_nil_of_mem halias

theorem property?_alias (h : c.Filled d) :
    (d.finish.component c.factory).property? "alias" = some (.string c.label) := by
  rw [h.property? (by decide), h.label, Option.map_some]

theorem property?_enabled (h : c.Filled d) :
    (d.finish.component c.factory).property? "enabled" = c.enabled?.map fun b => .string (Form.truth b) := by
  rw [h.property? (by decide), h.state, Option.map_map]
  rfl

theorem property?_of_mem (h : c.Filled d) {e : String × String} (he : e ∈ c.properties) :
    (d.finish.component c.factory).property? e.1 = some (.string e.2) := by
  have hown : e.1 ∈ c.ownNames := c.own_properties.subset (List.mem_map_of_mem he)
  rw [h.property? (c.names_fit e.1 (List.mem_append_right _ hown)).1, h.properties e he, Option.map_some]

end Filled

/-! ### What is configured -/

/-- The bridge to which a device is connected. -/
def bridge? : Configuration → Option String
  | .inverter c => some c.bridge
  | .meter c => some c.bridge
  | .storage c => some c.bridge
  | _ => none

/-- What is metered. -/
def role? : Configuration → Option String
  | .meter c => some c.role
  | _ => none

def portName? : Configuration → Option String
  | .serialPort c => some c.portName
  | _ => none

/-- The power for which an inverter is rated, in watts. -/
def ratedPower? : Configuration → Option Nat
  | .inverter c => some c.ratedPower.toNat
  | _ => none

/-- The power to which the inverters are limited, in watts. -/
def limit? : Configuration → Option Nat
  | .limitController c => some c.limit.toNat
  | _ => none

end Configuration

/-- The letter for a parity in the short form of a line. -/
def Parity.initial : Parity → String
  | .none => "N"
  | .even => "E"
  | .odd => "O"
  | .mark => "M"
  | .space => "S"

/-- The number of stop bits. -/
def StopBits.count : StopBits → String
  | .one => "1"
  | .onePointFive => "1.5"
  | .two => "2"

namespace Configuration

/-- What the readers find in a component is what the configuration says. -/
structure ReadBack (c : Configuration) (p : Component) : Prop where
  factory : p.factory = c.factory
  displayName : ∀ fallback, p.displayName fallback = c.label
  bridge : ∀ bridge, c.bridge? = some bridge → p.text? "modbus.id" = some bridge
  role : ∀ role, c.role? = some role → p.text? "type" = some role
  portName : ∀ port, c.portName? = some port → p.text? "portName" = some port
  ratedPower : ∀ watts, c.ratedPower? = some watts → p.Holds "maxActivePower" watts
  limit : ∀ watts, c.limit? = some watts → p.Holds "powerLimit" watts
  enabled : p.truth? "enabled" = c.enabled?
  summary : ∀ port name, c = .serialPort port → serialSummary name p =
    name ++ ": " ++ toString port.line.baudRate.toNat ++ "-" ++ toString port.line.databits.toNat ++
      port.line.parity.initial ++ port.line.stopbits.count

theorem label_ne_empty {c : Configuration} (h : c.validate = .ok ()) : c.label ≠ "" := by
  have hrequire : ∀ {field value : String} {u : Unit}, requireText field value = .ok u → value ≠ "" := by
    rintro field _ u hrequired rfl
    cases hrequired
  cases c with
  | serialPort c =>
    obtain ⟨_, hid, -⟩ := exists_of_bind_eq_ok h
    exact hrequire hid
  | inverter c =>
    obtain ⟨_, -, h⟩ := exists_of_bind_eq_ok h
    obtain ⟨_, hid, -⟩ := exists_of_bind_eq_ok h
    exact hrequire hid
  | meter c | storage c =>
    obtain ⟨_, -, h⟩ := exists_of_bind_eq_ok h
    obtain ⟨_, -, h⟩ := exists_of_bind_eq_ok h
    obtain ⟨_, hlabel, -⟩ := exists_of_bind_eq_ok h
    exact hrequire hlabel
  | limitController c =>
    obtain ⟨_, -, h⟩ := exists_of_bind_eq_ok h
    obtain ⟨_, hlabel, -⟩ := exists_of_bind_eq_ok h
    exact hrequire hlabel
  | account c =>
    rintro hlabel
    change c.passwordDigest = "" at hlabel
    rw [validate, hlabel] at h
    cases h

/-- The component of a filled draft is read as it was configured. -/
theorem Filled.readBack {c : Configuration} {d : Form.Draft} (h : c.Filled d) (hlabel : c.label ≠ "") :
    c.ReadBack (d.finish.component c.factory) := by
  have hproperty {k v : String} (he : (k, v) ∈ c.properties) :
      (d.finish.component c.factory).property? k = some (.string v) := h.property?_of_mem he
  have htext {k v : String} (he : (k, v) ∈ c.properties) : (d.finish.component c.factory).text? k = some v :=
    Component.text?_of_string (hproperty he)
  refine ⟨rfl, Component.displayName_of_string h.property?_alias hlabel, ?_, ?_, ?_, ?_, ?_, ?_, ?_⟩
  · intro bridge hbridge
    cases c with
    | inverter c | meter c | storage c =>
      cases hbridge
      exact htext (by simp [Configuration.properties])
    | _ => cases hbridge
  · intro role hrole
    cases c with
    | meter c =>
      cases hrole
      exact htext (by simp [Configuration.properties])
    | _ => cases hrole
  · intro port hport
    cases c with
    | serialPort c =>
      cases hport
      exact htext (by simp [Configuration.properties])
    | _ => cases hport
  · intro watts hwatts
    cases c with
    | inverter c =>
      cases hwatts
      exact Component.holds_of_string (hproperty (by simp [Configuration.properties]))
    | _ => cases hwatts
  · intro watts hwatts
    cases c with
    | limitController c =>
      cases hwatts
      exact Component.holds_of_string (hproperty (by simp [Configuration.properties]))
    | _ => cases hwatts
  · have henabled := h.property?_enabled
    cases hstate : c.enabled? with
    | some b =>
      rw [hstate] at henabled
      exact Component.truth?_of_truth henabled
    | none =>
      rw [hstate] at henabled
      rw [Component.truth?, henabled]
      rfl
  · rintro port name rfl
    have hbaud := htext (k := "baudRate") (v := toString port.line.baudRate.toNat) (by simp [Configuration.properties])
    have hdatabits := htext (k := "databits") (v := toString port.line.databits.toNat)
      (by simp [Configuration.properties])
    have hstopbits := htext (k := "stopbits") (v := port.line.stopbits.word) (by simp [Configuration.properties])
    have hparity := htext (k := "parity") (v := port.line.parity.word) (by simp [Configuration.properties])
    rw [serialSummary, hbaud, hdatabits, hstopbits, hparity]
    cases port.line.parity <;> cases port.line.stopbits <;> rfl

/-- Both forms of a configuration that passes the checks describe a component that is read as it was configured. -/
theorem exists_readable_forms (c : Configuration) (h : c.validate = .ok ()) :
    ∃ create update, c.createForm = .ok create ∧ c.updateForm = .ok update ∧
      c.ReadBack (create.component c.factory) ∧ c.ReadBack (update.component c.factory) := by
  refine ⟨c.creationDraft.finish, c.changeDraft.finish, ?_, ?_, ?_, ?_⟩
  · rw [createForm, h]
    rfl
  · rw [updateForm, h]
    rfl
  · exact c.filled_creationDraft.readBack (label_ne_empty h)
  · exact c.filled_changeDraft.readBack (label_ne_empty h)

/-- A serial bridge with settings that are none of the standard ones. -/
private def unusualPort : Configuration := .serialPort ⟨"modbus1", "/dev/ttyS1", ⟨19200, 7, .onePointFive, .mark⟩⟩

theorem exists_readable_forms_unusual :
    unusualPort.validate = .ok () ∧
    ∃ create update, unusualPort.createForm = .ok create ∧ unusualPort.updateForm = .ok update ∧
      serialSummary "RS485-2" (create.component "Bridge.Modbus.Serial") = "RS485-2: 19200-7M1.5" ∧
      serialSummary "RS485-2" (update.component "Bridge.Modbus.Serial") = "RS485-2: 19200-7M1.5" := by
  have hvalid : unusualPort.validate = .ok () := by decide +kernel
  obtain ⟨create, update, hcreate, hupdate, hread, hread'⟩ := exists_readable_forms unusualPort hvalid
  exact ⟨hvalid, create, update, hcreate, hupdate, hread.summary _ "RS485-2" rfl, hread'.summary _ "RS485-2" rfl⟩

end Configuration

end EnergyGateway
