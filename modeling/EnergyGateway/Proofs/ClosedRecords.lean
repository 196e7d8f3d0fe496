import EnergyGateway.Configuration.Basic
import EnergyGateway.Network
import EnergyGateway.Rpc.Message
import EnergyGateway.Proofs.Json.ClosedRecord

/-!
# Closed records are read back from their texts

Configurations, interfaces and their updates, and the requests for an edge are closed records: what is read has their
fields and nothing else.  Each is read back from the compact form of what is written for it
(`closed_records_read_back`).
-/

namespace EnergyGateway

/-! ### Values of fields -/

namespace Document

theorem text_string (s : String) : text (Json.string s).document = some s := rfl

theorem boolean_bool (b : Bool) : boolean (Json.bool b).document = some b := rfl

theorem option_text (s : String) : option text (Json.string s).document = some (some s) := rfl

theorem option_boolean (b : Bool) : option boolean (Json.bool b).document = some (some b) := rfl

end Document

namespace Configuration

open Document (text_string boolean_bool list_document)
open Json (within_string within_bool within_nat within_array within_object)

theorem natural_toNat {max n : Nat} (h : n ≤ max) : (Json.nat n).document.natural max = some n := if_pos h

theorem byte_toNat (n : UInt8) : byte (Json.nat n.toNat).document = some n := by
  rw [byte, natural_toNat (Nat.le_of_lt_succ n.toNat_lt), Option.map_some, UInt8.ofNat_toNat]

theorem short_toNat (n : UInt16) : short (Json.nat n.toNat).document = some n := by
  rw [short, natural_toNat (Nat.le_of_lt_succ n.toNat_lt), Option.map_some, UInt16.ofNat_toNat]

theorem medium_toNat (n : UInt32) : medium (Json.nat n.toNat).document = some n := by
  rw [medium, natural_toNat (Nat.le_of_lt_succ n.toNat_lt), Option.map_some, UInt32.ofNat_toNat]

theorem long_toNat (n : UInt64) : long (Json.nat n.toNat).document = some n := by
  have hn : n.toNat ≤ Text.wordMax := Nat.le_of_lt_succ n.toNat_lt
  rw [long, natural_toNat hn, Option.map_some, UInt64.ofNat_toNat]

theorem stopBits_word (b : StopBits) : Document.choice StopBits.ofWord? (Json.string b.word).document = some b := by
  cases b <;> rfl

theorem parity_word (p : Parity) : Document.choice Parity.ofWord? (Json.string p.word).document = some p := by
  cases p <;> rfl

/-! ### Configurations -/

/-- The name of a kind of configuration, as its text has it. -/
def kind (c : Configuration) : String :=
  match c.json with
  | .object ((_, .string kind) :: _) => kind
  | _ => ""

/-- The members that stand beside the kind. -/
def members (c : Configuration) : List (String × Json) :=
  match c.json with
  | .object (_ :: members) => members
  | _ => []

theorem json_eq (c : Configuration) : c.json = .object (("kind", .string c.kind) :: c.members) := by
  cases c <;> rfl

theorem readSerialPort_members (c : SerialPort) :
    readSerialPort (Json.object (serialPort c).members).document = some c := by
  obtain ⟨r, hr, hfields⟩ := exists_closedRecord?_document
    ["id", "portName", "baudRate", "databits", "stopbits", "parity"] (serialPort c).members rfl (by decide)
  simp only [members, json, List.forall_mem_cons] at hfields
  obtain ⟨hid, hport, hbaud, hdata, hstop, hparity, -⟩ := hfields
  simp [readSerialPort, hr, hid.required (text_string _), hport.required (text_string _),
    hbaud.required (medium_toNat _), hdata.required (byte_toNat _), hstop.required (stopBits_word _),
    hparity.required (parity_word _)]

theorem readInverter_members (c : Inverter) : readInverter (Json.object (inverter c).members).document = some c := by
  obtain ⟨r, hr, hfields⟩ := exists_closedRecord?_document
    ["factoryId", "id", "maxActivePowerW", "modbusId", "modbusUnitId"] (inverter c).members rfl (by decide)
  simp only [members, json, List.forall_mem_cons] at hfields
  obtain ⟨hfactory, hid, hpower, hbridge, hunit, -⟩ := hfields
  simp [readInverter, hr, hfactory.required (text_string _), hid.required (text_string _),
    hpower.required (medium_toNat _), hbridge.required (text_string _), hunit.required (short_toNat _)]

theorem readMeter_members (c : Meter) : readMeter (Json.object (meter c).members).document = some c := by
  obtain ⟨r, hr, hfields⟩ := exists_closedRecord?_document
    ["factoryId", "id", "alias", "meterType", "modbusId", "modbusUnitId", "invert"] (meter c).members rfl (by decide)
  simp only [members, json, List.forall_mem_cons] at hfields
  obtain ⟨hfactory, hid, hlabel, hrole, hbridge, hunit, hinvert, -⟩ := hfields
  simp [readMeter, hr, hfactory.required (text_string _), hid.required (text_string _), hlabel.required (text_string _),
    hrole.required (text_string _), hbridge.required (text_string _), hunit.required (short_toNat _),
    hinvert.required (boolean_bool _)]

theorem readStorage_members (c : Storage) : readStorage (Json.object (storage c).members).document = some c := by
  obtain ⟨r, hr, hfields⟩ := exists_closedRecord?_document
    ["factoryId", "id", "alias", "modbusId", "modbusUnitId"] (storage c).members rfl (by decide)
  simp only [members, json, List.forall_mem_cons] at hfields
  obtain ⟨hfactory, hid, hlabel, hbridge, hunit, -⟩ := hfields
  simp [readStorage, hr, hfactory.required (text_string _), hid.required (text_string _),
    hlabel.required (text_string _), hbridge.required (text_string _), hunit.required (short_toNat _)]

theorem readLimitController_members (c : LimitController) :
    readLimitController (Json.object (limitController c).members).document = some c := by
  obtain ⟨r, hr, hfields⟩ := exists_closedRecord?_document
    ["id", "alias", "enabled", "powerLimitW", "inverterIds"] (limitController c).members rfl (by decide)
  simp only [members, json, List.forall_mem_cons] at hfields
  obtain ⟨hid, hlabel, henabled, hlimit, hinverters, -⟩ := hfields
  simp [readLimitController, hr, hid.required (text_string _), hlabel.required (text_string _),
    henabled.required (boolean_bool _), hlimit.required (long_toNat _),
    hinverters.required (list_document fun s _ => text_string s)]

theorem readAccount_members (c : Account) : readAccount (Json.object (account c).members).document = some c := by
  obtain ⟨r, hr, hfields⟩ := exists_closedRecord?_document
    ["passwordHash"] (account c).members rfl (by decide)
  simp only [members, json, List.forall_mem_cons] at hfields
  simp [readAccount, hr, hfields.1.required (text_string _)]

/-- No kind has a member of the name that the kind itself has. -/
theorem ne_kind_of_mem_members {c : Configuration} : ∀ e ∈ c.members, e.1 ≠ "kind" := by
  cases c <;> simp [members, json]

/-- The kind is found wherever it stands. -/
theorem tagged?_of_split (tag : String) {front back : List (String × Json)} (h : ∀ e ∈ front ++ back, e.1 ≠ "kind") :
    tagged? (Json.object (front ++ ("kind", .string tag) :: back)).document =
      some (tag, (Json.object (front ++ back)).document) := by
  obtain ⟨hfront, hback⟩ := List.forall_mem_append.1 h
  have hdocuments {members : List (String × Json)} (h : ∀ e ∈ members, e.1 ≠ "kind") :
      ∀ e ∈ Json.memberDocuments members, e.1 ≠ "kind" := by
    rw [Json.memberDocuments_eq_map]
    exact List.forall_mem_map.2 h
  have hnone {members : List (String × Json)} (h : ∀ e ∈ members, e.1 ≠ "kind") :
      (Json.memberDocuments members).filter (·.1 == "kind") = [] :=
    List.filter_eq_nil_iff.2 fun e he => by simpa using hdocuments h e he
  have hall {members : List (String × Json)} (h : ∀ e ∈ members, e.1 ≠ "kind") :
      (Json.memberDocuments members).filter (·.1 != "kind") = Json.memberDocuments members :=
    List.filter_eq_self.2 fun e he => by simpa using hdocuments h e he
  have happend (l l' : List (String × Json)) :
      Json.memberDocuments (l ++ l') = Json.memberDocuments l ++ Json.memberDocuments l' := by
    simp only [Json.memberDocuments_eq_map, List.map_append]
  simp [Json.document, tagged?, happend, Json.memberDocuments, hnone hfront, hnone hback, hall hfront, hall hback]

/-- A configuration is read back wherever its kind stands. -/
theorem read_of_split (c : Configuration) {front back : List (String × Json)} (h : c.members = front ++ back) :
    read (Json.object (front ++ ("kind", .string c.kind) :: back)).document = some c := by
  obtain ⟨v, hv⟩ := Json.exists_value?_document (Json.object (front ++ ("kind", .string c.kind) :: back))
  have htagged := tagged?_of_split c.kind (h ▸ ne_kind_of_mem_members)
  rw [← h] at htagged
  rw [read, hv, htagged]
  cases c with
  | serialPort c => simp [kind, json, readSerialPort_members]
  | inverter c => simp [kind, json, readInverter_members]
  | meter c => simp [kind, json, readMeter_members]
  | storage c => simp [kind, json, readStorage_members]
  | limitController c => simp [kind, json, readLimitController_members]
  | account c => simp [kind, json, readAccount_members]

theorem within_of_mem_members {c : Configuration} : ∀ e ∈ c.members, e.2.Within 1 := by
  have hnat {n m : Nat} (hn : n < m) (hm : m ≤ 2 ^ 64) : (Json.nat n).Within 1 :=
    within_nat 1 (Nat.lt_of_lt_of_le hn hm)
  cases c with
  | serialPort c =>
    have hbaud := hnat c.line.baudRate.toNat_lt (by decide)
    have hdata := hnat c.line.databits.toNat_lt (by decide)
    simp [members, json, within_string, hbaud, hdata]
  | inverter c =>
    have hpower := hnat c.ratedPower.toNat_lt (by decide)
    have hunit := hnat c.unit.toNat_lt (by decide)
    simp [members, json, within_string, hpower, hunit]
  | meter c =>
    have hunit := hnat c.unit.toNat_lt (by decide)
    simp [members, json, within_string, within_bool, hunit]
  | storage c =>
    have hunit := hnat c.unit.toNat_lt (by decide)
    simp [members, json, within_string, hunit]
  | limitController c =>
    have hlimit := hnat c.limit.toNat_lt (by decide)
    have hinverters : (Json.array (c.inverters.map .string)).Within 1 :=
      within_array (List.forall_mem_map.2 fun s _ => within_string 0 s)
    simp [members, json, within_string, within_bool, hlimit, hinverters]
  | account c => simp [members, json, within_string]

/-- A configuration is read back from its text, wherever its kind stands. -/
theorem read_compact_of_split (c : Configuration) {front back : List (String × Json)} (h : c.members = front ++ back) :
    (Document.read (Json.object (front ++ ("kind", .string c.kind) :: back)).compact).bind read = some c := by
  have hmembers : ∀ e ∈ front ++ ("kind", .string c.kind) :: back, e.2.Within 1 := by
    obtain ⟨hfront, hback⟩ := List.forall_mem_append.1 (h ▸ within_of_mem_members (c := c))
    exact List.forall_mem_append.2 ⟨hfront, List.forall_mem_cons.2 ⟨within_string 1 c.kind, hback⟩⟩
  exact Document.bind_read_compact (read_of_split c h) ((within_object hmembers).mono (by decide))

end Configuration

/-! ### Interfaces -/

section Interfaces

open Document (option_text option_boolean)
open Json (within_string within_bool)

namespace Interface

theorem read_json (i : Interface) : read i.json.document = some i := rfl

theorem within_json (i : Interface) : i.json.Within 1 := Json.within_object (by simp [within_string, within_bool])

end Interface

namespace InterfaceUpdate

/-- The members of an update; those that it leaves alone are left out. -/
def fields (u : InterfaceUpdate) : List (String × Option Json) :=
  [("isDhcp", u.dhcp.map .bool), ("ipAddress", u.address.map .string), ("subnetMask", u.mask.map .string),
    ("gateway", u.gateway.map .string)]

theorem json_eq (u : InterfaceUpdate) : u.json = .object (writtenMembers u.fields) := by
  have hnil : writtenMembers [] = [] := rfl
  simp only [json, fields, writtenMembers_cons, hnil, Option.toList_map, List.map_map, List.append_assoc,
    List.append_nil]
  rfl

theorem read_json (u : InterfaceUpdate) : read u.json.document = some u := by
  obtain ⟨r, hr, hobject, hfields⟩ :=
    exists_closedRecord?_written ["isDhcp", "ipAddress", "subnetMask", "gateway"] u.fields rfl (by decide)
  simp only [fields, List.forall_mem_cons] at hfields
  obtain ⟨hdhcp, haddress, hmask, hgateway, -⟩ := hfields
  rw [← json_eq] at hr
  simp [read, hr, hdhcp.optionalByName hobject option_boolean, haddress.optionalByName hobject option_text,
    hmask.optionalByName hobject option_text, hgateway.optionalByName hobject option_text]

theorem within_json (u : InterfaceUpdate) : u.json.Within 1 := by
  have hdhcp : ∀ j ∈ u.dhcp.map Json.bool, j.Within 0 := by
    intro j hj
    obtain ⟨b, -, rfl⟩ := Option.map_eq_some_iff.1 hj
    exact within_bool 0 b
  have htext (o : Option String) : ∀ j ∈ o.map Json.string, j.Within 0 := by
    intro j hj
    obtain ⟨s, -, rfl⟩ := Option.map_eq_some_iff.1 hj
    exact within_string 0 s
  rw [json_eq]
  refine Json.within_object (forall_written ?_)
  simp only [fields, List.forall_mem_cons]
  exact ⟨hdhcp, htext u.address, htext u.mask, htext u.gateway, nofun⟩

end InterfaceUpdate

end Interfaces

/-! ### Requests for an edge -/

namespace Rpc

open Document (text_string list_document)

theorem PropertyUpdate.read_json {u : PropertyUpdate} (h : u.value.Ordered) : read u.json.document = some u := by
  obtain ⟨r, hr, hfields⟩ :=
    exists_closedRecord?_document ["name", "value"] [("name", .string u.name), ("value", u.value)] rfl (by decide)
  simp only [List.forall_mem_cons] at hfields
  obtain ⟨hname, hvalue, -⟩ := hfields
  simp [read, json, hr, hname.required (text_string _), hvalue.required h.value?_document]

theorem ComponentUpdate.read_json {u : ComponentUpdate} (h : ∀ p ∈ u.properties, p.value.Ordered) :
    read u.json.document = some u := by
  obtain ⟨r, hr, hfields⟩ := exists_closedRecord?_document ["componentId", "properties"]
    [("componentId", .string u.component), ("properties", .array (u.properties.map PropertyUpdate.json))] rfl (by decide)
  simp only [List.forall_mem_cons] at hfields
  obtain ⟨hcomponent, hproperties, -⟩ := hfields
  simp [read, json, hr, hcomponent.required (text_string _),
    hproperties.required (list_document fun p hp => PropertyUpdate.read_json (h p hp))]

theorem Request.read_json {q : Request} (h : q.params.Ordered) : read q.json.document = some q := by
  obtain ⟨r, hr, hfields⟩ := exists_closedRecord?_document ["jsonrpc", "id", "method", "params"]
    [("jsonrpc", .string q.jsonrpc), ("id", .string q.id), ("method", .string q.method), ("params", q.params)]
    rfl (by decide)
  simp only [List.forall_mem_cons] at hfields
  obtain ⟨hversion, hid, hmethod, hparams, -⟩ := hfields
  simp [read, json, hr, hversion.required (text_string _), hid.required (text_string _),
    hmethod.required (text_string _), hparams.required h.value?_document]

theorem EdgeRequest.read_json {q : EdgeRequest} (h : q.payload.params.Ordered) : read q.json.document = some q := by
  obtain ⟨r, hr, hfields⟩ := exists_closedRecord?_document ["edgeId", "payload"]
    [("edgeId", .string q.edge), ("payload", q.payload.json)] rfl (by decide)
  simp only [List.forall_mem_cons] at hfields
  obtain ⟨hedge, hpayload, -⟩ := hfields
  simp [read, json, hr, hedge.required (text_string _), hpayload.required (Request.read_json h)]

theorem PropertyUpdate.whole_json {u : PropertyUpdate} (h : u.value.Whole) : u.json.Whole :=
  .object (List.forall_mem_cons.2 ⟨.string u.name, List.forall_mem_singleton.2 h⟩)

theorem ComponentUpdate.whole_json {u : ComponentUpdate} (h : ∀ p ∈ u.properties, p.value.Whole) : u.json.Whole := by
  have hproperties : (Json.array (u.properties.map PropertyUpdate.json)).Whole :=
    .array (List.forall_mem_map.2 fun p hp => PropertyUpdate.whole_json (h p hp))
  exact .object (List.forall_mem_cons.2 ⟨.string u.component, List.forall_mem_singleton.2 hproperties⟩)

theorem Request.whole_json {q : Request} (h : q.params.Whole) : q.json.Whole := by
  refine .object ?_
  simp only [List.forall_mem_cons]
  exact ⟨.string q.jsonrpc, .string q.id, .string q.method, h, List.forall_mem_nil _⟩

theorem EdgeRequest.whole_json {q : EdgeRequest} (h : q.payload.params.Whole) : q.json.Whole :=
  .object (List.forall_mem_cons.2 ⟨.string q.edge, List.forall_mem_singleton.2 (Request.whole_json h)⟩)

end Rpc

/-- Values of closed records are read back from their texts.  A configuration is read back wherever its kind stands among
its members; parts that may be any value are read back if they have no binary64 numbers, and their members stand in key
order. -/
theorem closed_records_read_back :
    (∀ c : Configuration, ∃ kind members, c.json = .object (("kind", .string kind) :: members) ∧
      (Document.read c.json.compact).bind Configuration.read = some c ∧
      ∀ front back, members = front ++ back →
        (Document.read (Json.object (front ++ ("kind", .string kind) :: back)).compact).bind Configuration.read = some c) ∧
    (∀ i : Interface, (Document.read i.json.compact).bind Interface.read = some i) ∧
    (∀ u : InterfaceUpdate, (Document.read u.json.compact).bind InterfaceUpdate.read = some u) ∧
    (∀ u : Rpc.ComponentUpdate, (∀ p ∈ u.properties, p.value.Whole ∧ p.value.Ordered) →
      u.json.depth ≤ Document.depthLimit → (Document.read u.json.compact).bind Rpc.ComponentUpdate.read = some u) ∧
    ∀ q : Rpc.EdgeRequest, q.payload.params.Whole → q.payload.params.Ordered → q.json.depth ≤ Document.depthLimit →
      (Document.read q.json.compact).bind Rpc.EdgeRequest.read = some q := by
  refine ⟨fun c => ?_, fun i => ?_, fun u => ?_, fun u hvalues hdepth => ?_, fun q hwhole hordered hdepth => ?_⟩
  · have hfirst := c.read_compact_of_split (List.nil_append c.members).symm
    rw [List.nil_append, ← c.json_eq] at hfirst
    exact ⟨c.kind, c.members, c.json_eq, hfirst, fun front back h => c.read_compact_of_split h⟩
  · exact Document.bind_read_compact i.read_json (i.within_json.mono (by decide))
  · exact Document.bind_read_compact u.read_json (u.within_json.mono (by decide))
  · exact Document.bind_read_compact (Rpc.ComponentUpdate.read_json fun p hp => (hvalues p hp).2)
      ⟨Rpc.ComponentUpdate.whole_json fun p hp => (hvalues p hp).1, hdepth⟩
  · exact Document.bind_read_compact (Rpc.EdgeRequest.read_json hordered) ⟨Rpc.EdgeRequest.whole_json hwhole, hdepth⟩

/-- A value with the least and the greatest number of a word. -/
def Json.extremes : Json :=
  .object [("greatest", .nat 18446744073709551615), ("least", .array [.number (.int (-9223372036854775808)), .null])]

theorem closed_records_with_extremes_read_back :
    (Document.read (Rpc.ComponentUpdate.mk "meter0" [⟨"limits", Json.extremes⟩]).json.compact).bind Rpc.ComponentUpdate.read =
      some ⟨"meter0", [⟨"limits", Json.extremes⟩]⟩ ∧
    (Document.read (Rpc.EdgeRequest.mk "0" ⟨Rpc.version, "1", Rpc.updateConfig, Json.extremes⟩).json.compact).bind
      Rpc.EdgeRequest.read = some ⟨"0", ⟨Rpc.version, "1", Rpc.updateConfig, Json.extremes⟩⟩ := by
  have hwhole : Json.extremes.Whole := by
    refine .object (List.forall_mem_cons.2 ⟨.int (by decide) (by decide), List.forall_mem_singleton.2 (.array ?_)⟩)
    exact List.forall_mem_cons.2 ⟨.int (by decide) (by decide), List.forall_mem_singleton.2 .null⟩
  have hordered : Json.extremes.Ordered := by
    refine .object ?_ (List.forall_mem_cons.2 ⟨.number _, List.forall_mem_singleton.2 (.array ?_)⟩)
    · unfold Increasing
      decide
    · exact List.forall_mem_cons.2 ⟨.number _, List.forall_mem_singleton.2 .null⟩
  have hvalues : ∀ p ∈ [Rpc.PropertyUpdate.mk "limits" Json.extremes], p.value.Whole ∧ p.value.Ordered :=
    List.forall_mem_singleton.2 ⟨hwhole, hordered⟩
  exact ⟨closed_records_read_back.2.2.2.1 ⟨"meter0", [⟨"limits", Json.extremes⟩]⟩ hvalues (by decide),
    closed_records_read_back.2.2.2.2 ⟨"0", ⟨Rpc.version, "1", Rpc.updateConfig, Json.extremes⟩⟩ hwhole hordered (by decide)⟩

end EnergyGateway
