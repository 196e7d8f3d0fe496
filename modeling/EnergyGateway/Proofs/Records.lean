import EnergyGateway.Component
import EnergyGateway.Ipsec
import EnergyGateway.Listing
import EnergyGateway.Proofs.Json.OpenRecord

/-!
# Members that the console does not know

Components, listings, connections and certificates are open records.  Writing one that was read gives every member of
the object it was read from with its value, at any depth and whatever its name is, apart from declared members that were
absent or `null`: these follow the rules below (`records_keep_members`).
-/

namespace EnergyGateway

/-! ### Components -/

namespace Component

/-- The rules of the declared members. -/
def rules : List (String × Rule) := [("factoryId", .standard (.string "")), ("properties", .standard (.object []))]

/-- What is written for the declared members. -/
def fields (c : Component) : List (String × Option Json) :=
  [("factoryId", some (.string c.factory)), ("properties", some (.object c.properties.entries))]

theorem readProperties_eq_some_iff {d : Document} {m : KeyMap Json} :
    readProperties d = some m ↔ d.value? = some (.object m.entries) := by
  cases d with
  | object members =>
    simp only [readProperties, Document.map, Document.value?, Option.map_eq_some_iff, mapM_pair_eq_some_iff,
      Document.memberValues?_eq_some_iff]
    refine exists_congr fun vs => and_congr_right fun _ => ⟨?_, fun h => ?_⟩
    · rintro rfl
      rfl
    · cases m
      cases h
      rfl
  | array items => simp [readProperties, Document.map, Document.value?]
  | _ => simp [readProperties, Document.map, Document.value?]

theorem faithful_properties : Faithful readProperties fun m => .object m.entries where
  value h := readProperties_eq_some_iff.1 h
  reread h := readProperties_eq_some_iff.2 (Document.value?_document (readProperties_eq_some_iff.1 h))

theorem keepsMembers : KeepsMembers read json rules := by
  refine .of_fields fields extra (by decide) (fun _ => rfl) fun d c h => ?_
  simp only [read, Option.bind_eq_bind, Option.bind_eq_some_iff, Option.pure_def, Option.some.injEq] at h
  obtain ⟨r, hopen, factory, hfactory, properties, hproperties, extra, hrest, rfl⟩ := h
  refine ⟨r, hopen, hrest, ?_, fun d' r' hopen' hrest' hholds => ?_⟩
  · have h1 := Fields.follows_withDefault faithful_text hfactory
    have h2 := Fields.follows_withDefault faithful_properties hproperties
    exact .cons h1 (.cons h2 .nil)
  · simp only [fields, List.forall_mem_cons] at hholds
    have h1 := Fields.withDefault_of_holds faithful_text rfl hfactory hholds.1
    have h2 := Fields.withDefault_of_holds faithful_properties rfl hproperties hholds.2.1
    have hopen'' : d'.openRecord? ["factoryId", "properties"] = some r' := hopen'
    simp only [read, Option.bind_eq_bind, Option.bind_some, Option.pure_def, hopen'', h1, h2, hrest']

end Component

/-! ### Listings -/

namespace Listing

def rules : List (String × Rule) :=
  [("id", .required), ("fpid", .standard .null), ("nameHint", .standard .null), ("name", .standard .null)]

def fields (l : Listing) : List (String × Option Json) :=
  [("id", some (.string l.pid)), ("fpid", some (.ofOption .string l.factory)),
    ("nameHint", some (.ofOption .string l.nameHint)), ("name", some (.ofOption .string l.name))]

theorem keepsMembers : KeepsMembers read json rules := by
  refine .of_fields fields extra (by decide) (fun _ => rfl) fun d l h => ?_
  simp only [read, Option.bind_eq_bind, Option.bind_eq_some_iff, Option.pure_def, Option.some.injEq] at h
  obtain ⟨r, hopen, pid, hpid, factory, hfactory, hint, hhint, name, hname, extra, hrest, rfl⟩ := h
  have hoption := faithful_text.option rfl
  refine ⟨r, hopen, hrest, ?_, fun d' r' hopen' hrest' hholds => ?_⟩
  · have h1 := Fields.follows_required faithful_text hpid
    have h2 := Fields.follows_withDefault hoption hfactory
    have h3 := Fields.follows_withDefault hoption hhint
    have h4 := Fields.follows_withDefault hoption hname
    exact .cons h1 (.cons h2 (.cons h3 (.cons h4 .nil)))
  · simp only [fields, List.forall_mem_cons] at hholds
    have h1 := Fields.required_of_holds faithful_text hpid hholds.1
    have h2 := Fields.withDefault_of_holds hoption rfl hfactory hholds.2.1
    have h3 := Fields.withDefault_of_holds hoption rfl hhint hholds.2.2.1
    have h4 := Fields.withDefault_of_holds hoption rfl hname hholds.2.2.2.1
    have hopen'' : d'.openRecord? ["id", "fpid", "nameHint", "name"] = some r' := hopen'
    simp only [read, Fields.optional, Option.bind_eq_bind, Option.bind_some, Option.pure_def, hopen'', h1, h2, h3, h4,
      hrest']

end Listing

/-! ### Connections -/

namespace Connection

def rules : List (String × Rule) :=
  [("id", .omitted), ("name", .required), ("category", .omitted), ("conn_type", .omitted), ("auth_method", .omitted),
    ("state", .omitted), ("remote_address", .omitted)]

def fields (c : Connection) : List (String × Option Json) :=
  [("id", c.id.map .string), ("name", some (.string c.name)), ("category", c.category.map .string),
    ("conn_type", c.kind.map .string), ("auth_method", c.authMethod.map .string), ("state", c.state.map .string),
    ("remote_address", c.remoteAddress.map .string)]

theorem json_eq (c : Connection) : c.json = .object (writtenMembers c.fields ++ c.extra.entries) := by
  have hpresent (key : String) (o : Option String) : (o.map Json.string).toList.map ((key, ·)) = present key o := by
    cases o <;> rfl
  simp only [json, fields, writtenMembers_cons, hpresent, List.append_assoc]
  rfl

theorem keepsMembers : KeepsMembers read json rules := by
  refine .of_fields fields extra (by decide) json_eq fun d c h => ?_
  simp only [read, Option.bind_eq_bind, Option.bind_eq_some_iff, Option.pure_def, Option.some.injEq] at h
  obtain ⟨r, hopen, id, hid, name, hname, category, hcategory, kind, hkind, method, hmethod, state, hstate, remote,
    hremote, extra, hrest, rfl⟩ := h
  refine ⟨r, hopen, hrest, ?_, fun d' r' hopen' hrest' hholds => ?_⟩
  · have h1 := Fields.follows_optional hid
    have h2 := Fields.follows_required faithful_text hname
    have h3 := Fields.follows_optional hcategory
    have h4 := Fields.follows_optional hkind
    have h5 := Fields.follows_optional hmethod
    have h6 := Fields.follows_optional hstate
    have h7 := Fields.follows_optional hremote
    exact .cons h1 (.cons h2 (.cons h3 (.cons h4 (.cons h5 (.cons h6 (.cons h7 .nil))))))
  · simp only [fields, List.forall_mem_cons] at hholds
    obtain ⟨h1, h2, h3, h4, h5, h6, h7, -⟩ := hholds
    have hopen'' : d'.openRecord?
        ["id", "name", "category", "conn_type", "auth_method", "state", "remote_address"] = some r' := hopen'
    simp only [read, Option.bind_eq_bind, Option.bind_some, Option.pure_def, hopen'', Fields.optional_of_holds h1,
      Fields.required_of_holds faithful_text hname h2, Fields.optional_of_holds h3, Fields.optional_of_holds h4,
      Fields.optional_of_holds h5, Fields.optional_of_holds h6, Fields.optional_of_holds h7, hrest']

end Connection

/-! ### Certificates -/

namespace Certificate

def rules : List (String × Rule) :=
  [("name", .required), ("type", .standard .null), ("identities", .standard (.array []))]

def fields (c : Certificate) : List (String × Option Json) :=
  [("name", some (.string c.name)), ("type", some (.ofOption .string c.kind)),
    ("identities", some (.array (c.identities.map .string)))]

theorem keepsMembers : KeepsMembers read json rules := by
  refine .of_fields fields extra (by decide) (fun _ => rfl) fun d c h => ?_
  simp only [read, Option.bind_eq_bind, Option.bind_eq_some_iff, Option.pure_def, Option.some.injEq] at h
  obtain ⟨r, hopen, name, hname, kind, hkind, identities, hidentities, extra, hrest, rfl⟩ := h
  have hoption := faithful_text.option rfl
  refine ⟨r, hopen, hrest, ?_, fun d' r' hopen' hrest' hholds => ?_⟩
  · have h1 := Fields.follows_required faithful_text hname
    have h2 := Fields.follows_withDefault hoption hkind
    have h3 := Fields.follows_withDefault faithful_text.list hidentities
    exact .cons h1 (.cons h2 (.cons h3 .nil))
  · simp only [fields, List.forall_mem_cons] at hholds
    have h1 := Fields.required_of_holds faithful_text hname hholds.1
    have h2 := Fields.withDefault_of_holds hoption rfl hkind hholds.2.1
    have h3 := Fields.withDefault_of_holds faithful_text.list rfl hidentities hholds.2.2.1
    have hopen'' : d'.openRecord? ["name", "type", "identities"] = some r' := hopen'
    simp only [read, Fields.optional, Option.bind_eq_bind, Option.bind_some, Option.pure_def, hopen'', h1, h2, h3,
      hrest']

end Certificate

/-- Writing a component, listing, connection or certificate that was read gives an object with the members it was read
from, each once and with its value.  Only declared members that were absent or `null` can differ: a component has a
factory and properties even so, a listing is written with `null` and a certificate with `null` or an empty list, and a
connection leaves them out.  What is written is read to the same record. -/
theorem records_keep_members :
    KeepsMembers Component.read Component.json Component.rules ∧
    KeepsMembers Listing.read Listing.json Listing.rules ∧
    KeepsMembers Connection.read Connection.json Connection.rules ∧
    KeepsMembers Certificate.read Certificate.json Certificate.rules :=
  ⟨Component.keepsMembers, Listing.keepsMembers, Connection.keepsMembers, Certificate.keepsMembers⟩

/-- The members of a connection, with names close to declared ones, one of them twice. -/
private def closeNames : List (String × Json) :=
  [("State", .null), ("name", .string "office"), ("state", .null), ("State", .string "up"),
    ("remoteAddress", .object [("via", .array [.null, .bool true])])]

theorem records_keep_members_close_names : ∃ c output,
    Connection.read (Json.object closeNames).document = some c ∧ c.json = .object output ∧
    output.lookup "name" = some (.string "office") ∧ output.lookup "state" = none ∧ output.lookup "id" = none ∧
    output.lookup "State" = some (.string "up") ∧
    output.lookup "remoteAddress" = some (.object [("via", .array [.null, .bool true])]) ∧
    Connection.read c.json.document = some c := by
  obtain ⟨-, -, hconnection, -⟩ := records_keep_members
  have hread : Connection.read (Json.object closeNames).document = some {
      id := none, name := "office", category := none, kind := none, authMethod := none, state := none,
      remoteAddress := none,
      extra := .ofList [("State", .null), ("State", .string "up"),
        ("remoteAddress", .object [("via", .array [.null, .bool true])])] } := rfl
  obtain ⟨input, output, hvalue, -, hjson, -, hlookup⟩ := hconnection.members hread
  have hinput (key : String) : input.lookup key = closeNames.reverse.lookup key := by
    cases hvalue
    exact KeyMap.get?_ofList closeNames key
  simp only [hinput] at hlookup
  exact ⟨_, output, hread, hjson, hlookup "name", hlookup "state", hlookup "id", hlookup "State",
    hlookup "remoteAddress", hconnection.reread hread⟩

end EnergyGateway
