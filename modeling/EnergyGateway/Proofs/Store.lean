import EnergyGateway.Proofs.Json.Members
import EnergyGateway.Store

/-!
# The last map counts

A message carries components when the first of its two places that holds anything but `null` holds an object whose
members are all components.  After any messages the snapshot is the map of the last one that carried components,
unmixed with earlier ones, and as many snapshots were published as messages carried components
(`Store.ingestAll_last`).
-/

namespace EnergyGateway

/-! ### What a message carries -/

/-- An object all of whose members are components, and the map of these. -/
def Json.IsComponents (j : Json) (components : ComponentMap) : Prop :=
  ∃ members pairs, j = .object members ∧ components = .ofList pairs ∧
    members.Forall₂ (fun member pair => member.1 = pair.1 ∧ Component.read member.2.document = some pair.2) pairs

/-- No member is left out. -/
theorem Json.IsComponents.read_ne_none {members : List (String × Json)} {components : ComponentMap}
    (h : (Json.object members).IsComponents components) : ∀ e ∈ members, Component.read e.2.document ≠ none := by
  obtain ⟨_, pairs, hmembers, -, hpairs⟩ := h
  cases hmembers
  refine ((List.forall₂_and_left _ _).1 (hpairs.imp fun member pair hread => ⟨?_, hread⟩)).1
  rw [hread.2]
  nofun

namespace Rpc.Message

/-- The value in the result of a nested request. -/
def inResult? (m : Message) : Option Json := m.result.bind (Json.at? ["payload", "result", "components"])

/-- The value in the parameters of a nested notification. -/
def inParams? (m : Message) : Option Json := m.params.bind (Json.at? ["payload", "params", "components"])

/-- A message offers the value in its result, and the one in its parameters if there is none or `null` in the
result. -/
inductive Offers (m : Message) : Json → Prop
  | inResult {j : Json} (h : m.inResult? = some j) (hj : j ≠ .null) : Offers m j
  | inParams {j : Json} (hnone : ∀ r, m.inResult? = some r → r = .null) (h : m.inParams? = some j) (hj : j ≠ .null) :
      Offers m j

/-- A message carries components if what it offers are components. -/
def Carries (m : Message) (components : ComponentMap) : Prop := ∃ j, m.Offers j ∧ j.IsComponents components

/-- Whether a message carries components. -/
def IsCarrier (m : Message) : Prop := ∃ components, m.Carries components

end Rpc.Message

/-- A value is read as components exactly if it is an object of components. -/
theorem ComponentMap.read_document_eq_some_iff {j : Json} {components : ComponentMap} :
    ComponentMap.read j.document = some components ↔ j.IsComponents components := by
  cases j with
  | object members =>
    rw [Json.document, ComponentMap.read, Document.map, Option.map_eq_some_iff]
    simp only [Json.memberDocuments_eq_map, mapM_eq_some_iff, List.forall₂_map_left_iff, map_pair_eq_some_iff]
    constructor
    · rintro ⟨pairs, hpairs, rfl⟩
      exact ⟨members, pairs, rfl, rfl, hpairs⟩
    · rintro ⟨_, pairs, hmembers, rfl, hpairs⟩
      cases hmembers
      exact ⟨pairs, hpairs, rfl⟩
  | _ =>
    refine ⟨nofun, ?_⟩
    rintro ⟨_, _, hmembers, -⟩
    cases hmembers

namespace Rpc.Message

variable {m : Message}

private theorem present?_eq_some_iff {o : Option Json} {j : Json} : present? o = some j ↔ o = some j ∧ j ≠ .null := by
  rw [present?, Option.filter_eq_some_iff]
  cases j <;> simp [Json.isNull]

private theorem present?_eq_none_iff {o : Option Json} : present? o = none ↔ ∀ j, o = some j → j = .null := by
  rw [present?, Option.filter_eq_none_iff]
  refine forall₂_congr fun j _ => ?_
  cases j <;> simp [Json.isNull]

theorem carried?_eq_some_iff {j : Json} : m.carried? = some j ↔ m.Offers j := by
  rw [carried?, Option.or_eq_some_iff, present?_eq_some_iff, present?_eq_none_iff, present?_eq_some_iff]
  constructor
  · rintro (⟨h, hj⟩ | ⟨hnone, h, hj⟩)
    · exact .inResult h hj
    · exact .inParams hnone h hj
  · rintro (⟨h, hj⟩ | ⟨hnone, h, hj⟩)
    · exact .inl ⟨h, hj⟩
    · exact .inr ⟨hnone, h, hj⟩

theorem components?_eq_some_iff {components : ComponentMap} :
    m.components? = some components ↔ m.Carries components := by
  simp only [components?, Option.bind_eq_some_iff, carried?_eq_some_iff, ComponentMap.read_document_eq_some_iff]
  rfl

theorem isSome_components?_iff : m.components?.isSome ↔ m.IsCarrier := by
  simp only [Option.isSome_iff_exists, components?_eq_some_iff]
  rfl

instance : DecidablePred IsCarrier := fun _ => decidable_of_iff _ isSome_components?_iff

/-- Components in the result are looked at only if the result holds a value. -/
theorem Offers.eq_of_inResult {j r : Json} (h : m.Offers j) (hr : m.inResult? = some r) (hne : r ≠ .null) : j = r := by
  cases h with
  | inResult h _ => exact Option.some.inj (h.symm.trans hr)
  | inParams hnone _ _ => exact absurd (hnone r hr) hne

end Rpc.Message

namespace Store

/-! ### One message -/

theorem ingest_of_carries (s : Store) {m : Rpc.Message} {components : ComponentMap} (h : m.Carries components) :
    s.ingest m = ⟨some components, s.version + 1⟩ := by
  rw [ingest, Rpc.Message.components?_eq_some_iff.2 h]

theorem ingest_of_not_isCarrier (s : Store) {m : Rpc.Message} (h : ¬ m.IsCarrier) : s.ingest m = s := by
  rw [ingest]
  split
  · rename_i components hm
    exact absurd ⟨components, Rpc.Message.components?_eq_some_iff.1 hm⟩ h
  · rfl

/-! ### Any messages -/

theorem ingestAll_cons (s : Store) (m : Rpc.Message) (ms : List Rpc.Message) :
    s.ingestAll (m :: ms) = (s.ingest m).ingestAll ms := rfl

theorem ingestAll_append (s : Store) (ms ns : List Rpc.Message) :
    s.ingestAll (ms ++ ns) = (s.ingestAll ms).ingestAll ns := List.foldl_append

/-- Messages that carry nothing change nothing. -/
theorem ingestAll_of_not_isCarrier (s : Store) {ms : List Rpc.Message} (h : ∀ m ∈ ms, ¬ m.IsCarrier) :
    s.ingestAll ms = s := by
  induction ms with
  | nil => rfl
  | cons m ms ih =>
    rw [ingestAll_cons, ingest_of_not_isCarrier s (h m List.mem_cons_self)]
    exact ih fun m' hm' => h m' (List.mem_cons_of_mem _ hm')

theorem version_ingestAll (s : Store) (ms : List Rpc.Message) :
    (s.ingestAll ms).version = s.version + ms.countP fun m => m.IsCarrier := by
  induction ms generalizing s with
  | nil => rfl
  | cons m ms ih =>
    rw [ingestAll_cons, ih]
    by_cases hm : m.IsCarrier
    · obtain ⟨components, hc⟩ := hm
      rw [ingest_of_carries s hc, List.countP_cons_of_pos (by simpa using ⟨components, hc⟩)]
      exact Nat.add_right_comm s.version 1 _
    · rw [ingest_of_not_isCarrier s hm, List.countP_cons_of_neg (by simpa using hm)]

/-- Either no message carries components, or one of them is the last that does. -/
private theorem forall_not_isCarrier_or_exists_last (ms : List Rpc.Message) :
    (∀ m ∈ ms, ¬ m.IsCarrier) ∨ ∃ before m after components, ms = before ++ m :: after ∧ m.Carries components ∧
      ∀ m' ∈ after, ¬ m'.IsCarrier := by
  induction ms with
  | nil => exact .inl nofun
  | cons m ms ih =>
    rcases ih with hnone | ⟨before, last, after, components, rfl, hlast, hafter⟩
    · by_cases hm : m.IsCarrier
      · obtain ⟨components, hm⟩ := hm
        exact .inr ⟨[], m, ms, components, rfl, hm, hnone⟩
      · exact .inl (List.forall_mem_cons.2 ⟨hm, hnone⟩)
    · exact .inr ⟨m :: before, last, after, components, rfl, hlast, hafter⟩

/-- What was there before the last message that carries components leaves no trace. -/
theorem snapshot_ingestAll_append (s : Store) {before after : List Rpc.Message} {m : Rpc.Message}
    {components : ComponentMap} (hm : m.Carries components) (hafter : ∀ m' ∈ after, ¬ m'.IsCarrier) :
    (s.ingestAll (before ++ m :: after)).snapshot = some components := by
  rw [ingestAll_append, ingestAll_cons, ingest_of_carries _ hm, ingestAll_of_not_isCarrier _ hafter]

/-- After any messages, the snapshot is the map of the last message that carried components, none if no message
did, and the number of snapshots published is the number of messages that carried components.  An object without
members counts as a map.  A message that carries no components changes nothing, and it carries none when the value
in its result is not `null` and no map, say because one member is no component, whatever its parameters hold. -/
theorem ingestAll_last (ms : List Rpc.Message) :
    (∀ components, (ingestAll {} ms).snapshot = some components ↔
      ∃ before m after, ms = before ++ m :: after ∧ m.Carries components ∧ ∀ m' ∈ after, ¬ m'.IsCarrier) ∧
    ((ingestAll {} ms).snapshot = none ↔ ∀ m ∈ ms, ¬ m.IsCarrier) ∧
    (ingestAll {} ms).version = ms.countP (fun m => m.IsCarrier) ∧
    (Json.object []).IsComponents .empty ∧
    (∀ (s : Store) m, ¬ m.IsCarrier → s.ingest m = s) ∧
    (∀ (m : Rpc.Message) r, m.inResult? = some r → r ≠ .null → (∀ components, ¬ r.IsComponents components) →
      ¬ m.IsCarrier) ∧
    ∀ members, ∀ e ∈ members, Component.read e.2.document = none →
      ∀ components, ¬ (Json.object members).IsComponents components := by
  have hlast := forall_not_isCarrier_or_exists_last ms
  refine ⟨fun components => ⟨fun h => ?_, ?_⟩, ⟨fun h => ?_, fun h => ?_⟩, ?_, ⟨[], [], rfl, rfl, .nil⟩,
    fun s m => ingest_of_not_isCarrier s, ?_, fun members e he hread components h => h.read_ne_none e he hread⟩
  · rcases hlast with hnone | ⟨before, m, after, last, rfl, hm, hafter⟩
    · rw [ingestAll_of_not_isCarrier _ hnone] at h
      cases h
    · rw [snapshot_ingestAll_append _ hm hafter] at h
      cases h
      exact ⟨before, m, after, rfl, hm, hafter⟩
  · rintro ⟨before, m, after, rfl, hm, hafter⟩
    exact snapshot_ingestAll_append _ hm hafter
  · refine hlast.resolve_right ?_
    rintro ⟨before, m, after, last, rfl, hm, hafter⟩
    rw [snapshot_ingestAll_append _ hm hafter] at h
    cases h
  · rw [ingestAll_of_not_isCarrier _ h]
  · rw [version_ingestAll, Nat.zero_add]
  · rintro m r hr hne hmap ⟨components, j, hj, hcomponents⟩
    rw [hj.eq_of_inResult hr hne] at hcomponents
    exact hmap components hcomponents

/-- An answer with one meter. -/
private def answer : Rpc.Message where
  result := some (.object [("payload", .object [("result", .object [("components",
    .object [("meter0", .object [("factoryId", .string "Meter.Socomec")])])])])])

/-- A message with a number for a meter in its result, and with a battery in its parameters. -/
private def mixed : Rpc.Message where
  result := some (.object [("payload", .object [("result", .object [("components",
    .object [("meter0", .number (.int 42))])])])])
  params := some (.object [("payload", .object [("params", .object [("components",
    .object [("battery0", .object [])])])])])

theorem ingestAll_last_mixed :
    answer.Carries (.ofList [("meter0", { factory := "Meter.Socomec" })]) ∧ ¬ mixed.IsCarrier ∧
    (ingestAll {} [answer, mixed]).snapshot = some (.ofList [("meter0", { factory := "Meter.Socomec" })]) := by
  have hanswer : answer.Carries (.ofList [("meter0", { factory := "Meter.Socomec" })]) :=
    ⟨_, .inResult rfl nofun, _, _, rfl, rfl, .cons ⟨rfl, rfl⟩ .nil⟩
  obtain ⟨hsnapshot, -, -, -, -, hresult, hmember⟩ := ingestAll_last [answer, mixed]
  have hmixed : ¬ mixed.IsCarrier :=
    hresult mixed _ rfl nofun (hmember _ _ List.mem_cons_self rfl)
  exact ⟨hanswer, hmixed, (hsnapshot _).2 ⟨[], answer, [mixed], rfl, hanswer, by simpa using hmixed⟩⟩

end Store

end EnergyGateway
