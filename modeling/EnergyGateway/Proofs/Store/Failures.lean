import EnergyGateway.Proofs.Json.ClosedRecord
import EnergyGateway.Proofs.Store

/-!
# Failed answers and the snapshot

A message fails if it carries an error, its own or that of the nested answer in its result; who asked is told the error
(`Rpc.Message.fails_iff`).  The store looks for components only.  So a failed message leaves no trace in the snapshot as
long as its error stands alone, but components beside the error are taken as the snapshot (`Store.ingest_of_fails`,
`Store.not_forall_ingest_of_fails`).
-/

namespace EnergyGateway

namespace Rpc

/-- The answer to the nested request, if the result of a message has one. -/
def Message.nested? (m : Message) : Option Message := m.result.bind fun result => readPayload result.document

/-- A message carries an error, its own or that of the nested answer in its result. -/
inductive Message.Fails (m : Message) : Prop
  | own {e : Error} (h : m.outcome = .error e) : Fails m
  | nested {result : Json} {code : Int} {reason : String} (hresult : m.result = some result)
      (h : unwrapPayload result = .error (.rpc code reason)) : Fails m

/-- No result stands beside an error of the message, its own or the nested one, and the message has no parameters, as
only notifications have. -/
structure Message.ErrsAlone (m : Message) : Prop where
  own : m.error.isSome → m.result = none
  nested : ∀ n, m.nested? = some n → n.error.isSome → n.result = none
  no_params : m.params = none

variable {m : Message} {result : Json}

/-! ### Who asked -/

theorem Message.outcome_eq_error_iff {e : Error} : m.outcome = .error e ↔ m.error = some e := by
  unfold outcome
  split <;> simp_all

theorem Message.reply_of_error {e : Error} (h : m.error = some e) : m.reply = .error (.rpc e.code e.message) := by
  simp [reply, outcome, h]

theorem Message.reply_of_no_error (h : m.error = none) : m.reply = .ok (m.result.getD .null) := by
  simp [reply, outcome, h]

/-- A nested request is refused exactly if the answer to it has an error. -/
theorem unwrapPayload_eq_rpc_iff {code : Int} {reason : String} : unwrapPayload result = .error (.rpc code reason) ↔
    ∃ n e, readPayload result.document = some n ∧ n.error = some e ∧ e.code = code ∧ e.message = reason := by
  unfold unwrapPayload
  rcases readPayload result.document with _ | n
  · simp
  · rcases herror : n.error with _ | e
    · simp [Message.reply_of_no_error herror, herror]
    · simp [Message.reply_of_error herror, herror]

/-- A message fails exactly if who asked for the nested answer is told that the edge refused. -/
theorem Message.fails_iff :
    m.Fails ↔ ∃ code reason, (m.reply >>= unwrapPayload) = .error (.rpc code reason) := by
  rcases herror : m.error with _ | e
  · have hreply : (m.reply >>= unwrapPayload) = unwrapPayload (m.result.getD .null) := by
      rw [reply_of_no_error herror]
      rfl
    rw [hreply]
    constructor
    · rintro (h | ⟨hresult, h⟩)
      · rw [outcome_eq_error_iff, herror] at h
        cases h
      · exact ⟨_, _, by rw [hresult]; exact h⟩
    · rintro ⟨code, reason, h⟩
      rcases hresult : m.result with _ | result
      · rw [hresult] at h
        cases h
      · rw [hresult] at h
        exact .nested hresult h
  · rw [reply_of_error herror]
    exact iff_of_true (.own (outcome_eq_error_iff.2 herror)) ⟨e.code, e.message, rfl⟩

/-! ### Components beside an error -/

/-- Only an object has members. -/
private theorem at?_eq_none {key : String} {path : List String} {j : Json} (h : ∀ members, j ≠ .object members) :
    j.at? (key :: path) = none := by
  cases j with
  | object members => exact absurd rfl (h members)
  | _ => rfl

private theorem eq_null_of_option {j : Json} (h : Document.option Document.value? j.document = some none) :
    j = .null := by
  by_contra hj
  have hdocument : j.document ≠ .null := by
    cases j with
    | null => exact absurd rfl hj
    | _ => nofun
  rw [Document.option_eq_of_ne_null hdocument] at h
  simp at h

/-- A nested answer without a result has nothing behind its result. -/
private theorem at?_result_of_read {n : Message} {j : Json} {key : String} {path : List String}
    (h : Message.read j.document = some n) (hnone : n.result = none) : j.at? ("result" :: key :: path) = none := by
  cases j with
  | object members =>
    obtain ⟨r, hr, hfields⟩ := Option.bind_eq_some_iff.1 h
    have hoptional : r.optional "result" Document.value? = some none := by
      simp only [Option.bind_eq_bind, Option.bind_eq_some_iff, Option.pure_def, Option.some.injEq] at hfields
      obtain ⟨_, -, _, -, result, hresult, _, -, _, -, _, -, rfl⟩ := hfields
      rw [hresult]
      exact congrArg some hnone
    have hlookup : r.declared.lookup "result" = (members.lookup "result").map Json.document :=
      lookup_declared_of_closedRecord? hr (by simp)
    rw [Json.at?, Json.member?]
    rcases hmember : members.lookup "result" with _ | value
    · rfl
    · rw [Fields.optional, Fields.withDefault, hlookup, hmember] at hoptional
      rw [eq_null_of_option hoptional, Option.bind_some]
      exact at?_eq_none nofun
  | _ => exact at?_eq_none nofun

/-- Where a nested answer has no result, there are no components in the result of the message. -/
theorem at?_components_of_readPayload {n : Message} (h : readPayload result.document = some n)
    (hnone : n.result = none) :
    result.at? ["payload", "result", "components"] = none := by
  cases result with
  | object members =>
    obtain ⟨r, hr, hrequired⟩ := Option.bind_eq_some_iff.1 h
    obtain ⟨d, hd, hread⟩ := Option.bind_eq_some_iff.1 hrequired
    rw [lookup_declared_of_closedRecord? hr List.mem_cons_self, Option.map_eq_some_iff] at hd
    obtain ⟨payload, hpayload, rfl⟩ := hd
    rw [Json.at?, Json.member?, hpayload, Option.bind_some]
    exact at?_result_of_read hread hnone
  | _ => exact at?_eq_none nofun

theorem Message.ErrsAlone.not_isCarrier (h : m.ErrsAlone) (hfails : m.Fails) : ¬m.IsCarrier := by
  have hresult : m.inResult? = none := by
    rcases hfails with ⟨hown⟩ | ⟨hresult, hnested⟩
    · rw [outcome_eq_error_iff] at hown
      rw [inResult?, h.own (by simp [hown]), Option.bind_none]
    · obtain ⟨n, e, hread, herror, -, -⟩ := unwrapPayload_eq_rpc_iff.1 hnested
      have hn : m.nested? = some n := by
        rw [nested?, hresult, Option.bind_some, hread]
      rw [inResult?, hresult, Option.bind_some,
        at?_components_of_readPayload hread (h.nested n hn (by simp [herror]))]
  rintro ⟨components, j, hj, -⟩
  cases hj with
  | inResult hj _ =>
    rw [hresult] at hj
    cases hj
  | inParams _ hj _ =>
    rw [inParams?, h.no_params] at hj
    cases hj

end Rpc

namespace Store

variable {m : Rpc.Message}

/-- A failed message whose error stands alone leaves no trace, wherever it stands among others.  If it carries
components all the same, they are taken as the snapshot, although who asked is told the error; otherwise it changes nothing. -/
theorem ingest_of_fails (s : Store) (hfails : m.Fails) :
    (∃ code reason, (m.reply >>= Rpc.unwrapPayload) = .error (.rpc code reason)) ∧
    (m.ErrsAlone → s.ingest m = s ∧
      ∀ before after, s.ingestAll (before ++ m :: after) = s.ingestAll (before ++ after)) ∧
    (∀ components, m.Carries components → s.ingest m = ⟨some components, s.version + 1⟩) ∧
    (¬m.IsCarrier → s.ingest m = s) := by
  refine ⟨Rpc.Message.fails_iff.1 hfails, fun halone => ?_, fun components => ingest_of_carries s,
    ingest_of_not_isCarrier s⟩
  have hnone : ¬m.IsCarrier := halone.not_isCarrier hfails
  refine ⟨ingest_of_not_isCarrier s hnone, fun before after => ?_⟩
  rw [ingestAll_append, ingestAll_cons, ingest_of_not_isCarrier _ hnone, ingestAll_append]

/-- What an edge answers that refuses a nested request. -/
private def refusal : Rpc.Message where
  id := some "1"
  result := some (.object [("payload", .object [("error", .object [("code", .number (.int 1)),
    ("message", .string "no such component")])])])

theorem ingest_of_fails_refusal : refusal.Fails ∧ refusal.ErrsAlone ∧ ∀ s : Store, s.ingest refusal = s := by
  have hfails : refusal.Fails := Rpc.Message.fails_iff.2 ⟨1, "no such component", rfl⟩
  have halone : refusal.ErrsAlone := ⟨nofun, fun n hn _ => by cases hn; rfl, rfl⟩
  exact ⟨hfails, halone, fun s => ((ingest_of_fails s hfails).2.1 halone).1⟩

/-! ### Components beside an error -/

/-- An object with one meter. -/
private def oneMeter : Json :=
  .object [("components", .object [("meter0", .object [("factoryId", .string "Meter.Socomec")])])]

private def error : Rpc.Error := ⟨1, "no such component", none⟩

/-- An error beside a result. -/
private def failedOuter : Rpc.Message where
  error := some error
  result := some (.object [("payload", .object [("result", oneMeter)])])

/-- An error beside a result in the nested answer. -/
private def failedNested : Rpc.Message where
  result := some (.object [("payload", .object [("error", error.json), ("result", oneMeter)])])

/-- Components beside an error become the snapshot, beside an error of the message as well as beside a nested one. -/
theorem not_forall_ingest_of_fails :
    (¬ ∀ (s : Store) (m : Rpc.Message) e, m.outcome = .error e → s.ingest m = s) ∧
    ¬ ∀ (s : Store) (m : Rpc.Message) result code reason, m.result = some result →
      Rpc.unwrapPayload result = .error (.rpc code reason) → s.ingest m = s := by
  constructor
  · intro h
    have hversion := congrArg Store.version (h {} failedOuter error rfl)
    cases hversion
  · intro h
    have hversion := congrArg Store.version (h {} failedNested _ 1 "no such component" rfl rfl)
    cases hversion

end Store

end EnergyGateway
