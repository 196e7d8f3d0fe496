import EnergyGateway.Proofs.Session.Addition
import EnergyGateway.Simulation.Line

/-!
# Ids of the devices that a session adds

An id is free in the snapshot from which it is chosen, and nothing else is known of the ids that were chosen before.
So the ids of one session differ as far as each of them is chosen from a snapshot that has the components that were
created before, of the same category (`addAll_ids_nodup`).  This is up to the edge: a session does not wait for the
component, and where the edge publishes nothing, the same id is chosen again (`not_forall_addAll_ids_nodup`).
-/

namespace EnergyGateway

/-- The id in a form that was posted to create a component, if the answer says that it was done. -/
def Exchange.createdId? : Exchange → Option String
  | .http ⟨.post, _, _, .form form⟩ (some answer) =>
    if answer.isSuccess && (form.get? "factoryPid").isSome then form.get? "id" else none
  | _ => none

/-- A component that was created: its category, the snapshot from which its id was chosen, and the id. -/
structure Creation where
  category : Category
  components : ComponentMap
  id : String

namespace NewDevice

variable {σ : Type} (setup : Setup σ)

/-- What adding a device creates. -/
def creation? (d : NewDevice) (s : Session σ) : Option Creation :=
  match d.choose setup s with
  | .ok (components, _) _ =>
    ((((d.add setup).after s).log.drop s.log.length).findSome? Exchange.createdId?).map fun id =>
      ⟨d.category, components, id⟩
  | .error .. => none

/-- The session after devices were added, one after the other. -/
def addAll (ds : List NewDevice) (s : Session σ) : Session σ := ds.foldl (fun s d => (d.add setup).after s) s

/-- What is created when devices are added one after the other. -/
def creations : List NewDevice → Session σ → List Creation
  | [], _ => []
  | d :: ds, s => (d.creation? setup s).toList ++ creations ds ((d.add setup).after s)

end NewDevice

/-! ### Forms that create -/

namespace Exchange

theorem createdId?_of_isRead {e : Exchange} (h : e.isRead) : e.createdId? = none := by
  unfold createdId?
  split
  · cases h
  · rfl

theorem createdId?_of_isRefresh {e : Exchange} (h : e.isRefresh) : e.createdId? = none := by
  unfold createdId?
  split
  · cases h
  · rfl

end Exchange

theorem Posting.SentAs.createdId? {σ : Type} {setup : Setup σ} {p : Posting} {e : Exchange} {id : String}
    (h : p.SentAs setup e) (hid : p.form.get? "id" = some id) : e.createdId? = none ∨ e.createdId? = some id := by
  obtain ⟨url, answer, -, rfl⟩ := h
  cases answer with
  | none => exact .inl rfl
  | some answer =>
    simp only [Exchange.createdId?, hid]
    split
    · exact .inr rfl
    · exact .inl rfl

namespace Course

variable {α : Type} {W : Exchange → Prop} {o : Except Failure α} {es : List Exchange}

private theorem filterMap_createdId?_reads {reads : List Exchange} (h : ∀ e ∈ reads, e.isRead) :
    reads.filterMap Exchange.createdId? = [] :=
  List.filterMap_eq_nil_iff.2 fun e he => Exchange.createdId?_of_isRead (h e he)

/-- What a change creates, its posting creates. -/
theorem filterMap_createdId? (h : Course W o es) :
    es.filterMap Exchange.createdId? = [] ∨ ∃ e, W e ∧ es.filterMap Exchange.createdId? = e.createdId?.toList := by
  cases h with
  | refused h => exact .inl (filterMap_createdId?_reads h)
  | @failed reads e f h hw he hf =>
    refine .inr ⟨e, hw, ?_⟩
    rw [List.filterMap_append, filterMap_createdId?_reads h, List.nil_append]
    cases hid : e.createdId? <;> simp [hid]
  | @done reads e e' x h hw he he' =>
    refine .inr ⟨e, hw, ?_⟩
    have hrefresh := Exchange.createdId?_of_isRefresh he'
    rw [List.filterMap_append, filterMap_createdId?_reads h, List.nil_append]
    cases hid : e.createdId? <;> simp [hid, hrefresh]

end Course

/-! ### What is created -/

/-- The id was chosen from the snapshot for a new device of the category. -/
def Creation.IsChosen (c : Creation) : Prop :=
  ∃ (d : NewDevice) (count : Nat), d.category = c.category ∧ c.id = d.newId c.components count

/-- Creations of one id are of one category, and the snapshot of the later one did not have the id. -/
theorem Creation.IsChosen.not_published {c c' : Creation} (hc : c.IsChosen) (hc' : c'.IsChosen)
    (hsize : c'.components.size ≤ Text.wordMax) (hid : c.id = c'.id) :
    c.category = c'.category ∧ c'.components.contains c.id = false := by
  obtain ⟨d, count, hcategory, hnew⟩ := hc
  obtain ⟨d', count', hcategory', hnew'⟩ := hc'
  constructor
  · obtain ⟨n, hn⟩ := d.newId_eq_numbered c.components count
    obtain ⟨m, hm⟩ := d'.newId_eq_numbered c'.components count'
    rw [← hcategory, ← hcategory']
    exact NewDevice.category_eq_of_numbered (hn.symm.trans (hnew.symm.trans (hid.trans (hnew'.trans hm))))
  · rw [hid, hnew']
    exact d'.newId_free hsize count'

namespace NewDevice

variable {σ : Type} (setup : Setup σ)

/-- One addition creates what its form says: nothing, or one component under the id that was chosen. -/
theorem creation?_spec (d : NewDevice) (s : Session σ) :
    (∃ es, ((d.add setup).after s).log = s.log ++ es ∧
      es.filterMap Exchange.createdId? = ((d.creation? setup s).map Creation.id).toList) ∧
    ∀ c, d.creation? setup s = some c → c.IsChosen := by
  obtain ⟨es, hlog, ⟨f, s', hchoose, -, hreads⟩ | ⟨⟨components, decision⟩, s', hchoose, hcourse, -⟩⟩ :=
    d.add_course setup s
  · have hnone : d.creation? setup s = none := by
      rw [creation?, hchoose]
    refine ⟨⟨es, hlog, ?_⟩, fun c hc => ?_⟩
    · rw [hnone, List.filterMap_eq_nil_iff.2 fun e he => Exchange.createdId?_of_isRead (hreads e he)]
      rfl
    · rw [hnone] at hc
      cases hc
  · obtain ⟨factory, count, -, -, -, hresult, -, hid, -⟩ := choose_creates hchoose
    have hcreation : d.creation? setup s =
        (es.findSome? Exchange.createdId?).map fun id => ⟨d.category, components, id⟩ := by
      rw [creation?, hchoose, hlog, List.drop_left]
    -- at most the posting creates, and it carries the id that was chosen
    have hcreated : es.filterMap Exchange.createdId? = [] ∨ es.filterMap Exchange.createdId? = [decision.result] := by
      rcases hcourse.filterMap_createdId? with hnil | ⟨e, hsent, heq⟩
      · exact .inl hnil
      · rcases hsent.createdId? hid with hnone | hsome
        · exact .inl (by rw [heq, hnone]; rfl)
        · exact .inr (by rw [heq, hsome]; rfl)
    rw [hcreation, ← List.head?_filterMap]
    refine ⟨⟨es, hlog, ?_⟩, fun c hc => ?_⟩
    · rcases hcreated with h | h <;> rw [h] <;> rfl
    · rcases hcreated with h | h <;> rw [h] at hc <;> cases hc
      exact ⟨d, count, rfl, hresult⟩

/-- The creations of a run are those that the forms in its log tell. -/
theorem creations_spec (ds : List NewDevice) (s : Session σ) :
    (∃ es, (addAll setup ds s).log = s.log ++ es ∧
      es.filterMap Exchange.createdId? = (creations setup ds s).map Creation.id) ∧
    ∀ c ∈ creations setup ds s, c.IsChosen := by
  induction ds generalizing s with
  | nil => exact ⟨⟨[], (List.append_nil _).symm, rfl⟩, fun c hc => absurd hc List.not_mem_nil⟩
  | cons d ds ih =>
    obtain ⟨⟨es, hlog, hids⟩, hchosen⟩ := creation?_spec setup d s
    obtain ⟨⟨es', hlog', hids'⟩, hchosen'⟩ := ih ((d.add setup).after s)
    refine ⟨⟨es ++ es', ?_, ?_⟩, fun c hc => ?_⟩
    · rw [addAll, List.foldl_cons, ← addAll, hlog', hlog, List.append_assoc]
    · rw [List.filterMap_append, hids, hids', creations, List.map_append, Option.toList_map]
    · rcases List.mem_append.1 hc with hc | hc
      · exact hchosen c (Option.mem_toList.1 hc)
      · exact hchosen' c hc

/-- The ids of the components that a session creates one after the other differ, if each is chosen from a snapshot that
has the components of its category that were created before. -/
theorem addAll_ids_nodup (ds : List NewDevice) (s : Session σ)
    (hsize : ∀ c ∈ creations setup ds s, c.components.size ≤ Text.wordMax)
    (hpublished : (creations setup ds s).Pairwise fun c c' =>
      c.category = c'.category → c'.components.contains c.id) :
    ∃ es, (addAll setup ds s).log = s.log ++ es ∧ (es.filterMap Exchange.createdId?).Nodup := by
  obtain ⟨⟨es, hlog, hids⟩, hchosen⟩ := creations_spec setup ds s
  refine ⟨es, hlog, ?_⟩
  rw [hids, List.Nodup, List.pairwise_map]
  refine hpublished.imp_of_mem fun {c c'} hc hc' himp hid => ?_
  obtain ⟨hcategory, hmissing⟩ := (hchosen c hc).not_published (hchosen c' hc') (hsize c' hc') hid
  rw [himp hcategory] at hmissing
  cases hmissing

end NewDevice

/-! ### Two storage systems -/

private def twoSystems : List NewDevice := [.storage "BYD" ⟨"East", "modbus0", 1⟩, .storage "BYD" ⟨"West", "modbus0", 2⟩]

/-- An edge that publishes the first storage system when it is asked for its components. -/
private def publishing : Session Simulation where
  remote := { edge := { components := .object [("battery0", .object [])] } }
  store := { snapshot := some .empty }

theorem addAll_ids_nodup_published :
    (∀ c ∈ NewDevice.creations (Simulation.setup .bundled) twoSystems publishing, c.components.size ≤ Text.wordMax) ∧
    ((NewDevice.creations (Simulation.setup .bundled) twoSystems publishing).Pairwise fun c c' =>
      c.category = c'.category → c'.components.contains c.id) ∧
    ((NewDevice.addAll (Simulation.setup .bundled) twoSystems publishing).log.filterMap Exchange.createdId?).Nodup := by
  have hsize : ∀ c ∈ NewDevice.creations (Simulation.setup .bundled) twoSystems publishing, c.components.size ≤ Text.wordMax := by
    decide +kernel
  have hpublished : (NewDevice.creations (Simulation.setup .bundled) twoSystems publishing).Pairwise fun c c' =>
      c.category = c'.category → c'.components.contains c.id := by
    decide +kernel
  obtain ⟨es, hlog, hnodup⟩ := NewDevice.addAll_ids_nodup (Simulation.setup .bundled) twoSystems publishing hsize hpublished
  have hes : es = (NewDevice.addAll (Simulation.setup .bundled) twoSystems publishing).log := hlog.symm
  exact ⟨hsize, hpublished, hes ▸ hnodup⟩

/-- An edge that publishes nothing. -/
private def keepingSilent : Session Simulation where
  remote := { edge := { silent := true } }
  store := { snapshot := some .empty }

/-- Where the edge publishes nothing, two storage systems get the same id. -/
theorem not_forall_addAll_ids_nodup :
    ¬ ∀ (setup : Setup Simulation) (ds : List NewDevice) (s : Session Simulation) (es : List Exchange),
      (NewDevice.addAll setup ds s).log = s.log ++ es → (es.filterMap Exchange.createdId?).Nodup := by
  intro hnodup
  have hids : (NewDevice.addAll (Simulation.setup .bundled) twoSystems keepingSilent).log.filterMap Exchange.createdId? =
      ["battery0", "battery0"] := by
    decide +kernel
  have htwice := hnodup (Simulation.setup .bundled) twoSystems keepingSilent _ (List.nil_append _).symm
  rw [hids] at htwice
  exact absurd htwice (by decide)

end EnergyGateway
