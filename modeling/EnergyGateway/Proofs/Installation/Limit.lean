import EnergyGateway.Installation.Limit
import EnergyGateway.Proofs.Configuration.Reading
import EnergyGateway.Proofs.Decision
import EnergyGateway.Proofs.Inventory.Exact

/-!
# Setting the limit

The limit is set for the components with an id of the form of an inverter's (`Installation.limited`): they are named in
the form, and the limit is resolved for the sum of their power.  It is set at the first component of the limit's factory,
under the PID that is listed for its alias or else for its id, or by a new controller where there is none
(`Installation.setLimit_eq_ok`).  A controller that is not listed is an error (`Installation.setLimit_eq_error`).
-/

namespace EnergyGateway

namespace Installation

variable (i : Installation)

/-! ### The components that are limited -/

/-- The components that the limit is set for. -/
def limited : List (String × Component) := i.components.entries.filter fun e => Inventory.isInverterId e.1

theorem inverterIds_eq : Inventory.inverterIds i.components = i.limited.map Prod.fst := by
  rw [Inventory.inverterIds, KeyMap.keys, limited, List.filter_map]
  rfl

/-- The sum of the power of the components that are limited; the sum of none is the negative zero. -/
def limitedPower : Float := i.limited.foldl (fun total e => total + e.2.ratedPower) (-0.0)

theorem installedPower_eq : Inventory.installedPower i.components = i.limitedPower := rfl

theorem mem_limited_iff {i : Installation} {e : String × Component} :
    e ∈ i.limited ↔ i.components.get? e.1 = some e.2 ∧ Inventory.isInverterId e.1 := by
  rw [limited, List.mem_filter]
  refine and_congr_left fun _ => ⟨lookup_eq_some_of_mem i.components.nodup_keys, mem_of_lookup_eq_some⟩

/-- The components that are limited are those that are counted as inverters exactly if no component is only one of
both. -/
theorem limited_eq_iff : i.limited = Status.inCategory i.components i.catalog .inverter ↔
    ∀ e ∈ i.components.entries, Inventory.isInverterId e.1 = i.catalog.covers .inverter e.2.factory := by
  constructor
  · intro heq e he
    rw [Bool.eq_iff_iff]
    have hmem : e ∈ i.limited ↔ e ∈ Status.inCategory i.components i.catalog .inverter := by rw [heq]
    simpa [limited, Status.inCategory, he] using hmem
  · exact fun h => List.filter_congr h

/-! ### The controller -/

variable {i} {id name pid : String} {c : Component}

/-- The component is the first of the limit's factory, in id order. -/
def IsController (i : Installation) (id : String) (c : Component) : Prop :=
  ∃ before after, i.components.entries = before ++ (id, c) :: after ∧ c.factory = Configuration.limitFactory ∧
    ∀ e ∈ before, e.2.factory ≠ Configuration.limitFactory

theorem limitController?_eq_some_iff : i.limitController? = some (id, c) ↔ i.IsController id c := by
  rw [limitController?, List.find?_eq_some_iff_append]
  simp only [beq_iff_eq, Bool.not_eq_true', beq_eq_false_iff_ne, IsController]
  constructor
  · rintro ⟨hc, before, after, hentries, hbefore⟩
    exact ⟨before, after, hentries, hc, hbefore⟩
  · rintro ⟨before, after, hentries, hc, hbefore⟩
    exact ⟨hc, before, after, hentries, hbefore⟩

theorem limitController?_eq_none_iff :
    i.limitController? = none ↔ ∀ e ∈ i.components.entries, e.2.factory ≠ Configuration.limitFactory := by
  simp [limitController?, List.find?_eq_none]

/-- The PID is that of the last listing of the limit's factory whose hint has the name. -/
def ListsLimit (i : Installation) (name pid : String) : Prop :=
  ∃ before l after, i.listings = before ++ l :: after ∧ (l.factory = some Configuration.limitFactory ∧ l.Hints name) ∧
    (∀ l' ∈ after, ¬(l'.factory = some Configuration.limitFactory ∧ l'.Hints name)) ∧ pid = l.pid

theorem limitPid?_eq_some_iff : Inventory.limitPid? i.listings name = some pid ↔ i.ListsLimit name pid := by
  rw [Inventory.limitPid?, Listing.indexOf, Listing.get?_index_eq, Option.map_eq_some_iff]
  simp only [getLast?_filter_eq_some_iff, ListsLimit, ← Listing.label?_eq_some_iff, ← Bool.not_eq_true, Bool.and_eq_true,
    beq_iff_eq]
  constructor
  · rintro ⟨l, ⟨before, after, hlistings, hl, hafter⟩, hpid⟩
    exact ⟨before, l, after, hlistings, hl, hafter, hpid.symm⟩
  · rintro ⟨before, l, after, hlistings, hl, hafter, hpid⟩
    exact ⟨l, ⟨before, after, hlistings, hl, hafter⟩, hpid.symm⟩

theorem limitPid?_eq_none_iff : Inventory.limitPid? i.listings name = none ↔
    ∀ l ∈ i.listings, ¬(l.factory = some Configuration.limitFactory ∧ l.Hints name) := by
  rw [Inventory.limitPid?, Listing.indexOf, Listing.get?_index_eq]
  simp only [← Listing.label?_eq_some_iff]
  simp

/-- The PID is listed for the alias of a controller, or for its id if no listing has the alias. -/
def ListsController (i : Installation) (id : String) (c : Component) (pid : String) : Prop :=
  i.ListsLimit (c.displayName id) pid ∨
    (∀ l ∈ i.listings, ¬(l.factory = some Configuration.limitFactory ∧ l.Hints (c.displayName id))) ∧
      i.ListsLimit id pid

/-! ### What is decided -/

/-- A posting that creates the controller where there is none. -/
structure CreatesController (i : Installation) (p : Posting) : Prop where
  absent : ∀ e ∈ i.components.entries, e.2.factory ≠ Configuration.limitFactory
  place : p.place = Configuration.limitFactory
  factory : p.form.get? "factoryPid" = some Configuration.limitFactory
  id : p.form.get? "id" = some Configuration.limitId
  label : p.form.get? "alias" = some Configuration.limitId

/-- A posting that changes the first controller under its PID, and leaves its id and its alias. -/
structure ChangesController (i : Installation) (p : Posting) (id : String) (c : Component) : Prop where
  controller : i.IsController id c
  place : i.ListsController id c p.place
  no_factory : p.form.get? "factoryPid" = none
  no_id : p.form.get? "id" = none
  label : p.form.get? "alias" = some (c.displayName id)

variable {enabled : Bool} {setpoint : Setpoint Float} {watts : UInt64} {d : Decision UInt64}

/-- What the form says of the limit, wherever it is posted. -/
structure SetsLimit (i : Installation) (enabled : Bool) (setpoint : Setpoint Float) (d : Decision UInt64) : Prop where
  resolved : setpoint.resolve i.limitedPower = .ok d.result
  limit : d.posting.form.get? "powerLimit" = some (toString d.result.toNat)
  state : d.posting.form.get? "enabled" = some (Form.truth enabled)
  inverters : d.posting.form.get? "pvInverter.id" = some (",".intercalate (i.limited.map Prod.fst))
  nonempty : enabled → i.limited ≠ []
  target : i.CreatesController d.posting ∨ ∃ id c, i.ChangesController d.posting id c

theorem limitState_total (i : Installation) : i.limitState.total = i.limitedPower := by
  rw [← installedPower_eq]
  unfold limitState
  split <;> rfl

theorem limitState_inverters (i : Installation) : i.limitState.inverters = i.limited.map Prod.fst := by
  rw [← inverterIds_eq]
  unfold limitState
  split <;> rfl

/-- The controller that is posted. -/
def postedController (i : Installation) (enabled : Bool) (watts : UInt64) : Configuration :=
  let id := i.limitState.id.getD Configuration.limitId
  .limitController ⟨id, i.limitState.label.getD id, enabled, watts, i.limited.map Prod.fst⟩

/-- Once the limit is resolved, the PID that is listed and the id of the controller decide what is posted. -/
theorem setLimit_of_resolve (h : setpoint.resolve i.limitedPower = .ok watts) :
    i.setLimit enabled setpoint = match i.limitState.pid, i.limitState.id with
      | some pid, _ => do return ⟨← Posting.change pid (i.postedController enabled watts), watts⟩
      | none, some id => .error (.pidNotFound id)
      | none, none => do return ⟨← Posting.creation (i.postedController enabled watts), watts⟩ := by
  unfold setLimit
  simp only [limitState_total, h, limitState_inverters, pure_bind]
  rfl

theorem resolve_of_setLimit (h : i.setLimit enabled setpoint = .ok d) :
    ∃ watts, setpoint.resolve i.limitedPower = .ok watts := by
  rcases hresolve : setpoint.resolve i.limitedPower with e | watts
  · rw [setLimit, limitState_total, hresolve] at h
    cases h
  · exact ⟨watts, rfl⟩

theorem limitState_of_none (h : i.limitController? = none) : i.limitState.id = none ∧ i.limitState.label = none ∧
    i.limitState.pid = none := by
  simp [limitState, h]

theorem limitState_of_some (h : i.limitController? = some (id, c)) :
    i.limitState.id = some id ∧ i.limitState.label = some (c.displayName id) ∧
      i.limitState.pid = (Inventory.limitPid? i.listings (c.displayName id)).or (Inventory.limitPid? i.listings id) := by
  simp [limitState, h]

/-- The PID of a controller that is found is listed for it. -/
theorem listsController_of_pid (h : i.limitController? = some (id, c)) (hpid : i.limitState.pid = some pid) :
    i.ListsController id c pid := by
  rw [(limitState_of_some h).2.2, Option.or_eq_some_iff] at hpid
  rcases hpid with hpid | ⟨hnone, hpid⟩
  · exact .inl (limitPid?_eq_some_iff.1 hpid)
  · exact .inr ⟨limitPid?_eq_none_iff.1 hnone, limitPid?_eq_some_iff.1 hpid⟩

/-- A controller that is listed neither for its alias nor for its id is an error, once the limit is resolved. -/
theorem setLimit_eq_error (hcontroller : i.IsController id c)
    (hlisted : ∀ l ∈ i.listings, l.factory = some Configuration.limitFactory →
      ¬l.Hints (c.displayName id) ∧ ¬l.Hints id)
    (hresolve : setpoint.resolve i.limitedPower = .ok watts) :
    i.setLimit enabled setpoint = .error (.pidNotFound id) := by
  obtain ⟨hid, -, hpid⟩ := limitState_of_some (limitController?_eq_some_iff.2 hcontroller)
  have hlabel : Inventory.limitPid? i.listings (c.displayName id) = none :=
    limitPid?_eq_none_iff.2 fun l hl h => (hlisted l hl h.1).1 h.2
  have hown : Inventory.limitPid? i.listings id = none :=
    limitPid?_eq_none_iff.2 fun l hl h => (hlisted l hl h.1).2 h.2
  rw [hlabel, hown] at hpid
  rw [setLimit_of_resolve hresolve, hpid, hid]
  rfl

/-- A form that was filled in for the posted controller says what the limit is, who it is for and whether it is on. -/
theorem setsLimit_of_filled {draft : Form.Draft} (hresolve : setpoint.resolve i.limitedPower = .ok watts)
    (hfilled : (i.postedController enabled watts).Filled draft)
    (hvalid : (i.postedController enabled watts).validate = .ok ())
    (htarget : i.CreatesController ⟨name, draft.finish⟩ ∨ ∃ id c, i.ChangesController ⟨name, draft.finish⟩ id c) :
    i.SetsLimit enabled setpoint ⟨⟨name, draft.finish⟩, watts⟩ where
  resolved := hresolve
  limit := (draft.get?_finish (by decide)).trans (hfilled.properties ("powerLimit", _) List.mem_cons_self)
  state := (draft.get?_finish (by decide)).trans hfilled.state
  inverters := (draft.get?_finish (by decide)).trans
    (hfilled.properties ("pvInverter.id", _) (List.mem_cons_of_mem _ List.mem_cons_self))
  nonempty := by
    intro henabled hnone
    obtain ⟨_, -, hrest⟩ := exists_of_bind_eq_ok hvalid
    obtain ⟨_, -, hrest⟩ := exists_of_bind_eq_ok hrest
    simp [henabled, hnone] at hrest
  target := htarget

/-- A form that changes the controller names neither a factory nor an id. -/
theorem get?_changeDraft_postedController (i : Installation) (enabled : Bool) (watts : UInt64) :
    (i.postedController enabled watts).changeDraft.form.get? "factoryPid" = none ∧
      (i.postedController enabled watts).changeDraft.form.get? "id" = none := by
  have hget {k : String} (hown : k ∉ (i.postedController enabled watts).properties.map Prod.fst)
      (hcommon : k ≠ "apply" ∧ k ≠ "alias" ∧ k ≠ "enabled") :
      (i.postedController enabled watts).changeDraft.form.get? k = none := by
    rw [Configuration.changeDraft, Form.Draft.get?_putAll hown]
    show (((({} : Form.Draft).steer "apply" "true").put "alias" _).putCheckbox "enabled" enabled).form.get? k = none
    rw [Form.Draft.get?_putCheckbox, if_neg hcommon.2.2, Form.Draft.get?_put, if_neg hcommon.2.1, Form.Draft.steer,
      Form.get?_set, if_neg hcommon.1]
    rfl
  exact ⟨hget (by simp [postedController, Configuration.properties]) (by decide),
    hget (by simp [postedController, Configuration.properties]) (by decide)⟩

/-- What is decided when the limit is set. -/
theorem setLimit_eq_ok (h : i.setLimit enabled setpoint = .ok d) : i.SetsLimit enabled setpoint d := by
  obtain ⟨watts, hresolve⟩ := resolve_of_setLimit h
  rw [setLimit_of_resolve hresolve] at h
  rcases hcontroller : i.limitController? with _ | ⟨id, c⟩
  · -- there is no controller, so one is created
    obtain ⟨hid, hlabel, hpid⟩ := limitState_of_none hcontroller
    rw [hid, hpid] at h
    obtain ⟨⟨place, form⟩, hposting, hd⟩ := exists_of_bind_eq_ok h
    cases hd
    obtain ⟨hform, hplace⟩ := Posting.creation_eq_ok hposting
    obtain ⟨hformId, hformFactory⟩ := Configuration.get?_createForm hform
    obtain ⟨hvalid, rfl⟩ := Configuration.createForm_eq_ok hform
    have hfilled := (i.postedController enabled watts).filled_creationDraft
    have hnamed : (i.postedController enabled watts).id = Configuration.limitId ∧
        (i.postedController enabled watts).label = Configuration.limitId := by
      simp [postedController, Configuration.id, Configuration.label, hid, hlabel]
    refine setsLimit_of_filled hresolve hfilled hvalid (.inl ?_)
    exact ⟨limitController?_eq_none_iff.1 hcontroller, hplace, hformFactory, hnamed.1 ▸ hformId,
      ((Form.Draft.get?_finish _ (by decide)).trans hfilled.label).trans (congrArg some hnamed.2)⟩
  · -- there is a controller, which is changed if it is listed
    obtain ⟨hid, hlabel, -⟩ := limitState_of_some hcontroller
    rcases hpid : i.limitState.pid with _ | pid
    · rw [hid, hpid] at h
      cases h
    · rw [hid, hpid] at h
      obtain ⟨⟨place, form⟩, hposting, hd⟩ := exists_of_bind_eq_ok h
      cases hd
      obtain ⟨-, hform, rfl⟩ := Posting.change_eq_ok hposting
      obtain ⟨hvalid, rfl⟩ := Configuration.updateForm_eq_ok hform
      have hfilled := (i.postedController enabled watts).filled_changeDraft
      have hnamed : (i.postedController enabled watts).label = c.displayName id := by
        simp [postedController, Configuration.label, hid, hlabel]
      obtain ⟨hfactory, hformId⟩ := i.get?_changeDraft_postedController enabled watts
      refine setsLimit_of_filled hresolve hfilled hvalid (.inr ⟨id, c, ?_⟩)
      exact ⟨limitController?_eq_some_iff.1 hcontroller, listsController_of_pid hcontroller hpid,
        (Form.Draft.get?_finish _ (by decide)).trans hfactory, (Form.Draft.get?_finish _ (by decide)).trans hformId,
        ((Form.Draft.get?_finish _ (by decide)).trans hfilled.label).trans (congrArg some hnamed)⟩

end Installation

end EnergyGateway
