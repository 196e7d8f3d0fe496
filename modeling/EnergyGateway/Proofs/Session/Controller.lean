import EnergyGateway.Proofs.Session.Limit

/-!
# The controller that is told is the one that is posted

The limit is told and posted under one PID, which is looked up under the alias of the controller before it is looked up
under its id.  An alias is free text.  If it is the id of another controller, the PID is the other's
(`not_forall_powerLimit_own`).  The PID is that of the controller's own id exactly if no other one is listed under the
alias, so it is where the alias is no id but its own (`powerLimit_own`).
-/

namespace EnergyGateway

namespace Installation

variable {i : Installation} {id id' name pid own other : String} {c c' : Component}

theorem IsController.unique (h : i.IsController id c) (h' : i.IsController id' c') : id' = id ∧ c' = c := by
  rw [← limitController?_eq_some_iff] at h h'
  rw [h, Option.some_inj] at h'
  cases h'
  exact ⟨rfl, rfl⟩

theorem ListsLimit.unique (h : i.ListsLimit name pid) (h' : i.ListsLimit name other) : other = pid := by
  rw [← limitPid?_eq_some_iff] at h h'
  rw [h, Option.some_inj] at h'
  exact h'.symm

/-- A PID is listed under a name exactly if a listing of the limit's factory has the name in its hint. -/
theorem exists_listsLimit_iff : (∃ pid, i.ListsLimit name pid) ↔
    ∃ l ∈ i.listings, l.factory = some Configuration.limitFactory ∧ l.Hints name := by
  simp only [← limitPid?_eq_some_iff, ← Option.isSome_iff_exists, ← Option.ne_none_iff_isSome]
  rw [ne_eq, limitPid?_eq_none_iff]
  simp only [not_forall, not_not, exists_prop]

theorem limitState_pid_eq_some_iff (hcontroller : i.IsController id c) :
    i.limitState.pid = some pid ↔ i.ListsController id c pid := by
  have hfound := limitController?_eq_some_iff.2 hcontroller
  refine ⟨listsController_of_pid hfound, fun hlists => ?_⟩
  rw [(limitState_of_some hfound).2.2, Option.or_eq_some_iff]
  rcases hlists with hlabel | ⟨hnone, hid⟩
  · exact .inl (limitPid?_eq_some_iff.2 hlabel)
  · exact .inr ⟨limitPid?_eq_none_iff.2 hnone, limitPid?_eq_some_iff.2 hid⟩

/-- A controller whose id is listed has a PID, under its alias or under its id. -/
theorem exists_listsController (hown : i.ListsLimit id own) : ∃ pid, i.ListsController id c pid := by
  by_cases hlabel : ∃ pid, i.ListsLimit (c.displayName id) pid
  · obtain ⟨pid, hlabel⟩ := hlabel
    exact ⟨pid, .inl hlabel⟩
  · rw [exists_listsLimit_iff] at hlabel
    exact ⟨own, .inr ⟨fun l hl h => hlabel ⟨l, hl, h⟩, hown⟩⟩

/-- The PID of a controller is that of its id exactly if its alias leads to no other. -/
theorem ListsController.eq_own_iff (hlists : i.ListsController id c pid) (hown : i.ListsLimit id own) :
    pid = own ↔ ∀ other, i.ListsLimit (c.displayName id) other → other = own := by
  rcases hlists with hlabel | ⟨hnone, hid⟩
  · exact ⟨fun hpid other hother => (hlabel.unique hother).trans hpid, fun h => h pid hlabel⟩
  · refine ⟨fun _ other hother => ?_, fun _ => hown.unique hid⟩
    obtain ⟨l, hl, h⟩ := exists_listsLimit_iff.1 ⟨other, hother⟩
    exact absurd h (hnone l hl)

/-- Every name in the brackets of a listing is the id of a component. -/
def NamesComponents (i : Installation) : Prop :=
  ∀ l ∈ i.listings, ∀ name, l.Hints name → i.components.contains name

/-- An alias that is the id of no other component leads to no other PID, where only ids stand in brackets. -/
theorem ListsController.eq_own (hlists : i.ListsController id c pid) (hown : i.ListsLimit id own)
    (hnames : i.NamesComponents) (halias : i.components.contains (c.displayName id) → c.displayName id = id) :
    pid = own := by
  refine (hlists.eq_own_iff hown).2 fun other hother => ?_
  obtain ⟨l, hl, -, hhints⟩ := exists_listsLimit_iff.1 ⟨other, hother⟩
  rw [halias (hnames l hl _ hhints)] at hother
  exact hown.unique hother

end Installation

namespace Action

variable {σ : Type}

theorem powerLimit_of_survey {setup : Setup σ} {i : Installation} {s s' : Session σ} (h : survey setup s = .ok i s') :
    (powerLimit setup).outcome s = .ok i.limitState :=
  (outcome_eq_ok (bind_of_ok h fun i => pure i.limitState)).1

/-- Where there is a controller, the limit is posted under the PID that is told. -/
theorem setPowerLimit_at_told (setup : Setup σ) (enabled : Bool) (setpoint : Setpoint Float) (s : Session σ) :
    ∃ es, ((setPowerLimit setup enabled setpoint).after s).log = s.log ++ es ∧
      ∀ i s', survey setup s = .ok i s' → ∀ id c, i.IsController id c → ∀ e ∈ es, e.isWrite →
        ∃ p, Posting.SentAs setup p e ∧ i.limitState.pid = some p.place := by
  obtain ⟨es, hlog, -, hwrites, -⟩ := setPowerLimit_writes setup enabled setpoint s
  refine ⟨es, hlog, fun i s' hsurvey id c hcontroller e he hw => ?_⟩
  obtain ⟨i', s'', d, hsurvey', -, hsets, hsent, -⟩ := hwrites e he hw
  rw [hsurvey] at hsurvey'
  cases hsurvey'
  refine ⟨d.posting, hsent, ?_⟩
  rcases hsets.target with hcreates | ⟨id', c', hchanges⟩
  · obtain ⟨before, after, hentries, hfactory, -⟩ := hcontroller
    exact absurd hfactory (hcreates.absent (id, c) (hentries ▸ by simp))
  · obtain ⟨rfl, rfl⟩ := hcontroller.unique hchanges.controller
    exact (Installation.limitState_pid_eq_some_iff hcontroller).2 hchanges.place

/-- A controller whose id is listed is told with a PID, and the limit is posted under it.  It is the PID of the alias,
or of the id if no listing has the alias.  So it is that of the id exactly if the alias leads to no other, and whatever
the other controllers are, if only ids stand in brackets and the alias is the id of no other component. -/
theorem powerLimit_own (setup : Setup σ) (enabled : Bool) (setpoint : Setpoint Float) (s : Session σ) :
    ∃ es, ((setPowerLimit setup enabled setpoint).after s).log = s.log ++ es ∧
      ∀ i s', survey setup s = .ok i s' → (powerLimit setup).outcome s = .ok i.limitState ∧
        ∀ id c, i.IsController id c →
          (∃ l ∈ i.listings, l.factory = some Configuration.limitFactory ∧ l.Hints id) →
          ∃ pid own, i.limitState.id = some id ∧ i.limitState.pid = some pid ∧
            i.ListsController id c pid ∧ i.ListsLimit id own ∧
            (∀ e ∈ es, e.isWrite → ∃ p, Posting.SentAs setup p e ∧ p.place = pid) ∧
            (pid = own ↔ ∀ other, i.ListsLimit (c.displayName id) other → other = own) ∧
            (i.NamesComponents → (i.components.contains (c.displayName id) → c.displayName id = id) → pid = own) := by
  obtain ⟨es, hlog, hposted⟩ := setPowerLimit_at_told setup enabled setpoint s
  refine ⟨es, hlog, fun i s' hsurvey => ⟨powerLimit_of_survey hsurvey, fun id c hcontroller hlisted => ?_⟩⟩
  obtain ⟨own, hown⟩ := Installation.exists_listsLimit_iff.2 hlisted
  obtain ⟨pid, hlists⟩ := Installation.exists_listsController (c := c) hown
  have hid := (Installation.limitState_of_some (Installation.limitController?_eq_some_iff.2 hcontroller)).1
  have hpid := (Installation.limitState_pid_eq_some_iff hcontroller).2 hlists
  refine ⟨pid, own, hid, hpid, hlists, hown, fun e he hw => ?_, hlists.eq_own_iff hown, hlists.eq_own hown⟩
  obtain ⟨p, hsent, hplace⟩ := hposted i s' hsurvey id c hcontroller e he hw
  rw [hpid, Option.some_inj] at hplace
  exact ⟨p, hsent, hplace.symm⟩

end Action

/-! ### An alias that is the id of another controller -/

/-- An inverter and two controllers, the first with the id of the second as its alias, and a page that lists both
controllers. -/
private def borrowedAlias : Session Simulation where
  remote := { server := { routes := [{ method := "GET", path := "*", body :=
    "var configData = \x7b\"pids\":[" ++
    "\x7b\"id\":\"first\",\"fpid\":\"Controller.PvInverter.FixPowerLimit\",\"nameHint\":\"[limit0]\"\x7d," ++
    "\x7b\"id\":\"last\",\"fpid\":\"Controller.PvInverter.FixPowerLimit\",\"nameHint\":\"[limit1]\"\x7d]\x7d;" }] } }
  store := { snapshot := some (.ofList [
    ("limit0", { factory := Configuration.limitFactory, properties := .ofList [("alias", .string "limit1")] }),
    ("limit1", { factory := Configuration.limitFactory }),
    ("pvInverter0",
      { factory := "PV-Inverter.Fronius", properties := .ofList [("maxActivePower", .number (.int 5000))] })]) }

/-- The first controller is told with the PID of the second. -/
private theorem exists_survey_borrowedAlias :
    ∃ i s', Action.survey (Simulation.setup .bundled) borrowedAlias = .ok i s' ∧ i.NamesComponents ∧
      (∃ c, i.IsController "limit0" c) ∧ i.ListsLimit "limit0" "first" ∧ i.limitState.pid = some "last" := by
  have hfound : ((Action.survey (Simulation.setup .bundled)).outcome borrowedAlias).toOption.any fun i =>
      i.listings.all (fun l => l.label?.all fun name => i.components.contains name) &&
        i.limitController?.any (·.1 == "limit0") && Inventory.limitPid? i.listings "limit0" == some "first" &&
          i.limitState.pid == some "last" := by
    decide +kernel
  obtain ⟨i, s', hsurvey, hfacts⟩ := Action.exists_survey_of_any hfound
  simp only [Bool.and_eq_true, beq_iff_eq, List.all_eq_true, Option.any_eq_true] at hfacts
  obtain ⟨⟨⟨hnames, ⟨_, c⟩, hcontroller, rfl⟩, hlisted⟩, hpid⟩ := hfacts
  refine ⟨i, s', hsurvey, fun l hl name hhints => ?_, ⟨c, Installation.limitController?_eq_some_iff.1 hcontroller⟩,
    Installation.limitPid?_eq_some_iff.1 hlisted, hpid⟩
  have hlabel := hnames l hl
  rw [Listing.label?_eq_some_iff.2 hhints] at hlabel
  exact hlabel

/-- The limit is told, and posted, under the PID of another controller, where only ids stand in brackets. -/
theorem not_forall_powerLimit_own :
    (¬ ∀ (setup : Setup Simulation) (s : Session Simulation) (i : Installation) (s' : Session Simulation),
      Action.survey setup s = .ok i s' → i.NamesComponents → ∀ id c own, i.IsController id c → i.ListsLimit id own →
        i.limitState.pid = some own) ∧
    ¬ ∀ (setup : Setup Simulation) (s : Session Simulation) (i : Installation) (s' : Session Simulation),
      Action.survey setup s = .ok i s' → i.NamesComponents → ∀ id c own, i.IsController id c → i.ListsLimit id own →
        ∀ enabled setpoint es, ((Action.setPowerLimit setup enabled setpoint).after s).log = s.log ++ es →
          ∀ e ∈ es, e.isWrite → ∃ p, Posting.SentAs setup p e ∧ p.place = own := by
  obtain ⟨i, s', hsurvey, hnames, ⟨c, hcontroller⟩, hlisted, hpid⟩ := exists_survey_borrowedAlias
  constructor
  · intro htold
    have hown := htold _ _ i s' hsurvey hnames "limit0" c "first" hcontroller hlisted
    rw [hpid] at hown
    exact absurd hown (by decide)
  · intro hposted
    have hany : ((Action.setPowerLimit (Simulation.setup .bundled) true (.watts 4000)).after borrowedAlias).log.any
        (·.isWrite) := by
      decide +kernel
    obtain ⟨e, he, hw⟩ := List.any_eq_true.1 hany
    obtain ⟨es, hlog, htold⟩ :=
      Action.setPowerLimit_at_told (Simulation.setup .bundled) true (.watts 4000) borrowedAlias
    rw [hlog] at he
    obtain ⟨p, ⟨url, answer, hurl, rfl⟩, hplace⟩ := htold i s' hsurvey "limit0" c hcontroller e he hw
    obtain ⟨q, ⟨url', answer', hurl', hsent⟩, hown⟩ := hposted _ _ i s' hsurvey hnames "limit0" c "first"
      hcontroller hlisted true (.watts 4000) es hlog _ he hw
    -- the request tells the place, and the places differ
    rw [hpid, Option.some_inj] at hplace
    simp only [Exchange.http.injEq, Http.Request.mk.injEq] at hsent
    obtain ⟨⟨-, rfl, -⟩, -⟩ := hsent
    rw [← hplace] at hurl
    rw [hown, ← hurl] at hurl'
    exact absurd hurl' (by decide +kernel)

end EnergyGateway
