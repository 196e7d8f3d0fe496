import EnergyGateway.Proofs.Session.Addition
import EnergyGateway.Proofs.Session.Target

/-!
# What is added can be managed

The id that an addition tells is new to the snapshot from which it was chosen, and the posted factory is that of the
brand that was asked for.  Once the edge has the component and the configuration manager lists it, it is one more device
of its category, and changes of this id go to its PID (`NewDevice.add_manageable`).  The parts of this: brands
(`Catalog.factoryOf_eq_ok`), new ids (`NewDevice.newId_free`), hints (`Listing.label?_of_hint`) and the join of
components and listings (`Inventory.join_insert`).
-/

namespace EnergyGateway

/-! ### Managing a device -/

/-- A device is found under its id, is deleted at its PID, and whatever is posted to change it goes to its PID. -/
structure Installation.Manages (i : Installation) (category : Category) (device : ManagedDevice) : Prop where
  found : i.device category device.id = .ok device
  deletion : i.deleteDevice category device.id = .ok ⟨.deletion device.pid, ()⟩
  addressed : ∀ {σ : Type} (setup : Setup σ) (s s' : Session σ) (c : DeviceChange),
    c.target? = some (category, device.id) → Action.survey setup s = .ok i s' →
    ∃ es, ((c.perform setup).after s).log = s.log ++ es ∧
      ∀ e ∈ es, e.isWrite → ∃ form, Posting.SentAs setup ⟨device.pid, form⟩ e

theorem Installation.manages_of_found {i : Installation} {category : Category} {device : ManagedDevice}
    (h : i.device category device.id = .ok device) : i.Manages category device where
  found := h
  deletion := by
    rw [deleteDevice, h]
    rfl
  addressed setup s s' c htarget hsurvey := by
    obtain ⟨decide, hperform, hfor, -⟩ := c.perform_of_target setup htarget
    rw [hperform]
    obtain ⟨es, hlog, hwrites, -⟩ := Action.change_writes setup (fun i => i.device category device.id >>= decide i) s
    refine ⟨es, hlog, fun e he hw => ?_⟩
    obtain ⟨i', s'', decision, hsurvey', hdecide, hsent⟩ := hwrites e he hw
    rw [hsurvey] at hsurvey'
    cases hsurvey'
    rw [h] at hdecide
    have hplace : decision.posting.place = device.pid := hfor i device decision hdecide
    exact ⟨decision.posting.form, hplace ▸ hsent⟩

/-! ### Added devices -/

namespace NewDevice

variable {σ : Type}

/-- A new id is not empty and holds no bracket, so a hint can name it. -/
theorem numbered_hintable (d : NewDevice) (n : Nat) :
    ']' ∉ (ComponentId.numbered d.stem n).toList ∧ ComponentId.numbered d.stem n ≠ "" := by
  have hstem : ']' ∉ d.stem.toList ∧ d.stem.toList ≠ [] := by
    cases d <;> simp [stem, ComponentId.inverterStem, ComponentId.meterStem, ComponentId.storageStem]
  have hdigits : ']' ∉ Nat.toDigits 10 n := by
    intro hmem
    have hdigit := Nat.isDigit_of_mem_toDigits (by decide) (by decide) hmem
    simp at hdigit
  constructor
  · rw [ComponentId.toList_numbered, List.mem_append]
    exact not_or.2 ⟨hstem.1, hdigits⟩
  · intro hempty
    have hnil := congrArg String.toList hempty
    rw [ComponentId.toList_numbered] at hnil
    exact hstem.2 (List.append_eq_nil_iff.1 hnil).1

/-- An addition that tells an id has posted a brand of the category that was asked for, under an id made of the stem and
a number.  The snapshot from which the id was chosen does not have it; its size is a word.  When the edge has a component
of this factory under the id and the configuration manager lists it last, there is one more device, and it is managed
under the id. -/
theorem add_manageable (setup : Setup σ) (d : NewDevice) (s : Session σ) {id : String}
    (h : (d.add setup).outcome s = .ok id) :
    ∃ components decision s', d.choose setup s = .ok (components, decision) s' ∧
      s'.store.snapshot = some components ∧ (∃ n, id = ComponentId.numbered d.stem n) ∧
      ∃ b ∈ setup.catalog.brands d.category, (b.factory = d.brand ∨ Text.sameIgnoringCase b.name d.brand) ∧
        (∃ es form, ((d.add setup).after s).log = s.log ++ es ∧
          form.get? "factoryPid" = some b.factory ∧ form.get? "id" = some id ∧
          ∃ e ∈ es, e.isDonePosting ∧ Posting.SentAs setup ⟨b.factory, form⟩ e) ∧
        (components.size ≤ Text.wordMax →
          components.contains id = false ∧
          ∀ (i : Installation) (c : Component) (l : Listing) (front back : String),
            i.catalog = setup.catalog → i.components = components →
            c.factory = b.factory → l.factory = some b.factory →
            l.nameHint = some (front ++ "[" ++ id ++ "]" ++ back) → '[' ∉ front.toList →
            (∃ before after, i.devices d.category = before ++ after ∧
              (i.gain id c l).devices d.category = before ++ ⟨id, l.pid, c⟩ :: after) ∧
            (i.gain id c l).Manages d.category ⟨id, l.pid, c⟩) := by
  obtain ⟨es, hlog, -, htold⟩ := d.add_writes setup s
  obtain ⟨⟨components, decision⟩, s', hchoose, rfl, e, he, hdone, hsent⟩ := htold id h
  obtain ⟨factory, count, s₁, hprepare, hsnapshot, hresult, hplace, hid, hfactory⟩ := choose_creates hchoose
  obtain ⟨b, hb, rfl, hasked⟩ := Catalog.factoryOf_eq_ok (prepare_eq_ok hprepare)
  obtain ⟨n, hn⟩ := d.newId_eq_numbered components count
  refine ⟨components, decision, s', hchoose, (Action.snapshot_eq_ok hsnapshot).1, ⟨n, hresult.trans hn⟩, b, hb, hasked,
    ⟨es, decision.posting.form, hlog, hfactory, hid, e, he, hdone, hplace ▸ hsent⟩, fun hsize => ?_⟩
  have hfree : components.contains decision.result = false := hresult ▸ d.newId_free hsize count
  refine ⟨hfree, fun i c l front back hcatalog hcomponents hc hl hhint hfront => ?_⟩
  obtain ⟨hbracket, hne⟩ := d.numbered_hintable n
  rw [← hn, ← hresult] at hbracket hne
  rw [← hcatalog] at hb
  rw [← hcomponents] at hfree
  have hcovers : i.catalog.covers d.category c.factory := hc ▸ Catalog.covers_of_mem_brands hb
  have hof : Listing.isOf i.catalog d.category decision.result l := by
    have hlabel := Listing.label?_of_hint hhint hfront hbracket hne
    simp [Listing.isOf, hl, hlabel, Catalog.covers_of_mem_brands hb]
  exact ⟨Installation.devices_gain hfree hcovers hof, Installation.manages_of_found (Installation.device_gain hcovers hof)⟩

/-! ### A storage system beside a meter -/

private def byd : NewDevice := .storage "byd" ⟨"East", "modbus0", 1⟩

private def bydComponent : Component := { factory := "Ess.Byd.Battery-Box.Commercial" }

private def bydListing : Listing :=
  { pid := "felix.pid.7", factory := some bydComponent.factory, nameHint := some "Storage [battery0]" }

/-- A server that takes every posting, and an edge with a meter. -/
private def oneMeter : Session Simulation where
  remote := {}
  store := { snapshot := some (.ofList [("meter0", { factory := "Meter.Socomec.Threephase" })]) }

theorem add_manageable_storage :
    (byd.add (Simulation.setup .bundled)).outcome oneMeter = .ok "battery0" ∧
    ∃ components : ComponentMap, components.size = 1 ∧
      ((⟨.bundled, [], components⟩ : Installation).gain "battery0" bydComponent bydListing).Manages .storage
        ⟨"battery0", "felix.pid.7", bydComponent⟩ := by
  have hbrand : ∀ b ∈ Catalog.bundled.brands .storage, (b.factory = "byd" ∨ Text.sameIgnoringCase b.name "byd") →
      b.factory = bydComponent.factory := by decide +kernel
  have hid : ((byd.add (Simulation.setup .bundled)).outcome oneMeter).toOption = some "battery0" := by decide +kernel
  have hcount : ((byd.choose (Simulation.setup .bundled)).after oneMeter).store.snapshot.map KeyMap.size = some 1 := by
    decide +kernel
  have hok : (byd.add (Simulation.setup .bundled)).outcome oneMeter = .ok "battery0" := by
    cases houtcome : (byd.add (Simulation.setup .bundled)).outcome oneMeter with
    | ok id =>
      rw [houtcome] at hid
      cases hid
      rfl
    | error f =>
      rw [houtcome] at hid
      cases hid
  obtain ⟨components, decision, s', hchoose, hsnapshot, -, b, hb, hasked, -, hmanaged⟩ :=
    add_manageable (Simulation.setup .bundled) byd oneMeter hok
  rw [(Action.outcome_eq_ok hchoose).2, hsnapshot, Option.map_some, Option.some_inj] at hcount
  have hsize : components.size ≤ Text.wordMax := by rw [hcount]; decide
  have hfactory : b.factory = bydComponent.factory := hbrand b hb hasked
  obtain ⟨-, hgain⟩ := hmanaged hsize
  refine ⟨hok, components, hcount, ?_⟩
  exact (hgain ⟨.bundled, [], components⟩ bydComponent bydListing "Storage " "" rfl rfl hfactory.symm
    (by rw [hfactory]; rfl) (by decide) (by decide)).2

end NewDevice

end EnergyGateway
