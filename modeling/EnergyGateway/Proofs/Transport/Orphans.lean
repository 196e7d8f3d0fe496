import EnergyGateway.Proofs.Transport.Ledger

/-!
# No call is orphaned

A call that finds no connection ends at once.  The link has entries only for calls that still wait, so a call that
has ended leaves none.  Once a connection is detached no call waits for it: those that waited were told, and one
that chose it and comes late cannot hand its request over and ends closed, with no entry (`Run.no_orphan`).
-/

namespace EnergyGateway

namespace CallPhase

theorem eq_of_awaits {p : CallPhase} (h : p.awaits) : ∃ c, p = .entered c none ∨ p = .waiting c none := by
  cases p with
  | entered c told =>
    cases told with
    | none => exact ⟨c, .inl rfl⟩
    | some o => cases h
  | waiting c told =>
    cases told with
    | none => exact ⟨c, .inr rfl⟩
    | some o => cases h
  | _ => cases h

/-- The phases of a call that did not hand its request over before its connection was detached. -/
inductive IsLate (n : Nat) : CallPhase → Prop
  | chosen {c : Call} (h : c.connection = n) : IsLate n (.chosen c)
  | entered {c : Call} {told : Option Outcome} (h : c.connection = n) : IsLate n (.entered c told)
  | closed : IsLate n (.ended (some (.error .connectionClosed)))
  | abandoned : IsLate n (.ended none)

theorem IsLate.tell {n : Nat} {p : CallPhase} (h : p.IsLate n) (o : Option Outcome) : (p.tell o).IsLate n := by
  cases h with
  | chosen h => exact .chosen h
  | entered h => exact .entered h
  | closed => exact .closed
  | abandoned => exact .abandoned

/-- The phases of a call that waits and was told its outcome. -/
inductive HasHeard (o : Outcome) : CallPhase → Prop
  | waiting {c : Call} : HasHeard o (.waiting c (some o))
  | ended : HasHeard o (.ended (some o))
  | abandoned : HasHeard o (.ended none)

theorem HasHeard.tell {o : Outcome} {p : CallPhase} (h : p.HasHeard o) (x : Option Outcome) :
    (p.tell x).HasHeard o := by
  cases h with
  | waiting => exact .waiting
  | ended => exact .ended
  | abandoned => exact .abandoned

end CallPhase

namespace Traffic

variable {t t' : Traffic} {e : Event} {es : List Event} {id : String} {n : Nat}

theorem Step.hasHeard (hs : Step t e t') {o : Outcome} (h : (t.calls id).HasHeard o) : (t'.calls id).HasHeard o := by
  rcases hs.change id with hsame | hchange
  · rwa [hsame]
  · generalize t.calls id = p at hchange h
    generalize t'.calls id = q at hchange ⊢
    cases hchange with
    | notice =>
      cases h
      exact .ended
    | abandonWaiting => exact .abandoned
    | receive | drain => exact h.tell _
    | _ => cases h

theorem Run.hasHeard (hr : Run t es t') {o : Outcome} (h : (t.calls id).HasHeard o) : (t'.calls id).HasHeard o := by
  induction hr with
  | refl => exact h
  | snoc _ hs ih => exact hs.hasHeard ih

/-- A connection that is detached takes no requests, so a late call cannot hand its request over. -/
theorem Sound.not_taking (h : Sound t) (hn : t.connections n = .detached) : n ∉ t.link.taking := by
  intro hmem
  have htakes := h.taking n hmem
  rw [hn] at htakes
  cases htakes

theorem Step.isLate (hs : Step t e t') (hsound : Sound t) (hn : t.connections n = .detached)
    (h : (t.calls id).IsLate n) : (t'.calls id).IsLate n := by
  rcases hs.change id with hsame | hchange
  · rwa [hsame]
  · generalize t.calls id = p at hchange h
    generalize t'.calls id = q at hchange ⊢
    cases hchange with
    | enter =>
      cases h with
      | chosen hc => exact .entered hc
    | handOver htaking =>
      -- the only way to wait again would be a connection that takes the request
      cases h with
      | entered hc =>
        rw [hc] at htaking
        exact absurd htaking (hsound.not_taking hn)
    | lose => exact .closed
    | abandonChosen | abandonEntered => exact .abandoned
    | receive | drain => exact h.tell _
    | _ => cases h

theorem Run.isLate (hr : Run t es t') (hsound : Sound t) (hn : t.connections n = .detached)
    (h : (t.calls id).IsLate n) : Sound t' ∧ t'.connections n = .detached ∧ (t'.calls id).IsLate n := by
  induction hr with
  | refl => exact ⟨hsound, hn, h⟩
  | snoc _ hs ih =>
    obtain ⟨hsound', hn', h'⟩ := ih
    exact ⟨hs.sound hsound', hs.detached hsound' hn', hs.isLate hsound' hn' h'⟩

theorem Step.begin_unconnected {r : Rpc.Request} (hs : Step t (.begin r) t') (h : t.link.chosen = none) :
    t'.calls r.id = .ended (some (.error .notConnected)) ∧ t'.link = t.link := by
  cases hs with
  | refuse _ hlink =>
    cases Link.choose_eq_error hlink
    exact ⟨setCall_self .., rfl⟩
  | choose _ hlink =>
    rw [Link.choose_eq_ok hlink] at h
    cases h

/-- Whoever detaches tells every call that waits that the connection is closed. -/
theorem Step.drain_told {k : Option Nat} (hs : Step t (.drain k) t') (hmem : id ∈ t.link.pending) :
    t'.calls id = (t.calls id).tell (some (.error .connectionClosed)) ∧ t'.link.pending = [] := by
  cases hs with
  | drain _ hlink | drainNone hlink =>
    have hlookup := Link.lookup_drain hlink id
    rw [if_pos hmem] at hlookup
    refine ⟨?_, ?_⟩
    · rw [← hlookup]
      rfl
    · cases hlink
      rfl

theorem handOver_detached (hsound : Sound t) (hn : t.connections n = .detached) {c : Call} {told : Option Outcome}
    (hc : c.connection = n) (h : t.calls id = .entered c told) :
    (∃ t', Step t (.handOver id) t') ∧ ∀ t', Step t (.handOver id) t' →
      t'.calls id = .ended (some (.error .connectionClosed)) ∧ id ∉ t'.link.pending := by
  subst hc
  have hnot := hsound.not_taking hn
  refine ⟨?_, fun t' hs => ?_⟩
  · have hlink : t.link.handOver c.connection id = (t.link.abandon id, [(id, .error .connectionClosed)]) := by
      rw [Link.handOver, if_neg (fun hmem => hnot (List.contains_iff_mem.1 hmem))]
    exact ⟨_, .lose h hlink⟩
  · cases hs with
    | handOver h' hlink =>
      rw [h] at h'
      cases h'
      exact absurd (Link.handOver_eq_nil hlink).1 hnot
    | lose h' hlink =>
      obtain ⟨-, rfl, houtcome⟩ := Link.handOver_eq_cons hlink
      cases houtcome
      refine ⟨setCall_self .., fun hmem => ?_⟩
      exact (Link.mem_abandon.1 hmem).1 rfl

/-! ### Every run -/

/-- No call is left behind: not without a connection, not by its end, and not when its connection is detached. -/
structure Orderly (t : Traffic) : Prop where
  /-- A call that finds no connection ends at once and leaves the link as it is. -/
  unconnected : ∀ r, t.calls r.id = .fresh → t.link.chosen = none →
    (∃ t', Step t (.begin r) t') ∧ ∀ t', Step t (.begin r) t' →
      t'.calls r.id = .ended (some (.error .notConnected)) ∧ t'.link = t.link
  /-- The link has entries only for calls that wait and were not told. -/
  entries : ∀ id ∈ t.link.pending, ∃ c, t.calls id = .entered c none ∨ t.calls id = .waiting c none
  /-- A call that has ended leaves no entry. -/
  ended : ∀ id outcome, t.calls id = .ended outcome → id ∉ t.link.pending
  /-- Detaching tells every call that waits that the connection is closed. -/
  told : ∀ n t', Step t (.drain n) t' → ∀ id c,
    (t.calls id = .entered c none → t'.calls id = .entered c (some (.error .connectionClosed))) ∧
    (t.calls id = .waiting c none → t'.calls id = .waiting c (some (.error .connectionClosed)))
  /-- No call that was not told waits for a connection that is detached. -/
  detached : ∀ n, t.connections n = .detached → ∀ id c, c.connection = n → t.calls id ≠ .waiting c none
  /-- A call that was told can notice it, and ends with nothing else. -/
  heard : ∀ id c o, t.calls id = .waiting c (some o) → (∃ t', Step t (.notice id) t') ∧
    ∀ es t' outcome, Run t es t' → t'.calls id = .ended outcome → outcome = some o ∨ outcome = none
  /-- Handing over to a connection that is detached fails, and the call ends closed without an entry. -/
  handOver : ∀ n, t.connections n = .detached → ∀ id c told, c.connection = n → t.calls id = .entered c told →
    (∃ t', Step t (.handOver id) t') ∧ ∀ t', Step t (.handOver id) t' →
      t'.calls id = .ended (some (.error .connectionClosed)) ∧ id ∉ t'.link.pending
  /-- A call that chose a connection and comes late never waits for an answer, and ends closed. -/
  late : ∀ n, t.connections n = .detached → ∀ id c, c.connection = n →
    (t.calls id = .chosen c ∨ ∃ told, t.calls id = .entered c told) → ∀ es t', Run t es t' →
      (∀ c' told, t'.calls id ≠ .waiting c' told) ∧
      ∀ outcome, t'.calls id = .ended outcome → outcome = some (.error .connectionClosed) ∨ outcome = none

theorem Sound.orderly (h : Sound t) : Orderly t where
  unconnected r hfresh hchosen := by
    have hlink : t.link.choose = .error .notConnected := by simp [Link.choose, hchosen]
    exact ⟨⟨_, .refuse hfresh hlink⟩, fun t' hs => hs.begin_unconnected hchosen⟩
  entries id hmem := CallPhase.eq_of_awaits ((h.ledger id).1 hmem)
  ended id outcome hended := h.ledger.not_mem hended rfl
  told n t' hs id c := by
    refine ⟨fun hcall => ?_, fun hcall => ?_⟩
    · have hmem := (h.ledger id).2 (by rw [hcall]; rfl)
      rw [(hs.drain_told hmem).1, hcall]
      rfl
    · have hmem := (h.ledger id).2 (by rw [hcall]; rfl)
      rw [(hs.drain_told hmem).1, hcall]
      rfl
  detached n hn id c hc hcall := by
    subst hc
    exact h.waiting id c hcall hn
  heard id c o hcall := by
    refine ⟨⟨_, .notice hcall⟩, fun es t' outcome hr hended => ?_⟩
    have hstart : (t.calls id).HasHeard o := by
      rw [hcall]
      exact .waiting
    have hheard := hr.hasHeard hstart
    rw [hended] at hheard
    cases hheard with
    | ended => exact .inl rfl
    | abandoned => exact .inr rfl
  handOver n hn id c told hc hcall := handOver_detached h hn hc hcall
  late n hn id c hc hcall es t' hr := by
    have hstart : (t.calls id).IsLate n := by
      rcases hcall with hcall | ⟨told, hcall⟩
      · rw [hcall]
        exact .chosen hc
      · rw [hcall]
        exact .entered hc
    obtain ⟨-, -, hlate⟩ := hr.isLate h hn hstart
    refine ⟨fun c' told hwaiting => ?_, fun outcome hended => ?_⟩
    · rw [hwaiting] at hlate
      cases hlate
    · rw [hended] at hlate
      cases hlate with
      | closed => exact .inl rfl
      | abandoned => exact .inr rfl

/-- In every run calls end in order, however connections come and go. -/
theorem Run.no_orphan (hr : Run {} es t) : Orderly t := hr.sound.orderly

/-! ### A call that comes late -/

/-- A call chooses a connection that is detached before the call begins to wait. -/
private def overtaken (r : Rpc.Request) : List Event :=
  [.attach, .begin r, .stop 0, .stopTaking 0, .forget (some 0), .drain (some 0), .enter r.id]

theorem no_orphan_overtaken :
    ∃ r t t', Run {} (overtaken r) t ∧ r.id ∈ t.link.pending ∧ Step t (.handOver r.id) t' ∧
      t'.calls r.id = .ended (some (.error .connectionClosed)) ∧ r.id ∉ t'.link.pending := by
  let r : Rpc.Request := { id := "a", method := "getEdgeConfig", params := .null }
  have hr : ∃ t, Run {} (overtaken r) t ∧ t.calls r.id = .entered ⟨r, 0⟩ none ∧ t.connections 0 = .detached := by
    refine ⟨_, ((((((((Run.refl _).snoc .attach).snoc (.choose (n := 0) rfl rfl)).snoc (.stop rfl)).snoc
      (.stopTaking rfl)).snoc (.forget rfl)).snoc (.drain rfl rfl)).snoc (.enter rfl)), ?_, ?_⟩
    · rfl
    · rfl
  obtain ⟨t, hr, hcall, hn⟩ := hr
  have horderly := hr.no_orphan
  obtain ⟨⟨t', hs⟩, hall⟩ := horderly.handOver 0 hn r.id ⟨r, 0⟩ none rfl hcall
  have hmem : r.id ∈ t.link.pending := (hr.sound.ledger r.id).2 (by rw [hcall]; rfl)
  exact ⟨r, t, t', hr, hmem, hs, hall t' hs⟩

end Traffic

end EnergyGateway
