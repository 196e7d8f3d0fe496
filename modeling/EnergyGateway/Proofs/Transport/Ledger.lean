import EnergyGateway.Proofs.Transport.Steps

/-!
# The calls that wait, and the connections that take requests

In all traffic the link keeps exactly the ids of the calls that wait and were not told (`Ledger`), only connections
that are still served take requests, and no call that was not told waits for a connection that is detached
(`Sound`).
-/

namespace EnergyGateway

/-- Whether requests that are handed over are taken. -/
def ConnectionPhase.takes : ConnectionPhase → Bool
  | .running | .stopped => true
  | _ => false

namespace CallPhase

/-- Whether a call waits and was not told its outcome. -/
def awaits : CallPhase → Bool
  | .entered _ told | .waiting _ told => told.isNone
  | _ => false

theorem awaits_tell (p : CallPhase) (o : Option Outcome) : (p.tell o).awaits = (p.awaits && o.isNone) := by
  cases p with
  | entered c told => cases told <;> cases o <;> rfl
  | waiting c told => cases told <;> cases o <;> rfl
  | _ => rfl

theorem waiting_of_tell {p : CallPhase} {o : Option Outcome} {c : Call}
    (h : p.tell o = .waiting c none) : p = .waiting c none := by
  cases p with
  | waiting d told =>
    cases told with
    | none =>
      cases o with
      | none => exact h
      | some o => cases h
    | some o => cases h
  | _ => cases h

end CallPhase

namespace Traffic

variable {t t' : Traffic} {e : Event} {es : List Event}

/-! ### The ledger -/

/-- The link keeps exactly the ids of the calls that wait and were not told. -/
def Ledger (t : Traffic) : Prop := ∀ id, id ∈ t.link.pending ↔ (t.calls id).awaits

theorem Ledger.not_mem (h : Ledger t) {id : String} {p : CallPhase} (hp : t.calls id = p) (hawaits : p.awaits = false) :
    id ∉ t.link.pending := by
  rw [h id, hp, hawaits]
  nofun

/-- A link that changes only for one call fits that call's new phase. -/
theorem Ledger.setCall (h : Ledger t) {link : Link} {id : String} {p : CallPhase}
    (hself : id ∈ link.pending ↔ p.awaits) (hother : ∀ x, x ≠ id → (x ∈ link.pending ↔ x ∈ t.link.pending)) :
    Ledger ({ t with link }.setCall id p) := by
  intro x
  by_cases hx : x = id
  · subst hx
    rw [setCall_self]
    exact hself
  · rw [setCall_of_ne _ _ hx]
    exact (hother x hx).trans (h x)

theorem Ledger.setCall_abandon (h : Ledger t) {id : String} {p : CallPhase} (hp : p.awaits = false) :
    Ledger ({ t with link := t.link.abandon id }.setCall id p) := by
  refine h.setCall ?_ fun x hx => ?_
  · rw [hp, Link.mem_abandon]
    simp
  · rw [Link.mem_abandon]
    exact and_iff_right hx

/-- A call that does not wait comes no further by waiting. -/
theorem Ledger.setCall_of_not_awaits (h : Ledger t) {id : String} {p q : CallPhase} (hp : t.calls id = p)
    (hawaits : p.awaits = q.awaits) : Ledger (t.setCall id q) :=
  h.setCall (by rw [h id, hp, hawaits]) fun _ _ => Iff.rfl

/-- A link that gives up exactly the calls that are told fits the traffic once they are. -/
theorem Ledger.tell (h : Ledger t) {link : Link} (published : List Rpc.Message) {endings : List Ending}
    (hlink : ∀ x, x ∈ link.pending ↔ x ∈ t.link.pending ∧ endings.lookup x = none) :
    Ledger ({ t with link, published }.tell endings) := by
  intro x
  have hx := h x
  simp only [Traffic.tell, CallPhase.awaits_tell, hlink, Bool.and_eq_true, Option.isNone_iff_eq_none, hx]

theorem Step.ledger (hs : Step t e t') (h : Ledger t) : Ledger t' := by
  cases hs with
  | refuse hcall | choose hcall | abandonChosen hcall => exact h.setCall_of_not_awaits hcall rfl
  | enter hcall =>
    refine h.setCall (by simp [Link.mem_enter, CallPhase.awaits]) fun x hx => ?_
    simp [Link.mem_enter, hx]
  | handOver hcall hlink =>
    obtain ⟨-, rfl⟩ := Link.handOver_eq_nil hlink
    exact h.setCall_of_not_awaits hcall rfl
  | lose hcall hlink =>
    obtain ⟨-, rfl, -⟩ := Link.handOver_eq_cons hlink
    exact h.setCall_abandon rfl
  | notice hcall | miss hcall | abandon hcall => exact h.setCall_abandon rfl
  | expire hcall hlink =>
    obtain ⟨rfl, -⟩ := Link.expire_eq_cons hlink
    exact h.setCall_abandon rfl
  | receive _ hlink => exact h.tell _ (Link.mem_dispatch hlink)
  | drain _ hlink | drainNone hlink => exact h.tell t.published (Link.mem_drain hlink)
  | attach | forward | stop | stopTaking | forget | forgetNone => exact h

/-! ### Connections -/

/-- What holds of all traffic. -/
structure Sound (t : Traffic) : Prop where
  ledger : Ledger t
  taking : ∀ n ∈ t.link.taking, (t.connections n).takes
  absent : ∀ n, t.link.connections ≤ n → t.connections n = .absent
  waiting : ∀ id c, t.calls id = .waiting c none → t.connections c.connection ≠ .detached

theorem sound_start : Sound {} where
  ledger _ := by simp [CallPhase.awaits]
  taking := nofun
  absent _ _ := rfl
  waiting := nofun

/-- A step moves a connection on that was opened and is not detached. -/
structure MovesOn (t t' : Traffic) (n : Nat) (p : ConnectionPhase) : Prop where
  count : t'.link.connections = t.link.connections
  connections : t'.connections = Function.update t.connections n p
  opened : t.connections n ≠ .absent
  attached : t.connections n ≠ .detached
  taking : ∀ k ∈ t'.link.taking, k ∈ t.link.taking
  takes : n ∈ t'.link.taking → (t.connections n).takes → p.takes
  drained : p = .detached → t'.link.pending = []

/-- A step leaves the connections alone, opens a new one, or moves one on. -/
theorem Step.connection_cases (hs : Step t e t') :
    (t'.link.taking = t.link.taking ∧ t'.link.connections = t.link.connections ∧ t'.connections = t.connections) ∨
    (t'.link = t.link.attach ∧ t'.connections = Function.update t.connections t.link.connections .running) ∨
    ∃ n p, MovesOn t t' n p := by
  cases hs with
  | refuse | choose | enter | notice | miss | abandonChosen | abandon | forward | forgetNone =>
    exact .inl ⟨rfl, rfl, rfl⟩
  | handOver hcall hlink =>
    obtain ⟨-, rfl⟩ := Link.handOver_eq_nil hlink
    exact .inl ⟨rfl, rfl, rfl⟩
  | lose hcall hlink =>
    obtain ⟨-, rfl, -⟩ := Link.handOver_eq_cons hlink
    exact .inl ⟨rfl, rfl, rfl⟩
  | expire hcall hlink =>
    obtain ⟨rfl, -⟩ := Link.expire_eq_cons hlink
    exact .inl ⟨rfl, rfl, rfl⟩
  | receive hrun hlink =>
    rcases Link.dispatch_cases hlink with ⟨m, id, -, -, -, rfl, -⟩ | ⟨rfl, -, -⟩ <;> exact .inl ⟨rfl, rfl, rfl⟩
  | drainNone hlink =>
    cases hlink
    exact .inl ⟨rfl, rfl, rfl⟩
  | attach => exact .inr (.inl ⟨rfl, rfl⟩)
  | @stop n h =>
    exact .inr (.inr ⟨n, .stopped, rfl, rfl, by simp [h], by simp [h], fun _ hk => hk, fun _ _ => rfl, nofun⟩)
  | @stopTaking n h =>
    refine .inr (.inr ⟨n, .deaf, rfl, rfl, by simp [h], by simp [h], fun k hk => ?_, fun hn => ?_, nofun⟩)
    · exact (List.mem_filter.1 hk).1
    · simp [setConnection, setQueue, Link.stopTaking] at hn
  | @forget n h =>
    refine .inr (.inr ⟨n, .forgotten, rfl, rfl, by simp [h], by simp [h], fun _ hk => hk, fun _ ht => ?_, nofun⟩)
    simp [h, ConnectionPhase.takes] at ht
  | @drain n link endings h hlink =>
    cases hlink
    refine .inr (.inr ⟨n, .detached, rfl, rfl, by simp [h], by simp [h], fun _ hk => hk, fun _ ht => ?_, fun _ => rfl⟩)
    simp [h, ConnectionPhase.takes] at ht

/-- A call that waits without having been told has waited before, or has just handed its request over. -/
theorem Step.waiting_cases (hs : Step t e t') {id : String} {c : Call} (h : t'.calls id = .waiting c none) :
    t.calls id = .waiting c none ∨ c.connection ∈ t.link.taking := by
  rcases hs.change id with hsame | hchange
  · exact .inl (hsame ▸ h)
  · generalize hp : t.calls id = p at hchange
    generalize hq : t'.calls id = q at hchange
    rw [hq] at h
    cases hchange with
    | handOver htaking =>
      cases h
      exact .inr htaking
    | receive | drain => exact .inl (CallPhase.waiting_of_tell h)
    | _ => cases h

/-- A detached connection stays detached. -/
theorem Step.detached (hs : Step t e t') (h : Sound t) {n : Nat} (hn : t.connections n = .detached) :
    t'.connections n = .detached := by
  rcases hs.connection_cases with ⟨-, -, hsame⟩ | ⟨-, hnew⟩ | ⟨k, p, hmove⟩
  · rw [hsame, hn]
  · rw [hnew, Function.update_of_ne, hn]
    rintro rfl
    rw [h.absent _ (Nat.le_refl _)] at hn
    cases hn
  · rw [hmove.connections, Function.update_of_ne, hn]
    rintro rfl
    exact hmove.attached hn

theorem Step.sound (hs : Step t e t') (h : Sound t) : Sound t' := by
  have hledger := hs.ledger h.ledger
  refine ⟨hledger, ?_, ?_, fun id c hcall => ?_⟩
  · -- a connection that takes requests is new, or did so before and has at most stopped
    rcases hs.connection_cases with ⟨htaking, -, hsame⟩ | ⟨hlink, hnew⟩ | ⟨n, p, hmove⟩
    · rw [htaking, hsame]
      exact h.taking
    · intro k hk
      rw [hnew]
      by_cases hkn : k = t.link.connections
      · rw [hkn, Function.update_self]
        rfl
      · rw [Function.update_of_ne hkn]
        rw [hlink] at hk
        exact h.taking k ((List.mem_cons.1 hk).resolve_left hkn)
    · intro k hk
      have hold := h.taking k (hmove.taking k hk)
      rw [hmove.connections]
      by_cases hkn : k = n
      · subst hkn
        rw [Function.update_self]
        exact hmove.takes hk hold
      · rwa [Function.update_of_ne hkn]
  · -- numbers are given in order, so those to come are still absent
    rcases hs.connection_cases with ⟨-, hcount, hsame⟩ | ⟨hlink, hnew⟩ | ⟨n, p, hmove⟩
    · rw [hcount, hsame]
      exact h.absent
    · intro k hk
      rw [hlink] at hk
      rw [hnew, Function.update_of_ne (Nat.ne_of_gt hk)]
      exact h.absent k (Nat.le_of_succ_le hk)
    · intro k hk
      rw [hmove.count] at hk
      rw [hmove.connections, Function.update_of_ne]
      · exact h.absent k hk
      · rintro rfl
        exact hmove.opened (h.absent k hk)
  · have hmem : id ∈ t'.link.pending := by
      rw [hledger id, hcall]
      rfl
    -- before the step the call waited already, or its connection took its request
    have hold : t.connections c.connection ≠ .detached := by
      rcases hs.waiting_cases hcall with hcall | htaking
      · exact h.waiting id c hcall
      · intro hdetached
        have htakes := h.taking _ htaking
        rw [hdetached] at htakes
        cases htakes
    rcases hs.connection_cases with ⟨-, -, hsame⟩ | ⟨-, hnew⟩ | ⟨n, p, hmove⟩
    · rwa [hsame]
    · rw [hnew]
      by_cases hn : c.connection = t.link.connections
      · rw [hn, Function.update_self]
        nofun
      · rwa [Function.update_of_ne hn]
    · rw [hmove.connections]
      by_cases hn : c.connection = n
      · rw [hn, Function.update_self]
        -- the step that detaches its connection tells the call
        rintro rfl
        rw [hmove.drained rfl] at hmem
        cases hmem
      · rwa [Function.update_of_ne hn]

theorem Run.sound (h : Run {} es t) : Sound t := by
  induction h with
  | refl => exact sound_start
  | snoc _ hs ih => exact hs.sound ih

end Traffic

end EnergyGateway
