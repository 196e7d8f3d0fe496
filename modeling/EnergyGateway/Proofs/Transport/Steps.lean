import EnergyGateway.Transport.Traffic

/-!
# Steps of the traffic

What each event of a link comes to, and what a step of the traffic does to one call (`Step.change`): it leaves the
call alone, moves it on by an event of its own, or tells it an outcome.
-/

namespace EnergyGateway

/-! ### Events of a link -/

namespace Link

theorem choose_eq_ok {l : Link} {n : Nat} (h : l.choose = .ok n) : l.chosen = some n := by
  rcases hchosen : l.chosen with _ | k
  · simp [choose, hchosen] at h
  · simpa [choose, hchosen] using h

theorem choose_eq_error {l : Link} {f : Failure} (h : l.choose = .error f) : f = .notConnected := by
  rcases hchosen : l.chosen with _ | k
  · simpa [choose, hchosen] using h.symm
  · simp [choose, hchosen] at h

theorem mem_enter {l : Link} {x id : String} : x ∈ (l.enter id).pending ↔ x = id ∨ x ∈ l.pending := by
  by_cases hx : x = id <;> simp [enter, hx]

theorem mem_abandon {l : Link} {x id : String} : x ∈ (l.abandon id).pending ↔ x ≠ id ∧ x ∈ l.pending := by
  simp [abandon, and_comm]

theorem handOver_eq_nil {l l' : Link} {n : Nat} {id : String} (h : l.handOver n id = (l', [])) :
    n ∈ l.taking ∧ l' = l := by
  unfold handOver at h
  split at h
  · rename_i hmem
    cases h
    exact ⟨List.contains_iff_mem.1 hmem, rfl⟩
  · cases h

theorem handOver_eq_cons {l l' : Link} {n : Nat} {id : String} {ending : Ending} {es : List Ending}
    (h : l.handOver n id = (l', ending :: es)) :
    n ∉ l.taking ∧ l' = l.abandon id ∧ ending.2 = .error .connectionClosed := by
  unfold handOver at h
  split at h
  · cases h
  · rename_i hmem
    cases h
    exact ⟨fun hn => hmem (List.contains_iff_mem.2 hn), rfl, rfl⟩

theorem expire_eq_cons {l l' : Link} {id method : String} {ending : Ending} {es : List Ending}
    (h : l.expire id method = (l', ending :: es)) :
    l' = l.abandon id ∧ ending.2 = .error (.timeout method) := by
  unfold expire at h
  split at h
  · cases h
    exact ⟨rfl, rfl⟩
  · cases h

/-- A text ends the one call whose id it carries, if that call waits; otherwise it ends none. -/
theorem dispatch_cases {l l' : Link} {text : String} {endings : List Ending} {published : Option Rpc.Message}
    (h : l.dispatch text = (l', endings, published)) :
    (∃ m id, message? text = some m ∧ m.id = some id ∧ id ∈ l.pending ∧ l' = l.abandon id ∧
      endings = [(id, m.reply)]) ∨
    (l' = l ∧ endings = [] ∧ ∀ m id, message? text = some m → m.id = some id → id ∉ l.pending) := by
  unfold dispatch at h
  rcases hm : message? text with _ | m
  · rw [hm] at h
    cases h
    exact .inr ⟨rfl, rfl, nofun⟩
  · rw [hm] at h
    rcases hid : m.id with _ | id
    · simp only [receive, hid] at h
      cases h
      refine .inr ⟨rfl, rfl, fun m' id' hm' hid' => ?_⟩
      cases hm'
      rw [hid] at hid'
      cases hid'
    · by_cases hmem : id ∈ l.pending
      · simp only [receive, hid, List.contains_iff_mem.2 hmem, if_true] at h
        cases h
        exact .inl ⟨m, id, rfl, hid, hmem, rfl, rfl⟩
      · simp only [receive, hid, List.contains_iff_mem, hmem, if_false] at h
        cases h
        refine .inr ⟨rfl, rfl, fun m' id' hm' hid' => ?_⟩
        cases hm'
        rw [hid] at hid'
        cases hid'
        exact hmem

/-- Draining tells every call that waits, and no other. -/
theorem lookup_drain {l l' : Link} {endings : List Ending} (h : l.drain = (l', endings)) (id : String) :
    endings.lookup id = if id ∈ l.pending then some (.error .connectionClosed) else none := by
  cases h
  induction l.pending with
  | nil => rfl
  | cons x rest ih =>
    by_cases hx : id = x
    · simp [hx]
    · have hne : (id == x) = false := beq_false_of_ne hx
      simp only [List.map_cons, List.lookup_cons, hne, ih, List.mem_cons, hx, false_or]

theorem mem_drain {l l' : Link} {endings : List Ending} (h : l.drain = (l', endings)) (id : String) :
    id ∈ l'.pending ↔ id ∈ l.pending ∧ endings.lookup id = none := by
  rw [lookup_drain h]
  cases h
  by_cases hid : id ∈ l.pending <;> simp [hid]

theorem mem_dispatch {l l' : Link} {text : String} {endings : List Ending} {published : Option Rpc.Message}
    (h : l.dispatch text = (l', endings, published)) (id : String) :
    id ∈ l'.pending ↔ id ∈ l.pending ∧ endings.lookup id = none := by
  rcases dispatch_cases h with ⟨m, x, -, -, -, rfl, rfl⟩ | ⟨rfl, rfl, -⟩
  · rw [mem_abandon]
    by_cases hid : id = x
    · simp [hid]
    · have hne : (id == x) = false := beq_false_of_ne hid
      simp [hid, List.lookup_cons, hne]
  · simp

end Link

theorem CallPhase.tell_none (p : CallPhase) : p.tell none = p := by
  cases p <;> simp [tell]

namespace Traffic

@[simp] theorem setCall_self (t : Traffic) (id : String) (p : CallPhase) : (t.setCall id p).calls id = p :=
  Function.update_self ..

theorem setCall_of_ne (t : Traffic) {id x : String} (p : CallPhase) (h : x ≠ id) :
    (t.setCall id p).calls x = t.calls x :=
  Function.update_of_ne h ..

variable {t t' : Traffic} {e : Event} {es : List Event}

/-! ### What a step does to one call -/

/-- What an event can do to the call with an id. -/
inductive Change (t : Traffic) (id : String) : Event → CallPhase → CallPhase → Prop
  | refuse {r : Rpc.Request} : Change t id (.begin r) .fresh (.ended (some (.error .notConnected)))
  | choose {r : Rpc.Request} {n : Nat} (h : t.link.chosen = some n) : Change t id (.begin r) .fresh (.chosen ⟨r, n⟩)
  | enter {c : Call} : Change t id (.enter id) (.chosen c) (.entered c none)
  | handOver {c : Call} {told : Option Outcome} (h : c.connection ∈ t.link.taking) :
      Change t id (.handOver id) (.entered c told) (.waiting c told)
  | lose {c : Call} {told : Option Outcome} :
      Change t id (.handOver id) (.entered c told) (.ended (some (.error .connectionClosed)))
  | notice {c : Call} {o : Outcome} : Change t id (.notice id) (.waiting c (some o)) (.ended (some o))
  | miss {c : Call} : Change t id (.notice id) (.waiting c none) (.ended (some (.error .connectionClosed)))
  | expire {c : Call} :
      Change t id (.expire id) (.waiting c none) (.ended (some (.error (.timeout c.request.method))))
  | abandonChosen {c : Call} : Change t id (.abandon id) (.chosen c) (.ended none)
  | abandonEntered {c : Call} {told : Option Outcome} : Change t id (.abandon id) (.entered c told) (.ended none)
  | abandonWaiting {c : Call} {told : Option Outcome} : Change t id (.abandon id) (.waiting c told) (.ended none)
  | receive {n : Nat} {text : String} {m : Rpc.Message} {p : CallPhase} (h : Link.message? text = some m)
      (hid : m.id = some id) (hmem : id ∈ t.link.pending) : Change t id (.receive n text) p (p.tell (some m.reply))
  | drain {n : Option Nat} {p : CallPhase} (hmem : id ∈ t.link.pending) :
      Change t id (.drain n) p (p.tell (some (.error .connectionClosed)))

private theorem change_setCall {u : Traffic} (hu : u.calls = t.calls) {x : String} {p q : CallPhase}
    (hp : t.calls x = p) (hchange : Change t x e p q) (id : String) :
    (u.setCall x q).calls id = t.calls id ∨ Change t id e (t.calls id) ((u.setCall x q).calls id) := by
  by_cases hx : id = x
  · subst hx
    rw [setCall_self, hp]
    exact .inr hchange
  · rw [setCall_of_ne _ _ hx, hu]
    exact .inl rfl

private theorem change_drain {link : Link} {endings : List Ending} (h : t.link.drain = (link, endings))
    (n : Option Nat) (id : String) :
    (t.calls id).tell (endings.lookup id) = t.calls id ∨
      Change t id (.drain n) (t.calls id) ((t.calls id).tell (endings.lookup id)) := by
  rw [Link.lookup_drain h]
  by_cases hmem : id ∈ t.link.pending
  · rw [if_pos hmem]
    exact .inr (.drain hmem)
  · rw [if_neg hmem]
    exact .inl (CallPhase.tell_none _)

/-- A step leaves a call alone, or does one of these things to it. -/
theorem Step.change (hs : Step t e t') (id : String) :
    t'.calls id = t.calls id ∨ Change t id e (t.calls id) (t'.calls id) := by
  cases hs with
  | refuse hcall hlink =>
    cases Link.choose_eq_error hlink
    exact change_setCall rfl hcall .refuse id
  | choose hcall hlink => exact change_setCall rfl hcall (.choose (Link.choose_eq_ok hlink)) id
  | enter hcall => exact change_setCall rfl hcall .enter id
  | handOver hcall hlink => exact change_setCall rfl hcall (.handOver (Link.handOver_eq_nil hlink).1) id
  | lose hcall hlink =>
    cases (Link.handOver_eq_cons hlink).2.2
    exact change_setCall rfl hcall .lose id
  | notice hcall => exact change_setCall rfl hcall .notice id
  | miss hcall => exact change_setCall rfl hcall .miss id
  | expire hcall hlink =>
    cases (Link.expire_eq_cons hlink).2
    exact change_setCall rfl hcall .expire id
  | abandonChosen hcall => exact change_setCall rfl hcall .abandonChosen id
  | abandon hcall =>
    rcases hcall with hcall | hcall
    · exact change_setCall rfl hcall .abandonEntered id
    · exact change_setCall rfl hcall .abandonWaiting id
  | receive _ hlink =>
    rcases Link.dispatch_cases hlink with ⟨m, x, hm, hid, hmem, -, rfl⟩ | ⟨-, rfl, -⟩
    · by_cases hx : id = x
      · subst hx
        have hself : [(id, m.reply)].lookup id = some m.reply := List.lookup_cons_self
        simp only [tell, hself]
        exact .inr (.receive hm hid hmem)
      · have hne : (id == x) = false := beq_false_of_ne hx
        refine .inl ?_
        simp only [tell, List.lookup_cons, hne, List.lookup_nil, CallPhase.tell_none]
    · exact .inl (CallPhase.tell_none _)
  | drain _ hlink => exact change_drain hlink _ id
  | drainNone hlink => exact change_drain hlink _ id
  | attach | forward | stop | stopTaking | forget | forgetNone => exact .inl rfl

theorem Run.trans {t₀ t₁ t₂ : Traffic} {es₁ es₂ : List Event} (h₁ : Run t₀ es₁ t₁) (h₂ : Run t₁ es₂ t₂) :
    Run t₀ (es₁ ++ es₂) t₂ := by
  induction h₂ with
  | refl => simpa using h₁
  | snoc _ hs ih => simpa using Run.snoc ih hs

/-- A call that registers while nothing else happens does so in three steps. -/
theorem run_register {r : Rpc.Request} {n : Nat} {link : Link} (hfresh : t.calls r.id = .fresh)
    (hchosen : t.link.chosen = some n) (h : t.link.register r.id = .ok (link, [])) :
    ∃ t', Run t [.begin r, .enter r.id, .handOver r.id] t' ∧ t'.link = link ∧ r.id ∈ link.pending ∧
      t'.calls r.id = .waiting ⟨r, n⟩ none ∧ t'.connections = t.connections := by
  have hchoose : t.link.choose = .ok n := by simp [Link.choose, hchosen]
  have hlink : (t.link.enter r.id).handOver n r.id = (link, []) := by simpa [Link.register, hchoose] using h
  obtain ⟨-, hsame⟩ := Link.handOver_eq_nil hlink
  obtain ⟨t₁, hbegin, hcall₁, hlink₁, hconnections₁⟩ : ∃ t₁, Step t (.begin r) t₁ ∧
      t₁.calls r.id = .chosen ⟨r, n⟩ ∧ t₁.link = t.link ∧ t₁.connections = t.connections :=
    ⟨_, .choose hfresh hchoose, setCall_self .., rfl, rfl⟩
  obtain ⟨t₂, henter, hcall₂, hlink₂, hconnections₂⟩ : ∃ t₂, Step t₁ (.enter r.id) t₂ ∧
      t₂.calls r.id = .entered ⟨r, n⟩ none ∧ t₂.link = t.link.enter r.id ∧ t₂.connections = t.connections :=
    ⟨_, .enter hcall₁, setCall_self .., congrArg (·.enter r.id) hlink₁, hconnections₁⟩
  rw [← hlink₂] at hlink
  refine ⟨_, (((Run.refl t).snoc hbegin).snoc henter).snoc (.handOver hcall₂ hlink), rfl, ?_, setCall_self ..,
    hconnections₂⟩
  rw [hsame]
  exact Link.mem_enter.2 (.inl rfl)

end Traffic

end EnergyGateway
