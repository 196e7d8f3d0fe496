import EnergyGateway.Proofs.Transport.Ledger

/-!
# Answers belong to their own calls

A call ends at most once.  It ends with a result, or with an error of the edge, only by a message under its own id
that came in while it waited, and with what that message says.  A message does nothing to calls under other ids,
and nothing at all once its call was answered (`Run.paired`).
-/

namespace EnergyGateway

/-! ### Outcomes -/

theorem Rpc.Message.reply_eq_ok {m : Message} {v : Json} (h : m.reply = .ok v) :
    m.error = none ∧ v = m.result.getD .null := by
  rcases herror : m.error with _ | e
  · simp only [reply, outcome, herror] at h
    cases h
    exact ⟨rfl, rfl⟩
  · simp only [reply, outcome, herror] at h
    cases h

theorem Rpc.Message.reply_eq_error {m : Message} {code : Int} {message : String}
    (h : m.reply = .error (.rpc code message)) : ∃ e, m.error = some e ∧ e.code = code ∧ e.message = message := by
  rcases herror : m.error with _ | e
  · simp only [reply, outcome, herror] at h
    cases h
  · simp only [reply, outcome, herror] at h
    cases h
    exact ⟨e, rfl, rfl, rfl⟩

/-- A failure that calls end with unanswered. -/
def Failure.isUnanswered : Failure → Bool
  | .notConnected | .connectionClosed | .timeout _ => true
  | _ => false

namespace CallPhase

/-- What the call was told, or what it ended with. -/
def outcome? : CallPhase → Option Outcome
  | .entered _ told | .waiting _ told => told
  | .ended outcome => outcome
  | _ => none

/-- Whether the call has ended or was told its outcome. -/
def isSettled : CallPhase → Bool
  | .entered _ told | .waiting _ told => told.isSome
  | .ended _ => true
  | _ => false

theorem awaits_of_isSettled {p : CallPhase} (h : p.isSettled) : p.awaits = false := by
  cases p with
  | entered c told | waiting c told => cases told <;> trivial
  | _ => rfl

theorem isSettled_tell_some {p : CallPhase} {o : Outcome} (h : p.awaits) : (p.tell (some o)).isSettled := by
  cases p with
  | entered c told | waiting c told => cases told <;> rfl
  | _ => cases h

theorem isSettled_tell {p : CallPhase} (o : Option Outcome) (h : p.isSettled) : (p.tell o).isSettled := by
  cases p with
  | entered c told | waiting c told =>
    cases told with
    | none => cases h
    | some x => rfl
  | _ => exact h

theorem outcome?_tell {p : CallPhase} {o x : Outcome} (h : (p.tell (some x)).outcome? = some o) :
    p.outcome? = some o ∨ o = x := by
  cases p with
  | entered c told | waiting c told =>
    cases told with
    | none =>
      cases h
      exact .inr rfl
    | some y => exact .inl h
  | _ => exact .inl h

end CallPhase

namespace Traffic

variable {t t' : Traffic} {e : Event} {es : List Event} {id : String} {m : Rpc.Message}

/-- What a call is told or ends with is new only if it ends unanswered or a message under its id comes in. -/
theorem Step.outcome (hs : Step t e t') {o : Outcome} (h : (t'.calls id).outcome? = some o) :
    (t.calls id).outcome? = some o ∨ (∃ f, o = .error f ∧ f.isUnanswered) ∨
    ∃ n text m, e = .receive n text ∧ Link.message? text = some m ∧ m.id = some id ∧ id ∈ t.link.pending ∧
      o = m.reply := by
  rcases hs.change id with hsame | hchange
  · exact .inl (hsame ▸ h)
  · generalize t.calls id = p at hchange ⊢
    generalize t'.calls id = q at hchange h
    cases hchange with
    | refuse | lose | miss | expire =>
      cases h
      exact .inr (.inl ⟨_, rfl, rfl⟩)
    | handOver | notice => exact .inl h
    | choose | enter | abandonChosen | abandonEntered | abandonWaiting => cases h
    | receive hm hid hmem =>
      rcases CallPhase.outcome?_tell h with h | rfl
      · exact .inl h
      · exact .inr (.inr ⟨_, _, _, rfl, hm, hid, hmem, rfl⟩)
    | drain =>
      rcases CallPhase.outcome?_tell h with h | rfl
      · exact .inl h
      · exact .inr (.inl ⟨_, rfl, rfl⟩)

theorem Step.ended (hs : Step t e t') {outcome : Option Outcome} (h : t.calls id = .ended outcome) :
    t'.calls id = .ended outcome := by
  rcases hs.change id with hsame | hchange
  · rw [hsame, h]
  · rw [h] at hchange
    generalize t'.calls id = q at hchange ⊢
    cases hchange <;> rfl

theorem Run.ended (hr : Run t es t') {outcome : Option Outcome} (h : t.calls id = .ended outcome) :
    t'.calls id = .ended outcome := by
  induction hr with
  | refl => exact h
  | snoc _ hs ih => exact hs.ended ih

theorem Step.isSettled (hs : Step t e t') (h : (t.calls id).isSettled) : (t'.calls id).isSettled := by
  rcases hs.change id with hsame | hchange
  · rwa [hsame]
  · generalize t.calls id = p at hchange h
    generalize t'.calls id = q at hchange ⊢
    cases hchange with
    | handOver => exact h
    | receive | drain => exact CallPhase.isSettled_tell _ h
    | choose | enter => cases h
    | _ => rfl

theorem Run.isSettled (hr : Run t es t') (h : (t.calls id).isSettled) : (t'.calls id).isSettled := by
  induction hr with
  | refl => exact h
  | snoc _ hs ih => exact hs.isSettled ih

/-! ### Messages that answer a call -/

/-- In the run of these events a message under the id came in while the call waited. -/
def Answered (es : List Event) (t : Traffic) (id : String) (m : Rpc.Message) : Prop :=
  ∃ before n text after t₀ t₁, es = before ++ .receive n text :: after ∧
    Run {} before t₀ ∧ Step t₀ (.receive n text) t₁ ∧ Run t₁ after t ∧
    .enter id ∈ before ∧ id ∈ t₀.link.pending ∧ Link.message? text = some m ∧ m.id = some id

theorem Answered.snoc (h : Answered es t id m) (hs : Step t e t') : Answered (es ++ [e]) t' id m := by
  obtain ⟨before, n, text, after, t₀, t₁, rfl, hbefore, hreceive, hafter, hentry⟩ := h
  exact ⟨before, n, text, after ++ [e], t₀, t₁, by simp, hbefore, hreceive, hafter.snoc hs, hentry⟩

theorem Step.mem_pending (hs : Step t e t') (hsound : Sound t) (h : id ∈ t'.link.pending) :
    id ∈ t.link.pending ∨ e = .enter id := by
  rw [(hs.sound hsound).ledger id] at h
  rw [hsound.ledger id]
  rcases hs.change id with hsame | hchange
  · exact .inl (hsame ▸ h)
  · generalize t.calls id = p at hchange ⊢
    generalize t'.calls id = q at hchange h
    cases hchange with
    | enter => exact .inr rfl
    | handOver => exact .inl h
    | receive | drain =>
      rw [CallPhase.awaits_tell, Bool.and_eq_true] at h
      exact .inl h.1
    | _ => cases h

/-- The link has an entry only for a call that began to wait. -/
theorem Run.entered (hr : Run {} es t) (h : id ∈ t.link.pending) : .enter id ∈ es := by
  induction hr with
  | refl => cases h
  | snoc hr hs ih =>
    rcases hs.mem_pending hr.sound h with h | rfl
    · exact List.mem_append_left _ (ih h)
    · simp

/-- What a call was told or has ended with is the answer of such a message, or a failure of the link. -/
theorem Run.outcome (hr : Run {} es t) {o : Outcome} (h : (t.calls id).outcome? = some o) :
    (∃ f, o = .error f ∧ f.isUnanswered) ∨ ∃ m, Answered es t id m ∧ o = m.reply := by
  induction hr with
  | refl => cases h
  | snoc hr hs ih =>
    rcases hs.outcome h with h | hlost | ⟨n, text, m, rfl, hm, hid, hmem, rfl⟩
    · rcases ih h with hlost | ⟨m, hanswered, hreply⟩
      · exact .inl hlost
      · exact .inr ⟨m, hanswered.snoc hs, hreply⟩
    · exact .inl hlost
    · -- the message is the last event so far
      exact .inr ⟨m, ⟨_, n, text, [], _, _, rfl, hr, hs, .refl _, hr.entered hmem, hmem, hm, hid⟩, rfl⟩

/-- A call that was answered has no entry any more. -/
theorem Answered.not_mem (h : Answered es t id m) : id ∉ t.link.pending := by
  obtain ⟨before, n, text, after, t₀, t₁, -, hbefore, hreceive, hafter, -, hmem, hm, hid⟩ := h
  have hsound := hreceive.sound hbefore.sound
  -- the message told the call, and from then on the call stays settled
  have hsettled : (t₁.calls id).isSettled := by
    have hawaits := (hbefore.sound.ledger id).1 hmem
    cases hreceive with
    | receive _ hlink =>
      rcases Link.dispatch_cases hlink with ⟨m', id', hm', hid', -, -, rfl⟩ | ⟨-, -, hunknown⟩
      · rw [hm] at hm'
        cases hm'
        rw [hid] at hid'
        cases hid'
        simp only [tell, List.lookup_cons_self]
        exact CallPhase.isSettled_tell_some hawaits
      · exact absurd hmem (hunknown m id hm hid)
  have hledger : Ledger t := by
    clear hsettled
    induction hafter with
    | refl => exact hsound.ledger
    | snoc _ hs ih => exact hs.ledger ih
  exact hledger.not_mem rfl (CallPhase.awaits_of_isSettled (hafter.isSettled hsettled))

/-- A text that carries the id of no call that waits changes no call. -/
theorem Step.receive_unknown {n : Nat} {text : String} (hs : Step t (.receive n text) t')
    (h : ∀ m id, Link.message? text = some m → m.id = some id → id ∉ t.link.pending) :
    t'.calls = t.calls ∧ t'.link = t.link := by
  cases hs with
  | receive _ hlink =>
    rcases Link.dispatch_cases hlink with ⟨m, id, hm, hid, hmem, -, -⟩ | ⟨rfl, rfl, -⟩
    · exact absurd hmem (h m id hm hid)
    · exact ⟨funext fun x => CallPhase.tell_none _, rfl⟩

/-- A text leaves every call alone whose id it does not carry. -/
theorem Step.receive_other {n : Nat} {text : String} (hs : Step t (.receive n text) t')
    (h : ∀ m, Link.message? text = some m → m.id ≠ some id) :
    t'.calls id = t.calls id ∧ (id ∈ t'.link.pending ↔ id ∈ t.link.pending) := by
  cases hs with
  | receive _ hlink =>
    rcases Link.dispatch_cases hlink with ⟨m, x, hm, hid, -, rfl, rfl⟩ | ⟨rfl, rfl, -⟩
    · have hx : id ≠ x := by
        rintro rfl
        exact h m hm hid
      have hne : (id == x) = false := beq_false_of_ne hx
      refine ⟨?_, ?_⟩
      · simp only [tell, List.lookup_cons, hne, List.lookup_nil, CallPhase.tell_none]
      · exact Link.mem_abandon.trans (and_iff_right hx)
    · exact ⟨CallPhase.tell_none _, Iff.rfl⟩

/-- A call that registers, is answered next and notices it ends with the answer. -/
theorem run_answered {n : Nat} {r : Rpc.Request} {link : Link} {text : String} (hfresh : t.calls r.id = .fresh)
    (hchosen : t.link.chosen = some n) (hregister : t.link.register r.id = .ok (link, []))
    (hrunning : t.connections n = .running) (hm : Link.message? text = some m) (hid : m.id = some r.id) :
    ∃ t', Run t [.begin r, .enter r.id, .handOver r.id, .receive n text, .notice r.id] t' ∧
      t'.calls r.id = .ended (some m.reply) := by
  obtain ⟨t₁, hrun, rfl, hmem, hwaiting, hsame⟩ := run_register hfresh hchosen hregister
  rw [← hsame] at hrunning
  have hdispatch : t₁.link.dispatch text = (t₁.link.abandon r.id, [(r.id, m.reply)], some m) := by
    simp [Link.dispatch, hm, Link.receive, hid, hmem]
  have hreceive := Step.receive hrunning hdispatch
  generalize ht₂ : Traffic.tell _ [(r.id, m.reply)] = t₂ at hreceive
  have htold : t₂.calls r.id = .waiting ⟨r, n⟩ (some m.reply) := by
    rw [← ht₂]
    simp [tell, hwaiting, CallPhase.tell]
  exact ⟨_, (hrun.snoc hreceive).snoc (.notice htold), setCall_self ..⟩

/-! ### Every run -/

/-- How calls and messages belong together after a run of these events. -/
structure Paired (es : List Event) (t : Traffic) : Prop where
  /-- A call ends at most once. -/
  once : ∀ id outcome, t.calls id = .ended outcome → ∀ es' t', Run t es' t' → t'.calls id = .ended outcome
  /-- A result is that of a message under the id of the call, and the message has no error. -/
  result : ∀ id v, t.calls id = .ended (some (.ok v)) →
    ∃ m, Answered es t id m ∧ m.error = none ∧ v = m.result.getD .null
  /-- An error of the edge is that of a message under the id of the call. -/
  error : ∀ id code message, t.calls id = .ended (some (.error (.rpc code message))) →
    ∃ m e, Answered es t id m ∧ m.error = some e ∧ e.code = code ∧ e.message = message
  /-- A text does nothing to the calls whose id it does not carry. -/
  other : ∀ n text t', Step t (.receive n text) t' → ∀ id, (∀ m, Link.message? text = some m → m.id ≠ some id) →
    t'.calls id = t.calls id ∧ (id ∈ t'.link.pending ↔ id ∈ t.link.pending)
  /-- A message under the id of a call that was answered does nothing to any call. -/
  again : ∀ id m, Answered es t id m → ∀ n text t' m', Link.message? text = some m' → m'.id = some id →
    Step t (.receive n text) t' → t'.calls = t.calls ∧ t'.link = t.link

/-- In every run each answer goes to the call it belongs to, and to no other. -/
theorem Run.paired (hr : Run {} es t) : Paired es t where
  once _ _ hended _ _ hr' := hr'.ended hended
  result id v hended := by
    have houtcome : (t.calls id).outcome? = some (.ok v) := by rw [hended]; rfl
    rcases hr.outcome houtcome with ⟨f, hf, -⟩ | ⟨m, hanswered, hreply⟩
    · cases hf
    · exact ⟨m, hanswered, Rpc.Message.reply_eq_ok hreply.symm⟩
  error id code message hended := by
    have houtcome : (t.calls id).outcome? = some (.error (.rpc code message)) := by rw [hended]; rfl
    rcases hr.outcome houtcome with ⟨f, hf, hunanswered⟩ | ⟨m, hanswered, hreply⟩
    · cases hf
      cases hunanswered
    · obtain ⟨e, he⟩ := Rpc.Message.reply_eq_error hreply.symm
      exact ⟨m, e, hanswered, he⟩
  other _ _ _ hs _ hid := hs.receive_other hid
  again id m hanswered n text t' m' hm' hid' hs := by
    refine hs.receive_unknown fun m'' x hm'' hx => ?_
    rw [hm'] at hm''
    cases hm''
    rw [hid'] at hx
    cases hx
    exact hanswered.not_mem

theorem paired_answered :
    ∃ es t, Run {} es t ∧ t.calls "a" = .ended (some (.ok .null)) ∧
      ∃ m, Answered es t "a" m ∧ m.error = none ∧ Json.null = m.result.getD .null := by
  have hfields : (Link.message? "\x7b\"id\":\"a\"\x7d").map (fun m => (m.id, m.result.isNone, m.error.isNone)) =
      some (some "a", true, true) := by decide +kernel
  obtain ⟨m, hm, hm'⟩ := Option.map_eq_some_iff.1 hfields
  simp only [Prod.mk.injEq, Option.isNone_iff_eq_none] at hm'
  obtain ⟨hid, hresult, herror⟩ := hm'
  have hreply : m.reply = .ok .null := by simp [Rpc.Message.reply, Rpc.Message.outcome, herror, hresult]
  let attached := Traffic.setConnection { link := Link.attach {} } 0 .running
  have hattach : Run {} [.attach] attached := (Run.refl _).snoc .attach
  obtain ⟨t, hrun, hended⟩ := run_answered (t := attached) (n := 0)
    (r := { id := "a", method := "getEdgeConfig", params := .null }) rfl rfl rfl rfl hm hid
  rw [hreply] at hended
  have hr := hattach.trans hrun
  exact ⟨_, t, hr, hended, hr.paired.result "a" .null hended⟩

end Traffic

end EnergyGateway
