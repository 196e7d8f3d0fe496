import EnergyGateway.Session.Snapshot

/-!
# What actions exchange

An action only ever adds to the log of its session.  `Adds a P` says what: every run of `a` adds exchanges that,
together with how it ends, satisfy `P`.  The lemmas follow the ways in which actions are put together, so that
what a whole action exchanges is read off its steps.
-/

namespace EnergyGateway

/-- A request over HTTP that only reads. -/
def Exchange.isRead : Exchange → Bool
  | .http r _ => r.method = .get
  | .rpc .. => false

namespace Action

variable {σ α β : Type}

/-- Every run of the action adds exchanges to the log that fit its outcome. -/
def Adds (a : Action σ α) (P : Except Failure α → List Exchange → Prop) : Prop :=
  ∀ s, ∃ es, (a.after s).log = s.log ++ es ∧ P (a.outcome s) es

/-- No run of the action exchanges anything. -/
def Silent (a : Action σ α) : Prop := a.Adds fun _ es => es = []

/-- Every run of the action succeeds and exchanges nothing. -/
def Still (a : Action σ α) : Prop := a.Adds fun o es => (∃ x, o = .ok x) ∧ es = []

/-- No run of the action exchanges anything but reads. -/
def OnlyReads (a : Action σ α) : Prop := a.Adds fun _ es => ∀ e ∈ es, e.isRead

/-! ### Runs of combined actions -/

theorem outcome_eq_ok {a : Action σ α} {s s' : Session σ} {x : α} (h : a s = .ok x s') :
    a.outcome s = .ok x ∧ a.after s = s' := by
  simp [outcome, after, h]

theorem outcome_eq_error {a : Action σ α} {s s' : Session σ} {f : Failure} (h : a s = .error f s') :
    a.outcome s = .error f ∧ a.after s = s' := by
  simp [outcome, after, h]

theorem bind_of_ok {a : Action σ α} {s s' : Session σ} {x : α} (h : a s = .ok x s') (g : α → Action σ β) :
    (a >>= g) s = g x s' := by
  show EStateM.bind a g s = _
  simp [EStateM.bind, h]

theorem bind_of_error {a : Action σ α} {s s' : Session σ} {f : Failure} (h : a s = .error f s')
    (g : α → Action σ β) : (a >>= g) s = .error f s' := by
  show EStateM.bind a g s = _
  simp [EStateM.bind, h]

theorem tryCatch_of_ok {a : Action σ α} {s s' : Session σ} {x : α} (h : a s = .ok x s')
    (g : Failure → Action σ α) : tryCatch a g s = .ok x s' := by
  show EStateM.tryCatch a g s = _
  delta EStateM.tryCatch
  simp only [h]

theorem tryCatch_of_error {a : Action σ α} {s s' : Session σ} {f : Failure} (h : a s = .error f s')
    (g : Failure → Action σ α) : tryCatch a g s = g f s' := by
  show EStateM.tryCatch a g s = _
  delta EStateM.tryCatch
  simp only [h, EStateM.Backtrackable.restore, EStateM.dummyRestore]

/-- A successful run of a combined action is made of two. -/
theorem bind_eq_ok {a : Action σ α} {g : α → Action σ β} {s s'' : Session σ} {y : β}
    (h : (a >>= g) s = .ok y s'') : ∃ x s', a s = .ok x s' ∧ g x s' = .ok y s'' := by
  rcases ha : a s with ⟨x, s'⟩ | ⟨f, s'⟩
  · rw [bind_of_ok ha] at h
    exact ⟨x, s', rfl, h⟩
  · rw [bind_of_error ha] at h
    cases h

/-- What succeeds although failures are caught has succeeded itself, or what was done about its failure has. -/
theorem tryCatch_eq_ok {a : Action σ α} {g : Failure → Action σ α} {s s'' : Session σ} {x : α}
    (h : tryCatch a g s = .ok x s'') : a s = .ok x s'' ∨ ∃ f s', a s = .error f s' ∧ g f s' = .ok x s'' := by
  rcases ha : a s with ⟨y, s'⟩ | ⟨f, s'⟩
  · rw [tryCatch_of_ok ha] at h
    exact .inl h
  · rw [tryCatch_of_error ha] at h
    exact .inr ⟨f, s', rfl, h⟩

theorem pure_eq_ok {x y : α} {s s' : Session σ} (h : (pure x : Action σ α) s = .ok y s') : y = x ∧ s' = s := by
  cases h
  exact ⟨rfl, rfl⟩

theorem ofExcept_eq_ok {r : Except Failure α} {s s' : Session σ} {x : α} (h : ofExcept r s = .ok x s') :
    r = .ok x ∧ s' = s := by
  cases r with
  | ok y =>
    cases h
    exact ⟨rfl, rfl⟩
  | error f => cases h

theorem require_eq_ok {f : Failure} {x : Option α} {s s' : Session σ} {y : α} (h : require f x s = .ok y s') :
    x = some y ∧ s' = s := by
  cases x with
  | some x =>
    cases h
    exact ⟨rfl, rfl⟩
  | none => cases h

theorem discard_eq_bind (a : Action σ α) : discard a = a >>= fun _ => pure () := by
  funext s
  show EStateM.map _ a s = EStateM.bind a _ s
  unfold EStateM.map EStateM.bind
  split <;> rfl

theorem discard_bind (a : Action σ α) (g : PUnit → Action σ β) : (discard a >>= g) = a >>= fun _ => g () := by
  rw [discard_eq_bind, bind_assoc]
  simp only [pure_bind]

/-! ### Exchanges of combined actions -/

variable {P Q : Except Failure α → List Exchange → Prop} {R : Except Failure β → List Exchange → Prop}

theorem Adds.mono {a : Action σ α} (h : a.Adds P) (hPQ : ∀ o es, P o es → Q o es) : a.Adds Q := by
  intro s
  obtain ⟨es, hlog, hP⟩ := h s
  exact ⟨es, hlog, hPQ _ _ hP⟩

theorem adds_pure {x : α} (h : P (.ok x) []) : (pure x : Action σ α).Adds P :=
  fun _ => ⟨[], (List.append_nil _).symm, h⟩

theorem adds_throw {f : Failure} (h : P (.error f) []) : (throw f : Action σ α).Adds P :=
  fun _ => ⟨[], (List.append_nil _).symm, h⟩

theorem Adds.bind {a : Action σ α} {g : α → Action σ β} (ha : a.Adds P)
    (herror : ∀ f es, P (.error f) es → R (.error f) es)
    (hok : ∀ x es, P (.ok x) es → (g x).Adds fun o es' => R o (es ++ es')) : (a >>= g).Adds R := by
  intro s
  obtain ⟨es, hlog, hP⟩ := ha s
  rcases h : a s with ⟨x, s'⟩ | ⟨f, s'⟩
  · obtain ⟨ho, hs⟩ := outcome_eq_ok h
    rw [ho] at hP
    obtain ⟨es', hlog', hR⟩ := hok x es hP s'
    have hrun : (a >>= g) s = g x s' := bind_of_ok h g
    refine ⟨es ++ es', ?_, ?_⟩
    · rw [hs] at hlog
      rw [after, hrun, ← after, hlog', hlog, List.append_assoc]
    · rw [outcome, hrun]
      exact hR
  · obtain ⟨ho, hs⟩ := outcome_eq_error h
    obtain ⟨ho', hs'⟩ := outcome_eq_error (bind_of_error h g)
    rw [ho] at hP
    exact ⟨es, by rw [hs', ← hs, hlog], by rw [ho']; exact herror f es hP⟩

theorem Adds.tryCatch {a : Action σ α} {g : Failure → Action σ α} (ha : a.Adds P)
    (hok : ∀ x es, P (.ok x) es → Q (.ok x) es)
    (herror : ∀ f es, P (.error f) es → (g f).Adds fun o es' => Q o (es ++ es')) :
    (tryCatch a g).Adds Q := by
  intro s
  obtain ⟨es, hlog, hP⟩ := ha s
  rcases h : a s with ⟨x, s'⟩ | ⟨f, s'⟩
  · obtain ⟨ho, hs⟩ := outcome_eq_ok h
    obtain ⟨ho', hs'⟩ := outcome_eq_ok (tryCatch_of_ok h g)
    rw [ho] at hP
    exact ⟨es, by rw [hs', ← hs, hlog], by rw [ho']; exact hok x es hP⟩
  · obtain ⟨ho, hs⟩ := outcome_eq_error h
    rw [ho] at hP
    obtain ⟨es', hlog', hQ⟩ := herror f es hP s'
    have hrun : MonadExcept.tryCatch a g s = g f s' := tryCatch_of_error h g
    refine ⟨es ++ es', ?_, ?_⟩
    · rw [hs] at hlog
      rw [after, hrun, ← after, hlog', hlog, List.append_assoc]
    · rw [outcome, hrun]
      exact hQ

/-! ### Actions without exchanges -/

theorem silent_pure (x : α) : (pure x : Action σ α).Silent := adds_pure rfl

theorem silent_throw (f : Failure) : (throw f : Action σ α).Silent := adds_throw rfl

theorem adds_ofExcept (r : Except Failure α) : (ofExcept r : Action σ α).Adds fun o es => o = r ∧ es = [] := by
  cases r with
  | ok x => exact adds_pure ⟨rfl, rfl⟩
  | error f => exact adds_throw ⟨rfl, rfl⟩

theorem silent_ofExcept (r : Except Failure α) : (ofExcept r : Action σ α).Silent :=
  (adds_ofExcept r).mono fun _ _ h => h.2

theorem silent_require (f : Failure) (x : Option α) : (require f x : Action σ α).Silent := by
  cases x with
  | some x => exact silent_pure x
  | none => exact silent_throw f

variable (line : Line σ)

theorem still_get : (get : Action σ (Session σ)).Still := fun s => ⟨[], (List.append_nil _).symm, ⟨s, rfl⟩, rfl⟩

theorem still_await : (await line).Still := fun _ => ⟨[], (List.append_nil _).symm, ⟨(), rfl⟩, rfl⟩

theorem still_look : (look line).Still := fun _ => ⟨[], (List.append_nil _).symm, ⟨_, rfl⟩, rfl⟩

theorem still_freshId : (freshId : Action σ String).Still := fun _ => ⟨[], (List.append_nil _).symm, ⟨_, rfl⟩, rfl⟩

theorem Still.silent {a : Action σ α} (h : a.Still) : a.Silent := h.mono fun _ _ h => h.2

/-- What succeeds without exchanges may stand in front of anything. -/
theorem Still.bind {a : Action σ α} {g : α → Action σ β} (ha : a.Still) (hg : ∀ x, (g x).Adds R) :
    (a >>= g).Adds R := by
  refine Adds.bind ha ?_ ?_
  · rintro f es ⟨⟨x, hx⟩, -⟩
    cases hx
  · rintro x es ⟨-, rfl⟩
    exact hg x

theorem silent_snapshot : (snapshot line).Silent := by
  refine (still_look line).bind fun store => ?_
  split
  · exact silent_pure _
  · exact (still_await line).bind fun _ => still_get.bind fun s => silent_require _ _

/-! ### Single exchanges -/

/-- What comes of a request that was answered like this. -/
def answered : Option Http.Response → Except Failure Http.Response
  | some response => .ok response
  | none => .error .http

/-- A request is sent once, and what comes of it is what was answered. -/
theorem adds_send (r : Http.Request) :
    (send line r).Adds fun o es => ∃ answer, es = [.http r answer] ∧ o = answered answer := by
  intro s
  rcases h : line.serve r s.remote with ⟨_ | response, remote⟩
  · exact ⟨[.http r none], by simp [send, after, h], none, rfl, by simp [send, outcome, answered, h]⟩
  · exact ⟨[.http r (some response)], by simp [send, after, h], some response, rfl,
      by simp [send, outcome, answered, h]⟩

/-- Making a request sends nothing; it fails where the address is none. -/
theorem adds_request (server : Server) (method : Http.Method) (path : String) (payload : Http.Payload) :
    (request server method path payload : Action σ Http.Request).Adds fun o es => es = [] ∧
      o = (match Url.parse? (server.address path) with
        | some url => .ok ⟨method, url, server.authorization, payload⟩
        | none => .error .http) := by
  unfold request
  split
  · exact adds_pure ⟨rfl, by simp [*]⟩
  · exact adds_throw ⟨rfl, by simp [*]⟩

/-- What is submitted is sent once, or not at all where the address is none. -/
theorem adds_submit (server : Server) (method : Http.Method) (path : String) (payload : Http.Payload) :
    (submit line server method path payload).Adds fun o es =>
      es = [] ∧ o = .error .http ∨
      ∃ url answer, Url.parse? (server.address path) = some url ∧
        es = [.http ⟨method, url, server.authorization, payload⟩ answer] ∧ o = answered answer := by
  refine Adds.bind (adds_request server method path payload) ?_ ?_
  · rintro f es ⟨rfl, ho⟩
    split at ho
    · cases ho
    · cases ho
      exact .inl ⟨rfl, rfl⟩
  · rintro r es ⟨rfl, hr⟩
    refine (adds_send line r).mono ?_
    rintro o es ⟨answer, rfl, ho⟩
    split at hr
    · rename_i url hurl
      cases hr
      exact .inr ⟨url, answer, hurl, rfl, ho⟩
    · cases hr

/-- A method is called once, and what comes of it is the outcome of the call. -/
theorem adds_call (method : String) (params : Json) :
    (call line method params).Adds fun o es => es = [.rpc method params o] := by
  intro s
  rcases h : line.call method params s.remote with ⟨f | x, messages, remote⟩
  · exact ⟨[.rpc method params (.error f)], by simp [call, after, h], by simp [call, outcome, h]⟩
  · exact ⟨[.rpc method params (.ok x)], by simp [call, after, h], by simp [call, outcome, h]⟩

/-! ### Actions that only read -/

theorem Silent.onlyReads {a : Action σ α} (h : a.Silent) : a.OnlyReads := by
  refine Adds.mono h ?_
  rintro o es rfl
  simp

theorem OnlyReads.bind {a : Action σ α} {g : α → Action σ β} (ha : a.OnlyReads) (hg : ∀ x, (g x).OnlyReads) :
    (a >>= g).OnlyReads := by
  refine Adds.bind ha (fun _ _ h => h) fun x es hes => (hg x).mono fun _ es' hes' e he => ?_
  rcases List.mem_append.1 he with he | he
  · exact hes e he
  · exact hes' e he

theorem OnlyReads.tryCatch {a : Action σ α} {g : Failure → Action σ α} (ha : a.OnlyReads)
    (hg : ∀ f, (g f).OnlyReads) : (tryCatch a g).OnlyReads := by
  refine Adds.tryCatch ha (fun _ _ h => h) fun f es hes => (hg f).mono fun _ es' hes' e he => ?_
  rcases List.mem_append.1 he with he | he
  · exact hes e he
  · exact hes' e he

/-- Something is tried again without exchanges but its own and those of the pauses. -/
theorem OnlyReads.tryUpTo {pause : Action σ Unit} {attempt : Action σ α} (hp : pause.OnlyReads)
    (ha : attempt.OnlyReads) (tries : Nat) : (tryUpTo pause attempt tries).OnlyReads := by
  induction tries using Action.tryUpTo.induct with
  | case1 => exact (silent_throw _).onlyReads
  | case2 => exact ha
  | case3 tries ih => exact ha.tryCatch fun _ => hp.bind fun _ => ih

theorem onlyReads_fetch (server : Server) (path : String) {pause : Action σ Unit} (hp : pause.OnlyReads) :
    (fetch line server path pause).OnlyReads := by
  refine OnlyReads.tryUpTo hp (Adds.bind (adds_request server .get path .none) ?_ ?_) _
  · rintro f es ⟨rfl, -⟩
    simp
  · rintro r es ⟨rfl, hr⟩
    refine (adds_send line r).mono ?_
    rintro o es ⟨answer, rfl, -⟩
    have hget : r.method = .get := by
      split at hr <;> cases hr
      rfl
    simp [Exchange.isRead, hget]

end Action

end EnergyGateway
