import EnergyGateway.Proofs.Session.Survey

/-!
# Changes are atomic

A change of devices either is refused before anything is written, or its one posting is sent.  If the posting is
answered well, the change has succeeded: what follows is one request for the new components, and whatever becomes
of it is not told.  `Course` says this of what a change exchanges, step by step, and `perform_atomic` draws the
consequences for all changes.
-/

namespace EnergyGateway

/-- A request over HTTP that is no read. -/
def Exchange.isWrite : Exchange → Bool
  | .http r _ => r.method ≠ .get
  | .rpc .. => false

/-- A posting that was done: the status of the answer says so, and its body could be read.  A posting whose answer
breaks off within its body does not count as done, even if the status is 2xx. -/
def Exchange.isDonePosting : Exchange → Bool
  | .http r (some answer) => r.method = .post && answer.isSuccess && answer.body.isSome
  | _ => false

/-- A request for the components of the edge. -/
def Exchange.isRefresh : Exchange → Bool
  | .http .. => false
  | .rpc method params _ =>
    method == Rpc.edgeCall && (params.at? ["payload", "method"]).bind Json.text? == some Rpc.getConfig

/-- The failures of a change that is refused: an invalid value, a limit of the tier, a PID that is not listed, or
no snapshot in time. -/
def Failure.isRefusal : Failure → Bool
  | .invalidValue _ | .tier _ | .pidNotFound _ | .timeout _ => true
  | _ => false

/-- What a change that ends with `o` may have exchanged. -/
structure Atomic {α : Type} (o : Except Failure α) (es : List Exchange) : Prop where
  /-- At most one request is no read. -/
  writes_le_one : (es.filter Exchange.isWrite).length ≤ 1
  /-- The change succeeds exactly if that request is a posting that was done. -/
  isOk_iff : o.isOk ↔ ∃ e, es.filter Exchange.isWrite = [e] ∧ e.isDonePosting
  /-- A change that is refused writes nothing. -/
  refused : ∀ f, o = .error f → f.isRefusal → es.filter Exchange.isWrite = []
  /-- New components are asked for once if a posting was done, and never otherwise, so neither if an answer with
  status 2xx broke off within its body. -/
  refreshes : es.countP Exchange.isRefresh = if es.any Exchange.isDonePosting then 1 else 0
  /-- They are asked for last of all. -/
  refresh_last : ∀ e ∈ es, e.isRefresh → es.getLast? = some e

namespace Exchange

theorem isWrite_of_isDonePosting {e : Exchange} (h : e.isDonePosting) : e.isWrite := by
  match e with
  | .http r (some answer) =>
    simp only [isDonePosting, Bool.and_eq_true, decide_eq_true_eq] at h
    simp [isWrite, h.1.1]
  | .http _ none => cases h
  | .rpc .. => cases h

theorem isWrite_of_isRead {e : Exchange} (h : e.isRead) : e.isWrite = false := by
  match e with
  | .http r _ => simpa [isRead, isWrite] using h
  | .rpc .. => cases h

theorem isRefresh_of_isRead {e : Exchange} (h : e.isRead) : e.isRefresh = false := by
  match e with
  | .http .. => rfl
  | .rpc .. => cases h

theorem isWrite_of_isRefresh {e : Exchange} (h : e.isRefresh) : e.isWrite = false := by
  match e with
  | .http .. => cases h
  | .rpc .. => rfl

end Exchange

/-! ### The course of a change -/

/-- The courses that a change can take: it is refused while it reads, its posting fails, or its posting is done
and new components are asked for.  `W` tells what is known of the request of the posting. -/
inductive Course {α : Type} (W : Exchange → Prop) : Except Failure α → List Exchange → Prop
  | refused {reads f} (h : ∀ e ∈ reads, e.isRead) : Course W (.error f) reads
  | failed {reads e f} (h : ∀ e ∈ reads, e.isRead) (hw : W e) (he : ¬ e.isDonePosting) (hf : ¬ f.isRefusal) :
      Course W (.error f) (reads ++ [e])
  | done {reads e e' x} (h : ∀ e ∈ reads, e.isRead) (hw : W e) (he : e.isDonePosting) (he' : e'.isRefresh) :
      Course W (.ok x) (reads ++ [e, e'])

namespace Course

variable {α : Type} {W : Exchange → Prop} {o : Except Failure α} {es reads : List Exchange}

theorem mono {W' : Exchange → Prop} (h : Course W o es) (hW : ∀ e, W e → W' e) : Course W' o es := by
  cases h with
  | refused h => exact .refused h
  | failed h hw he hf => exact .failed h (hW _ hw) he hf
  | done h hw he he' => exact .done h (hW _ hw) he he'

/-- Reads may come in front of everything else. -/
theorem behind_reads (hr : ∀ e ∈ reads, e.isRead) (h : Course W o es) : Course W o (reads ++ es) := by
  have happend : ∀ {rs : List Exchange}, (∀ e ∈ rs, e.isRead) → ∀ e ∈ reads ++ rs, e.isRead := by
    intro rs hrs e he
    rcases List.mem_append.1 he with he | he
    · exact hr e he
    · exact hrs e he
  cases h with
  | refused h => exact .refused (happend h)
  | failed h hw he hf =>
    rw [← List.append_assoc]
    exact .failed (happend h) hw he hf
  | done h hw he he' =>
    rw [← List.append_assoc]
    exact .done (happend h) hw he he'

/-- What a change writes is its posting. -/
theorem of_isWrite (h : Course W o es) {e : Exchange} (he : e ∈ es) (hw : e.isWrite) : W e := by
  cases h with
  | refused h =>
    rw [Exchange.isWrite_of_isRead (h e he)] at hw
    cases hw
  | failed h hW =>
    rcases List.mem_append.1 he with he | he
    · rw [Exchange.isWrite_of_isRead (h e he)] at hw
      cases hw
    · exact List.mem_singleton.1 he ▸ hW
  | done h hW _ he' =>
    simp only [List.mem_append, List.mem_cons, List.not_mem_nil, or_false] at he
    rcases he with he | rfl | rfl
    · rw [Exchange.isWrite_of_isRead (h e he)] at hw
      cases hw
    · exact hW
    · rw [Exchange.isWrite_of_isRefresh he'] at hw
      cases hw

private theorem filter_isWrite_reads (h : ∀ e ∈ reads, e.isRead) : reads.filter Exchange.isWrite = [] := by
  rw [List.filter_eq_nil_iff]
  intro e he
  simp [Exchange.isWrite_of_isRead (h e he)]

private theorem any_isDonePosting_reads (h : ∀ e ∈ reads, e.isRead) : reads.any Exchange.isDonePosting = false := by
  rw [List.any_eq_false]
  intro e he hd
  have hw := Exchange.isWrite_of_isDonePosting hd
  rw [Exchange.isWrite_of_isRead (h e he)] at hw
  cases hw

private theorem countP_isRefresh_reads (h : ∀ e ∈ reads, e.isRead) : reads.countP Exchange.isRefresh = 0 := by
  rw [List.countP_eq_zero]
  intro e he
  simp [Exchange.isRefresh_of_isRead (h e he)]

/-- Among reads and a request that is no refresh there is no refresh. -/
private theorem isRefresh_of_mem_append {w : Exchange} (h : ∀ e ∈ reads, e.isRead) (hw : w.isWrite)
    (e : Exchange) (he : e ∈ reads ++ [w]) : e.isRefresh = false := by
  rcases List.mem_append.1 he with he | he
  · exact Exchange.isRefresh_of_isRead (h e he)
  · rw [List.mem_singleton.1 he, ← Bool.not_eq_true]
    intro hr
    rw [Exchange.isWrite_of_isRefresh hr] at hw
    cases hw

/-- Every course is atomic. -/
theorem atomic (h : Course (fun e => e.isWrite) o es) : Atomic o es := by
  cases h with
  | refused h =>
    have hw := filter_isWrite_reads h
    refine ⟨by simp [hw], by simp [hw, Except.isOk, Except.toBool], fun _ _ _ => hw, ?_, ?_⟩
    · rw [countP_isRefresh_reads h, any_isDonePosting_reads h]
      rfl
    · intro e he hr
      rw [Exchange.isRefresh_of_isRead (h e he)] at hr
      cases hr
  | @failed rs w f h hw he hf =>
    have hno := isRefresh_of_mem_append h hw
    refine ⟨by simp [filter_isWrite_reads h, hw], ?_, ?_, ?_, ?_⟩
    · simp [filter_isWrite_reads h, hw, he, Except.isOk, Except.toBool]
    · rintro f' hf' hr
      cases hf'
      exact absurd hr hf
    · simp [countP_isRefresh_reads h, any_isDonePosting_reads h, hno w (by simp), he]
    · intro e hmem hr
      rw [hno e hmem] at hr
      cases hr
  | @done rs w r x h hw he he' =>
    have hno := isRefresh_of_mem_append h hw
    have hfilter : (rs ++ [w, r]).filter Exchange.isWrite = [w] := by
      simp [filter_isWrite_reads h, hw, Exchange.isWrite_of_isRefresh he']
    refine ⟨by simp [hfilter], ?_, ?_, ?_, ?_⟩
    · simp [hfilter, he, Except.isOk, Except.toBool]
    · intro f hf
      cases hf
    · simp [countP_isRefresh_reads h, he, he', hno w (by simp)]
    · intro e hmem hr
      have hsplit : rs ++ [w, r] = rs ++ [w] ++ [r] := by simp
      rw [hsplit] at hmem ⊢
      rcases List.mem_append.1 hmem with hmem | hmem
      · rw [hno e hmem] at hr
        cases hr
      · rw [List.mem_singleton.1 hmem, List.getLast?_concat]

end Course

/-! ### Postings -/

/-- A posting is sent as a request to its place. -/
def Posting.SentAs {σ : Type} (setup : Setup σ) (p : Posting) (e : Exchange) : Prop :=
  ∃ url answer, Url.parse? (setup.console.address (managerPath ++ "/" ++ p.place)) = some url ∧
    e = .http ⟨.post, url, setup.console.authorization, .form p.form⟩ answer

theorem Posting.SentAs.isWrite {σ : Type} {setup : Setup σ} {p : Posting} {e : Exchange} (h : p.SentAs setup e) :
    e.isWrite := by
  obtain ⟨url, answer, -, rfl⟩ := h
  rfl

namespace Http.Response

/-- A text is read from a response exactly if the status says that the request was done and the body is there. -/
theorem text_cases (r : Response) :
    (r.isSuccess && r.body.isSome) = true ∧ (∃ body, r.text = .ok body) ∨
      (r.isSuccess && r.body.isSome) = false ∧ ∃ f, r.text = .error f ∧ f.isRefusal = false := by
  unfold text accepted
  by_cases hs : r.isSuccess
  · rcases hb : r.body with _ | body
    · right
      exact ⟨by simp [hs], .http, by simp [hs, hb, bind, Except.bind]; rfl, rfl⟩
    · left
      exact ⟨by simp [hs], body, by simp [hs, hb, bind, Except.bind, pure, Except.pure]⟩
  · right
    refine ⟨by simp [hs], ?_⟩
    by_cases hstatus : r.status = 401 ∨ r.status = 403
    · exact ⟨.authenticationFailed, by simp [hs, hstatus, bind, Except.bind], rfl⟩
    · exact ⟨.api r.status (r.body.getD ""), by simp [hs, hstatus, bind, Except.bind], rfl⟩

end Http.Response

namespace Action

variable {σ α : Type} (setup : Setup σ)

/-- A posting without an address fails unsent.  Any other is sent once, and has an answer exactly if it was
done. -/
theorem adds_post (p : Posting) :
    (post setup p).Adds fun o es =>
      (es = [] ∧ o = .error .http) ∨
      ∃ e, es = [e] ∧ p.SentAs setup e ∧
        (e.isDonePosting ∧ (∃ body, o = .ok body) ∨ ¬ e.isDonePosting ∧ ∃ f, o = .error f ∧ ¬ f.isRefusal) := by
  refine Adds.bind (adds_submit setup.line setup.console .post (managerPath ++ "/" ++ p.place) (.form p.form)) ?_ ?_
  · rintro f es (⟨rfl, ho⟩ | ⟨url, _ | response, hurl, rfl, ho⟩)
    · cases ho
      exact .inl ⟨rfl, rfl⟩
    · cases ho
      exact .inr ⟨_, rfl, ⟨url, none, hurl, rfl⟩, .inr ⟨nofun, .http, rfl, nofun⟩⟩
    · cases ho
  · rintro response es (⟨-, ho⟩ | ⟨url, _ | _, hurl, rfl, ho⟩)
    · cases ho
    · cases ho
    · cases ho
      refine (adds_ofExcept response.text).mono ?_
      rintro o es ⟨rfl, rfl⟩
      refine .inr ⟨_, rfl, ⟨url, some response, hurl, rfl⟩, ?_⟩
      rcases response.text_cases with ⟨hdone, body, htext⟩ | ⟨hdone, f, htext, hf⟩
      · exact .inl ⟨by simpa [Exchange.isDonePosting] using hdone, body, htext⟩
      · exact .inr ⟨by simpa [Exchange.isDonePosting] using hdone, f, htext, by simp [hf]⟩

/-! ### The end of a change -/

theorem adds_askComponents : (askComponents setup).Adds fun _ es => ∃ e, es = [e] ∧ e.isRefresh := by
  refine still_freshId.bind fun id => Adds.bind (adds_call setup.line _ _) ?_ ?_
  · rintro f es rfl
    exact ⟨_, rfl, rfl⟩
  · rintro answer es rfl
    refine (silent_ofExcept _).mono ?_
    rintro o es rfl
    exact ⟨_, rfl, rfl⟩

theorem adds_refresh : (refresh setup).Adds fun _ es => ∃ e, es = [e] ∧ e.isRefresh := by
  refine (still_look setup.line).bind fun seen => Adds.bind (adds_askComponents setup) (fun _ _ h => h) ?_
  rintro answer es ⟨e, rfl, he⟩
  refine (still_look setup.line).bind fun store => ?_
  split
  · exact adds_pure ⟨e, rfl, he⟩
  · exact (still_await setup.line).bind fun _ => still_get.bind fun s => adds_pure ⟨e, rfl, he⟩

/-- Whatever becomes of the request for new components, settling succeeds. -/
theorem adds_settle : (settle setup).Adds fun o es => o = .ok () ∧ ∃ e, es = [e] ∧ e.isRefresh := by
  unfold settle
  rw [discard_eq_bind]
  have hrefresh := adds_refresh setup
  refine Adds.tryCatch (P := fun _ es => ∃ e, es = [e] ∧ e.isRefresh) ?_ (fun _ _ h => ⟨rfl, h⟩) ?_
  · refine hrefresh.bind (fun _ _ h => h) ?_
    rintro _ es ⟨e, rfl, he⟩
    exact adds_pure ⟨e, rfl, he⟩
  · rintro f es ⟨e, rfl, he⟩
    exact adds_pure ⟨rfl, e, rfl, he⟩

theorem adds_carryOut (d : Decision α) : (carryOut setup d).Adds (Course (d.posting.SentAs setup)) := by
  have hnone : ∀ e ∈ ([] : List Exchange), e.isRead := fun _ he => absurd he List.not_mem_nil
  unfold carryOut
  rw [discard_bind]
  refine (adds_post setup d.posting).bind ?_ ?_
  · rintro f es (⟨rfl, -⟩ | ⟨e, rfl, hw, ⟨-, body, ho⟩ | ⟨he, f', ho, hf⟩⟩)
    · exact .refused (by simp)
    · cases ho
    · cases ho
      exact .failed hnone hw he hf
  · rintro x es (⟨-, ho⟩ | ⟨e, rfl, hw, ⟨he, -⟩ | ⟨-, f, ho, -⟩⟩)
    · cases ho
    · refine (adds_settle setup).bind ?_ ?_
      · rintro f es ⟨ho, -⟩
        cases ho
      · rintro _ es ⟨-, e', rfl, he'⟩
        exact adds_pure (.done hnone hw he he')
    · cases ho

/-- Carrying out fails over the line only, never with a refusal. -/
theorem adds_carryOut_not_refused (d : Decision α) :
    (carryOut setup d).Adds fun o _ => ∀ f, o = .error f → ¬ f.isRefusal := by
  unfold carryOut
  rw [discard_bind]
  refine (adds_post setup d.posting).bind ?_ fun x _ _ => ?_
  · rintro f es hpost f' hf'
    cases hf'
    rcases hpost with ⟨-, ho⟩ | ⟨e, -, -, ⟨-, body, ho⟩ | ⟨-, f', ho, hf⟩⟩
    · cases ho
      simp [Failure.isRefusal]
    · cases ho
    · cases ho
      exact hf
  · refine (adds_settle setup).bind ?_ ?_
    · rintro f es ⟨ho, -⟩
      cases ho
    · exact fun _ _ _ => adds_pure (by simp)

/-! ### Changes -/

/-- An action that ends with a change takes one of its courses if it only reads before. -/
theorem OnlyReads.bind_course {β : Type} {W : Exchange → Prop} {a : Action σ α} {g : α → Action σ β}
    (ha : a.OnlyReads) (hg : ∀ x, (g x).Adds (Course W)) : (a >>= g).Adds (Course W) :=
  Adds.bind ha (fun _ _ h => .refused h) fun x _ h => (hg x).mono fun _ _ hc => hc.behind_reads h

theorem adds_carryOut_isWrite (d : Decision α) : (carryOut setup d).Adds (Course fun e => e.isWrite) :=
  (adds_carryOut setup d).mono fun _ _ h => h.mono fun _ => Posting.SentAs.isWrite

theorem adds_change (decide : Installation → Except Failure (Decision α)) :
    (change setup decide).Adds (Course fun e => e.isWrite) :=
  (onlyReads_survey setup).bind_course fun i => (silent_ofExcept (decide i)).onlyReads.bind_course fun d =>
    adds_carryOut_isWrite setup d

/-- A change writes nothing but what it decided on the installation it saw, and nothing if it decided against. -/
theorem change_writes (decide : Installation → Except Failure (Decision α)) (s : Session σ) :
    ∃ es, ((change setup decide).after s).log = s.log ++ es ∧
      (∀ e ∈ es, e.isWrite → ∃ i s' d, survey setup s = .ok i s' ∧ decide i = .ok d ∧ d.posting.SentAs setup e) ∧
      ∀ i s' f, survey setup s = .ok i s' → decide i = .error f →
        (change setup decide).outcome s = .error f ∧ ∀ e ∈ es, e.isWrite = false := by
  obtain ⟨reads, hlog, hreads⟩ := onlyReads_survey setup s
  have hquiet : ∀ e ∈ reads, e.isWrite = false := fun e he => Exchange.isWrite_of_isRead (hreads e he)
  have hno : ∀ e ∈ reads, ¬ e.isWrite := fun e he => by simp [hquiet e he]
  rcases change_cases setup decide s with
    ⟨f, s', hsurvey, hrun⟩ | ⟨i, s', hsurvey, ⟨f, hdecide, hrun⟩ | ⟨d, hdecide, hrun⟩⟩
  · -- the survey fails
    refine ⟨reads, ?_, fun e he hw => absurd hw (hno e he), fun i' s'' f' hsurvey' => ?_⟩
    · rw [(outcome_eq_error hrun).2, ← (outcome_eq_error hsurvey).2, hlog]
    · rw [hsurvey] at hsurvey'
      cases hsurvey'
  · -- it is decided against the change
    refine ⟨reads, ?_, fun e he hw => absurd hw (hno e he), fun i' s'' f' hsurvey' hdecide' => ?_⟩
    · rw [(outcome_eq_error hrun).2, ← (outcome_eq_ok hsurvey).2, hlog]
    · rw [hsurvey] at hsurvey'
      cases hsurvey'
      rw [hdecide] at hdecide'
      cases hdecide'
      exact ⟨(outcome_eq_error hrun).1, hquiet⟩
  · -- the change is carried out
    obtain ⟨es, hlog', hcourse⟩ := adds_carryOut setup d s'
    refine ⟨reads ++ es, ?_, fun e he hw => ?_, fun i' s'' f' hsurvey' hdecide' => ?_⟩
    · rw [after, hrun, ← after, hlog', ← (outcome_eq_ok hsurvey).2, hlog, List.append_assoc]
    · rcases List.mem_append.1 he with he | he
      · exact absurd hw (hno e he)
      · exact ⟨i, s', d, hsurvey, hdecide, hcourse.of_isWrite he hw⟩
    · rw [hsurvey] at hsurvey'
      cases hsurvey'
      rw [hdecide] at hdecide'
      cases hdecide'

/-- Behind a survey, a change is refused exactly if it is decided against. -/
theorem change_eq_refusal_iff {decide : Installation → Except Failure (Decision α)} {s s' : Session σ}
    {i : Installation} {f : Failure} (hsurvey : survey setup s = .ok i s') (hf : f.isRefusal) :
    (change setup decide).outcome s = .error f ↔ decide i = .error f := by
  rcases change_cases setup decide s with
    ⟨f', s'', hsurvey', -⟩ | ⟨i', s'', hsurvey', ⟨f', hdecide, hrun⟩ | ⟨d, hdecide, hrun⟩⟩ <;>
    rw [hsurvey] at hsurvey' <;> cases hsurvey'
  · rw [(outcome_eq_error hrun).1, hdecide, Except.error.injEq, Except.error.injEq]
  · obtain ⟨es, -, hnot⟩ := adds_carryOut_not_refused setup d s'
    rw [outcome, hrun, ← outcome, hdecide]
    exact iff_of_false (fun h => hnot f h hf) (by simp)

end Action

theorem DeviceChange.adds_perform {σ : Type} (setup : Setup σ) (c : DeviceChange) :
    (c.perform setup).Adds (Course fun e => e.isWrite) := by
  have hsurvey := Action.onlyReads_survey setup
  have hsnapshot := (Action.silent_snapshot setup.line).onlyReads
  have hofExcept : ∀ {α : Type} (r : Except Failure α), (Action.ofExcept r : Action σ α).OnlyReads :=
    fun r => (Action.silent_ofExcept r).onlyReads
  cases c with
  | addInverter brand s =>
    exact hsurvey.bind_course fun i => (hofExcept _).bind_course fun factory => hsnapshot.bind_course fun components =>
      (hofExcept _).bind_course fun d => Action.adds_carryOut_isWrite setup d
  | addMeter brand s =>
    exact hsurvey.bind_course fun i => (hofExcept _).bind_course fun factory => hsnapshot.bind_course fun components =>
      (hofExcept _).bind_course fun d => Action.adds_carryOut_isWrite setup d
  | addStorage brand s =>
    exact (hofExcept _).bind_course fun factory => hsnapshot.bind_course fun components =>
      (hofExcept _).bind_course fun d => Action.adds_carryOut_isWrite setup d
  | _ => exact Action.adds_change setup _

/-- Every change of devices is atomic, whatever the state of the session, the catalog, the answers of the server
and the edge, and what the edge publishes on its own. -/
theorem DeviceChange.perform_atomic {σ : Type} (setup : Setup σ) (c : DeviceChange) (s : Session σ) :
    ∃ es, ((c.perform setup).after s).log = s.log ++ es ∧ Atomic ((c.perform setup).outcome s) es := by
  obtain ⟨es, hlog, hcourse⟩ := c.adds_perform setup s
  exact ⟨es, hlog, hcourse.atomic⟩

end EnergyGateway
