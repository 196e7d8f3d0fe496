import EnergyGateway.Proofs.Session.Course
import EnergyGateway.Session.Devices

/-!
# Surveys

A survey only reads.  What it finds is what the page of the configuration manager listed when it was answered last,
and the snapshot (`survey_eq_ok`).
-/

namespace EnergyGateway

/-- What is known of an installation in a session is what the page that was answered last lists, and the
snapshot. -/
def Installation.IsSeen {σ : Type} (setup : Setup σ) (i : Installation) (s : Session σ) : Prop :=
  i.catalog = setup.catalog ∧ s.store.snapshot = some i.components ∧
    ∃ url answer page, Url.parse? (setup.console.address managerPath) = some url ∧
      s.log.getLast? = some (.http ⟨.get, url, setup.console.authorization, .none⟩ (some answer)) ∧
      answer.text = .ok page ∧ i.listings = Listing.ofPage page

namespace Action

variable {σ α : Type} (setup : Setup σ)

theorem onlyReads_survey : (survey setup).OnlyReads := by
  have hcheck : (checkTime setup.line).OnlyReads := by
    refine (still_look setup.line).silent.onlyReads.bind fun store => ?_
    refine still_get.silent.onlyReads.bind fun s => ?_
    split
    · exact (silent_throw _).onlyReads
    · exact (silent_pure _).onlyReads
  have hpause := (still_await setup.line).silent.onlyReads.bind fun _ => hcheck
  have hlistings := (onlyReads_fetch setup.line setup.console managerPath hpause).bind fun answer =>
    (silent_ofExcept answer.text).onlyReads.bind fun page => (silent_pure (Listing.ofPage page)).onlyReads
  refine OnlyReads.bind (hlistings.tryCatch fun f => hcheck.bind fun _ => (silent_throw f).onlyReads) fun ls => ?_
  exact (silent_snapshot setup.line).onlyReads.bind fun components => (silent_pure _).onlyReads

/-- What is tried several times succeeds as one of the tries did. -/
theorem tryUpTo_eq_ok {pause : Action σ Unit} {attempt : Action σ α} {tries : Nat} {s s' : Session σ} {x : α}
    (h : tryUpTo pause attempt tries s = .ok x s') : ∃ s₀, attempt s₀ = .ok x s' := by
  induction tries using Action.tryUpTo.induct generalizing s with
  | case1 => cases h
  | case2 => exact ⟨s, h⟩
  | case3 tries ih =>
    rcases tryCatch_eq_ok h with h | ⟨f, s₁, -, h⟩
    · exact ⟨s, h⟩
    · obtain ⟨-, s₂, -, h⟩ := bind_eq_ok h
      exact ih h

variable {setup}

theorem send_eq_ok {line : Line σ} {r : Http.Request} {answer : Http.Response} {s s' : Session σ}
    (h : send line r s = .ok answer s') : s'.log = s.log ++ [.http r (some answer)] := by
  unfold send at h
  rcases hserve : line.serve r s.remote with ⟨_ | response, remote⟩
  · simp [hserve] at h
  · simp only [hserve] at h
    cases h
    rfl

theorem request_eq_ok {server : Server} {method : Http.Method} {path : String} {payload : Http.Payload}
    {r : Http.Request} {s s' : Session σ} (h : request server method path payload s = .ok r s') :
    ∃ url, Url.parse? (server.address path) = some url ∧ r = ⟨method, url, server.authorization, payload⟩ := by
  rcases hurl : Url.parse? (server.address path) with _ | url
  · simp only [request, hurl] at h
    cases h
  · simp only [request, hurl] at h
    cases h
    exact ⟨url, rfl, rfl⟩

theorem snapshot_eq_ok {line : Line σ} {components : ComponentMap} {s s' : Session σ}
    (h : snapshot line s = .ok components s') : s'.store.snapshot = some components ∧ s'.log = s.log := by
  obtain ⟨store, s₁, hlook, h⟩ := bind_eq_ok h
  cases hlook
  rcases hstore : (s.store.ingestAll (line.meanwhile s.remote).1).snapshot with _ | c
  · simp only [hstore] at h
    obtain ⟨_, s₂, hawait, h⟩ := bind_eq_ok h
    cases hawait
    obtain ⟨s₃, s₄, hget, h⟩ := bind_eq_ok h
    cases hget
    obtain ⟨hsnapshot, rfl⟩ := require_eq_ok h
    exact ⟨hsnapshot, rfl⟩
  · simp only [hstore] at h
    cases h
    exact ⟨hstore, rfl⟩

/-- A list that was read is that of the page that was answered last. -/
theorem listings_eq_ok {pause : Action σ Unit} {list : List Listing} {s s' : Session σ}
    (h : listings setup pause s = .ok list s') :
    ∃ url answer page, Url.parse? (setup.console.address managerPath) = some url ∧
      s'.log.getLast? = some (.http ⟨.get, url, setup.console.authorization, .none⟩ (some answer)) ∧
      answer.text = .ok page ∧ list = Listing.ofPage page := by
  obtain ⟨answer, s₁, hfetch, hlist⟩ := bind_eq_ok h
  obtain ⟨page, s₂, hread, hpure⟩ := bind_eq_ok hlist
  obtain ⟨htext, rfl⟩ := ofExcept_eq_ok hread
  obtain ⟨rfl, rfl⟩ := pure_eq_ok hpure
  obtain ⟨s₀, hattempt⟩ := tryUpTo_eq_ok hfetch
  obtain ⟨r, s₃, hrequest, hsend⟩ := bind_eq_ok hattempt
  obtain ⟨url, hurl, rfl⟩ := request_eq_ok hrequest
  refine ⟨url, answer, page, hurl, ?_, htext, rfl⟩
  rw [send_eq_ok hsend, List.getLast?_concat]

theorem survey_eq_ok {i : Installation} {s s' : Session σ} (h : survey setup s = .ok i s') : i.IsSeen setup s' := by
  obtain ⟨list, s₁, hlist, hrest⟩ := bind_eq_ok h
  obtain ⟨components, s₂, hsnapshot, hpure⟩ := bind_eq_ok hrest
  obtain ⟨rfl, rfl⟩ := pure_eq_ok hpure
  obtain ⟨hstore, hlog⟩ := snapshot_eq_ok hsnapshot
  refine ⟨rfl, hstore, ?_⟩
  rw [hlog]
  rcases tryCatch_eq_ok hlist with hlist | ⟨f, s₃, -, hlist⟩
  · exact listings_eq_ok hlist
  · obtain ⟨-, s₄, -, hthrow⟩ := bind_eq_ok hlist
    cases hthrow

/-- What can be seen in the outcome of a survey holds of the installation that it found. -/
theorem exists_survey_of_any {P : Installation → Bool} {s : Session σ}
    (h : ((survey setup).outcome s).toOption.any P) : ∃ i s', survey setup s = .ok i s' ∧ P i := by
  rcases hsurvey : survey setup s with ⟨i, s'⟩ | ⟨f, s'⟩
  · rw [(outcome_eq_ok hsurvey).1] at h
    exact ⟨i, s', rfl, h⟩
  · rw [(outcome_eq_error hsurvey).1] at h
    cases h

/-! ### Changes behind a survey -/

/-- A change fails with the survey, or with the decision, or is carried out as decided. -/
theorem change_cases (setup : Setup σ) (decide : Installation → Except Failure (Decision α)) (s : Session σ) :
    (∃ f s', survey setup s = .error f s' ∧ change setup decide s = .error f s') ∨
    ∃ i s', survey setup s = .ok i s' ∧
      ((∃ f, decide i = .error f ∧ change setup decide s = .error f s') ∨
        ∃ d, decide i = .ok d ∧ change setup decide s = carryOut setup d s') := by
  rcases hsurvey : survey setup s with ⟨i, s'⟩ | ⟨f, s'⟩
  · have hrun : change setup decide s = (ofExcept (decide i) >>= carryOut setup) s' := by
      unfold change
      exact bind_of_ok hsurvey _
    refine .inr ⟨i, s', rfl, ?_⟩
    rw [hrun]
    rcases decide i with f | d
    · exact .inl ⟨f, rfl, bind_of_error rfl _⟩
    · exact .inr ⟨d, rfl, bind_of_ok rfl _⟩
  · refine .inl ⟨f, s', rfl, ?_⟩
    unfold change
    exact bind_of_error hsurvey _

end Action

end EnergyGateway
