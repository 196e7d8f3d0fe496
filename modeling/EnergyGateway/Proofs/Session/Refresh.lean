import EnergyGateway.Proofs.Session.Course
import EnergyGateway.Proofs.Store
import EnergyGateway.Session.Refreshing
import EnergyGateway.Simulation.Line

/-!
# No new snapshot is missed

Whoever refreshes does five things in their order, each of them once, while messages are taken in between.  The number
that he has noted is that of the store at the mark, so what the number of the store has grown by since is how many
messages published a snapshot since (`Step.history`).  So he is told of a new snapshot exactly if one was published
between the mark and the end of his wait, be it before or after the edge has answered (`Run.tells`).  The refresh of a
session goes one of these ways, with the messages that arrive when the session looks, asks or waits
(`Action.exists_run_refresh`).
-/

namespace EnergyGateway

namespace RefreshEvent

/-- Whether something is done to refresh. -/
def isOwn : RefreshEvent → Bool
  | ingest _ => false
  | watch | mark | ask | answer _ | wake | expire => true

/-- Whether a snapshot is published. -/
def publishes : RefreshEvent → Bool
  | ingest m => decide m.IsCarrier
  | _ => false

end RefreshEvent

namespace Refreshing

open RefreshEvent

/-- How a wait ended, by what happened since the mark and by the event that ended it. -/
inductive Ends : Except Failure Bool → List RefreshEvent → RefreshEvent → Prop
  | failed {since : List RefreshEvent} {f : Failure} (h : since.filter isOwn = [.ask]) :
      Ends (.error f) since (.answer (.error f))
  | told {since : List RefreshEvent} (h : since.filter isOwn = [.ask, .answer (.ok ())])
      (hnew : since.any publishes = true) : Ends (.ok true) since .wake
  | quiet {since : List RefreshEvent} (h : since.filter isOwn = [.ask, .answer (.ok ())])
      (hold : since.any publishes = false) : Ends (.ok false) since .expire

/-- There was a mark, and the number of the store has grown since as often as a snapshot was published. -/
def MarkedAt (es : List RefreshEvent) (t : Refreshing) (seen : Nat) (done : List RefreshEvent) : Prop :=
  ∃ before since, es = before ++ .mark :: since ∧ before.filter isOwn = [.watch] ∧ since.filter isOwn = done ∧
    t.store.version = seen + since.countP publishes

/-- There was a mark, and what has happened since ended the wait. -/
def EndedAs (es : List RefreshEvent) (o : Except Failure Bool) : Prop :=
  ∃ before since e after, es = before ++ .mark :: (since ++ e :: after) ∧ before.filter isOwn = [.watch] ∧
    after.filter isOwn = [] ∧ Ends o since e

/-- What has happened in a phase. -/
def History (es : List RefreshEvent) (t : Refreshing) : Prop :=
  match t.phase with
  | .idle => es.filter isOwn = []
  | .watching _ => es.filter isOwn = [.watch]
  | .marked n => MarkedAt es t n []
  | .asked n => MarkedAt es t n [.ask]
  | .waiting n => MarkedAt es t n [.ask, .answer (.ok ())]
  | .ended o => EndedAs es o

variable {s : Store} {t t' : Refreshing} {es : List RefreshEvent} {e : RefreshEvent} {n : Nat}
  {done : List RefreshEvent} {o : Except Failure Bool}

theorem version_ingest (s : Store) (m : Rpc.Message) :
    (s.ingest m).version = s.version + [ingest m].countP publishes := by
  have hversion := s.version_ingestAll [m]
  simpa [Store.ingestAll, publishes, List.countP_singleton] using hversion

/-- What is taken in since the mark counts if it publishes a snapshot. -/
theorem MarkedAt.ingest (h : MarkedAt es t n done) (m : Rpc.Message) :
    MarkedAt (es ++ [.ingest m]) { t with store := t.store.ingest m } n done := by
  obtain ⟨before, since, rfl, hbefore, hsince, hversion⟩ := h
  refine ⟨before, since ++ [.ingest m], by simp, hbefore, by simpa [isOwn] using hsince, ?_⟩
  rw [version_ingest, hversion, List.countP_append, Nat.add_assoc]

/-- What is done to refresh leaves the store as it is. -/
theorem MarkedAt.snoc (h : MarkedAt es t n done) (he : e.isOwn = true) (hstore : t'.store = t.store) :
    MarkedAt (es ++ [e]) t' n (done ++ [e]) := by
  obtain ⟨before, since, rfl, hbefore, rfl, hversion⟩ := h
  have hquiet : publishes e = false := by cases e <;> first | rfl | cases he
  refine ⟨before, since ++ [e], by simp, hbefore, by simp [he], ?_⟩
  rw [hstore, hversion, List.countP_append]
  simp [hquiet]

/-- The number that was noted is another one exactly if a snapshot was published since the mark. -/
theorem MarkedAt.changedSince (h : MarkedAt es t n done) :
    ∃ before since, es = before ++ .mark :: since ∧ before.filter isOwn = [.watch] ∧ since.filter isOwn = done ∧
      t.store.changedSince n = since.any publishes := by
  obtain ⟨before, since, hes, hbefore, hsince, hversion⟩ := h
  refine ⟨before, since, hes, hbefore, hsince, ?_⟩
  rw [Store.changedSince, hversion, Bool.eq_iff_iff, List.any_eq_true]
  rw [bne_iff_ne, ← List.countP_pos_iff]
  omega

theorem EndedAs.ingest (h : EndedAs es o) (m : Rpc.Message) : EndedAs (es ++ [.ingest m]) o := by
  obtain ⟨before, since, e, after, rfl, hbefore, hafter, hends⟩ := h
  exact ⟨before, since, e, after ++ [.ingest m], by simp, hbefore, by simpa [isOwn] using hafter, hends⟩

/-- Each step goes on with the history. -/
theorem Step.history (hs : Step t e t') (h : History es t) : History (es ++ [e]) t' := by
  unfold History at h
  cases hs with
  | @ingest m =>
    unfold History
    rcases hphase : t.phase with _ | n | n | n | n | o <;> simp only [hphase] at h ⊢
    · simpa [isOwn] using h
    · simpa [isOwn] using h
    · exact h.ingest m
    · exact h.ingest m
    · exact h.ingest m
    · exact h.ingest m
  | watch hphase =>
    simp only [hphase] at h
    simp [History, h, isOwn]
  | mark hphase =>
    simp only [hphase] at h
    exact ⟨es, [], rfl, h, rfl, rfl⟩
  | ask hphase =>
    simp only [hphase] at h
    exact h.snoc rfl rfl
  | answer hphase =>
    simp only [hphase] at h
    exact h.snoc rfl rfl
  | fail hphase =>
    simp only [hphase] at h
    obtain ⟨before, since, rfl, hbefore, hsince, -⟩ := h
    exact ⟨before, since, _, [], by simp, hbefore, rfl, .failed hsince⟩
  | wake hphase hnew =>
    simp only [hphase] at h
    obtain ⟨before, since, rfl, hbefore, hsince, hchanged⟩ := h.changedSince
    exact ⟨before, since, _, [], by simp, hbefore, rfl, .told hsince (hchanged.symm.trans hnew)⟩
  | expire hphase hold =>
    simp only [hphase] at h
    obtain ⟨before, since, rfl, hbefore, hsince, hchanged⟩ := h.changedSince
    exact ⟨before, since, _, [], by simp, hbefore, rfl, .quiet hsince (hchanged.symm.trans hold)⟩

theorem Run.history (hr : Run ⟨s, .idle⟩ es t) : History es t := by
  induction hr with
  | refl => rfl
  | snoc h hs ih => exact hs.history ih

theorem Ends.length_own {since : List RefreshEvent} (h : Ends o since e) :
    e.isOwn = true ∧ (since.filter isOwn).length ≤ 2 := by
  cases h with
  | failed h | told h | quiet h => exact ⟨rfl, by simp [h]⟩

/-- Nothing is done twice to refresh. -/
theorem History.length_own (h : History es t) : (es.filter isOwn).length ≤ 5 := by
  have hmarked {n done} (h : MarkedAt es t n done) : es.filter isOwn = .watch :: .mark :: done := by
    obtain ⟨before, since, rfl, hbefore, hsince, -⟩ := h
    rw [List.filter_append, List.filter_cons_of_pos rfl, hbefore, hsince, List.singleton_append]
  unfold History at h
  rcases hphase : t.phase with _ | n | n | n | n | o <;> simp only [hphase] at h
  · simp [h]
  · simp [h]
  · simp [hmarked h]
  · simp [hmarked h]
  · simp [hmarked h]
  · obtain ⟨before, since, e, after, rfl, hbefore, hafter, hends⟩ := h
    obtain ⟨he, hsince⟩ := hends.length_own
    rw [List.filter_append, List.filter_cons_of_pos rfl, List.filter_append, List.filter_cons_of_pos he, hbefore,
      hafter]
    simp only [List.length_append, List.length_cons, List.length_nil]
    omega

/-- Who has not been told can always do something. -/
theorem exists_step (h : ∀ o, t.phase ≠ .ended o) : ∃ e t', e.isOwn = true ∧ Step t e t' := by
  rcases hphase : t.phase with _ | n | n | n | n | o
  · exact ⟨_, _, rfl, .watch hphase⟩
  · exact ⟨_, _, rfl, .mark hphase⟩
  · exact ⟨_, _, rfl, .ask hphase⟩
  · exact ⟨_, _, rfl, .answer hphase⟩
  · rcases hchanged : t.store.changedSince n with _ | _
    · exact ⟨_, _, rfl, .expire hphase hchanged⟩
    · exact ⟨_, _, rfl, .wake hphase hchanged⟩
  · exact absurd hphase (h o)

/-- What is promised of everything that can happen while someone refreshes. -/
structure Tells (es : List RefreshEvent) (t : Refreshing) : Prop where
  /-- He is told exactly whether a snapshot was published between the mark and the end of the wait, before or after the
  answer of the edge, and of a failure exactly if the edge could not be asked. -/
  ended : ∀ o, t.phase = .ended o → EndedAs es o
  /-- As soon as one was published he can be woken, and his time cannot be up any more; until then it is the other way
  round. -/
  waiting : ∀ n, t.phase = .waiting n → ∃ before since, es = before ++ .mark :: since ∧
    before.filter isOwn = [.watch] ∧ since.filter isOwn = [.ask, .answer (.ok ())] ∧
    ((∃ t', Step t .wake t') ↔ since.any publishes = true) ∧
    ((∃ t', Step t .expire t') ↔ since.any publishes = false)
  /-- He is told after five steps of his own at the latest. -/
  length_own : (es.filter isOwn).length ≤ 5
  /-- He is never stuck before that. -/
  progress : (∀ o, t.phase ≠ .ended o) → ∃ e t', e.isOwn = true ∧ Step t e t'

theorem Run.tells (hr : Run ⟨s, .idle⟩ es t) : Tells es t := by
  have hhistory := hr.history
  unfold History at hhistory
  refine ⟨fun o hphase => ?_, fun n hphase => ?_, hr.history.length_own, exists_step⟩
  · simpa only [hphase] using hhistory
  · simp only [hphase] at hhistory
    obtain ⟨before, since, rfl, hbefore, hsince, hchanged⟩ := hhistory.changedSince
    refine ⟨before, since, rfl, hbefore, hsince, ?_, ?_⟩ <;> rw [← hchanged]
    · refine ⟨?_, fun hnew => ⟨_, .wake hphase hnew⟩⟩
      rintro ⟨t', hs⟩
      cases hs with
      | wake h hnew =>
        cases hphase.symm.trans h
        exact hnew
    · refine ⟨?_, fun hold => ⟨_, .expire hphase hold⟩⟩
      rintro ⟨t', hs⟩
      cases hs with
      | expire h hold =>
        cases hphase.symm.trans h
        exact hold

/-- Messages can be taken in at any time. -/
theorem Run.ingestAll {t₀ : Refreshing} (hr : Run t₀ es t) (ms : List Rpc.Message) :
    Run t₀ (es ++ ms.map .ingest) { t with store := t.store.ingestAll ms } := by
  induction ms generalizing es t with
  | nil =>
    rw [List.map_nil, List.append_nil]
    exact hr
  | cons m ms ih =>
    rw [List.map_cons, List.append_cons]
    exact ih (hr.snoc .ingest)

end Refreshing

namespace Action

variable {σ α β : Type}

/-- The store takes messages in while the action runs, and is not changed otherwise. -/
def Ingests (a : Action σ α) : Prop :=
  ∀ s, ∃ ms, (a.after s).store = s.store.ingestAll ms

theorem Ingests.bind {a : Action σ α} {g : α → Action σ β} (ha : a.Ingests) (hg : ∀ x, (g x).Ingests) :
    (a >>= g).Ingests := by
  intro s
  obtain ⟨ms, hms⟩ := ha s
  rcases h : a s with ⟨x, s'⟩ | ⟨f, s'⟩
  · rw [(outcome_eq_ok h).2] at hms
    obtain ⟨ns, hns⟩ := hg x s'
    refine ⟨ms ++ ns, ?_⟩
    rw [after, bind_of_ok h, ← after, hns, hms, Store.ingestAll_append]
  · rw [(outcome_eq_error h).2] at hms
    exact ⟨ms, by rw [(outcome_eq_error (bind_of_error h g)).2, hms]⟩

theorem ingests_freshId : (freshId : Action σ String).Ingests := fun _ => ⟨[], rfl⟩

theorem ingests_ofExcept (r : Except Failure α) : (ofExcept r : Action σ α).Ingests := by
  cases r with
  | ok x => exact fun _ => ⟨[], rfl⟩
  | error f => exact fun _ => ⟨[], rfl⟩

theorem ingests_call (line : Line σ) (method : String) (params : Json) : (call line method params).Ingests := by
  intro s
  refine ⟨(line.call method params s.remote).2.1, ?_⟩
  rcases h : line.call method params s.remote with ⟨_ | _, ms, remote⟩ <;> simp [after, call, h]

theorem ingests_askEdge (setup : Setup σ) (method : String) (params : Json) :
    (askEdge setup method params).Ingests :=
  ingests_freshId.bind fun _ => (ingests_call setup.line _ _).bind fun _ => ingests_ofExcept _

/-- A look finds the store as the messages of the meantime left it. -/
theorem look_eq (line : Line σ) (s : Session σ) :
    ∃ s' ms, look line s = .ok s'.store s' ∧ s'.store = s.store.ingestAll ms :=
  ⟨(look line).after s, _, rfl, rfl⟩

theorem await_eq (line : Line σ) (s : Session σ) :
    ∃ s' ms, await line s = .ok () s' ∧ s'.store = s.store.ingestAll ms :=
  ⟨(await line).after s, _, rfl, rfl⟩

/-- The session's own refresh is a run: it ends as the run does and leaves the store that the run leaves. -/
theorem exists_run_refresh (setup : Setup σ) (s : Session σ) :
    ∃ es, Refreshing.Run ⟨s.store, .idle⟩ es
      ⟨((refresh setup).after s).store, .ended ((refresh setup).outcome s)⟩ := by
  obtain ⟨s₁, ms₁, hlook, hs₁⟩ := look_eq setup.line s
  have hasked := ((((Refreshing.Run.refl ⟨s.store, .idle⟩).ingestAll ms₁).snoc (.watch rfl)).snoc (.mark rfl)).snoc
    (.ask rfl)
  obtain ⟨ms₂, hs₂⟩ := ingests_askEdge setup Rpc.getConfig (.object []) s₁
  have hanswer := hasked.ingestAll ms₂
  simp only [← hs₁, ← hs₂] at hanswer
  rcases hask : askComponents setup s₁ with ⟨x, s₂⟩ | ⟨f, s₂⟩
  · rw [← askComponents, (outcome_eq_ok hask).2] at hanswer
    obtain ⟨s₃, ms₃, hlook', hs₃⟩ := look_eq setup.line s₂
    have hwait := (hanswer.snoc (.answer rfl)).ingestAll ms₃
    simp only [← hs₃] at hwait
    simp only [refresh, after, outcome, bind_of_ok hlook, bind_of_ok hask, bind_of_ok hlook']
    rcases hnew : s₃.store.changedSince s₁.store.version with _ | _
    · obtain ⟨s₄, ms₄, hawait, hs₄⟩ := await_eq setup.line s₃
      have hdone := hwait.ingestAll ms₄
      simp only [← hs₄] at hdone
      simp only [Bool.false_eq_true, if_false, bind_of_ok hawait]
      rcases hnew' : s₄.store.changedSince s₁.store.version with _ | _
      · have hend := hdone.snoc (.expire rfl hnew')
        rw [← hnew'] at hend
        exact ⟨_, hend⟩
      · have hend := hdone.snoc (.wake rfl hnew')
        rw [← hnew'] at hend
        exact ⟨_, hend⟩
    · exact ⟨_, hwait.snoc (.wake rfl hnew)⟩
  · rw [← askComponents, (outcome_eq_error hask).2] at hanswer
    rw [refresh, after, outcome, bind_of_ok hlook, bind_of_error hask]
    exact ⟨_, hanswer.snoc (.fail rfl)⟩

/-- However the steps of a refresh and the messages interleave, no snapshot is missed and none is counted that was
published before the mark.  A session refreshes in one of these ways. -/
theorem refresh_tells (setup : Setup σ) (s : Session σ) :
    (∀ es t, Refreshing.Run ⟨s.store, .idle⟩ es t → Refreshing.Tells es t) ∧
    ∃ es, Refreshing.Run ⟨s.store, .idle⟩ es
      ⟨((refresh setup).after s).store, .ended ((refresh setup).outcome s)⟩ :=
  ⟨fun _ _ => Refreshing.Run.tells, exists_run_refresh setup s⟩

end Action

namespace Refreshing

/-- A message with one meter. -/
private def oneMeter : Rpc.Message where
  params := some (.object [("payload", .object [("params", .object [("components",
    .object [("meter0", .object [("factoryId", .string "Meter.Socomec")])])])])])

/-- A snapshot that is published before the mark does not count, and one that is published before the answer does. -/
theorem tells_early_and_late :
    (∃ t, Run ⟨{}, .idle⟩ [.watch, .ingest oneMeter, .mark, .ask, .answer (.ok ()), .expire] t ∧
      EndedAs [.watch, .ingest oneMeter, .mark, .ask, .answer (.ok ()), .expire] (.ok false)) ∧
    ∃ t, Run ⟨{}, .idle⟩ [.watch, .mark, .ask, .ingest oneMeter, .answer (.ok ()), .wake] t ∧
      EndedAs [.watch, .mark, .ask, .ingest oneMeter, .answer (.ok ()), .wake] (.ok true) := by
  have hearly := (((((Run.refl ⟨{}, .idle⟩).snoc (.watch rfl)).snoc (.ingest (m := oneMeter))).snoc (.mark rfl)).snoc
    (.ask rfl)).snoc (.answer rfl)
  have hlate := (((((Run.refl ⟨{}, .idle⟩).snoc (.watch rfl)).snoc (.mark rfl)).snoc (.ask rfl)).snoc
    (.ingest (m := oneMeter))).snoc (.answer rfl)
  have hquiet := hearly.snoc (.expire rfl (by decide +kernel))
  have hnew := hlate.snoc (.wake rfl (by decide +kernel))
  have htells := (Action.refresh_tells (Simulation.setup .bundled) { remote := {} }).1
  exact ⟨⟨_, hquiet, (htells _ _ hquiet).ended _ rfl⟩, ⟨_, hnew, (htells _ _ hnew).ended _ rfl⟩⟩

end Refreshing

end EnergyGateway
