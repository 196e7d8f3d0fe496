import EnergyGateway.CommandLine.Run
import EnergyGateway.Proofs.Session.Refresh

/-!
# How many lines are printed

As long as every snapshot is seen before the next one is published, who watches is never more than one snapshot behind:
what he has printed are the snapshots so far, but for the last one, or the first ones, and he has stopped
(`Step.tracks`).  The count is looked at behind a line, so that no count is reached without one: he stops behind as many
lines as he was asked for, and behind the first if he was asked for none (`Tracks.prints`).  The command that watches
goes one of these ways, with the messages that arrive while it waits (`Workplace.exists_run_watchFor`).
-/

namespace EnergyGateway

namespace Watching

open WatchEvent

/-- The snapshots that are published, in their order. -/
def published (es : List WatchEvent) : List ComponentMap :=
  es.filterMap fun
    | .ingest m => m.components?
    | _ => none

/-- Who watches has stopped, or he has seen the snapshot that is in the store. -/
def IsCurrent (t : Watching) : Prop := t.isOver = true ∨ t.store.changedSince t.seen = false

/-- Steps one after the other, in which a snapshot is published only when the one before it has been seen. -/
inductive PacedRun (count : Option Nat) : Watching → List WatchEvent → Watching → Prop
  | refl (t : Watching) : PacedRun count t [] t
  | snoc {t t' t'' : Watching} {es : List WatchEvent} {e : WatchEvent} (h : PacedRun count t es t')
      (hs : Step count t' e t'') (hpace : ∀ m, e = .ingest m → m.components?.isSome → t'.IsCurrent) :
      PacedRun count t (es ++ [e]) t''

variable {count : Option Nat} {s : Store} {t₀ t t' : Watching} {es : List WatchEvent} {e : WatchEvent} {n : Nat}

/-! ### One step -/

/-- After so many lines there is still one to print. -/
def IsShort (count : Option Nat) (lines : Nat) : Prop := ∀ n, count = some n → lines < max n 1

/-- After so many lines there is no other one to print, and before the last of them there was. -/
def IsExact (count : Option Nat) (lines : Nat) : Prop := ∃ n, count = some n ∧ lines = max n 1

theorem IsShort.succ (h : IsShort count n) (hfew : isEnough count (n + 1) = false) : IsShort count (n + 1) := by
  rintro c rfl
  have hlt := h c rfl
  simp only [isEnough, Option.any_some, decide_eq_false_iff_not] at hfew
  omega

theorem IsShort.exact (h : IsShort count n) (henough : isEnough count (n + 1) = true) : IsExact count (n + 1) := by
  rcases count with _ | c
  · cases henough
  · have hlt := h c rfl
    simp only [isEnough, Option.any_some, decide_eq_true_eq] at henough
    exact ⟨c, rfl, by omega⟩

/-- How far who watches has come with what was published. -/
inductive Tracks (count : Option Nat) (es : List WatchEvent) (t : Watching) : Prop
  /-- He has seen everything. -/
  | upToDate (hon : t.isOver = false) (hold : t.store.changedSince t.seen = false)
      (hprinted : published es = t.printed.map (·.components)) (hshort : IsShort count t.printed.length)
  /-- He has yet to see the last snapshot. -/
  | behind (components : ComponentMap) (hon : t.isOver = false) (hnew : t.store.changedSince t.seen = true)
      (hlast : t.store.snapshot = some components)
      (hprinted : published es = t.printed.map (·.components) ++ [components]) (hshort : IsShort count t.printed.length)
  /-- He has stopped. -/
  | stopped (hover : t.isOver = true) (hprinted : t.printed.map (·.components) <+: published es)
      (hexact : IsExact count t.printed.length)

theorem published_snoc (es : List WatchEvent) (e : WatchEvent) :
    published (es ++ [e]) = published es ++ published [e] :=
  List.filterMap_append

/-- A message without components goes by unnoticed. -/
private theorem Tracks.ignore (h : Tracks count es t) {m : Rpc.Message} (hm : m.components? = none) :
    Tracks count (es ++ [.ingest m]) { t with store := t.store.ingest m } := by
  have hpublished : published (es ++ [.ingest m]) = published es := by
    rw [published_snoc]
    simp [published, hm]
  have hstore : t.store.ingest m = t.store := by rw [Store.ingest, hm]
  rw [hstore]
  cases h with
  | upToDate hon hold hprinted hshort => exact .upToDate hon hold (hpublished.trans hprinted) hshort
  | behind components hon hnew hlast hprinted hshort =>
    exact .behind components hon hnew hlast (hpublished.trans hprinted) hshort
  | stopped hover hprinted hexact => exact .stopped hover (hpublished ▸ hprinted) hexact

private theorem Tracks.publish (h : Tracks count es t) {m : Rpc.Message} {components : ComponentMap}
    (hm : m.components? = some components) (hcurrent : t.IsCurrent) :
    Tracks count (es ++ [.ingest m]) { t with store := t.store.ingest m } := by
  have hpublished : published (es ++ [.ingest m]) = published es ++ [components] := by
    rw [published_snoc]
    simp [published, hm]
  have hstore : t.store.ingest m = ⟨some components, t.store.version + 1⟩ := by rw [Store.ingest, hm]
  rw [hstore]
  cases h with
  | upToDate hon hold hprinted hshort =>
    refine .behind components hon ?_ rfl (hprinted ▸ hpublished) hshort
    have hseen : t.store.version = t.seen := by simpa [Store.changedSince] using hold
    simp [Store.changedSince, hseen]
  | behind _ hon hnew =>
    rcases hcurrent with hover | hold
    · exact absurd hover (by simp [hon])
    · exact absurd hnew (by simp [hold])
  | stopped hover hprinted hexact => exact .stopped hover (hpublished ▸ hprinted.trans (List.prefix_append _ _)) hexact

private theorem Tracks.print (h : Tracks count es t) (hon : t.isOver = false)
    (hnew : t.store.changedSince t.seen = true) (time : String) :
    Tracks count (es ++ [.look time]) (t.print count time) := by
  cases h with
  | upToDate _ hold => exact absurd hnew (by simp [hold])
  | stopped hover => exact absurd hover (by simp [hon])
  | behind components _ _ hlast hprinted hshort =>
    have hpublished : published (es ++ [.look time]) = (t.print count time).printed.map (·.components) := by
      rw [published_snoc, hprinted]
      simp [published, Watching.print, hlast]
    have hlength : (t.print count time).printed.length = t.printed.length + 1 := List.length_append
    rcases henough : isEnough count (t.printed.length + 1) with _ | _
    · refine .upToDate ?_ ?_ hpublished (hlength ▸ hshort.succ henough)
      · rwa [← hlength] at henough
      · simp [Watching.print, Store.changedSince]
    · refine .stopped ?_ (hpublished ▸ List.prefix_rfl) (hlength ▸ hshort.exact henough)
      rwa [← hlength] at henough

theorem Step.tracks (hs : Step count t e t') (h : Tracks count es t) (hun : e ≠ .interrupt)
    (hcurrent : ∀ m, e = .ingest m → m.components?.isSome → t.IsCurrent) : Tracks count (es ++ [e]) t' := by
  cases hs with
  | @ingest m =>
    rcases hm : m.components? with _ | components
    · exact h.ignore hm
    · exact h.publish hm (hcurrent m rfl (by simp [hm]))
  | look hon hnew => exact h.print hon hnew _
  | interrupt => exact absurd rfl hun

/-! ### Runs -/

theorem tracks_start (s : Store) : Tracks count [] (start s) :=
  .upToDate rfl (by simp [start, Store.changedSince]) rfl fun _ _ =>
    Nat.lt_of_lt_of_le Nat.one_pos (Nat.le_max_right _ _)

theorem PacedRun.tracks (hr : PacedRun count t₀ es t) (h₀ : Tracks count [] t₀) (hun : .interrupt ∉ es) :
    Tracks count es t := by
  induction hr with
  | refl => exact h₀
  | @snoc t' _ es e h hs hpace ih =>
    rw [List.mem_append, not_or] at hun
    exact hs.tracks (ih hun.1) (fun heq => hun.2 (by simp [heq])) hpace

/-- What is promised of who has seen all that was published, or has stopped. -/
structure Prints (count : Option Nat) (snapshots : List ComponentMap) (t : Watching) : Prop where
  /-- He has printed a line for each of the first snapshots, in their order. -/
  first : t.printed.map (·.components) = snapshots.take t.printed.length
  /-- With a count there are as many lines as it says but at least one, if there are so many snapshots, and then he has
  stopped. -/
  counted : ∀ n, count = some n → t.printed.length = min (max n 1) snapshots.length ∧
    (t.isOver = true ↔ max n 1 ≤ snapshots.length)
  /-- Without one there is a line for every snapshot, and he never stops. -/
  uncounted : count = none → t.printed.length = snapshots.length ∧ t.isOver = false

theorem Tracks.prints (h : Tracks count es t) (hcurrent : t.IsCurrent) : Prints count (published es) t := by
  cases h with
  | upToDate hon _ hprinted hshort =>
    have hlength : (published es).length = t.printed.length := by rw [hprinted, List.length_map]
    refine ⟨by rw [← hlength, List.take_length, hprinted], fun n hn => ?_, fun _ => ⟨hlength.symm, hon⟩⟩
    have hlt := hshort n hn
    rw [hlength, hon]
    exact ⟨(Nat.min_eq_right (Nat.le_of_lt hlt)).symm, nofun, fun hle => absurd hlt (Nat.not_lt.2 hle)⟩
  | behind _ hon hnew =>
    rcases hcurrent with hover | hold
    · exact absurd hover (by simp [hon])
    · exact absurd hnew (by simp [hold])
  | stopped hover hprinted hexact =>
    obtain ⟨c, rfl, hc⟩ := hexact
    have hle := hprinted.length_le
    rw [List.length_map] at hle
    refine ⟨?_, ?_, by simp⟩
    · rw [List.prefix_iff_eq_take.1 hprinted, List.length_map]
    · rintro n ⟨rfl⟩
      rw [hc] at hle ⊢
      exact ⟨(Nat.min_eq_left hle).symm, by simp [hover, hle]⟩

/-- Who is behind can look, and is not behind any more. -/
theorem exists_look (count : Option Nat) (h : ¬ t.IsCurrent) (time : String) :
    ∃ t', Step count t (.look time) t' ∧ t'.IsCurrent := by
  simp only [IsCurrent, not_or, Bool.not_eq_true, Bool.not_eq_false] at h
  exact ⟨_, .look h.1 h.2, .inr (by simp [Watching.print, Store.changedSince])⟩

/-! ### The command -/

theorem Run.ingestAll (hr : Run count t₀ es t) (ms : List Rpc.Message) :
    Run count t₀ (es ++ ms.map .ingest) { t with store := t.store.ingestAll ms } := by
  induction ms generalizing es t with
  | nil =>
    rw [List.map_nil, List.append_nil]
    exact hr
  | cons m ms ih =>
    rw [List.map_cons, List.append_cons]
    exact ih (hr.snoc .ingest)

/-- To look is a step, or there is nothing to see. -/
theorem Run.look (hr : Run count t₀ es t) (hun : .interrupt ∉ es) (time : String) :
    ∃ es', Run count t₀ es' (t.look count time) ∧ .interrupt ∉ es' := by
  rw [Watching.look]
  split
  · rename_i h
    rw [Bool.and_eq_true, Bool.not_eq_true'] at h
    exact ⟨_, hr.snoc (.look h.1 h.2), by simpa using hun⟩
  · exact ⟨es, hr, hun⟩

theorem store_look (count : Option Nat) (time : String) (t : Watching) : (t.look count time).store = t.store := by
  rw [Watching.look]
  split <;> rfl

end Watching

namespace Workplace

open EnergyGateway.Action

variable {σ : Type} (w : Workplace σ) (count : Option Nat)

/-- However often the command waits, it goes on with the run. -/
theorem exists_run_watchFor (waits : Nat) {t₀ t : Watching} {s : Session σ} {es : List WatchEvent}
    (hr : Watching.Run count t₀ es t) (hun : .interrupt ∉ es) (hstore : t.store = s.store) :
    ∃ es' t', Watching.Run count t₀ es' t' ∧ .interrupt ∉ es' ∧
      w.watchFor count waits t s = .ok t' ((w.watchFor count waits t).after s) := by
  induction waits generalizing t s es with
  | zero => exact ⟨es, t, hr, hun, rfl⟩
  | succ waits ih =>
    obtain ⟨s', ms, hawait, hs'⟩ := await_eq w.setup.line s
    have hwaited := hr.ingestAll ms
    rw [hstore, ← hs'] at hwaited
    obtain ⟨es', hlooked, hun'⟩ := hwaited.look (by simpa using hun) w.time
    have hrun : w.watchFor count (waits + 1) t s =
        (if ({ t with store := s'.store }.look count w.time).isOver
          then pure ({ t with store := s'.store }.look count w.time)
          else w.watchFor count waits ({ t with store := s'.store }.look count w.time)) s' := by
      rw [watchFor, bind_of_ok hawait]
      rfl
    rw [after, hrun]
    split
    · exact ⟨es', _, hlooked, hun', rfl⟩
    · exact ih hlooked hun' (Watching.store_look ..)

theorem exists_run_watch (s : Session σ) :
    ∃ es t, Watching.Run count (.start s.store) es t ∧ .interrupt ∉ es ∧
      (w.watch count).outcome s = .ok ⟨String.join (t.printed.map Update.line), t.isOver⟩ := by
  obtain ⟨es, t, hr, hun, hrun⟩ := w.exists_run_watchFor count w.patience (.refl (.start s.store)) (by simp) rfl
  refine ⟨es, t, hr, hun, ?_⟩
  have hget : (get : Action σ (Session σ)) s = .ok s s := rfl
  rw [watch, outcome, bind_of_ok hget, bind_of_ok hrun]
  rfl

/-- Whatever is published while a session watches, without an interruption and each snapshot seen before the next one, a
line is printed for each snapshot until there are as many as were asked for, but always for the first; and it is over
exactly then.  The command prints the lines of such a run. -/
theorem watch_prints (s : Session σ) :
    (∀ es t, Watching.PacedRun count (.start s.store) es t → .interrupt ∉ es → t.IsCurrent →
      Watching.Prints count (Watching.published es) t) ∧
    (∀ t : Watching, ¬ t.IsCurrent → ∀ time, ∃ t', Watching.Step count t (.look time) t' ∧ t'.IsCurrent) ∧
    ∃ es t, Watching.Run count (.start s.store) es t ∧ .interrupt ∉ es ∧
      (w.watch count).outcome s = .ok ⟨String.join (t.printed.map Update.line), t.isOver⟩ :=
  ⟨fun _ _ hr hun hcurrent => (hr.tracks (Watching.tracks_start _) hun).prints hcurrent,
    fun _ h => Watching.exists_look count h, w.exists_run_watch count s⟩

/-- A message that publishes a snapshot. -/
private def publication (components : List (String × Json)) : Rpc.Message where
  params := some (.object [("payload", .object [("params", .object [("components", .object components)])])])

/-- A place to run commands at. -/
private def bench : Workplace Simulation :=
  { settings := {}, files := ⟨fun _ => .error .notFound⟩, setup := Simulation.setup .bundled, time := "12:00:00" }

/-- Of three snapshots two are printed for who asked for two. -/
theorem watch_prints_two_of_three :
    let es : List WatchEvent := [.ingest (publication []), .look "12:00:00",
      .ingest (publication [("meter0", .object [])]), .look "12:00:05", .ingest (publication [])]
    .interrupt ∉ es ∧ ∃ t, Watching.PacedRun (some 2) (.start {}) es t ∧ t.IsCurrent ∧
      Watching.Prints (some 2) (Watching.published es) t ∧ t.isOver = true ∧
      t.printed.map Update.line = ["12:00:00 snapshot: 0 components\n", "12:00:05 snapshot: 1 components\n"] := by
  intro es
  have hun : .interrupt ∉ es := by simp [es]
  have hempty := (@Watching.PacedRun.refl (some 2) (.start {})).snoc (.ingest (m := publication []))
    fun _ _ _ => .inr rfl
  have hfirst := hempty.snoc (e := .look "12:00:00") (.look rfl (by decide +kernel)) nofun
  have hmeter := hfirst.snoc (.ingest (m := publication [("meter0", .object [])])) fun _ _ _ => .inr (by decide +kernel)
  have hsecond := hmeter.snoc (e := .look "12:00:05") (.look (by decide +kernel) (by decide +kernel)) nofun
  have hover := hsecond.snoc (.ingest (m := publication [])) fun _ _ _ => .inl (by decide +kernel)
  refine ⟨hun, _, hover, ?hcurrent, (bench.watch_prints (some 2) { remote := {} }).1 _ _ hover hun ?hcurrent,
    by decide +kernel, by decide +kernel⟩
  exact .inl (by decide +kernel)

/-- Who asks for no line is printed one, and he has not stopped before it. -/
theorem not_forall_watch_counted :
    (¬ ∀ (n : Nat) (es : List WatchEvent) (t : Watching), Watching.PacedRun (some n) (.start {}) es t →
      .interrupt ∉ es → t.IsCurrent → t.printed.length = min n (Watching.published es).length) ∧
    ¬ ∀ (n : Nat) (es : List WatchEvent) (t : Watching), Watching.PacedRun (some n) (.start {}) es t →
      .interrupt ∉ es → t.IsCurrent → (t.isOver = true ↔ n ≤ (Watching.published es).length) := by
  constructor
  · intro h
    have hempty := (@Watching.PacedRun.refl (some 0) (.start {})).snoc (.ingest (m := publication []))
      fun _ _ _ => .inr rfl
    have hfirst := hempty.snoc (e := .look "12:00:00") (.look rfl (by decide +kernel)) nofun
    exact absurd (h 0 _ _ hfirst (by simp) (.inl (by decide +kernel))) (by decide +kernel)
  · intro h
    exact absurd ((h 0 [] _ (.refl _) (by simp) (.inr rfl)).2 (Nat.zero_le _)) (by decide)

end Workplace

end EnergyGateway
