import EnergyGateway.Transport.Supervisors

/-!
# Who runs, and who stops

A supervisor that runs is the one that is held, or a close waits for its end.  So at most one runs while no close
waits.  Once supervisors are told to stop, and as long as nobody tells them to go on, each of them comes nearer to its
end with every step, none tries to connect, and one that still runs can always go on by itself (`Run.supervised`).

Starting a supervisor tells all of them to go on.  If that happens while a close waits, the supervisor that it waits
for may not have looked yet; it never learns that it was to stop (`not_forall_run_single`).
-/

namespace EnergyGateway

namespace SupervisorPhase

def isRunning : SupervisorPhase → Bool
  | .absent | .ended => false
  | _ => true

/-- Whether it waits for something that a new word interrupts. -/
def waits : SupervisorPhase → Bool
  | .connecting | .connected | .pausing => true
  | _ => false

/-- How many more steps it takes at most, once it is told to stop. -/
def distance : SupervisorPhase → Nat
  | .connecting => 4
  | .connected | .pausing => 3
  | .absent | .looking | .leaving => 2
  | .ending => 1
  | .ended => 0

theorem distance_le_four (p : SupervisorPhase) : p.distance ≤ 4 := by
  cases p <;> decide

end SupervisorPhase

namespace SupervisionEvent

/-- The supervisor whose step an event is. -/
def who? : SupervisionEvent → Option Nat
  | .attempt n | .succeed n | .fail n | .notice n | .pause n | .wake n | .halt n | .finish n => some n
  | _ => none

/-- Whether a step needs nothing but the supervisor itself: no connection, no time. -/
def isPrompt : SupervisionEvent → Bool
  | .notice _ | .halt _ | .finish _ => true
  | _ => false

end SupervisionEvent

namespace Supervisors

variable {t t' : Supervisors} {e : SupervisionEvent} {es : List SupervisionEvent} {n : Nat}

/-! ### Steps of a supervisor -/

/-- What a step of a supervisor's own does to everything: only its phase changes, and who runs if it ends. -/
structure Own (t t' : Supervisors) (n : Nat) (u : Supervisor) : Prop where
  each : t'.each = Function.update t.each n u
  closes : t'.closes = t.closes
  connect : t'.connect = t.connect
  words : t'.words = t.words
  stopping : t'.control.stopping = t.control.stopping
  held : t'.control.held = t.control.held
  started : t'.control.started = t.control.started
  ran : (t.each n).phase.isRunning = true
  running : ∀ m, m ∈ t'.control.running ↔ m ∈ t.control.running ∧ (m = n → u.phase.isRunning = true)
  sublist : t'.control.running.Sublist t.control.running
  noticed : u.noticed = (t.each n).noticed ∨ u.noticed = t.words
  /-- One that is told to stop begins to wait for nothing new. -/
  waits : t.control.stopping = true → u.phase.waits = true →
    (t.each n).phase.waits = true ∧ u.noticed = (t.each n).noticed
  nearer : t.control.stopping = true → u.phase.distance < (t.each n).phase.distance

private theorem own_move {p : SupervisorPhase} (hran : (t.each n).phase.isRunning = true) (hruns : p.isRunning = true)
    (hwaits : t.control.stopping = true → p.waits = true → (t.each n).phase.waits = true)
    (hnearer : t.control.stopping = true → p.distance < (t.each n).phase.distance) :
    Own t (t.move n p) n ⟨p, (t.each n).noticed⟩ where
  each := rfl
  closes := rfl
  connect := rfl
  words := rfl
  stopping := rfl
  held := rfl
  started := rfl
  ran := hran
  running m := by
    have : (m = n → p.isRunning = true) := fun _ => hruns
    exact (and_iff_left this).symm
  sublist := List.Sublist.refl _
  noticed := .inl rfl
  waits hstop hw := ⟨hwaits hstop hw, rfl⟩
  nearer := hnearer

private theorem own_wakeUp {p : SupervisorPhase} (hran : (t.each n).phase.isRunning = true) (hruns : p.isRunning = true)
    (hwaits : p.waits = false) (hnearer : p.distance < (t.each n).phase.distance) :
    Own t (t.wakeUp n p) n ⟨p, t.words⟩ where
  each := rfl
  closes := rfl
  connect := rfl
  words := rfl
  stopping := rfl
  held := rfl
  started := rfl
  ran := hran
  running m := by
    have : (m = n → p.isRunning = true) := fun _ => hruns
    exact (and_iff_left this).symm
  sublist := List.Sublist.refl _
  noticed := .inr rfl
  waits _ hw := by
    rw [hwaits] at hw
    cases hw
  nearer _ := hnearer

/-- Every step of a supervisor is of this kind. -/
theorem Step.own (hs : Step t e t') (hn : e.who? = some n) : ∃ u, Own t t' n u := by
  cases hs with
  | attempt h hgo =>
    cases hn
    refine ⟨_, own_move (by simp [h, SupervisorPhase.isRunning]) rfl ?_ ?_⟩ <;> simp [hgo]
  | succeed h =>
    cases hn
    exact ⟨_, own_move (by simp [h, SupervisorPhase.isRunning]) rfl (by simp [h, SupervisorPhase.waits])
      (by simp [h, SupervisorPhase.distance])⟩
  | fail h =>
    cases hn
    rcases h with h | h <;>
      exact ⟨_, own_move (by simp [h, SupervisorPhase.isRunning]) rfl (by simp [SupervisorPhase.waits])
        (by simp [h, SupervisorPhase.distance])⟩
  | notice h hnew =>
    cases hn
    rcases h with h | h <;>
      exact ⟨_, own_wakeUp (by simp [h, SupervisorPhase.isRunning]) rfl rfl (by simp [h, SupervisorPhase.distance])⟩
  | pause h hgo =>
    cases hn
    refine ⟨_, own_move (by simp [h, SupervisorPhase.isRunning]) rfl ?_ ?_⟩ <;> simp [hgo]
  | wake h =>
    cases hn
    exact ⟨_, own_move (by simp [h, SupervisorPhase.isRunning]) rfl (by simp [SupervisorPhase.waits])
      (by simp [h, SupervisorPhase.distance])⟩
  | hurry h hnew =>
    cases hn
    exact ⟨_, own_wakeUp (by simp [h, SupervisorPhase.isRunning]) rfl rfl (by simp [h, SupervisorPhase.distance])⟩
  | halt h hstop =>
    cases hn
    rcases h with h | h <;>
      exact ⟨_, own_move (by simp [h, SupervisorPhase.isRunning]) rfl (by simp [SupervisorPhase.waits])
        (by simp [h, SupervisorPhase.distance])⟩
  | finish h =>
    cases hn
    refine ⟨⟨.ended, (t.each n).noticed⟩, rfl, rfl, rfl, rfl, rfl, rfl, rfl, ?_, ?_, ?_, .inl rfl, ?_, ?_⟩
    · simp [h, SupervisorPhase.isRunning]
    · intro m
      simp [move, setSupervisor, Supervision.finish, SupervisorPhase.isRunning]
    · exact List.filter_sublist
    · intro _ hw
      cases hw
    · simp [h, SupervisorPhase.distance]
  | _ => cases hn

/-! ### What always holds -/

structure Sound (t : Supervisors) : Prop where
  running : ∀ n, n ∈ t.control.running ↔ (t.each n).phase.isRunning = true
  nodup : t.control.running.Nodup
  absent : ∀ n, t.control.started ≤ n → (t.each n).phase = .absent
  /-- Someone will wait for its end, or does. -/
  owned : ∀ n ∈ t.control.running, t.control.held = some n ∨ ∃ k, t.closes k = .waiting (some n)
  cleared : t.connect ≠ .idle → ∀ n ∈ t.control.running, t.control.held ≠ some n
  noticed : ∀ n, (t.each n).noticed ≤ t.words
  /-- A supervisor that is told to stop while it waits has not noticed the last word. -/
  alert : t.control.stopping = true → ∀ n, (t.each n).phase.waits = true → (t.each n).noticed < t.words

theorem sound_start : Sound {} where
  running _ := by simp [SupervisorPhase.isRunning]
  nodup := List.nodup_nil
  absent _ _ := rfl
  owned := nofun
  cleared := nofun
  noticed _ := Nat.le_refl _
  alert := nofun

theorem Own.sound {u : Supervisor} (ho : Own t t' n u) (h : Sound t) : Sound t' := by
  have hself : t'.each n = u := by rw [ho.each, Function.update_self]
  have hother : ∀ m, m ≠ n → t'.each m = t.each m := fun m hm => by rw [ho.each, Function.update_of_ne hm]
  have hmem : ∀ m ∈ t'.control.running, m ∈ t.control.running := fun m hm => ((ho.running m).1 hm).1
  constructor
  · intro m
    by_cases hm : m = n
    · subst hm
      rw [ho.running, hself, h.running, ho.ran]
      simp
    · rw [ho.running, hother m hm, ← h.running]
      simp [hm]
  · exact ho.sublist.nodup h.nodup
  · intro m hm
    rw [ho.started] at hm
    have habsent := h.absent m hm
    have hne : m ≠ n := by
      rintro rfl
      have hran := ho.ran
      rw [habsent] at hran
      cases hran
    rw [hother m hne, habsent]
  · intro m hm
    rw [ho.held, ho.closes]
    exact h.owned m (hmem m hm)
  · intro hconnect m hm
    rw [ho.connect] at hconnect
    rw [ho.held]
    exact h.cleared hconnect m (hmem m hm)
  · intro m
    rw [ho.words]
    by_cases hm : m = n
    · subst hm
      rw [hself]
      rcases ho.noticed with hu | hu
      · exact hu ▸ h.noticed m
      · exact Nat.le_of_eq hu
    · rw [hother m hm]
      exact h.noticed m
  · intro hstop m hw
    rw [ho.stopping] at hstop
    rw [ho.words]
    by_cases hm : m = n
    · subst hm
      rw [hself] at hw ⊢
      obtain ⟨hwaited, hu⟩ := ho.waits hstop hw
      rw [hu]
      exact h.alert hstop m hwaited
    · rw [hother m hm] at hw ⊢
      exact h.alert hstop m hw

private theorem contains_of_held {held : Option Nat} {running : List Nat} (h : held.any running.contains = false)
    {n : Nat} (hn : n ∈ running) : held ≠ some n := by
  rintro rfl
  simp [hn] at h

/-- A close that has no supervisor to wait for may change its phase. -/
private theorem owned_setClose (h : Sound t) {k : Nat} {p : ClosePhase}
    (hk : ∀ n ∈ t.control.running, t.closes k ≠ .waiting (some n)) {n : Nat} (hn : n ∈ t.control.running) :
    t.control.held = some n ∨ ∃ j, Function.update t.closes k p j = .waiting (some n) := by
  rcases h.owned n hn with hheld | ⟨j, hj⟩
  · exact .inl hheld
  · have hne : j ≠ k := by
      rintro rfl
      exact hk n hn hj
    exact .inr ⟨j, by rw [Function.update_of_ne hne, hj]⟩

private theorem sound_spawn (h : Sound t) (hconnect : t.connect = .told) :
    Sound ({ t with control := t.control.spawn, connect := .idle }.setSupervisor t.control.started
      ⟨.looking, t.words⟩) := by
  have hnew : t.control.started ∉ t.control.running := by
    rw [h.running, h.absent _ (Nat.le_refl _)]
    nofun
  constructor
  · intro m
    by_cases hm : m = t.control.started
    · subst hm
      simp [setSupervisor, Supervision.spawn, SupervisorPhase.isRunning]
    · simp [setSupervisor, Supervision.spawn, hm, h.running]
  · exact List.nodup_cons.2 ⟨hnew, h.nodup⟩
  · intro m hm
    have hm : t.control.started + 1 ≤ m := hm
    have hne : m ≠ t.control.started := by omega
    simp only [setSupervisor, Function.update_of_ne hne]
    exact h.absent m (by omega)
  · intro m hm
    rcases List.mem_cons.1 hm with rfl | hm
    · exact .inl rfl
    · -- the one that was held before does not run, so a close waits for this one
      rcases h.owned m hm with hheld | hclose
      · exact absurd hheld (h.cleared (by simp [hconnect]) m hm)
      · exact .inr hclose
  · intro hidle
    exact absurd rfl hidle
  · intro m
    by_cases hm : m = t.control.started
    · subst hm
      simp [setSupervisor]
    · simp only [setSupervisor, Function.update_of_ne hm]
      exact h.noticed m
  · intro hstop m hw
    by_cases hm : m = t.control.started
    · subst hm
      simp [setSupervisor, SupervisorPhase.waits] at hw
    · simp only [setSupervisor, Function.update_of_ne hm] at hw ⊢
      exact h.alert hstop m hw

theorem Step.sound (hs : Step t e t') (h : Sound t) : Sound t' := by
  rcases hwho : e.who? with _ | n
  · cases hs with
    | keep => exact h
    | clear hidle hheld => exact { h with cleared := fun _ n hn => contains_of_held hheld hn }
    | tellGo hconnect =>
      exact { h with
        cleared := fun _ => h.cleared (by simp [hconnect])
        noticed := fun n => Nat.le_succ_of_le (h.noticed n)
        alert := nofun }
    | spawn hconnect => exact sound_spawn h hconnect
    | @tellStop k hk =>
      exact { h with
        owned := fun n hn => owned_setClose h (fun _ _ => by simp [hk]) hn
        noticed := fun n => Nat.le_succ_of_le (h.noticed n)
        alert := fun _ n _ => Nat.lt_succ_of_le (h.noticed n) }
    | @release k who control hidle hk hrelease =>
      cases hrelease
      refine { h with owned := fun n hn => .inr ?_, cleared := fun hconnect => absurd hidle hconnect }
      rcases h.owned n hn with hheld | ⟨j, hj⟩
      · exact ⟨k, by simp [setClose, hheld]⟩
      · have hne : j ≠ k := by
          rintro rfl
          rw [hk] at hj
          cases hj
        exact ⟨j, by simp [setClose, hne, hj]⟩
    | @leave k who hk hended =>
      refine { h with owned := fun n hn => owned_setClose h (fun m hm hwait => ?_) hn }
      rw [hk] at hwait
      cases hwait
      exact contains_of_held hended hm rfl
    | _ => cases hwho
  · obtain ⟨u, ho⟩ := hs.own hwho
    exact ho.sound h

theorem Run.sound (hr : Run t es t') (h : Sound t) : Sound t' := by
  induction hr with
  | refl => exact h
  | snoc _ hs ih => exact hs.sound ih

/-! ### After the word to stop -/

/-- What is told to stop stays so until supervisors are told to go on. -/
theorem Step.stopping (hs : Step t e t') (hstop : t.control.stopping = true) (he : e ≠ .tellGo) :
    t'.control.stopping = true := by
  cases hs with
  | tellGo => exact absurd rfl he
  | tellStop => rfl
  | release _ _ hrelease =>
    cases hrelease
    exact hstop
  | _ => exact hstop

theorem Step.ne_attempt (hs : Step t e t') (hstop : t.control.stopping = true) (n : Nat) : e ≠ .attempt n := by
  rintro rfl
  cases hs with
  | attempt h hgo =>
    rw [hstop] at hgo
    cases hgo

/-- A supervisor comes nearer to its end with each of its own steps, and is not set back by the others. -/
theorem Step.distance (hs : Step t e t') (h : Sound t) (hstop : t.control.stopping = true) (n : Nat) :
    (if e.who? = some n then 1 else 0) + (t'.each n).phase.distance ≤ (t.each n).phase.distance := by
  rcases hwho : e.who? with _ | m
  · rw [if_neg (by simp), Nat.zero_add]
    cases hs with
    | spawn hconnect =>
      by_cases hn : n = t.control.started
      · subst hn
        simp [setSupervisor, h.absent _ (Nat.le_refl _), SupervisorPhase.distance]
      · simp [setSupervisor, hn]
    | keep | clear | tellGo | tellStop | release | leave => exact Nat.le_refl _
    | _ => cases hwho
  · obtain ⟨u, ho⟩ := hs.own hwho
    by_cases hn : n = m
    · subst hn
      have hlt := ho.nearer hstop
      rw [ho.each, Function.update_self, if_pos rfl]
      omega
    · have hne : ¬ some m = some n := fun heq => hn (Option.some.inj heq).symm
      rw [ho.each, Function.update_of_ne hn, if_neg hne]
      omega

theorem Run.stopped (hr : Run t es t') (h : Sound t) (hstop : t.control.stopping = true) (hgo : .tellGo ∉ es) :
    t'.control.stopping = true ∧ (∀ n, .attempt n ∉ es) ∧
      ∀ n, es.countP (·.who? = some n) + (t'.each n).phase.distance ≤ (t.each n).phase.distance := by
  induction hr with
  | refl => exact ⟨hstop, fun _ => List.not_mem_nil, fun _ => by simp⟩
  | @snoc t₁ t₂ es e hr hs ih =>
    rw [List.mem_append, List.mem_singleton, not_or] at hgo
    obtain ⟨hstop', hattempt, hdistance⟩ := ih hgo.1
    refine ⟨hs.stopping hstop' (Ne.symm hgo.2), fun n => ?_, fun n => ?_⟩
    · rw [List.mem_append, List.mem_singleton, not_or]
      exact ⟨hattempt n, (hs.ne_attempt hstop' n).symm⟩
    · have hsofar := hdistance n
      have hstep := hs.distance (hr.sound h) hstop' n
      rw [List.countP_append, List.countP_singleton]
      simp only [decide_eq_true_eq]
      omega

/-- A supervisor that is told to stop is never stuck. -/
theorem Sound.exists_step (h : Sound t) (hstop : t.control.stopping = true) (hn : n ∈ t.control.running) :
    ∃ e t', Step t e t' ∧ e.who? = some n ∧ e.isPrompt = true := by
  have hrun := (h.running n).1 hn
  have hnew : (t.each n).phase.waits = true → (t.each n).noticed ≠ t.words := fun hw =>
    Nat.ne_of_lt (h.alert hstop n hw)
  rcases hphase : (t.each n).phase with _ | _ | _ | _ | _ | _ | _ | _
  · simp [hphase, SupervisorPhase.isRunning] at hrun
  · exact ⟨_, _, .halt (.inl hphase) hstop, rfl, rfl⟩
  · exact ⟨_, _, .notice (.inl hphase) (hnew (by simp [hphase, SupervisorPhase.waits])), rfl, rfl⟩
  · exact ⟨_, _, .notice (.inr hphase) (hnew (by simp [hphase, SupervisorPhase.waits])), rfl, rfl⟩
  · exact ⟨_, _, .halt (.inr hphase) hstop, rfl, rfl⟩
  · exact ⟨_, _, .hurry hphase (hnew (by simp [hphase, SupervisorPhase.waits])), rfl, rfl⟩
  · exact ⟨_, _, .finish hphase, rfl, rfl⟩
  · simp [hphase, SupervisorPhase.isRunning] at hrun

/-! ### Who runs -/

theorem Sound.length_running_le_one (h : Sound t) (hclose : ∀ k n, t.closes k ≠ .waiting (some n)) :
    t.control.running.length ≤ 1 := by
  have hheld : ∀ n ∈ t.control.running, t.control.held = some n := by
    intro n hn
    rcases h.owned n hn with hheld | ⟨k, hk⟩
    · exact hheld
    · exact absurd hk (hclose k n)
  have hnodup := h.nodup
  rcases hrunning : t.control.running with _ | ⟨a, _ | ⟨b, rest⟩⟩
  · simp
  · simp
  · -- both would be held
    rw [hrunning] at hheld hnodup
    have ha := hheld a (by simp)
    have hb := hheld b (by simp)
    rw [ha] at hb
    have hab : a = b := Option.some.inj hb
    simp [hab] at hnodup

/-- Every supervisor that runs is held or awaited by a close, so that at most one runs while no close waits.  After
the word to stop, while nobody says to go on, no supervisor tries to connect, and each ends within four steps, none of
which it has to wait for. -/
theorem Run.supervised (hr : Run {} es t) :
    (∀ n ∈ t.control.running, t.control.held = some n ∨ ∃ k, t.closes k = .waiting (some n)) ∧
    ((∀ k n, t.closes k ≠ .waiting (some n)) → t.control.running.length ≤ 1) ∧
    ∀ k t₁ es' t', Step t (.tellStop k) t₁ → Run t₁ es' t' → .tellGo ∉ es' →
      ∀ n, .attempt n ∉ es' ∧ es'.countP (·.who? = some n) ≤ 4 ∧
        (n ∈ t'.control.running → ∃ e t'', Step t' e t'' ∧ e.who? = some n ∧ e.isPrompt = true) := by
  have hsound := hr.sound sound_start
  refine ⟨hsound.owned, hsound.length_running_le_one, ?_⟩
  intro k t₁ es' t' hs hr' hgo n
  have hsound₁ := hs.sound hsound
  have hstop : t₁.control.stopping = true := by
    cases hs
    rfl
  obtain ⟨hstop', hattempt, hdistance⟩ := hr'.stopped hsound₁ hstop hgo
  have hfour := SupervisorPhase.distance_le_four (t₁.each n).phase
  have hcount := hdistance n
  refine ⟨hattempt n, by omega, fun hn => ?_⟩
  exact (hr'.sound hsound₁).exists_step hstop' hn

/-- A close of a connected supervisor, while nobody connects. -/
theorem supervised_closing : ∃ t t₁ t', Run {} [.clear, .tellGo, .spawn, .attempt 0, .succeed 0] t ∧
    t.control.running = [0] ∧ Step t (.tellStop 0) t₁ ∧ Run t₁ [.release 0] t' ∧
    (∀ k n, t.closes k ≠ .waiting (some n)) ∧ t.control.running.length ≤ 1 ∧
    .tellGo ∉ [SupervisionEvent.release 0] ∧ 0 ∈ t'.control.running ∧
    ∃ e t'', Step t' e t'' ∧ e.who? = some 0 ∧ e.isPrompt = true := by
  obtain ⟨t, hrun, hconnect, hcontrol, hcloses⟩ :
      ∃ t, Run {} [.clear, .tellGo, .spawn, .attempt 0, .succeed 0] t ∧ t.connect = .idle ∧
        t.control = ⟨false, some 0, [0], 1⟩ ∧ t.closes = fun _ => .fresh :=
    ⟨_, (((((Run.refl _).snoc (.clear rfl rfl)).snoc (.tellGo rfl)).snoc (.spawn rfl)).snoc (.attempt rfl rfl)).snoc
      (.succeed rfl), rfl, rfl, rfl⟩
  have hwaits : ∀ k n, t.closes k ≠ .waiting (some n) := by
    intro k n
    rw [hcloses]
    nofun
  have htell : Step t (.tellStop 0) _ := .tellStop (by rw [hcloses])
  have hrelease := (Run.refl _).snoc (Step.release (k := 0) hconnect
    (t := { t with control := t.control.tellStop, words := t.words + 1 }.setClose 0 .told) (by simp [setClose])
    (show t.control.tellStop.release = (some 0, ⟨true, none, [0], 1⟩) by rw [hcontrol]; rfl))
  obtain ⟨-, hone, hstops⟩ := Run.supervised hrun
  obtain ⟨-, -, hnext⟩ := hstops 0 _ _ _ htell hrelease (by decide) 0
  exact ⟨t, _, _, hrun, by rw [hcontrol], htell, hrelease, hwaits, hone hwaits, by decide, by simp [setClose],
    hnext (by simp [setClose])⟩

/-! ### A word that is overwritten -/

/-- A close takes the first supervisor while it is connected, and a second one is started before the first has noticed.
The first finds that it is to go on. -/
private theorem exists_run_overtaken : ∃ t t', Run {}
      [.clear, .tellGo, .spawn, .attempt 0, .succeed 0, .tellStop 0, .release 0, .clear, .tellGo, .spawn, .notice 0,
        .pause 0, .wake 0] t ∧
    t.control.running = [1, 0] ∧ t.closes 0 = .waiting (some 0) ∧ Step t (.attempt 0) t' :=
  ⟨_, _, (((((((((((((Run.refl _).snoc (.clear rfl rfl)).snoc (.tellGo rfl)).snoc (.spawn rfl)).snoc
    (.attempt rfl rfl)).snoc (.succeed rfl)).snoc (.tellStop rfl)).snoc (.release rfl rfl rfl)).snoc
    (.clear rfl rfl)).snoc (.tellGo rfl)).snoc (.spawn rfl)).snoc (.notice (.inr rfl) (by decide))).snoc
    (.pause rfl rfl)).snoc (.wake rfl), rfl, rfl, .attempt rfl rfl⟩

/-- Two supervisors can run at a time, and one that a close has taken can try to connect again. -/
theorem not_forall_run_single :
    ¬ (∀ es t, Run {} es t → t.control.running.length ≤ 1) ∧
    ¬ (∀ es t k n e t', Run {} es t → t.closes k = .waiting (some n) → Step t e t' → e ≠ .attempt n) := by
  obtain ⟨t, t', hrun, hrunning, hwaits, hattempt⟩ := exists_run_overtaken
  constructor
  · intro hone
    have hlength := hone _ t hrun
    simp [hrunning] at hlength
  · intro hexits
    exact hexits _ t 0 0 _ t' hrun hwaits hattempt rfl

/-! ### Connecting and closing by themselves -/

/-- Connecting while nothing else happens. -/
theorem run_connect (hidle : t.connect = .idle) :
    ∃ es t', Run t es t' ∧ t'.connect = .idle ∧ t'.control = t.control.connect := by
  rcases hheld : t.control.held.any t.control.running.contains with _ | _
  · have hclear := Step.clear hidle hheld
    refine ⟨_, _, (((Run.refl t).snoc hclear).snoc (.tellGo rfl)).snoc (.spawn rfl), rfl, ?_⟩
    simp only [Supervision.connect_eq, hheld]
    rfl
  · refine ⟨_, t, (Run.refl t).snoc (.keep hidle hheld), hidle, ?_⟩
    simp only [Supervision.connect_eq, hheld, if_true]

/-- A close of a supervisor that is trying to connect, while nothing else happens. -/
theorem run_close (h : Sound t) (hidle : t.connect = .idle) {k : Nat} (hk : t.closes k = .fresh)
    (hheld : t.control.held = some n) (hphase : (t.each n).phase = .connecting) :
    ∃ t', Run t [.tellStop k, .release k, .notice n, .halt n, .finish n, .leave k] t' ∧
      t'.closes k = .returned ∧ t'.control = t.control.close := by
  have hnoticed := h.noticed n
  have hnew : (t.each n).noticed ≠ t.words + 1 := by omega
  have hrelease : t.control.tellStop.release = (some n, { t.control.tellStop with held := none }) := by
    simp [Supervision.release, Supervision.tellStop, hheld]
  have htold := (Run.refl t).snoc (.tellStop hk)
  have htaken := htold.snoc (.release (k := k) hidle (by simp [setClose]) hrelease)
  have hnoticed := htaken.snoc (.notice (n := n) (.inl hphase) hnew)
  have hhalted := hnoticed.snoc (.halt (n := n) (.inr (by simp [wakeUp, setSupervisor])) rfl)
  have hended := hhalted.snoc (.finish (n := n) (by simp [move, setSupervisor]))
  have hleft := hended.snoc (.leave (k := k)
    (show _ = ClosePhase.waiting (some n) by simp [setClose, move, wakeUp, setSupervisor])
    (by simp [setClose, move, wakeUp, setSupervisor, Supervision.finish]))
  refine ⟨_, hleft, by simp [setClose], ?_⟩
  rw [Supervision.close, hrelease]
  exact (Supervision.look_of_stopping rfl n).symm

end Supervisors

end EnergyGateway
