import EnergyGateway.Transport.Supervision
import Mathlib.Logic.Function.Basic

/-!
# Supervisors at work

Anyone may connect or close at any time, while the supervisors that run go on with their work.  They are told to stop,
or to go on, by a word that everyone shares: only the last one counts.  Each time it is said it gets a new number, so
that a supervisor notices while it waits for something else that it was said again.

Who connects keeps the place of the held supervisor to himself until it is done.  A close tells supervisors to stop
without asking for that place, then takes the supervisor that is held, and waits for its end.

A supervisor looks at the word before it tries to connect and after each attempt or connection; it is woken by a new
word from an attempt, a connection or a pause.  `Supervisors.Step` says what can happen next.
-/

namespace EnergyGateway

/-- Where a supervisor is in its work. -/
inductive SupervisorPhase where
  | absent
  /-- It is about to look at the word before an attempt to connect. -/
  | looking
  | connecting
  | connected
  /-- Its attempt or its connection is over, and it is about to look at the word. -/
  | leaving
  | pausing
  /-- It has seen that it is to stop. -/
  | ending
  | ended
  deriving DecidableEq, Repr

/-- A supervisor, with the number of the last word that it noticed. -/
structure Supervisor where
  phase : SupervisorPhase := .absent
  noticed : Nat := 0
  deriving DecidableEq, Repr

/-- How far the one who connects has come. -/
inductive ConnectPhase where
  | idle
  /-- No supervisor that is held runs. -/
  | cleared
  /-- Supervisors were told to go on. -/
  | told
  deriving DecidableEq, Repr

/-- How far a close has come. -/
inductive ClosePhase where
  | fresh
  /-- Supervisors were told to stop. -/
  | told
  /-- It has taken what was held, and waits for its end. -/
  | waiting (who : Option Nat)
  | returned
  deriving DecidableEq, Repr

structure Supervisors where
  control : Supervision := {}
  /-- How often supervisors were told something. -/
  words : Nat := 0
  connect : ConnectPhase := .idle
  /-- The closes by their numbers. -/
  closes : Nat → ClosePhase := fun _ => .fresh
  /-- The supervisors by their numbers. -/
  each : Nat → Supervisor := fun _ => {}

/-- What can happen to the one who connects, to a close, or to a supervisor. -/
inductive SupervisionEvent where
  | keep
  | clear
  | tellGo
  | spawn
  | tellStop (close : Nat)
  | release (close : Nat)
  | leave (close : Nat)
  | attempt (who : Nat)
  | succeed (who : Nat)
  | fail (who : Nat)
  | notice (who : Nat)
  | pause (who : Nat)
  | wake (who : Nat)
  | halt (who : Nat)
  | finish (who : Nat)
  deriving DecidableEq, Repr

namespace Supervisors

def setClose (t : Supervisors) (k : Nat) (p : ClosePhase) : Supervisors :=
  { t with closes := Function.update t.closes k p }

def setSupervisor (t : Supervisors) (n : Nat) (u : Supervisor) : Supervisors :=
  { t with each := Function.update t.each n u }

/-- A supervisor comes to a phase of its work. -/
def move (t : Supervisors) (n : Nat) (p : SupervisorPhase) : Supervisors :=
  t.setSupervisor n ⟨p, (t.each n).noticed⟩

/-- A supervisor comes to a phase because it was told something. -/
def wakeUp (t : Supervisors) (n : Nat) (p : SupervisorPhase) : Supervisors := t.setSupervisor n ⟨p, t.words⟩

/-- What can happen, and how things are afterwards. -/
inductive Step : Supervisors → SupervisionEvent → Supervisors → Prop
  | keep {t : Supervisors} (hidle : t.connect = .idle) (hheld : t.control.held.any t.control.running.contains = true) :
      Step t .keep t
  | clear {t : Supervisors} (hidle : t.connect = .idle)
      (hheld : t.control.held.any t.control.running.contains = false) :
      Step t .clear { t with connect := .cleared }
  | tellGo {t : Supervisors} (h : t.connect = .cleared) :
      Step t .tellGo { t with control := t.control.tellGo, words := t.words + 1, connect := .told }
  | spawn {t : Supervisors} (h : t.connect = .told) :
      Step t .spawn ({ t with control := t.control.spawn, connect := .idle }.setSupervisor t.control.started
        ⟨.looking, t.words⟩)
  | tellStop {t : Supervisors} {k : Nat} (h : t.closes k = .fresh) :
      Step t (.tellStop k) ({ t with control := t.control.tellStop, words := t.words + 1 }.setClose k .told)
  | release {t : Supervisors} {k : Nat} {who : Option Nat} {control : Supervision} (hidle : t.connect = .idle)
      (h : t.closes k = .told) (hrelease : t.control.release = (who, control)) :
      Step t (.release k) ({ t with control }.setClose k (.waiting who))
  | leave {t : Supervisors} {k : Nat} {who : Option Nat} (h : t.closes k = .waiting who)
      (hended : who.any t.control.running.contains = false) :
      Step t (.leave k) (t.setClose k .returned)
  | attempt {t : Supervisors} {n : Nat} (h : (t.each n).phase = .looking) (hgo : t.control.stopping = false) :
      Step t (.attempt n) (t.move n .connecting)
  | succeed {t : Supervisors} {n : Nat} (h : (t.each n).phase = .connecting) :
      Step t (.succeed n) (t.move n .connected)
  | fail {t : Supervisors} {n : Nat} (h : (t.each n).phase = .connecting ∨ (t.each n).phase = .connected) :
      Step t (.fail n) (t.move n .leaving)
  | notice {t : Supervisors} {n : Nat} (h : (t.each n).phase = .connecting ∨ (t.each n).phase = .connected)
      (hnew : (t.each n).noticed ≠ t.words) :
      Step t (.notice n) (t.wakeUp n .leaving)
  | pause {t : Supervisors} {n : Nat} (h : (t.each n).phase = .leaving) (hgo : t.control.stopping = false) :
      Step t (.pause n) (t.move n .pausing)
  | wake {t : Supervisors} {n : Nat} (h : (t.each n).phase = .pausing) :
      Step t (.wake n) (t.move n .looking)
  /-- A pause is cut short by a new word. -/
  | hurry {t : Supervisors} {n : Nat} (h : (t.each n).phase = .pausing) (hnew : (t.each n).noticed ≠ t.words) :
      Step t (.notice n) (t.wakeUp n .looking)
  | halt {t : Supervisors} {n : Nat} (h : (t.each n).phase = .looking ∨ (t.each n).phase = .leaving)
      (hstop : t.control.stopping = true) :
      Step t (.halt n) (t.move n .ending)
  | finish {t : Supervisors} {n : Nat} (h : (t.each n).phase = .ending) :
      Step t (.finish n) ({ t with control := t.control.finish n }.move n .ended)

/-- Steps one after the other. -/
inductive Run : Supervisors → List SupervisionEvent → Supervisors → Prop
  | refl (t : Supervisors) : Run t [] t
  | snoc {t t' t'' : Supervisors} {es : List SupervisionEvent} {e : SupervisionEvent} (h : Run t es t')
      (hs : Step t' e t'') : Run t (es ++ [e]) t''

end Supervisors

end EnergyGateway
