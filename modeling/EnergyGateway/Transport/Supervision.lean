/-!
# Supervisors of a link

A supervisor opens the connection of a link and opens it again when it is lost, until it is told to stop.  The
one that was started last is held, so that closing can wait for its end; connecting again while it runs changes
nothing.
-/

namespace EnergyGateway

structure Supervision where
  /-- Whether supervisors are told to stop. -/
  stopping : Bool := false
  /-- The supervisor that is held. -/
  held : Option Nat := none
  /-- The supervisors that run. -/
  running : List Nat := []
  /-- How many supervisors were started so far. -/
  started : Nat := 0
  deriving DecidableEq, Repr

namespace Supervision

/-- Start a supervisor, unless the one that is held runs. -/
def connect (s : Supervision) : Supervision :=
  if s.held.any s.running.contains then s
  else
    { stopping := false
      held := some s.started
      running := s.started :: s.running
      started := s.started + 1 }

/-- Tell supervisors to go on: the first step of starting one. -/
def tellGo (s : Supervision) : Supervision := { s with stopping := false }

/-- Start a supervisor and hold it: the second step. -/
def spawn (s : Supervision) : Supervision :=
  { s with
    held := some s.started
    running := s.started :: s.running
    started := s.started + 1 }

theorem connect_eq (s : Supervision) :
    s.connect = if s.held.any s.running.contains then s else s.tellGo.spawn := rfl

/-- Tell supervisors to stop: the first step of closing. -/
def tellStop (s : Supervision) : Supervision := { s with stopping := true }

/-- Let go of the supervisor that is held: the second step of closing, which then waits for its end. -/
def release (s : Supervision) : Option Nat × Supervision := (s.held, { s with held := none })

/-- A supervisor looks whether it is told to stop, and ends if it is. -/
def look (s : Supervision) (who : Nat) : Supervision :=
  if s.stopping then { s with running := s.running.filter (· ≠ who) } else s

/-- A supervisor ends. -/
def finish (s : Supervision) (who : Nat) : Supervision := { s with running := s.running.filter (· ≠ who) }

theorem look_of_stopping {s : Supervision} (h : s.stopping = true) (who : Nat) : s.look who = s.finish who := by
  simp [look, finish, h]

/-- Close while nothing else happens. -/
def close (s : Supervision) : Supervision :=
  match s.tellStop.release with
  | (some who, s) => s.look who
  | (none, s) => s

end Supervision

end EnergyGateway
