import EnergyGateway.Failure
import EnergyGateway.Store

/-!
# Refreshing beside the listener

Messages are taken into the store at any time, also while someone asks for a new snapshot and waits for it.  He begins
to watch the store, notes the number of its last snapshot, asks the edge, and has its answer; then he waits until the
number is another one or his time is up.  Both are found out in one look: where there is a new number, the time does not
count.

`Refreshing.Step` says what can happen next.  The session's own refresh is one of its runs.
-/

namespace EnergyGateway

/-- How far someone who refreshes has come, with the number of the last snapshot that he has seen. -/
inductive RefreshPhase where
  | idle
  | watching (seen : Nat)
  | marked (seen : Nat)
  | asked (seen : Nat)
  | waiting (seen : Nat)
  /-- He is told whether there is a new snapshot, or why the edge could not be asked. -/
  | ended (outcome : Except Failure Bool)

structure Refreshing where
  store : Store := {}
  phase : RefreshPhase := .idle

/-- What the listener does, and what is done to refresh. -/
inductive RefreshEvent where
  | ingest (m : Rpc.Message)
  | watch
  | mark
  | ask
  | answer (outcome : Except Failure Unit)
  | wake
  | expire

namespace Refreshing

/-- What can happen, and how things are afterwards. -/
inductive Step : Refreshing → RefreshEvent → Refreshing → Prop
  | ingest {t : Refreshing} {m : Rpc.Message} : Step t (.ingest m) { t with store := t.store.ingest m }
  | watch {t : Refreshing} (h : t.phase = .idle) : Step t .watch { t with phase := .watching t.store.version }
  | mark {t : Refreshing} {n : Nat} (h : t.phase = .watching n) :
      Step t .mark { t with phase := .marked t.store.version }
  | ask {t : Refreshing} {n : Nat} (h : t.phase = .marked n) : Step t .ask { t with phase := .asked n }
  | answer {t : Refreshing} {n : Nat} (h : t.phase = .asked n) :
      Step t (.answer (.ok ())) { t with phase := .waiting n }
  | fail {t : Refreshing} {n : Nat} {f : Failure} (h : t.phase = .asked n) :
      Step t (.answer (.error f)) { t with phase := .ended (.error f) }
  | wake {t : Refreshing} {n : Nat} (h : t.phase = .waiting n) (hnew : t.store.changedSince n = true) :
      Step t .wake { t with phase := .ended (.ok true) }
  | expire {t : Refreshing} {n : Nat} (h : t.phase = .waiting n) (hold : t.store.changedSince n = false) :
      Step t .expire { t with phase := .ended (.ok false) }

/-- Steps one after the other. -/
inductive Run : Refreshing → List RefreshEvent → Refreshing → Prop
  | refl (t : Refreshing) : Run t [] t
  | snoc {t t' t'' : Refreshing} {es : List RefreshEvent} {e : RefreshEvent} (h : Run t es t') (hs : Step t' e t'') :
      Run t (es ++ [e]) t''

end Refreshing

end EnergyGateway
