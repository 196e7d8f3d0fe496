import EnergyGateway.Store

/-!
# Watching the snapshots

Who watches the store prints a line for the snapshot that he finds there, as soon as it is another one than the last
that he has seen.  He goes on until there are enough lines or he is interrupted.

Messages are taken into the store at any time; `Watching.Step` says what can happen next.  The command that watches is
one of the runs.
-/

namespace EnergyGateway

/-- A snapshot that was seen, and when. -/
structure Update where
  time : String
  components : ComponentMap

/-- The line for an update. -/
def Update.line (u : Update) : String := s!"{u.time} snapshot: {u.components.size} components\n"

/-- Someone who watches the store, with the number of the last snapshot that he has seen. -/
structure Watching where
  store : Store
  seen : Nat
  /-- The updates for which a line was printed. -/
  printed : List Update := []
  isOver : Bool := false

/-- What the listener does, and what happens to who watches. -/
inductive WatchEvent where
  | ingest (m : Rpc.Message)
  | look (time : String)
  | interrupt

namespace Watching

/-- What is published from now on counts. -/
def start (store : Store) : Watching := { store, seen := store.version }

/-- Whether so many lines are enough. -/
def isEnough (count : Option Nat) (lines : Nat) : Bool := count.any (· ≤ lines)

/-- Print a line for the snapshot in the store.  The count is looked at behind each line. -/
def print (count : Option Nat) (time : String) (t : Watching) : Watching :=
  let printed := t.printed ++ [⟨time, t.store.snapshot.getD .empty⟩]
  { t with seen := t.store.version, printed, isOver := isEnough count printed.length }

/-- Look at the store, and print a line if there is something new. -/
def look (count : Option Nat) (time : String) (t : Watching) : Watching :=
  if !t.isOver && t.store.changedSince t.seen then t.print count time else t

/-- What can happen, and how things are afterwards. -/
inductive Step (count : Option Nat) : Watching → WatchEvent → Watching → Prop
  | ingest {t : Watching} {m : Rpc.Message} : Step count t (.ingest m) { t with store := t.store.ingest m }
  | look {t : Watching} {time : String} (hon : t.isOver = false) (hnew : t.store.changedSince t.seen = true) :
      Step count t (.look time) (t.print count time)
  | interrupt {t : Watching} (hon : t.isOver = false) : Step count t .interrupt { t with isOver := true }

/-- Steps one after the other. -/
inductive Run (count : Option Nat) : Watching → List WatchEvent → Watching → Prop
  | refl (t : Watching) : Run count t [] t
  | snoc {t t' t'' : Watching} {es : List WatchEvent} {e : WatchEvent} (h : Run count t es t')
      (hs : Step count t' e t'') : Run count t (es ++ [e]) t''

end Watching

end EnergyGateway
