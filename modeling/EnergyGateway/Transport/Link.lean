import EnergyGateway.Json.Reader
import EnergyGateway.Rpc.Edge

/-!
# The link to the edge

All calls share one connection.  A call chooses the connection that is there, begins to wait under its id, and
hands its request over; it waits until a message with this id answers it, its time is up, its caller gives up,
or the connection is lost.  Every message that arrives is published besides, whether a call waits for it or not;
what is no message is ignored.

A connection that breaks first takes no more requests, and only then the link forgets it.  So a call that has
chosen it and comes too late to be told that it was lost finds out when it hands its request over.

The functions here are the single events.  Each tells what the link is like afterwards and which calls ended
with it.
-/

namespace EnergyGateway

/-- How a call ends. -/
abbrev Outcome := Except Failure Json

/-- The end of the call with an id. -/
abbrev Ending := String × Outcome

inductive LinkState where
  | disconnected
  | connected
  deriving DecidableEq, Repr

/-- The calls that wait, and the connections that take their requests. -/
structure Link where
  /-- The number of the connection that new calls choose, while there is one. -/
  chosen : Option Nat := none
  /-- The numbers of the connections that take requests. -/
  taking : List Nat := []
  /-- How many connections there were so far. -/
  connections : Nat := 0
  /-- The ids of the calls that wait. -/
  pending : List String := []
  deriving DecidableEq, Repr

namespace Link

def state (l : Link) : LinkState := if l.chosen.isSome then .connected else .disconnected

/-! ### Connections -/

/-- A connection is there. -/
def attach (l : Link) : Link :=
  { l with
    chosen := some l.connections
    taking := l.connections :: l.taking
    connections := l.connections + 1 }

/-- A connection breaks: it takes no more requests. -/
def stopTaking (l : Link) (connection : Nat) : Link :=
  { l with taking := l.taking.filter (· ≠ connection) }

/-- New calls find no connection any more: the first step of detaching. -/
def forget (l : Link) : Link := { l with chosen := none }

/-- Every call that waits ends: the second step of detaching. -/
def drain (l : Link) : Link × List Ending :=
  ({ l with pending := [] }, l.pending.map fun id => (id, .error .connectionClosed))

/-- The link forgets the connection, and with it every call that waits. -/
def detach (l : Link) : Link × List Ending := l.forget.drain

/-! ### Calls -/

/-- The connection for a new call. -/
def choose (l : Link) : Except Failure Nat :=
  match l.chosen with
  | some connection => .ok connection
  | none => .error .notConnected

/-- A call begins to wait. -/
def enter (l : Link) (id : String) : Link := { l with pending := id :: l.pending.filter (· ≠ id) }

/-- A caller gives up. -/
def abandon (l : Link) (id : String) : Link := { l with pending := l.pending.filter (· ≠ id) }

/-- A call hands its request to the connection that it has chosen.  One that takes no more requests ends the
call. -/
def handOver (l : Link) (connection : Nat) (id : String) : Link × List Ending :=
  if l.taking.contains connection then (l, []) else (l.abandon id, [(id, .error .connectionClosed)])

/-- A call that begins while nothing else happens. -/
def register (l : Link) (id : String) : Except Failure (Link × List Ending) :=
  match l.choose with
  | .ok connection => .ok ((l.enter id).handOver connection id)
  | .error f => .error f

/-- The time of a call is up. -/
def expire (l : Link) (id method : String) : Link × List Ending :=
  if l.pending.contains id then (l.abandon id, [(id, .error (.timeout method))]) else (l, [])

/-! ### Messages -/

/-- A message arrives; it ends the call that waits under its id. -/
def receive (l : Link) (m : Rpc.Message) : Link × List Ending :=
  match m.id with
  | some id => if l.pending.contains id then (l.abandon id, [(id, m.reply)]) else (l, [])
  | none => (l, [])

/-- The message that a text writes. -/
def message? (text : String) : Option Rpc.Message := (Document.read text).bind Rpc.Message.read

/-- A text arrives.  Tells also what is published. -/
def dispatch (l : Link) (text : String) : Link × List Ending × Option Rpc.Message :=
  match message? text with
  | some m =>
    let (l, endings) := l.receive m
    (l, endings, some m)
  | none => (l, [], none)

/-! ### Waiting for a connection -/

/-- What waiting for a connection comes to when nothing changes any more. -/
def awaitConnection (l : Link) : Except Failure Unit :=
  match l.state with
  | .connected => .ok ()
  | .disconnected => .error (.timeout "connect")

end Link

end EnergyGateway
