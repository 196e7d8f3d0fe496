import EnergyGateway.Transport.Link
import Mathlib.Logic.Function.Basic

/-!
# Traffic on a link

Any number of calls are under way at a time, each under an id of its own, while connections come and go.  A call
chooses a connection, begins to wait, hands its request over, and ends when it notices what it was told, when its
time is up, or when its caller gives up.  Whoever runs a connection sends the requests that were handed to it and
takes in the messages that arrive, until it stops; then the connection takes no more requests, the link forgets
it, and every call that waits is told.

Two connections may be there at a time: one may still be closing while the next is already open.  After an
attempt that opened no connection the link is made to forget and to tell just the same.

`Traffic.Step` says what can happen next, in terms of the events of the link.
-/

namespace EnergyGateway

/-- A call that has chosen a connection. -/
structure Call where
  request : Rpc.Request
  connection : Nat

/-- How far a call has come.  One that waits may have been told its outcome and not have noticed. -/
inductive CallPhase where
  /-- No call has this id yet. -/
  | fresh
  | chosen (c : Call)
  /-- It waits, but its request is not handed over yet. -/
  | entered (c : Call) (told : Option Outcome)
  | waiting (c : Call) (told : Option Outcome)
  /-- It ended, or its caller gave up. -/
  | ended (outcome : Option Outcome)

inductive ConnectionPhase where
  | absent
  | running
  /-- It sends and receives no more. -/
  | stopped
  /-- It takes no more requests either. -/
  | deaf
  /-- The link has forgotten it. -/
  | forgotten
  /-- The calls that waited were told. -/
  | detached
  deriving DecidableEq, Repr

structure Traffic where
  link : Link := {}
  /-- The calls by their ids. -/
  calls : String → CallPhase := fun _ => .fresh
  /-- The connections by their numbers. -/
  connections : Nat → ConnectionPhase := fun _ => .absent
  /-- The requests that a connection has taken and not sent. -/
  queued : Nat → List Rpc.Request := fun _ => []
  /-- What was published to all. -/
  published : List Rpc.Message := []

/-- What can happen to a call, or to a connection.  A connection that none was opened for has no number. -/
inductive Event where
  | begin (r : Rpc.Request)
  | enter (id : String)
  | handOver (id : String)
  | notice (id : String)
  | expire (id : String)
  | abandon (id : String)
  | receive (connection : Nat) (text : String)
  | attach
  | forward (connection : Nat)
  | stop (connection : Nat)
  | stopTaking (connection : Nat)
  | forget (connection : Option Nat)
  | drain (connection : Option Nat)

/-- Tell a call its outcome.  It hears the first one only, and only while it waits. -/
def CallPhase.tell (outcome : Option Outcome) : CallPhase → CallPhase
  | .entered c told => .entered c (told.or outcome)
  | .waiting c told => .waiting c (told.or outcome)
  | p => p

namespace Traffic

def setCall (t : Traffic) (id : String) (p : CallPhase) : Traffic := { t with calls := Function.update t.calls id p }

def setConnection (t : Traffic) (n : Nat) (p : ConnectionPhase) : Traffic :=
  { t with connections := Function.update t.connections n p }

def setQueue (t : Traffic) (n : Nat) (rs : List Rpc.Request) : Traffic :=
  { t with queued := Function.update t.queued n rs }

/-- Tell calls their outcomes. -/
def tell (t : Traffic) (endings : List Ending) : Traffic :=
  { t with calls := fun id => (t.calls id).tell (endings.lookup id) }

/-- What can happen, and what the traffic is like afterwards. -/
inductive Step : Traffic → Event → Traffic → Prop
  | refuse {t : Traffic} {r : Rpc.Request} {f : Failure} (h : t.calls r.id = .fresh)
      (hlink : t.link.choose = .error f) :
      Step t (.begin r) (t.setCall r.id (.ended (some (.error f))))
  | choose {t : Traffic} {r : Rpc.Request} {n : Nat} (h : t.calls r.id = .fresh)
      (hlink : t.link.choose = .ok n) :
      Step t (.begin r) (t.setCall r.id (.chosen ⟨r, n⟩))
  | enter {t : Traffic} {id : String} {c : Call} (h : t.calls id = .chosen c) :
      Step t (.enter id) ({ t with link := t.link.enter id }.setCall id (.entered c none))
  | handOver {t : Traffic} {id : String} {c : Call} {told : Option Outcome} {link : Link}
      (h : t.calls id = .entered c told) (hlink : t.link.handOver c.connection id = (link, [])) :
      Step t (.handOver id) (({ t with link }.setQueue c.connection (t.queued c.connection ++ [c.request])).setCall id
        (.waiting c told))
  | lose {t : Traffic} {id : String} {c : Call} {told : Option Outcome} {link : Link} {o : Outcome}
      (h : t.calls id = .entered c told) (hlink : t.link.handOver c.connection id = (link, [(id, o)])) :
      Step t (.handOver id) ({ t with link }.setCall id (.ended (some o)))
  | notice {t : Traffic} {id : String} {c : Call} {o : Outcome} (h : t.calls id = .waiting c (some o)) :
      Step t (.notice id) ({ t with link := t.link.abandon id }.setCall id (.ended (some o)))
  /-- A call that can be told nothing any more takes the connection for closed. -/
  | miss {t : Traffic} {id : String} {c : Call} (h : t.calls id = .waiting c none) (hlink : id ∉ t.link.pending) :
      Step t (.notice id) ({ t with link := t.link.abandon id }.setCall id (.ended (some (.error .connectionClosed))))
  | expire {t : Traffic} {id : String} {c : Call} {link : Link} {o : Outcome} (h : t.calls id = .waiting c none)
      (hlink : t.link.expire id c.request.method = (link, [(id, o)])) :
      Step t (.expire id) ({ t with link }.setCall id (.ended (some o)))
  | abandonChosen {t : Traffic} {id : String} {c : Call} (h : t.calls id = .chosen c) :
      Step t (.abandon id) (t.setCall id (.ended none))
  | abandon {t : Traffic} {id : String} {c : Call} {told : Option Outcome}
      (h : t.calls id = .entered c told ∨ t.calls id = .waiting c told) :
      Step t (.abandon id) ({ t with link := t.link.abandon id }.setCall id (.ended none))
  | receive {t : Traffic} {n : Nat} {text : String} {link : Link} {endings : List Ending}
      {published : Option Rpc.Message} (h : t.connections n = .running)
      (hlink : t.link.dispatch text = (link, endings, published)) :
      Step t (.receive n text) ({ t with link, published := t.published ++ published.toList }.tell endings)
  | attach {t : Traffic} :
      Step t .attach ({ t with link := t.link.attach }.setConnection t.link.connections .running)
  | forward {t : Traffic} {n : Nat} {r : Rpc.Request} {rs : List Rpc.Request} (h : t.connections n = .running)
      (hqueue : t.queued n = r :: rs) :
      Step t (.forward n) (t.setQueue n rs)
  | stop {t : Traffic} {n : Nat} (h : t.connections n = .running) :
      Step t (.stop n) (t.setConnection n .stopped)
  | stopTaking {t : Traffic} {n : Nat} (h : t.connections n = .stopped) :
      Step t (.stopTaking n) (({ t with link := t.link.stopTaking n }.setQueue n []).setConnection n .deaf)
  | forget {t : Traffic} {n : Nat} (h : t.connections n = .deaf) :
      Step t (.forget (some n)) ({ t with link := t.link.forget }.setConnection n .forgotten)
  | drain {t : Traffic} {n : Nat} {link : Link} {endings : List Ending} (h : t.connections n = .forgotten)
      (hlink : t.link.drain = (link, endings)) :
      Step t (.drain (some n)) (({ t with link }.tell endings).setConnection n .detached)
  | forgetNone {t : Traffic} : Step t (.forget none) { t with link := t.link.forget }
  | drainNone {t : Traffic} {link : Link} {endings : List Ending} (hlink : t.link.drain = (link, endings)) :
      Step t (.drain none) ({ t with link }.tell endings)

/-- Steps one after the other. -/
inductive Run : Traffic → List Event → Traffic → Prop
  | refl (t : Traffic) : Run t [] t
  | snoc {t t' t'' : Traffic} {es : List Event} {e : Event} (h : Run t es t') (hs : Step t' e t'') :
      Run t (es ++ [e]) t''

end Traffic

end EnergyGateway
