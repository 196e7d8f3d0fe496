import EnergyGateway.Rpc.Edge

/-!
# The snapshot of an edge

The store holds the components of the last message that carried any.  A message replaces the snapshot as a whole
or leaves it alone.  Every replacement is numbered, so that who waits for news can tell whether there was one.
-/

namespace EnergyGateway

structure Store where
  snapshot : Option ComponentMap := none
  /-- How many snapshots were published. -/
  version : Nat := 0
  deriving Inhabited

namespace Store

/-- Take a message in. -/
def ingest (s : Store) (m : Rpc.Message) : Store :=
  match m.components? with
  | some components => ⟨some components, s.version + 1⟩
  | none => s

/-- Take messages in, in their order. -/
def ingestAll (s : Store) (ms : List Rpc.Message) : Store := ms.foldl ingest s

/-- Whether a snapshot was published since a version was seen. -/
def changedSince (s : Store) (version : Nat) : Bool := s.version != version

end Store

end EnergyGateway
