import Junction.Beacon.Basic
import Junction.Vehicle.Roster

/-! # Neighbors and snapshots

A neighbor is a peer that was heard: its last beacon and when that came in. A snapshot is the list
of all neighbors at one moment, which is what a decision is made from.
-/

namespace Junction

/-- A peer, the beacon that is believed of it, and when it was last heard. -/
structure Neighbor where
  id : VehicleId
  beacon : Beacon
  lastReceipt : Timestamp
  deriving DecidableEq, Repr

namespace Neighbor

/-- Milliseconds since the peer was last heard. -/
def age (n : Neighbor) (now : Timestamp) : Nat := now.since n.lastReceipt

def status (n : Neighbor) : Status := n.beacon.status

def route (n : Neighbor) : Route := n.beacon.route

/-- When the peer enters, if it published that. -/
def entryTime (n : Neighbor) : Option Timestamp := n.beacon.entryTime

/-- When the peer will have left, if it published when it enters. -/
def exitTime (n : Neighbor) : Option Timestamp := n.beacon.exitTime

end Neighbor

/-- The neighbors at one moment, in ascending order of their identifiers. -/
structure Snapshot where
  neighbors : List Neighbor
  deriving DecidableEq, Repr

namespace Snapshot

/-- The snapshot without neighbors. -/
def empty : Snapshot := ⟨[]⟩

/-- The snapshot of some neighbors in any order; of two with one identifier the later one stays. -/
def ofList (neighbors : List Neighbor) : Snapshot := ⟨Roster.ofList Neighbor.id neighbors⟩

def withStatus (s : Snapshot) (status : Status) : List Neighbor :=
  s.neighbors.filter fun n => n.status = status

/-- The neighbors that have access. -/
def crossing (s : Snapshot) : List Neighbor := s.withStatus .crossing

/-- The neighbors that wait for access. -/
def requesting (s : Snapshot) : List Neighbor := s.withStatus .requesting

def size (s : Snapshot) : Nat := s.neighbors.length

theorem mem_crossing {s : Snapshot} {n : Neighbor} :
    n ∈ s.crossing ↔ n ∈ s.neighbors ∧ n.status = .crossing := by
  simp [crossing, withStatus]

theorem mem_requesting {s : Snapshot} {n : Neighbor} :
    n ∈ s.requesting ↔ n ∈ s.neighbors ∧ n.status = .requesting := by
  simp [requesting, withStatus]

end Snapshot

end Junction
