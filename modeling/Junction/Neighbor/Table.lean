import Junction.Neighbor.Basic

/-! # The neighbor table

Each vehicle keeps one entry for every peer that it hears. A beacon a little older than the one it
has is taken for a late one: it shows that the peer is alive, and its content is dropped. A beacon
much older than that shows that the peer has started to count anew, and is believed. An entry
leaves the table only when its peer has been silent for too long.
-/

namespace Junction

/-- What became of a beacon. -/
inductive Receipt where
  /-- The first beacon of a peer. -/
  | inserted
  /-- The entry of the peer has the content of this beacon now. -/
  | updated
  /-- A late beacon: the peer is alive, its entry keeps its content. -/
  | refreshed
  /-- The beacon is the owner's own. -/
  | ignoredSelf
  deriving DecidableEq, Repr

/-- By how many numbers a beacon may be behind and still count as late. -/
def reorderWindow : Nat := 8

/-- The owner and its neighbors, in ascending order of their identifiers. -/
structure NeighborTable where
  owner : VehicleId
  entries : List Neighbor
  deriving DecidableEq, Repr

/-- How many neighbors are at each stage. -/
structure NeighborCount where
  idle : Nat
  requesting : Nat
  crossing : Nat
  exiting : Nat
  deriving DecidableEq, Repr

namespace NeighborTable

/-- The table of a vehicle that has heard nothing. -/
def empty (owner : VehicleId) : NeighborTable := ⟨owner, []⟩

def get? (t : NeighborTable) (v : VehicleId) : Option Neighbor := Roster.find? Neighbor.id v t.entries

def contains (t : NeighborTable) (v : VehicleId) : Bool := Roster.contains Neighbor.id v t.entries

def size (t : NeighborTable) : Nat := t.entries.length

def snapshot (t : NeighborTable) : Snapshot := ⟨t.entries⟩

/-- Whether a received number is behind the stored one, and by little enough to be late. -/
def isLate (stored received : UInt64) : Bool :=
  received.toNat < stored.toNat && stored.toNat - received.toNat ≤ reorderWindow

def put (t : NeighborTable) (n : Neighbor) : NeighborTable :=
  { t with entries := Roster.insert Neighbor.id n t.entries }

/-- The table after a beacon came in, and what became of the beacon. -/
def update (t : NeighborTable) (b : Beacon) (now : Timestamp) : NeighborTable × Receipt :=
  if b.sender = t.owner then (t, .ignoredSelf)
  else
    match t.get? b.sender with
    | none => (t.put ⟨b.sender, b, now⟩, .inserted)
    | some known =>
      if isLate known.beacon.sequence b.sequence then
        (t.put { known with lastReceipt := now }, .refreshed)
      else (t.put { known with beacon := b, lastReceipt := now }, .updated)

/-- Whether a peer has been silent for more than `maxAge` milliseconds. -/
def isStale (maxAge : Nat) (now : Timestamp) (n : Neighbor) : Bool := decide (maxAge < n.age now)

/-- The table without the silent peers, and the identifiers of these. -/
def flush (t : NeighborTable) (maxAge : Nat) (now : Timestamp) : NeighborTable × List VehicleId :=
  ({ t with entries := t.entries.filter fun n => !isStale maxAge now n },
    (t.entries.filter (isStale maxAge now)).map Neighbor.id)

def countOf (t : NeighborTable) (status : Status) : Nat :=
  t.entries.countP fun n => n.status = status

def count (t : NeighborTable) : NeighborCount where
  idle := t.countOf .idle
  requesting := t.countOf .requesting
  crossing := t.countOf .crossing
  exiting := t.countOf .exiting

end NeighborTable

namespace NeighborCount

def total (c : NeighborCount) : Nat := c.idle + c.requesting + c.crossing + c.exiting

def text (c : NeighborCount) : String :=
  s!"{c.total} neighbors ({c.idle} idle, {c.requesting} requesting, {c.crossing} crossing, "
    ++ s!"{c.exiting} exiting)"

end NeighborCount

end Junction
