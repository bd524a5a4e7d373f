import Junction.Record.Vehicle
import Junction.Road.Topology

/-! # Topology tables

The written form of an intersection: its name, its lanes, and for each pair of conflicting routes
the four lanes.
-/

namespace Junction.Record

open Json Decoder

/-- A pair of routes is the list of their four lanes. -/
def routePair : Decoder (Route × Route) := fun v => do
  match ← list lane v with
  | [entryA, exitA, entryB, exitB] => some (⟨entryA, exitA⟩, ⟨entryB, exitB⟩)
  | _ => none

def plan : Decoder Plan := fun v => do
  let f ← fields? ["name", "lanes", "conflicts"] 0 v
  some ⟨← f.get "name" string, ← f.get "lanes" (list lane), ← f.get "conflicts" (list routePair)⟩

def topologyOfText (text : String) : Except TopologyFault Topology :=
  match (Value.ofString? text).bind plan with
  | some plan => plan.buildTable
  | none => .error .malformedTable

end Junction.Record
