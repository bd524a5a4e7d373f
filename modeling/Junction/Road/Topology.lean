import Junction.Road.Lane
import Junction.Text.Quoted

/-! # Intersections

An intersection is a set of lanes and a relation between routes: two routes that conflict may not
be driven at the same time. A plan is what somebody declares about an intersection, lane by lane
and conflict by conflict, in any order and with repetitions; the topology is what the plan amounts
to. Every route conflicts with itself, whether that is declared or not.
-/

namespace Junction

/-- Why there is no topology. -/
inductive TopologyFault where
  /-- A conflict names a lane that is not declared. -/
  | unknownLane (lane : Lane)
  /-- A table lists a lane twice. -/
  | duplicateLane (lane : Lane)
  /-- The text is not a topology table. -/
  | malformedTable
  /-- The file that holds the table cannot be read. -/
  | unreadableFile (reason : String)
  deriving DecidableEq, Repr

namespace TopologyFault

def message : TopologyFault → String
  | unknownLane lane => s!"unknown lane {Text.quoted lane.name}"
  | duplicateLane lane => s!"duplicate lane {Text.quoted lane.name}"
  | malformedTable => "invalid topology table"
  | unreadableFile reason => s!"failed to read topology: {reason}"

end TopologyFault

/-- What is declared about an intersection. -/
structure Plan where
  name : String
  lanes : List Lane
  conflicts : List (Route × Route)
  deriving DecidableEq, Repr

/-- One step in declaring an intersection. -/
inductive Declaration where
  /-- There is a lane. -/
  | lane (lane : Lane)
  /-- There are several lanes. -/
  | lanes (lanes : List Lane)
  /-- Two routes conflict. -/
  | conflict (a b : Route)

namespace Plan

/-- The plan that declares nothing but a name. -/
def empty (name : String) : Plan := ⟨name, [], []⟩

def declare (plan : Plan) : Declaration → Plan
  | .lane lane => { plan with lanes := plan.lanes ++ [lane] }
  | .lanes lanes => { plan with lanes := plan.lanes ++ lanes }
  | .conflict a b => { plan with conflicts := plan.conflicts ++ [(a, b)] }

/-- The plan that a sequence of declarations makes. -/
def ofDeclarations (name : String) (steps : List Declaration) : Plan :=
  steps.foldl declare (empty name)

/-- The four lanes of two routes, in the order in which they are checked. -/
def lanesOf (pair : Route × Route) : List Lane :=
  [pair.1.entry, pair.1.exit, pair.2.entry, pair.2.exit]

/-- The first lane that a conflict names and that is not declared. -/
def unknownLane? (plan : Plan) : Option Lane :=
  (plan.conflicts.flatMap lanesOf).find? fun lane => !plan.lanes.contains lane

/-- The first item of a list that equals an earlier one. -/
def firstRepeat? : List Lane → List Lane → Option Lane
  | _, [] => none
  | seen, lane :: rest =>
    if seen.contains lane then some lane else firstRepeat? (lane :: seen) rest

/-- The first lane that is listed a second time. -/
def repeatedLane? (plan : Plan) : Option Lane := firstRepeat? [] plan.lanes

end Plan

/-- Lanes, and the pairs of distinct routes that conflict, each pair once and either way round. -/
structure Topology where
  name : String
  lanes : List Lane
  pairs : List (Route × Route)
  deriving DecidableEq, Repr

namespace Topology

/-- Whether a pair holds two routes, either way round. -/
def joins (a b : Route) (pair : Route × Route) : Bool :=
  (pair.1 == a && pair.2 == b) || (pair.1 == b && pair.2 == a)

/-- Whether two routes may not be driven at the same time. -/
def conflicts (t : Topology) (a b : Route) : Bool := a == b || t.pairs.any (joins a b)

/-- The same question, asked of the four lanes. -/
def conflictsLanes (t : Topology) (entryA exitA entryB exitB : Lane) : Bool :=
  t.conflicts ⟨entryA, exitA⟩ ⟨entryB, exitB⟩

def hasLane (t : Topology) (lane : Lane) : Bool := t.lanes.contains lane

def hasRoute (t : Topology) (r : Route) : Bool := t.hasLane r.entry && t.hasLane r.exit

/-- The number of pairs of distinct routes that conflict. -/
def conflictCount (t : Topology) : Nat := t.pairs.length

/-- Put a lane in its place among lanes in order, unless it is there. -/
def insertLane (lane : Lane) : List Lane → List Lane
  | [] => [lane]
  | l :: rest =>
    if lane = l then l :: rest
    else if lane.precedes l then lane :: l :: rest
    else l :: insertLane lane rest

/-- Add a pair of routes, unless it is there or would only say that a route conflicts with itself. -/
def insertPair (pairs : List (Route × Route)) (pair : Route × Route) : List (Route × Route) :=
  if pair.1 = pair.2 ∨ pairs.any (joins pair.1 pair.2) then pairs else pairs ++ [pair]

/-- Every route over the declared lanes, those that turn back included, lane in by lane in. -/
def routes (t : Topology) : List Route :=
  t.lanes.flatMap fun entry => t.lanes.map fun exit => ⟨entry, exit⟩

/-- The conflict relation as rows of ones and zeros over `routes`. -/
def matrix (t : Topology) : List String :=
  t.routes.map fun a => String.ofList (t.routes.map fun b => if t.conflicts a b then '1' else '0')

theorem joins_comm (a b : Route) (pair : Route × Route) : joins a b pair = joins b a pair :=
  Bool.or_comm _ _

theorem conflicts_comm (t : Topology) (a b : Route) : t.conflicts a b = t.conflicts b a := by
  have : joins a b = joins b a := funext (joins_comm a b)
  simp only [conflicts, this]
  congr 1
  exact Bool.eq_iff_iff.2 ⟨fun h => by simpa using (beq_iff_eq.1 h).symm,
    fun h => by simpa using (beq_iff_eq.1 h).symm⟩

theorem conflicts_self (t : Topology) (a : Route) : t.conflicts a a = true := by
  simp [conflicts]

end Topology

namespace Plan

/-- The lanes and conflicts of a plan, whether its conflicts name declared lanes or not. -/
def topology (plan : Plan) : Topology where
  name := plan.name
  lanes := plan.lanes.foldl (fun lanes lane => Topology.insertLane lane lanes) []
  pairs := plan.conflicts.foldl Topology.insertPair []

/-- The topology of a plan, whose conflicts have to name declared lanes. -/
def build (plan : Plan) : Except TopologyFault Topology :=
  match plan.unknownLane? with
  | some lane => .error (.unknownLane lane)
  | none => .ok plan.topology

/-- The topology of a table, which moreover may list no lane twice. -/
def buildTable (plan : Plan) : Except TopologyFault Topology :=
  match plan.repeatedLane? with
  | some lane => .error (.duplicateLane lane)
  | none => plan.build

end Plan

end Junction
