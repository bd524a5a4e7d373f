import Junction.Proofs.Simulation.Step

/-! # What the controllers take in a step

In its turn a vehicle hands its controller what the drive and the detector report, and then, in a
step that is the first of its cycle, a tick. Before and after that the controller takes the beacons
of others. So the inputs of a controller during a step are known but for these beacons, and among
them is one tick or none.
-/

namespace Junction

namespace Controller

/-- The instant of a tick. -/
def Input.tickTime? : Input → Option Timestamp
  | .tick now => some now
  | _ => none

def heardAt (now : Timestamp) (beacons : List Beacon) : List Input := beacons.map (.beacon · now)

theorem ticks_heardAt (now : Timestamp) (beacons : List Beacon) :
    (heardAt now beacons).filterMap Input.tickTime? = [] := by
  simp [heardAt, List.filterMap_map, Function.comp_def, Input.tickTime?]

theorem afterAll_append (c : Controller) (inputs others : List Input) :
    c.afterAll (inputs ++ others) = (c.afterAll inputs).afterAll others :=
  List.foldl_append

end Controller

namespace Participant

variable {p q r : Participant} {now : Timestamp}

/-- What is reported while a vehicle drives a distance. -/
def inputsOfMove (p : Participant) (metres : Float) (now : Timestamp) : List Controller.Input :=
  if 0.0 < metres then
    match p.stage with
    | .approaching remaining =>
      .progress metres :: if remaining - metres ≤ 0.0 then [.event .entering now] else []
    | .inside crossed => if p.script.distance ≤ crossed + metres then [.event .exiting now] else []
    | .parked | .done => []
  else []

/-- What is reported when a vehicle sets out. -/
def inputsOfStart (p : Participant) (now : Timestamp) : List Controller.Input :=
  match p.stage with
  | .parked => if p.script.start ≤ now then [.event .approaching now] else []
  | _ => []

/-- What a controller takes in the turn of its vehicle. -/
def inputs (p : Participant) (settings : SimulationSettings) (due : Bool) (now : Timestamp) :
    List Controller.Input :=
  p.inputsOfMove (p.reach settings.step.toSeconds) now ++ p.inputsOfStart now ++
    if due then [.tick now] else []

theorem controller_move (p : Participant) (metres : Float) (now : Timestamp) :
    (p.move metres now).controller = p.controller.afterAll (p.inputsOfMove metres now) := by
  unfold move inputsOfMove
  split
  · cases p.stage with
    | parked => rfl
    | approaching remaining =>
        simp only [approach]
        split <;> rfl
    | inside crossed =>
        simp only [cross]
        split <;> rfl
    | done => rfl
  · rfl

theorem controller_start (p : Participant) (distance : Float) (now : Timestamp) :
    (p.start distance now).controller = p.controller.afterAll (p.inputsOfStart now) := by
  unfold start inputsOfStart
  cases p.stage with
  | parked =>
      simp only
      split <;> rfl
  | approaching remaining => rfl
  | inside crossed => rfl
  | done => rfl

theorem controller_consult (p : Participant) (due : Bool) (now : Timestamp) :
    (p.consult due now).controller = p.controller.afterAll (if due then [.tick now] else []) := by
  cases due <;> rfl

theorem controller_mark (p : Participant) (now : Timestamp) :
    (p.mark now).controller = p.controller := by
  obtain ⟨crossing, marked⟩ := p.mark_frame now
  rw [marked]

/-- A vehicle that drives is not parked afterwards, so after a move it sets out as it would have
    before. -/
theorem inputsOfStart_move (p : Participant) (metres : Float) (now : Timestamp) :
    (p.move metres now).inputsOfStart now = p.inputsOfStart now := by
  unfold move
  split
  · cases stage : p.stage with
    | parked => rfl
    | approaching remaining =>
        simp only [approach]
        split <;> simp only [inputsOfStart, stage, detect]
    | inside crossed =>
        simp only [cross]
        split <;> simp only [inputsOfStart, stage, detect]
    | done => rfl
  · rfl

/-- The controller of a vehicle that acts takes its inputs, and nothing else. -/
theorem controller_act (p : Participant) (settings : SimulationSettings) (due : Bool)
    (now : Timestamp) :
    (p.act settings due now).controller = p.controller.afterAll (p.inputs settings due now) := by
  simp only [act, inputs, controller_mark, controller_consult, controller_start, controller_move,
    inputsOfStart_move, Controller.afterAll_append]

theorem ticks_inputsOfMove (p : Participant) (metres : Float) (now : Timestamp) :
    (p.inputsOfMove metres now).filterMap Controller.Input.tickTime? = [] := by
  unfold inputsOfMove
  split
  · cases p.stage with
    | parked => rfl
    | approaching remaining =>
        simp only
        split <;> rfl
    | inside crossed =>
        simp only
        split <;> rfl
    | done => rfl
  · rfl

theorem ticks_inputsOfStart (p : Participant) (now : Timestamp) :
    (p.inputsOfStart now).filterMap Controller.Input.tickTime? = [] := by
  unfold inputsOfStart
  split
  · split <;> rfl
  · rfl

theorem ticks_inputs (p : Participant) (settings : SimulationSettings) (due : Bool)
    (now : Timestamp) :
    (p.inputs settings due now).filterMap Controller.Input.tickTime? =
      if due then [now] else [] := by
  rw [inputs, List.filterMap_append, List.filterMap_append, ticks_inputsOfMove,
    ticks_inputsOfStart]
  cases due <;> rfl

theorem Alike.inputs (alike : p.Alike q) (settings : SimulationSettings) (due : Bool)
    (now : Timestamp) : q.inputs settings due now = p.inputs settings due now := by
  cases alike <;> rfl

theorem Alike.hear (alike : p.Alike q) (b : Beacon) (now : Timestamp) :
    p.Alike (q.hear b now) := by
  obtain ⟨table, heard⟩ := q.hear_frame b now
  rw [heard]
  exact alike.withTable table

theorem controller_hear (p : Participant) (b : Beacon) (now : Timestamp) :
    (p.hear b now).controller = p.controller.after (.beacon b now) := rfl

end Participant

namespace Simulation

variable {sim : Simulation} {p q r : Participant} {inputs : List Controller.Input}

/-- A vehicle has heard these beacons since the step began. -/
structure Heard (sim : Simulation) (p q : Participant) (beacons : List Beacon) : Prop where
  alike : p.Alike q
  controller : q.controller = p.controller.afterAll (Controller.heardAt sim.now beacons)

/-- In a step the vehicle `p` becomes `q`, and these are the inputs of its controller: beacons, what
    its own turn brings, and beacons again. -/
structure Takes (sim : Simulation) (p q : Participant) (inputs : List Controller.Input) : Prop where
  script : q.script = p.script
  split : ∃ before behind, inputs = Controller.heardAt sim.now before ++
    p.inputs sim.settings sim.isDue sim.now ++ Controller.heardAt sim.now behind
  controller : q.controller = p.controller.afterAll inputs

theorem Heard.hear {beacons : List Beacon} (heard : sim.Heard p q beacons) (b : Beacon) :
    sim.Heard p (q.hear b sim.now) (beacons ++ [b]) := by
  refine ⟨heard.alike.hear b sim.now, ?_⟩
  rw [Participant.controller_hear, heard.controller, Controller.heardAt, Controller.heardAt,
    List.map_append, Controller.afterAll_append]
  rfl

theorem Heard.act {beacons : List Beacon} (heard : sim.Heard p q beacons)
    (script : r.script = p.script)
    (acted : r.controller = (q.act sim.settings sim.isDue sim.now).controller) :
    ∃ inputs, sim.Takes p r inputs := by
  refine ⟨_, script, ⟨beacons, [], rfl⟩, ?_⟩
  rw [acted, Participant.controller_act, heard.alike.inputs, heard.controller,
    ← Controller.afterAll_append]
  simp [Controller.heardAt]

theorem Takes.hear (takes : sim.Takes p q inputs) (b : Beacon) :
    sim.Takes p (q.hear b sim.now) (inputs ++ Controller.heardAt sim.now [b]) := by
  obtain ⟨script, ⟨before, behind, split⟩, controller⟩ := takes
  refine ⟨script, ⟨before, behind ++ [b], ?_⟩, ?_⟩
  · simp [split, Controller.heardAt]
  · rw [Participant.controller_hear, controller, Controller.afterAll_append]
    rfl

/-- In a step every vehicle has its turn, and its controller takes the inputs of that turn. -/
theorem exists_takes (ascending : Roster.Ascending Participant.id sim.vehicles)
    (member : p ∈ sim.vehicles) : ∃ q ∈ sim.step.vehicles, ∃ inputs, sim.Takes p q inputs := by
  refine exists_served ascending (fun p q => ∃ beacons, sim.Heard p q beacons)
    (fun p q => ∃ inputs, sim.Takes p q inputs) ?_ ?_ ?_ ?_ ?_ member
  · exact fun p => ⟨[], .refl p, rfl⟩
  · rintro p q b ⟨beacons, heard⟩
    exact ⟨_, heard.hear b⟩
  · rintro p q r ⟨beacons, heard⟩ become
    have script := become.script.trans (q.script_act _ _ _)
    exact heard.act (script.trans heard.alike.script) (by cases become <;> rfl)
  · rintro p q b ⟨inputs, takes⟩
    exact ⟨_, takes.hear b⟩
  · rintro p q ⟨inputs, takes⟩
    exact takes.script

theorem Takes.ticks (takes : sim.Takes p q inputs) :
    inputs.filterMap Controller.Input.tickTime? = if sim.isDue then [sim.now] else [] := by
  obtain ⟨before, behind, split⟩ := takes.split
  rw [split, List.filterMap_append, List.filterMap_append, Controller.ticks_heardAt,
    Controller.ticks_heardAt, Participant.ticks_inputs, List.nil_append, List.append_nil]

/-- The controllers of all vehicles take these ticks in a step, and no others. -/
def Ticks (sim : Simulation) (ticks : List Timestamp) : Prop :=
  ∀ p ∈ sim.vehicles, ∃ q ∈ sim.step.vehicles, ∃ inputs, sim.Takes p q inputs ∧
    inputs.filterMap Controller.Input.tickTime? = ticks

theorem ticks_of_ascending (ascending : Roster.Ascending Participant.id sim.vehicles) :
    sim.Ticks (if sim.isDue then [sim.now] else []) := by
  intro p member
  obtain ⟨q, there, inputs, takes⟩ := exists_takes ascending member
  exact ⟨q, there, inputs, takes, takes.ticks⟩

end Simulation

end Junction
