import Junction.Proofs.Simulation.Setup
import Junction.Proofs.Simulation.Step

/-! # Which vehicles a simulation takes

A vehicle is taken if its identifier is new, both ends of its route are lanes of the crossing, and
the route does not turn back. Nothing else can be wrong with it: the settings of all vehicles were
checked with the simulation, and of these only the identifier and the route are its own. What is not
taken leaves the simulation as it was, and so a list of scripts is taken up to the first that is
refused. The vehicles are kept in the order of their identifiers, and the order of the list is lost.
-/

namespace Junction

theorem Settings.fault?_of_valid {s : Settings} (valid : s.Valid) (id : VehicleId) (route : Route) :
    ({ s with id, route } : Settings).fault? =
      if route.isUTurn then some (.uTurn route) else none := by
  have exact : ({ s with id, route } : Settings).hasExactThreshold = s.hasExactThreshold := rfl
  simp only [Valid, fault?] at valid
  simp only [fault?, exact]
  grind

namespace Simulation

variable {settings : SimulationSettings} {topology : Topology} {fresh sim after : Simulation}
  {script : Script} {scripts : List Script} {fault : SettingsFault}

/-- The script is for a vehicle that is not there yet, on a route of the crossing. -/
structure Admits (sim : Simulation) (script : Script) : Prop where
  unknown : ∀ p ∈ sim.vehicles, p.id ≠ script.id
  entry : script.route.entry ∈ sim.topology.lanes
  exit : script.route.exit ∈ sim.topology.lanes
  turns : script.route.entry ≠ script.route.exit

theorem contains_eq_false_iff {v : VehicleId} :
    Roster.contains Participant.id v sim.vehicles = false ↔ ∀ p ∈ sim.vehicles, p.id ≠ v := by
  simp [Roster.contains]

theorem create_clientOf (valid : sim.settings.client.Valid) (script : Script) :
    Controller.create (sim.clientOf script) sim.topology.conflicts =
      if script.route.isUTurn then .error (.uTurn script.route) else .ok (sim.atRest script) := by
  simp only [Controller.create, clientOf, Settings.fault?_of_valid valid]
  cases script.route.isUTurn <;> rfl

theorem Admits.absent (admits : sim.Admits script) :
    Roster.contains Participant.id script.id sim.vehicles = false :=
  contains_eq_false_iff.mpr admits.unknown

/-- What is checked when a vehicle is added, and in which order. -/
theorem addVehicle_eq (valid : sim.settings.client.Valid) (script : Script) :
    sim.addVehicle script =
      if Roster.contains Participant.id script.id sim.vehicles then
        .error (.duplicateVehicle script.id)
      else if !sim.topology.hasRoute script.route then
        .error (.foreignRoute script.route sim.topology.name)
      else if script.route.isUTurn then .error (.uTurn script.route)
      else .ok (sim.enrol script) := by
  unfold addVehicle
  split
  · rfl
  · split
    · rfl
    · rw [create_clientOf valid]
      cases script.route.isUTurn <;> rfl

theorem addVehicle_eq_ok_iff (valid : sim.settings.client.Valid) :
    sim.addVehicle script = .ok after ↔ sim.Admits script ∧ after = sim.enrol script := by
  rw [addVehicle_eq valid]
  constructor
  · intro added
    split at added
    · cases added
    · next unknown =>
      split at added
      · cases added
      · next known =>
        split at added
        · cases added
        · next turns =>
          simp only [Topology.hasRoute, Topology.hasLane, Bool.not_eq_true', Bool.not_eq_false,
            Bool.and_eq_true, List.contains_iff_mem] at known
          refine ⟨⟨?_, known.1, known.2, ?_⟩, (Except.ok.inj added).symm⟩
          · exact contains_eq_false_iff.mp (Bool.eq_false_iff.mpr unknown)
          · simpa [Route.isUTurn] using turns
  · rintro ⟨admits, rfl⟩
    have known : sim.topology.hasRoute script.route = true := by
      simp [Topology.hasRoute, Topology.hasLane, admits.entry, admits.exit]
    have straight : script.route.isUTurn = false := by simpa [Route.isUTurn] using admits.turns
    simp only [admits.absent, known, straight, Bool.not_true, Bool.false_eq_true, if_false]

theorem addScripts_eq_none_iff :
    sim.addScripts scripts = (after, none) ↔ scripts.foldlM addVehicle sim = .ok after := by
  induction scripts generalizing sim with
  | nil =>
      rw [addScripts, List.foldlM_nil, Prod.mk.injEq]
      exact ⟨fun h => congrArg Except.ok h.1, fun h => ⟨Except.ok.inj h, rfl⟩⟩
  | cons script rest ih =>
      rw [addScripts, List.foldlM_cons]
      cases sim.addVehicle script with
      | error fault => exact ⟨nofun, nofun⟩
      | ok between => exact ih

/-- A simulation that refuses a list of scripts has taken those before the first that it refuses. -/
theorem addScripts_eq_some_iff :
    sim.addScripts scripts = (after, some fault) ↔
      ∃ before script behind, scripts = before ++ script :: behind ∧
        before.foldlM addVehicle sim = .ok after ∧ after.addVehicle script = .error fault := by
  induction scripts generalizing sim with
  | nil => simp [addScripts]
  | cons script rest ih =>
      rw [addScripts]
      constructor
      · intro refused
        cases added : sim.addVehicle script with
        | error own =>
            rw [added] at refused
            obtain ⟨rfl, same⟩ := Prod.mk.inj refused
            obtain rfl := Option.some.inj same
            exact ⟨[], script, rest, rfl, rfl, added⟩
        | ok between =>
            rw [added] at refused
            obtain ⟨before, last, behind, rfl, taken, stopped⟩ := ih.mp refused
            refine ⟨script :: before, last, behind, rfl, ?_, stopped⟩
            rw [List.foldlM_cons, added]
            exact taken
      · rintro ⟨before, last, behind, split, taken, stopped⟩
        cases before with
        | nil =>
            obtain ⟨rfl, rfl⟩ := List.cons.inj split
            obtain rfl := Except.ok.inj taken
            rw [stopped]
        | cons first more =>
            obtain ⟨rfl, rfl⟩ := List.cons.inj split
            rw [List.foldlM_cons] at taken
            cases added : sim.addVehicle script with
            | error own =>
                rw [added] at taken
                cases taken
            | ok between =>
                rw [added] at taken
                exact ih.mpr ⟨more, last, behind, rfl, taken, stopped⟩

/-- The simulation has got a waiting vehicle for each of these scripts, and nothing else is new. -/
structure Enrols (sim : Simulation) (scripts : List Script) (after : Simulation) : Prop where
  frame : ∃ vehicles, after = { sim with vehicles }
  ascending : Roster.Ascending Participant.id after.vehicles
  members : ∀ p, p ∈ after.vehicles ↔
    p ∈ sim.vehicles ∨ ∃ s ∈ scripts, p = .parked s (sim.atRest s)

theorem atRest_enrol (sim : Simulation) (script other : Script) :
    (sim.enrol script).atRest other = sim.atRest other := rfl

theorem enrols_of_foldlM (valid : sim.settings.client.Valid)
    (ascending : Roster.Ascending Participant.id sim.vehicles)
    (taken : scripts.foldlM addVehicle sim = .ok after) : sim.Enrols scripts after := by
  induction scripts generalizing sim with
  | nil =>
      obtain rfl := Except.ok.inj taken
      exact ⟨⟨_, rfl⟩, ascending, by simp⟩
  | cons script rest ih =>
      rw [List.foldlM_cons] at taken
      cases added : sim.addVehicle script with
      | error fault =>
          rw [added] at taken
          cases taken
      | ok between =>
          rw [added] at taken
          obtain ⟨admits, rfl⟩ := (addVehicle_eq_ok_iff valid).mp added
          obtain ⟨⟨vehicles, rfl⟩, order, members⟩ :=
            @ih (sim.enrol script) valid ascending.insert taken
          refine ⟨⟨vehicles, rfl⟩, order, ?_⟩
          intro p
          rw [members p, mem_enrol admits.absent]
          simp only [atRest_enrol, List.mem_cons, exists_eq_or_imp]
          rw [or_comm (a := p = _), or_assoc]

/-- After one more vehicle the others are taken as before, but for one with the same identifier. -/
theorem admits_enrol_iff (admits : sim.Admits script) {other : Script} :
    (sim.enrol script).Admits other ↔ sim.Admits other ∧ script.id ≠ other.id := by
  constructor
  · rintro ⟨unknown, entry, exit, turns⟩
    refine ⟨⟨?_, entry, exit, turns⟩, ?_⟩
    · intro p member
      exact unknown p ((mem_enrol admits.absent p).mpr (Or.inr member))
    · exact unknown _ ((mem_enrol admits.absent _).mpr (Or.inl rfl))
  · rintro ⟨⟨unknown, entry, exit, turns⟩, apart⟩
    refine ⟨?_, entry, exit, turns⟩
    intro p member
    obtain rfl | old := (mem_enrol admits.absent p).mp member
    · exact apart
    · exact unknown p old

theorem exists_foldlM_iff (valid : sim.settings.client.Valid) :
    (∃ after, scripts.foldlM addVehicle sim = .ok after) ↔
      (scripts.map Script.id).Nodup ∧ ∀ s ∈ scripts, sim.Admits s := by
  induction scripts generalizing sim with
  | nil => exact ⟨fun _ => ⟨.nil, nofun⟩, fun _ => ⟨sim, rfl⟩⟩
  | cons script rest ih =>
      rw [List.map_cons, List.nodup_cons, List.forall_mem_cons, List.foldlM_cons]
      constructor
      · rintro ⟨after, taken⟩
        cases added : sim.addVehicle script with
        | error fault =>
            rw [added] at taken
            cases taken
        | ok between =>
            rw [added] at taken
            obtain ⟨admits, rfl⟩ := (addVehicle_eq_ok_iff valid).mp added
            obtain ⟨distinct, each⟩ := (@ih (sim.enrol script) valid).mp ⟨after, taken⟩
            refine ⟨⟨?_, distinct⟩, admits, ?_⟩
            · intro twice
              obtain ⟨s, later, same⟩ := List.mem_map.mp twice
              exact ((admits_enrol_iff admits).mp (each s later)).2 same.symm
            · intro s later
              exact ((admits_enrol_iff admits).mp (each s later)).1
      · rintro ⟨⟨once, distinct⟩, admits, each⟩
        rw [(addVehicle_eq_ok_iff valid).mpr ⟨admits, rfl⟩]
        apply (@ih (sim.enrol script) valid).mpr ⟨distinct, ?_⟩
        intro s later
        apply (admits_enrol_iff admits).mpr ⟨each s later, ?_⟩
        intro same
        exact once (List.mem_map.mpr ⟨s, later, same.symm⟩)

/-- The states that a simulation can come to by taking vehicles, steps and runs. -/
inductive Attains (fresh : Simulation) : Simulation → Prop where
  | fresh : Attains fresh fresh
  | addVehicle {sim after : Simulation} {script : Script} (before : Attains fresh sim)
      (added : sim.addVehicle script = .ok after) : Attains fresh after
  | addScenario {sim : Simulation} (before : Attains fresh sim) (scenario : Scenario) :
      Attains fresh (sim.addScenario scenario).1
  | step {sim : Simulation} (before : Attains fresh sim) : Attains fresh sim.step
  | run {sim final : Simulation} {limit : Nat} (before : Attains fresh sim)
      (ran : sim.run limit = .ok final) : Attains fresh final

/-- The settings and the crossing are those of another simulation, and the vehicles are in order. -/
structure Orderly (fresh sim : Simulation) : Prop where
  settings : sim.settings = fresh.settings
  topology : sim.topology = fresh.topology
  ascending : Roster.Ascending Participant.id sim.vehicles

namespace Orderly

theorem enrols (orderly : fresh.Orderly sim) (enrols : sim.Enrols scripts after) :
    fresh.Orderly after := by
  obtain ⟨⟨vehicles, rfl⟩, order, -⟩ := enrols
  exact ⟨orderly.settings, orderly.topology, order⟩

theorem foldlM (orderly : fresh.Orderly sim) (valid : fresh.settings.client.Valid)
    (taken : scripts.foldlM addVehicle sim = .ok after) : fresh.Orderly after := by
  rw [← orderly.settings] at valid
  exact orderly.enrols (enrols_of_foldlM valid orderly.ascending taken)

theorem addScripts (orderly : fresh.Orderly sim) (valid : fresh.settings.client.Valid)
    (scripts : List Script) : fresh.Orderly (sim.addScripts scripts).1 := by
  cases added : sim.addScripts scripts with
  | mk after fault? =>
      cases fault? with
      | none => exact orderly.foldlM valid (addScripts_eq_none_iff.mp added)
      | some fault =>
          obtain ⟨before, script, behind, -, taken, -⟩ := addScripts_eq_some_iff.mp added
          exact orderly.foldlM valid taken

theorem reaches (orderly : fresh.Orderly sim) (reached : Reaches sim after) :
    fresh.Orderly after :=
  ⟨reached.settings.trans orderly.settings, reached.topology.trans orderly.topology,
    reached.ascending orderly.ascending⟩

end Orderly

theorem Attains.orderly (attained : fresh.Attains sim) (valid : fresh.settings.client.Valid)
    (order : Roster.Ascending Participant.id fresh.vehicles) : fresh.Orderly sim := by
  induction attained with
  | fresh => exact ⟨rfl, rfl, order⟩
  | @addVehicle sim after script before added ih =>
      have taken : [script].foldlM Simulation.addVehicle sim = .ok after := by
        rw [List.foldlM_cons, added]
        rfl
      exact ih.foldlM valid taken
  | addScenario before scenario ih => exact ih.addScripts valid scenario.scripts
  | step before ih =>
      exact ⟨(settings_step _).trans ih.settings, (topology_step _).trans ih.topology,
        ascending_of_scripts ih.ascending (step_acted ih.ascending).1⟩
  | run before ran ih =>
      obtain ⟨last, reached, rfl | rfl⟩ := last_of_run ran
      · exact ih.reaches reached
      · have moved := ih.reaches reached
        exact ⟨moved.settings, moved.topology, moved.ascending⟩

/-- At any time the vehicles are in the order of their identifiers, and a vehicle is added exactly
    if its identifier is new and its route is one of the crossing. What is refused changes nothing.
    A scenario is added script by script up to the first that is refused, and what has been added is
    a waiting vehicle for each script before it. -/
theorem enrolment_of_attained (created : create settings topology = .ok fresh)
    (attained : fresh.Attains sim) :
    Roster.Ascending Participant.id sim.vehicles ∧
      (∀ script, (∃ after, sim.addVehicle script = .ok after) ↔
        (∀ p ∈ sim.vehicles, p.id ≠ script.id) ∧ script.route.entry ∈ topology.lanes ∧
          script.route.exit ∈ topology.lanes ∧ script.route.entry ≠ script.route.exit) ∧
      (∀ script fault, sim.addVehicle script = .error fault →
        sim.addScenario ⟨[script]⟩ = (sim, some fault)) ∧
      (∀ scripts after, sim.addScenario ⟨scripts⟩ = (after, none) ↔
        scripts.foldlM addVehicle sim = .ok after) ∧
      (∀ scripts after fault, sim.addScenario ⟨scripts⟩ = (after, some fault) ↔
        ∃ before script behind, scripts = before ++ script :: behind ∧
          before.foldlM addVehicle sim = .ok after ∧ after.addVehicle script = .error fault) ∧
      ∀ scripts after, scripts.foldlM addVehicle sim = .ok after → sim.Enrols scripts after := by
  obtain ⟨accepted, rfl, rfl, parked⟩ := eq_of_create created
  have valid := (SimulationSettings.accepted accepted).2
  obtain ⟨same, roads, order⟩ := attained.orderly valid parked.ascending
  rw [← same] at valid
  refine ⟨order, ?_, ?_, fun _ _ => addScripts_eq_none_iff, fun _ _ _ => addScripts_eq_some_iff,
    fun _ _ => enrols_of_foldlM valid order⟩
  · intro script
    rw [← roads]
    constructor
    · rintro ⟨after, added⟩
      obtain ⟨⟨unknown, entry, exit, turns⟩, -⟩ := (addVehicle_eq_ok_iff valid).mp added
      exact ⟨unknown, entry, exit, turns⟩
    · rintro ⟨unknown, entry, exit, turns⟩
      exact ⟨_, (addVehicle_eq_ok_iff valid).mpr ⟨⟨unknown, entry, exit, turns⟩, rfl⟩⟩
  · intro script fault refused
    exact addScripts_eq_some_iff.mpr ⟨[], script, [], rfl, rfl, refused⟩

/-- A fifth of a second as usual. -/
def shortly : SimulationSettings :=
  { SimulationSettings.standard .standard with horizon := .ofMillis 200 }

def latecomer (id : UInt8) (entry exit : String) : Script :=
  ⟨⟨id⟩, ⟨⟨entry⟩, ⟨exit⟩⟩, .zero, usualDistance⟩

theorem enrolment_of_attained_rushHour :
    ∃ final, (onFourWay shortly).Attains final ∧
      Roster.Ascending Participant.id final.vehicles ∧
      (∃ after, final.addVehicle (latecomer 15 "N" "W") = .ok after) ∧
      ¬(∃ after, final.addVehicle (latecomer 11 "N" "W") = .ok after) ∧
      ¬(∃ after, final.addVehicle (latecomer 15 "N" "X") = .ok after) ∧
      ¬(∃ after, final.addVehicle (latecomer 15 "N" "N") = .ok after) := by
  have created : create shortly Topology.fourWay = .ok (onFourWay shortly) := create_onFourWay rfl
  have ended : ∃ final, (rushHour shortly).run 5 = .ok final ∧
      (∀ p ∈ final.vehicles, p.id ≠ ⟨15⟩) ∧ ∃ p ∈ final.vehicles, p.id = ⟨11⟩ :=
    exists_run (by decide +kernel)
  obtain ⟨final, ran, free, taken⟩ := ended
  have attained : (onFourWay shortly).Attains final :=
    (Attains.fresh.addScenario Scenario.rush).run ran
  obtain ⟨order, admits, -⟩ := enrolment_of_attained created attained
  refine ⟨final, attained, order, ?_, ?_, ?_, ?_⟩
  · exact (admits _).mpr ⟨free, by decide, by decide, by decide⟩
  · rw [admits]
    rintro ⟨unknown, -⟩
    obtain ⟨p, member, same⟩ := taken
    exact unknown p member same
  · rw [admits]
    rintro ⟨-, -, exit, -⟩
    exact absurd exit (by decide)
  · rw [admits]
    rintro ⟨-, -, -, turns⟩
    exact turns rfl

theorem foldlM_addVehicle_of_perm (valid : sim.settings.client.Valid)
    (ascending : Roster.Ascending Participant.id sim.vehicles) {listed : List Script}
    (perm : scripts.Perm listed) (taken : scripts.foldlM addVehicle sim = .ok after) :
    listed.foldlM addVehicle sim = .ok after := by
  obtain ⟨distinct, each⟩ := (exists_foldlM_iff valid).mp ⟨after, taken⟩
  have accepted : ∃ other, listed.foldlM addVehicle sim = .ok other :=
    (exists_foldlM_iff valid).mpr
      ⟨(perm.map Script.id).nodup distinct, fun s member => each s (perm.mem_iff.mpr member)⟩
  obtain ⟨other, others⟩ := accepted
  obtain ⟨⟨vehicles, rfl⟩, order, members⟩ := enrols_of_foldlM valid ascending taken
  obtain ⟨⟨replaced, rfl⟩, sorted, same⟩ := enrols_of_foldlM valid ascending others
  -- both rosters are in order and hold a waiting vehicle for each script, so they are one
  obtain rfl : vehicles = replaced := by
    apply order.eq_of_mem_iff sorted
    intro p
    rw [members p, same p]
    simp only [perm.mem_iff]
  exact others

/-- The order in which vehicles are listed is of no account: with the same scripts in any order, as
    many steps make the same report. -/
theorem report_eq_of_perm (created : create settings topology = .ok fresh) {listed : List Script}
    (perm : scripts.Perm listed) (added : fresh.addScripts scripts = (sim, none)) :
    ∃ other, fresh.addScripts listed = (other, none) ∧
      ∀ limit, (other.run limit).map report = (sim.run limit).map report := by
  obtain ⟨accepted, rfl, rfl, parked⟩ := eq_of_create created
  have valid := (SimulationSettings.accepted accepted).2
  have taken := addScripts_eq_none_iff.mp added
  have others := foldlM_addVehicle_of_perm valid parked.ascending perm taken
  exact ⟨sim, addScripts_eq_none_iff.mpr others, fun _ => rfl⟩

/-- Vehicles that send at intervals, three copies in ten being lost. -/
def lossyAir : SimulationSettings :=
  { SimulationSettings.standard .standard with delivery := .periodic 0.3 }

theorem report_eq_of_perm_rushHour :
    (onFourWay lossyAir).addScripts Scenario.rush.scripts = (rushHour lossyAir, none) ∧
      ∃ other, (onFourWay lossyAir).addScripts Scenario.rush.scripts.reverse = (other, none) ∧
        ∀ limit, (other.run limit).map report = ((rushHour lossyAir).run limit).map report := by
  have created : create lossyAir Topology.fourWay = .ok (onFourWay lossyAir) :=
    create_onFourWay (by decide +kernel)
  have added : (onFourWay lossyAir).addScripts Scenario.rush.scripts = (rushHour lossyAir, none) :=
    addScripts_rush (by decide +kernel)
  exact ⟨added, report_eq_of_perm created Scenario.rush.scripts.reverse_perm.symm added⟩

end Simulation

end Junction
