import Junction.Proofs.Simulation.Awareness
import Junction.Road.FourWay

/-! # How a simulation starts

Before a run all vehicles wait for their time, and nobody knows of anybody.
-/

namespace Junction

theorem SimulationSettings.reliable_of_immediate {s : SimulationSettings}
    (immediate : s.delivery = .immediate) (moves : 1 ≤ s.step.millis)
    (remembered : s.step.millis ≤ s.client.thresholdMs)
    (counted : s.horizon.millis + s.step.millis < 2 ^ 63) : s.Reliable ∧ s.gap = 0 := by
  have gap : s.gap = 0 := by simp [gap, immediate]
  have step : s.step.ms = s.step.millis := Duration.ms_of_millis_lt (by omega)
  have horizon := s.horizon.ms_le_millis
  refine ⟨⟨Or.inl immediate, fun h => absurd immediate h, ?_, ?_, ?_⟩, gap⟩ <;> omega

theorem Settings.minPeriod_le_maxPeriod {s : Settings} (valid : s.Valid) :
    s.minPeriod.nanos ≤ s.maxPeriod.nanos := by
  simp only [Settings.Valid, Settings.fault?] at valid
  split at valid
  · cases valid
  · split at valid
    · cases valid
    · next ordered => exact Nat.le_of_not_lt ordered

theorem Settings.minPeriod_ms_le {s : Settings} (valid : s.Valid)
    (fits : s.maxPeriod.millis < 2 ^ 64) : s.minPeriod.ms ≤ s.maxPeriod.ms := by
  have shortest := s.minPeriod.ms_le_millis
  have longest := Duration.ms_of_millis_lt fits
  have ordered : s.minPeriod.millis ≤ s.maxPeriod.millis :=
    Nat.div_le_div_right (minPeriod_le_maxPeriod valid)
  omega

theorem SimulationSettings.accepted {s : SimulationSettings} (valid : s.fault? = none) :
    s.step.isZero = false ∧ s.client.Valid := by
  simp only [fault?] at valid
  split at valid
  · cases valid
  · next moves =>
    refine ⟨Bool.eq_false_iff.mpr moves, ?_⟩
    split at valid
    · exact valid
    · split at valid
      · exact valid
      · cases valid

theorem SimulationSettings.reliable_of_periodic {s : SimulationSettings}
    (valid : s.fault? = none) (periodic : s.delivery = .periodic 0.0) (moves : 1 ≤ s.step.millis)
    (remembered : s.client.maxPeriod.millis + s.step.millis ≤ s.client.thresholdMs)
    (counted : s.horizon.millis + s.step.millis < 2 ^ 63) :
    s.Reliable ∧ s.gap = s.client.maxPeriod.millis := by
  have threshold : s.client.thresholdMs ≤ 2 ^ 64 - 1 := Nat.min_le_right _ _
  have period : s.client.maxPeriod.ms = s.client.maxPeriod.millis :=
    Duration.ms_of_millis_lt (by omega)
  have gap : s.gap = s.client.maxPeriod.millis := by simp [gap, periodic, period]
  have step : s.step.ms = s.step.millis := Duration.ms_of_millis_lt (by omega)
  have horizon := s.horizon.ms_le_millis
  have periods := Settings.minPeriod_ms_le (accepted valid).2 (by omega)
  refine ⟨⟨Or.inr periodic, fun _ => periods, ?_, ?_, ?_⟩, gap⟩ <;> omega

namespace Simulation

variable {settings : SimulationSettings} {topology : Topology} {sim fresh after : Simulation}

theorem run_ends_of_reliable (reliable : sim.settings.Reliable)
    (cycle : sim.settings.client.cycle.ms ≠ 0) :
    ∃ n final, ∀ limit, n ≤ limit → sim.run limit = .ok final := by
  have counted := reliable.counted
  have tells : sim.hasCycle = true := by simpa [hasCycle] using cycle
  exact run_ends reliable.moves (by omega) tells

/-- All vehicles wait for their time, and the clock has not moved. -/
structure Parked (sim : Simulation) : Prop where
  ascending : Roster.Ascending Participant.id sim.vehicles
  parked : ∀ p ∈ sim.vehicles, ∃ script, p = .parked script (sim.atRest script)
  now : sim.now = .zero

theorem eq_of_create (created : create settings topology = .ok fresh) :
    settings.fault? = none ∧ fresh.settings = settings ∧ fresh.topology = topology ∧
      fresh.Parked := by
  simp only [create] at created
  split at created
  · cases created
  · next valid =>
    injection created with eq
    subst eq
    refine ⟨valid, rfl, rfl, List.Pairwise.nil, ?_, rfl⟩
    intro p member
    cases member

def enrol (sim : Simulation) (script : Script) : Simulation :=
  { sim with
    vehicles := Roster.insert Participant.id (.parked script (sim.atRest script)) sim.vehicles }

theorem mem_enrol {script : Script}
    (absent : Roster.contains Participant.id script.id sim.vehicles = false) (p : Participant) :
    p ∈ (sim.enrol script).vehicles ↔
      p = .parked script (sim.atRest script) ∨ p ∈ sim.vehicles :=
  Roster.mem_insert_iff absent

theorem eq_enrol_of_addVehicle {script : Script} (added : sim.addVehicle script = .ok after) :
    Roster.contains Participant.id script.id sim.vehicles = false ∧ after = sim.enrol script := by
  unfold addVehicle at added
  split at added
  · cases added
  · next unknown =>
    split at added
    · cases added
    · split at added
      · cases added
      · next controller made =>
        obtain rfl := (Controller.eq_of_create made).1
        exact ⟨Bool.eq_false_iff.mpr unknown, (Except.ok.inj added).symm⟩

theorem parked_addVehicle (parked : sim.Parked) {script : Script}
    (added : sim.addVehicle script = .ok after) :
    after.settings = sim.settings ∧ after.topology = sim.topology ∧ after.Parked := by
  obtain ⟨-, rfl⟩ := eq_enrol_of_addVehicle added
  refine ⟨rfl, rfl, parked.ascending.insert, ?_, parked.now⟩
  intro p member
  rcases Roster.mem_insert member with rfl | old
  · exact ⟨script, rfl⟩
  · exact parked.parked p old

theorem parked_addScripts (parked : sim.Parked) {scripts : List Script}
    (added : sim.addScripts scripts = (after, none)) :
    after.settings = sim.settings ∧ after.topology = sim.topology ∧ after.Parked := by
  induction scripts generalizing sim with
  | nil =>
      obtain ⟨rfl, -⟩ := Prod.mk.inj added
      exact ⟨rfl, rfl, parked⟩
  | cons script rest ih =>
      unfold addScripts at added
      split at added
      · cases added
      · next between first =>
        obtain ⟨settings, topology, still⟩ := parked_addVehicle parked first
        obtain ⟨same, roads, last⟩ := ih still added
        exact ⟨same.trans settings, roads.trans topology, last⟩

/-- What a simulation is like whose vehicles were all taken. -/
theorem parked_of_added (created : create settings topology = .ok fresh) {scripts : List Script}
    (added : fresh.addScripts scripts = (sim, none)) :
    settings.fault? = none ∧ sim.settings = settings ∧ sim.topology = topology ∧ sim.Parked := by
  obtain ⟨valid, same, roads, parked⟩ := eq_of_create created
  obtain ⟨settings, topology, still⟩ := parked_addScripts parked added
  exact ⟨valid, settings.trans same, topology.trans roads, still⟩

theorem mem_scripts_addVehicle {script : Script} (added : sim.addVehicle script = .ok after)
    (s : Script) :
    s ∈ after.vehicles.map Participant.script ↔
      s = script ∨ s ∈ sim.vehicles.map Participant.script := by
  obtain ⟨absent, rfl⟩ := eq_enrol_of_addVehicle added
  simp only [List.mem_map, mem_enrol absent, or_and_right, exists_or, exists_eq_left]
  exact or_congr_left eq_comm

theorem mem_scripts_addScripts {scripts : List Script}
    (added : sim.addScripts scripts = (after, none)) (s : Script) :
    s ∈ after.vehicles.map Participant.script ↔
      s ∈ scripts ∨ s ∈ sim.vehicles.map Participant.script := by
  induction scripts generalizing sim with
  | nil =>
      obtain ⟨rfl, -⟩ := Prod.mk.inj added
      simp
  | cons script rest ih =>
      unfold addScripts at added
      split at added
      · cases added
      · next between first =>
        rw [ih added, mem_scripts_addVehicle first, List.mem_cons, or_assoc, or_left_comm]

theorem mem_scripts_of_added (created : create settings topology = .ok fresh)
    {scripts : List Script} (added : fresh.addScripts scripts = (sim, none)) (s : Script) :
    s ∈ sim.vehicles.map Participant.script ↔ s ∈ scripts := by
  rw [mem_scripts_addScripts added]
  simp only [create] at created
  split at created
  · cases created
  · injection created with eq
    subst eq
    simp

theorem Parked.informed (parked : sim.Parked) : sim.Informed [] := by
  refine ⟨parked.ascending, ?_, ?_, ?_, ?_, ?_, ?_, ?_⟩
  · intro p member
    obtain ⟨script, rfl⟩ := parked.parked p member
    rfl
  · intro p member
    obtain ⟨script, rfl⟩ := parked.parked p member
    rfl
  · intro p member
    obtain ⟨script, rfl⟩ := parked.parked p member
    refine .waiting rfl rfl ?_ ?_ rfl rfl rfl
    · simp only [Participant.parked, atRest, Controller.ofPolicy, Controller.status,
        Controller.firstBeacon]
      split <;> rfl
    · simp only [Participant.parked, atRest, Controller.ofPolicy, Controller.firstBeacon]
      split <;> rfl
  · intro p member
    obtain ⟨script, rfl⟩ := parked.parked p member
    exact Nat.zero_le _
  · intro p member
    obtain ⟨script, rfl⟩ := parked.parked p member
    exact .empty _
  · intro p member v _
    obtain ⟨script, rfl⟩ := parked.parked p member
    rfl
  · intro p hp q hq _
    obtain ⟨script, rfl⟩ := parked.parked p hp
    obtain ⟨script', rfl⟩ := parked.parked q hq
    exact ⟨fun _ => rfl, fun started => absurd rfl started⟩

theorem Parked.eachEntry (parked : sim.Parked) (related : Neighbor → Participant → Prop) :
    sim.EachEntry related := by
  intro a ha b hb distinct n found
  obtain ⟨script, rfl⟩ := parked.parked b hb
  have unheard := (parked.informed.knows a ha _ hb distinct).unheard rfl
  cases unheard.symm.trans found

def onFourWay (settings : SimulationSettings) : Simulation :=
  ⟨settings, Topology.fourWay, .zero, [], ⟨.ofSeed settings.seed, 0, 0⟩⟩

def fourWayWith (settings : SimulationSettings) (scripts : List Script) : Simulation :=
  ((onFourWay settings).addScripts scripts).1

/-- One vehicle straight on from each side of the crossing of two roads. -/
def rushHour (settings : SimulationSettings) : Simulation :=
  ((onFourWay settings).addScripts Scenario.rush.scripts).1

theorem create_onFourWay {settings : SimulationSettings} (valid : settings.fault? = none) :
    create settings Topology.fourWay = .ok (onFourWay settings) := by
  simp only [create, valid, onFourWay]

theorem addScripts_fourWayWith {settings : SimulationSettings} {scripts : List Script}
    (taken : ((onFourWay settings).addScripts scripts).2.isNone = true) :
    (onFourWay settings).addScripts scripts = (fourWayWith settings scripts, none) :=
  Prod.ext rfl (Option.isNone_iff_eq_none.mp taken)

theorem addScripts_rush {settings : SimulationSettings}
    (taken : ((onFourWay settings).addScripts Scenario.rush.scripts).2.isNone = true) :
    (onFourWay settings).addScripts Scenario.rush.scripts = (rushHour settings, none) :=
  addScripts_fourWayWith taken

theorem exists_run {sim : Simulation} {limit : Nat} {check : Simulation → Prop}
    [DecidablePred check]
    (ended : (sim.run limit).toOption.any (fun final => decide (check final)) = true) :
    ∃ final, sim.run limit = .ok final ∧ check final := by
  cases ran : sim.run limit with
  | error fault =>
      rw [ran] at ended
      cases ended
  | ok final =>
      rw [ran] at ended
      exact ⟨final, rfl, of_decide_eq_true ended⟩

end Simulation

end Junction
