import Junction.Proofs.RightOfWay.Admission
import Junction.Proofs.Simulation.Exclusion

/-! # Exclusion where all beacons arrive at once

Where every vehicle is heard by all others right after its turn, every table shows every vehicle as
it is. So the serial rule lets in one vehicle at a time, and the parallel rule no two that are in
each other's way.
-/

namespace Junction.Simulation

variable {start sim : Simulation} {done : List VehicleId} {p r : Participant}

/-- A vehicle that has set out is seen by all others as it is. -/
theorem Turning.sees (turning : start.Turning sim done p) (exact : sim.settings.gap = 0)
    (inside : r ∈ sim.vehicles) (other : r.id ≠ p.id) (started : r.startedAt ≠ none) :
    ∃ n ∈ (sim.question p).neighbors.neighbors, n.id = r.id ∧
      n.status = r.controller.status ∧ n.route = r.script.route := by
  obtain ⟨n, entry, same, tells⟩ :=
    turning.informed.exists_entry turning.member inside other started
  refine ⟨n, entry, same, ?_, tells.route⟩
  rw [Neighbor.status, tells.exact exact]
  rfl

theorem Turning.sees_inside (turning : start.Turning sim done p) (exact : sim.settings.gap = 0)
    (inside : r ∈ sim.vehicles) (other : r.id ≠ p.id) {t : Timestamp}
    (there : r.crossing = some ⟨t, none⟩) :
    ∃ n ∈ (sim.question p).neighbors.neighbors, n.status = .crossing ∧
      n.route = r.script.route ∧ n.id = r.id := by
  obtain ⟨started, -, status, -⟩ := (turning.informed.standing r inside).of_inside there
  obtain ⟨n, seen, same, told, route⟩ := turning.sees exact inside other started
  exact ⟨n, seen, told.trans status, route, same⟩

theorem Turning.letsIn_of_serial (turning : start.Turning sim done p)
    (reliable : start.settings.Reliable) (exact : start.settings.gap = 0)
    (serial : start.settings.client.protocol = .serial) :
    sim.LetsIn (fun _ _ => true) none p := by
  refine turning.letsIn reliable ?_
  intro s c _ admits _ _ r inside other _ t there
  have safe := admits.safe
  rw [answer, turning.settings, serial] at safe
  obtain ⟨n, seen, status, -⟩ :=
    turning.sees_inside (turning.settings ▸ exact) inside other there
  exact absurd status (RightOfWay.not_crossing_of_serial safe seen)

theorem Turning.letsIn_of_parallel (turning : start.Turning sim done p)
    (reliable : start.settings.Reliable) (exact : start.settings.gap = 0)
    (parallel : start.settings.client.protocol = .parallel) :
    sim.LetsIn start.topology.conflicts none p := by
  refine turning.letsIn reliable ?_
  intro s c _ admits _ _ r inside other bars t there
  have safe := admits.safe
  rw [answer, turning.settings, parallel] at safe
  obtain ⟨n, seen, status, route, -⟩ :=
    turning.sees_inside (turning.settings ▸ exact) inside other there
  have free := RightOfWay.not_clashing_of_parallel safe seen status
  rw [Evaluation.clashes, route, turning.topology] at free
  cases bars.symm.trans free

/-- Vehicles that hear all others at once are inside one after the other under the serial rule, and
    so are those in each other's way under the parallel rule. -/
theorem Reaches.inTurn_of_exact (reached : Reaches start sim) (parked : start.Parked)
    (reliable : start.settings.Reliable) (exact : start.settings.gap = 0) :
    (start.settings.client.protocol = .serial →
        sim.EachPair (VehicleReport.InTurn (fun _ _ => true) none)) ∧
      (start.settings.client.protocol = .parallel →
        sim.EachPair (VehicleReport.InTurn start.topology.conflicts none)) := by
  constructor
  · intro serial
    exact reached.inTurn_of_turns reliable parked (fun _ _ => rfl)
      (fun _ _ _ turning => turning.letsIn_of_serial reliable exact serial)
  · intro parallel
    exact reached.inTurn_of_turns reliable parked start.topology.conflicts_comm
      (fun _ _ _ turning => turning.letsIn_of_parallel reliable exact parallel)

/-- The serial rule and the parallel rule keep apart those in each other's way, whatever else is
    set, if every beacon arrives at once and the clock moves. Under the serial rule no two vehicles
    are inside together at all. Such a run ends if the cycle can be counted. -/
theorem exclusion_of_immediate {settings : SimulationSettings} {topology : Topology}
    {scripts : List Script} {fresh sim : Simulation}
    (created : create settings topology = .ok fresh)
    (added : fresh.addScripts scripts = (sim, none))
    (protocol : settings.client.protocol = .serial ∨ settings.client.protocol = .parallel)
    (delivery : settings.delivery = .immediate) (moves : 1 ≤ settings.step.millis)
    (remembered : settings.step.millis ≤ settings.client.thresholdMs)
    (counted : settings.horizon.millis + settings.step.millis < 2 ^ 63) :
    (settings.client.cycle.ms ≠ 0 →
        ∃ n final, ∀ limit, n ≤ limit → sim.run limit = .ok final) ∧
      ∀ limit final, sim.run limit = .ok final →
        final.report.violations = [] ∧
          (settings.client.protocol = .serial →
            ∀ a ∈ final.report.vehicles, ∀ b ∈ final.report.vehicles, a.id ≠ b.id →
              ∀ i j, a.crossing = some i → b.crossing = some j →
                ∀ cut, i.overlap? j cut = none) := by
  obtain ⟨-, rfl, rfl, parked⟩ := parked_of_added created added
  obtain ⟨reliable, exact⟩ :=
    SimulationSettings.reliable_of_immediate delivery moves remembered counted
  constructor
  · exact run_ends_of_reliable reliable
  · intro limit final ran
    have serial := fun last (reached : Reaches sim last) =>
      (reached.inTurn_of_exact parked reliable exact).1
    have parallel := fun last (reached : Reaches sim last) =>
      (reached.inTurn_of_exact parked reliable exact).2
    constructor
    · refine violations_eq_nil_of_run ran reliable parked none ?_
        (fun _ _ _ _ _ h => by cases h)
      intro last reached
      rcases protocol with one | many
      · intro a ha b hb distinct _
        exact serial last reached one a ha b hb distinct rfl
      · exact parallel last reached many
    · intro one a ha b hb distinct i j hi hj cut
      have apart := eachPair_of_run ran (fun last reached => serial last reached one)
      exact overlap?_eq_none_of_report apart ha hb distinct rfl hi hj cut

def serialAtOnce : SimulationSettings :=
  .standard { Settings.standard with protocol := .serial }

theorem exclusion_of_immediate_rushHour :
    create serialAtOnce Topology.fourWay = .ok (onFourWay serialAtOnce) ∧
      (onFourWay serialAtOnce).addScripts Scenario.rush.scripts = (rushHour serialAtOnce, none) ∧
      ((serialAtOnce.client.cycle.ms ≠ 0 →
          ∃ n final, ∀ limit, n ≤ limit → (rushHour serialAtOnce).run limit = .ok final) ∧
        ∀ limit final, (rushHour serialAtOnce).run limit = .ok final →
          final.report.violations = [] ∧
            (serialAtOnce.client.protocol = .serial →
              ∀ a ∈ final.report.vehicles, ∀ b ∈ final.report.vehicles, a.id ≠ b.id →
                ∀ i j, a.crossing = some i → b.crossing = some j →
                  ∀ cut, i.overlap? j cut = none)) := by
  have created : create serialAtOnce Topology.fourWay = .ok (onFourWay serialAtOnce) :=
    create_onFourWay rfl
  have added : (onFourWay serialAtOnce).addScripts Scenario.rush.scripts =
      (rushHour serialAtOnce, none) := addScripts_rush (by decide +kernel)
  exact ⟨created, added, exclusion_of_immediate created added (Or.inl rfl) rfl (by decide)
    (by decide) (by decide)⟩

end Junction.Simulation
