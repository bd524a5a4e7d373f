import Junction.Proofs.Simulation.Setup
import Junction.Proofs.Simulation.Step

/-! # Beacons in every step

Where the time between two beacons of a vehicle is no longer than a step, every vehicle that has set
out sends at every turn, as if all beacons arrived at once. The random numbers that are drawn and the
times that are planned differ then, but nothing else hangs on these. So two simulations that differ
in their delivery in this way go on side by side, and end with the same report.
-/

namespace Junction

namespace SimulationSettings

variable {s : SimulationSettings} {delivery : Delivery}

def under (s : SimulationSettings) (delivery : Delivery) : SimulationSettings := { s with delivery }

end SimulationSettings

namespace Simulation

variable {settings : SimulationSettings} {topology : Topology} {sim fresh after : Simulation}
  {delivery : Delivery}

def under (sim : Simulation) (delivery : Delivery) : Simulation :=
  { sim with settings := sim.settings.under delivery }

end Simulation

namespace Participant

variable (p : Participant) (now : Timestamp)

/-- The vehicle as it is where it need not plan when to send. -/
def unplanned : Participant := { p with nextBeacon := .zero }

theorem unplanned_approach (remaining metres : Float) :
    (p.approach remaining metres now).unplanned = p.unplanned.approach remaining metres now :=
  apply_ite unplanned _ _ _

theorem unplanned_cross (crossed metres : Float) :
    (p.cross crossed metres now).unplanned = p.unplanned.cross crossed metres now :=
  apply_ite unplanned _ _ _

theorem unplanned_move (metres : Float) :
    (p.move metres now).unplanned = p.unplanned.move metres now := by
  have stage : p.unplanned.stage = p.stage := rfl
  simp only [move, stage]
  split
  · split
    · exact p.unplanned_approach now _ metres
    · exact p.unplanned_cross now _ metres
    · rfl
    · rfl
  · rfl

theorem unplanned_start (distance : Float) :
    (p.start distance now).unplanned = p.unplanned.start distance now := by
  have stage : p.unplanned.stage = p.stage := rfl
  simp only [start, stage]
  split
  · exact apply_ite unplanned _ _ _
  · rfl

theorem unplanned_consult (due : Bool) :
    (p.consult due now).unplanned = p.unplanned.consult due now := by
  cases due <;> rfl

theorem unplanned_mark : (p.mark now).unplanned = p.unplanned.mark now := apply_ite unplanned _ _ _

theorem unplanned_act (settings : SimulationSettings) (delivery : Delivery) (due : Bool) :
    (p.act settings due now).unplanned = p.unplanned.act (settings.under delivery) due now := by
  simp only [act, unplanned_mark, unplanned_consult, unplanned_start, unplanned_move]
  rfl

end Participant

/-- Copies of a beacon are counted alike, and none is lost, whatever is planned. -/
theorem Air.deliver_unplanned (b : Beacon) (sender : VehicleId) (now : Timestamp)
    (vehicles : List Participant) {air other : Air} (sent : other.sent = air.sent)
    (lost : other.lost = air.lost) :
    (deliver 0.0 b sender now (vehicles.map Participant.unplanned) other).1 =
        (deliver 0.0 b sender now vehicles air).1.map Participant.unplanned ∧
      (deliver 0.0 b sender now (vehicles.map Participant.unplanned) other).2.sent =
        (deliver 0.0 b sender now vehicles air).2.sent ∧
      (deliver 0.0 b sender now (vehicles.map Participant.unplanned) other).2.lost =
        (deliver 0.0 b sender now vehicles air).2.lost := by
  have never : ¬(0.0 : Float) < 0.0 := by decide
  induction vehicles generalizing air other with
  | nil => exact ⟨rfl, sent, lost⟩
  | cons p rest ih =>
      have id : p.unplanned.id = p.id := rfl
      simp only [List.map_cons, deliver, id]
      split
      · obtain ⟨vehicles, sent, lost⟩ := ih sent lost
        exact ⟨congrArg (p.unplanned :: ·) vehicles, sent, lost⟩
      · simp only [copy, if_neg never]
        obtain ⟨vehicles, sent, lost⟩ := @ih { air with sent := air.sent + 1 }
          { other with sent := other.sent + 1 } (congrArg (· + 1) sent) lost
        exact ⟨congrArg (p.unplanned.hear b now :: ·) vehicles, sent, lost⟩

namespace Simulation

/-- The second simulation is where the first is, without its plans, and delivers at once. -/
structure Mirrors (a b : Simulation) : Prop where
  settings : b.settings = a.settings.under .immediate
  topology : b.topology = a.topology
  now : b.now = a.now
  vehicles : b.vehicles = a.vehicles.map Participant.unplanned
  sent : b.air.sent = a.air.sent
  lost : b.air.lost = a.air.lost

namespace Mirrors

variable {a b : Simulation} {v : VehicleId} {p : Participant}

theorem modify (mirrors : a.Mirrors b) {f g : Participant → Participant}
    (same : ∀ p, (f p).unplanned = g p.unplanned) : (a.modify v f).Mirrors (b.modify v g) := by
  refine ⟨mirrors.settings, mirrors.topology, mirrors.now, ?_, mirrors.sent, mirrors.lost⟩
  simp only [Simulation.modify, mirrors.vehicles, List.map_map]
  apply List.map_congr_left
  intro p _
  simp only [Function.comp_apply, apply_ite Participant.unplanned, same]
  rfl

/-- What a vehicle draws and plans is seen in the first simulation only. -/
theorem schedule (mirrors : a.Mirrors b) : (a.schedule v).Mirrors b := by
  refine ⟨mirrors.settings, mirrors.topology, mirrors.now, ?_, mirrors.sent, mirrors.lost⟩
  simp only [Simulation.schedule, Simulation.modify, mirrors.vehicles, List.map_map]
  apply List.map_congr_left
  intro p _
  simp only [Function.comp_apply, apply_ite Participant.unplanned]
  split <;> rfl

theorem broadcast (mirrors : a.Mirrors b) (p : Participant) :
    (a.broadcast p 0.0).Mirrors (b.broadcast p.unplanned 0.0) := by
  have counted := mirrors.modify (v := p.id) (f := fun q => { q with sent := q.sent + 1 })
    (g := fun q => { q with sent := q.sent + 1 }) fun _ => rfl
  obtain ⟨vehicles, sent, lost⟩ := Air.deliver_unplanned p.outgoing p.id a.now
    (a.modify p.id fun q => { q with sent := q.sent + 1 }).vehicles mirrors.sent mirrors.lost
  have told : (Air.deliver 0.0 p.outgoing p.id b.now
      (b.modify p.id fun q => { q with sent := q.sent + 1 }).vehicles b.air) =
      Air.deliver 0.0 p.outgoing p.id a.now
        ((a.modify p.id fun q => { q with sent := q.sent + 1 }).vehicles.map Participant.unplanned)
        b.air := by
    rw [counted.vehicles, mirrors.now]
  rw [← told] at vehicles sent lost
  exact ⟨counted.settings, counted.topology, counted.now, vehicles, sent, lost⟩

theorem transmit (mirrors : a.Mirrors b) (periodic : a.settings.delivery = .periodic 0.0)
    (due : ∀ p ∈ a.vehicles, p.id = v → p.nextBeacon ≤ a.now) :
    (a.transmit v).Mirrors (b.transmit v) := by
  have immediate : b.settings.delivery = .immediate := by
    rw [mirrors.settings]
    rfl
  have found : Roster.find? Participant.id v b.vehicles =
      (Roster.find? Participant.id v a.vehicles).map Participant.unplanned := by
    rw [mirrors.vehicles]
    exact List.find?_map
  simp only [Simulation.transmit, found, periodic, immediate]
  cases there : Roster.find? Participant.id v a.vehicles with
  | none => exact mirrors
  | some p =>
      have started : p.unplanned.hasStarted = p.hasStarted := rfl
      obtain ⟨member, same⟩ := Roster.mem_of_find? there
      have now : ¬a.now < p.nextBeacon := Nat.not_lt.mpr (due p member same)
      simp only [Option.map_some, started, if_neg now]
      split
      · exact mirrors
      · exact mirrors.schedule.broadcast p

theorem turn (mirrors : a.Mirrors b) (periodic : a.settings.delivery = .periodic 0.0)
    (due : ∀ p ∈ a.vehicles, p.id = v → p.nextBeacon ≤ a.now) :
    (a.turn v).Mirrors (b.turn v) := by
  have acted : (a.modify v fun p => p.act a.settings a.isDue a.now).Mirrors
      (b.modify v fun p => p.act b.settings b.isDue b.now) := by
    apply mirrors.modify
    intro p
    rw [isDue, isDue, mirrors.settings, mirrors.now]
    exact p.unplanned_act a.now a.settings .immediate _
  refine acted.transmit periodic ?_
  intro q inside same
  obtain ⟨p, member, rfl⟩ := List.mem_map.mp inside
  split at same
  · next here =>
    rw [if_pos here, Participant.nextBeacon_act]
    exact due p member here
  · next other => exact absurd same other

theorem report_eq (mirrors : a.Mirrors b) : b.report = a.report := by
  have vehicles : b.vehicles.map Participant.report = a.vehicles.map Participant.report := by
    rw [mirrors.vehicles, List.map_map]
    rfl
  have violations : b.violations = a.violations := by
    rw [violations, mirrors.vehicles, pairsInOrder_map, List.filterMap_map, mirrors.topology,
      mirrors.now]
    rfl
  rw [report, vehicles, violations, mirrors.settings, mirrors.now, mirrors.sent, mirrors.lost]
  rfl

end Mirrors

end Simulation

/-- No beacon is lost, and the next one is planned for the next step at the latest. -/
structure SimulationSettings.Frequent (s : SimulationSettings) : Prop where
  periodic : s.delivery = .periodic 0.0
  periods : s.client.minPeriod.ms ≤ s.client.maxPeriod.ms
  frequent : s.client.maxPeriod.ms ≤ s.step.ms
  counted : s.horizon.ms + s.step.ms < 2 ^ 64

namespace Simulation

variable {sim after : Simulation} {done : List VehicleId} {p own : Participant}

/-- Every vehicle is to send at its next turn, which those in `done` have in the next step. -/
def Planned (sim : Simulation) (done : List VehicleId) : Prop :=
  ∀ p ∈ sim.vehicles,
    p.nextBeacon.ms ≤ sim.now.ms + if p.id ∈ done then sim.settings.step.ms else 0

theorem Planned.of_map {other : Participant → Participant} (planned : sim.Planned done)
    (vehicles : after.vehicles = sim.vehicles.map fun r => if r.id = p.id then own else other r)
    (settings : after.settings = sim.settings) (now : after.now = sim.now) (same : own.id = p.id)
    (soon : own.nextBeacon.ms ≤ sim.now.ms + sim.settings.step.ms)
    (others : ∀ r, (other r).id = r.id ∧ (other r).nextBeacon = r.nextBeacon) :
    after.Planned (done ++ [p.id]) := by
  intro r inside
  rw [vehicles] at inside
  obtain ⟨old, member, rfl⟩ := List.mem_map.mp inside
  rw [settings, now]
  split
  · rw [if_pos (by simp [same])]
    exact soon
  · next away =>
    obtain ⟨id, next⟩ := others old
    have before := planned old member
    rw [id, next]
    simpa [away] using before

theorem Planned.turn (planned : sim.Planned done) (frequent : sim.settings.Frequent)
    (ascending : Roster.Ascending Participant.id sim.vehicles) (member : p ∈ sim.vehicles)
    (waits : p.id ∉ done) : (sim.turn p.id).Planned (done ++ [p.id]) := by
  have same : (p.act sim.settings sim.isDue sim.now).id = p.id :=
    congrArg Script.id (p.script_act _ _ _)
  have turns := turns_turn ascending member same
  have next := p.nextBeacon_act sim.settings sim.isDue sim.now
  generalize p.act sim.settings sim.isDue sim.now = q at turns same next
  generalize sim.turn p.id = after at turns
  have due : q.nextBeacon.ms ≤ sim.now.ms := by
    have before := planned p member
    rwa [if_neg waits, Nat.add_zero, ← next] at before
  cases turns with
  | silent _ =>
      have vehicles : sim.replaced q = sim.vehicles.map fun r => if r.id = p.id then q else r := by
        rw [replaced, same]
      exact planned.of_map vehicles rfl rfl same (by omega) fun _ => ⟨rfl, rfl⟩
  | sends air later lost _ _ drawn =>
      have gap : sim.settings.gap ≤ sim.settings.step.ms := by
        simp only [SimulationSettings.gap, frequent.periodic]
        exact frequent.frequent
      have soon : later.ms ≤ sim.now.ms + sim.settings.step.ms := by
        have short := drawn (fun _ => frequent.periods) (by omega)
        omega
      refine planned.of_map rfl rfl rfl same soon fun r => ?_
      split
      · exact ⟨rfl, rfl⟩
      · exact ⟨rfl, rfl⟩

theorem Planned.tickClock (planned : sim.Planned (sim.vehicles.map Participant.id))
    (frequent : sim.settings.Frequent) (early : sim.isLate = false) : sim.tickClock.Planned [] := by
  have clock := isLate_eq_false.mp early
  have counted := frequent.counted
  have now : sim.tickClock.now.ms = sim.now.ms + sim.settings.step.ms :=
    Timestamp.advance_ms_of_lt (by omega)
  intro p member
  have listed : p.id ∈ sim.vehicles.map Participant.id := List.mem_map_of_mem member
  have before := planned p member
  rw [if_pos listed] at before
  rw [now]
  exact Nat.le_add_right_of_le before

namespace Mirrors

variable {a b : Simulation}

theorem step (mirrors : a.Mirrors b) (frequent : a.settings.Frequent)
    (ascending : Roster.Ascending Participant.id a.vehicles) (planned : a.Planned []) :
    a.step.Mirrors b.step ∧ a.step.Planned (a.step.vehicles.map Participant.id) := by
  obtain ⟨midway, stepped, plans⟩ := step_midway ascending
    (fun done mid => mid.Mirrors (done.foldl Simulation.turn b) ∧ mid.Planned done)
    ⟨mirrors, planned⟩ (by
      intro done mid p midway member waits ⟨mirrors, planned⟩
      have same := midway.settings
      have order := ascending_of_scripts ascending midway.scripts
      constructor
      · rw [List.foldl_append]
        refine mirrors.turn (same ▸ frequent.periodic) ?_
        intro q inside here
        have due := planned q inside
        rwa [here, if_neg waits, Nat.add_zero] at due
      · exact planned.turn (same ▸ frequent) order member waits)
  have ids : b.vehicles.map Participant.id = a.vehicles.map Participant.id := by
    rw [mirrors.vehicles, List.map_map]
    rfl
  rw [← ids] at stepped
  rw [ids_of_scripts midway.scripts]
  exact ⟨stepped, plans⟩

theorem tickClock (mirrors : a.Mirrors b) : a.tickClock.Mirrors b.tickClock := by
  refine ⟨mirrors.settings, mirrors.topology, ?_, mirrors.vehicles, mirrors.sent, mirrors.lost⟩
  simp only [Simulation.tickClock, mirrors.now, mirrors.settings]
  rfl

theorem isLate_eq (mirrors : a.Mirrors b) : b.isLate = a.isLate := by
  rw [isLate, isLate, mirrors.settings, mirrors.now]
  rfl

theorem isOver_eq (mirrors : a.Mirrors b) : b.isOver = a.isOver := by
  rw [isOver, isOver, mirrors.vehicles, List.all_map]
  rfl

theorem hasCycle_eq (mirrors : a.Mirrors b) : b.hasCycle = a.hasCycle := by
  rw [hasCycle, hasCycle, mirrors.settings]
  rfl

theorem runWithin (mirrors : a.Mirrors b) (frequent : a.settings.Frequent)
    (ascending : Roster.Ascending Participant.id a.vehicles) (planned : a.Planned []) (n : Nat) :
    (a.runWithin n).map report = (b.runWithin n).map report := by
  induction n generalizing a b with
  | zero => rfl
  | succ n ih =>
      cases late : a.isLate with
      | true =>
          rw [runWithin_of_isLate late n.succ_pos,
            runWithin_of_isLate (mirrors.isLate_eq.trans late) n.succ_pos]
          exact congrArg some mirrors.report_eq.symm
      | false =>
          have early := mirrors.isLate_eq.trans late
          obtain ⟨stepped, plans⟩ := mirrors.step frequent ascending planned
          cases ended : a.step.isOver with
          | true =>
              rw [runWithin_of_isOver late ended n.succ_pos,
                runWithin_of_isOver early (stepped.isOver_eq.trans ended) n.succ_pos]
              exact congrArg some stepped.report_eq.symm
          | false =>
              rw [runWithin_succ late ended,
                runWithin_succ early (stepped.isOver_eq.trans ended)]
              have same : a.step.settings = a.settings := settings_step a
              have going : a.step.isLate = false := by
                rw [isLate, settings_step, now_step]
                exact late
              exact ih stepped.tickClock (same ▸ frequent)
                (ascending_of_scripts ascending (step_acted ascending).1)
                (plans.tickClock (same ▸ frequent) going)

theorem run (mirrors : a.Mirrors b) (frequent : a.settings.Frequent)
    (ascending : Roster.Ascending Participant.id a.vehicles) (planned : a.Planned []) (limit : Nat) :
    (a.run limit).map report = (b.run limit).map report := by
  have within := mirrors.runWithin frequent ascending planned limit
  simp only [Simulation.run, mirrors.isLate_eq, mirrors.hasCycle_eq]
  split
  · rfl
  · cases first : a.runWithin limit with
    | none =>
        rw [first] at within
        rw [Option.map_eq_none_iff.mp within.symm]
    | some last =>
        rw [first] at within
        obtain ⟨other, second, same⟩ := Option.map_eq_some_iff.mp within.symm
        rw [second]
        exact congrArg Except.ok same.symm

end Mirrors

theorem Parked.mirrors (parked : sim.Parked) :
    (sim.under (.periodic 0.0)).Mirrors (sim.under .immediate) := by
  have same : sim.vehicles.map Participant.unplanned = sim.vehicles.map id := by
    apply List.map_congr_left
    intro p member
    obtain ⟨script, rfl⟩ := parked.parked p member
    rfl
  exact ⟨rfl, rfl, rfl, (same.trans (List.map_id _)).symm, rfl, rfl⟩

theorem Parked.planned (parked : sim.Parked) (delivery : Delivery) :
    (sim.under delivery).Planned [] := by
  intro p member
  obtain ⟨script, rfl⟩ := parked.parked p member
  exact Nat.zero_le _

end Simulation

end Junction
