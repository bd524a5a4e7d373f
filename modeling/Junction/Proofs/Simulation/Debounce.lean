import Junction.Proofs.RightOfWay.Admission
import Junction.Proofs.Simulation.Exclusion

/-! # Exclusion where beacons arrive at intervals

Under the serial rule a positive answer has to be repeated for a while. If that while is as long as
the longest interval between two beacons and a step, then whoever was let in before has been heard
inside by then, or had been outranked all along. So only one vehicle at a time is let in.
-/

namespace Junction

namespace Simulation

variable {start sim : Simulation} {done : List VehicleId} {p r : Participant}

/-- Whoever is answered positively goes before all that seek access. -/
theorem Turning.not_outranked (turning : start.Turning sim done p)
    (serial : start.settings.client.protocol = .serial) (safe : (sim.answer p).isSafe = true)
    (inside : r ∈ sim.vehicles) (other : r.id ≠ p.id) (started : r.startedAt ≠ none)
    (outside : r.crossing = none) :
    start.settings.client.options.precedence.outranks p.id r.id = true := by
  rw [answer, turning.settings, serial] at safe
  obtain ⟨n, seen, same, tells⟩ :=
    turning.informed.exists_entry turning.member inside other started
  have lower := RightOfWay.not_outranked_of_serial safe seen (tells.outside outside)
  rw [same] at lower
  have either := start.settings.client.options.precedence.outranks_total other
  exact either.resolve_left (Bool.eq_false_iff.mp lower)

/-- A positive answer that lets a vehicle in has been given all through the window. -/
theorem Turning.waited (turning : start.Turning sim done p) (reliable : start.settings.Reliable)
    (serial : start.settings.client.protocol = .serial)
    (window : 0 < start.settings.client.minSafe.ms) {s : Timestamp} {c : Controller}
    (consults : p.Consults s c) (admits : c.Admits (sim.answer p) sim.now) :
    s.ms + start.settings.client.minSafe.ms ≤ sim.now.ms := by
  have clock := isLate_eq_false.mp turning.early
  have counted := (turning.settings ▸ reliable : sim.settings.Reliable).counted
  have safe := admits.safe
  have ripe := admits.ripe
  rw [answer, turning.settings, serial] at safe ripe
  obtain ⟨-, provisional⟩ := RightOfWay.serial_answer_of_isSafe safe
  have settings : c.settings.minSafe = start.settings.client.minSafe := by
    rw [(Controller.settings_of_constants consults.constants).trans
      (turning.informed.settings_eq turning.member), clientOf, turning.settings]
  rcases ripe with due | ⟨-, repeated⟩
  · have never : (Timestamp.unscheduled).ms ≤ sim.now.ms := by
      have same : ((RightOfWay.policyFor .serial sim.topology.conflicts
        start.settings.client.options).answer (sim.question p)).safeAt = .unscheduled :=
          congrArg Clearance.safeAt provisional
      rwa [same] at due
    simp only [Timestamp.unscheduled_ms] at never
    omega
  · rw [settings] at repeated
    cases run : c.safeSince with
    | none =>
        simp only [run, Option.getD_none, Timestamp.since_self] at repeated
        omega
    | some u =>
        have early := Timestamp.le_iff.mp (consults.since u run)
        simp only [run, Option.getD_some, Timestamp.since] at repeated
        omega

theorem Turning.letsIn_of_debounce (turning : start.Turning sim done p)
    (reliable : start.settings.Reliable) (serial : start.settings.client.protocol = .serial)
    (window : start.settings.gap + start.settings.step.ms ≤ start.settings.client.minSafe.ms)
    (before : sim.EachPair
      (VehicleReport.GivesWay (fun _ _ => true) start.settings.client.options.precedence)) :
    sim.LetsIn (fun _ _ => true) none p := by
  refine turning.letsIn reliable ?_
  intro s c consults admits outside began r inside other _ t there
  have moves := reliable.moves
  have waited := turning.waited reliable serial (by omega) consults admits
  obtain ⟨started, -⟩ := (turning.informed.standing r inside).of_inside there
  obtain ⟨n, seen, same, tells⟩ :=
    turning.informed.exists_entry turning.member inside other started
  have safe := admits.safe
  rw [answer, turning.settings, serial] at safe
  rcases tells.inside t there with crossing | ⟨requesting, behind⟩
  · exact absurd crossing (RightOfWay.not_crossing_of_serial safe seen)
  · -- the peer was heard before it was let in, and that was before this vehicle set out
    have lower : start.settings.client.options.precedence.outranks r.id p.id = false := by
      have := RightOfWay.not_outranked_of_serial safe seen requesting
      rwa [same] at this
    have order : t ≤ s := by
      rcases turning.acts.started with kept | ⟨-, now⟩
      · have goes := before r inside p turning.member other rfl t s there outside
          (kept.symm.trans began)
        exact goes.resolve_left (Bool.eq_false_iff.mp lower)
      · obtain rfl := Option.some.inj (now.symm.trans began)
        omega
    have fresh := tells.fresh
    rw [Timestamp.lt_iff] at behind
    rw [Timestamp.le_iff] at order
    rw [turning.settings] at fresh
    split at fresh <;> omega

/-- Under the serial rule the vehicles are inside one after the other, if positive answers are
    repeated for as long as the longest interval between two beacons and a step. -/
theorem Reaches.inTurn_of_debounce (reached : Reaches start sim) (parked : start.Parked)
    (reliable : start.settings.Reliable) (serial : start.settings.client.protocol = .serial)
    (window : start.settings.gap + start.settings.step.ms ≤ start.settings.client.minSafe.ms) :
    sim.EachPair (VehicleReport.InTurn (fun _ _ => true) none) := by
  refine reached.inTurn reliable parked (fun _ _ => rfl)
    (fun _ mid => mid.EachPair
      (VehicleReport.GivesWay (fun _ _ => true) start.settings.client.options.precedence))
    parked.givesWay ?_ (fun _ _ _ before => before)
    (fun _ _ _ turning before => turning.letsIn_of_debounce reliable serial window before)
  intro done mid p turning
  refine turning.givesWay reliable ?_
  intro s c _ admits r inside other started outside _
  exact turning.not_outranked serial admits.safe inside other started outside

theorem Reaches.status_ne_crossing (reached : Reaches start sim) (early : sim.isLate = false)
    (parked : start.Parked) (reliable : start.settings.Reliable)
    (always : ∀ last, Reaches start last →
      last.EachPair (VehicleReport.InTurn (fun _ _ => true) none))
    (member : p ∈ sim.step.vehicles) (inside : r ∈ sim.step.vehicles) (other : p.id ≠ r.id) :
    ¬(p.controller.status = .crossing ∧ r.controller.status = .crossing) := by
  have stepped := reached.next early
  have standing := (stepped.informed reliable parked.informed).standing
  rintro ⟨first, second⟩
  obtain ⟨c, here⟩ := (standing p member).crossing_of_status first
  obtain ⟨d, there⟩ := (standing r inside).crossing_of_status second
  have turn : Interval.InTurn none ⟨c, none⟩ ⟨d, none⟩ :=
    always _ stepped p member r inside other rfl _ _ here there
  rcases turn with (⟨e, stopped, -⟩ | ⟨e, none, -⟩) | (⟨e, stopped, -⟩ | ⟨e, none, -⟩)
  · cases stopped
  · cases none
  · cases stopped
  · cases none

/-- Where beacons are sent at intervals and none is lost, the serial rule never lets two vehicles be
    inside together, if positive answers are repeated for as long as the longest interval between
    two beacons and a step, and no peer is forgotten earlier than that. The run ends. -/
theorem exclusion_of_periodic {settings : SimulationSettings} {topology : Topology}
    {scripts : List Script} {fresh sim : Simulation}
    (created : create settings topology = .ok fresh)
    (added : fresh.addScripts scripts = (sim, none))
    (protocol : settings.client.protocol = .serial) (delivery : settings.delivery = .periodic 0.0)
    (moves : 1 ≤ settings.step.millis) (decides : 1 ≤ settings.client.cycle.millis)
    (cycle : settings.client.cycle.millis < 2 ^ 64) (safe : settings.client.minSafe.millis < 2 ^ 64)
    (window : settings.client.maxPeriod.millis + settings.step.millis ≤
      settings.client.minSafe.millis)
    (remembered : settings.client.maxPeriod.millis + settings.step.millis ≤
      settings.client.thresholdMs)
    (counted : settings.horizon.millis + settings.client.maxPeriod.millis + settings.step.millis <
      2 ^ 63) :
    (∃ n final, ∀ limit, n ≤ limit → sim.run limit = .ok final) ∧
      (∀ mid, Reaches sim mid → mid.isLate = false →
        ∀ p ∈ mid.step.vehicles, ∀ q ∈ mid.step.vehicles, p.id ≠ q.id →
          ¬(p.controller.status = .crossing ∧ q.controller.status = .crossing)) ∧
      ∀ limit final, sim.run limit = .ok final →
        final.report.violations = [] ∧
          ∀ a ∈ final.report.vehicles, ∀ b ∈ final.report.vehicles, a.id ≠ b.id →
            ∀ i j, a.crossing = some i → b.crossing = some j →
              ∀ cut, i.overlap? j cut = none := by
  obtain ⟨valid, rfl, rfl, parked⟩ := parked_of_added created added
  obtain ⟨reliable, gap⟩ :=
    SimulationSettings.reliable_of_periodic valid delivery moves remembered (by omega)
  have step : sim.settings.step.ms = sim.settings.step.millis :=
    Duration.ms_of_millis_lt (by omega)
  have always := fun last (reached : Reaches sim last) =>
    reached.inTurn_of_debounce parked reliable protocol (by
      rw [gap, step, Duration.ms_of_millis_lt safe]
      exact window)
  refine ⟨?_, ?_, ?_⟩
  · apply run_ends_of_reliable reliable
    rw [Duration.ms_of_millis_lt cycle]
    omega
  · intro mid reached early p member q inside other
    exact reached.status_ne_crossing early parked reliable always member inside other
  · intro limit final ran
    constructor
    · refine violations_eq_nil_of_run ran reliable parked none ?_
        (fun _ _ _ _ _ h => by cases h)
      intro last reached a ha b hb distinct _
      exact always last reached a ha b hb distinct rfl
    · intro a ha b hb distinct i j hi hj cut
      exact overlap?_eq_none_of_report (eachPair_of_run ran always) ha hb distinct rfl hi hj cut

/-- Two minutes under the serial rule, beacons being sent up to a second apart. -/
def serialAtIntervals : SimulationSettings :=
  { SimulationSettings.standard { Settings.standard with protocol := .serial } with
    delivery := .periodic 0.0 }

theorem exclusion_of_periodic_rushHour :
    create serialAtIntervals Topology.fourWay = .ok (onFourWay serialAtIntervals) ∧
      (onFourWay serialAtIntervals).addScripts Scenario.rush.scripts =
        (rushHour serialAtIntervals, none) ∧
      (∃ n final, ∀ limit, n ≤ limit → (rushHour serialAtIntervals).run limit = .ok final) ∧
      (∀ mid, Reaches (rushHour serialAtIntervals) mid → mid.isLate = false →
        ∀ p ∈ mid.step.vehicles, ∀ q ∈ mid.step.vehicles, p.id ≠ q.id →
          ¬(p.controller.status = .crossing ∧ q.controller.status = .crossing)) ∧
      ∀ limit final, (rushHour serialAtIntervals).run limit = .ok final →
        final.report.violations = [] ∧
          ∀ a ∈ final.report.vehicles, ∀ b ∈ final.report.vehicles, a.id ≠ b.id →
            ∀ i j, a.crossing = some i → b.crossing = some j →
              ∀ cut, i.overlap? j cut = none := by
  have created : create serialAtIntervals Topology.fourWay = .ok (onFourWay serialAtIntervals) :=
    create_onFourWay rfl
  have added : (onFourWay serialAtIntervals).addScripts Scenario.rush.scripts =
      (rushHour serialAtIntervals, none) := addScripts_rush (by decide +kernel)
  exact ⟨created, added, exclusion_of_periodic created added rfl rfl (by decide) (by decide)
    (by decide) (by decide) (by decide) (by decide) (by decide)⟩

end Simulation

end Junction
