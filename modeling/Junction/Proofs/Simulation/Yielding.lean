import Junction.Proofs.RightOfWay.Requestors
import Junction.Proofs.Simulation.Immediate

/-! # Whom a vehicle lets go first

Where every vehicle is heard by all others right after its turn, a table shows who waits as well as
who is inside. A vehicle that is let in has just read an answer of the rule, whether it has waited
through a run of good answers or goes in beside another. So nobody waits then who goes before it and
is in its way.
-/

namespace Junction

namespace Participant

variable {p q : Participant} {now : Timestamp}

/-- The vehicle as it comes to consult its policy, having driven or set out. -/
def driven (p : Participant) (settings : SimulationSettings) (now : Timestamp) : Participant :=
  (p.move (p.reach settings.step.toSeconds) now).start settings.client.distance now

/-- What the controller decides at the turn of the vehicle, if it decides anything. -/
def decision (p : Participant) (settings : SimulationSettings) (due : Bool) (now : Timestamp) :
    Option Decision :=
  if due then ((p.driven settings now).controller.tick now).2 else none

theorem act_eq (p : Participant) (settings : SimulationSettings) (due : Bool) (now : Timestamp) :
    p.act settings due now = ((p.driven settings now).consult due now).mark now := rfl

/-- A vehicle that is let in was still seeking access, and has read an answer that lets it in. -/
theorem Drives.consults_of_committed (drives : p.Drives now q)
    (committed : (q.controller.tick now).2 = some .committed) :
    q.crossing = none ∧ ∃ s, p.Consults s q.controller ∧
      q.controller.Admits (q.controller.answerAt now) now := by
  obtain ⟨-, seeks, admits⟩ := Controller.tick_committed_iff.mp committed
  cases drives.standing with
  | waiting _ phase => simp [Controller.seeks, phase] at seeks
  | inside _ _ _ _ _ _ _ granted => simp [Controller.seeks, granted] at seeks
  | through _ _ _ _ _ _ _ _ _ phase =>
      obtain ⟨due, exiting⟩ := phase
      simp [Controller.seeks, exiting] at seeks
  | seeking s _ _ outside _ _ since =>
      exact ⟨outside, s, ⟨drives.keeps.table, drives.keeps.constants, since⟩, admits⟩

theorem Drives.not_opens (drives : p.Drives now q) (outside : p.crossing = none) :
    q.crossing ≠ some ⟨now, none⟩ := by
  intro opened
  rcases drives.stay with same | ⟨c, inside, -⟩
  · cases (opened.symm.trans same).trans outside
  · cases outside.symm.trans inside

theorem Drives.mark_consult_of_refused (drives : p.Drives now q)
    (refused : (q.controller.tick now).2 ≠ some .committed) :
    ((q.consult true now).mark now).crossing = q.crossing := by
  have ticked : q.consult true now = { q with controller := (q.controller.tick now).1 } := rfl
  rw [ticked, Controller.tick_eq drives.running]
  by_cases seeks : q.controller.seeks = true
  · have status : q.controller.status ≠ .crossing := by
      cases drives.standing with
      | waiting _ _ idle => simp [idle]
      | seeking _ _ _ _ requesting => simp [requesting]
      | inside _ _ _ _ _ _ _ granted => simp [Controller.seeks, granted] at seeks
      | through _ _ _ _ _ _ _ exiting => simp [exiting]
    have unfit : ¬(q.controller.forget now).Admits (q.controller.answerAt now) now := by
      intro admits
      exact refused (Controller.tick_committed_iff.mpr
        ⟨drives.running, seeks, Controller.admits_forget.mp admits⟩)
    obtain ⟨drive, pacer, since, eq, -⟩ := Controller.act_refused unfit
    have kept : ((q.controller.forget now).act (q.controller.answerAt now) now).1.status =
        q.controller.status := by
      rw [eq]
      rfl
    rw [if_pos seeks, mark, kept, if_neg]
    simp [status]
  · rw [if_neg seeks, mark_eq_self (acts_rest drives).standing]

/-- A vehicle has access from now on if its controller has decided so, and then only. -/
theorem decision_eq_committed_iff (standing : p.Standing now.ms)
    (running : p.controller.running = true) (settings : SimulationSettings) (due : Bool) :
    p.decision settings due now = some .committed ↔
      p.crossing = none ∧ (p.act settings due now).crossing = some ⟨now, none⟩ := by
  have drives : p.Drives now (p.driven settings now) := drives_drive standing running _ _
  rw [decision, act_eq]
  generalize p.driven settings now = q at drives
  cases due with
  | false =>
      have idle : (q.consult false now).mark now = q := mark_eq_self drives.standing now
      simp only [idle, Bool.false_eq_true, if_false, reduceCtorEq, false_iff]
      rintro ⟨outside, opened⟩
      exact drives.not_opens outside opened
  | true =>
      rw [if_pos rfl]
      constructor
      · intro committed
        obtain ⟨outside, s, -, admits⟩ := drives.consults_of_committed committed
        obtain ⟨-, seeks, -⟩ := Controller.tick_committed_iff.mp committed
        obtain ⟨pacer, eq, -⟩ :=
          Controller.act_admitted ((Controller.admits_forget (t := now)).mpr admits)
        refine ⟨drives.outside outside, ?_⟩
        simp only [consult, if_true, Controller.tick_eq drives.running, if_pos seeks, eq, mark,
          outside]
        rfl
      · rintro ⟨outside, opened⟩
        refine Classical.byContradiction fun refused => ?_
        rw [drives.mark_consult_of_refused refused] at opened
        exact drives.not_opens outside opened

end Participant

namespace Simulation

variable {start sim : Simulation} {done : List VehicleId} {p r : Participant}

theorem Turning.drives (turning : start.Turning sim done p) :
    p.Drives sim.now (p.driven sim.settings sim.now) :=
  Participant.drives_drive turning.standing (turning.informed.running p turning.member) _ _

theorem Turning.isSafe_of_committed (turning : start.Turning sim done p)
    (reliable : start.settings.Reliable)
    (committed : p.decision sim.settings sim.isDue sim.now = some .committed) :
    (sim.answer p).isSafe = true := by
  simp only [Participant.decision] at committed
  split at committed
  · obtain ⟨-, s, consults, admits⟩ := turning.drives.consults_of_committed committed
    rw [turning.answerAt_eq reliable consults] at admits
    exact admits.safe
  · cases committed

theorem Turning.knowsRequest (turning : start.Turning sim done p) (exact : sim.settings.gap = 0)
    (inside : r ∈ sim.vehicles) (other : r.id ≠ p.id)
    (waits : r.controller.status = .requesting) :
    (sim.question p).KnowsRequest r.id r.script.route := by
  have started := (turning.informed.standing r inside).started_of_requesting waits
  obtain ⟨n, seen, same, told, route⟩ := turning.sees exact inside other started
  exact ⟨n, seen, same, told.trans waits, route⟩

/-- Nobody who waits goes before a vehicle that is let in and is in its way. -/
theorem Turning.yields (turning : start.Turning sim done p)
    (reliable : start.settings.Reliable) (exact : start.settings.gap = 0)
    (committed : p.decision sim.settings sim.isDue sim.now = some .committed)
    (inside : r ∈ sim.vehicles) (waits : r.controller.status = .requesting)
    (rivals : start.settings.client.protocol = .serial ∨
      start.settings.client.protocol = .parallel ∧
        start.topology.conflicts p.script.route r.script.route = true) :
    start.settings.client.options.precedence.outranks r.id p.id = false := by
  by_cases same : r.id = p.id
  · rw [same]
    exact Precedence.outranks_irrefl _ _
  · obtain ⟨n, seen, id, waiting, route⟩ :=
      turning.knowsRequest (turning.settings ▸ exact) inside same waits
    have safe := turning.isSafe_of_committed reliable committed
    rw [answer, turning.settings, turning.topology] at safe
    rw [← id]
    rcases rivals with serial | ⟨parallel, clash⟩
    · rw [serial] at safe
      exact RightOfWay.not_outranked_of_serial safe seen waiting
    · rw [parallel] at safe
      refine RightOfWay.not_outranked_of_parallel safe seen waiting ?_
      rw [Evaluation.clashes, route]
      exact clash

/-- Whenever a vehicle is let in, by either rule and with all beacons arriving at once, it has access
    from that instant on, and nobody who goes before it waits then and is in its way. Under the
    serial rule everybody is in everybody's way. -/
theorem not_outranked_when_let_in {settings : SimulationSettings} {topology : Topology}
    {scripts : List Script} {fresh sim : Simulation}
    (created : create settings topology = .ok fresh)
    (added : fresh.addScripts scripts = (sim, none))
    (protocol : settings.client.protocol = .serial ∨ settings.client.protocol = .parallel)
    (delivery : settings.delivery = .immediate) (moves : 1 ≤ settings.step.millis)
    (remembered : settings.step.millis ≤ settings.client.thresholdMs)
    (counted : settings.horizon.millis + settings.step.millis < 2 ^ 63) :
    ∀ mid p, sim.AtTurn mid p → p.decision mid.settings mid.isDue mid.now = some .committed →
      (p.act mid.settings mid.isDue mid.now).crossing = some ⟨mid.now, none⟩ ∧
      ∀ r ∈ mid.vehicles, r.controller.status = .requesting →
        (settings.client.protocol = .serial ∨
          topology.conflicts p.script.route r.script.route = true) →
        settings.client.options.precedence.outranks r.id p.id = false := by
  obtain ⟨-, rfl, rfl, parked⟩ := parked_of_added created added
  obtain ⟨reliable, exact⟩ :=
    SimulationSettings.reliable_of_immediate delivery moves remembered counted
  intro mid p turn committed
  obtain ⟨done, turning⟩ := turn.turning reliable parked.informed
  have running : p.controller.running = true := turning.informed.running p turning.member
  obtain ⟨-, opened⟩ :=
    (Participant.decision_eq_committed_iff turning.standing running _ _).mp committed
  refine ⟨opened, ?_⟩
  intro r inside waits rivals
  refine turning.yields reliable exact committed inside waits ?_
  rcases protocol with serial | parallel
  · exact Or.inl serial
  · exact rivals.imp_right fun clash => ⟨parallel, clash⟩

/-- Steps of a second under the parallel rule, every beacon arriving at once. -/
def jointBySeconds : SimulationSettings :=
  { SimulationSettings.standard { Settings.standard with protocol := .parallel } with
    step := .ofMillis 1000 }

/-- Vehicle 20 lets in either of the others, but not both. The one that goes first sets out last. -/
def lateRival : List Script := [
  ⟨⟨20⟩, ⟨⟨"N"⟩, ⟨"S"⟩⟩, .wrapping 0, usualDistance⟩,
  ⟨⟨3⟩, ⟨⟨"E"⟩, ⟨"N"⟩⟩, .wrapping 0, usualDistance⟩,
  ⟨⟨4⟩, ⟨⟨"S"⟩, ⟨"N"⟩⟩, .wrapping 3000, usualDistance⟩]

/-- The first step that finds vehicle 20 inside. -/
def besideTwenty : Simulation :=
  (fourWayWith jointBySeconds lateRival).step.tickClock.step.tickClock.step.tickClock.step.tickClock

theorem not_outranked_when_let_in_besideTwenty :
    create jointBySeconds Topology.fourWay = .ok (onFourWay jointBySeconds) ∧
      (onFourWay jointBySeconds).addScripts lateRival =
        (fourWayWith jointBySeconds lateRival, none) ∧
      ∃ mid p, (fourWayWith jointBySeconds lateRival).AtTurn mid p ∧ p.id = ⟨4⟩ ∧
        p.decision mid.settings mid.isDue mid.now = some .committed ∧
        (p.act mid.settings mid.isDue mid.now).crossing = some ⟨.wrapping 4000, none⟩ ∧
        ∃ r ∈ mid.vehicles, r.id = ⟨3⟩ ∧ r.controller.status = .requesting ∧
          Topology.fourWay.conflicts p.script.route r.script.route = true ∧
          Precedence.higherFirst.outranks r.id p.id = false := by
  have created : create jointBySeconds Topology.fourWay = .ok (onFourWay jointBySeconds) :=
    create_onFourWay rfl
  have added : (onFourWay jointBySeconds).addScripts lateRival =
      (fourWayWith jointBySeconds lateRival, none) := addScripts_fourWayWith (by decide +kernel)
  have reached : (fourWayWith jointBySeconds lateRival).Reaches besideTwenty :=
    .next (.next (.next (.next .start (by decide +kernel)) (by decide +kernel))
      (by decide +kernel)) (by decide +kernel)
  -- vehicle 3 has had its turn in this step, and vehicle 20 has not
  obtain ⟨p, member, four, committed, r, inside, three, waits, clash⟩ :
      ∃ p ∈ ([⟨3⟩].foldl turn besideTwenty).vehicles, p.id = ⟨4⟩ ∧
        p.decision ([⟨3⟩].foldl turn besideTwenty).settings
          ([⟨3⟩].foldl turn besideTwenty).isDue ([⟨3⟩].foldl turn besideTwenty).now =
            some .committed ∧
        ∃ r ∈ ([⟨3⟩].foldl turn besideTwenty).vehicles, r.id = ⟨3⟩ ∧
          r.controller.status = .requesting ∧
          Topology.fourWay.conflicts p.script.route r.script.route = true := by
    decide +kernel
  have order : besideTwenty.vehicles.map Participant.id = [⟨3⟩] ++ p.id :: [⟨20⟩] := by
    rw [four]
    decide +kernel
  have turn : (fourWayWith jointBySeconds lateRival).AtTurn
      ([⟨3⟩].foldl turn besideTwenty) p := .intro reached (by decide +kernel) order member
  obtain ⟨opened, first⟩ := not_outranked_when_let_in created added (Or.inr rfl) rfl (by decide)
    (by decide) (by decide) _ p turn committed
  have clock : ([⟨3⟩].foldl Simulation.turn besideTwenty).now = .wrapping 4000 := by decide +kernel
  exact ⟨created, added, _, p, turn, four, committed, opened.trans (by rw [clock]), r, inside, three,
    waits, clash, first r inside waits (Or.inr clash)⟩

end Simulation

end Junction
