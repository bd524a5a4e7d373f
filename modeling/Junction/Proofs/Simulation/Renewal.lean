import Junction.Proofs.Simulation.Reservations

/-! # How long a published entry time stays good

A vehicle that reserves publishes a new entry time in the first step of every decision cycle, and
this time lies ahead. So a time that it publishes is never more than a cycle behind the clock, and
a peer that has heard of it knows that much about when the vehicle goes in at the earliest.
-/

namespace Junction

/-- The first instant of the decision cycle that `now` belongs to. -/
def SimulationSettings.cycleStart (s : SimulationSettings) (now : Timestamp) : Nat :=
  now.ms - now.ms % s.client.cycle.ms

theorem Controller.lt_entryTime_of_refused {c : Controller} {answer : Clearance}
    {now t : Timestamp} (reserves : c.reserves = true) (refused : ¬c.Admits answer now)
    (said : (c.act answer now).1.beacon.entryTime = some t) : now < t := by
  obtain ⟨drive, pacer, since, eq, -⟩ := act_refused refused
  rw [eq] at said
  simp only [reserves, if_true] at said
  exact lt_scheduledTime_of_refused refused said

namespace Participant

variable {p q : Participant} {now t : Timestamp}

theorem mark_of_outside (outside : (p.mark now).crossing = none) :
    p.mark now = p ∧ p.crossing = none ∧ p.controller.status ≠ .crossing := by
  unfold mark at outside ⊢
  split
  · next marked =>
    rw [if_pos marked] at outside
    cases outside
  · next free =>
    rw [if_neg free] at outside
    refine ⟨rfl, outside, ?_⟩
    intro crossing
    exact free (by simp [outside, crossing])

/-- A vehicle that is not let in when it consults its policy publishes an instant ahead. -/
theorem lt_entryTime_of_tick (h : p.Drives now q) (reserves : q.controller.reserves = true)
    (outside : ((q.consult true now).mark now).crossing = none)
    (said : ((q.consult true now).mark now).controller.beacon.entryTime = some t) : now < t := by
  obtain ⟨unmarked, without, status⟩ := mark_of_outside outside
  have ticked : q.consult true now = { q with controller := (q.controller.tick now).1 } := rfl
  rw [unmarked] at said
  rw [ticked, Controller.tick_eq h.running] at said status
  by_cases seeks : q.controller.seeks = true
  · rw [if_pos seeks] at said status
    refine Controller.lt_entryTime_of_refused (c := q.controller.forget now) reserves ?_ said
    intro admits
    obtain ⟨pacer, eq, -⟩ := Controller.act_admitted admits
    rw [eq] at status
    exact status rfl
  · obtain ⟨drive, phase, eq, -⟩ := (q.controller.forget now).pauseIfDue_eq now
    rw [if_neg seeks, eq] at said
    cases h.standing with
    | waiting _ _ _ unset => cases unset.symm.trans said
    | seeking _ _ _ _ _ granted _ way =>
        rcases way with ⟨-, phase⟩ | ⟨-, phase⟩ <;> simp [Controller.seeks, granted, phase] at seeks
    | inside _ _ _ _ _ inside => cases without.symm.trans inside
    | through _ _ _ _ _ _ through => cases without.symm.trans through

theorem entryTime_act (standing : p.Standing now.ms) (running : p.controller.running = true)
    (reserves : p.controller.reserves = true) (settings : SimulationSettings) (due : Bool)
    (outside : (p.act settings due now).crossing = none)
    (said : (p.act settings due now).controller.beacon.entryTime = some t) :
    now < t ∨ due = false ∧ p.controller.beacon.entryTime = some t := by
  have drives := drives_drive standing running settings.step.toSeconds settings.client.distance
  cases due with
  | true =>
      refine Or.inl (lt_entryTime_of_tick drives ?_ outside said)
      have protocol := Controller.protocol_of_constants drives.keeps.constants
      rw [Controller.reserves, protocol]
      exact reserves
  | false =>
      refine Or.inr ⟨rfl, drives.entry t ?_⟩
      rw [act, (mark_of_outside outside).1] at said
      exact said

end Participant

theorem sub_mod_le_of_le_mod {a b c : Nat} (far : b ≤ (a + b) % c) :
    a + b - (a + b) % c ≤ a - a % c := by
  have whole := Nat.div_add_mod (a + b) c
  have part := Nat.div_add_mod a c
  have below : c * ((a + b) / c) ≤ c * (a / c) := by
    rcases Nat.eq_zero_or_pos c with rfl | positive
    · simp
    · refine Nat.mul_le_mul_left c ((Nat.le_div_iff_mul_le positive).mpr ?_)
      rw [Nat.mul_comm]
      omega
  omega

/-- The time of entry that a peer had published when it was heard had not come a cycle before. -/
def Neighbor.IsTimely (s : SimulationSettings) (n : Neighbor) : Prop :=
  n.status = .requesting → ∀ t, n.entryTime = some t →
    n.lastReceipt.ms < t.ms + s.client.cycle.ms

namespace Simulation

variable {start sim : Simulation} {done : List VehicleId} {p : Participant} {n : Neighbor}

/-- What a vehicle has published while it seeks access lies behind the first instant of the cycle,
    if it has had its turn or nothing is decided in this step. -/
def Renewed (done : List VehicleId) (sim : Simulation) : Prop :=
  ∀ p ∈ sim.vehicles, p.crossing = none → ∀ t, p.controller.beacon.entryTime = some t →
    p.id ∈ done ∨ sim.isDue = false → sim.settings.cycleStart sim.now < t.ms

/-- No entry of a table was a cycle behind when it came in. -/
def Timely (sim : Simulation) : Prop :=
  sim.EachEntry fun n _ => n.IsTimely sim.settings

theorem Turning.cycleStart_lt (turning : start.Turning sim done p)
    (reserving : sim.settings.client.protocol = .reservation) (renewed : sim.Renewed done)
    (outside : (p.act sim.settings sim.isDue sim.now).crossing = none) {t : Timestamp}
    (said : (p.act sim.settings sim.isDue sim.now).controller.beacon.entryTime = some t) :
    sim.settings.cycleStart sim.now < t.ms := by
  have informed := turning.informed
  rcases Participant.entryTime_act turning.standing (informed.running p turning.member)
    (informed.reserves reserving turning.member) sim.settings sim.isDue outside said with
    ahead | ⟨rests, before⟩
  · exact Nat.lt_of_le_of_lt (Nat.sub_le _ _) ahead
  · exact renewed p turning.member (turning.acts.outside outside) t before (Or.inr rests)

theorem Turning.renewed (turning : start.Turning sim done p)
    (reliable : start.settings.Reliable)
    (reserving : sim.settings.client.protocol = .reservation) (renewed : sim.Renewed done) :
    (sim.turn p.id).Renewed (done ++ [p.id]) := by
  obtain ⟨own, table, turned, controller, report, -⟩ := turning.turned reliable
  have due : (sim.turn p.id).isDue = sim.isDue := by
    rw [isDue, isDue, turned.settings, turned.now]
  intro r member outside t said fresh
  rw [turned.settings, turned.now]
  rcases turned.mem member with rfl | ⟨old, inside, other, rfl⟩
  · rw [controller] at said
    exact turning.cycleStart_lt reserving renewed
      ((congrArg VehicleReport.crossing report).symm.trans outside) said
  · refine renewed old inside outside t said ?_
    rw [due] at fresh
    refine fresh.imp_left fun had => ?_
    exact (List.mem_append.mp had).resolve_right fun last => other (List.mem_singleton.mp last)

theorem Turning.timely (turning : start.Turning sim done p) (reliable : start.settings.Reliable)
    (reserving : sim.settings.client.protocol = .reservation)
    (cycle : 0 < sim.settings.client.cycle.ms) (renewed : sim.Renewed done)
    (timely : sim.Timely) : (sim.turn p.id).Timely := by
  have settings : (sim.turn p.id).settings = sim.settings := by
    obtain ⟨_, _, turned, -⟩ := turning.turned reliable
    exact turned.settings
  rw [Timely, settings]
  refine turning.eachEntry reliable (fun _ _ _ _ _ => id) (fun _ => id) ?_ timely
  intro sequence requesting t said
  have begun := turning.cycleStart_lt reserving renewed
    (turning.acts.standing.crossing_of_requesting requesting) said
  have part := Nat.mod_lt sim.now.ms cycle
  simp only [SimulationSettings.cycleStart] at begun
  change sim.now.ms < t.ms + sim.settings.client.cycle.ms
  omega

theorem Renewed.tickClock (renewed : sim.Renewed (sim.vehicles.map Participant.id))
    (later : sim.tickClock.now.ms = sim.now.ms + sim.settings.step.ms) :
    sim.tickClock.Renewed [] := by
  intro p member outside t said fresh
  have before := renewed p member outside t said (Or.inl (List.mem_map_of_mem member))
  have rests : sim.tickClock.isDue = false := fresh.resolve_left (List.not_mem_nil)
  simp only [isDue, decide_eq_false_iff_not, Nat.not_lt, later] at rests
  refine Nat.lt_of_le_of_lt ?_ before
  simp only [SimulationSettings.cycleStart, later]
  exact sub_mod_le_of_le_mod rests

theorem Parked.renewed (parked : sim.Parked) : sim.Renewed [] := by
  intro p member _ t said _
  have none := parked.entryTime_eq member
  cases none.symm.trans said

/-- If vehicles stay inside for so long that no entry gets too old in that time, whoever is let in
    goes before all that seem to wait and are in its way. -/
theorem Turning.not_outranked_of_admits (turning : start.Turning sim done p)
    (reserving : start.settings.client.protocol = .reservation)
    (counted : start.settings.horizon.ms + 256 * start.settings.client.crossing.ms < 2 ^ 63)
    (room : start.settings.gap + start.settings.step.ms + start.settings.client.cycle.ms ≤
      start.settings.client.crossing.ms)
    (announced : sim.Announced) (timely : sim.Timely) {c : Controller}
    (admits : c.Admits (sim.answer p) sim.now)
    (seen : n ∈ (sim.question p).neighbors.neighbors) (requesting : n.status = .requesting)
    (clash : start.topology.conflicts p.script.route n.route = true) :
    start.settings.client.options.precedence.outranks n.id p.id = false := by
  refine Bool.eq_false_iff.mpr fun ahead => ?_
  have informed := turning.informed
  obtain ⟨q, inside, same, other, tells⟩ := informed.tells_of_mem turning.member seen
  have found := (informed.kept p turning.member).get?_of_mem seen
  rw [← same] at found
  have announces := announced p turning.member q inside other n found
  rw [← turning.topology] at clash
  obtain ⟨exit, said, before⟩ := turning.isOutBy_of_admits reserving counted announced admits
    ⟨seen, clash, Or.inr ⟨requesting, turning.settings ▸ ahead⟩⟩
  rw [announces.exitTime_eq] at said
  obtain ⟨t, enters, rfl⟩ := Option.map_eq_some_iff.mp said
  have late := timely p turning.member q inside other n found requesting t enters
  have fresh := tells.fresh
  have clock := isLate_eq_false.mp turning.early
  rw [← turning.settings] at counted room
  rw [Timestamp.le_iff, Timestamp.plus_ms] at before
  split at fresh <;> omega

end Simulation

end Junction
