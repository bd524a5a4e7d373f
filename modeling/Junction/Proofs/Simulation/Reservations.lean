import Junction.Proofs.RightOfWay.Slots
import Junction.Proofs.Simulation.Immediate

/-! # Exclusion where vehicles reserve the time at which they enter

A vehicle that waits publishes an entry time that lies at most one stay per vehicle before it ahead,
so no published time is ever taken for "no concrete time". So every vehicle that is let in enters
when those in its way are due out, and if they stay no longer than they said, they are out.
-/

namespace Junction

namespace Precedence

/-- How many identifiers go before a vehicle. -/
def rank : Precedence → VehicleId → Nat
  | higherFirst, v => 255 - v.toNat
  | lowerFirst, v => v.toNat

theorem rank_le (p : Precedence) (v : VehicleId) : p.rank v ≤ 255 := by
  have := v.toNat_lt
  cases p <;> simp only [rank] <;> omega

theorem rank_lt_of_outranks {p : Precedence} {v w : VehicleId} (h : p.outranks v w = true) :
    p.rank v < p.rank w := by
  have := v.toNat_lt
  have := w.toNat_lt
  cases p <;> simp only [outranks, VehicleId.lt_iff, decide_eq_true_eq] at h <;>
    simp only [rank] <;> omega

end Precedence

theorem Controller.firstBeacon_crossingMs (s : Settings) :
    (firstBeacon s .reservation).crossingMs = some (UInt64.ofNat s.crossing.ms) := by
  simp [firstBeacon]

theorem Participant.Standing.start_lt {bound : Nat} {p : Participant} (standing : p.Standing bound)
    {i : Interval} (crossing : p.crossing = some i) : i.start.ms < bound := by
  cases standing with
  | waiting _ _ _ _ _ outside => cases crossing.symm.trans outside
  | seeking _ _ _ outside => cases crossing.symm.trans outside
  | inside _ _ _ _ past inside =>
      cases crossing.symm.trans inside
      exact past
  | through _ _ _ _ order past through =>
      cases crossing.symm.trans through
      exact Nat.lt_of_le_of_lt order past

theorem Participant.Acts.start_eq {now : Timestamp} {p q : Participant} (acts : p.Acts now q)
    {i : Interval} (crossing : p.crossing = some i) :
    ∃ j, q.crossing = some j ∧ j.start = i.start := by
  cases acts.stay with
  | same kept => exact ⟨i, kept.trans crossing, rfl⟩
  | opens _ _ outside => cases crossing.symm.trans outside
  | closes c inside closed =>
      cases crossing.symm.trans inside
      exact ⟨_, closed, rfl⟩

/-- What an entry says of when a vehicle is inside, whether it is behind or not. -/
structure Neighbor.Announces (s : SimulationSettings) (n : Neighbor) (q : Participant) : Prop where
  stay : n.beacon.crossingMs = some (UInt64.ofNat s.client.crossing.ms)
  inside : n.status = .crossing → ∃ i, q.crossing = some i ∧ n.entryTime = some i.start
  soon : n.status = .requesting → ∀ t, n.entryTime = some t →
    t.ms ≤ n.lastReceipt.ms +
      (s.client.options.precedence.rank q.id + 1) * s.client.crossing.ms

namespace Neighbor.Announces

variable {s : SimulationSettings} {n : Neighbor} {p q : Participant} {now : Timestamp}

theorem exitTime_eq (announces : n.Announces s q) :
    n.exitTime = n.entryTime.map fun t => t.plus s.client.crossing.ms := by
  have small := s.client.crossing.ms_lt
  have count : (UInt64.ofNat s.client.crossing.ms).toNat = s.client.crossing.ms := by
    simp only [UInt64.toNat_ofNat']
    omega
  simp only [exitTime, Beacon.exitTime, entryTime, announces.stay, Option.elim_some, count]

theorem of_acts (announces : n.Announces s p) (acts : p.Acts now q) : n.Announces s q := by
  refine ⟨announces.stay, ?_, ?_⟩
  · intro crossing
    obtain ⟨i, there, entry⟩ := announces.inside crossing
    obtain ⟨j, here, same⟩ := acts.start_eq there
    exact ⟨j, here, same ▸ entry⟩
  · rw [acts.id]
    exact announces.soon

theorem congr (announces : n.Announces s p) (id : q.id = p.id) (crossing : q.crossing = p.crossing) :
    n.Announces s q := by
  refine ⟨announces.stay, ?_, ?_⟩
  · rw [crossing]
    exact announces.inside
  · rw [id]
    exact announces.soon

end Neighbor.Announces

namespace Simulation

variable {start sim : Simulation} {done : List VehicleId} {p r : Participant} {n : Neighbor}

/-- A vehicle that seeks access publishes no time more than one stay for itself and each identifier
    before it ahead. -/
def Published (sim : Simulation) : Prop :=
  ∀ p ∈ sim.vehicles, p.crossing = none → ∀ t, p.controller.beacon.entryTime = some t →
    t.ms ≤ sim.now.ms +
      (sim.settings.client.options.precedence.rank p.id + 1) * sim.settings.client.crossing.ms

/-- The entries of all tables announce when the vehicles are inside. -/
def Announced (sim : Simulation) : Prop :=
  sim.EachEntry fun n q => n.Announces sim.settings q

theorem Informed.reserves (informed : sim.Informed done)
    (reserving : sim.settings.client.protocol = .reservation) (member : p ∈ sim.vehicles) :
    p.controller.reserves = true := by
  simp [Controller.reserves, informed.protocol_eq member, reserving]

theorem Informed.crossingMs_eq (informed : sim.Informed done)
    (reserving : sim.settings.client.protocol = .reservation) (member : p ∈ sim.vehicles) :
    p.controller.beacon.crossingMs = some (UInt64.ofNat sim.settings.client.crossing.ms) := by
  refine (Controller.crossingMs_of_constants (informed.constants p member)).trans ?_
  refine Eq.trans ?_ (Controller.firstBeacon_crossingMs (sim.clientOf p.script))
  simp only [atRest, Controller.ofPolicy, RightOfWay.policyFor_protocol, reserving]

theorem Informed.announces_of_mem (informed : sim.Informed done) (announced : sim.Announced)
    (member : p ∈ sim.vehicles) (seen : n ∈ p.controller.table.entries) :
    ∃ q ∈ sim.vehicles, q.id = n.id ∧ n.Tells sim.settings sim.now (decide (q.id ∈ done)) q ∧
      n.Announces sim.settings q := by
  obtain ⟨q, inside, same, other, tells⟩ := informed.tells_of_mem member seen
  have found := (informed.kept p member).get?_of_mem seen
  rw [← same] at found
  exact ⟨q, inside, same, tells, announced p member q inside other n found⟩

theorem Turning.exit_ms_le (turning : start.Turning sim done p) (announced : sim.Announced)
    (seen : n ∈ (sim.question p).neighbors.neighbors) {exit : Timestamp}
    (said : n.exitTime = some exit) :
    (n.status = .crossing → exit.ms ≤ sim.now.ms + sim.settings.client.crossing.ms) ∧
      (n.status = .requesting → exit.ms ≤ sim.now.ms +
        (sim.settings.client.options.precedence.rank n.id + 2) *
          sim.settings.client.crossing.ms) := by
  obtain ⟨q, inside, same, tells, announces⟩ :=
    turning.informed.announces_of_mem announced turning.member seen
  rw [announces.exitTime_eq] at said
  obtain ⟨t, enters, rfl⟩ := Option.map_eq_some_iff.mp said
  have bound := sim.now.bound_le (decide (q.id ∈ done))
  rw [Timestamp.plus_ms]
  constructor
  · intro crossing
    obtain ⟨i, there, entry⟩ := announces.inside crossing
    have past := (turning.informed.standing q inside).start_lt there
    obtain rfl := Option.some.inj (entry.symm.trans enters)
    omega
  · intro requesting
    have soon := announces.soon requesting t enters
    have past := tells.past
    rw [same] at soon
    rw [Nat.add_mul] at soon ⊢
    omega

/-- No answer names an instant further ahead than the vehicle's rank allows. -/
theorem Turning.safeAt_ms_le (turning : start.Turning sim done p)
    (reserving : sim.settings.client.protocol = .reservation) (announced : sim.Announced)
    (safe : (sim.answer p).isSafe = true) :
    (sim.answer p).safeAt.ms ≤ sim.now.ms +
      (sim.settings.client.options.precedence.rank p.id + 1) *
        sim.settings.client.crossing.ms := by
  rw [answer, reserving] at safe ⊢
  refine RightOfWay.reservation_ms_le (fun _ _ => SlotChoice.select_mem) ?_ safe
  refine ⟨Nat.le_add_right _ _, ?_, ?_⟩
  · intro n inside exit said
    obtain ⟨seen, crossing⟩ := Snapshot.mem_crossing.mp inside
    have soon := (turning.exit_ms_le announced seen said).1 crossing
    rw [Nat.add_mul]
    omega
  · intro n ahead exit said
    obtain ⟨seen, requesting, outranks⟩ := Evaluation.mem_outranking.mp ahead
    have soon := (turning.exit_ms_le announced seen said).2 requesting
    have below := Precedence.rank_lt_of_outranks outranks
    have less := Nat.mul_le_mul_right sim.settings.client.crossing.ms
      (show sim.settings.client.options.precedence.rank n.id + 2 ≤
        sim.settings.client.options.precedence.rank p.id + 1 from Nat.succ_lt_succ below)
    omega

theorem Turning.entry_ms_le (turning : start.Turning sim done p)
    (reliable : start.settings.Reliable)
    (reserving : sim.settings.client.protocol = .reservation) (published : sim.Published)
    (announced : sim.Announced)
    (outside : (p.act sim.settings sim.isDue sim.now).crossing = none) {t : Timestamp}
    (said : (p.act sim.settings sim.isDue sim.now).controller.beacon.entryTime = some t) :
    t.ms ≤ sim.now.ms + (sim.settings.client.options.precedence.rank p.id + 1) *
      sim.settings.client.crossing.ms := by
  rcases turning.acts.entry outside t said with before | ⟨s, c, consults, scheduled⟩
  · exact published p turning.member (turning.acts.outside outside) t before
  · rw [turning.answerAt_eq reliable consults, Clearance.scheduledTime] at scheduled
    split at scheduled
    · next named =>
      obtain rfl := Option.some.inj scheduled
      exact turning.safeAt_ms_le reserving announced (Bool.and_eq_true_iff.mp named).1
    · cases scheduled

theorem Turning.published (turning : start.Turning sim done p)
    (reliable : start.settings.Reliable)
    (reserving : start.settings.client.protocol = .reservation) (published : sim.Published)
    (announced : sim.Announced) : (sim.turn p.id).Published := by
  obtain ⟨own, table, turned, controller, report, -⟩ := turning.turned reliable
  intro r member outside t said
  rw [turned.now, turned.settings]
  rcases turned.mem member with rfl | ⟨old, inside, -, rfl⟩
  · rw [turned.same]
    rw [controller] at said
    have crossing := congrArg VehicleReport.crossing report
    exact turning.entry_ms_le reliable (turning.settings ▸ reserving) published announced
      (crossing.symm.trans outside) said
  · exact published old inside outside t said

/-- The beacon that a vehicle sends at its turn announces when it is inside. -/
theorem Turning.announces (turning : start.Turning sim done p)
    (reliable : start.settings.Reliable)
    (reserving : sim.settings.client.protocol = .reservation) (published : sim.Published)
    (announced : sim.Announced) (sequence : UInt64) :
    (⟨p.id, { (p.act sim.settings sim.isDue sim.now).controller.beacon with sequence }, sim.now⟩ :
      Neighbor).Announces sim.settings (p.act sim.settings sim.isDue sim.now) := by
  have acts := turning.acts
  refine ⟨?_, ?_, ?_⟩
  · exact (Controller.crossingMs_of_constants acts.constants).trans
      (turning.informed.crossingMs_eq reserving turning.member)
  · intro crossing
    obtain ⟨c, inside⟩ := acts.standing.crossing_of_status crossing
    obtain ⟨-, -, -, entry⟩ := acts.standing.of_inside inside
    refine ⟨_, inside, entry ?_⟩
    have protocol := Controller.protocol_of_constants acts.constants
    simp only [Controller.reserves, protocol, turning.informed.protocol_eq turning.member, reserving]
    rfl
  · intro requesting t said
    rw [acts.id]
    exact turning.entry_ms_le reliable reserving published announced
      (acts.standing.crossing_of_requesting requesting) said

theorem Turning.announced (turning : start.Turning sim done p)
    (reliable : start.settings.Reliable)
    (reserving : start.settings.client.protocol = .reservation) (published : sim.Published)
    (announced : sim.Announced) : (sim.turn p.id).Announced := by
  have settings : (sim.turn p.id).settings = sim.settings := by
    obtain ⟨_, _, turned, -⟩ := turning.turned reliable
    exact turned.settings
  rw [Announced, settings]
  exact turning.eachEntry reliable (fun _ _ _ id crossing before => before.congr id crossing)
    (fun _ before => before.of_acts turning.acts)
    (turning.announces reliable (turning.settings ▸ reserving) published announced) announced

theorem Turning.due_of_admits (turning : start.Turning sim done p)
    (reserving : start.settings.client.protocol = .reservation)
    (counted : start.settings.horizon.ms + 256 * start.settings.client.crossing.ms < 2 ^ 63)
    (announced : sim.Announced) {c : Controller} (admits : c.Admits (sim.answer p) sim.now) :
    (sim.answer p).safeAt ≤ sim.now := by
  have clock := isLate_eq_false.mp turning.early
  rw [← turning.settings] at reserving counted
  have known := turning.safeAt_ms_le reserving announced admits.safe
  have rank := sim.settings.client.options.precedence.rank_le p.id
  have most := Nat.mul_le_mul_right sim.settings.client.crossing.ms
    (show sim.settings.client.options.precedence.rank p.id + 1 ≤ 256 by omega)
  rcases admits.ripe with due | ⟨never, -⟩
  · exact due
  · rw [never, Timestamp.unscheduled_ms] at known
    omega

/-- Whoever is in the way and goes first is due out when a vehicle is let in. -/
theorem Turning.isOutBy_of_admits (turning : start.Turning sim done p)
    (reserving : start.settings.client.protocol = .reservation)
    (counted : start.settings.horizon.ms + 256 * start.settings.client.crossing.ms < 2 ^ 63)
    (announced : sim.Announced) {c : Controller} (admits : c.Admits (sim.answer p) sim.now)
    (yields : (sim.question p).YieldsTo sim.topology.conflicts
      sim.settings.client.options.precedence n) : n.IsOutBy sim.now := by
  have due := turning.due_of_admits reserving counted announced admits
  have safe := admits.safe
  rw [← turning.settings] at reserving
  rw [answer, reserving] at safe due
  exact (RightOfWay.isOutBy_of_reservation safe yields).mono due

/-- A vehicle that is seen inside, and is in the way, has been there for one stay when another one
    is let in. -/
theorem Turning.trusted_of_admits (turning : start.Turning sim done p)
    (reserving : start.settings.client.protocol = .reservation)
    (counted : start.settings.horizon.ms + 256 * start.settings.client.crossing.ms < 2 ^ 63)
    (announced : sim.Announced) {c : Controller} (admits : c.Admits (sim.answer p) sim.now)
    (inside : r ∈ sim.vehicles) {t : Timestamp} (there : r.crossing = some ⟨t, none⟩)
    (bars : start.topology.conflicts p.script.route r.script.route = true)
    (seen : n ∈ (sim.question p).neighbors.neighbors) (same : n.id = r.id)
    (crossing : n.status = .crossing) :
    t.ms + start.settings.client.crossing.ms ≤ sim.now.ms := by
  have clock := isLate_eq_false.mp turning.early
  obtain ⟨q, member, id, tells, announces⟩ :=
    turning.informed.announces_of_mem announced turning.member seen
  obtain rfl := turning.informed.ascending.eq_of_id member inside (id.trans same)
  have clash : (sim.question p).clashes sim.topology.conflicts n = true := by
    rw [Evaluation.clashes, tells.route, turning.topology]
    exact bars
  obtain ⟨exit, said, before⟩ := turning.isOutBy_of_admits reserving counted announced admits
    ⟨seen, clash, Or.inl crossing⟩
  obtain ⟨i, entered, entry⟩ := announces.inside crossing
  cases there.symm.trans entered
  have past : t.ms < _ := (turning.informed.standing q member).start_lt there
  have bound := sim.now.bound_le (decide (q.id ∈ done))
  rw [announces.exitTime_eq, entry, Option.map_some] at said
  obtain rfl := Option.some.inj said
  rw [← turning.settings] at counted ⊢
  have out : t.plus sim.settings.client.crossing.ms ≤ sim.now := before
  rwa [Timestamp.le_iff, Timestamp.plus_ms_of_lt (by omega)] at out

theorem Turning.letsIn_of_reservation (turning : start.Turning sim done p)
    (reliable : start.settings.Reliable) (exact : start.settings.gap = 0)
    (reserving : start.settings.client.protocol = .reservation)
    (counted : start.settings.horizon.ms + 256 * start.settings.client.crossing.ms < 2 ^ 63)
    (announced : sim.Announced) :
    sim.LetsIn start.topology.conflicts (some start.settings.client.crossing.ms) p := by
  refine turning.letsIn reliable ?_
  intro s c _ admits _ _ r inside other bars t there
  obtain ⟨n, seen, crossing, -, same⟩ :=
    turning.sees_inside (turning.settings ▸ exact) inside other there
  exact ⟨_, rfl, turning.trusted_of_admits reserving counted announced admits inside there bars seen
    same crossing⟩

theorem Parked.entryTime_eq (parked : sim.Parked) (member : p ∈ sim.vehicles) :
    p.controller.beacon.entryTime = none := by
  obtain ⟨script, rfl⟩ := parked.parked p member
  simp only [Participant.parked, atRest, Controller.ofPolicy, Controller.firstBeacon]
  split <;> rfl

theorem Parked.published (parked : sim.Parked) : sim.Published := by
  intro q member _ t said
  cases (parked.entryTime_eq member).symm.trans said

theorem Published.tickClock (published : sim.Published) (later : sim.now ≤ sim.tickClock.now) :
    sim.tickClock.Published := by
  intro q member outside t said
  exact Nat.le_trans (published q member outside t said) (Nat.add_le_add_right later _)

/-- Vehicles that reserve, and are in each other's way, are inside one after the other, as far as
    they stay no longer than they said. -/
theorem Reaches.inTurn_of_reservation (reached : Reaches start sim) (parked : start.Parked)
    (reliable : start.settings.Reliable) (exact : start.settings.gap = 0)
    (reserving : start.settings.client.protocol = .reservation)
    (counted : start.settings.horizon.ms + 256 * start.settings.client.crossing.ms < 2 ^ 63) :
    sim.EachPair (VehicleReport.InTurn start.topology.conflicts
      (some start.settings.client.crossing.ms)) := by
  refine reached.inTurn reliable parked start.topology.conflicts_comm
    (fun _ mid => mid.Published ∧ mid.Announced) ⟨parked.published, parked.eachEntry _⟩ ?_ ?_
    (fun _ _ _ turning here =>
      turning.letsIn_of_reservation reliable exact reserving counted here.2)
  · rintro done mid p turning ⟨published, announced⟩
    exact ⟨turning.published reliable reserving published announced,
      turning.announced reliable reserving published announced⟩
  · rintro mid same early ⟨published, announced⟩
    have clock := isLate_eq_false.mp early
    have room := reliable.counted
    rw [← same] at room
    refine ⟨published.tickClock ?_, announced⟩
    rw [Timestamp.le_iff, tickClock, Timestamp.advance_ms_of_lt (by omega)]
    exact Nat.le_add_right _ _

/-- Vehicles that reserve, and hear each other at once, do not get into each other's way, if none
    stays inside for longer than all of them say. Such a run ends if the cycle can be counted. -/
theorem exclusion_of_reservation {settings : SimulationSettings} {topology : Topology}
    {scripts : List Script} {fresh sim : Simulation}
    (created : create settings topology = .ok fresh)
    (added : fresh.addScripts scripts = (sim, none))
    (protocol : settings.client.protocol = .reservation) (delivery : settings.delivery = .immediate)
    (moves : 1 ≤ settings.step.millis)
    (remembered : settings.step.millis ≤ settings.client.thresholdMs)
    (counted : settings.horizon.millis + settings.step.millis +
      300 * settings.client.crossing.millis < 2 ^ 63) :
    (settings.client.cycle.ms ≠ 0 →
        ∃ n final, ∀ limit, n ≤ limit → sim.run limit = .ok final) ∧
      ∀ limit final, sim.run limit = .ok final →
        (∀ a ∈ final.report.vehicles, ∀ i, a.crossing = some i →
          (i.stopBy (final.now.advance 1)).ms ≤ i.start.ms + settings.client.crossing.millis) →
        final.report.violations = [] := by
  obtain ⟨-, rfl, rfl, parked⟩ := parked_of_added created added
  obtain ⟨reliable, exact⟩ :=
    SimulationSettings.reliable_of_immediate delivery moves remembered (by omega)
  have stay : sim.settings.client.crossing.ms = sim.settings.client.crossing.millis :=
    Duration.ms_of_millis_lt (by omega)
  have horizon := sim.settings.horizon.ms_le_millis
  constructor
  · exact run_ends_of_reliable reliable
  · intro limit final ran honest
    refine violations_eq_nil_of_run ran reliable parked (some sim.settings.client.crossing.ms)
      (fun last reached => reached.inTurn_of_reservation parked reliable exact protocol (by omega))
      ?_
    intro p member i crossing d same
    obtain rfl := Option.some.inj same
    rw [stay]
    exact honest p.report (List.mem_map_of_mem member) i crossing

def reservingAtOnce : SimulationSettings :=
  { SimulationSettings.standard { Settings.standard with protocol := .reservation } with
    step := .ofMillis 1000 }

/-- Nobody stays inside for longer than `stay`. -/
def keepsTo (stay : Nat) (final : Simulation) : Bool :=
  final.report.vehicles.all fun a => a.crossing.all fun i =>
    decide ((i.stopBy (final.now.advance 1)).ms ≤ i.start.ms + stay)

theorem exclusion_of_reservation_rushHour :
    create reservingAtOnce Topology.fourWay = .ok (onFourWay reservingAtOnce) ∧
      (onFourWay reservingAtOnce).addScripts Scenario.rush.scripts =
        (rushHour reservingAtOnce, none) ∧
      ∃ final, (rushHour reservingAtOnce).run 8 = .ok final ∧
        (∀ a ∈ final.report.vehicles, ∀ i, a.crossing = some i →
          (i.stopBy (final.now.advance 1)).ms ≤
            i.start.ms + reservingAtOnce.client.crossing.millis) ∧
        final.report.violations = [] := by
  have created : create reservingAtOnce Topology.fourWay = .ok (onFourWay reservingAtOnce) :=
    create_onFourWay rfl
  have added : (onFourWay reservingAtOnce).addScripts Scenario.rush.scripts =
      (rushHour reservingAtOnce, none) := addScripts_rush (by decide +kernel)
  have ended : ((rushHour reservingAtOnce).run 8).toOption.any
      (keepsTo reservingAtOnce.client.crossing.millis) = true := by decide +kernel
  cases ran : (rushHour reservingAtOnce).run 8 with
  | error fault =>
      rw [ran] at ended
      cases ended
  | ok final =>
      rw [ran] at ended
      have honest : ∀ a ∈ final.report.vehicles, ∀ i, a.crossing = some i →
          (i.stopBy (final.now.advance 1)).ms ≤
            i.start.ms + reservingAtOnce.client.crossing.millis := by
        intro a member i crossing
        have kept := List.all_eq_true.mp ended a member
        rw [crossing] at kept
        exact of_decide_eq_true kept
      exact ⟨created, added, final, rfl, honest,
        (exclusion_of_reservation created added rfl rfl (by decide) (by decide) (by decide)).2
          8 final ran honest⟩

end Simulation

end Junction
