import Junction.Proofs.RightOfWay.Admission
import Junction.Proofs.Simulation.Debounce
import Junction.Proofs.Simulation.Renewal

/-! # Vehicles that go in unaware of each other

Where beacons are sent at intervals, a vehicle that has been let in still seems to wait, until its
next beacon has told the others. The parallel and the reserving rule let in at once a vehicle that
goes before all that wait. So one that sets out in the meantime, and goes before the one inside,
does not know better and goes in as well. Unless stays are so short that a published time of entry
is taken to be over, this is the only way in which two vehicles that are in each other's way come to
be inside together.
-/

namespace Junction

/-- `a` was let in behind `b`, but less than `window` milliseconds behind, so it may not have heard
    of that. Where matters are `settled`, it set out in the meantime, and goes before `b`. -/
def VehicleReport.UnawareOf (first : Precedence) (window : Nat) (settled : Prop)
    (a b : VehicleReport) : Prop :=
  ∃ i j s, a.crossing = some i ∧ b.crossing = some j ∧ a.startedAt = some s ∧
    j.start ≤ i.start ∧ i.start.ms < j.start.ms + window ∧
    (settled → first.outranks a.id b.id = true ∧ j.start ≤ s)

/-- If `a` goes before `b` and sets out when `b` has been let in, it is let in itself no earlier than
    `window` milliseconds later. -/
def VehicleReport.Patient (first : Precedence) (window : Nat) (a b : VehicleReport) : Prop :=
  first.outranks a.id b.id = true → ∀ s ∈ a.startedAt, ∀ i ∈ a.crossing, ∀ j ∈ b.crossing,
    j.start ≤ s → s.ms + window ≤ i.start.ms

instance {first : Precedence} {window : Nat} {a b : VehicleReport} :
    Decidable (a.Patient first window b) :=
  inferInstanceAs (Decidable (_ → _))

/-- Whoever waits is seen to wait for long enough: always under the parallel rule, and under the
    reserving rule if vehicles stay inside for the longest interval between two beacons, a step and
    a decision cycle. -/
def SimulationSettings.Settles (s : SimulationSettings) : Prop :=
  s.client.protocol = .parallel ∨
    s.client.maxPeriod.millis + s.step.millis + s.client.cycle.millis ≤ s.client.crossing.millis

namespace VehicleReport

variable {first : Precedence} {window : Nat} {settled : Prop}

theorem lasting_unawareOf : Lasting (UnawareOf first window settled) := by
  intro now p q standing acts was r
  have begun : ∀ s, p.startedAt = some s → q.startedAt = some s := by
    intro s started
    rcases acts.started with kept | ⟨none, -⟩
    · exact kept.trans started
    · cases none.symm.trans started
  have id : q.report.id = p.report.id := acts.id
  constructor
  · rintro ⟨i, j, s, hi, hj, started, behind, soon, why⟩
    obtain ⟨k, hk, same⟩ := acts.start_eq hi
    refine ⟨k, j, s, hk, hj, begun s started, ?_⟩
    rw [same, id]
    exact ⟨behind, soon, why⟩
  · rintro ⟨i, j, s, hi, hj, started, behind, soon, why⟩
    obtain ⟨k, hk, same⟩ := acts.start_eq hj
    refine ⟨i, k, s, hi, hk, started, ?_⟩
    rw [same, id]
    exact ⟨behind, soon, why⟩

theorem Patient.aware {a b : VehicleReport} (patient : a.Patient first window b)
    (matters : settled) : ¬a.UnawareOf first window settled b := by
  rintro ⟨i, j, s, hi, hj, started, -, soon, why⟩
  obtain ⟨ahead, late⟩ := why matters
  have waited := patient ahead s started i hi j hj late
  rw [Timestamp.le_iff] at late
  omega

end VehicleReport

namespace Simulation

variable {start sim : Simulation} {done : List VehicleId} {p r : Participant}

/-- Whoever is seen inside and bars the way of a vehicle that is let in, has been inside for as long
    as its stay is trusted to last. -/
def SeesOut (barred : ConflictTest) (stay : Option Nat) (sim : Simulation) (p : Participant) :
    Prop :=
  ∀ c : Controller, c.Admits (sim.answer p) sim.now → ∀ r ∈ sim.vehicles,
    barred p.script.route r.script.route = true → ∀ t, r.crossing = some ⟨t, none⟩ →
      ∀ n ∈ (sim.question p).neighbors.neighbors, n.id = r.id → n.route = r.script.route →
        n.status = .crossing → ∃ d, stay = some d ∧ t.ms + d ≤ sim.now.ms

/-- A vehicle that is let in goes before all that seem to wait and that bar its way. -/
def Prevails (barred : ConflictTest) (first : Precedence) (sim : Simulation) (p : Participant) :
    Prop :=
  ∀ c : Controller, c.Admits (sim.answer p) sim.now →
    ∀ n ∈ (sim.question p).neighbors.neighbors, n.status = .requesting →
      barred p.script.route n.route = true → first.outranks n.id p.id = false

theorem Turning.givesWay_of_prevails (turning : start.Turning sim done p)
    (reliable : start.settings.Reliable) {barred : ConflictTest} {first : Precedence}
    (prevails : sim.Prevails barred first p)
    (before : sim.EachPair (VehicleReport.GivesWay barred first)) :
    (sim.turn p.id).EachPair (VehicleReport.GivesWay barred first) := by
  refine turning.givesWay reliable ?_ before
  intro s c _ admits r inside other started outside bars
  obtain ⟨n, seen, same, tells⟩ :=
    turning.informed.exists_entry turning.member inside other started
  have lower := prevails c admits n seen (tells.outside outside) (by rw [tells.route]; exact bars)
  rw [same] at lower
  exact (first.outranks_total other).resolve_left (Bool.eq_false_iff.mp lower)

/-- A vehicle let in behind another one that it does not see inside is unaware of it. -/
theorem Turning.letsInUnless_unaware (turning : start.Turning sim done p)
    (reliable : start.settings.Reliable) {barred : ConflictTest}
    (symmetric : ∀ r s, barred r s = barred s r) {stay : Option Nat} {first : Precedence}
    {settled : Prop} (sees : sim.SeesOut barred stay p)
    (prevails : settled → sim.Prevails barred first p)
    (before : settled → sim.EachPair (VehicleReport.GivesWay barred first)) :
    sim.LetsInUnless barred stay
      (VehicleReport.UnawareOf first (start.settings.gap + start.settings.step.ms) settled) p := by
  refine turning.letsInUnless reliable ?_
  intro s c consults admits outside began opened r inside other bars t there
  obtain ⟨started, past, -⟩ := (turning.informed.standing r inside).of_inside there
  obtain ⟨n, seen, same, tells⟩ :=
    turning.informed.exists_entry turning.member inside other started
  rcases tells.inside t there with crossing | ⟨requesting, heard⟩
  · exact Or.inl (sees c admits r inside bars t there n seen same tells.route crossing)
  · -- the peer was heard before it was let in, and that is less than a window ago
    have bound := sim.now.bound_le (decide (r.id ∈ done))
    have fresh := tells.fresh
    rw [turning.settings] at fresh
    rw [Timestamp.lt_iff] at heard
    refine Or.inr ⟨_, _, s, opened, there, began, ?_, ?_, ?_⟩
    · rw [Timestamp.le_iff]
      exact Nat.le_of_lt_succ (Nat.lt_of_lt_of_le past bound)
    · change sim.now.ms < t.ms + (start.settings.gap + start.settings.step.ms)
      split at fresh <;> omega
    · intro matters
      have lower := prevails matters c admits n seen requesting (by rw [tells.route]; exact bars)
      rw [same] at lower
      rw [show (p.act sim.settings sim.isDue sim.now).report.id = p.id from turning.acts.id]
      refine ⟨(first.outranks_total other).resolve_left (Bool.eq_false_iff.mp lower), ?_⟩
      change t ≤ s
      rcases turning.acts.started with kept | ⟨-, now⟩
      · rw [symmetric] at bars
        have goes := before matters r inside p turning.member other bars t s there outside
          (kept.symm.trans began)
        exact goes.resolve_left (Bool.eq_false_iff.mp lower)
      · obtain rfl := Option.some.inj (now.symm.trans began)
        rw [Timestamp.le_iff]
        omega

/-- Throughout a run, vehicles that bar each other's way are inside one after the other, or the one
    that was let in last is unaware of the other. -/
theorem Reaches.apart_unaware (reached : Reaches start sim) (reliable : start.settings.Reliable)
    (parked : start.Parked) {barred : ConflictTest} (symmetric : ∀ r s, barred r s = barred s r)
    {stay : Option Nat} {first : Precedence} {settled : Prop}
    (holds : List VehicleId → Simulation → Prop) (begun : holds [] start)
    (turn : ∀ done mid p, start.Turning mid done p → holds done mid →
      holds (done ++ [p.id]) (mid.turn p.id))
    (tick : ∀ mid, mid.settings = start.settings → mid.isLate = false →
      holds (mid.vehicles.map Participant.id) mid → holds [] mid.tickClock)
    (sees : ∀ done mid p, start.Turning mid done p → holds done mid → mid.SeesOut barred stay p)
    (prevails : settled → ∀ done mid p, start.Turning mid done p → holds done mid →
      mid.Prevails barred first p) :
    sim.EachPair (VehicleReport.Apart barred stay
      (VehicleReport.UnawareOf first (start.settings.gap + start.settings.step.ms) settled)) := by
  refine reached.apart reliable parked symmetric VehicleReport.lasting_unawareOf
    (fun done mid => holds done mid ∧
      (settled → mid.EachPair (VehicleReport.GivesWay barred first)))
    ⟨begun, fun _ => parked.givesWay⟩ ?_ ?_ ?_
  · rintro done mid p turning ⟨here, before⟩
    exact ⟨turn done mid p turning here, fun matters => turning.givesWay_of_prevails reliable
      (prevails matters done mid p turning here) (before matters)⟩
  · rintro mid same early ⟨here, before⟩
    exact ⟨tick mid same early here, before⟩
  · rintro done mid p turning ⟨here, before⟩
    exact turning.letsInUnless_unaware reliable symmetric (sees done mid p turning here)
      (fun matters => prevails matters done mid p turning here) before

theorem Reaches.apart_of_parallel (reached : Reaches start sim) (parked : start.Parked)
    (reliable : start.settings.Reliable) (parallel : start.settings.client.protocol = .parallel)
    (settled : Prop) :
    sim.EachPair (VehicleReport.Apart start.topology.conflicts none
      (VehicleReport.UnawareOf start.settings.client.options.precedence
        (start.settings.gap + start.settings.step.ms) settled)) := by
  refine reached.apart_unaware reliable parked start.topology.conflicts_comm (fun _ _ => True)
    trivial (fun _ _ _ _ _ => trivial) (fun _ _ _ _ => trivial) ?_ ?_
  · intro done mid p turning _ c admits r _ bars t _ n seen _ route crossing
    have safe := admits.safe
    rw [answer, turning.settings, parallel] at safe
    have free := RightOfWay.not_clashing_of_parallel safe seen crossing
    rw [Evaluation.clashes, route, turning.topology] at free
    cases bars.symm.trans free
  · intro _ done mid p turning _ c admits n seen requesting bars
    have safe := admits.safe
    rw [answer, turning.settings, parallel] at safe
    refine RightOfWay.not_outranked_of_parallel safe seen requesting ?_
    rw [Evaluation.clashes, turning.topology]
    exact bars

theorem Reaches.apart_of_reservation (reached : Reaches start sim) (parked : start.Parked)
    (reliable : start.settings.Reliable)
    (reserving : start.settings.client.protocol = .reservation)
    (cycle : 0 < start.settings.client.cycle.ms)
    (counted : start.settings.horizon.ms + 256 * start.settings.client.crossing.ms < 2 ^ 63)
    {settled : Prop}
    (room : settled → start.settings.gap + start.settings.step.ms +
      start.settings.client.cycle.ms ≤ start.settings.client.crossing.ms) :
    sim.EachPair (VehicleReport.Apart start.topology.conflicts
      (some start.settings.client.crossing.ms)
      (VehicleReport.UnawareOf start.settings.client.options.precedence
        (start.settings.gap + start.settings.step.ms) settled)) := by
  -- what is announced bounds the exits, what is renewed keeps published times from getting old
  refine reached.apart_unaware reliable parked start.topology.conflicts_comm
    (fun done mid => mid.Published ∧ mid.Announced ∧ mid.Renewed done ∧ mid.Timely)
    ⟨parked.published, parked.eachEntry _, parked.renewed, parked.eachEntry _⟩ ?_ ?_ ?_ ?_
  · rintro done mid p turning ⟨published, announced, renewed, timely⟩
    have reserves := turning.settings ▸ reserving
    exact ⟨turning.published reliable reserving published announced,
      turning.announced reliable reserving published announced,
      turning.renewed reliable reserves renewed,
      turning.timely reliable reserves (turning.settings ▸ cycle) renewed timely⟩
  · rintro mid same early ⟨published, announced, renewed, timely⟩
    have clock := isLate_eq_false.mp early
    have room := reliable.counted
    rw [← same] at room
    have later : mid.tickClock.now.ms = mid.now.ms + mid.settings.step.ms :=
      Timestamp.advance_ms_of_lt (by omega)
    refine ⟨published.tickClock ?_, announced, renewed.tickClock later, timely⟩
    rw [Timestamp.le_iff, later]
    exact Nat.le_add_right _ _
  · rintro done mid p turning ⟨-, announced, -, -⟩ c admits r inside bars t there n seen same - crossing
    exact ⟨_, rfl, turning.trusted_of_admits reserving counted announced admits inside there bars
      seen same crossing⟩
  · rintro matters done mid p turning ⟨-, announced, -, timely⟩ c admits n seen requesting bars
    exact turning.not_outranked_of_admits reserving counted (room matters) announced timely admits
      seen requesting bars

/-- Where beacons are sent at intervals and none is lost, two vehicles are listed by the parallel or
    the reserving rule only if the later one was let in less than the longest interval between two
    beacons and a step behind the other. Where matters settle, it also set out in that time, and
    goes before the other one. So nothing is listed if whoever sets out to go before a vehicle that
    has been let in has that much patience. The run ends. -/
theorem unawareOf_of_mem_violations {settings : SimulationSettings} {topology : Topology}
    {scripts : List Script} {fresh sim : Simulation}
    (created : create settings topology = .ok fresh)
    (added : fresh.addScripts scripts = (sim, none))
    (protocol : settings.client.protocol = .parallel ∨ settings.client.protocol = .reservation)
    (delivery : settings.delivery = .periodic 0.0) (moves : 1 ≤ settings.step.millis)
    (decides : 1 ≤ settings.client.cycle.millis) (cycle : settings.client.cycle.millis < 2 ^ 64)
    (remembered : settings.client.maxPeriod.millis + settings.step.millis ≤
      settings.client.thresholdMs)
    (counted : settings.horizon.millis + settings.step.millis +
      300 * settings.client.crossing.millis < 2 ^ 63) :
    (∃ n final, ∀ limit, n ≤ limit → sim.run limit = .ok final) ∧
      ∀ limit final, sim.run limit = .ok final →
        (settings.client.protocol = .reservation →
          ∀ a ∈ final.report.vehicles, ∀ i, a.crossing = some i →
            (i.stopBy (final.now.advance 1)).ms ≤
              i.start.ms + settings.client.crossing.millis) →
        (∀ v ∈ final.report.violations,
          ∃ a ∈ final.report.vehicles, ∃ b ∈ final.report.vehicles,
            (v.first = a.id ∧ v.second = b.id ∨ v.first = b.id ∧ v.second = a.id) ∧
              a.UnawareOf settings.client.options.precedence
                (settings.client.maxPeriod.millis + settings.step.millis) settings.Settles b) ∧
        (settings.Settles →
          (∀ a ∈ final.report.vehicles, ∀ b ∈ final.report.vehicles,
            a.Patient settings.client.options.precedence
              (settings.client.maxPeriod.millis + settings.step.millis) b) →
          final.report.violations = []) := by
  obtain ⟨valid, rfl, rfl, parked⟩ := parked_of_added created added
  obtain ⟨reliable, gap⟩ :=
    SimulationSettings.reliable_of_periodic valid delivery moves remembered (by omega)
  have step : sim.settings.step.ms = sim.settings.step.millis :=
    Duration.ms_of_millis_lt (by omega)
  have stay : sim.settings.client.crossing.ms = sim.settings.client.crossing.millis :=
    Duration.ms_of_millis_lt (by omega)
  have decision : sim.settings.client.cycle.ms = sim.settings.client.cycle.millis :=
    Duration.ms_of_millis_lt cycle
  have horizon := sim.settings.horizon.ms_le_millis
  refine ⟨run_ends_of_reliable reliable (by omega), ?_⟩
  intro limit final ran honest
  have listed : ∀ v ∈ final.report.violations,
      ∃ a ∈ final.report.vehicles, ∃ b ∈ final.report.vehicles,
        (v.first = a.id ∧ v.second = b.id ∨ v.first = b.id ∧ v.second = a.id) ∧
          a.UnawareOf sim.settings.client.options.precedence
            (sim.settings.client.maxPeriod.millis + sim.settings.step.millis)
            sim.settings.Settles b := by
    intro v member
    rw [← gap, ← step]
    rcases protocol with parallel | reserving
    · exact excused_of_run ran reliable parked none
        (fun last reached => reached.apart_of_parallel parked reliable parallel _)
        (fun _ _ _ _ _ h => by cases h) member
    · refine excused_of_run ran reliable parked (some sim.settings.client.crossing.ms)
        (fun last reached => reached.apart_of_reservation parked reliable reserving (by omega)
          (by omega) ?_) ?_ member
      · rintro (parallel | room)
        · cases reserving.symm.trans parallel
        · omega
      · intro p inside i crossing d same
        obtain rfl := Option.some.inj same
        rw [stay]
        exact honest reserving p.report (List.mem_map_of_mem inside) i crossing
  refine ⟨listed, ?_⟩
  intro settled patient
  refine List.eq_nil_iff_forall_not_mem.mpr fun v member => ?_
  obtain ⟨a, ha, b, hb, -, unaware⟩ := listed v member
  exact (patient a ha b hb).aware settled unaware

/-- Two minutes in half seconds, beacons being sent up to a second apart. -/
def atIntervals (client : Settings) : SimulationSettings :=
  { SimulationSettings.standard client with
    seed := 0
    delivery := .periodic 0.0
    step := .ofMillis 500 }

/-- The vehicle from the east waits until it can go in together with the one from the north. Just then
    one comes from the south. -/
def lateFromSouth : List Script := [
  ⟨⟨20⟩, ⟨⟨"N"⟩, ⟨"S"⟩⟩, .wrapping 0, usualDistance⟩,
  ⟨⟨3⟩, ⟨⟨"E"⟩, ⟨"N"⟩⟩, .wrapping 500, usualDistance⟩,
  ⟨⟨4⟩, ⟨⟨"S"⟩, ⟨"N"⟩⟩, .wrapping 3000, usualDistance⟩]

/-- The vehicle from the north lets in two that are in each other's way. -/
def rivalJoiners : List Script := [
  ⟨⟨20⟩, ⟨⟨"N"⟩, ⟨"S"⟩⟩, .wrapping 0, usualDistance⟩,
  ⟨⟨4⟩, ⟨⟨"S"⟩, ⟨"N"⟩⟩, .wrapping 300, usualDistance⟩,
  ⟨⟨3⟩, ⟨⟨"E"⟩, ⟨"N"⟩⟩, .wrapping 300, usualDistance⟩]

/-- Reservations that are decided upon every second. -/
def reservingEverySecond : Settings :=
  { Settings.standard with protocol := .reservation, cycle := .ofMillis 1000 }

theorem violations_ne_nil {r : Report} (unsafely : r.isSafe = false) :
    r.violations ≠ [] := by
  intro none
  rw [Report.isSafe, none] at unsafely
  cases unsafely

theorem exists_run_lateFromSouth :
    ∃ final, (fourWayWith (atIntervals .standard) lateFromSouth).run 12 = .ok final ∧
      final.report.isSafe = false :=
  exists_run (by decide +kernel)

theorem unawareOf_of_mem_violations_lateFromSouth :
    (create (atIntervals .standard) Topology.fourWay = .ok (onFourWay (atIntervals .standard)) ∧
      (onFourWay (atIntervals .standard)).addScripts lateFromSouth =
        (fourWayWith (atIntervals .standard) lateFromSouth, none) ∧
      ∃ final, (fourWayWith (atIntervals .standard) lateFromSouth).run 12 = .ok final ∧
        final.report.violations ≠ [] ∧
        ∀ v ∈ final.report.violations,
          ∃ a ∈ final.report.vehicles, ∃ b ∈ final.report.vehicles,
            (v.first = a.id ∧ v.second = b.id ∨ v.first = b.id ∧ v.second = a.id) ∧
              a.UnawareOf .higherFirst 1500 (atIntervals .standard).Settles b) ∧
      ∃ final, (fourWayWith (atIntervals reservingEverySecond) rivalJoiners).run 40 = .ok final ∧
        final.report.allFinished = true ∧ final.report.violations = [] := by
  constructor
  · have created : create (atIntervals .standard) Topology.fourWay =
        .ok (onFourWay (atIntervals .standard)) := create_onFourWay rfl
    have added : (onFourWay (atIntervals .standard)).addScripts lateFromSouth =
        (fourWayWith (atIntervals .standard) lateFromSouth, none) :=
      addScripts_fourWayWith (by decide +kernel)
    obtain ⟨final, ran, listed⟩ := exists_run_lateFromSouth
    have told := (unawareOf_of_mem_violations created added (Or.inl rfl) rfl (by decide) (by decide)
      (by decide) (by decide) (by decide)).2 12 final ran (fun other => by cases other)
    exact ⟨created, added, final, ran, violations_ne_nil listed, told.1⟩
  · have ended : ∃ final,
        (fourWayWith (atIntervals reservingEverySecond) rivalJoiners).run 40 = .ok final ∧
        final.report.allFinished = true ∧
        (∀ a ∈ final.report.vehicles, ∀ i ∈ a.crossing,
          (i.stopBy (final.now.advance 1)).ms ≤ i.start.ms + 4000) ∧
        ∀ a ∈ final.report.vehicles, ∀ b ∈ final.report.vehicles,
          a.Patient .higherFirst 1500 b := exists_run (by decide +kernel)
    obtain ⟨final, ran, finished, honest, patient⟩ := ended
    have told := (unawareOf_of_mem_violations (create_onFourWay rfl)
      (addScripts_fourWayWith (by decide +kernel)) (Or.inr rfl) rfl (by decide) (by decide)
      (by decide) (by decide) (by decide)).2 40 final ran (fun _ => honest)
    exact ⟨final, ran, finished, told.2 (Or.inr (by decide)) patient⟩

/-- Reservations for a fifth of a second, which is less than the time between two beacons. -/
def shortStays : SimulationSettings :=
  { SimulationSettings.standard
      { Settings.standard with
        protocol := .reservation
        crossing := .ofMillis 200
        maxSpeed := 20
        options := { precedence := .lowerFirst, slots := .firstFit } } with
    seed := 11
    delivery := .periodic 0.0 }

/-- Without room for the age of what was published, a vehicle goes in beside one that goes before it:
    the time that it knows of that one has come, and the stay that was to follow is over. -/
example : ((fourWayWith shortStays [
      ⟨⟨1⟩, ⟨⟨"N"⟩, ⟨"S"⟩⟩, .wrapping 100, usualDistance⟩,
      ⟨⟨2⟩, ⟨⟨"E"⟩, ⟨"W"⟩⟩, .wrapping 500, usualDistance⟩,
      ⟨⟨3⟩, ⟨⟨"S"⟩, ⟨"W"⟩⟩, .wrapping 500, usualDistance⟩]).run 12).toOption.map
    (fun final => final.report.violations) =
      some [⟨⟨2⟩, ⟨3⟩, .wrapping 1000, .wrapping 1100⟩] := by decide +kernel

/-- Under a rule no two vehicles are listed if beacons are sent at intervals and none is lost,
    positive answers are repeated and peers are remembered for the longest interval between two
    beacons and a step, and vehicles that reserve stay inside no longer than they said. -/
def KeepsApart (protocol : Protocol) : Prop :=
  ∀ (settings : SimulationSettings) (topology : Topology) (scripts : List Script)
    (fresh sim : Simulation), create settings topology = .ok fresh →
      fresh.addScripts scripts = (sim, none) → settings.client.protocol = protocol →
      settings.delivery = .periodic 0.0 → 1 ≤ settings.step.millis →
      1 ≤ settings.client.cycle.millis → settings.client.cycle.millis < 2 ^ 64 →
      settings.client.minSafe.millis < 2 ^ 64 →
      settings.client.maxPeriod.millis + settings.step.millis ≤ settings.client.minSafe.millis →
      settings.client.maxPeriod.millis + settings.step.millis ≤ settings.client.thresholdMs →
      settings.horizon.millis + settings.step.millis +
        300 * settings.client.crossing.millis < 2 ^ 63 →
      ∀ limit final, sim.run limit = .ok final →
        (protocol = .reservation → ∀ a ∈ final.report.vehicles, ∀ i, a.crossing = some i →
          (i.stopBy (final.now.advance 1)).ms ≤
            i.start.ms + settings.client.crossing.millis) →
        final.report.violations = []

/-- The vehicle from the south sets out when the one from the east goes in. -/
def lateBehindEast : List Script := [
  ⟨⟨3⟩, ⟨⟨"E"⟩, ⟨"N"⟩⟩, .wrapping 500, usualDistance⟩,
  ⟨⟨4⟩, ⟨⟨"S"⟩, ⟨"N"⟩⟩, .wrapping 1000, usualDistance⟩]

theorem not_keepsApart : ¬KeepsApart .parallel ∧ ¬KeepsApart .reservation := by
  constructor
  · intro keeps
    obtain ⟨final, ran, listed⟩ := exists_run_lateFromSouth
    exact violations_ne_nil listed (keeps _ _ _ _ _ (create_onFourWay rfl)
      (addScripts_fourWayWith (by decide +kernel)) rfl rfl (by decide) (by decide) (by decide)
      (by decide) (by decide) (by decide) (by decide) 12 final ran (fun other => by cases other))
  · intro keeps
    have ended : ∃ final,
        (fourWayWith (atIntervals reservingEverySecond) lateBehindEast).run 12 = .ok final ∧
        final.report.isSafe = false ∧
        ∀ a ∈ final.report.vehicles, ∀ i ∈ a.crossing,
          (i.stopBy (final.now.advance 1)).ms ≤ i.start.ms + 4000 := exists_run (by decide +kernel)
    obtain ⟨final, ran, listed, honest⟩ := ended
    exact violations_ne_nil listed (keeps _ _ _ _ _ (create_onFourWay rfl)
      (addScripts_fourWayWith (by decide +kernel)) rfl rfl (by decide) (by decide) (by decide)
      (by decide) (by decide) (by decide) (by decide) 12 final ran (fun _ => honest))

end Simulation

end Junction
