import Junction.Proofs.Simulation.Chronicle
import Junction.Proofs.Simulation.Exclusion

/-! # What the report lists

Two vehicles are listed exactly if their routes conflict and some step of the run has shown both of
them inside. The list tells when that was first so, and when the first of them left.
-/

namespace Junction

namespace Simulation

def shows (status : Status) (v : VehicleId) (sim : Simulation) : Bool :=
  sim.vehicles.any fun p => p.id == v && p.controller.status == status

def showsBoth (v w : VehicleId) (sim : Simulation) : Bool :=
  sim.shows .crossing v && sim.shows .crossing w

/-- When something was first seen after a step. -/
def firstTime? (seen : Simulation → Bool) (steps : List Simulation) : Option Timestamp :=
  (steps.find? seen).map now

/-- When a vehicle was first seen behind the crossing, or one millisecond past the end of the run,
    if it never was. -/
def leaving (steps : List Simulation) (final : Simulation) (v : VehicleId) : Timestamp :=
  (firstTime? (shows .exiting v) steps).getD (final.now.advance 1)

variable {start sim mid : Simulation} {steps : List Simulation} {p q : Participant}
  {i j : Interval} {t u : Timestamp}

theorem firstTime?_eq_none {seen : Simulation → Bool}
    (never : ∀ mid ∈ steps, ¬seen mid = true) : firstTime? seen steps = none := by
  rw [firstTime?, List.find?_eq_none.mpr never]
  rfl

theorem firstTime?_isSome {seen : Simulation → Bool} :
    (firstTime? seen steps).isSome = true ↔ ∃ mid ∈ steps, seen mid = true := by
  simp [firstTime?]

theorem firstTime?_eq_some {seen : Simulation → Bool} (ordered : steps.Pairwise (·.now < ·.now))
    (member : mid ∈ steps) (sees : seen mid = true)
    (first : ∀ other ∈ steps, seen other = true → mid.now ≤ other.now) :
    firstTime? seen steps = some mid.now := by
  induction steps with
  | nil => cases member
  | cons s rest ih =>
      obtain ⟨before, tail⟩ := List.pairwise_cons.mp ordered
      rw [firstTime?, List.find?_cons]
      cases here : seen s with
      | true =>
          rcases List.mem_cons.mp member with rfl | later
          · rfl
          · exact absurd (first s List.mem_cons_self here)
              (Timestamp.not_le.mpr (before mid later))
      | false =>
          rcases List.mem_cons.mp member with rfl | later
          · cases here.symm.trans sees
          · exact ih tail later fun other there => first other (List.mem_cons_of_mem _ there)

namespace Told

theorem seen (told : start.Told steps sim) (member : p ∈ sim.vehicles) (inside : mid ∈ steps) :
    ∃ r ∈ mid.vehicles, r.id = p.id := by
  have listed : p.script ∈ mid.vehicles.map Participant.script := by
    rw [told.same mid inside, ← told.scripts]
    exact List.mem_map_of_mem member
  obtain ⟨r, there, script⟩ := List.mem_map.mp listed
  exact ⟨r, there, congrArg Script.id script⟩

theorem shows_crossing_iff (told : start.Told steps sim) (member : p ∈ sim.vehicles)
    (inside : mid ∈ steps) :
    mid.shows .crossing p.id = true ↔ ∃ i, p.crossing = some i ∧ i.Covers mid.now := by
  have recorded := told.recorded p member
  simp only [shows, List.any_eq_true, Bool.and_eq_true, beq_iff_eq]
  constructor
  · rintro ⟨r, there, same, status⟩
    exact (recorded.status_crossing_iff inside there same (told.stood mid inside r there)).mp status
  · intro covered
    obtain ⟨r, there, same⟩ := told.seen member inside
    exact ⟨r, there, same,
      (recorded.status_crossing_iff inside there same (told.stood mid inside r there)).mpr covered⟩

theorem shows_exiting_iff (told : start.Told steps sim) (member : p ∈ sim.vehicles)
    (inside : mid ∈ steps) :
    mid.shows .exiting p.id = true ↔
      ∃ i e, p.crossing = some i ∧ i.stop = some e ∧ e ≤ mid.now := by
  have recorded := told.recorded p member
  have standing := told.standing p member
  simp only [shows, List.any_eq_true, Bool.and_eq_true, beq_iff_eq]
  constructor
  · rintro ⟨r, there, same, status⟩
    exact (recorded.status_exiting_iff inside there same
      (told.stood mid inside r there) standing).mp status
  · intro ended
    obtain ⟨r, there, same⟩ := told.seen member inside
    exact ⟨r, there, same, (recorded.status_exiting_iff inside there same
      (told.stood mid inside r there) standing).mpr ended⟩

theorem showsBoth_iff (told : start.Told steps sim) (hp : p ∈ sim.vehicles)
    (hq : q ∈ sim.vehicles) (inside : mid ∈ steps) :
    mid.showsBoth p.id q.id = true ↔
      ∃ i j, p.crossing = some i ∧ q.crossing = some j ∧ i.Covers mid.now ∧ j.Covers mid.now := by
  rw [showsBoth, Bool.and_eq_true, told.shows_crossing_iff hp inside,
    told.shows_crossing_iff hq inside]
  constructor
  · rintro ⟨⟨i, hi, here⟩, ⟨j, hj, there⟩⟩
    exact ⟨i, j, hi, hj, here, there⟩
  · rintro ⟨i, j, hi, hj, here, there⟩
    exact ⟨⟨i, hi, here⟩, ⟨j, hj, there⟩⟩

theorem leaving_eq (told : start.Told steps sim) (member : p ∈ sim.vehicles)
    (crossing : p.crossing = some i) :
    leaving steps sim p.id = i.stopBy (sim.now.advance 1) := by
  cases stop : i.stop with
  | none =>
      have never : firstTime? (shows .exiting p.id) steps = none := by
        refine firstTime?_eq_none ?_
        intro mid inside seen
        obtain ⟨k, e, same, ended, -⟩ := (told.shows_exiting_iff member inside).mp seen
        cases crossing.symm.trans same
        cases stop.symm.trans ended
      simp only [leaving, never, Interval.stopBy, stop]
  | some e =>
      obtain ⟨mid, inside, rfl⟩ :=
        List.mem_map.mp (((told.recorded p member).named i crossing).2 e stop)
      have out : firstTime? (shows .exiting p.id) steps = some mid.now := by
        refine firstTime?_eq_some told.ordered inside ?_ ?_
        · exact (told.shows_exiting_iff member inside).mpr
            ⟨i, mid.now, crossing, stop, Timestamp.le_refl _⟩
        · intro other there seen
          obtain ⟨k, e, same, ended, past⟩ := (told.shows_exiting_iff member there).mp seen
          cases crossing.symm.trans same
          cases stop.symm.trans ended
          exact past
      simp only [leaving, out, Interval.stopBy, stop, Option.getD_some]

end Told

end Simulation

namespace Interval

variable {i j : Interval} {t u cut : Timestamp}

theorem overlap?_eq_some :
    i.overlap? j cut = some (t, u) ↔
      t = max i.start j.start ∧ u.ms = min (i.stopBy cut).ms (j.stopBy cut).ms ∧ t < u := by
  rw [← Timestamp.ite_le_ms, ← Timestamp.ext_iff]
  simp only [overlap?]
  generalize (if i.stopBy cut ≤ j.stopBy cut then i.stopBy cut else j.stopBy cut) = stop
  constructor
  · intro h
    split at h
    · next before =>
      obtain ⟨rfl, rfl⟩ := Prod.mk.inj (Option.some.inj h)
      exact ⟨rfl, rfl, before⟩
    · cases h
  · rintro ⟨rfl, rfl, before⟩
    exact if_pos before

theorem covers_iff (ahead : t < cut) : i.Covers t ↔ i.start ≤ t ∧ t < i.stopBy cut := by
  cases stop : i.stop with
  | none => simp [Covers, stopBy, stop, ahead]
  | some e => simp [Covers, stopBy, stop]

end Interval

namespace Simulation

variable {start sim : Simulation} {steps : List Simulation} {p q : Participant} {v : Violation}

namespace Told

variable {i j : Interval} {t u : Timestamp}

/-- Two records hold together from when both vehicles were first seen inside to when the first of
    them was seen behind the crossing. -/
theorem overlap?_eq_some_iff (told : start.Told steps sim)
    (cut : (sim.now.advance 1).ms = sim.now.ms + 1) (hp : p ∈ sim.vehicles) (hq : q ∈ sim.vehicles)
    (hi : p.crossing = some i) (hj : q.crossing = some j) :
    i.overlap? j (sim.now.advance 1) = some (t, u) ↔
      firstTime? (showsBoth p.id q.id) steps = some t ∧
        u.ms = min (leaving steps sim p.id).ms (leaving steps sim q.id).ms := by
  have covered : ∀ mid ∈ steps, mid.showsBoth p.id q.id = true ↔
      max i.start j.start ≤ mid.now ∧ mid.now < i.stopBy (sim.now.advance 1) ∧
        mid.now < j.stopBy (sim.now.advance 1) := by
    intro mid inside
    have ahead : mid.now < sim.now.advance 1 := by
      have := told.before mid inside
      rw [Timestamp.le_iff] at this
      rw [Timestamp.lt_iff]
      omega
    rw [told.showsBoth_iff hp hq inside]
    simp only [hi, hj, Option.some.injEq, Timestamp.le_iff, Timestamp.max_ms]
    constructor
    · rintro ⟨_, _, rfl, rfl, here, there⟩
      obtain ⟨began, ends⟩ := (Interval.covers_iff ahead).mp here
      obtain ⟨begun, stops⟩ := (Interval.covers_iff ahead).mp there
      rw [Timestamp.le_iff] at began begun
      exact ⟨by omega, ends, stops⟩
    · rintro ⟨begun, ends, stops⟩
      refine ⟨i, j, rfl, rfl, (Interval.covers_iff ahead).mpr ⟨?_, ends⟩,
        (Interval.covers_iff ahead).mpr ⟨?_, stops⟩⟩ <;>
        · rw [Timestamp.le_iff]
          omega
  obtain ⟨later, inside, begins⟩ : ∃ mid ∈ steps, mid.now = max i.start j.start := by
    obtain ⟨first, here, began⟩ := List.mem_map.mp ((told.recorded p hp).named i hi).1
    obtain ⟨second, there, begun⟩ := List.mem_map.mp ((told.recorded q hq).named j hj).1
    change ∃ mid ∈ steps, mid.now = if i.start ≤ j.start then j.start else i.start
    split
    · exact ⟨second, there, begun⟩
    · exact ⟨first, here, began⟩
  have first (before : (max i.start j.start).ms <
      min (i.stopBy (sim.now.advance 1)).ms (j.stopBy (sim.now.advance 1)).ms) :
      firstTime? (showsBoth p.id q.id) steps = some (max i.start j.start) := by
    rw [← begins]
    refine firstTime?_eq_some told.ordered inside ?_ ?_
    · refine (covered later inside).mpr ⟨?_, ?_, ?_⟩
      · rw [begins]
        exact Timestamp.le_refl _
      all_goals
        rw [Timestamp.lt_iff, begins]
        omega
    · intro other there seen
      rw [begins]
      exact ((covered other there).mp seen).1
  rw [Interval.overlap?_eq_some, told.leaving_eq hp hi, told.leaving_eq hq hj]
  constructor
  · rintro ⟨rfl, least, before⟩
    rw [Timestamp.lt_iff, least] at before
    exact ⟨first before, least⟩
  · rintro ⟨seen, least⟩
    obtain ⟨mid, there, both⟩ := firstTime?_isSome.mp (Option.isSome_of_eq_some seen)
    obtain ⟨begun, ends, stops⟩ := (covered mid there).mp both
    rw [Timestamp.lt_iff] at ends stops
    rw [Timestamp.le_iff] at begun
    have before := first (by omega)
    obtain rfl := Option.some.inj (before.symm.trans seen)
    refine ⟨rfl, least, ?_⟩
    rw [Timestamp.lt_iff]
    omega

/-- What is listed, for which vehicles, and with what times. -/
theorem mem_violations (told : start.Told steps sim)
    (cut : (sim.now.advance 1).ms = sim.now.ms + 1) :
    v ∈ sim.report.violations ↔ ∃ p ∈ sim.vehicles, ∃ q ∈ sim.vehicles, p.id < q.id ∧
      sim.topology.conflicts p.script.route q.script.route = true ∧
      v.first = p.id ∧ v.second = q.id ∧
      firstTime? (showsBoth p.id q.id) steps = some v.start ∧
      v.stop.ms = min (leaving steps sim p.id).ms (leaving steps sim q.id).ms := by
  simp only [report, violations, List.mem_filterMap, Prod.exists,
    told.ascending.mem_pairsInOrder_iff, Participant.violation?_eq_some]
  constructor
  · rintro ⟨p, q, ⟨hp, hq, order⟩, i, j, hi, hj, clash, first, second, both⟩
    exact ⟨p, hp, q, hq, order, clash, first, second,
      (told.overlap?_eq_some_iff cut hp hq hi hj).mp both⟩
  · rintro ⟨p, hp, q, hq, order, clash, first, second, began, ended⟩
    obtain ⟨mid, inside, both⟩ := firstTime?_isSome.mp (Option.isSome_of_eq_some began)
    obtain ⟨i, j, hi, hj, -⟩ := (told.showsBoth_iff hp hq inside).mp both
    exact ⟨p, q, ⟨hp, hq, order⟩, i, j, hi, hj, clash, first, second,
      (told.overlap?_eq_some_iff cut hp hq hi hj).mpr ⟨began, ended⟩⟩

end Told

theorem nodup_violations (ascending : Roster.Ascending Participant.id sim.vehicles) :
    (sim.report.violations.map fun v => (v.first, v.second)).Nodup := by
  refine List.pairwise_map.mpr ?_
  refine ascending.pairwise_pairsInOrder.filterMap _ ?_
  rintro ⟨p, q⟩ ⟨r, s⟩ other v listed w also same
  obtain ⟨-, -, -, -, -, first, second, -⟩ := Participant.violation?_eq_some.mp listed
  obtain ⟨-, -, -, -, -, first', second', -⟩ := Participant.violation?_eq_some.mp also
  exact other (by rw [← first, ← second, ← first', ← second', same])

/-- Whatever the policy, the delivery and the losses: two vehicles are listed exactly if their routes
    conflict and both have access after some step of the run. The list has them once, the one with
    the smaller identifier first, from the first such step to when the first of them leaves. Such a
    run ends if the cycle can be counted. -/
theorem violations_iff_showsBoth {settings : SimulationSettings} {topology : Topology}
    {scripts : List Script} {fresh sim : Simulation}
    (created : create settings topology = .ok fresh)
    (added : fresh.addScripts scripts = (sim, none)) (moves : 1 ≤ settings.step.millis)
    (counted : settings.horizon.millis + settings.step.millis < 2 ^ 63) :
    (settings.client.cycle.ms ≠ 0 →
        ∃ n final, ∀ limit, n ≤ limit → sim.run limit = .ok final) ∧
      ∀ limit final, sim.run limit = .ok final →
        (∀ a ∈ scripts, ∀ b ∈ scripts, a.id < b.id →
          ((∃ v ∈ final.report.violations, v.first = a.id ∧ v.second = b.id) ↔
            topology.conflicts a.route b.route = true ∧
              ∃ mid ∈ sim.stepsWithin limit, mid.showsBoth a.id b.id = true)) ∧
        (∀ v ∈ final.report.violations, ∃ a ∈ scripts, ∃ b ∈ scripts, a.id < b.id ∧
          v.first = a.id ∧ v.second = b.id ∧
          firstTime? (showsBoth a.id b.id) (sim.stepsWithin limit) = some v.start ∧
          v.stop.ms = min (leaving (sim.stepsWithin limit) final a.id).ms
            (leaving (sim.stepsWithin limit) final b.id).ms) ∧
        (final.report.violations.map fun v => (v.first, v.second)).Nodup := by
  have listed := mem_scripts_of_added created added
  obtain ⟨-, rfl, rfl, parked⟩ := parked_of_added created added
  have horizon := sim.settings.horizon.ms_le_millis
  have step : sim.settings.step.ms = sim.settings.step.millis :=
    Duration.ms_of_millis_lt (by omega)
  constructor
  · intro cycle
    have tells : sim.hasCycle = true := by simpa [hasCycle] using cycle
    exact run_ends (by omega) (by omega) tells
  · intro limit final ran
    have told := Told.of_run parked (by omega) (by omega) ran
    have clock := told.clock
    have cut : (final.now.advance 1).ms = final.now.ms + 1 :=
      Timestamp.advance_ms_of_lt (by omega)
    have scripted : ∀ s, s ∈ scripts ↔ ∃ p ∈ final.vehicles, p.script = s := by
      intro s
      rw [← listed, ← told.scripts, List.mem_map]
    refine ⟨?_, ?_, nodup_violations told.ascending⟩
    · intro a ha b hb order
      obtain ⟨p, hp, rfl⟩ := (scripted a).mp ha
      obtain ⟨q, hq, rfl⟩ := (scripted b).mp hb
      rw [← told.topology]
      constructor
      · rintro ⟨v, member, first, second⟩
        obtain ⟨r, hr, s, hs, -, clash, same, same', began, -⟩ := (told.mem_violations cut).mp member
        obtain rfl := told.ascending.eq_of_id hp hr (first.symm.trans same)
        obtain rfl := told.ascending.eq_of_id hq hs (second.symm.trans same')
        exact ⟨clash, firstTime?_isSome.mp (Option.isSome_of_eq_some began)⟩
      · rintro ⟨clash, both⟩
        obtain ⟨t, began⟩ := Option.isSome_iff_exists.mp (firstTime?_isSome.mpr both)
        exact ⟨⟨p.id, q.id, t, _⟩, (told.mem_violations cut).mpr
          ⟨p, hp, q, hq, order, clash, rfl, rfl, began, Timestamp.ite_le_ms _ _⟩, rfl, rfl⟩
    · intro v member
      obtain ⟨p, hp, q, hq, order, -, first, second, times⟩ := (told.mem_violations cut).mp member
      exact ⟨p.script, (scripted _).mpr ⟨p, hp, rfl⟩, q.script, (scripted _).mpr ⟨q, hq, rfl⟩,
        order, first, second, times⟩

/-- Two minutes in whole seconds under the serial rule, every beacon being lost. -/
def deaf : SimulationSettings :=
  { SimulationSettings.standard { Settings.standard with protocol := .serial } with
    delivery := .periodic 1.0
    step := .ofMillis 1000 }

/-- Vehicles that do not hear each other all go in together. -/
theorem violations_iff_showsBoth_deaf :
    create deaf Topology.fourWay = .ok (onFourWay deaf) ∧
      (onFourWay deaf).addScripts Scenario.rush.scripts = (rushHour deaf, none) ∧
      ∃ final, (rushHour deaf).run 12 = .ok final ∧ final.report.violations ≠ [] ∧
        ∀ a ∈ Scenario.rush.scripts, ∀ b ∈ Scenario.rush.scripts, a.id < b.id →
          ((∃ v ∈ final.report.violations, v.first = a.id ∧ v.second = b.id) ↔
            Topology.fourWay.conflicts a.route b.route = true ∧
              ∃ mid ∈ (rushHour deaf).stepsWithin 12, mid.showsBoth a.id b.id = true) := by
  have created : create deaf Topology.fourWay = .ok (onFourWay deaf) := create_onFourWay rfl
  have added : (onFourWay deaf).addScripts Scenario.rush.scripts = (rushHour deaf, none) :=
    addScripts_rush (by decide +kernel)
  have ended : ((rushHour deaf).run 12).toOption.any (fun final => !final.report.isSafe) = true := by
    decide +kernel
  cases ran : (rushHour deaf).run 12 with
  | error fault =>
      rw [ran] at ended
      cases ended
  | ok final =>
      rw [ran] at ended
      have listed : (!final.report.isSafe) = true := ended
      refine ⟨created, added, final, rfl, ?_, ?_⟩
      · intro none
        rw [Report.isSafe, none] at listed
        cases listed
      · exact ((violations_iff_showsBoth created added (by decide) (by decide)).2 12 final ran).1

end Simulation

end Junction
