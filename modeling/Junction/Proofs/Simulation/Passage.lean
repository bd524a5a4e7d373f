import Junction.Proofs.Simulation.Chronicle
import Junction.Simulation.Report

/-! # Who passes the entrance

A vehicle that is past the entrance and has no access stands still, however far it was carried past
the entrance in one step. So it is let in before it leaves, and as its turn begins with driving, it
leaves in a later step than it was let in.
-/

namespace Junction

/-- The times of a vehicle that was to set out at `start` are in order, in a report that was made
    after `elapsed` milliseconds. -/
structure VehicleReport.Timely (r : VehicleReport) (start : Timestamp) (elapsed : Nat) : Prop where
  finished : r.finished = true → ∃ s c e, r.startedAt = some s ∧ r.crossing = some ⟨c, some e⟩ ∧
    start ≤ s ∧ s ≤ c ∧ c < e ∧ e.ms ≤ elapsed
  unfinished : r.finished = false → ∀ i, r.crossing = some i → i.stop = none
  entered : r.crossing ≠ none → r.startedAt ≠ none

namespace Participant

variable {p q : Participant} {now : Timestamp} {bound : Nat}

theorem Standing.entered (standing : p.Standing bound) {c : Timestamp}
    (inside : p.crossing = some ⟨c, none⟩) : ∃ s, p.startedAt = some s ∧ s ≤ c := by
  cases standing with
  | waiting _ _ _ _ _ outside => cases inside.symm.trans outside
  | seeking _ _ _ outside => cases inside.symm.trans outside
  | inside s c' began order _ crossing =>
      cases inside.symm.trans crossing
      exact ⟨s, began, order⟩
  | through _ _ _ _ _ _ crossing => cases inside.symm.trans crossing

theorem Standing.finished (standing : p.Standing bound) (done : p.isDone = true) :
    ∃ c e, p.crossing = some ⟨c, some e⟩ ∧ e.ms < bound := by
  cases standing with
  | waiting stage => simp [isDone, stage] at done
  | seeking _ _ _ _ _ _ _ way =>
      rcases way with ⟨⟨metres, stage⟩, -⟩ | ⟨⟨metres, stage⟩, -⟩ <;> simp [isDone, stage] at done
  | inside _ _ _ _ _ _ _ _ way =>
      rcases way with ⟨⟨metres, stage⟩, -⟩ | ⟨⟨metres, stage⟩, -⟩ <;> simp [isDone, stage] at done
  | through _ c e _ _ past crossing => exact ⟨c, e, crossing, past⟩

theorem Standing.unfinished (standing : p.Standing bound) (goes : p.isDone = false)
    {i : Interval} (crossing : p.crossing = some i) : i.stop = none := by
  cases standing with
  | waiting _ _ _ _ _ outside => cases crossing.symm.trans outside
  | seeking _ _ _ outside => cases crossing.symm.trans outside
  | inside _ _ _ _ _ inside =>
      cases crossing.symm.trans inside
      rfl
  | through _ _ _ _ _ _ _ _ stage => simp [isDone, stage] at goes

/-- The times that a vehicle has in its record are in order. -/
structure OnTime (p : Participant) : Prop where
  started : ∀ s, p.startedAt = some s → p.script.start ≤ s
  entered : ∀ i, p.crossing = some i → ∃ s, p.startedAt = some s ∧ s ≤ i.start
  left : ∀ i e, p.crossing = some i → i.stop = some e → i.start < e

namespace OnTime

theorem alike (onTime : p.OnTime) (alike : p.Alike q) : q.OnTime := by
  constructor
  · rw [alike.startedAt, alike.script]
    exact onTime.started
  · rw [alike.crossing, alike.startedAt]
    exact onTime.entered
  · rw [alike.crossing]
    exact onTime.left

theorem of_acts (onTime : p.OnTime) (standing : p.Standing now.ms) (acts : p.Acts now q)
    (starts : q.startedAt = p.startedAt ∨ p.script.start ≤ now ∧ q.startedAt = some now) :
    q.OnTime := by
  have kept : ∀ s, p.startedAt = some s → q.startedAt = some s := by
    intro s began
    rcases acts.started with same | ⟨waits, -⟩
    · exact same.trans began
    · cases waits.symm.trans began
  refine ⟨?_, ?_, ?_⟩
  · intro s began
    rw [acts.script]
    rcases starts with same | ⟨due, here⟩
    · exact onTime.started s (same.symm.trans began)
    · obtain rfl := Option.some.inj (here.symm.trans began)
      exact due
  · intro i inside
    cases acts.stay with
    | same crossing =>
        obtain ⟨s, began, order⟩ := onTime.entered i (crossing.symm.trans inside)
        exact ⟨s, kept s began, order⟩
    | opens s c outside crossing began consults admits =>
        cases crossing.symm.trans inside
        exact acts.standing.entered crossing
    | closes c before crossing =>
        cases crossing.symm.trans inside
        obtain ⟨s, began, order⟩ := onTime.entered _ before
        exact ⟨s, kept s began, order⟩
  · intro i e inside stop
    cases acts.stay with
    | same crossing => exact onTime.left i e (crossing.symm.trans inside) stop
    | opens s c outside crossing =>
        cases crossing.symm.trans inside
        cases stop
    | closes c before crossing =>
        cases crossing.symm.trans inside
        cases stop
        -- The vehicle had access before this turn, so before the time of this turn.
        exact (standing.of_inside before).2.1

theorem timely (onTime : p.OnTime) (standing : p.Standing (bound + 1)) :
    p.report.Timely p.script.start bound := by
  refine ⟨?_, ?_, ?_⟩
  · intro done
    obtain ⟨c, e, crossing, past⟩ := standing.finished done
    obtain ⟨s, began, order⟩ := onTime.entered _ crossing
    exact ⟨s, c, e, began, crossing, onTime.started s began, order,
      onTime.left _ e crossing rfl, Nat.le_of_lt_succ past⟩
  · intro goes i crossing
    exact standing.unfinished goes crossing
  · intro inside waits
    obtain ⟨i, crossing⟩ := Option.ne_none_iff_exists'.mp inside
    obtain ⟨s, began, -⟩ := onTime.entered i crossing
    cases waits.symm.trans began

end OnTime

def isPast (p : Participant) : Bool :=
  match p.stage with
  | .inside _ | .done => true
  | .parked | .approaching _ => false

theorem Standing.held_of_inside (standing : p.Standing bound) {crossed : Float}
    (stage : p.stage = .inside crossed) (outside : p.controller.granted = false) :
    p.controller.drive.motion.paused = true := by
  cases standing with
  | waiting parked => cases stage.symm.trans parked
  | seeking _ _ _ _ _ _ _ way held =>
      rcases way with ⟨⟨metres, approaching⟩, -⟩ | ⟨-, phase⟩
      · cases stage.symm.trans approaching
      · exact held phase
  | inside _ _ _ _ _ _ _ granted => cases outside.symm.trans granted
  | through _ _ _ _ _ _ _ _ done => cases stage.symm.trans done

theorem move_eq_self_of_paused (paused : p.controller.drive.motion.paused = true)
    (seconds : Float) (now : Timestamp) : p.move (p.reach seconds) now = p := by
  rw [move, if_neg (not_lt_reach_of_paused paused seconds)]

/-- A vehicle past the entrance that has no access stays where it is at its turn. -/
theorem stage_act (standing : p.Standing bound) (past : p.isPast = true)
    (outside : p.controller.granted = false) (settings : SimulationSettings) (due : Bool)
    (now : Timestamp) : (p.act settings due now).stage = p.stage := by
  have stays : p.move (p.reach settings.step.toSeconds) now = p ∧ p.stage ≠ .parked := by
    cases stage : p.stage with
    | parked | approaching => simp [isPast, stage] at past
    | inside crossed =>
        have held := standing.held_of_inside stage outside
        exact ⟨move_eq_self_of_paused held _ _, by simp⟩
    | done => exact ⟨move_eq_self (Or.inr stage) _ _, by simp⟩
  obtain ⟨controller, startedAt, crossing, acted, -⟩ := p.act_frame settings due now
  rw [acted, stays.1, start_eq_self stays.2]

end Participant

namespace Simulation

variable {start sim : Simulation}

/-- Nobody that is past the entrance and has no access moves in the next step. -/
structure HoldsBack (sim : Simulation) : Prop where
  stands : ∀ p ∈ sim.vehicles, ∀ crossed, p.stage = .inside crossed →
    p.controller.granted = false → p.controller.drive.motion.isMoving = false
  stays : ∀ p ∈ sim.vehicles, p.isPast = true → p.controller.granted = false →
    ∃ q ∈ sim.step.vehicles, q.id = p.id ∧ q.stage = p.stage

theorem Sound.holdsBack (sound : sim.Sound []) : sim.HoldsBack := by
  constructor
  · intro p member crossed stage outside
    exact Motion.isMoving_eq_false_of_paused
      ((sound.standing p member).held_of_inside stage outside)
  · intro p member past outside
    obtain ⟨q, there, acted⟩ := exists_acted sound.ascending member
    obtain ⟨r, a, before, rfl, standing, -, behind⟩ := sound.acts member acted
    obtain ⟨table, heard⟩ := before.controller
    have stayed := Participant.stage_act standing (by rwa [Participant.isPast, before.stage])
      (by rwa [heard]) sim.settings sim.isDue sim.now
    exact ⟨q, there, congrArg Script.id acted.script,
      behind.stage.trans (stayed.trans before.stage)⟩

theorem Sound.onTime (sound : sim.Sound []) (onTime : ∀ p ∈ sim.vehicles, p.OnTime) :
    ∀ q ∈ sim.step.vehicles, q.OnTime := by
  intro q inside
  obtain ⟨p, member, acted⟩ := (step_acted sound.ascending).2 q inside
  obtain ⟨r, a, before, rfl, standing, acts, behind⟩ := sound.acts member acted
  obtain ⟨_, _, _, eq, starts⟩ := r.act_frame sim.settings sim.isDue sim.now
  have timely := ((onTime p member).alike before).of_acts standing acts (by rwa [eq])
  exact timely.alike behind

theorem Parked.onTime (parked : sim.Parked) : ∀ p ∈ sim.vehicles, p.OnTime := by
  intro p member
  obtain ⟨script, rfl⟩ := parked.parked p member
  refine ⟨?_, ?_, ?_⟩
  · intro s began
    cases began
  · intro i crossing
    cases crossing
  · intro i e crossing
    cases crossing

/-- At every look at the clock all vehicles stand where a vehicle can stand, and are on time. -/
theorem Reaches.sound (reached : start.Reaches sim) (parked : start.Parked)
    (moves : 0 < start.settings.step.ms)
    (counted : start.settings.horizon.ms + start.settings.step.ms < 2 ^ 64) :
    sim.Sound [] ∧ ∀ p ∈ sim.vehicles, p.OnTime := by
  induction reached with
  | start => exact ⟨parked.informed.sound, parked.onTime⟩
  | next before early ih =>
      obtain ⟨sound, onTime⟩ := ih
      have clock := now_tickClock early (by rwa [before.settings])
      rw [before.settings] at clock
      refine ⟨sound.step.tickClock ?_, sound.onTime onTime⟩
      rw [clock, now_step]
      omega

/-- Whatever the policy, the delivery and the losses: the report has each vehicle that was taken,
    with times that are in order, and in no step does a vehicle move that is past the entrance and
    has no access. Such a run ends if the cycle can be counted. -/
theorem passes_with_access {settings : SimulationSettings} {topology : Topology}
    {scripts : List Script} {fresh sim : Simulation}
    (created : create settings topology = .ok fresh)
    (added : fresh.addScripts scripts = (sim, none)) (moves : 1 ≤ settings.step.millis)
    (counted : settings.horizon.millis + settings.step.millis < 2 ^ 63) :
    (settings.client.cycle.ms ≠ 0 →
        ∃ n final, ∀ limit, n ≤ limit → sim.run limit = .ok final) ∧
      (∀ limit final, sim.run limit = .ok final →
        (∀ a ∈ scripts, ∃ r ∈ final.report.vehicles, r.id = a.id) ∧
          ∀ r ∈ final.report.vehicles, ∃ a ∈ scripts, r.id = a.id ∧ r.route = a.route ∧
            r.Timely a.start final.report.elapsed.toNat) ∧
      ∀ mid, sim.Reaches mid → mid.HoldsBack := by
  have listed := mem_scripts_of_added created added
  obtain ⟨-, rfl, rfl, parked⟩ := parked_of_added created added
  have horizon := sim.settings.horizon.ms_le_millis
  have step : sim.settings.step.ms = sim.settings.step.millis :=
    Duration.ms_of_millis_lt (by omega)
  refine ⟨?_, ?_, ?_⟩
  · intro cycle
    have tells : sim.hasCycle = true := by simpa [hasCycle] using cycle
    exact run_ends (by omega) (by omega) tells
  · intro limit final ran
    have told := Told.of_run parked (by omega) (by omega) ran
    obtain ⟨last, reached, vehicles, -⟩ := vehicles_of_run ran
    obtain ⟨-, onTime⟩ := reached.sound parked (by omega) (by omega)
    have elapsed : final.report.elapsed.toNat = final.now.ms := by
      have := final.now.bounded
      simp only [report, UInt64.toNat_ofNat']
      omega
    constructor
    · intro a given
      rw [← listed, ← told.scripts] at given
      obtain ⟨p, member, rfl⟩ := List.mem_map.mp given
      exact ⟨p.report, List.mem_map_of_mem member, rfl⟩
    · intro r member
      obtain ⟨p, inside, rfl⟩ := List.mem_map.mp member
      have given : p.script ∈ scripts := by
        rw [← listed, ← told.scripts]
        exact List.mem_map_of_mem inside
      refine ⟨p.script, given, rfl, rfl, ?_⟩
      rw [elapsed]
      exact (onTime p (vehicles ▸ inside)).timely (told.standing p inside)
  · intro mid reached
    exact (reached.sound parked (by omega) (by omega)).1.holdsBack

def brief : SimulationSettings :=
  { SimulationSettings.standard { Settings.standard with protocol := .serial } with
    step := .ofMillis 1000
    horizon := .ofMillis 9000 }

/-- One vehicle is through in that time; the others stand past the entrance, which they overshot, and
    stay there. -/
theorem passes_with_access_brief :
    create brief Topology.fourWay = .ok (onFourWay brief) ∧
      (onFourWay brief).addScripts Scenario.rush.scripts = (rushHour brief, none) ∧
      (∃ final, (rushHour brief).run 11 = .ok final ∧
        final.report.vehicles.map VehicleReport.finished = [false, false, false, true] ∧
        ∀ r ∈ final.report.vehicles, ∃ a ∈ Scenario.rush.scripts, r.id = a.id ∧
          r.route = a.route ∧ r.Timely a.start final.report.elapsed.toNat) ∧
      ∃ mid, (rushHour brief).Reaches mid ∧ mid.HoldsBack ∧
        ∃ p ∈ mid.vehicles, p.isPast = true ∧ p.controller.granted = false := by
  have created : create brief Topology.fourWay = .ok (onFourWay brief) := create_onFourWay rfl
  have added : (onFourWay brief).addScripts Scenario.rush.scripts = (rushHour brief, none) :=
    addScripts_rush (by decide +kernel)
  obtain ⟨-, reports, holds⟩ := passes_with_access created added (by decide) (by decide)
  refine ⟨created, added, ?_, ?_⟩
  · have ended : ((rushHour brief).run 11).toOption.any (fun final =>
        final.report.vehicles.map VehicleReport.finished = [false, false, false, true]) = true := by
      decide +kernel
    cases ran : (rushHour brief).run 11 with
    | error fault =>
        rw [ran] at ended
        cases ended
    | ok final =>
        rw [ran] at ended
        exact ⟨final, rfl, of_decide_eq_true ended, (reports 11 final ran).2⟩
  · have reached : (rushHour brief).Reaches (rushHour brief).step.tickClock.step.tickClock :=
      .next (.next .start (by decide +kernel)) (by decide +kernel)
    have waits : ((rushHour brief).step.tickClock.step.tickClock.vehicles.any fun p =>
        p.isPast && !p.controller.granted) = true := by
      decide +kernel
    obtain ⟨p, member, outside⟩ := List.any_eq_true.mp waits
    exact ⟨_, reached, holds _ reached, p, member, by simpa using outside⟩

end Simulation

end Junction
