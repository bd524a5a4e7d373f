import Junction.Proofs.Simulation.Setup
import Junction.Proofs.Simulation.Step

/-! # Which runs end

The clock of a run moves by the whole milliseconds of its step. If it moves at all, the run ends
with the first step past the horizon. A step of less than a millisecond is not zero, and so it is
taken; but then the clock stands still, no step is the first of a cycle, and the controllers never
decide. Vehicles drive up to the entrance and stay there, and the run goes on for ever.
-/

namespace Junction

namespace Participant

variable {p q : Participant}

/-- A vehicle that waits for its time, or seeks access and does not move once it is at the
    entrance. -/
inductive Outside (p : Participant) : Prop where
  | waiting (running : p.controller.running = true) (stage : p.stage = .parked)
      (phase : p.controller.phase = .idle)
  | seeking (running : p.controller.running = true) (way : Underway p.stage p.controller.phase)
      (granted : p.controller.granted = false)
      (held : p.controller.phase = .entering → p.controller.drive.motion.paused = true)

theorem outside_parked (sim : Simulation) (script : Script) :
    (parked script (sim.atRest script)).Outside := .waiting rfl rfl rfl

namespace Outside

theorem isDone (h : p.Outside) : p.isDone = false := by
  cases h with
  | waiting _ stage => simp [Participant.isDone, stage]
  | seeking _ way =>
      rcases way with ⟨⟨metres, stage⟩, -⟩ | ⟨⟨metres, stage⟩, -⟩ <;>
        simp [Participant.isDone, stage]

theorem of_table (h : p.Outside) (stage : q.stage = p.stage) {table : NeighborTable}
    (controller : q.controller = { p.controller with table }) : q.Outside := by
  cases h with
  | waiting running parked phase =>
      exact .waiting (by rw [controller, running]) (stage.trans parked) (by rw [controller, phase])
  | seeking running way granted held =>
      refine .seeking ?_ ?_ ?_ ?_ <;> simp only [controller, stage]
      · exact running
      · exact way
      · exact granted
      · exact held

theorem move (h : p.Outside) (seconds : Float) (now : Timestamp) :
    (p.move (p.reach seconds) now).Outside := by
  cases h with
  | waiting running stage phase =>
      rw [move_eq_self (Or.inl stage)]
      exact .waiting running stage phase
  | seeking running way granted held =>
      have moves := moves_move running way seconds now
      generalize p.move (p.reach seconds) now = q at moves ⊢
      cases moves with
      | goes stage pacer way' => exact .seeking running way' granted held
      | enters crossed pacer drive held' =>
          exact .seeking running (Or.inr ⟨⟨crossed, rfl⟩, rfl⟩) granted (fun _ => held' granted)
      | leaves phase free =>
          rw [held phase] at free
          cases free

theorem start (h : p.Outside) (distance : Float) (now : Timestamp) :
    (p.start distance now).Outside := by
  cases h with
  | seeking running way granted held =>
      rw [start_eq_self way.stage_ne_parked]
      exact .seeking running way granted held
  | waiting running stage phase =>
      simp only [Participant.start, stage]
      split
      · simp only [detect, onEvent_approaching running phase]
        refine .seeking running (Or.inl ⟨⟨distance, rfl⟩, rfl⟩) rfl ?_
        intro entered
        cases entered
      · exact .waiting running stage phase

theorem alike (h : p.Outside) (alike : p.Alike q) : q.Outside := by
  obtain ⟨table, controller⟩ := alike.controller
  exact h.of_table alike.stage controller

theorem act (h : p.Outside) (settings : SimulationSettings) (now : Timestamp) :
    (p.act settings false now).Outside := by
  have driven := (h.move settings.step.toSeconds now).start settings.client.distance now
  obtain ⟨crossing, marked⟩ := mark_frame
    ((p.move (p.reach settings.step.toSeconds) now).start settings.client.distance now) now
  simp only [Participant.act, consult, Bool.false_eq_true, if_false, marked]
  exact driven.of_table rfl rfl

end Outside

end Participant

namespace Simulation

variable {sim : Simulation}

/-- The clock stands still at a time that is not late, and nobody is let in. -/
structure Stalled (sim : Simulation) : Prop where
  ascending : Roster.Ascending Participant.id sim.vehicles
  stuck : sim.settings.step.ms = 0
  early : sim.isLate = false
  populated : sim.vehicles ≠ []
  outside : ∀ p ∈ sim.vehicles, p.Outside

namespace Stalled

theorem isDue (h : sim.Stalled) : sim.isDue = false := by
  simp [Simulation.isDue, h.stuck]

theorem isOver (h : sim.Stalled) : sim.isOver = false := by
  obtain ⟨p, member⟩ := List.exists_mem_of_ne_nil _ h.populated
  exact List.all_eq_false.mpr ⟨p, member, by simp [(h.outside p member).isDone]⟩

theorem tickClock (h : sim.Stalled) : sim.tickClock = sim := by
  have now : sim.now.advance sim.settings.step.ms = sim.now := by
    have := sim.now.bounded
    apply Timestamp.ext
    rw [h.stuck, Timestamp.advance_ms_of_lt this]
    rfl
  rw [Simulation.tickClock, now]

theorem step (h : sim.Stalled) : sim.step.Stalled := by
  obtain ⟨scripts, each⟩ := step_acted h.ascending
  refine ⟨ascending_of_scripts h.ascending scripts, ?_, ?_, ?_, ?_⟩
  · rw [settings_step]
    exact h.stuck
  · rw [← h.early, isLate, isLate, settings_step, now_step]
  · intro none
    rw [none, List.map_nil, eq_comm, List.map_eq_nil_iff] at scripts
    exact h.populated scripts
  · intro q inside
    obtain ⟨p, member, r, before, behind⟩ := each q inside
    rw [h.isDue] at behind
    exact (((h.outside p member).alike before).act sim.settings sim.now).alike behind

theorem runWithin_eq_none (h : sim.Stalled) (limit : Nat) : sim.runWithin limit = none := by
  induction limit generalizing sim with
  | zero => rfl
  | succ n ih =>
      rw [runWithin_succ h.early h.step.isOver, h.step.tickClock]
      exact ih h.step

theorem run_eq_unfinished (h : sim.Stalled) (cycle : sim.hasCycle = true) (limit : Nat) :
    sim.run limit = .error .unfinished := by
  simp only [run, cycle, h.runWithin_eq_none limit, Bool.not_true, Bool.and_false,
    Bool.false_eq_true, if_false]

end Stalled

theorem isLate_of_start (start : sim.now = .zero) : sim.isLate = false := by
  rw [isLate_eq_false, start]
  exact Nat.zero_le _

/-- A simulation whose vehicles were all taken does not move if the step has no whole millisecond. -/
theorem stalled_of_added {settings : SimulationSettings} {topology : Topology}
    {scripts : List Script} {fresh : Simulation} (created : create settings topology = .ok fresh)
    (added : fresh.addScripts scripts = (sim, none)) (stuck : settings.step.ms = 0)
    (scripted : scripts ≠ []) : sim.Stalled := by
  have listed := mem_scripts_of_added created added
  obtain ⟨-, rfl, -, parked⟩ := parked_of_added created added
  obtain ⟨script, given⟩ := List.exists_mem_of_ne_nil _ scripted
  obtain ⟨q, taken, -⟩ := List.mem_map.mp ((listed script).mpr given)
  refine ⟨parked.ascending, stuck, isLate_of_start parked.now, List.ne_nil_of_mem taken, ?_⟩
  intro p member
  obtain ⟨script, rfl⟩ := parked.parked p member
  exact Participant.outside_parked sim script

/-- A step that goes past the horizon at once is the last, also where the clock could not be moved
    by it twice. -/
theorem runWithin_of_far_step (start : sim.now = .zero)
    (far : sim.settings.horizon.ms < sim.settings.step.ms) :
    ∃ final, ∀ limit, 1 < limit → sim.runWithin limit = some final := by
  have early := isLate_of_start start
  cases ended : sim.step.isOver with
  | true => exact ⟨sim.step, fun limit more => runWithin_of_isOver early ended (by omega)⟩
  | false =>
      have late : sim.step.tickClock.isLate = true := by
        have := sim.settings.step.ms_lt
        simp only [Simulation.isLate, tickClock, settings_step, now_step, start, decide_eq_true_eq]
        rw [Timestamp.advance_ms_of_lt] <;> simp only [Timestamp.zero] <;> omega
      refine ⟨sim.step.tickClock, ?_⟩
      intro limit more
      obtain ⟨n, rfl⟩ := Nat.exists_eq_add_one_of_ne_zero (Nat.ne_zero_of_lt more)
      rw [runWithin_succ early ended]
      exact runWithin_of_isLate late (by omega)

/-- Where the clock moves, a run takes as many steps as fit into the horizon, and one more. -/
theorem runWithin_of_moves (start : sim.now = .zero) (moves : 0 < sim.settings.step.ms)
    (counted : sim.settings.horizon.ms < 2 ^ 62) :
    ∃ final, ∀ limit, sim.settings.horizon.ms / sim.settings.step.ms + 1 < limit →
      sim.runWithin limit = some final := by
  by_cases far : sim.settings.horizon.ms < sim.settings.step.ms
  · obtain ⟨final, ends⟩ := runWithin_of_far_step start far
    exact ⟨final, fun limit more => ends limit (Nat.lt_of_le_of_lt (Nat.le_add_left 1 _) more)⟩
  · refine runWithin_of_steps moves (by omega) ?_
    have past := Nat.lt_mul_div_succ sim.settings.horizon.ms moves
    rw [Nat.mul_comm] at past
    exact Nat.lt_of_lt_of_le past (Nat.le_add_left _ _)

theorem runWithin_of_nobody (start : sim.now = .zero) (nobody : sim.vehicles = []) {limit : Nat}
    (looks : 0 < limit) : sim.runWithin limit = some sim := by
  have idle : sim.step = sim := by simp [step, nobody]
  have ended : sim.step.isOver = true := by simp [idle, isOver, nobody]
  rw [runWithin_of_isOver (isLate_of_start start) ended looks, idle]

/-- A run ends if the step has whole milliseconds, as they are counted, or if there are no vehicles;
    it then ends within the steps that fit into the horizon, and one more. Otherwise it does not
    end. -/
theorem run_ends_iff_clock_moves {settings : SimulationSettings} {topology : Topology}
    {scripts : List Script} {fresh sim : Simulation}
    (created : create settings topology = .ok fresh)
    (added : fresh.addScripts scripts = (sim, none)) (cycle : 1 ≤ settings.client.cycle.millis)
    (counted : settings.client.cycle.millis < 2 ^ 62) (horizon : settings.horizon.millis < 2 ^ 62) :
    (settings.step.ms ≠ 0 ∨ scripts = [] → ∃ final, ∀ limit,
        settings.horizon.ms / settings.step.ms + 1 < limit → sim.run limit = .ok final) ∧
      (settings.step.ms = 0 → scripts ≠ [] → ∀ limit, sim.run limit = .error .unfinished) := by
  have listed := mem_scripts_of_added created added
  obtain ⟨-, rfl, -, parked⟩ := parked_of_added created added
  have tells : sim.hasCycle = true := by
    have same := Duration.ms_of_millis_lt (Nat.lt_trans counted (by decide))
    simp only [hasCycle, same, bne_iff_ne]
    omega
  constructor
  · rintro (moves | nobody)
    · have bound := Nat.lt_of_le_of_lt sim.settings.horizon.ms_le_millis horizon
      obtain ⟨final, ends⟩ := runWithin_of_moves parked.now (Nat.pos_of_ne_zero moves) bound
      exact ⟨final, fun limit more => run_eq_ok tells (ends limit more)⟩
    · have absent : sim.vehicles = [] := by
        apply List.map_eq_nil_iff.mp
        apply List.eq_nil_iff_forall_not_mem.mpr
        intro s member
        rw [listed, nobody] at member
        cases member
      refine ⟨sim, ?_⟩
      intro limit more
      exact run_eq_ok tells (runWithin_of_nobody parked.now absent (Nat.zero_lt_of_lt more))
  · intro stuck scripted
    exact (stalled_of_added created added stuck scripted).run_eq_unfinished tells

def withStep (step : Duration) : SimulationSettings :=
  { SimulationSettings.standard .standard with step }

def halfMillisecond : Duration := ⟨500000, by decide⟩

/-- As many milliseconds as an instant can count. -/
def greatestCount : Duration := .ofMillis 18446744073709551615

/-- A step of as many milliseconds as can be counted is the only one, and one of half a millisecond
    is never the last. -/
theorem run_ends_iff_clock_moves_rushHour :
    (∃ final, ∀ limit, 1 < limit →
        (rushHour (withStep greatestCount)).run limit = .ok final) ∧
      ∀ limit, (rushHour (withStep halfMillisecond)).run limit = .error .unfinished := by
  have taken : ∀ step ∈ [greatestCount, halfMillisecond],
      (withStep step).fault? = none ∧
        ((onFourWay (withStep step)).addScripts Scenario.rush.scripts).2.isNone = true := by
    decide +kernel
  constructor
  · obtain ⟨valid, added⟩ := taken greatestCount List.mem_cons_self
    obtain ⟨final, ends⟩ := (run_ends_iff_clock_moves (create_onFourWay valid)
      (addScripts_rush added) (by decide) (by decide) (by decide)).1 (Or.inl (by decide))
    exact ⟨final, ends⟩
  · obtain ⟨valid, added⟩ := taken halfMillisecond (List.mem_cons_of_mem _ List.mem_cons_self)
    exact (run_ends_iff_clock_moves (create_onFourWay valid) (addScripts_rush added) (by decide)
      (by decide) (by decide)).2 (by decide) (by decide)

/-- Whatever the step, a run of settings that were accepted ends if the cycle has a whole millisecond
    and both the cycle and the horizon have less than `2 ^ 62` of them. -/
def AlwaysEnds : Prop :=
  ∀ (settings : SimulationSettings) (topology : Topology) (scripts : List Script)
    (fresh sim : Simulation), create settings topology = .ok fresh →
      fresh.addScripts scripts = (sim, none) → 1 ≤ settings.client.cycle.millis →
      settings.client.cycle.millis < 2 ^ 62 → settings.horizon.millis < 2 ^ 62 →
      ∃ limit final, sim.run limit = .ok final

def southbound : List Script := [⟨⟨1⟩, ⟨⟨"N"⟩, ⟨"S"⟩⟩, .wrapping 0, usualDistance⟩]

theorem not_alwaysEnds : ¬AlwaysEnds := by
  intro ends
  have created : create (withStep halfMillisecond) Topology.fourWay =
      .ok (onFourWay (withStep halfMillisecond)) := create_onFourWay rfl
  have added : (onFourWay (withStep halfMillisecond)).addScripts southbound =
      (fourWayWith (withStep halfMillisecond) southbound, none) :=
    addScripts_fourWayWith (by decide +kernel)
  have stalled := stalled_of_added created added (by decide) (by decide)
  obtain ⟨limit, final, ran⟩ :=
    ends _ _ _ _ _ created added (by decide) (by decide) (by decide)
  rw [stalled.run_eq_unfinished (by decide +kernel) limit] at ran
  cases ran

end Simulation

end Junction
