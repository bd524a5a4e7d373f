import Junction.Proofs.Simulation.Chronicle
import Junction.Proofs.Simulation.Intake
import Junction.Proofs.Simulation.Setup

/-! # One decision per cycle

Whether a step is the first of its cycle is told by the time since the last multiple of the cycle:
it must be less than a step. The steps of a run are a step apart and start at zero, and so of those
that fall into a cycle the first passes this test and the others do not, however the two periods
relate. Where a cycle is not longer than a step, all steps pass.
-/

namespace Junction.Simulation

variable {start sim s t : Simulation} {n : Nat}

/-- The states in which a run takes its steps, if it takes a number of steps at most. -/
def startsWithin : Nat → Simulation → List Simulation
  | 0, _ => []
  | n + 1, sim =>
    if sim.isLate then []
    else sim :: if sim.step.isOver then [] else sim.step.tickClock.startsWithin n

theorem reaches_of_mem_startsWithin (member : s ∈ sim.startsWithin n) : Reaches sim s := by
  induction n generalizing sim with
  | zero => cases member
  | succ n ih =>
      simp only [startsWithin] at member
      cases late : sim.isLate with
      | true =>
          rw [late, if_pos rfl] at member
          cases member
      | false =>
          rw [late, if_neg Bool.false_ne_true, List.mem_cons] at member
          obtain rfl | later := member
          · exact .start
          · split at later
            · cases later
            · exact (Reaches.start.next late).append (ih later)

/-- The steps of a run begin when the run does, and follow each other a step apart. -/
inductive Paced (gap : Nat) : Nat → List Simulation → Prop where
  | nil (ms : Nat) : Paced gap ms []
  | cons {ms : Nat} {s : Simulation} {rest : List Simulation} (now : s.now.ms = ms)
      (after : Paced gap (ms + gap) rest) : Paced gap ms (s :: rest)

theorem paced_startsWithin
    (counted : sim.settings.horizon.ms + sim.settings.step.ms < 2 ^ 64) (n : Nat) :
    Paced sim.settings.step.ms sim.now.ms (sim.startsWithin n) := by
  induction n generalizing sim with
  | zero => exact .nil _
  | succ n ih =>
      simp only [startsWithin]
      cases late : sim.isLate with
      | true => exact .nil _
      | false =>
          simp only [Bool.false_eq_true, if_false]
          apply Paced.cons rfl
          split
          · exact .nil _
          · have same : sim.step.tickClock.settings = sim.settings := settings_step sim
            have rest := @ih sim.step.tickClock (by rwa [same])
            rwa [same, now_tickClock late counted] at rest

namespace Paced

variable {gap ms : Nat} {steps : List Simulation}

theorem le_of_mem (paced : Paced gap ms steps) (member : s ∈ steps) : ms ≤ s.now.ms := by
  induction paced with
  | nil => cases member
  | cons now _ ih =>
      cases member with
      | head => exact Nat.le_of_eq now.symm
      | tail _ later => exact Nat.le_trans (Nat.le_add_right _ _) (ih later)

/-- Of the steps between two instants the first comes less than a gap after the earlier instant, if
    the run was not past that by then, and the others come a gap after it or later. -/
theorem filter_eq_cons (paced : Paced gap ms steps) {low high : Nat} (begun : ms < low + gap)
    (member : s ∈ steps) (above : low ≤ s.now.ms) (below : s.now.ms < high) :
    ∃ first rest,
      steps.filter (fun t => decide (low ≤ t.now.ms ∧ t.now.ms < high)) = first :: rest ∧
        first.now.ms < low + gap ∧ ∀ t ∈ rest, low + gap ≤ t.now.ms := by
  induction paced with
  | nil => cases member
  | @cons ms r rest now after ih =>
      by_cases inside : low ≤ r.now.ms ∧ r.now.ms < high
      · refine ⟨r, _, List.filter_cons_of_pos (decide_eq_true inside), by omega, ?_⟩
        intro t later
        have := after.le_of_mem (List.mem_filter.mp later).1
        omega
      · rw [List.filter_cons_of_neg (by simpa using inside)]
        cases member with
        | head => exact absurd ⟨above, below⟩ inside
        | tail _ later =>
            -- `r` comes before `s`, so it is outside on the near side, and the run goes on in time
            have := after.le_of_mem later
            exact ih (by omega) later

end Paced

/-- Whether the step that is taken in a state falls into a cycle; the cycles are counted from 0. -/
def isIn (sim : Simulation) (k : Nat) : Bool :=
  decide (k * sim.settings.client.cycle.ms ≤ sim.now.ms ∧
    sim.now.ms < (k + 1) * sim.settings.client.cycle.ms)

/-- A step that falls into a cycle is due if it comes less than a step after its beginning. -/
theorem isDue_iff_of_isIn {k : Nat} (within : sim.isIn k = true) :
    sim.isDue = true ↔ sim.now.ms < k * sim.settings.client.cycle.ms + sim.settings.step.ms := by
  obtain ⟨above, below⟩ := of_decide_eq_true within
  have short : sim.now.ms - k * sim.settings.client.cycle.ms < sim.settings.client.cycle.ms := by
    rw [Nat.succ_mul] at below
    omega
  have since : sim.now.ms % sim.settings.client.cycle.ms =
      sim.now.ms - k * sim.settings.client.cycle.ms := by
    rw [Nat.mul_comm] at above
    rw [← Nat.mod_eq_of_lt short, Nat.mul_comm k, Nat.sub_mul_mod above]
  rw [isDue, decide_eq_true_iff, since]
  omega

theorem ticks_of_isDue (order : Roster.Ascending Participant.id sim.vehicles)
    (due : sim.isDue = true) : sim.Ticks [sim.now] := by
  have ticks := ticks_of_ascending order
  rwa [due, if_pos rfl] at ticks

theorem ticks_of_not_isDue (order : Roster.Ascending Participant.id sim.vehicles)
    (due : ¬sim.isDue = true) : sim.Ticks [] := by
  have ticks := ticks_of_ascending order
  rwa [if_neg due] at ticks

/-- In every cycle into which a step of a run falls, the first of these steps ticks every vehicle
    once, and no other ticks any, if a step is not longer than a cycle. If a cycle is not longer
    than a step, all steps tick every vehicle once. -/
theorem one_tick_per_cycle {settings : SimulationSettings} {topology : Topology}
    {scripts : List Script} {fresh sim : Simulation}
    (created : create settings topology = .ok fresh)
    (added : fresh.addScripts scripts = (sim, none)) (moves : 1 ≤ settings.step.millis)
    (decides : 1 ≤ settings.client.cycle.millis) (cycle : settings.client.cycle.millis < 2 ^ 64)
    (counted : settings.horizon.millis + settings.step.millis < 2 ^ 63) (limit : Nat) :
    (settings.step.millis ≤ settings.client.cycle.millis →
      ∀ k, ∀ s ∈ sim.startsWithin limit, s.isIn k = true →
        ∃ first rest, (sim.startsWithin limit).filter (·.isIn k) = first :: rest ∧
          first.Ticks [first.now] ∧ ∀ t ∈ rest, first.now < t.now ∧ t.Ticks []) ∧
      (settings.client.cycle.millis ≤ settings.step.millis →
        ∀ s ∈ sim.startsWithin limit, s.Ticks [s.now]) := by
  obtain ⟨-, rfl, -, parked⟩ := parked_of_added created added
  have step : sim.settings.step.ms = sim.settings.step.millis :=
    Duration.ms_of_millis_lt (by omega)
  have horizon := sim.settings.horizon.ms_le_millis
  rw [← step] at moves counted ⊢
  rw [← Duration.ms_of_millis_lt cycle] at decides ⊢
  have same : ∀ s ∈ sim.startsWithin limit, s.settings = sim.settings :=
    fun s member => (reaches_of_mem_startsWithin member).settings
  have order : ∀ s ∈ sim.startsWithin limit, Roster.Ascending Participant.id s.vehicles :=
    fun s member => (reaches_of_mem_startsWithin member).ascending parked.ascending
  constructor
  · intro short k s member within
    have windows : (sim.startsWithin limit).filter (·.isIn k) =
        (sim.startsWithin limit).filter fun t =>
          decide (k * sim.settings.client.cycle.ms ≤ t.now.ms ∧
            t.now.ms < (k + 1) * sim.settings.client.cycle.ms) := by
      apply List.filter_congr
      intro t there
      rw [isIn, same t there]
    have bounds := of_decide_eq_true within
    rw [same s member] at bounds
    have paced : Paced sim.settings.step.ms sim.now.ms (sim.startsWithin limit) :=
      paced_startsWithin (by omega) limit
    rw [parked.now] at paced
    obtain ⟨first, rest, found, soon, late⟩ :=
      paced.filter_eq_cons (Nat.lt_of_lt_of_le moves (Nat.le_add_left _ _)) member bounds.1 bounds.2
    rw [← windows] at found
    have there : ∀ t ∈ first :: rest, t ∈ sim.startsWithin limit ∧ t.isIn k = true := by
      rw [← found]
      exact fun t => List.mem_filter.mp
    refine ⟨first, rest, found, ?_, ?_⟩
    · obtain ⟨begins, inside⟩ := there first List.mem_cons_self
      apply ticks_of_isDue (order first begins)
      rwa [isDue_iff_of_isIn inside, same first begins]
    · intro t later
      have past := late t later
      obtain ⟨begins, inside⟩ := there t (List.mem_cons_of_mem _ later)
      refine ⟨Nat.lt_of_lt_of_le soon past, ticks_of_not_isDue (order t begins) ?_⟩
      rw [isDue_iff_of_isIn inside, same t begins]
      exact Nat.not_lt.mpr past
  · intro long s member
    apply ticks_of_isDue (order s member)
    rw [isDue, same s member]
    exact decide_eq_true (Nat.lt_of_lt_of_le (Nat.mod_lt _ decides) long)

/-- Steps of 300 ms against cycles of 500 ms. -/
def unevenSteps : SimulationSettings :=
  { SimulationSettings.standard .standard with step := .ofMillis 300 }

/-- Two steps fall into the second cycle, at 600 and at 900 ms, and the first of them ticks. -/
theorem one_tick_per_cycle_rushHour :
    create unevenSteps Topology.fourWay = .ok (onFourWay unevenSteps) ∧
      (onFourWay unevenSteps).addScripts Scenario.rush.scripts = (rushHour unevenSteps, none) ∧
      ∃ first second, ((rushHour unevenSteps).startsWithin 4).filter (·.isIn 1) = [first, second] ∧
        first.now.ms = 600 ∧ first.Ticks [first.now] ∧
        second.now.ms = 900 ∧ second.Ticks [] := by
  have created : create unevenSteps Topology.fourWay = .ok (onFourWay unevenSteps) :=
    create_onFourWay rfl
  have added : (onFourWay unevenSteps).addScripts Scenario.rush.scripts =
      (rushHour unevenSteps, none) := addScripts_rush (by decide +kernel)
  have times : (((rushHour unevenSteps).startsWithin 4).filter (·.isIn 1)).map (·.now.ms) =
      [600, 900] := by decide +kernel
  have some : ((rushHour unevenSteps).startsWithin 4).filter (·.isIn 1) ≠ [] := by
    intro none
    rw [none] at times
    cases times
  obtain ⟨s, member⟩ := List.exists_mem_of_ne_nil _ some
  obtain ⟨begins, inside⟩ := List.mem_filter.mp member
  obtain ⟨first, rest, found, ticks, others⟩ :=
    (one_tick_per_cycle created added (by decide) (by decide) (by decide) (by decide) 4).1
      (by decide) 1 s begins inside
  rw [found] at times
  obtain ⟨early, late⟩ := List.cons.inj times
  obtain ⟨second, rfl, later⟩ := List.map_eq_singleton_iff.mp late
  exact ⟨created, added, first, second, found, early, ticks, later,
    (others second List.mem_cons_self).2⟩

end Junction.Simulation
