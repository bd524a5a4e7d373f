import Junction.Proofs.Time.Order
import Junction.Simulation.Basic
import Mathlib.Data.List.Induction

/-! # Runs

A run looks at its clock, takes a step, and looks at its clock again. What holds at the start and is
kept by every turn of a vehicle and by every tick of the clock holds throughout. Where the clock
moves, a run ends.
-/

namespace Junction.Simulation

theorem turn_frame (sim : Simulation) (v : VehicleId) :
    ∃ vehicles air, sim.turn v = { sim with vehicles, air } := by
  simp only [turn, transmit]
  split
  · exact ⟨_, _, rfl⟩
  · split
    · exact ⟨_, _, rfl⟩
    · split
      · exact ⟨_, _, rfl⟩
      · split <;> exact ⟨_, _, rfl⟩

theorem foldl_turn_frame (ids : List VehicleId) (sim : Simulation) :
    ∃ vehicles air, ids.foldl turn sim = { sim with vehicles, air } := by
  induction ids generalizing sim with
  | nil => exact ⟨sim.vehicles, sim.air, rfl⟩
  | cons v rest ih =>
      obtain ⟨vehicles, air, first⟩ := turn_frame sim v
      obtain ⟨others, after, last⟩ := ih (sim.turn v)
      refine ⟨others, after, ?_⟩
      rw [List.foldl_cons, last, first]

@[simp]
theorem settings_step (sim : Simulation) : sim.step.settings = sim.settings := by
  obtain ⟨vehicles, air, eq⟩ := foldl_turn_frame (sim.vehicles.map Participant.id) sim
  rw [step, eq]

@[simp]
theorem topology_step (sim : Simulation) : sim.step.topology = sim.topology := by
  obtain ⟨vehicles, air, eq⟩ := foldl_turn_frame (sim.vehicles.map Participant.id) sim
  rw [step, eq]

@[simp]
theorem now_step (sim : Simulation) : sim.step.now = sim.now := by
  obtain ⟨vehicles, air, eq⟩ := foldl_turn_frame (sim.vehicles.map Participant.id) sim
  rw [step, eq]

/-- What holds before the first turn of a step and is kept by each turn holds after the turns that
    there have been. -/
theorem turns_induction (sim : Simulation) (holds : List VehicleId → Simulation → Prop)
    (first : holds [] sim)
    (keeps : ∀ before v behind mid, sim.vehicles.map Participant.id = before ++ v :: behind →
      holds before mid → holds (before ++ [v]) (mid.turn v)) {before behind : List VehicleId}
    (split : sim.vehicles.map Participant.id = before ++ behind) :
    holds before (before.foldl turn sim) := by
  induction before using List.reverseRecOn generalizing behind with
  | nil => exact first
  | append_singleton before v ih =>
      rw [List.append_assoc, List.singleton_append] at split
      rw [List.foldl_append]
      exact keeps before v behind _ split (ih split)

/-- What holds before the first turn of a step and is kept by each turn holds after the last. -/
theorem step_induction (sim : Simulation) (holds : List VehicleId → Simulation → Prop)
    (first : holds [] sim)
    (keeps : ∀ before v behind mid, sim.vehicles.map Participant.id = before ++ v :: behind →
      holds before mid → holds (before ++ [v]) (mid.turn v)) :
    holds (sim.vehicles.map Participant.id) sim.step :=
  sim.turns_induction holds first keeps (List.append_nil _).symm

/-- The states in which a run looks at its clock. One that stops since all vehicles are through
    would go on like this. -/
inductive Reaches (start : Simulation) : Simulation → Prop where
  | start : Reaches start start
  | next {sim : Simulation} (before : Reaches start sim) (early : sim.isLate = false) :
      Reaches start sim.step.tickClock

/-- In a run from `start` the vehicle `p` is about to have its turn, after those before it. -/
inductive AtTurn (start : Simulation) : Simulation → Participant → Prop where
  | intro {sim : Simulation} {before behind : List VehicleId} {p : Participant}
      (reached : Reaches start sim) (early : sim.isLate = false)
      (split : sim.vehicles.map Participant.id = before ++ p.id :: behind)
      (member : p ∈ (before.foldl turn sim).vehicles) : AtTurn start (before.foldl turn sim) p

namespace Reaches

variable {start sim : Simulation}

theorem settings (h : Reaches start sim) : sim.settings = start.settings := by
  induction h with
  | start => rfl
  | next _ _ ih => exact (settings_step _).trans ih

theorem topology (h : Reaches start sim) : sim.topology = start.topology := by
  induction h with
  | start => rfl
  | next _ _ ih => exact (topology_step _).trans ih

theorem append {last : Simulation} (h : Reaches start sim) (k : Reaches sim last) :
    Reaches start last := by
  induction k with
  | start => exact h
  | next _ early ih => exact ih.next early

end Reaches

/-- A run stops where it is late, or before the clock moves on. -/
theorem last_of_runWithin {n : Nat} {sim final : Simulation} (h : sim.runWithin n = some final) :
    ∃ last, Reaches sim last ∧ (final = last ∨ final.tickClock = last) := by
  induction n generalizing sim with
  | zero => cases h
  | succ n ih =>
      simp only [runWithin] at h
      cases late : sim.isLate with
      | true =>
          rw [late, if_pos rfl] at h
          exact ⟨sim, .start, Or.inl (Option.some.inj h).symm⟩
      | false =>
          rw [late, if_neg Bool.false_ne_true] at h
          have stepped := Reaches.start.next late
          split at h
          · exact ⟨_, stepped, Or.inr (congrArg tickClock (Option.some.inj h).symm)⟩
          · obtain ⟨last, reached, stopped⟩ := ih h
            exact ⟨last, stepped.append reached, stopped⟩

theorem last_of_run {limit : Nat} {sim final : Simulation} (h : sim.run limit = .ok final) :
    ∃ last, Reaches sim last ∧ (final = last ∨ final.tickClock = last) := by
  unfold run at h
  split at h
  · cases h
  · split at h
    · next found =>
      obtain rfl := Except.ok.inj h
      exact last_of_runWithin found
    · cases h

theorem vehicles_of_run {limit : Nat} {sim final : Simulation} (h : sim.run limit = .ok final) :
    ∃ last, Reaches sim last ∧ final.vehicles = last.vehicles ∧ final.topology = last.topology := by
  obtain ⟨last, reached, rfl | rfl⟩ := last_of_run h
  · exact ⟨_, reached, rfl, rfl⟩
  · exact ⟨_, reached, rfl, rfl⟩

theorem isLate_eq_false {sim : Simulation} :
    sim.isLate = false ↔ sim.now.ms ≤ sim.settings.horizon.ms := by
  simp [isLate]

theorem now_tickClock {sim : Simulation} (early : sim.isLate = false)
    (counted : sim.settings.horizon.ms + sim.settings.step.ms < 2 ^ 64) :
    sim.step.tickClock.now.ms = sim.now.ms + sim.settings.step.ms := by
  have := isLate_eq_false.mp early
  simp only [tickClock, now_step, settings_step]
  exact Timestamp.advance_ms_of_lt (by omega)

theorem runWithin_of_isLate {sim : Simulation} (late : sim.isLate = true) {limit : Nat}
    (looks : 0 < limit) : sim.runWithin limit = some sim := by
  obtain ⟨n, rfl⟩ := Nat.exists_eq_add_one_of_ne_zero (Nat.ne_of_gt looks)
  simp only [runWithin, late, if_true]

theorem runWithin_of_isOver {sim : Simulation} (early : sim.isLate = false)
    (ended : sim.step.isOver = true) {limit : Nat} (looks : 0 < limit) :
    sim.runWithin limit = some sim.step := by
  obtain ⟨n, rfl⟩ := Nat.exists_eq_add_one_of_ne_zero (Nat.ne_of_gt looks)
  simp only [runWithin, early, ended, Bool.false_eq_true, if_false, if_true]

theorem runWithin_succ {sim : Simulation} (early : sim.isLate = false)
    (goes : sim.step.isOver = false) (n : Nat) :
    sim.runWithin (n + 1) = sim.step.tickClock.runWithin n := by
  simp only [runWithin, early, goes, Bool.false_eq_true, if_false]

theorem runWithin_of_steps {n : Nat} {sim : Simulation} (moves : 0 < sim.settings.step.ms)
    (counted : sim.settings.horizon.ms + sim.settings.step.ms < 2 ^ 64)
    (enough : sim.settings.horizon.ms < sim.now.ms + n * sim.settings.step.ms) :
    ∃ final, ∀ limit, n < limit → sim.runWithin limit = some final := by
  induction n generalizing sim with
  | zero =>
      have late : sim.isLate = true := by
        simp only [isLate, decide_eq_true_eq]
        omega
      exact ⟨sim, fun limit => runWithin_of_isLate late⟩
  | succ n ih =>
      cases late : sim.isLate with
      | true => exact ⟨sim, fun limit more => runWithin_of_isLate late (Nat.zero_lt_of_lt more)⟩
      | false =>
          cases ended : sim.step.isOver with
          | true =>
              exact ⟨sim.step, fun limit more =>
                runWithin_of_isOver late ended (Nat.zero_lt_of_lt more)⟩
          | false =>
              have now := now_tickClock late counted
              have same : sim.step.tickClock.settings = sim.settings := settings_step sim
              have rest : sim.settings.horizon.ms <
                  sim.step.tickClock.now.ms + n * sim.settings.step.ms := by
                rw [now]
                rw [Nat.succ_mul] at enough
                omega
              obtain ⟨final, ends⟩ := @ih sim.step.tickClock (by rwa [same]) (by rwa [same])
                (by rwa [same])
              refine ⟨final, ?_⟩
              intro limit more
              obtain ⟨m, rfl⟩ := Nat.exists_eq_add_one_of_ne_zero (Nat.ne_zero_of_lt more)
              rw [runWithin_succ late ended]
              exact ends m (by omega)

theorem run_eq_ok {limit : Nat} {sim final : Simulation} (cycle : sim.hasCycle = true)
    (ended : sim.runWithin limit = some final) : sim.run limit = .ok final := by
  simp only [run, cycle, ended, Bool.not_true, Bool.and_false, Bool.false_eq_true, if_false]

/-- Where the clock moves and the cycle can be told, a run ends, and with any more steps allowed it
    ends in the same state. -/
theorem run_ends {sim : Simulation} (moves : 0 < sim.settings.step.ms)
    (counted : sim.settings.horizon.ms + sim.settings.step.ms < 2 ^ 64)
    (cycle : sim.hasCycle = true) :
    ∃ n final, ∀ limit, n ≤ limit → sim.run limit = .ok final := by
  have enough : sim.settings.horizon.ms <
      sim.now.ms + (sim.settings.horizon.ms + 1) * sim.settings.step.ms := by
    have := Nat.mul_le_mul_left (sim.settings.horizon.ms + 1) moves
    omega
  obtain ⟨final, ends⟩ := runWithin_of_steps moves counted enough
  refine ⟨sim.settings.horizon.ms + 2, final, ?_⟩
  intro limit more
  exact run_eq_ok cycle (ends limit (by omega))

end Junction.Simulation
