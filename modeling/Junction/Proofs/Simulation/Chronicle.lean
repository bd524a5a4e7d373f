import Junction.Proofs.Simulation.Setup
import Junction.Proofs.Simulation.Step

/-! # What the steps of a run show

A vehicle keeps from when to when it was inside. Whatever the radio loses, this record is right: cut
at the time of any step, it is what the vehicle had in its record after that step, and so it tells
whether the vehicle was inside then.
-/

namespace Junction

namespace Interval

/-- What could be told of an interval at `t`. -/
def asOf (t : Timestamp) (i : Interval) : Option Interval :=
  if i.start ≤ t then some ⟨i.start, i.stop.filter (· ≤ t)⟩ else none

/-- The interval holds at `t`. -/
def Covers (i : Interval) (t : Timestamp) : Prop :=
  i.start ≤ t ∧ ∀ e, i.stop = some e → t < e

end Interval

namespace Participant

variable {p q r : Participant} {now t : Timestamp} {bound : Nat}

theorem Standing.stop_order (standing : p.Standing bound) {i : Interval}
    (crossing : p.crossing = some i) {e : Timestamp} (stop : i.stop = some e) : i.start ≤ e := by
  cases standing with
  | waiting _ _ _ _ _ outside => cases crossing.symm.trans outside
  | seeking _ _ _ outside => cases crossing.symm.trans outside
  | inside s c _ _ _ inside =>
      cases crossing.symm.trans inside
      cases stop
  | through s c e' _ order _ through =>
      cases crossing.symm.trans through
      cases stop
      exact order

theorem Standing.asOf_eq (standing : p.Standing (t.ms + 1)) :
    p.crossing.bind (Interval.asOf t) = p.crossing := by
  cases standing with
  | waiting _ _ _ _ _ outside => simp [outside]
  | seeking _ _ _ outside => simp [outside]
  | inside s c _ _ past inside =>
      have begun : c ≤ t := Nat.le_of_lt_succ past
      simp [inside, Interval.asOf, begun]
  | through s c e _ order past through =>
      have ended : e ≤ t := Nat.le_of_lt_succ past
      simp [through, Interval.asOf, Timestamp.le_trans order ended, ended]

theorem Standing.status_crossing_iff (standing : p.Standing bound) :
    p.controller.status = .crossing ↔ ∃ c, p.crossing = some ⟨c, none⟩ := by
  constructor
  · exact standing.crossing_of_status
  · rintro ⟨c, inside⟩
    exact (standing.of_inside inside).2.2.1

theorem Standing.status_exiting_iff (standing : p.Standing bound) :
    p.controller.status = .exiting ↔ ∃ c e, p.crossing = some ⟨c, some e⟩ := by
  cases standing with
  | waiting _ _ status _ _ crossing => simp [status, crossing]
  | seeking _ _ _ crossing status => simp [status, crossing]
  | inside s c _ _ _ crossing status => simp [status, crossing]
  | through s c e _ _ _ crossing status => simp [status, crossing]

theorem Stay.asOf_eq (stay : Stay now p q) (earlier : t < now) :
    q.crossing.bind (Interval.asOf t) = p.crossing.bind (Interval.asOf t) := by
  have ahead : ¬now ≤ t := Timestamp.not_le.mpr earlier
  cases stay with
  | same kept => rw [kept]
  | opens s c outside opened => simp [outside, opened, Interval.asOf, ahead]
  | closes c inside closed => simp [inside, closed, Interval.asOf, Option.filter, ahead]

/-- The record of a vehicle is right, as far as the states after the steps in `past` show, and names
    no other instants than `times`. -/
structure Recorded (past : List Simulation) (times : List Timestamp) (p : Participant) : Prop where
  shown : ∀ mid ∈ past, ∀ r ∈ mid.vehicles, r.id = p.id →
    r.crossing = p.crossing.bind (Interval.asOf mid.now)
  named : ∀ i, p.crossing = some i → i.start ∈ times ∧ ∀ e, i.stop = some e → e ∈ times

namespace Recorded

variable {past : List Simulation} {times : List Timestamp}

theorem congr (recorded : p.Recorded past times) (id : q.id = p.id)
    (crossing : q.crossing = p.crossing) : q.Recorded past times := by
  constructor
  · rw [id, crossing]
    exact recorded.shown
  · rw [crossing]
    exact recorded.named

theorem mono (recorded : p.Recorded past times) {later : List Timestamp}
    (more : times ⊆ later) : p.Recorded past later := by
  refine ⟨recorded.shown, ?_⟩
  intro i crossing
  obtain ⟨start, stop⟩ := recorded.named i crossing
  exact ⟨more start, fun e ended => more (stop e ended)⟩

theorem of_acts (recorded : p.Recorded past times) (acts : p.Acts now q)
    (earlier : ∀ mid ∈ past, mid.now < now) (listed : now ∈ times) : q.Recorded past times := by
  constructor
  · intro mid member r inside same
    rw [acts.stay.asOf_eq (earlier mid member)]
    exact recorded.shown mid member r inside (same.trans acts.id)
  · intro i crossing
    cases acts.stay with
    | same kept => exact recorded.named i (kept.symm.trans crossing)
    | opens s c _ opened =>
        cases crossing.symm.trans opened
        exact ⟨listed, nofun⟩
    | closes c inside closed =>
        cases crossing.symm.trans closed
        refine ⟨(recorded.named _ inside).1, ?_⟩
        intro e stop
        cases stop
        exact listed

theorem append (recorded : p.Recorded past times) {sim : Simulation}
    (ascending : Roster.Ascending Participant.id sim.vehicles) (member : p ∈ sim.vehicles)
    (standing : p.Standing (sim.now.ms + 1)) : p.Recorded (past ++ [sim]) times := by
  refine ⟨?_, recorded.named⟩
  intro mid inside r there same
  rcases List.mem_append.mp inside with before | here
  · exact recorded.shown mid before r there same
  · obtain rfl := List.mem_singleton.mp here
    obtain rfl := ascending.eq_of_id there member same
    exact standing.asOf_eq.symm

/-- A vehicle is seen inside exactly while its record covers the time. -/
theorem status_crossing_iff (recorded : p.Recorded past times) {mid : Simulation}
    (member : mid ∈ past) (inside : r ∈ mid.vehicles) (same : r.id = p.id)
    (standing : r.Standing bound) :
    r.controller.status = .crossing ↔ ∃ i, p.crossing = some i ∧ i.Covers mid.now := by
  rw [standing.status_crossing_iff, recorded.shown mid member r inside same]
  cases p.crossing with
  | none => simp
  | some i =>
      rcases i with ⟨c, stop⟩
      by_cases begun : c ≤ mid.now
      · cases stop <;> simp [Interval.asOf, Interval.Covers, begun, Timestamp.not_le]
      · simp [Interval.asOf, Interval.Covers, begun]

theorem status_exiting_iff (recorded : p.Recorded past times) {mid : Simulation}
    (member : mid ∈ past) (inside : r ∈ mid.vehicles) (same : r.id = p.id)
    (standing : r.Standing bound) {later : Nat} (own : p.Standing later) :
    r.controller.status = .exiting ↔ ∃ i e, p.crossing = some i ∧ i.stop = some e ∧ e ≤ mid.now := by
  rw [standing.status_exiting_iff, recorded.shown mid member r inside same]
  cases crossing : p.crossing with
  | none => simp
  | some i =>
      have order := fun e => own.stop_order crossing (e := e)
      rcases i with ⟨c, stop⟩
      cases stop with
      | none => by_cases begun : c ≤ mid.now <;> simp [Interval.asOf, begun]
      | some e =>
          have begun : e ≤ mid.now → c ≤ mid.now := Timestamp.le_trans (order e rfl)
          by_cases ended : e ≤ mid.now
          · simp [Interval.asOf, ended, begun ended]
          · by_cases late : c ≤ mid.now <;> simp [Interval.asOf, ended, late]

end Recorded

end Participant

namespace Simulation

variable {start sim after final : Simulation} {done : List VehicleId} {past : List Simulation}
  {p q : Participant}

/-- In the middle of a step, when the vehicles in `done` have had their turn: every vehicle stands
    where a vehicle can stand. -/
structure Sound (sim : Simulation) (done : List VehicleId) : Prop where
  ascending : Roster.Ascending Participant.id sim.vehicles
  running : ∀ p ∈ sim.vehicles, p.controller.running = true
  standing : ∀ p ∈ sim.vehicles, p.Standing (sim.now.bound (decide (p.id ∈ done)))

theorem Informed.sound (informed : sim.Informed done) : sim.Sound done :=
  ⟨informed.ascending, informed.running, informed.standing⟩

namespace Sound

/-- Whatever the radio loses, a vehicle stands where a vehicle can stand when it acts. -/
theorem acts (sound : sim.Sound []) (member : p ∈ sim.vehicles) (acted : sim.Acted p q) :
    ∃ r a, p.Alike r ∧ a = r.act sim.settings sim.isDue sim.now ∧ r.Standing sim.now.ms ∧
      r.Acts sim.now a ∧ a.Alike q := by
  obtain ⟨r, before, behind⟩ := acted
  have standing := before.standing (sound.standing p member)
  have running : r.controller.running = true := by
    obtain ⟨table, heard⟩ := before.controller
    rw [heard]
    exact sound.running p member
  exact ⟨r, _, before, rfl, standing, Participant.acts_act standing running _ _, behind⟩

theorem step (sound : sim.Sound []) : sim.step.Sound (sim.vehicles.map Participant.id) := by
  obtain ⟨scripts, each⟩ := step_acted sound.ascending
  refine ⟨ascending_of_scripts sound.ascending scripts, ?_, ?_⟩
  · intro q inside
    obtain ⟨p, member, acted⟩ := each q inside
    obtain ⟨r, a, -, -, -, acts, behind⟩ := sound.acts member acted
    obtain ⟨table, heard⟩ := behind.controller
    rw [heard]
    exact acts.running
  · intro q inside
    have had : q.id ∈ sim.vehicles.map Participant.id := by
      rw [← ids_of_scripts scripts]
      exact List.mem_map_of_mem inside
    obtain ⟨p, member, acted⟩ := each q inside
    obtain ⟨r, a, -, -, -, acts, behind⟩ := sound.acts member acted
    simp only [now_step, had, decide_true]
    exact behind.standing acts.standing

theorem recorded (sound : sim.Sound []) (earlier : ∀ mid ∈ past, mid.now < sim.now)
    (recorded : ∀ p ∈ sim.vehicles, p.Recorded past (past.map now)) :
    ∀ q ∈ sim.step.vehicles, q.Recorded (past ++ [sim.step]) ((past ++ [sim.step]).map now) := by
  intro q inside
  obtain ⟨p, member, acted⟩ := (step_acted sound.ascending).2 q inside
  obtain ⟨r, a, before, -, -, acts, behind⟩ := sound.acts member acted
  have known := (recorded p member).mono (List.subset_append_left _ [sim.now])
  have heard := known.congr (congrArg Script.id before.script) before.crossing
  have kept := (heard.of_acts acts earlier (by simp)).congr
    (congrArg Script.id behind.script) behind.crossing
  have after := sound.step
  have times : (past ++ [sim.step]).map now = past.map now ++ [sim.now] := by simp
  rw [times]
  exact kept.append after.ascending inside
    ((after.standing q inside).mono (Timestamp.bound_le _ _))

theorem tickClock (sound : sim.Sound done)
    (later : sim.now.ms < sim.tickClock.now.ms) : sim.tickClock.Sound [] := by
  refine ⟨sound.ascending, sound.running, ?_⟩
  intro p member
  have bound := sim.now.bound_le (decide (p.id ∈ done))
  apply (sound.standing p member).mono
  simp only [List.not_mem_nil, decide_false, Timestamp.bound_false]
  omega

end Sound

/-- The states after the steps of a run that takes a number of steps at most. -/
def stepsWithin : Nat → Simulation → List Simulation
  | 0, _ => []
  | n + 1, sim =>
    if sim.isLate then []
    else sim.step :: if sim.step.isOver then [] else sim.step.tickClock.stepsWithin n

/-- A run from `start` has come to `sim`, the states after its steps so far are those in `past`, and
    the records of all vehicles are right. -/
structure Told (start : Simulation) (past : List Simulation) (sim : Simulation) : Prop where
  settings : sim.settings = start.settings
  topology : sim.topology = start.topology
  scripts : sim.vehicles.map Participant.script = start.vehicles.map Participant.script
  clock : sim.now.ms ≤ start.settings.horizon.ms + start.settings.step.ms
  ascending : Roster.Ascending Participant.id sim.vehicles
  standing : ∀ p ∈ sim.vehicles, p.Standing (sim.now.ms + 1)
  recorded : ∀ p ∈ sim.vehicles, p.Recorded past (past.map now)
  ordered : past.Pairwise (·.now < ·.now)
  before : ∀ mid ∈ past, mid.now ≤ sim.now
  stood : ∀ mid ∈ past, ∀ p ∈ mid.vehicles, p.Standing (mid.now.ms + 1)
  same : ∀ mid ∈ past, mid.vehicles.map Participant.script = start.vehicles.map Participant.script

namespace Told

theorem step (told : start.Told past sim) (sound : sim.Sound [])
    (earlier : ∀ mid ∈ past, mid.now < sim.now) : start.Told (past ++ [sim.step]) sim.step := by
  have scripts := (step_acted sound.ascending).1
  have after := sound.step
  have standing : ∀ p ∈ sim.step.vehicles, p.Standing (sim.step.now.ms + 1) := by
    intro p member
    exact (after.standing p member).mono (Timestamp.bound_le _ _)
  have either : ∀ {mid}, mid ∈ past ++ [sim.step] → mid ∈ past ∨ mid = sim.step := by
    simp
  refine ⟨(settings_step sim).trans told.settings, (topology_step sim).trans told.topology,
    scripts.trans told.scripts, ?_, after.ascending, standing,
    sound.recorded earlier told.recorded, ?_, ?_, ?_, ?_⟩
  · rw [now_step]
    exact told.clock
  · refine List.pairwise_append.mpr ⟨told.ordered, List.pairwise_singleton _ _, ?_⟩
    intro mid member last here
    obtain rfl := List.mem_singleton.mp here
    rw [now_step]
    exact earlier mid member
  · intro mid member
    rcases either member with before | rfl
    · rw [now_step]
      exact told.before mid before
    · exact Timestamp.le_refl _
  · intro mid member
    rcases either member with before | rfl
    · exact told.stood mid before
    · exact standing
  · intro mid member
    rcases either member with before | rfl
    · exact told.same mid before
    · exact scripts.trans told.scripts

theorem tickClock (told : start.Told past sim) (later : sim.now < sim.tickClock.now)
    (clock : sim.tickClock.now.ms ≤ start.settings.horizon.ms + start.settings.step.ms) :
    start.Told past sim.tickClock := by
  refine ⟨told.settings, told.topology, told.scripts, clock, told.ascending, ?_, told.recorded,
    told.ordered, ?_, told.stood, told.same⟩
  · intro p member
    exact (told.standing p member).mono (Nat.succ_le_succ (Nat.le_of_lt later))
  · intro mid member
    exact Timestamp.le_trans (told.before mid member) (Nat.le_of_lt later)

theorem of_runWithin {n : Nat} (told : start.Told past sim) (sound : sim.Sound [])
    (earlier : ∀ mid ∈ past, mid.now < sim.now) (moves : 0 < start.settings.step.ms)
    (counted : start.settings.horizon.ms + start.settings.step.ms < 2 ^ 64)
    (ran : sim.runWithin n = some final) : start.Told (past ++ sim.stepsWithin n) final := by
  induction n generalizing sim past with
  | zero => cases ran
  | succ n ih =>
      simp only [runWithin] at ran
      cases late : sim.isLate with
      | true =>
          rw [late, if_pos rfl] at ran
          obtain rfl := Option.some.inj ran
          simpa [stepsWithin, late] using told
      | false =>
          rw [late, if_neg Bool.false_ne_true] at ran
          have stepped := told.step sound earlier
          cases ended : sim.step.isOver with
          | true =>
              rw [ended, if_pos rfl] at ran
              obtain rfl := Option.some.inj ran
              simpa [stepsWithin, late, ended] using stepped
          | false =>
              rw [ended, if_neg Bool.false_ne_true] at ran
              have early := isLate_eq_false.mp late
              have clock := now_tickClock late (by rwa [told.settings])
              rw [told.settings] at early clock
              have later : sim.step.now < sim.step.tickClock.now := by
                rw [Timestamp.lt_iff, clock, now_step]
                omega
              have ahead : ∀ mid ∈ past ++ [sim.step], mid.now < sim.step.tickClock.now := by
                intro mid member
                have := stepped.before mid member
                rw [Timestamp.le_iff] at this
                rw [Timestamp.lt_iff] at later ⊢
                omega
              have rest := ih (stepped.tickClock later (by omega)) (sound.step.tickClock later) ahead
                ran
              simpa [stepsWithin, late, ended] using rest

theorem of_run {limit : Nat} (parked : start.Parked) (moves : 0 < start.settings.step.ms)
    (counted : start.settings.horizon.ms + start.settings.step.ms < 2 ^ 64)
    (ran : start.run limit = .ok final) : start.Told (start.stepsWithin limit) final := by
  have sound := parked.informed.sound
  have begun : start.Told [] start := by
    refine ⟨rfl, rfl, rfl, ?_, sound.ascending, ?_, ?_, .nil, ?_, ?_, ?_⟩
    · rw [parked.now]
      exact Nat.zero_le _
    · intro p member
      exact (sound.standing p member).mono (Timestamp.bound_le _ _)
    · intro p member
      obtain ⟨script, rfl⟩ := parked.parked p member
      constructor
      · intro mid inside
        cases inside
      · intro i crossing
        cases crossing
    all_goals
      intro mid inside
      cases inside
  have none : ∀ mid ∈ ([] : List Simulation), mid.now < start.now := by
    intro mid inside
    cases inside
  unfold run at ran
  split at ran
  · cases ran
  · split at ran
    · next found =>
      obtain rfl := Except.ok.inj ran
      simpa using begun.of_runWithin sound none moves counted found
    · cases ran

end Told

end Simulation

end Junction
