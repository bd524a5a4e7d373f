import Junction.Proofs.Control.Memory
import Junction.Proofs.Simulation.Intake
import Junction.Proofs.Simulation.Yielding

/-! # What a vehicle sees when all beacons arrive at once

Where every vehicle is heard by all others right after its turn, a table has one entry for each of
the others that have set out, and the entry is that vehicle as it is. Only the number of the beacon
is one behind, since the count goes up when the beacon is sent. The entry comes from the last turn
of the other vehicle, which was in this step or in the one before. And what a vehicle decides by is
what its policy says of these entries.
-/

namespace Junction

/-- An entry shows a vehicle as it is, but for the number of its next beacon, and is from now or
    from one step of so many milliseconds ago. -/
structure Neighbor.Shows (n : Neighbor) (now : Timestamp) (step : Nat) (q : Participant) :
    Prop where
  beacon : n.beacon = { q.outgoing with sequence := n.beacon.sequence }
  number : n.beacon.sequence + 1 = q.sent
  age : n.age now = 0 ∨ n.age now = step

namespace Simulation

variable {start sim : Simulation} {done : List VehicleId} {p q : Participant}

/-- The other vehicles that have set out and have sent. -/
def peers (sim : Simulation) (p : Participant) : List Participant :=
  sim.vehicles.filter fun q => decide (q.id ≠ p.id ∧ q.startedAt ≠ none ∧ q.sent ≠ 0)

theorem mem_peers {q : Participant} :
    q ∈ sim.peers p ↔ q ∈ sim.vehicles ∧ q.id ≠ p.id ∧ q.startedAt ≠ none ∧ q.sent ≠ 0 := by
  simp [peers]

/-- In the middle of a step: clock and beacons are told in whole steps, and every vehicle sends from
    when it sets out on, at most once in a millisecond. -/
structure InStep (sim : Simulation) (done : List VehicleId) : Prop where
  clock : sim.settings.step.ms ∣ sim.now.ms
  heard : sim.EachEntry fun n _ => sim.settings.step.ms ∣ n.lastReceipt.ms
  few : ∀ q ∈ sim.vehicles, q.sent.toNat ≤ sim.now.bound (decide (q.id ∈ done))
  sends : ∀ q ∈ sim.vehicles, q.startedAt ≠ none → q.sent ≠ 0

theorem Parked.inStep (parked : sim.Parked) : sim.InStep [] := by
  refine ⟨?_, parked.eachEntry _, ?_, ?_⟩
  · rw [parked.now]
    exact Nat.dvd_zero _
  · intro q member
    obtain ⟨script, rfl⟩ := parked.parked q member
    exact Nat.zero_le _
  · intro q member started
    obtain ⟨script, rfl⟩ := parked.parked q member
    exact absurd rfl started

/-- Where no beacon waits, a vehicle that has set out sends at every turn, and nobody else sends. -/
theorem Turning.counts (turning : start.Turning sim done p) (exact : sim.settings.gap = 0)
    {r : Participant} (member : r ∈ (sim.turn p.id).vehicles) :
    (∃ old ∈ sim.vehicles, old.id ≠ p.id ∧ r.id = old.id ∧ r.startedAt = old.startedAt ∧
        r.sent = old.sent) ∨
      r.id = p.id ∧ (r.startedAt = none ∧ r.sent = p.sent ∨ r.sent = p.sent + 1) := by
  have acts := turning.acts
  have soon := turning.informed.next p turning.member
  have turns := turns_turn turning.informed.ascending turning.member acts.id
  generalize sim.turn p.id = after at turns member
  generalize p.act sim.settings sim.isDue sim.now = acted at acts turns
  cases turns with
  | silent quiet =>
      have waits : acted.startedAt = none := by
        refine quiet.resolve_right ?_
        rw [acts.nextBeacon, Timestamp.lt_iff]
        omega
      obtain ⟨old, inside, rfl⟩ := List.mem_map.mp member
      by_cases own : old.id = acted.id
      · rw [if_pos own]
        exact Or.inr ⟨acts.id, Or.inl ⟨waits, acts.sent⟩⟩
      · rw [if_neg own]
        exact Or.inl ⟨old, inside, fun same => own (same.trans acts.id.symm), rfl, rfl, rfl⟩
  | sends air next lost _ _ _ =>
      obtain ⟨old, inside, rfl⟩ := List.mem_map.mp member
      by_cases own : old.id = p.id
      · rw [if_pos own]
        exact Or.inr ⟨acts.id, Or.inr (congrArg (· + 1) acts.sent)⟩
      · rw [if_neg own]
        refine Or.inl ⟨old, inside, own, ?_⟩
        split <;> exact ⟨rfl, rfl, rfl⟩

theorem Turning.inStep (turning : start.Turning sim done p) (reliable : start.settings.Reliable)
    (exact : start.settings.gap = 0) (before : sim.InStep done) :
    (sim.turn p.id).InStep (done ++ [p.id]) := by
  obtain ⟨_, _, frame⟩ := turn_frame sim p.id
  have settings : (sim.turn p.id).settings = sim.settings := by rw [frame]
  have now : (sim.turn p.id).now = sim.now := by rw [frame]
  have counted := reliable.counted
  have early := isLate_eq_false.mp turning.early
  rw [turning.settings] at early
  have waits : p.sent.toNat ≤ sim.now.ms := by
    simpa [turning.waits] using before.few p turning.member
  -- the count of a vehicle does not come round to zero, for the clock does not
  have next : (p.sent + 1).toNat = p.sent.toNat + 1 := by
    rw [UInt64.toNat_add]
    exact Nat.mod_eq_of_lt (by change p.sent.toNat + 1 < 2 ^ 64; omega)
  refine ⟨?_, ?_, ?_, ?_⟩
  · rw [settings, now]
    exact before.clock
  · rw [settings]
    exact turning.eachEntry reliable (fun _ _ _ _ _ divides => divides)
      (fun _ divides => divides) (fun _ => before.clock) before.heard
  · intro r member
    rw [now]
    rcases turning.counts (turning.settings ▸ exact) member with
      ⟨old, inside, other, same, -, sent⟩ | ⟨own, counts⟩
    · have rest : decide (old.id ∈ done ++ [p.id]) = decide (old.id ∈ done) := by simp [other]
      rw [sent, same, rest]
      exact before.few old inside
    · have had : decide (p.id ∈ done ++ [p.id]) = true := by simp
      rw [own, had, Timestamp.bound_true]
      rcases counts with ⟨-, silent⟩ | sent
      · rw [silent]
        omega
      · rw [sent, next]
        omega
  · intro r member started
    rcases turning.counts (turning.settings ▸ exact) member with
      ⟨old, inside, -, -, since, sent⟩ | ⟨-, ⟨waiting, -⟩ | sent⟩
    · rw [sent]
      exact before.sends old inside (since ▸ started)
    · exact absurd waiting started
    · intro zero
      rw [sent] at zero
      rw [zero] at next
      cases next

theorem InStep.tickClock (inStep : sim.InStep (sim.vehicles.map Participant.id))
    (reliable : sim.settings.Reliable) (early : sim.isLate = false) : sim.tickClock.InStep [] := by
  have counted := reliable.counted
  have moves := reliable.moves
  have clock := isLate_eq_false.mp early
  have now : sim.tickClock.now.ms = sim.now.ms + sim.settings.step.ms :=
    Timestamp.advance_ms_of_lt (by omega)
  refine ⟨?_, inStep.heard, ?_, inStep.sends⟩
  · change sim.settings.step.ms ∣ sim.tickClock.now.ms
    rw [now]
    exact Nat.dvd_add inStep.clock (Nat.dvd_refl _)
  · intro q member
    have few := inStep.few q member
    have bound := sim.now.bound_le (decide (q.id ∈ sim.vehicles.map Participant.id))
    simp only [List.not_mem_nil, decide_false, Timestamp.bound_false]
    omega

/-- The entries that the policy is asked about at the turn of a vehicle, if it is asked. -/
def view (sim : Simulation) (p : Participant) : List Neighbor :=
  (((p.driven sim.settings sim.now).controller.forget sim.now).question sim.now).neighbors.neighbors

/-- A vehicle asks about its table as it is: to drive does not change that, and nobody is
    forgotten. -/
theorem Turning.view_eq (turning : start.Turning sim done p)
    (reliable : start.settings.Reliable) : sim.view p = p.controller.table.entries := by
  have keeps := turning.drives.keeps
  have table := (Participant.table_forget_eq keeps.table keeps.constants sim.now).trans
    (turning.informed.forget_eq (turning.settings ▸ reliable) turning.member)
  exact congrArg NeighborTable.entries table

theorem Turning.asks_view (turning : start.Turning sim done p) {d : Decision}
    (decided : p.decision sim.settings sim.isDue sim.now = some d) :
    (p.act sim.settings sim.isDue sim.now).controller.lastAnswer =
      some (p.controller.policy.answer ⟨p.id, p.script.route, ⟨sim.view p⟩, sim.now⟩) := by
  have drives := turning.drives
  have policy := Controller.policy_of_constants drives.keeps.constants
  have settings := (Controller.settings_of_constants drives.keeps.constants).trans
    (turning.informed.settings_eq turning.member)
  rw [Participant.decision] at decided
  split at decided
  · next due =>
    have asked := Controller.lastAnswer_tick decided
    rw [Controller.table_tick drives.running, policy, settings] at asked
    rw [Participant.act_eq, Participant.controller_mark, Participant.consult, if_pos due]
    exact asked
  · cases decided

theorem Turning.mem_view_iff (turning : start.Turning sim done p)
    (reliable : start.settings.Reliable) (inStep : sim.InStep done) {v : VehicleId} :
    v ∈ (sim.view p).map Neighbor.id ↔ v ∈ (sim.peers p).map Participant.id := by
  have informed := turning.informed
  have member := turning.member
  rw [turning.view_eq reliable]
  constructor
  · intro listed
    obtain ⟨n, entry, rfl⟩ := List.mem_map.mp listed
    obtain ⟨q, inside, same, other, -⟩ := informed.tells_of_mem member entry
    have started : q.startedAt ≠ none := by
      intro none
      have unheard := (informed.knows p member q inside other).unheard none
      rw [same, (informed.kept p member).get?_of_mem entry] at unheard
      cases unheard
    have peer : q ∈ sim.peers p :=
      mem_peers.mpr ⟨inside, other.symm, started, inStep.sends q inside started⟩
    exact List.mem_map.mpr ⟨q, peer, same⟩
  · intro listed
    obtain ⟨q, peer, rfl⟩ := List.mem_map.mp listed
    obtain ⟨inside, other, started, -⟩ := mem_peers.mp peer
    obtain ⟨n, entry, same, -⟩ := informed.exists_entry member inside other started
    exact List.mem_map.mpr ⟨n, entry, same⟩

/-- The entry of a vehicle that has had its turn in this step is from this step, and that of one
    that has not is from the last. -/
theorem Turning.shows (turning : start.Turning sim done p) (reliable : start.settings.Reliable)
    (exact : sim.settings.gap = 0) (inStep : sim.InStep done) {n : Neighbor}
    (entry : n ∈ sim.view p) {q : Participant} (peer : q ∈ sim.peers p) (same : n.id = q.id) :
    n.Shows sim.now sim.settings.step.ms q := by
  have informed := turning.informed
  rw [turning.view_eq reliable] at entry
  obtain ⟨inside, other, -⟩ := mem_peers.mp peer
  obtain ⟨r, there, id, -, tells⟩ := informed.tells_of_mem turning.member entry
  obtain rfl := informed.ascending.eq_of_id there inside (id.trans same)
  refine ⟨tells.exact exact, tells.sequence, ?_⟩
  have past := tells.past
  have fresh := tells.fresh
  rw [exact] at fresh
  rw [Neighbor.age, Timestamp.since]
  cases acted : decide (r.id ∈ done) with
  | true =>
      rw [acted, Timestamp.bound_true] at past
      rw [acted, if_pos rfl] at fresh
      exact Or.inl (by omega)
  | false =>
      rw [acted, Timestamp.bound_false] at past
      rw [acted, if_neg Bool.false_ne_true] at fresh
      -- between the two there are whole steps, more than none and less than two
      have found := (informed.kept p turning.member).get?_of_mem entry
      rw [← id] at found
      have heard := inStep.heard p turning.member r there other.symm n found
      have apart := Nat.le_of_dvd (by omega) (Nat.dvd_sub inStep.clock heard)
      exact Or.inr (Nat.le_antisymm (by omega) apart)

/-- Whenever a vehicle has its turn, with all beacons arriving at once, what its policy would be
    asked about are the other vehicles that have set out and have sent, each of them once and as it
    is now, but for the number of its beacon, and as it was heard in this step or one step ago; and
    when it decides, it has asked about these. -/
theorem views_exact {settings : SimulationSettings} {topology : Topology}
    {scripts : List Script} {fresh sim : Simulation}
    (created : create settings topology = .ok fresh)
    (added : fresh.addScripts scripts = (sim, none))
    (delivery : settings.delivery = .immediate) (moves : 1 ≤ settings.step.millis)
    (remembered : settings.step.millis ≤
      settings.client.maxPeriod.nanos * settings.client.maxLost.toNat / 10 ^ 6)
    (counted : settings.horizon.millis + settings.step.millis < 2 ^ 63) :
    ∀ mid p, sim.AtTurn mid p →
      (mid.view p).map Neighbor.id = (mid.peers p).map Participant.id ∧
        (∀ n ∈ mid.view p, ∀ q ∈ mid.peers p, n.id = q.id →
          n.Shows mid.now settings.step.millis q) ∧
        ∀ d, p.decision mid.settings mid.isDue mid.now = some d →
          (p.act mid.settings mid.isDue mid.now).controller.lastAnswer =
            some (p.controller.policy.answer ⟨p.id, p.script.route, ⟨mid.view p⟩, mid.now⟩) := by
  obtain ⟨valid, rfl, rfl, parked⟩ := parked_of_added created added
  have threshold := Settings.thresholdMs_of_hasExactThreshold
    (Settings.hasExactThreshold_of_valid (SimulationSettings.accepted valid).2)
  rw [← threshold] at remembered
  obtain ⟨reliable, exact⟩ :=
    SimulationSettings.reliable_of_immediate delivery moves remembered counted
  intro mid p turn
  obtain ⟨done, turning, inStep⟩ := turn.turning_and reliable parked.informed
    (fun done mid => mid.InStep done) parked.inStep
    (fun done mid p turning => turning.inStep reliable exact)
    (fun mid same early inStep => inStep.tickClock (same ▸ reliable) early)
  have step : sim.settings.step.millis = mid.settings.step.ms := by
    rw [turning.settings]
    exact (Duration.ms_of_millis_lt (by omega)).symm
  refine ⟨?_, ?_, fun d => turning.asks_view⟩
  · have seen : Roster.Ascending id ((mid.view p).map Neighbor.id) := by
      rw [turning.view_eq reliable]
      exact List.pairwise_map.mpr (turning.informed.kept p turning.member).ascending
    have there : Roster.Ascending id ((mid.peers p).map Participant.id) :=
      List.pairwise_map.mpr (turning.informed.ascending.filter _)
    exact seen.eq_of_mem_iff there fun v => turning.mem_view_iff reliable inStep
  · intro n entry q peer same
    rw [step]
    exact turning.shows reliable (turning.settings ▸ exact) inStep entry peer same

/-- Vehicles 3 and 20 have set out, and vehicle 3 has had its second turn. -/
def afterThree : Simulation :=
  [⟨3⟩].foldl turn (fourWayWith jointBySeconds lateRival).step.tickClock

/-- To vehicle 4, which has not set out, the one was heard just now and the other a second ago. -/
theorem views_exact_afterThree :
    create jointBySeconds Topology.fourWay = .ok (onFourWay jointBySeconds) ∧
      (onFourWay jointBySeconds).addScripts lateRival =
        (fourWayWith jointBySeconds lateRival, none) ∧
      ∃ p, (fourWayWith jointBySeconds lateRival).AtTurn afterThree p ∧ p.id = ⟨4⟩ ∧
        (afterThree.view p).map (fun n => (n.id, n.age afterThree.now)) = [(⟨3⟩, 0), (⟨20⟩, 1000)] ∧
        (afterThree.view p).map Neighbor.id = (afterThree.peers p).map Participant.id ∧
        ∀ n ∈ afterThree.view p, ∀ q ∈ afterThree.peers p, n.id = q.id →
          n.Shows afterThree.now 1000 q := by
  have created : create jointBySeconds Topology.fourWay = .ok (onFourWay jointBySeconds) :=
    create_onFourWay rfl
  have added : (onFourWay jointBySeconds).addScripts lateRival =
      (fourWayWith jointBySeconds lateRival, none) := addScripts_fourWayWith (by decide +kernel)
  have reached : (fourWayWith jointBySeconds lateRival).Reaches
      (fourWayWith jointBySeconds lateRival).step.tickClock := .next .start (by decide +kernel)
  obtain ⟨p, member, four, ages⟩ : ∃ p ∈ afterThree.vehicles, p.id = ⟨4⟩ ∧
      (afterThree.view p).map (fun n => (n.id, n.age afterThree.now)) =
        [(⟨3⟩, 0), (⟨20⟩, 1000)] := by
    decide +kernel
  have order : (fourWayWith jointBySeconds lateRival).step.tickClock.vehicles.map Participant.id =
      [⟨3⟩] ++ p.id :: [⟨20⟩] := by
    rw [four]
    decide +kernel
  have turn : (fourWayWith jointBySeconds lateRival).AtTurn
      ([⟨3⟩].foldl turn (fourWayWith jointBySeconds lateRival).step.tickClock) p :=
    .intro reached (by decide +kernel) order member
  obtain ⟨same, shows, -⟩ :=
    views_exact created added rfl (by decide) (by decide) (by decide) _ p turn
  have step : jointBySeconds.step.millis = 1000 := rfl
  rw [step] at shows
  exact ⟨created, added, p, turn, four, ages, same, shows⟩

end Simulation

end Junction
