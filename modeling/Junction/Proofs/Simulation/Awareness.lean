import Junction.Proofs.Simulation.Knowledge
import Junction.Proofs.Simulation.Run
import Junction.Simulation.Report

/-! # What the vehicles know of each other

Where no beacon is lost and nobody is forgotten who still sends, every table has an entry for every
vehicle that has set out, and none for anybody else. Every turn keeps this, and so it holds along
every run.
-/

namespace Junction

namespace Simulation

def atRest (sim : Simulation) (script : Script) : Controller :=
  .ofPolicy (sim.clientOf script) (RightOfWay.policyFor sim.settings.client.protocol
    sim.topology.conflicts sim.settings.client.options).toPolicy

/-- In the middle of a step, when the vehicles in `done` have had their turn: every vehicle stands
    where a vehicle can stand, and knows all others. -/
structure Informed (sim : Simulation) (done : List VehicleId) : Prop where
  ascending : Roster.Ascending Participant.id sim.vehicles
  running : ∀ p ∈ sim.vehicles, p.controller.running = true
  constants : ∀ p ∈ sim.vehicles, p.controller.constants = (sim.atRest p.script).constants
  standing : ∀ p ∈ sim.vehicles, p.Standing (sim.now.bound (decide (p.id ∈ done)))
  next : ∀ p ∈ sim.vehicles, p.nextBeacon.ms ≤ sim.now.ms + sim.settings.gap
  kept : ∀ p ∈ sim.vehicles, p.controller.table.Kept
  strangers : ∀ p ∈ sim.vehicles, ∀ v, (∀ q ∈ sim.vehicles, q.id ≠ v) →
    p.controller.table.get? v = none
  knows : ∀ p ∈ sim.vehicles, ∀ q ∈ sim.vehicles, p.id ≠ q.id →
    p.controller.table.Knows sim.settings sim.now (decide (q.id ∈ done)) q

end Simulation

namespace Simulation.Informed

variable {sim : Simulation} {done : List VehicleId} {p q : Participant}

theorem settings_eq (informed : sim.Informed done) (member : p ∈ sim.vehicles) :
    p.controller.settings = sim.clientOf p.script :=
  Controller.settings_of_constants (informed.constants p member)

theorem policy_eq (informed : sim.Informed done) (member : p ∈ sim.vehicles) :
    p.controller.policy = (RightOfWay.policyFor sim.settings.client.protocol
      sim.topology.conflicts sim.settings.client.options).toPolicy :=
  Controller.policy_of_constants (informed.constants p member)

theorem owner_eq (informed : sim.Informed done) (member : p ∈ sim.vehicles) :
    p.controller.table.owner = p.id :=
  Controller.owner_of_constants (informed.constants p member)

theorem sender_eq (informed : sim.Informed done) (member : p ∈ sim.vehicles) :
    p.controller.beacon.sender = p.id :=
  (Controller.sender_of_constants (informed.constants p member)).trans
    (Controller.firstBeacon_sender _ _).1

theorem route_eq (informed : sim.Informed done) (member : p ∈ sim.vehicles) :
    p.controller.beacon.route = p.script.route :=
  (Controller.route_of_constants (informed.constants p member)).trans
    (Controller.firstBeacon_sender _ _).2.2

theorem protocol_eq (informed : sim.Informed done) (member : p ∈ sim.vehicles) :
    p.controller.beacon.protocol = sim.settings.client.protocol :=
  ((Controller.protocol_of_constants (informed.constants p member)).trans
    (Controller.firstBeacon_sender _ _).2.1).trans (RightOfWay.policyFor_protocol _ _ _)

theorem tells_of_mem (informed : sim.Informed done) (member : p ∈ sim.vehicles) {n : Neighbor}
    (entry : n ∈ p.controller.table.entries) :
    ∃ q ∈ sim.vehicles, q.id = n.id ∧ p.id ≠ q.id ∧
      n.Tells sim.settings sim.now (decide (q.id ∈ done)) q := by
  have kept := informed.kept p member
  have found := kept.get?_of_mem entry
  have known : ∃ q ∈ sim.vehicles, q.id = n.id := by
    refine Classical.byContradiction fun none => ?_
    have strange := informed.strangers p member n.id (fun q inside same => none ⟨q, inside, same⟩)
    rw [strange] at found
    cases found
  obtain ⟨q, inside, same⟩ := known
  have other : p.id ≠ q.id := by
    rw [same, ← informed.owner_eq member]
    exact (kept.foreign n entry).symm
  have knows := informed.knows p member q inside other
  rw [← same] at found
  refine ⟨q, inside, same, other, ?_⟩
  cases started : q.startedAt with
  | none =>
      rw [knows.unheard started] at found
      cases found
  | some s =>
      obtain ⟨m, have', tells⟩ := knows.heard (by simp [started])
      rw [have'] at found
      cases found
      exact tells

/-- Nobody is silent for so long that a flush would take the entry out. -/
theorem forget_eq (informed : sim.Informed done) (reliable : sim.settings.Reliable)
    (member : p ∈ sim.vehicles) :
    (p.controller.forget sim.now).table = p.controller.table := by
  have threshold : p.controller.settings.thresholdMs = sim.settings.client.thresholdMs := by
    rw [informed.settings_eq member]
    rfl
  simp only [Controller.forget, threshold]
  apply NeighborTable.flush_eq_self
  intro n entry
  obtain ⟨q, -, -, -, tells⟩ := informed.tells_of_mem member entry
  have fresh := tells.fresh
  have remembered := reliable.remembered
  simp only [Neighbor.age, Timestamp.since]
  split at fresh <;> omega

end Simulation.Informed

namespace Simulation.Informed

variable {sim after : Simulation} {done : List VehicleId} {p own : Participant}
  {table : Participant → NeighborTable}

theorem of_turned (informed : sim.Informed done) (member : p ∈ sim.vehicles)
    (turned : sim.Turned p own table after) (script : own.script = p.script)
    (running : own.controller.running = true)
    (constants : own.controller.constants = p.controller.constants)
    (standing : own.Standing (sim.now.ms + 1))
    (next : own.nextBeacon.ms ≤ sim.now.ms + sim.settings.gap)
    (view : own.controller.table = p.controller.table)
    (learns : ∀ r ∈ sim.vehicles, r.id ≠ p.id →
      r.controller.table.Learns sim.settings sim.now (table r) own) :
    after.Informed (done ++ [p.id]) := by
  have had : decide (own.id ∈ done ++ [p.id]) = true := by simp [turned.same]
  have others : ∀ r : Participant, r.id ≠ p.id →
      decide (r.id ∈ done ++ [p.id]) = decide (r.id ∈ done) := by
    intro r other
    simp [other]
  have rest : ∀ r : Participant, after.atRest r.script = sim.atRest r.script := by
    intro r
    simp only [atRest, clientOf, turned.settings, turned.topology]
  refine ⟨turned.ascending informed.ascending, ?_, ?_, ?_, ?_, ?_, ?_, ?_⟩
  · intro r inside
    rcases turned.mem inside with rfl | ⟨old, before, -, rfl⟩
    · exact running
    · exact informed.running old before
  · intro r inside
    rw [rest]
    rcases turned.mem inside with rfl | ⟨old, before, other, rfl⟩
    · rw [constants, script]
      exact informed.constants p member
    · refine Eq.trans ?_ (informed.constants old before)
      simp only [Participant.withTable, Controller.constants, (learns old before other).owner]
  · intro r inside
    rw [turned.now]
    rcases turned.mem inside with rfl | ⟨old, before, other, rfl⟩
    · rw [had]
      exact standing
    · have kept := (informed.standing old before).withTable (table old)
      rw [← others old other] at kept
      exact kept
  · intro r inside
    rw [turned.now, turned.settings]
    rcases turned.mem inside with rfl | ⟨old, before, -, rfl⟩
    · exact next
    · exact informed.next old before
  · intro r inside
    rcases turned.mem inside with rfl | ⟨old, before, other, rfl⟩
    · rw [view]
      exact informed.kept p member
    · exact (learns old before other).kept
  · intro r inside v stranger
    have strange : ∀ q ∈ sim.vehicles, q.id ≠ v := by
      intro q before same
      have listed : q.id ∈ after.vehicles.map Participant.id := by
        rw [turned.ids]
        exact List.mem_map_of_mem before
      obtain ⟨r', there, eq⟩ := List.mem_map.mp listed
      exact stranger r' there (eq.trans same)
    rcases turned.mem inside with rfl | ⟨old, before, other, rfl⟩
    · rw [view]
      exact informed.strangers p member v strange
    · have elsewhere : v ≠ own.id := by
        rw [turned.same]
        exact (strange p member).symm
      exact ((learns old before other).others v elsewhere).trans
        (informed.strangers old before v strange)
  · intro a ha b hb apart
    rw [turned.settings, turned.now]
    rcases turned.mem ha with rfl | ⟨a, before, other, rfl⟩
    · rcases turned.mem hb with rfl | ⟨b, there, away, rfl⟩
      · exact absurd rfl apart
      · have knows := informed.knows p member b there away.symm
        rw [← others b away] at knows
        exact knows.congr (by rw [view]) _
    · rcases turned.mem hb with rfl | ⟨b, there, away, rfl⟩
      · rw [had]
        exact (learns a before other).knows
      · have knows := informed.knows a before b there apart
        rw [← others b away] at knows
        refine knows.congr ((learns a before other).others b.id ?_) _
        rw [turned.same]
        exact away

theorem tickClock (informed : sim.Informed (sim.vehicles.map Participant.id))
    (reliable : sim.settings.Reliable) (early : sim.isLate = false) :
    sim.tickClock.Informed [] := by
  have clock := isLate_eq_false.mp early
  have counted := reliable.counted
  have moves := reliable.moves
  have now : sim.tickClock.now.ms = sim.now.ms + sim.settings.step.ms :=
    Timestamp.advance_ms_of_lt (by omega)
  have had : ∀ p ∈ sim.vehicles, decide (p.id ∈ sim.vehicles.map Participant.id) = true := by
    intro p member
    simpa using ⟨p, member, rfl⟩
  refine ⟨informed.ascending, informed.running, informed.constants, ?_, ?_, informed.kept,
    informed.strangers, ?_⟩
  · intro p member
    have standing := informed.standing p member
    rw [had p member] at standing
    apply standing.mono
    simp only [List.not_mem_nil, decide_false, Timestamp.bound_true, Timestamp.bound_false]
    omega
  · intro p member
    have := informed.next p member
    change p.nextBeacon.ms ≤ sim.tickClock.now.ms + sim.settings.gap
    omega
  · intro p ha q hb apart
    have knows := informed.knows p ha q hb apart
    rw [had q hb] at knows
    refine ⟨knows.unheard, ?_⟩
    intro started
    obtain ⟨n, found, tells⟩ := knows.heard started
    have past := tells.past
    have fresh := tells.fresh
    simp only [Timestamp.bound_true] at past
    simp only [if_true] at fresh
    refine ⟨n, found, tells.sequence, tells.route, ?_, ?_, tells.next, tells.outside, tells.inside,
      tells.exact⟩
    · simp only [List.not_mem_nil, decide_false, Timestamp.bound_false]
      omega
    · simp only [List.not_mem_nil, decide_false, Bool.false_eq_true, if_false]
      change sim.tickClock.now.ms ≤ n.lastReceipt.ms + sim.settings.gap + sim.settings.step.ms
      omega

end Simulation.Informed

namespace Simulation

variable {start sim : Simulation} {done : List VehicleId} {p : Participant}

/-- In a run from `start`, the vehicle `p` is about to have its turn, after those in `done`. -/
structure Turning (start sim : Simulation) (done : List VehicleId) (p : Participant) : Prop where
  settings : sim.settings = start.settings
  topology : sim.topology = start.topology
  early : sim.isLate = false
  informed : sim.Informed done
  member : p ∈ sim.vehicles
  waits : p.id ∉ done

namespace Turning

theorem of_rest {between : Simulation} (turning : between.Turning sim done p)
    (settings : between.settings = start.settings) (topology : between.topology = start.topology) :
    start.Turning sim done p :=
  { turning with
    settings := turning.settings.trans settings
    topology := turning.topology.trans topology }

theorem standing (turning : start.Turning sim done p) : p.Standing sim.now.ms := by
  have standing := turning.informed.standing p turning.member
  simpa only [turning.waits, decide_false, Timestamp.bound_false] using standing

theorem acts (turning : start.Turning sim done p) :
    p.Acts sim.now (p.act sim.settings sim.isDue sim.now) :=
  Participant.acts_act turning.standing (turning.informed.running p turning.member) _ _

/-- The turn of a vehicle changes it as it acts, and all are informed of that. -/
theorem turned (turning : start.Turning sim done p) (reliable : start.settings.Reliable) :
    ∃ own table, sim.Turned p own table (sim.turn p.id) ∧
      own.controller = (p.act sim.settings sim.isDue sim.now).controller ∧
      own.report = (p.act sim.settings sim.isDue sim.now).report ∧
      own.controller.table = p.controller.table ∧
      (∀ r ∈ sim.vehicles, r.id ≠ p.id →
        r.controller.table.Learns sim.settings sim.now (table r) own) ∧
      (sim.turn p.id).Informed (done ++ [p.id]) := by
  have acts := turning.acts
  have standing := turning.standing
  obtain ⟨settings, -, early, informed, member, waits⟩ := turning
  rw [← settings] at reliable
  generalize acted : p.act sim.settings sim.isDue sim.now = q at acts
  have soon : q.nextBeacon.ms ≤ sim.now.ms + sim.settings.gap := by
    rw [acts.nextBeacon]
    exact informed.next p member
  have view : q.controller.table = p.controller.table := by
    rcases acts.table with kept | flushed
    · exact kept
    · exact flushed.trans (informed.forget_eq reliable member)
  have turns := turns_turn informed.ascending member (by rw [acted]; exact acts.id)
  rw [acted] at turns
  have knows : ∀ r ∈ sim.vehicles, r.id ≠ p.id →
      r.controller.table.Knows sim.settings sim.now false p := by
    intro r inside other
    have := informed.knows r inside p member other
    simpa [waits] using this
  generalize sim.turn p.id = after at turns
  cases turns with
  | silent quiet =>
      have changed : sim.Turned p q (fun r => r.controller.table)
          { sim with vehicles := sim.replaced q } := by
        refine ⟨rfl, rfl, rfl, acts.id, ?_⟩
        simp only [replaced, acts.id]
        rfl
      have learns : ∀ r ∈ sim.vehicles, r.id ≠ p.id →
          r.controller.table.Learns sim.settings sim.now r.controller.table q := by
        intro r inside other
        exact NeighborTable.learns_of_silent (informed.kept r inside) (knows r inside other) acts standing quiet
      exact ⟨q, _, changed, rfl, rfl, view, learns, informed.of_turned member changed acts.script
        acts.running acts.constants acts.standing soon view learns⟩
  | sends air next lost started heard drawn =>
      have short := drawn reliable.periods soon
      have sender : q.controller.beacon.sender = p.id :=
        (Controller.sender_of_constants acts.constants).trans (informed.sender_eq member)
      have route : q.controller.beacon.route = p.script.route :=
        (Controller.route_of_constants acts.constants).trans (informed.route_eq member)
      have protocol : q.outgoing.protocol = sim.settings.client.protocol :=
        (Controller.protocol_of_constants acts.constants).trans (informed.protocol_eq member)
      have changed : sim.Turned p { q with sent := q.sent + 1, nextBeacon := next }
          (fun r => (r.controller.table.update q.outgoing sim.now).1)
          { sim with
            air
            vehicles := sim.vehicles.map fun r =>
              if r.id = p.id then { q with sent := q.sent + 1, nextBeacon := next }
              else if lost r then r else r.hear q.outgoing sim.now } := by
        refine ⟨rfl, rfl, rfl, acts.id, List.map_congr_left ?_⟩
        intro r inside
        rw [heard reliable.lossless r,
          Participant.hear_eq (protocol.trans (informed.protocol_eq inside).symm)]
        rfl
      have learns : ∀ r ∈ sim.vehicles, r.id ≠ p.id →
          r.controller.table.Learns sim.settings sim.now
            (r.controller.table.update q.outgoing sim.now).1
            { q with sent := q.sent + 1, nextBeacon := next } := by
        intro r inside other
        have foreign : p.id ≠ r.controller.table.owner := by
          rw [informed.owner_eq inside]
          exact other.symm
        exact NeighborTable.learns_of_sends (informed.kept r inside) (knows r inside other) acts foreign sender
          route started short
      exact ⟨_, _, changed, rfl, rfl, view, learns, informed.of_turned member changed acts.script
        acts.running acts.constants (acts.standing.send started _ _) short view learns⟩

end Turning

/-- What holds of every entry of a table and the vehicle that it is about. -/
def EachEntry (related : Neighbor → Participant → Prop) (sim : Simulation) : Prop :=
  ∀ p ∈ sim.vehicles, ∀ q ∈ sim.vehicles, p.id ≠ q.id → ∀ n,
    p.controller.table.get? q.id = some n → related n q

/-- Only the entries about the vehicle whose turn it was have to be looked at, and the entry that it
    leaves when it sends. -/
theorem Turning.eachEntry (turning : start.Turning sim done p)
    (reliable : start.settings.Reliable) {related : Neighbor → Participant → Prop}
    (congr : ∀ n a b, b.id = a.id → b.crossing = a.crossing → related n a → related n b)
    (acts : ∀ n, related n p → related n (p.act sim.settings sim.isDue sim.now))
    (said : ∀ sequence, related
      ⟨p.id, { (p.act sim.settings sim.isDue sim.now).controller.beacon with sequence }, sim.now⟩
      (p.act sim.settings sim.isDue sim.now))
    (before : sim.EachEntry related) : (sim.turn p.id).EachEntry related := by
  obtain ⟨own, table, turned, controller, report, view, learns, -⟩ := turning.turned reliable
  have id : own.id = (p.act sim.settings sim.isDue sim.now).id :=
    turned.same.trans turning.acts.id.symm
  have crossing := congrArg VehicleReport.crossing report
  intro a ha b hb distinct n found
  rcases turned.mem ha with rfl | ⟨a, there, other, rfl⟩
  · rcases turned.mem hb with rfl | ⟨b, here, away, rfl⟩
    · exact absurd rfl distinct
    · rw [view] at found
      exact congr n b _ rfl rfl (before p turning.member b here away.symm n found)
  · rcases turned.mem hb with rfl | ⟨b, here, away, rfl⟩
    · rcases (learns a there other).entry with kept | ⟨sequence, heard⟩
      · have old : a.controller.table.get? p.id = some n := by
          rw [← turned.same, ← kept]
          exact found
        exact congr n _ _ id crossing (acts n (before a there p turning.member other n old))
      · obtain rfl := Option.some.inj (heard.symm.trans found)
        rw [turned.same, controller]
        exact congr _ _ _ id crossing (said sequence)
    · have apart : b.id ≠ own.id := by
        rw [turned.same]
        exact away
      have old := (learns a there other).others b.id apart
      exact congr n b _ rfl rfl (before a there b here distinct n (old.symm.trans found))

end Simulation

namespace Simulation

variable {start sim : Simulation}

theorem Informed.turns (informed : sim.Informed []) (reliable : sim.settings.Reliable)
    (early : sim.isLate = false) (holds : List VehicleId → Simulation → Prop) (first : holds [] sim)
    (turn : ∀ done mid p, sim.Turning mid done p → holds done mid →
      holds (done ++ [p.id]) (mid.turn p.id)) {before behind : List VehicleId}
    (split : sim.vehicles.map Participant.id = before ++ behind) {mid : Simulation}
    (turned : mid = before.foldl Simulation.turn sim) :
    mid.vehicles.map Participant.id = sim.vehicles.map Participant.id ∧
      mid.settings = sim.settings ∧ mid.topology = sim.topology ∧ mid.isLate = false ∧
      mid.Informed before ∧ holds before mid := by
  subst turned
  refine sim.turns_induction
    (fun done mid => mid.vehicles.map Participant.id = sim.vehicles.map Participant.id ∧
      mid.settings = sim.settings ∧ mid.topology = sim.topology ∧ mid.isLate = false ∧
      mid.Informed done ∧ holds done mid)
    ⟨rfl, rfl, rfl, early, informed, first⟩ ?_ split
  intro before v behind mid split ⟨ids, settings, topology, going, known, here⟩
  have listed : v ∈ mid.vehicles.map Participant.id := by
    rw [ids, split]
    simp
  obtain ⟨p, member, rfl⟩ := List.mem_map.mp listed
  have waits := informed.ascending.not_mem_before split
  have turning : sim.Turning mid before p := ⟨settings, topology, going, known, member, waits⟩
  obtain ⟨own, table, turned, -, -, -, -, after⟩ := turning.turned reliable
  refine ⟨turned.ids.trans ids, turned.settings.trans settings,
    turned.topology.trans topology, ?_, after, turn before mid p turning here⟩
  rw [isLate, turned.settings, turned.now]
  exact going

theorem Informed.step (informed : sim.Informed []) (reliable : sim.settings.Reliable)
    (early : sim.isLate = false) (holds : List VehicleId → Simulation → Prop) (first : holds [] sim)
    (turn : ∀ done mid p, sim.Turning mid done p → holds done mid →
      holds (done ++ [p.id]) (mid.turn p.id)) :
    sim.step.Informed (sim.step.vehicles.map Participant.id) ∧
      holds (sim.step.vehicles.map Participant.id) sim.step := by
  obtain ⟨ids, -, -, -, known, there⟩ := informed.turns reliable early holds first turn
    (List.append_nil _).symm (rfl : sim.step = _)
  rw [ids]
  exact ⟨known, there⟩

namespace Reaches

/-- What every turn and every tick of the clock keep holds throughout a run. -/
theorem informed_and (reached : Reaches start sim) (reliable : start.settings.Reliable)
    (informed : start.Informed []) (holds : List VehicleId → Simulation → Prop)
    (first : holds [] start)
    (turn : ∀ done mid p, start.Turning mid done p → holds done mid →
      holds (done ++ [p.id]) (mid.turn p.id))
    (tick : ∀ mid, mid.settings = start.settings → mid.isLate = false →
      holds (mid.vehicles.map Participant.id) mid → holds [] mid.tickClock) :
    sim.Informed [] ∧ holds [] sim := by
  induction reached with
  | start => exact ⟨informed, first⟩
  | @next sim before early ih =>
      obtain ⟨known, here⟩ := ih
      have settings := before.settings
      have topology := before.topology
      obtain ⟨after, there⟩ := known.step (settings ▸ reliable) early holds here
        (fun done mid p turning => turn done mid p (turning.of_rest settings topology))
      have same : sim.step.settings = start.settings := (settings_step sim).trans settings
      have late : sim.step.isLate = false := by
        rw [isLate, settings_step, now_step]
        exact early
      exact ⟨after.tickClock (same ▸ reliable) late, tick _ same late there⟩

theorem informed (reached : Reaches start sim) (reliable : start.settings.Reliable)
    (begun : start.Informed []) : sim.Informed [] :=
  (reached.informed_and reliable begun (fun _ _ => True) trivial (fun _ _ _ _ _ => trivial)
    (fun _ _ _ _ => trivial)).1

end Reaches

/-- Who is about to have its turn in a run is informed, and so are all others; and what every turn
    and every tick of the clock keep holds then. -/
theorem AtTurn.turning_and {mid : Simulation} {p : Participant} (turn : start.AtTurn mid p)
    (reliable : start.settings.Reliable) (begun : start.Informed [])
    (holds : List VehicleId → Simulation → Prop) (first : holds [] start)
    (keeps : ∀ done mid p, start.Turning mid done p → holds done mid →
      holds (done ++ [p.id]) (mid.turn p.id))
    (tick : ∀ mid, mid.settings = start.settings → mid.isLate = false →
      holds (mid.vehicles.map Participant.id) mid → holds [] mid.tickClock) :
    ∃ done, start.Turning mid done p ∧ holds done mid := by
  obtain @⟨sim, before, behind, p, reached, early, split, member⟩ := turn
  obtain ⟨informed, here⟩ := reached.informed_and reliable begun holds first keeps tick
  obtain ⟨-, settings, topology, going, known, there⟩ := informed.turns
    (reached.settings ▸ reliable) early holds here
    (fun done mid p turning =>
      keeps done mid p (turning.of_rest reached.settings reached.topology)) split rfl
  exact ⟨before, ⟨settings.trans reached.settings, topology.trans reached.topology, going, known,
    member, informed.ascending.not_mem_before split⟩, there⟩

theorem AtTurn.turning {mid : Simulation} {p : Participant} (turn : start.AtTurn mid p)
    (reliable : start.settings.Reliable) (begun : start.Informed []) :
    ∃ done, start.Turning mid done p := by
  obtain ⟨done, turning, -⟩ := turn.turning_and reliable begun (fun _ _ => True) trivial
    (fun _ _ _ _ _ => trivial) (fun _ _ _ _ => trivial)
  exact ⟨done, turning⟩

end Simulation

end Junction
