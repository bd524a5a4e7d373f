import Junction.Proofs.Simulation.Standing
import Junction.Proofs.Vehicle.Lookup
import Junction.Simulation.Basic

/-! # What one turn does to all vehicles

The turn of a vehicle changes that vehicle as it acts. If it sends, the others hear it, as far as
the copy for them is not lost. If it does not, it has not set out yet, or its time to send has not
come.
-/

namespace Junction

/-- No copy of a beacon is lost. -/
def SimulationSettings.Lossless (s : SimulationSettings) : Prop :=
  s.delivery = .immediate ∨ s.delivery = .periodic 0.0

/-- The longest time from one beacon of a vehicle to the turn at which it sends the next. -/
def SimulationSettings.gap (s : SimulationSettings) : Nat :=
  match s.delivery with
  | .immediate => 0
  | .periodic _ => s.client.maxPeriod.ms

/-- An instant that lies a period ahead. -/
def SimulationSettings.Draws (s : SimulationSettings) (now next : Timestamp) : Prop :=
  ∃ wait, s.client.minPeriod.ms ≤ wait ∧
    (s.client.minPeriod.ms ≤ s.client.maxPeriod.ms → wait ≤ s.client.maxPeriod.ms) ∧
    next = now.advance wait

namespace Air

theorem copy_eq_false {lossRate : Float} (never : ¬0.0 < lossRate) (a : Air) :
    (a.copy lossRate).1 = false := by
  simp only [copy, if_neg never]

/-- All vehicles but the sender hear the beacon, or their copy is lost. -/
theorem deliver_eq (lossRate : Float) (b : Beacon) (sender : VehicleId) (now : Timestamp)
    {vehicles : List Participant} (ascending : Roster.Ascending Participant.id vehicles) (a : Air) :
    ∃ lost : Participant → Bool, (¬0.0 < lossRate → ∀ p, lost p = false) ∧
      (deliver lossRate b sender now vehicles a).1 =
        vehicles.map fun p =>
          if p.id = sender then p else if lost p then p else p.hear b now := by
  induction vehicles generalizing a with
  | nil => exact ⟨fun _ => false, fun _ _ => rfl, rfl⟩
  | cons p rest ih =>
      obtain ⟨before, tail⟩ := List.pairwise_cons.mp ascending
      by_cases own : p.id = sender
      · obtain ⟨lost, none, eq⟩ := ih tail a
        refine ⟨lost, none, ?_⟩
        simp only [deliver, if_pos own, List.map_cons, eq]
      · obtain ⟨lost, none, eq⟩ := ih tail (a.copy lossRate).2
        refine ⟨fun r => if r.id = p.id then (a.copy lossRate).1 else lost r, ?_, ?_⟩
        · intro never r
          simp only [copy_eq_false never, none never, ite_self]
        · simp only [deliver, if_neg own, List.map_cons, eq, if_true]
          congr 1
          apply List.map_congr_left
          intro r later
          have apart : r.id ≠ p.id := by
            intro same
            have := before r later
            rw [same, VehicleId.lt_iff] at this
            omega
          simp only [if_neg apart]

end Air

namespace Simulation

/-- The vehicles, one of them having become `q`. -/
def replaced (sim : Simulation) (q : Participant) : List Participant :=
  sim.vehicles.map fun r => if r.id = q.id then q else r

variable {sim : Simulation} {p q : Participant}

theorem ascending_replaced (ascending : Roster.Ascending Participant.id sim.vehicles)
    (q : Participant) : Roster.Ascending Participant.id (sim.replaced q) := by
  apply ascending.map
  intro r
  split
  · next same => exact same.symm
  · rfl

theorem mem_replaced (member : p ∈ sim.vehicles) (same : q.id = p.id) : q ∈ sim.replaced q :=
  List.mem_map.mpr ⟨p, member, if_pos same.symm⟩

theorem modify_eq_replaced (sim : Simulation)
    (ascending : Roster.Ascending Participant.id sim.vehicles)
    (member : p ∈ sim.vehicles) {f : Participant → Participant} (same : (f p).id = p.id) :
    sim.modify p.id f = { sim with vehicles := sim.replaced (f p) } := by
  have vehicles : (sim.vehicles.map fun r => if r.id = p.id then f r else r) =
      sim.replaced (f p) := by
    apply List.map_congr_left
    intro r inside
    rw [same]
    split
    · next here => rw [ascending.eq_of_id inside member here]
    · rfl
  rw [modify, vehicles]

theorem map_replaced (sim : Simulation) {v : VehicleId} (same : q.id = v) (own : Participant)
    (other : Participant → Participant) :
    ((sim.replaced q).map fun r => if r.id = v then own else other r) =
      sim.vehicles.map fun r => if r.id = v then own else other r := by
  subst same
  simp only [replaced, List.map_map]
  apply List.map_congr_left
  intro r _
  by_cases here : r.id = q.id
  · simp [here]
  · simp [here]

/-- What the turn of `p` does, `q` being what `p` has become by acting. -/
inductive Turns (sim : Simulation) (p q : Participant) : Simulation → Prop where
  | silent (quiet : q.startedAt = none ∨ sim.now < q.nextBeacon) :
      Turns sim p q { sim with vehicles := sim.replaced q }
  | sends (air : Air) (next : Timestamp) (lost : Participant → Bool) (started : q.startedAt ≠ none)
      (heard : sim.settings.Lossless → ∀ r, lost r = false)
      (soon : (sim.settings.delivery ≠ .immediate →
          sim.settings.client.minPeriod.ms ≤ sim.settings.client.maxPeriod.ms) →
        q.nextBeacon.ms ≤ sim.now.ms + sim.settings.gap →
          next.ms ≤ sim.now.ms + sim.settings.gap)
      (planned : sim.settings.delivery ≠ .immediate →
        q.nextBeacon ≤ sim.now ∧ sim.settings.Draws sim.now next) :
      Turns sim p q { sim with
        air
        vehicles := sim.vehicles.map fun r =>
          if r.id = p.id then { q with sent := q.sent + 1, nextBeacon := next }
          else if lost r then r else r.hear q.outgoing sim.now }

theorem broadcast_eq (sim : Simulation)
    (ascending : Roster.Ascending Participant.id sim.vehicles)
    (member : q ∈ sim.vehicles) (same : p.id = q.id) (lossRate : Float) :
    ∃ (air : Air) (lost : Participant → Bool), (¬0.0 < lossRate → ∀ r, lost r = false) ∧
      sim.broadcast p lossRate = { sim with
        air
        vehicles := sim.vehicles.map fun r =>
          if r.id = p.id then { q with sent := q.sent + 1 }
          else if lost r then r else r.hear p.outgoing sim.now } := by
  have counted := sim.modify_eq_replaced ascending member
    (f := fun q => { q with sent := q.sent + 1 }) rfl
  have own : ({ q with sent := q.sent + 1 } : Participant).id = q.id := rfl
  obtain ⟨lost, none, eq⟩ := Air.deliver_eq lossRate p.outgoing p.id sim.now
    (ascending_replaced ascending { q with sent := q.sent + 1 }) sim.air
  refine ⟨(sim.air.deliver lossRate p.outgoing p.id sim.now
    (sim.replaced { q with sent := q.sent + 1 })).2, lost, none, ?_⟩
  simp only [broadcast, same, counted] at eq ⊢
  rw [eq]
  congr 1
  simp only [replaced, List.map_map]
  apply List.map_congr_left
  intro r _
  by_cases here : r.id = q.id
  · simp [here, own]
  · simp [here, own]

theorem schedule_eq (sim : Simulation)
    (ascending : Roster.Ascending Participant.id sim.vehicles)
    (member : q ∈ sim.vehicles) :
    ∃ air next, sim.settings.Draws sim.now next ∧
      sim.schedule q.id =
        { sim with air, vehicles := sim.replaced { q with nextBeacon := next } } := by
  simp only [schedule]
  generalize drawn : sim.air.random.uniform sim.settings.client.minPeriod.ms
    sim.settings.client.maxPeriod.ms = draw
  obtain ⟨wait, random⟩ := draw
  refine ⟨{ sim.air with random }, sim.now.advance wait, ⟨wait, ?_, ?_, rfl⟩, ?_⟩
  · have long := Random.Stream.low_le_uniform sim.settings.client.minPeriod.ms
      sim.settings.client.maxPeriod.ms sim.air.random
    rwa [drawn] at long
  · intro periods
    have short := Random.Stream.uniform_le periods (Duration.ms_lt _) sim.air.random
    rwa [drawn] at short
  · exact modify_eq_replaced { sim with air := { sim.air with random } } ascending member
      (f := fun q => { q with nextBeacon := sim.now.advance wait }) rfl

/-- What the turn of a vehicle does. -/
theorem turns_turn (ascending : Roster.Ascending Participant.id sim.vehicles)
    (member : p ∈ sim.vehicles) (same : (p.act sim.settings sim.isDue sim.now).id = p.id) :
    sim.Turns p (p.act sim.settings sim.isDue sim.now) (sim.turn p.id) := by
  have acted := sim.modify_eq_replaced ascending member
    (f := fun p => p.act sim.settings sim.isDue sim.now) same
  simp only [turn, acted]
  generalize p.act sim.settings sim.isDue sim.now = q at same
  have there := mem_replaced member same
  have order := ascending_replaced ascending q
  have found : Roster.find? Participant.id p.id (sim.replaced q) = some q := by
    rw [← same]
    exact order.find?_of_mem there
  have never : ¬(0.0 : Float) < 0.0 := by decide
  simp only [transmit, found]
  cases started : q.startedAt with
  | none =>
      have out : q.hasStarted = false := by simp [Participant.hasStarted, started]
      simp only [out, Bool.not_false, if_true]
      exact .silent (Or.inl started)
  | some s =>
      have out : q.hasStarted = true := by simp [Participant.hasStarted, started]
      have begun : q.startedAt ≠ none := by simp [started]
      simp only [out, Bool.not_true, Bool.false_eq_true, if_false]
      cases delivery : sim.settings.delivery with
      | immediate =>
          obtain ⟨air, lost, none, eq⟩ := broadcast_eq
            { sim with vehicles := sim.replaced q } order there rfl 0.0
          simp only [eq]
          rw [map_replaced sim rfl, same]
          exact .sends air q.nextBeacon lost begun (fun _ => none never) (fun _ => id)
            (fun periodic => absurd delivery periodic)
      | periodic lossRate =>
          simp only
          split
          · next early => exact .silent (Or.inr early)
          · next due =>
            have gap : sim.settings.gap = sim.settings.client.maxPeriod.ms := by
              simp [SimulationSettings.gap, delivery]
            obtain ⟨between, next, draws, drawn⟩ := schedule_eq
              { sim with vehicles := sim.replaced q } order there
            have waits : ({ q with nextBeacon := next } : Participant).id = q.id := rfl
            obtain ⟨air, lost, none, eq⟩ := broadcast_eq
              { sim with
                air := between
                vehicles := ({ sim with vehicles := sim.replaced q } : Simulation).replaced
                  { q with nextBeacon := next } }
              (ascending_replaced order _) (mem_replaced there waits) waits.symm lossRate
            rw [← same, drawn, eq]
            simp only
            rw [map_replaced _ waits, map_replaced sim rfl, same]
            refine .sends air next lost begun ?_ ?_ (fun _ => ⟨Nat.not_lt.mp due, draws⟩)
            · intro lossless
              refine none ?_
              rcases lossless with immediate | periodic
              · cases delivery.symm.trans immediate
              · cases delivery.symm.trans periodic
                exact never
            · intro periods _
              obtain ⟨wait, -, short, rfl⟩ := draws
              have soon := short (periods (by simp [delivery]))
              rw [gap]
              exact Nat.le_trans (Nat.mod_le _ _) (Nat.add_le_add_left soon _)

/-- After the turn of `p`, that vehicle is `q`, and the others have got new tables. -/
structure Turned (sim : Simulation) (p q : Participant) (table : Participant → NeighborTable)
    (after : Simulation) : Prop where
  settings : after.settings = sim.settings
  topology : after.topology = sim.topology
  now : after.now = sim.now
  same : q.id = p.id
  vehicles : after.vehicles = sim.vehicles.map fun r =>
    if r.id = p.id then q else r.withTable (table r)

namespace Turned

variable {table : Participant → NeighborTable} {after : Simulation}

theorem mem (h : sim.Turned p q table after) {r : Participant} (member : r ∈ after.vehicles) :
    r = q ∨ ∃ old ∈ sim.vehicles, old.id ≠ p.id ∧ r = old.withTable (table old) := by
  rw [h.vehicles] at member
  obtain ⟨old, inside, eq⟩ := List.mem_map.mp member
  split at eq
  · exact Or.inl eq.symm
  · next other => exact Or.inr ⟨old, inside, other, eq.symm⟩

theorem ids (h : sim.Turned p q table after) :
    after.vehicles.map Participant.id = sim.vehicles.map Participant.id := by
  rw [h.vehicles, List.map_map]
  apply List.map_congr_left
  intro r _
  simp only [Function.comp_apply]
  split
  · next here => exact h.same.trans here.symm
  · rfl

theorem ascending (h : sim.Turned p q table after)
    (order : Roster.Ascending Participant.id sim.vehicles) :
    Roster.Ascending Participant.id after.vehicles := by
  rw [h.vehicles]
  apply order.map
  intro r
  split
  · next here => exact h.same.trans here.symm
  · rfl

end Turned

/-- What the turn makes of the vehicle itself, `q` being what it has become by acting. -/
inductive Becomes (s : SimulationSettings) (now : Timestamp) (q : Participant) :
    Participant → Prop where
  | silent (quiet : q.startedAt = none ∨ now < q.nextBeacon) : Becomes s now q q
  | sends (next : Timestamp) (started : q.startedAt ≠ none)
      (planned : s.delivery ≠ .immediate → q.nextBeacon ≤ now ∧ s.Draws now next) :
      Becomes s now q { q with sent := q.sent + 1, nextBeacon := next }

theorem Becomes.script {s : SimulationSettings} {now : Timestamp} (become : Becomes s now p q) :
    q.script = p.script := by
  cases become <;> rfl

/-- After the turn of `p` every vehicle is what has become of `p`, or another that has heard one
    beacon at most. -/
theorem Turns.cases_of_mem {after : Simulation} {r : Participant} (turns : sim.Turns p q after)
    (same : q.id = p.id) (member : r ∈ after.vehicles) :
    Becomes sim.settings sim.now q r ∨
      r.id ≠ p.id ∧ ∃ old ∈ sim.vehicles, r = old ∨ ∃ b, r = old.hear b sim.now := by
  cases turns with
  | silent quiet =>
      obtain ⟨old, before, become⟩ := List.mem_map.mp member
      split at become
      · subst become
        exact Or.inl (.silent quiet)
      · next other =>
        subst become
        rw [same] at other
        exact Or.inr ⟨other, old, before, Or.inl rfl⟩
  | sends air next lost started heard soon planned =>
      obtain ⟨old, before, become⟩ := List.mem_map.mp member
      split at become
      · subst become
        exact Or.inl (.sends next started planned)
      · next other =>
        split at become
        · subst become
          exact Or.inr ⟨other, old, before, Or.inl rfl⟩
        · subst become
          exact Or.inr ⟨other, old, before, Or.inr ⟨_, rfl⟩⟩

/-- Whatever is lost, the vehicle is what it became by acting, but for what it counts and plans if it
    sends, and the others have new tables. -/
theorem Turns.frame {after : Simulation} (turns : sim.Turns p q after) (same : q.id = p.id) :
    ∃ own table, sim.Turned p own table after ∧
      (own = q ∨ q.startedAt ≠ none ∧ ∃ sent nextBeacon, own = { q with sent, nextBeacon }) := by
  cases turns with
  | silent _ =>
      refine ⟨q, fun r => r.controller.table, ⟨rfl, rfl, rfl, same, ?_⟩, Or.inl rfl⟩
      simp only [replaced, same]
      rfl
  | sends air next lost started _ _ =>
      refine ⟨{ q with sent := q.sent + 1, nextBeacon := next },
        fun r => if lost r then r.controller.table else (r.hear q.outgoing sim.now).controller.table,
        ⟨rfl, rfl, rfl, same, List.map_congr_left ?_⟩, Or.inr ⟨started, _, _, rfl⟩⟩
      intro r _
      obtain ⟨table, heard⟩ := r.hear_frame q.outgoing sim.now
      cases lost r with
      | true => rfl
      | false => simp [heard, Participant.withTable]

end Simulation

end Junction
