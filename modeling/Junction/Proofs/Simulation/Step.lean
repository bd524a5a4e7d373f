import Junction.Proofs.Simulation.Run
import Junction.Proofs.Simulation.Turn

/-! # What a step does to each vehicle

In a step every vehicle acts once. Before that and after it the vehicle may hear others, and it may
send; this touches its table, its count and its plan only. So whatever does not depend on these can
be told of each vehicle on its own.
-/

namespace Junction

namespace Participant

variable {p q : Participant}

theorem move_frame (p : Participant) (metres : Float) (now : Timestamp) :
    ∃ controller stage crossing, p.move metres now = { p with controller, stage, crossing } := by
  unfold move
  split
  · split
    · simp only [approach]
      split <;> exact ⟨_, _, _, rfl⟩
    · simp only [cross]
      split <;> exact ⟨_, _, _, rfl⟩
    · exact ⟨_, _, _, rfl⟩
    · exact ⟨_, _, _, rfl⟩
  · exact ⟨_, _, _, rfl⟩

theorem start_frame (p : Participant) (distance : Float) (now : Timestamp) :
    ∃ controller stage startedAt,
      p.start distance now = { p with controller, stage, startedAt } ∧
      (startedAt = p.startedAt ∨ p.script.start ≤ now ∧ startedAt = some now) := by
  unfold start
  split
  · split
    · next due => exact ⟨_, _, _, rfl, Or.inr ⟨due, rfl⟩⟩
    · exact ⟨_, _, _, rfl, Or.inl rfl⟩
  · exact ⟨_, _, _, rfl, Or.inl rfl⟩

theorem consult_frame (p : Participant) (due : Bool) (now : Timestamp) :
    ∃ controller, p.consult due now = { p with controller } := by
  unfold consult
  split
  · exact ⟨_, rfl⟩
  · exact ⟨p.controller, rfl⟩

theorem mark_frame (p : Participant) (now : Timestamp) :
    ∃ crossing, p.mark now = { p with crossing } := by
  unfold mark
  split
  · exact ⟨_, rfl⟩
  · exact ⟨p.crossing, rfl⟩

/-- A vehicle sets out when its script says, or later, and a turn takes it only as far as it drives
    and sets out. -/
theorem act_frame (p : Participant) (settings : SimulationSettings) (due : Bool)
    (now : Timestamp) :
    ∃ controller startedAt crossing,
      p.act settings due now =
        { p with
          controller
          stage := ((p.move (p.reach settings.step.toSeconds) now).start
            settings.client.distance now).stage
          startedAt
          crossing } ∧
      (startedAt = p.startedAt ∨ p.script.start ≤ now ∧ startedAt = some now) := by
  simp only [act]
  obtain ⟨_, _, _, moved⟩ := p.move_frame (p.reach settings.step.toSeconds) now
  generalize p.move (p.reach settings.step.toSeconds) now = q at moved
  obtain ⟨_, _, _, set, starts⟩ := q.start_frame settings.client.distance now
  generalize q.start settings.client.distance now = r at set
  obtain ⟨_, consulted⟩ := r.consult_frame due now
  obtain ⟨_, marked⟩ := (r.consult due now).mark_frame now
  subst moved set
  rw [marked, consulted]
  exact ⟨_, _, _, rfl, starts⟩

theorem script_act (p : Participant) (settings : SimulationSettings) (due : Bool)
    (now : Timestamp) : (p.act settings due now).script = p.script := by
  obtain ⟨_, _, _, acted, -⟩ := p.act_frame settings due now
  rw [acted]

theorem nextBeacon_act (p : Participant) (settings : SimulationSettings) (due : Bool)
    (now : Timestamp) : (p.act settings due now).nextBeacon = p.nextBeacon := by
  obtain ⟨_, _, _, acted, -⟩ := p.act_frame settings due now
  rw [acted]

/-- A vehicle that has heard others, and may have sent if it has set out. -/
inductive Alike (p : Participant) : Participant → Prop where
  | hears (table : NeighborTable) : Alike p (p.withTable table)
  | sends (table : NeighborTable) (started : p.startedAt ≠ none) (sent : UInt64)
      (nextBeacon : Timestamp) : Alike p { p.withTable table with sent, nextBeacon }

namespace Alike

theorem refl (p : Participant) : p.Alike p := .hears p.controller.table

theorem withTable (alike : p.Alike q) (table : NeighborTable) : p.Alike (q.withTable table) := by
  cases alike with
  | hears => exact .hears table
  | sends _ started sent nextBeacon => exact .sends table started sent nextBeacon

theorem script (alike : p.Alike q) : q.script = p.script := by
  cases alike <;> rfl

theorem stage (alike : p.Alike q) : q.stage = p.stage := by
  cases alike <;> rfl

theorem startedAt (alike : p.Alike q) : q.startedAt = p.startedAt := by
  cases alike <;> rfl

theorem crossing (alike : p.Alike q) : q.crossing = p.crossing := by
  cases alike <;> rfl

theorem controller (alike : p.Alike q) : ∃ table, q.controller = { p.controller with table } := by
  cases alike <;> exact ⟨_, rfl⟩

theorem standing {bound : Nat} (alike : p.Alike q) (standing : p.Standing bound) :
    q.Standing bound := by
  cases alike with
  | hears table => exact standing.withTable table
  | sends table started sent nextBeacon =>
      exact (standing.withTable table).send started sent nextBeacon

end Alike

end Participant

namespace Simulation

variable {sim mid after : Simulation} {p q own : Participant} {done : List VehicleId}
  {table : Participant → NeighborTable}

/-- A vehicle has acted in a step, and has heard and sent what there was before and after. -/
def Acted (sim : Simulation) (p q : Participant) : Prop :=
  ∃ r, p.Alike r ∧ (r.act sim.settings sim.isDue sim.now).Alike q

theorem Acted.script (acted : sim.Acted p q) : q.script = p.script := by
  obtain ⟨r, before, behind⟩ := acted
  rw [behind.script, Participant.script_act, before.script]

/-- In the middle of a step, when the vehicles in `done` have had their turn. -/
structure Midway (sim : Simulation) (done : List VehicleId) (mid : Simulation) : Prop where
  settings : mid.settings = sim.settings
  now : mid.now = sim.now
  scripts : mid.vehicles.map Participant.script = sim.vehicles.map Participant.script
  waiting : ∀ q ∈ mid.vehicles, q.id ∉ done → ∃ p ∈ sim.vehicles, p.Alike q
  acted : ∀ q ∈ mid.vehicles, q.id ∈ done → ∃ p ∈ sim.vehicles, sim.Acted p q

theorem ids_of_scripts (scripts : after.vehicles.map Participant.script =
    sim.vehicles.map Participant.script) :
    after.vehicles.map Participant.id = sim.vehicles.map Participant.id := by
  have ids := congrArg (List.map Script.id) scripts
  rwa [List.map_map, List.map_map] at ids

theorem ascending_of_scripts (ascending : Roster.Ascending Participant.id sim.vehicles)
    (scripts : after.vehicles.map Participant.script = sim.vehicles.map Participant.script) :
    Roster.Ascending Participant.id after.vehicles := by
  have order : (sim.vehicles.map Participant.id).Pairwise (· < ·) := List.pairwise_map.mpr ascending
  rw [← ids_of_scripts scripts] at order
  exact List.pairwise_map.mp order

theorem Turned.scripts (turned : sim.Turned p own table after)
    (ascending : Roster.Ascending Participant.id sim.vehicles) (member : p ∈ sim.vehicles)
    (same : own.script = p.script) :
    after.vehicles.map Participant.script = sim.vehicles.map Participant.script := by
  rw [turned.vehicles, List.map_map]
  apply List.map_congr_left
  intro r inside
  simp only [Function.comp_apply]
  split
  · next here => rw [same, ascending.eq_of_id inside member here]
  · rfl

theorem Midway.turn (midway : sim.Midway done mid)
    (ascending : Roster.Ascending Participant.id sim.vehicles) (member : p ∈ mid.vehicles)
    (waits : p.id ∉ done) : sim.Midway (done ++ [p.id]) (mid.turn p.id) := by
  have order := ascending_of_scripts ascending midway.scripts
  have script : (p.act mid.settings mid.isDue mid.now).script = p.script := p.script_act _ _ _
  have due : mid.isDue = sim.isDue := by rw [isDue, isDue, midway.settings, midway.now]
  obtain ⟨own, table, turned, become⟩ :=
    (turns_turn order member (congrArg Script.id script)).frame (congrArg Script.id script)
  have alike : (p.act sim.settings sim.isDue sim.now).Alike own := by
    rw [← midway.settings, ← due, ← midway.now]
    rcases become with rfl | ⟨started, sent, nextBeacon, rfl⟩
    · exact .refl _
    · exact .sends _ started sent nextBeacon
  have same : own.script = p.script := alike.script.trans (p.script_act _ _ _)
  refine ⟨turned.settings.trans midway.settings, turned.now.trans midway.now,
    (turned.scripts order member same).trans midway.scripts, ?_, ?_⟩
  · intro r inside later
    rw [List.mem_append, not_or, List.mem_singleton] at later
    rcases turned.mem inside with rfl | ⟨old, before, -, rfl⟩
    · exact absurd turned.same later.2
    · obtain ⟨first, there, heard⟩ := midway.waiting old before later.1
      exact ⟨first, there, heard.withTable _⟩
  · intro r inside had
    rcases turned.mem inside with rfl | ⟨old, before, other, rfl⟩
    · obtain ⟨first, there, heard⟩ := midway.waiting p member waits
      exact ⟨first, there, p, heard, alike⟩
    · rw [List.mem_append, List.mem_singleton] at had
      obtain ⟨first, there, q, heard, acted⟩ := midway.acted old before (had.resolve_right other)
      exact ⟨first, there, q, heard, acted.withTable _⟩

/-- What every turn keeps, whoever's it is, is kept by a whole step. -/
theorem step_midway (ascending : Roster.Ascending Participant.id sim.vehicles)
    (holds : List VehicleId → Simulation → Prop) (first : holds [] sim)
    (turn : ∀ done mid p, sim.Midway done mid → p ∈ mid.vehicles → p.id ∉ done → holds done mid →
      holds (done ++ [p.id]) (mid.turn p.id)) :
    sim.Midway (sim.vehicles.map Participant.id) sim.step ∧
      holds (sim.vehicles.map Participant.id) sim.step := by
  have begun : sim.Midway [] sim := by
    refine ⟨rfl, rfl, rfl, fun p member _ => ⟨p, member, .refl p⟩, ?_⟩
    intro q _ none
    cases none
  refine sim.step_induction (fun done mid => sim.Midway done mid ∧ holds done mid)
    ⟨begun, first⟩ ?_
  intro before v behind mid split ⟨midway, here⟩
  have listed : v ∈ mid.vehicles.map Participant.id := by
    rw [ids_of_scripts midway.scripts, split]
    exact List.mem_append_right _ List.mem_cons_self
  obtain ⟨p, member, rfl⟩ := List.mem_map.mp listed
  have waits := ascending.not_mem_before split
  exact ⟨midway.turn ascending member waits, turn before mid p midway member waits here⟩

/-- A step leaves every vehicle its script, and lets every vehicle act once. -/
theorem step_acted (ascending : Roster.Ascending Participant.id sim.vehicles) :
    sim.step.vehicles.map Participant.script = sim.vehicles.map Participant.script ∧
      ∀ q ∈ sim.step.vehicles, ∃ p ∈ sim.vehicles, sim.Acted p q := by
  obtain ⟨ended, -⟩ := step_midway ascending (fun _ _ => True) trivial (fun _ _ _ _ _ _ _ => trivial)
  refine ⟨ended.scripts, fun q member => ended.acted q member ?_⟩
  rw [← ids_of_scripts ended.scripts]
  exact List.mem_map_of_mem member

theorem exists_acted (ascending : Roster.Ascending Participant.id sim.vehicles)
    (member : p ∈ sim.vehicles) : ∃ q ∈ sim.step.vehicles, sim.Acted p q := by
  obtain ⟨scripts, each⟩ := step_acted ascending
  have listed : p.script ∈ sim.step.vehicles.map Participant.script := by
    rw [scripts]
    exact List.mem_map_of_mem member
  obtain ⟨q, there, same⟩ := List.mem_map.mp listed
  obtain ⟨r, before, acted⟩ := each q there
  obtain rfl := ascending.eq_of_id before member
    (congrArg Script.id (acted.script.symm.trans same))
  exact ⟨q, there, acted⟩

/-- What is true of all vehicles when a step begins and goes on to be true while they hear others
    becomes, with their own turn, something else that goes on to be true. So that is true of every
    vehicle after the step. -/
theorem exists_served (ascending : Roster.Ascending Participant.id sim.vehicles)
    (waits serves : Participant → Participant → Prop) (begun : ∀ p, waits p p)
    (hears : ∀ p q b, waits p q → waits p (q.hear b sim.now))
    (turns : ∀ p q r, waits p q →
      Becomes sim.settings sim.now (q.act sim.settings sim.isDue sim.now) r → serves p r)
    (stays : ∀ p q b, serves p q → serves p (q.hear b sim.now))
    (script : ∀ p q, serves p q → q.script = p.script) (member : p ∈ sim.vehicles) :
    ∃ q ∈ sim.step.vehicles, serves p q := by
  obtain ⟨ended, -, served⟩ := step_midway ascending
    (fun done mid => (∀ q ∈ mid.vehicles, q.id ∉ done → ∃ p ∈ sim.vehicles, waits p q) ∧
      ∀ q ∈ mid.vehicles, q.id ∈ done → ∃ p ∈ sim.vehicles, serves p q)
    ⟨fun q inside _ => ⟨q, inside, begun q⟩, fun _ _ none => absurd none List.not_mem_nil⟩ (by
      rintro done mid p midway member waiting ⟨before, after⟩
      have order := ascending_of_scripts ascending midway.scripts
      have same : (p.act mid.settings mid.isDue mid.now).id = p.id :=
        congrArg Script.id (p.script_act _ _ _)
      have due : mid.isDue = sim.isDue := by rw [isDue, isDue, midway.settings, midway.now]
      have become := fun r inside => (turns_turn order member same).cases_of_mem (r := r) same inside
      rw [midway.settings, midway.now, due] at become same
      constructor
      · intro r inside later
        rw [List.mem_append, not_or, List.mem_singleton] at later
        obtain own | ⟨-, old, there, heard⟩ := become r inside
        · exact absurd ((congrArg Script.id own.script).trans same) later.2
        · obtain rfl | ⟨b, rfl⟩ := heard
          · exact before _ there later.1
          · obtain ⟨first, was, so⟩ := before old there later.1
            exact ⟨first, was, hears first old b so⟩
      · intro r inside had
        obtain own | ⟨other, old, there, heard⟩ := become r inside
        · obtain ⟨first, was, so⟩ := before p member waiting
          exact ⟨first, was, turns first p r so own⟩
        · rw [List.mem_append, List.mem_singleton] at had
          have served := had.resolve_right other
          obtain rfl | ⟨b, rfl⟩ := heard
          · exact after _ there served
          · obtain ⟨first, was, so⟩ := after old there served
            exact ⟨first, was, stays first old b so⟩)
  have listed : p.id ∈ sim.step.vehicles.map Participant.id := by
    rw [ids_of_scripts ended.scripts]
    exact List.mem_map_of_mem member
  obtain ⟨q, there, same⟩ := List.mem_map.mp listed
  obtain ⟨first, before, serves⟩ :=
    served q there (by rw [same]; exact List.mem_map_of_mem member)
  obtain rfl := ascending.eq_of_id before member
    (show first.id = p.id from (congrArg Script.id (script _ _ serves).symm).trans same)
  exact ⟨q, there, serves⟩

theorem Reaches.ascending {start : Simulation} (reached : Reaches start sim)
    (order : Roster.Ascending Participant.id start.vehicles) :
    Roster.Ascending Participant.id sim.vehicles := by
  induction reached with
  | start => exact order
  | next _ _ ih => exact ascending_of_scripts ih (step_acted ih).1

end Simulation

end Junction
