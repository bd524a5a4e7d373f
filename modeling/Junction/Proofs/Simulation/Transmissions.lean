import Junction.Proofs.Simulation.Cadence
import Mathlib.Data.List.Chain

/-! # The times between two beacons

A vehicle draws a period each time it sends, and sends again in the first step that is not before
the end of that period. So two of its beacons are a shortest period apart at least, and a longest
period and a step at most, also where a period is shorter than a step. A vehicle that has not sent
yet plans to send at once, which it does in the step in which it sets out.
-/

namespace Junction

/-- Beacons are sent at intervals, and the clock does not come around in a run or a period. -/
structure SimulationSettings.Spaced (s : SimulationSettings) : Prop where
  periodic : s.delivery ≠ .immediate
  periods : s.client.minPeriod.ms ≤ s.client.maxPeriod.ms
  moves : 0 < s.step.ms
  counted : s.horizon.ms + s.client.maxPeriod.ms + s.step.ms < 2 ^ 63

/-- Whether `a` and `b` may be the times of two beacons of which one is the next after the other. -/
def SimulationSettings.Apart (s : SimulationSettings) (a b : Nat) : Prop :=
  a < b ∧ a + s.client.minPeriod.ms ≤ b ∧ b ≤ a + s.client.maxPeriod.ms + s.step.ms

/-- Before its turn at `now` the vehicle has sent its last beacon at `a`, and has not passed over the
    time for the next. -/
structure SimulationSettings.Awaits (s : SimulationSettings) (a now : Nat) (p : Participant) :
    Prop where
  started : p.startedAt ≠ none
  after : a + s.client.minPeriod.ms ≤ p.nextBeacon.ms
  soon : p.nextBeacon.ms ≤ a + s.client.maxPeriod.ms
  later : a < now
  /-- In the step after a beacon, the time for the next can be long past: periods can be shorter than
      a step. -/
  missed : now < p.nextBeacon.ms + s.step.ms ∨ now = a + s.step.ms

namespace Simulation

variable {sim : Simulation} {s : SimulationSettings} {p q r : Participant}
  {steps : List Simulation} {times : List Nat} {a : Nat}

/-- The vehicle `q` is the vehicle `p` as far as its beacons are concerned. -/
structure SamePlan (p q : Participant) : Prop where
  script : q.script = p.script
  startedAt : q.startedAt = p.startedAt
  sent : q.sent = p.sent
  nextBeacon : q.nextBeacon = p.nextBeacon

/-- In a step the vehicle `p` becomes `q`: it does not send, or it sends and draws when to send
    next. -/
inductive Signals (sim : Simulation) (p q : Participant) : Prop where
  | silent (script : q.script = p.script) (started : p.startedAt ≠ none → q.startedAt ≠ none)
      (quiet : q.startedAt = none ∨ sim.now < p.nextBeacon) (sent : q.sent = p.sent)
      (next : q.nextBeacon = p.nextBeacon)
  | sends (script : q.script = p.script) (started : q.startedAt ≠ none)
      (due : p.nextBeacon ≤ sim.now) (sent : q.sent = p.sent + 1)
      (draws : sim.settings.Draws sim.now q.nextBeacon)

theorem Signals.script (signals : sim.Signals p q) : q.script = p.script := by
  cases signals <;> assumption

theorem Signals.of_becomes (periodic : sim.settings.delivery ≠ .immediate) (same : SamePlan p q)
    (become : Becomes sim.settings sim.now (q.act sim.settings sim.isDue sim.now) r) :
    sim.Signals p r := by
  obtain ⟨_, startedAt, _, acted, starts⟩ := q.act_frame sim.settings sim.isDue sim.now
  rw [acted] at become
  have started : p.startedAt ≠ none → startedAt ≠ none := by
    intro before
    obtain rfl | ⟨-, rfl⟩ := starts
    · rwa [same.startedAt]
    · exact Option.some_ne_none _
  cases become with
  | silent quiet =>
      rw [same.nextBeacon] at quiet
      exact .silent same.script started quiet same.sent same.nextBeacon
  | sends next begun planned =>
      obtain ⟨due, draws⟩ := planned periodic
      rw [same.nextBeacon] at due
      exact .sends same.script begun due (by rw [same.sent]) draws

theorem exists_signals (periodic : sim.settings.delivery ≠ .immediate)
    (ascending : Roster.Ascending Participant.id sim.vehicles) (member : p ∈ sim.vehicles) :
    ∃ q ∈ sim.step.vehicles, sim.Signals p q := by
  refine exists_served ascending SamePlan sim.Signals (fun p => ⟨rfl, rfl, rfl, rfl⟩) ?_ ?_ ?_
    (fun _ _ signals => signals.script) member
  · exact fun p q b same => ⟨same.script, same.startedAt, same.sent, same.nextBeacon⟩
  · exact fun p q r same become => .of_becomes periodic same become
  · intro p q b signals
    cases signals with
    | silent script started quiet sent next => exact .silent script started quiet sent next
    | sends script started due sent draws => exact .sends script started due sent draws

/-- How many beacons a vehicle has sent, modulo `2 ^ 64`. -/
def sentBy (sim : Simulation) (v : VehicleId) : Option UInt64 :=
  (Roster.find? Participant.id v sim.vehicles).map Participant.sent

def startedAt? (sim : Simulation) (v : VehicleId) : Option Timestamp :=
  (Roster.find? Participant.id v sim.vehicles).bind Participant.startedAt

/-- Whether a vehicle sends in the step that is taken in a state: whether its count goes on. -/
def transmits (sim : Simulation) (v : VehicleId) : Bool := sim.step.sentBy v != sim.sentBy v

def setsOut (sim : Simulation) (v : VehicleId) : Bool :=
  (sim.startedAt? v).isNone && (sim.step.startedAt? v).isSome

section

variable (order : Roster.Ascending Participant.id sim.vehicles) (before : p ∈ sim.vehicles)
  (after : q ∈ sim.step.vehicles) (script : q.script = p.script)

include order after script in
theorem find?_step : Roster.find? Participant.id p.id sim.step.vehicles = some q := by
  have later := ascending_of_scripts order (step_acted order).1
  have same : q.id = p.id := congrArg Script.id script
  rw [← same]
  exact later.find?_of_mem after

include order before after script

theorem transmits_eq : sim.transmits p.id = (q.sent != p.sent) := by
  simp only [transmits, sentBy, find?_step order after script, order.find?_of_mem before,
    Option.map_some, bne, Option.some_beq_some]

theorem setsOut_eq : sim.setsOut p.id = (p.startedAt.isNone && q.startedAt.isSome) := by
  simp only [setsOut, startedAt?, find?_step order after script, order.find?_of_mem before,
    Option.bind_some]

end

theorem Signals.awaits_of_sends (spaced : sim.settings.Spaced) (early : sim.isLate = false)
    (started : q.startedAt ≠ none) (draws : sim.settings.Draws sim.now q.nextBeacon) :
    sim.settings.Awaits sim.now.ms (sim.now.ms + sim.settings.step.ms) q := by
  obtain ⟨wait, long, short, next⟩ := draws
  have clock := isLate_eq_false.mp early
  have moves := spaced.moves
  have counted := spaced.counted
  have within := short spaced.periods
  have ms : q.nextBeacon.ms = sim.now.ms + wait := by
    rw [next]
    exact Timestamp.advance_ms_of_lt (by omega)
  refine ⟨started, ?_, ?_, ?_, Or.inr rfl⟩ <;> omega

/-- A vehicle that waits for the time of its next beacon goes on to wait, or sends in time. -/
theorem Signals.awaits (signals : sim.Signals p q) (spaced : sim.settings.Spaced)
    (early : sim.isLate = false) (awaits : sim.settings.Awaits a sim.now.ms p) :
    (q.sent = p.sent ∧ sim.now.ms < a + sim.settings.client.maxPeriod.ms ∧
      sim.settings.Awaits a (sim.now.ms + sim.settings.step.ms) q) ∨
    (q.sent = p.sent + 1 ∧ sim.settings.Apart a sim.now.ms ∧
      sim.settings.Awaits sim.now.ms (sim.now.ms + sim.settings.step.ms) q) := by
  have soon := awaits.soon
  have later := awaits.later
  cases signals with
  | silent script started quiet sent next =>
      have begun := started awaits.started
      have ahead := Timestamp.lt_iff.mp (quiet.resolve_left begun)
      refine Or.inl ⟨sent, by omega, begun, ?_, ?_, by omega, Or.inl ?_⟩
      · rw [next]
        exact awaits.after
      · rwa [next]
      · rw [next]
        omega
  | sends script started due sent draws =>
      have after := awaits.after
      rw [Timestamp.le_iff] at due
      refine Or.inr ⟨sent, ⟨later, by omega, ?_⟩, awaits_of_sends spaced early started draws⟩
      obtain near | next := awaits.missed <;> omega

/-- Steps that are taken one after the other, the first one in `sim`. -/
inductive Executed : Simulation → List Simulation → Prop where
  | nil (sim : Simulation) : Executed sim []
  | cons {sim : Simulation} {steps : List Simulation} (early : sim.isLate = false)
      (rest : Executed sim.step.tickClock steps) : Executed sim (sim :: steps)

theorem executed_startsWithin (n : Nat) (sim : Simulation) : Executed sim (sim.startsWithin n) := by
  induction n generalizing sim with
  | zero => exact .nil sim
  | succ n ih =>
      simp only [startsWithin]
      cases late : sim.isLate with
      | true => exact .nil sim
      | false =>
          simp only [Bool.false_eq_true, if_false]
          refine .cons late ?_
          split
          · exact .nil _
          · exact ih _

/-- The times of the steps in which a vehicle sends. -/
def sendTimes (v : VehicleId) (steps : List Simulation) : List Nat :=
  (steps.filter (·.transmits v)).map (·.now.ms)

theorem sendTimes_cons_of_sends {v : VehicleId} (sends : sim.transmits v = true) :
    sendTimes v (sim :: steps) = sim.now.ms :: sendTimes v steps := by
  simp [sendTimes, sends]

theorem sendTimes_cons_of_silent {v : VehicleId} (silent : sim.transmits v = false) :
    sendTimes v (sim :: steps) = sendTimes v steps := by
  simp [sendTimes, silent]

/-- These times may be those of the beacons that a vehicle sends in these steps: neighbors are apart
    as they should be, and the steps do not go on for too long after the last. -/
structure Regular (s : SimulationSettings) (times : List Nat) (steps : List Simulation) : Prop where
  apart : times.IsChain s.Apart
  ends : ∀ last, times.getLast? = some last →
    ∀ t ∈ steps, t.now.ms < last + s.client.maxPeriod.ms + s.step.ms

theorem le_last_of_isChain (chain : (a :: times).IsChain s.Apart) {last : Nat}
    (ends : (a :: times).getLast? = some last) : a ≤ last := by
  induction times generalizing a with
  | nil =>
      obtain rfl := Option.some.inj ends
      exact Nat.le_refl a
  | cons b rest ih =>
      obtain ⟨apart, tail⟩ := List.isChain_cons_cons.mp chain
      rw [List.getLast?_cons_cons] at ends
      exact Nat.le_trans (Nat.le_of_lt apart.1) (ih tail ends)

namespace Regular

theorem nil (a : Nat) : Regular s [a] [] := by
  refine ⟨List.isChain_singleton a, ?_⟩
  intro last _ t none
  cases none

theorem cons (regular : Regular s (a :: times) steps)
    (soon : sim.now.ms < a + s.client.maxPeriod.ms + s.step.ms) :
    Regular s (a :: times) (sim :: steps) := by
  refine ⟨regular.apart, ?_⟩
  intro last ends t member
  cases member with
  | head =>
      have := le_last_of_isChain regular.apart ends
      omega
  | tail _ later => exact regular.ends last ends t later

theorem late {v : VehicleId} (regular : Regular s (sendTimes v steps) steps)
    (moves : 0 < s.step.ms) (before : ∀ t ∈ steps, sim.now.ms ≤ t.now.ms) :
    Regular s (sendTimes v steps) (sim :: steps) := by
  refine ⟨regular.apart, ?_⟩
  intro last ends t member
  cases member with
  | head =>
      obtain ⟨r, sends, rfl⟩ := List.mem_map.mp (List.mem_of_getLast? ends)
      have := before r (List.mem_filter.mp sends).1
      omega
  | tail _ later => exact regular.ends last ends t later

theorem cons_cons (regular : Regular s (sim.now.ms :: times) steps) (moves : 0 < s.step.ms)
    (apart : s.Apart a sim.now.ms) : Regular s (a :: sim.now.ms :: times) (sim :: steps) := by
  have here : Regular s (sim.now.ms :: times) (sim :: steps) := regular.cons (by omega)
  refine ⟨List.isChain_cons_cons.mpr ⟨apart, here.apart⟩, ?_⟩
  intro last ends
  rw [List.getLast?_cons_cons] at ends
  exact here.ends last ends

end Regular

namespace Executed

theorem next (spaced : sim.settings.Spaced) (early : sim.isLate = false)
    (order : Roster.Ascending Participant.id sim.vehicles) :
    sim.step.tickClock.settings = sim.settings ∧
      Roster.Ascending Participant.id sim.step.tickClock.vehicles ∧
      sim.step.tickClock.now.ms = sim.now.ms + sim.settings.step.ms := by
  have counted := spaced.counted
  exact ⟨settings_step sim, ascending_of_scripts order (step_acted order).1,
    now_tickClock early (by omega)⟩

/-- A vehicle that has sent at `a` goes on to send regularly. -/
theorem regular (executed : Executed sim steps) (spaced : sim.settings.Spaced)
    (order : Roster.Ascending Participant.id sim.vehicles) (member : p ∈ sim.vehicles)
    (awaits : sim.settings.Awaits a sim.now.ms p) :
    Regular sim.settings (a :: sendTimes p.id steps) steps := by
  -- The induction is on the steps that follow, so the last beacon changes with the vehicle.
  induction executed generalizing p a with
  | nil sim => exact .nil a
  | @cons sim steps early rest ih =>
      obtain ⟨settings, ascending, now⟩ := next spaced early order
      obtain ⟨q, after, signals⟩ := exists_signals spaced.periodic order member
      have same : q.id = p.id := congrArg Script.id signals.script
      have counts := transmits_eq order member after signals.script
      rw [settings, now] at ih
      obtain ⟨sent, soon, still⟩ | ⟨sent, apart, anew⟩ := signals.awaits spaced early awaits
      · have silent : sim.transmits p.id = false := by simp [counts, sent]
        have tail := ih spaced ascending after still
        rw [same] at tail
        rw [sendTimes_cons_of_silent silent]
        exact tail.cons (by omega)
      · have sends : sim.transmits p.id = true := by simp [counts, sent]
        have tail := ih spaced ascending after anew
        rw [same] at tail
        rw [sendTimes_cons_of_sends sends]
        exact tail.cons_cons spaced.moves apart

theorem now_le (executed : Executed sim steps) (spaced : sim.settings.Spaced)
    (order : Roster.Ascending Participant.id sim.vehicles) :
    ∀ t ∈ steps, sim.now.ms ≤ t.now.ms := by
  induction executed with
  | nil sim => simp
  | @cons sim steps early rest ih =>
      obtain ⟨settings, ascending, now⟩ := next spaced early order
      intro t member
      cases member with
      | head => exact Nat.le_refl _
      | tail _ later =>
          have := ih (settings ▸ spaced) ascending t later
          omega

/-- A vehicle that has not set out sends in the step in which it does, and regularly from then on. -/
theorem regular_of_waiting (executed : Executed sim steps) (spaced : sim.settings.Spaced)
    (order : Roster.Ascending Participant.id sim.vehicles) (member : p ∈ sim.vehicles)
    (waits : p.startedAt = none) (plans : p.nextBeacon = .zero) :
    steps.find? (·.transmits p.id) = steps.find? (·.setsOut p.id) ∧
      Regular sim.settings (sendTimes p.id steps) steps := by
  induction executed generalizing p with
  | nil sim => exact ⟨rfl, .nil, fun _ none => by cases none⟩
  | @cons sim steps early rest ih =>
      obtain ⟨settings, ascending, now⟩ := next spaced early order
      obtain ⟨q, after, signals⟩ := exists_signals spaced.periodic order member
      have same : q.id = p.id := congrArg Script.id signals.script
      have counts := transmits_eq order member after signals.script
      have begins := setsOut_eq order member after signals.script
      have spaced' : sim.step.tickClock.settings.Spaced := settings ▸ spaced
      cases signals with
      | silent script started quiet sent nextBeacon =>
          have silent : sim.transmits p.id = false := by simp [counts, sent]
          -- Its time to send has come from the start, so only a vehicle that has not set out is quiet.
          have still : q.startedAt = none := by
            refine quiet.resolve_right ?_
            rw [plans]
            exact Nat.not_lt_zero _
          have parked : sim.setsOut p.id = false := by simp [begins, still]
          obtain ⟨first, regular⟩ := ih spaced' ascending after still (nextBeacon.trans plans)
          rw [same, settings] at regular
          rw [same] at first
          simp only [List.find?_cons, silent, parked, sendTimes_cons_of_silent silent]
          refine ⟨first, regular.late spaced.moves fun t later => ?_⟩
          have := rest.now_le spaced' ascending t later
          omega
      | sends script started due sent draws =>
          have sends : sim.transmits p.id = true := by simp [counts, sent]
          have out : sim.setsOut p.id = true := by
            simp [begins, waits, Option.isSome_iff_ne_none, started]
          have awaits := Signals.awaits_of_sends spaced early started draws
          rw [← now, ← settings] at awaits
          have tail := rest.regular spaced' ascending after awaits
          rw [same, settings] at tail
          simp only [List.find?_cons, sends, out, sendTimes_cons_of_sends sends]
          have moves := spaced.moves
          exact ⟨trivial, tail.cons (by omega)⟩

end Executed

/-- Where beacons are sent at intervals, a vehicle sends for the first time in the step in which it
    sets out. From one of its beacons to the next it is a shortest period at least, and a longest
    period and a step at most. A run does not go on for that long after the last of them. -/
theorem transmits_in_time {settings : SimulationSettings} {topology : Topology}
    {scripts : List Script} {fresh sim : Simulation} {lossRate : Float}
    (created : create settings topology = .ok fresh)
    (added : fresh.addScripts scripts = (sim, none))
    (delivery : settings.delivery = .periodic lossRate) (moves : 1 ≤ settings.step.millis)
    (counted : settings.horizon.millis + settings.client.maxPeriod.millis + settings.step.millis <
      2 ^ 63) (limit : Nat) :
    ∀ p ∈ sim.vehicles,
      (sim.startsWithin limit).find? (·.transmits p.id) =
        (sim.startsWithin limit).find? (·.setsOut p.id) ∧
      (sendTimes p.id (sim.startsWithin limit)).IsChain (fun a b =>
        a < b ∧ a + settings.client.minPeriod.millis ≤ b ∧
          b ≤ a + settings.client.maxPeriod.millis + settings.step.millis) ∧
      ∀ last, (sendTimes p.id (sim.startsWithin limit)).getLast? = some last →
        ∀ s ∈ sim.startsWithin limit,
          s.now.ms < last + settings.client.maxPeriod.millis + settings.step.millis := by
  obtain ⟨valid, rfl, rfl, parked⟩ := parked_of_added created added
  have fits : sim.settings.client.maxPeriod.millis < 2 ^ 64 := by omega
  have step : sim.settings.step.ms = sim.settings.step.millis :=
    Duration.ms_of_millis_lt (by omega)
  have longest : sim.settings.client.maxPeriod.ms = sim.settings.client.maxPeriod.millis :=
    Duration.ms_of_millis_lt fits
  have shortest : sim.settings.client.minPeriod.ms = sim.settings.client.minPeriod.millis := by
    have ordered : sim.settings.client.minPeriod.millis ≤ sim.settings.client.maxPeriod.millis :=
      Nat.div_le_div_right
        (Settings.minPeriod_le_maxPeriod (SimulationSettings.accepted valid).2)
    exact Duration.ms_of_millis_lt (by omega)
  have horizon := sim.settings.horizon.ms_le_millis
  have spaced : sim.settings.Spaced := by
    refine ⟨by simp [delivery], ?_, by omega, by omega⟩
    exact Settings.minPeriod_ms_le (SimulationSettings.accepted valid).2 fits
  intro p member
  obtain ⟨script, eq⟩ := parked.parked p member
  obtain ⟨first, regular⟩ := (executed_startsWithin limit sim).regular_of_waiting spaced
    parked.ascending member (by rw [eq]; rfl) (by rw [eq]; rfl)
  rw [← shortest, ← longest, ← step]
  exact ⟨first, regular.apart, regular.ends⟩

/-- Steps of 300 ms against periods of 100 to 1000 ms, half of the copies being lost. -/
def coarseSteps : SimulationSettings :=
  { SimulationSettings.standard .standard with
    delivery := .periodic 0.5
    step := .ofMillis 300 }

/-- Vehicle 14 sets out in the third step, and sends in four of the first eight. -/
theorem transmits_in_time_rushHour :
    create coarseSteps Topology.fourWay = .ok (onFourWay coarseSteps) ∧
      (onFourWay coarseSteps).addScripts Scenario.rush.scripts = (rushHour coarseSteps, none) ∧
      (∃ first, ((rushHour coarseSteps).startsWithin 8).find? (·.setsOut ⟨14⟩) = some first ∧
        first.transmits ⟨14⟩ = true) ∧
      sendTimes ⟨14⟩ ((rushHour coarseSteps).startsWithin 8) = [600, 900, 1200, 2100] ∧
      [600, 900, 1200, 2100].IsChain (fun a b => a < b ∧ a + 100 ≤ b ∧ b ≤ a + 1000 + 300) ∧
      ∀ s ∈ (rushHour coarseSteps).startsWithin 8, s.now.ms < 2100 + 1000 + 300 := by
  have created : create coarseSteps Topology.fourWay = .ok (onFourWay coarseSteps) :=
    create_onFourWay rfl
  have added : (onFourWay coarseSteps).addScripts Scenario.rush.scripts =
      (rushHour coarseSteps, none) := addScripts_rush (by decide +kernel)
  have times : sendTimes ⟨14⟩ ((rushHour coarseSteps).startsWithin 8) = [600, 900, 1200, 2100] := by
    decide +kernel
  have out : (((rushHour coarseSteps).startsWithin 8).find? (·.setsOut ⟨14⟩)).isSome = true := by
    decide +kernel
  have listed : (⟨14⟩ : VehicleId) ∈ (rushHour coarseSteps).vehicles.map Participant.id := by
    decide +kernel
  obtain ⟨p, member, same⟩ := List.mem_map.mp listed
  obtain ⟨first, apart, ends⟩ :=
    transmits_in_time created added rfl (by decide) (by decide) 8 p member
  rw [same] at first apart ends
  rw [times] at apart ends
  obtain ⟨sim, found⟩ := Option.isSome_iff_exists.mp out
  rw [found] at first
  have sends := List.find?_some first
  exact ⟨created, added, ⟨sim, found, sends⟩, times, apart, ends 2100 rfl⟩

end Simulation

end Junction
