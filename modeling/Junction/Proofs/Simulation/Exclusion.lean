import Junction.Proofs.Simulation.Setup
import Junction.Simulation.Report

/-! # Vehicles that are inside one after the other

If a vehicle is let in only when those that are in its way have left, or have been inside for as
long as their stays are trusted to last, then the vehicles that are in each other's way are inside
one after the other throughout a run.
-/

namespace Junction

namespace Interval

/-- By `t` the interval is over. Where stays are trusted to last no longer than `stay`, it need only
    have begun that long before. -/
def IsOverBy (stay : Option Nat) (i : Interval) (t : Timestamp) : Prop :=
  (∃ e, i.stop = some e ∧ e ≤ t) ∨ ∃ d, stay = some d ∧ i.start.ms + d ≤ t.ms

/-- One interval is over by the start of the other. -/
def InTurn (stay : Option Nat) (i j : Interval) : Prop :=
  i.IsOverBy stay j.start ∨ j.IsOverBy stay i.start

/-- The interval lasts as long as stays are trusted to last at most. -/
def IsHonest (stay : Option Nat) (cut : Timestamp) (i : Interval) : Prop :=
  ∀ d, stay = some d → (i.stopBy cut).ms ≤ i.start.ms + d

variable {stay : Option Nat} {i j : Interval} {t cut : Timestamp}

theorem InTurn.symm (h : i.InTurn stay j) : j.InTurn stay i := Or.symm h

theorem InTurn.close (h : i.InTurn stay j) (running : i.stop = none) (t : Timestamp) :
    ({ i with stop := some t } : Interval).InTurn stay j := by
  rcases h with past | past
  · rcases past with ⟨e, stopped, -⟩ | trusted
    · cases running.symm.trans stopped
    · exact Or.inl (Or.inr trusted)
  · exact Or.inr past

theorem IsOverBy.stopBy_le (h : i.IsOverBy stay t) (honest : i.IsHonest stay cut) :
    i.stopBy cut ≤ t := by
  rcases h with ⟨e, stopped, before⟩ | ⟨d, trusted, before⟩
  · simp only [stopBy, stopped, Option.getD_some]
    exact before
  · exact Timestamp.le_iff.mpr (Nat.le_trans (honest d trusted) before)

theorem InTurn.overlap?_eq_none (h : i.InTurn stay j) (hi : i.IsHonest stay cut)
    (hj : j.IsHonest stay cut) : i.overlap? j cut = none := by
  have apart : i.stopBy cut ≤ j.start ∨ j.stopBy cut ≤ i.start :=
    h.imp (fun past => past.stopBy_le hi) (fun past => past.stopBy_le hj)
  simp only [Timestamp.le_iff] at apart
  apply if_neg
  simp only [Timestamp.lt_iff, Timestamp.max_ms, Timestamp.le_iff]
  split <;> omega

end Interval

/-- Two vehicles whose routes bar each other are inside one after the other. -/
def VehicleReport.InTurn (barred : ConflictTest) (stay : Option Nat) (a b : VehicleReport) : Prop :=
  barred a.route b.route = true → ∀ i j, a.crossing = some i → b.crossing = some j →
    i.InTurn stay j

/-- Two vehicles whose routes bar each other are inside one after the other, or one of them is
    excused for having gone in with the other. -/
def VehicleReport.Apart (barred : ConflictTest) (stay : Option Nat)
    (excused : VehicleReport → VehicleReport → Prop) (a b : VehicleReport) : Prop :=
  barred a.route b.route = true → ∀ i j, a.crossing = some i → b.crossing = some j →
    i.InTurn stay j ∨ excused a b ∨ excused b a

theorem VehicleReport.apart_iff_inTurn {barred : ConflictTest} {stay : Option Nat}
    {a b : VehicleReport} : a.Apart barred stay (fun _ _ => False) b ↔ a.InTurn barred stay b := by
  simp only [Apart, InTurn, or_false]

/-- What excuses a vehicle that is inside goes on to do so, whatever it and the other do. -/
def VehicleReport.Lasting (excused : VehicleReport → VehicleReport → Prop) : Prop :=
  ∀ (now : Timestamp) (p q : Participant), p.Standing now.ms → p.Acts now q → p.crossing ≠ none →
    ∀ r, (excused p.report r → excused q.report r) ∧ (excused r p.report → excused r q.report)

/-- A vehicle inside goes before one that still seeks access, or was let in before that one had
    set out. -/
def VehicleReport.GoesBefore (p : Precedence) (a b : VehicleReport) : Prop :=
  ∀ c s, a.crossing = some ⟨c, none⟩ → b.crossing = none → b.startedAt = some s →
    p.outranks a.id b.id = true ∨ c ≤ s

/-- Where the routes of two vehicles bar each other, the one that is inside goes before the one that
    still seeks access. -/
def VehicleReport.GivesWay (barred : ConflictTest) (p : Precedence) (a b : VehicleReport) : Prop :=
  barred a.route b.route = true → a.GoesBefore p b

theorem Participant.violation?_eq_some {topology : Topology} {cut : Timestamp}
    {p q : Participant} {v : Violation} :
    p.violation? topology cut q = some v ↔
      ∃ i j, p.crossing = some i ∧ q.crossing = some j ∧
        topology.conflicts p.script.route q.script.route = true ∧
        v.first = p.id ∧ v.second = q.id ∧ i.overlap? j cut = some (v.start, v.stop) := by
  rcases v with ⟨first, second, start, stop⟩
  cases hi : p.crossing with
  | none => simp [violation?, hi]
  | some i =>
      cases hj : q.crossing with
      | none => simp [violation?, hi, hj]
      | some j =>
          cases clash : topology.conflicts p.script.route q.script.route with
          | false => simp [violation?, hi, hj, clash]
          | true =>
              cases both : i.overlap? j cut with
              | none => simp [violation?, hi, hj, clash, both]
              | some times =>
                  simp [violation?, hi, hj, clash, both, eq_comm, Prod.ext_iff]

namespace Simulation

variable {sim start after : Simulation} {done : List VehicleId} {p own : Participant}
  {table : Participant → NeighborTable}

/-- What holds of the reports of any two vehicles. -/
def EachPair (related : VehicleReport → VehicleReport → Prop) (sim : Simulation) : Prop :=
  ∀ a ∈ sim.vehicles, ∀ b ∈ sim.vehicles, a.id ≠ b.id → related a.report b.report

/-- Only the pairs of the vehicle whose turn it was have to be looked at. -/
theorem Turned.eachPair {related : VehicleReport → VehicleReport → Prop}
    (turned : sim.Turned p own table after) (before : sim.EachPair related)
    (acting : ∀ r ∈ sim.vehicles, r.id ≠ p.id →
      related own.report r.report ∧ related r.report own.report) :
    after.EachPair related := by
  intro a ha b hb apart
  rcases turned.mem ha with rfl | ⟨a, inside, other, rfl⟩
  · rcases turned.mem hb with rfl | ⟨b, there, away, rfl⟩
    · exact absurd rfl apart
    · exact (acting b there away).1
  · rcases turned.mem hb with rfl | ⟨b, there, away, rfl⟩
    · exact (acting a inside other).2
    · exact before a inside b there apart

theorem Informed.exists_entry (informed : sim.Informed done) {r : Participant}
    (member : p ∈ sim.vehicles) (inside : r ∈ sim.vehicles) (other : r.id ≠ p.id)
    (started : r.startedAt ≠ none) :
    ∃ n ∈ p.controller.table.entries, n.id = r.id ∧
      n.Tells sim.settings sim.now (decide (r.id ∈ done)) r := by
  obtain ⟨n, found, tells⟩ := (informed.knows p member r inside other.symm).heard started
  obtain ⟨entry, same⟩ := NeighborTable.mem_of_get? found
  exact ⟨n, entry, same, tells⟩

/-- What the policy is asked about a vehicle that knows all that it has heard. -/
def question (sim : Simulation) (p : Participant) : Evaluation :=
  ⟨p.id, p.script.route, p.controller.table.snapshot, sim.now⟩

def answer (sim : Simulation) (p : Participant) : Clearance :=
  (RightOfWay.policyFor sim.settings.client.protocol sim.topology.conflicts
    sim.settings.client.options).answer (sim.question p)

theorem Turning.answerAt_eq (turning : start.Turning sim done p)
    (reliable : start.settings.Reliable) {s : Timestamp} {c : Controller}
    (consults : p.Consults s c) : c.answerAt sim.now = sim.answer p := by
  have informed := turning.informed
  have policy := (Controller.policy_of_constants consults.constants).trans
    (informed.policy_eq turning.member)
  have settings := (Controller.settings_of_constants consults.constants).trans
    (informed.settings_eq turning.member)
  have table := (Participant.table_forget_eq consults.table consults.constants sim.now).trans
    (informed.forget_eq (turning.settings ▸ reliable) turning.member)
  have kept : (c.forget sim.now).settings = c.settings := rfl
  simp only [Controller.answerAt, Controller.question, answer, question, policy, table, kept,
    settings]
  rfl

/-- Whoever is inside when a vehicle is let in, and bars its way, has been inside for as long as its
    stay is trusted to last. -/
def LetsIn (barred : ConflictTest) (stay : Option Nat) (sim : Simulation) (p : Participant) :
    Prop :=
  (p.act sim.settings sim.isDue sim.now).crossing = some ⟨sim.now, none⟩ → p.crossing = none →
    ∀ r ∈ sim.vehicles, r.id ≠ p.id → barred p.script.route r.script.route = true →
      ∀ c, r.crossing = some ⟨c, none⟩ → ∃ d, stay = some d ∧ c.ms + d ≤ sim.now.ms

/-- The same, but for those that are excused. -/
def LetsInUnless (barred : ConflictTest) (stay : Option Nat)
    (excused : VehicleReport → VehicleReport → Prop) (sim : Simulation) (p : Participant) : Prop :=
  (p.act sim.settings sim.isDue sim.now).crossing = some ⟨sim.now, none⟩ → p.crossing = none →
    ∀ r ∈ sim.vehicles, r.id ≠ p.id → barred p.script.route r.script.route = true →
      ∀ c, r.crossing = some ⟨c, none⟩ → (∃ d, stay = some d ∧ c.ms + d ≤ sim.now.ms) ∨
        excused (p.act sim.settings sim.isDue sim.now).report r.report

/-- It is enough to look at the answers by which a vehicle is let in. -/
theorem Turning.letsInUnless (turning : start.Turning sim done p)
    (reliable : start.settings.Reliable) {barred : ConflictTest} {stay : Option Nat}
    {excused : VehicleReport → VehicleReport → Prop}
    (admitted : ∀ s c, p.Consults s c → c.Admits (sim.answer p) sim.now → p.crossing = none →
      (p.act sim.settings sim.isDue sim.now).startedAt = some s →
      (p.act sim.settings sim.isDue sim.now).crossing = some ⟨sim.now, none⟩ →
      ∀ r ∈ sim.vehicles, r.id ≠ p.id → barred p.script.route r.script.route = true →
        ∀ t, r.crossing = some ⟨t, none⟩ → (∃ d, stay = some d ∧ t.ms + d ≤ sim.now.ms) ∨
          excused (p.act sim.settings sim.isDue sim.now).report r.report) :
    sim.LetsInUnless barred stay excused p := by
  intro opened outside r inside other bars t there
  cases turning.acts.stay with
  | same kept => cases (opened.symm.trans kept).trans outside
  | closes c _ closed => cases opened.symm.trans closed
  | opens s c _ _ started consults admits =>
      rw [turning.answerAt_eq reliable consults] at admits
      exact admitted s c consults admits outside started opened r inside other bars t there

theorem Turning.letsIn (turning : start.Turning sim done p) (reliable : start.settings.Reliable)
    {barred : ConflictTest} {stay : Option Nat}
    (admitted : ∀ s c, p.Consults s c → c.Admits (sim.answer p) sim.now → p.crossing = none →
      (p.act sim.settings sim.isDue sim.now).startedAt = some s →
      ∀ r ∈ sim.vehicles, r.id ≠ p.id → barred p.script.route r.script.route = true →
        ∀ t, r.crossing = some ⟨t, none⟩ → ∃ d, stay = some d ∧ t.ms + d ≤ sim.now.ms) :
    sim.LetsIn barred stay p := by
  have never : sim.LetsInUnless barred stay (fun _ _ => False) p := by
    refine turning.letsInUnless reliable ?_
    intro s c consults admits outside started _ r inside other bars t there
    exact Or.inl (admitted s c consults admits outside started r inside other bars t there)
  intro opened outside r inside other bars t there
  exact (never opened outside r inside other bars t there).resolve_right id

theorem Turning.apart (turning : start.Turning sim done p) (reliable : start.settings.Reliable)
    {barred : ConflictTest} (symmetric : ∀ r s, barred r s = barred s r) {stay : Option Nat}
    {excused : VehicleReport → VehicleReport → Prop} (lasting : VehicleReport.Lasting excused)
    (lets : sim.LetsInUnless barred stay excused p)
    (before : sim.EachPair (VehicleReport.Apart barred stay excused)) :
    (sim.turn p.id).EachPair (VehicleReport.Apart barred stay excused) := by
  obtain ⟨own, table, turned, -, report, -⟩ := turning.turned reliable
  have acts := turning.acts
  have standing := turning.standing
  generalize acted : p.act sim.settings sim.isDue sim.now = q at acts report
  refine turned.eachPair before ?_
  intro r inside other
  suffices q.report.Apart barred stay excused r.report by
    rw [report]
    refine ⟨this, ?_⟩
    intro bars i j hi hj
    rw [symmetric] at bars
    exact (this bars j i hj hi).imp Interval.InTurn.symm Or.symm
  intro bars i j hi hj
  have bars' : barred p.script.route r.script.route = true := by
    rw [← acts.script]
    exact bars
  have old : p.report.Apart barred stay excused r.report :=
    before p turning.member r inside other.symm
  -- a vehicle that was inside before has the excuse that it had
  have kept (was : p.crossing ≠ none) :
      excused p.report r.report ∨ excused r.report p.report →
        excused q.report r.report ∨ excused r.report q.report :=
    have still := lasting sim.now p q standing acts was r.report
    Or.imp still.1 still.2
  cases acts.stay with
  | same unchanged =>
      have had : p.crossing = some i := unchanged.symm.trans hi
      exact (old bars' i j had hj).imp_right (kept (by simp [had]))
  | closes c stays closed =>
      obtain rfl := Option.some.inj (closed.symm.trans hi)
      exact (old bars' _ j stays hj).imp (fun turn => turn.close rfl sim.now)
        (kept (by simp [stays]))
  | opens s c outside opened started consults admits =>
      obtain rfl := Option.some.inj (opened.symm.trans hi)
      rcases j with ⟨c', stop⟩
      cases stop with
      | none =>
          rcases lets (acted.symm ▸ opened) outside r inside other bars' c' hj with trusted | excuse
          · exact Or.inl (Or.inr (Or.inr trusted))
          · rw [acted] at excuse
            exact Or.inr (Or.inl excuse)
      | some e =>
          have past := (turning.informed.standing r inside).stop_lt hj
          have bound := sim.now.bound_le (decide (r.id ∈ done))
          exact Or.inl (Or.inr
            (Or.inl ⟨e, rfl, Nat.le_of_lt_succ (Nat.lt_of_lt_of_le past bound)⟩))

/-- If every vehicle is let in as it should be, those that bar each other's way are inside one after
    the other throughout a run, but for those that are excused. Whatever `holds` along the run may
    be used to see that. -/
theorem Reaches.apart (reached : Reaches start sim) (reliable : start.settings.Reliable)
    (parked : start.Parked) {barred : ConflictTest} (symmetric : ∀ r s, barred r s = barred s r)
    {stay : Option Nat} {excused : VehicleReport → VehicleReport → Prop}
    (lasting : VehicleReport.Lasting excused) (holds : List VehicleId → Simulation → Prop)
    (first : holds [] start)
    (turn : ∀ done mid p, start.Turning mid done p → holds done mid →
      holds (done ++ [p.id]) (mid.turn p.id))
    (tick : ∀ mid, mid.settings = start.settings → mid.isLate = false →
      holds (mid.vehicles.map Participant.id) mid → holds [] mid.tickClock)
    (lets : ∀ done mid p, start.Turning mid done p → holds done mid →
      mid.LetsInUnless barred stay excused p) :
    sim.EachPair (VehicleReport.Apart barred stay excused) := by
  have begun : start.EachPair (VehicleReport.Apart barred stay excused) := by
    intro a ha b _ _ _ i j hi
    obtain ⟨script, rfl⟩ := parked.parked a ha
    cases hi
  obtain ⟨-, -, always⟩ := reached.informed_and reliable parked.informed
    (fun done mid => holds done mid ∧ mid.EachPair (VehicleReport.Apart barred stay excused))
    ⟨first, begun⟩
    (fun done mid p turning here => ⟨turn done mid p turning here.1,
      turning.apart reliable symmetric lasting (lets done mid p turning here.1) here.2⟩)
    (fun mid same early here => ⟨tick mid same early here.1, here.2⟩)
  exact always

theorem Reaches.inTurn (reached : Reaches start sim) (reliable : start.settings.Reliable)
    (parked : start.Parked) {barred : ConflictTest} (symmetric : ∀ r s, barred r s = barred s r)
    {stay : Option Nat} (holds : List VehicleId → Simulation → Prop) (first : holds [] start)
    (turn : ∀ done mid p, start.Turning mid done p → holds done mid →
      holds (done ++ [p.id]) (mid.turn p.id))
    (tick : ∀ mid, mid.settings = start.settings → mid.isLate = false →
      holds (mid.vehicles.map Participant.id) mid → holds [] mid.tickClock)
    (lets : ∀ done mid p, start.Turning mid done p → holds done mid →
      mid.LetsIn barred stay p) :
    sim.EachPair (VehicleReport.InTurn barred stay) := by
  have lasting : VehicleReport.Lasting fun _ _ => False := fun _ _ _ _ _ _ _ => ⟨id, id⟩
  have apart := reached.apart reliable parked symmetric lasting holds first turn tick (by
    intro done mid p turning here opened outside r inside other bars t there
    exact Or.inl (lets done mid p turning here opened outside r inside other bars t there))
  intro a ha b hb distinct
  exact VehicleReport.apart_iff_inTurn.mp (apart a ha b hb distinct)

theorem Reaches.inTurn_of_turns (reached : Reaches start sim) (reliable : start.settings.Reliable)
    (parked : start.Parked) {barred : ConflictTest} (symmetric : ∀ r s, barred r s = barred s r)
    {stay : Option Nat}
    (lets : ∀ done mid p, start.Turning mid done p → mid.LetsIn barred stay p) :
    sim.EachPair (VehicleReport.InTurn barred stay) :=
  reached.inTurn reliable parked symmetric (fun _ _ => True) trivial (fun _ _ _ _ _ => trivial)
    (fun _ _ _ _ => trivial) (fun done mid p turning _ => lets done mid p turning)

theorem Parked.givesWay (parked : sim.Parked) {barred : ConflictTest} {first : Precedence} :
    sim.EachPair (VehicleReport.GivesWay barred first) := by
  intro a ha b _ _ _ c s there
  obtain ⟨script, rfl⟩ := parked.parked a ha
  cases there

/-- If whoever is let in goes before all that seek access and are in its way, then vehicles inside
    go before those that seek access throughout. -/
theorem Turning.givesWay (turning : start.Turning sim done p) (reliable : start.settings.Reliable)
    {barred : ConflictTest} {first : Precedence}
    (highest : ∀ s c, p.Consults s c → c.Admits (sim.answer p) sim.now →
      ∀ r ∈ sim.vehicles, r.id ≠ p.id → r.startedAt ≠ none → r.crossing = none →
        barred p.script.route r.script.route = true → first.outranks p.id r.id = true)
    (before : sim.EachPair (VehicleReport.GivesWay barred first)) :
    (sim.turn p.id).EachPair (VehicleReport.GivesWay barred first) := by
  obtain ⟨own, table, turned, -, report, -⟩ := turning.turned reliable
  have acts := turning.acts
  generalize acted : p.act sim.settings sim.isDue sim.now = q at acts report
  refine turned.eachPair before ?_
  rw [report]
  have id : q.report.id = p.id := acts.id
  have route : q.report.route = p.script.route := congrArg Script.route acts.script
  intro r inside other
  constructor
  -- the one whose turn it was is inside: if it was let in just now, it goes before `r`
  · intro bars c s there outside started
    rw [route] at bars
    rw [id]
    cases acts.stay with
    | same kept =>
        exact before p turning.member r inside other.symm bars c s (kept.symm.trans there) outside
          started
    | closes c' _ closed => cases there.symm.trans closed
    | opens s' controller _ opened _ consults admits =>
        rw [turning.answerAt_eq reliable consults] at admits
        refine Or.inl (highest s' controller consults admits r inside other ?_ outside bars)
        rw [show r.startedAt = some s from started]
        exact Option.some_ne_none s
  -- the one whose turn it was seeks access: if it set out just now, `r` was let in before
  · intro bars c s there outside started
    rw [route] at bars
    rw [id]
    rcases acts.started with kept | ⟨-, now⟩
    · exact before r inside p turning.member other bars c s there (acts.outside outside)
        (kept.symm.trans started)
    · obtain rfl := Option.some.inj (now.symm.trans started)
      obtain ⟨-, past, -⟩ := (turning.informed.standing r inside).of_inside there
      have bound := sim.now.bound_le (decide (r.id ∈ done))
      apply Or.inr
      rw [Timestamp.le_iff]
      omega

/-- Where vehicles stayed no longer than they were trusted to, one of two that are listed was
    excused. -/
theorem excused_of_mem_violations (stay : Option Nat)
    {excused : VehicleReport → VehicleReport → Prop}
    (ascending : Roster.Ascending Participant.id sim.vehicles)
    (apart : sim.EachPair (VehicleReport.Apart sim.topology.conflicts stay excused))
    (honest : ∀ p ∈ sim.vehicles, ∀ i, p.crossing = some i →
      i.IsHonest stay (sim.now.advance 1)) {v : Violation} (listed : v ∈ sim.report.violations) :
    ∃ a ∈ sim.report.vehicles, ∃ b ∈ sim.report.vehicles,
      (v.first = a.id ∧ v.second = b.id ∨ v.first = b.id ∧ v.second = a.id) ∧ excused a b := by
  obtain ⟨⟨p, q⟩, pair, found⟩ := List.mem_filterMap.mp listed
  obtain ⟨hp, hq, before⟩ := ascending.mem_pairsInOrder_iff.mp pair
  obtain ⟨i, j, hi, hj, clash, first, second, both⟩ := Participant.violation?_eq_some.mp found
  have distinct : p.id ≠ q.id := by
    intro same
    rw [same, VehicleId.lt_iff] at before
    omega
  have here := List.mem_map_of_mem (f := Participant.report) hp
  have there := List.mem_map_of_mem (f := Participant.report) hq
  rcases apart p hp q hq distinct clash i j hi hj with turn | excuse | excuse
  · have none := turn.overlap?_eq_none (honest p hp i hi) (honest q hq j hj)
    cases none.symm.trans both
  · exact ⟨_, here, _, there, Or.inl ⟨first, second⟩, excuse⟩
  · exact ⟨_, there, _, here, Or.inr ⟨first, second⟩, excuse⟩

theorem overlap?_eq_none_of_report {barred : ConflictTest}
    (apart : sim.EachPair (VehicleReport.InTurn barred none)) {a b : VehicleReport}
    (ha : a ∈ sim.report.vehicles) (hb : b ∈ sim.report.vehicles) (distinct : a.id ≠ b.id)
    (bars : barred a.route b.route = true) {i j : Interval} (hi : a.crossing = some i)
    (hj : b.crossing = some j) (cut : Timestamp) : i.overlap? j cut = none := by
  obtain ⟨p, hp, rfl⟩ := List.mem_map.mp ha
  obtain ⟨q, hq, rfl⟩ := List.mem_map.mp hb
  have turn : i.InTurn none j := apart p hp q hq distinct bars i j hi hj
  exact turn.overlap?_eq_none (fun _ h => by cases h) (fun _ h => by cases h)

theorem eachPair_of_run {limit : Nat} {final : Simulation}
    {related : VehicleReport → VehicleReport → Prop} (ran : start.run limit = .ok final)
    (always : ∀ last, Reaches start last → last.EachPair related) : final.EachPair related := by
  obtain ⟨last, reached, vehicles, -⟩ := vehicles_of_run ran
  have there := always last reached
  rw [EachPair] at there ⊢
  rwa [vehicles]

theorem excused_of_run {limit : Nat} {final : Simulation}
    {excused : VehicleReport → VehicleReport → Prop}
    (ran : start.run limit = .ok final) (reliable : start.settings.Reliable)
    (parked : start.Parked) (stay : Option Nat)
    (always : ∀ last, Reaches start last →
      last.EachPair (VehicleReport.Apart start.topology.conflicts stay excused))
    (honest : ∀ p ∈ final.vehicles, ∀ i, p.crossing = some i →
      i.IsHonest stay (final.now.advance 1)) {v : Violation} (listed : v ∈ final.report.violations) :
    ∃ a ∈ final.report.vehicles, ∃ b ∈ final.report.vehicles,
      (v.first = a.id ∧ v.second = b.id ∨ v.first = b.id ∧ v.second = a.id) ∧ excused a b := by
  have apart := eachPair_of_run ran always
  obtain ⟨last, reached, vehicles, topology⟩ := vehicles_of_run ran
  refine excused_of_mem_violations stay ?_ ?_ honest listed
  · rw [vehicles]
    exact (reached.informed reliable parked.informed).ascending
  · rwa [topology, reached.topology]

theorem violations_eq_nil_of_run {limit : Nat} {final : Simulation}
    (ran : start.run limit = .ok final) (reliable : start.settings.Reliable)
    (parked : start.Parked) (stay : Option Nat)
    (always : ∀ last, Reaches start last →
      last.EachPair (VehicleReport.InTurn start.topology.conflicts stay))
    (honest : ∀ p ∈ final.vehicles, ∀ i, p.crossing = some i →
      i.IsHonest stay (final.now.advance 1)) :
    final.report.violations = [] := by
  refine List.eq_nil_iff_forall_not_mem.mpr fun v listed => ?_
  obtain ⟨_, -, _, -, -, excuse⟩ := excused_of_run ran reliable parked stay
    (fun last reached a ha b hb distinct =>
      VehicleReport.apart_iff_inTurn.mpr (always last reached a ha b hb distinct)) honest listed
  exact excuse

end Simulation

end Junction
