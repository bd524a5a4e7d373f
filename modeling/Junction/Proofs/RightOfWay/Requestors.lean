import Junction.Proofs.RightOfWay.Admission
import Junction.Proofs.Vehicle.Lookup
import Junction.RightOfWay.Stack
import Junction.Road.FourWay
import Mathlib.Data.List.Nodup

/-! # Vehicles that wait for each other

All vehicles agree on who goes first. So of two that know of each other's request and are in each
other's way one gives way, whatever else they know. Where nobody is inside and everybody knows of
all requests, exactly one vehicle is let in, since one of them goes before all others.
-/

namespace Junction

namespace Precedence

theorem isHighest_iff {p : Precedence} {v : VehicleId} {others : List VehicleId} :
    p.isHighest v others = true ↔ ∀ w ∈ others, p.outranks w v = false := by
  simp [isHighest]

theorem exists_isHighest (p : Precedence) {ids : List VehicleId} (nonempty : ids ≠ []) :
    ∃ v ∈ ids, p.isHighest v ids = true := by
  simp only [isHighest_iff]
  induction ids with
  | nil => exact absurd rfl nonempty
  | cons v rest ih =>
      by_cases alone : rest = []
      · subst alone
        refine ⟨v, List.mem_cons_self, ?_⟩
        intro w member
        obtain rfl := List.mem_singleton.mp member
        exact p.outranks_irrefl w
      · obtain ⟨best, inside, highest⟩ := ih alone
        cases better : p.outranks v best with
        | false =>
            refine ⟨best, List.mem_cons_of_mem v inside, ?_⟩
            intro w member
            rcases List.mem_cons.mp member with rfl | later
            · exact better
            · exact highest w later
        | true =>
            refine ⟨v, List.mem_cons_self, ?_⟩
            intro w member
            rcases List.mem_cons.mp member with rfl | later
            · exact p.outranks_irrefl w
            · apply Bool.eq_false_iff.mpr
              intro above
              cases (outranks_trans above better).symm.trans (highest w later)

end Precedence

namespace Evaluation

/-- The vehicle knows that a peer waits and which way it goes. -/
def KnowsRequest (e : Evaluation) (peer : VehicleId) (route : Route) : Prop :=
  ∃ n ∈ e.neighbors.neighbors, n.id = peer ∧ n.status = .requesting ∧ n.route = route

instance (e : Evaluation) (peer : VehicleId) (route : Route) :
    Decidable (e.KnowsRequest peer route) :=
  inferInstanceAs (Decidable (∃ n ∈ e.neighbors.neighbors, _))

/-- The question of a vehicle that has heard all others of a population, each at some time. -/
def amid (population : List Beacon) (b : Beacon) (heard : Beacon → Timestamp) (now : Timestamp) :
    Evaluation where
  me := b.sender
  route := b.route
  neighbors := .ofList
    ((population.filter fun c => c.sender ≠ b.sender).map fun c => ⟨c.sender, c, heard c⟩)
  now

end Evaluation

namespace RightOfWay

variable {conflicts : ConflictTest} {p : Precedence} {e f : Evaluation}

/-- Under a rule that lets in nobody behind a request that is in the way, one of two vehicles in
    each other's way is refused. -/
theorem not_both_of_yields {answer : Evaluation → Clearance}
    (yields : ∀ e n, (answer e).isSafe = true → n ∈ e.neighbors.neighbors →
      n.status = .requesting → e.clashes conflicts n = true → p.outranks n.id e.me = false)
    (distinct : e.me ≠ f.me) (knows : e.KnowsRequest f.me f.route)
    (knows' : f.KnowsRequest e.me e.route) (clash : conflicts e.route f.route = true)
    (clash' : conflicts f.route e.route = true) :
    ¬((answer e).isSafe = true ∧ (answer f).isSafe = true) := by
  rintro ⟨safe, safe'⟩
  obtain ⟨n, seen, id, waiting, route⟩ := knows
  obtain ⟨m, seen', id', waiting', route'⟩ := knows'
  have before := yields e n safe seen waiting (by rwa [Evaluation.clashes, route])
  have before' := yields f m safe' seen' waiting' (by rwa [Evaluation.clashes, route'])
  rw [id] at before
  rw [id'] at before'
  rcases p.outranks_total distinct with first | first
  · cases first.symm.trans before'
  · cases first.symm.trans before

/-- Of two vehicles that know of each other's request, whatever else they know and whenever they
    ask, the serial rule refuses one, and so does the parallel rule if their routes conflict. -/
theorem rivals_not_both_safe (symmetric : ∀ a b, conflicts a b = conflicts b a) (p : Precedence)
    (distinct : e.me ≠ f.me) (knows : e.KnowsRequest f.me f.route)
    (knows' : f.KnowsRequest e.me e.route) :
    ¬(((serial p).answer e).isSafe = true ∧ ((serial p).answer f).isSafe = true) ∧
      (conflicts e.route f.route = true →
        ¬(((parallel conflicts (serial p)).answer e).isSafe = true ∧
          ((parallel conflicts (serial p)).answer f).isSafe = true)) := by
  constructor
  · -- To the serial rule everybody is in everybody's way.
    have yields : ∀ e n, ((serial p).answer e).isSafe = true → n ∈ e.neighbors.neighbors →
        n.status = .requesting → e.clashes (fun _ _ => true) n = true →
        p.outranks n.id e.me = false :=
      fun _ _ safe seen waiting _ => not_outranked_of_serial safe seen waiting
    exact not_both_of_yields yields distinct knows knows' rfl rfl
  · intro clash
    exact not_both_of_yields
      (fun _ _ safe seen waiting inTheWay => not_outranked_of_parallel safe seen waiting inTheWay)
      distinct knows knows' clash ((symmetric _ _).symm.trans clash)

/-- What a vehicle on its way to the north knows of vehicle 20, which is inside and in nobody's way,
    and of a rival that goes to the north as well. -/
def joinerBeside (rival me : VehicleId) (entryOfRival entry : Lane) (now : Timestamp) :
    Evaluation where
  me
  route := ⟨entry, ⟨"N"⟩⟩
  neighbors := .ofList [
    ⟨rival, { Beacon.idle rival .parallel ⟨entryOfRival, ⟨"N"⟩⟩ with status := .requesting }, .zero⟩,
    ⟨⟨20⟩, { Beacon.idle ⟨20⟩ .parallel ⟨⟨"N"⟩, ⟨"S"⟩⟩ with status := .crossing }, .zero⟩]
  now

def fourBesideThree : Evaluation := joinerBeside ⟨3⟩ ⟨4⟩ ⟨"E"⟩ ⟨"S"⟩ (.wrapping 1000)

def threeBesideFour : Evaluation := joinerBeside ⟨4⟩ ⟨3⟩ ⟨"S"⟩ ⟨"E"⟩ (.wrapping 1200)

theorem rivals_not_both_safe_joiners :
    fourBesideThree.KnowsRequest ⟨3⟩ ⟨⟨"E"⟩, ⟨"N"⟩⟩ ∧
      threeBesideFour.KnowsRequest ⟨4⟩ ⟨⟨"S"⟩, ⟨"N"⟩⟩ ∧
      ¬(((serial .higherFirst).answer fourBesideThree).isSafe = true ∧
        ((serial .higherFirst).answer threeBesideFour).isSafe = true) ∧
      ¬(((parallel Topology.fourWay.conflicts (serial .higherFirst)).answer
            fourBesideThree).isSafe = true ∧
          ((parallel Topology.fourWay.conflicts (serial .higherFirst)).answer
            threeBesideFour).isSafe = true) := by
  have knows : fourBesideThree.KnowsRequest ⟨3⟩ ⟨⟨"E"⟩, ⟨"N"⟩⟩ := by decide
  have knows' : threeBesideFour.KnowsRequest ⟨4⟩ ⟨⟨"S"⟩, ⟨"N"⟩⟩ := by decide
  obtain ⟨alone, apart⟩ := rivals_not_both_safe (e := fourBesideThree) (f := threeBesideFour)
    Topology.fourWay.conflicts_comm .higherFirst (by decide) knows knows'
  exact ⟨knows, knows', alone, apart (by decide +kernel)⟩

theorem parallel_answer_of_empty {base : Baseline}
    (empty : ∀ n ∈ e.neighbors.neighbors, n.status ≠ .crossing) :
    (parallel conflicts base).answer e = base.answer e := by
  have inside : e.neighbors.crossing = [] := by
    apply List.eq_nil_iff_forall_not_mem.mpr
    intro n member
    obtain ⟨seen, crossing⟩ := Snapshot.mem_crossing.mp member
    exact empty n seen crossing
  simp [parallel, join, inside]

section Population

variable {population : List Beacon} {b top : Beacon} {heard : Beacon → Timestamp} {now : Timestamp}

theorem mem_amid_iff (distinct : (population.map Beacon.sender).Nodup) {n : Neighbor} :
    n ∈ (Evaluation.amid population b heard now).neighbors.neighbors ↔
      ∃ c ∈ population, c.sender ≠ b.sender ∧ n = ⟨c.sender, c, heard c⟩ := by
  have others : (((population.filter fun c => c.sender ≠ b.sender).map fun c =>
      (⟨c.sender, c, heard c⟩ : Neighbor)).map Neighbor.id).Nodup := by
    rw [List.map_map]
    exact distinct.sublist (List.filter_sublist.map Beacon.sender)
  simp only [Evaluation.amid, Snapshot.ofList, Roster.mem_ofList_iff others, List.mem_map,
    List.mem_filter, decide_eq_true_eq, and_assoc, eq_comm (b := n)]

/-- Where nobody is inside, a vehicle that waits comes first exactly if no other that waits goes
    before it. -/
theorem comesFirst_amid_iff (distinct : (population.map Beacon.sender).Nodup)
    (outside : ∀ c ∈ population, c.status ≠ .crossing) :
    comesFirst p (.amid population b heard now) = true ↔
      ∀ c ∈ population, c.status = .requesting → p.outranks c.sender b.sender = false := by
  rw [comesFirst_iff]
  constructor
  · rintro ⟨-, unmatched⟩ c member waiting
    by_cases own : c.sender = b.sender
    · rw [own]
      exact p.outranks_irrefl _
    · exact unmatched _ ((mem_amid_iff distinct).mpr ⟨c, member, own, rfl⟩) waiting
  · intro highest
    constructor
    · intro n seen
      obtain ⟨c, member, -, rfl⟩ := (mem_amid_iff distinct).mp seen
      exact outside c member
    · intro n seen waiting
      obtain ⟨c, member, -, rfl⟩ := (mem_amid_iff distinct).mp seen
      exact highest c member waiting

theorem exists_first (p : Precedence) (distinct : (population.map Beacon.sender).Nodup)
    (wanted : ∃ c ∈ population, c.status = .requesting) :
    ∃ top ∈ population, top.status = .requesting ∧
      ∀ c ∈ population, c.status = .requesting → c ≠ top →
        p.outranks top.sender c.sender = true := by
  have waits {c : Beacon} : c ∈ population.filter (·.status = .requesting) ↔
      c ∈ population ∧ c.status = .requesting := by simp
  obtain ⟨c, member, waiting⟩ := wanted
  have nonempty : (population.filter (·.status = .requesting)).map Beacon.sender ≠ [] :=
    List.ne_nil_of_mem (List.mem_map_of_mem (waits.mpr ⟨member, waiting⟩))
  obtain ⟨v, listed, highest⟩ := p.exists_isHighest nonempty
  obtain ⟨top, inside, rfl⟩ := List.mem_map.mp listed
  obtain ⟨first, requesting⟩ := waits.mp inside
  refine ⟨top, first, requesting, ?_⟩
  intro b other waiting' different
  have apart : top.sender ≠ b.sender := fun same =>
    different (List.inj_on_of_nodup_map distinct other first same.symm)
  have lower := Precedence.isHighest_iff.mp highest b.sender
    (List.mem_map_of_mem (waits.mpr ⟨other, waiting'⟩))
  refine (p.outranks_total apart).resolve_right ?_
  rw [lower]
  exact Bool.false_ne_true

/-- Whatever routes conflict, whoever goes before whom and whenever each of them asks: where nobody
    is inside and all who wait know of all others, the serial and the parallel rule give a positive
    answer to the one that goes before the others, and to it alone. The answer names no instant. The
    reserving rule answers that one with the instant at which it asks. -/
theorem first_alone_let_in (conflicts : ConflictTest) (slots : SlotSelection) (p : Precedence)
    (distinct : (population.map Beacon.sender).Nodup)
    (outside : ∀ c ∈ population, c.status ≠ .crossing)
    (wanted : ∃ c ∈ population, c.status = .requesting) :
    ∃ top ∈ population, top.status = .requesting ∧
      (∀ c ∈ population, c.status = .requesting → c ≠ top →
        p.outranks top.sender c.sender = true) ∧
      ∀ b ∈ population, b.status = .requesting → ∀ heard now,
        (serial p).answer (.amid population b heard now) =
            (if b = top then .provisional else .wait) ∧
          (parallel conflicts (serial p)).answer (.amid population b heard now) =
            (if b = top then .provisional else .wait) ∧
          (b = top → (reservation conflicts slots (parallel conflicts (serial p))).answer
            (.amid population b heard now) = .startingAt now) := by
  obtain ⟨top, first, waits, above⟩ := exists_first p distinct wanted
  refine ⟨top, first, waits, above, ?_⟩
  intro b member waiting heard now
  have empty : ∀ n ∈ (Evaluation.amid population b heard now).neighbors.neighbors,
      n.status ≠ .crossing := by
    intro n seen
    obtain ⟨c, inside, -, rfl⟩ := (mem_amid_iff distinct).mp seen
    exact outside c inside
  have comes : comesFirst p (.amid population b heard now) = true ↔ b = top := by
    rw [comesFirst_amid_iff distinct outside]
    constructor
    · intro highest
      refine Decidable.byContradiction fun other => ?_
      cases (above b member waiting other).symm.trans (highest top first waits)
    · rintro rfl c inside requesting
      by_cases own : c = b
      · rw [own]
        exact p.outranks_irrefl _
      · exact Precedence.outranks_asymm (above c inside requesting own)
  have answer : (serial p).answer (.amid population b heard now) =
      if b = top then .provisional else .wait := by
    simp only [serial, comes]
  refine ⟨answer, (parallel_answer_of_empty empty).trans answer, ?_⟩
  intro own
  have priority : (parallel conflicts (serial p)).hasPriority (.amid population b heard now) =
      true := comes.mpr own
  simp only [reservation, priority, if_true]
  rfl

end Population

/-- One vehicle behind the crossing and one that does not want to cross, each with the greatest
    identifier, and between them three that wait and have published whatever they like. -/
def crowd : List Beacon := [
  { Beacon.idle ⟨250⟩ .reservation ⟨⟨"N"⟩, ⟨"S"⟩⟩ with status := .exiting },
  { Beacon.idle ⟨7⟩ .reservation ⟨⟨"E"⟩, ⟨"W"⟩⟩ with
    status := .requesting, entryTime := some .unscheduled, crossingMs := some 4000 },
  { Beacon.idle ⟨30⟩ .reservation ⟨⟨"S"⟩, ⟨"N"⟩⟩ with status := .requesting },
  { Beacon.idle ⟨12⟩ .reservation ⟨⟨"E"⟩, ⟨"W"⟩⟩ with
    status := .requesting, entryTime := some (.wrapping 100), crossingMs := some 0 },
  Beacon.idle ⟨255⟩ .reservation ⟨⟨"W"⟩, ⟨"E"⟩⟩]

theorem first_alone_let_in_crowd :
    (crowd.map Beacon.sender).Nodup ∧ (∀ c ∈ crowd, c.status ≠ .crossing) ∧
      (∃ c ∈ crowd, c.status = .requesting) ∧
      ∃ top ∈ crowd, top.sender = ⟨30⟩ ∧
        ∀ b ∈ crowd, b.status = .requesting → ∀ heard now,
          (serial .higherFirst).answer (.amid crowd b heard now) =
              (if b = top then .provisional else .wait) ∧
            (parallel Topology.fourWay.conflicts (serial .higherFirst)).answer
                (.amid crowd b heard now) =
              (if b = top then .provisional else .wait) ∧
            (b = top → (reservation Topology.fourWay.conflicts SlotChoice.firstFit.select
                (parallel Topology.fourWay.conflicts (serial .higherFirst))).answer
              (.amid crowd b heard now) = .startingAt now) := by
  have distinct : (crowd.map Beacon.sender).Nodup := by decide
  have outside : ∀ c ∈ crowd, c.status ≠ .crossing := by decide
  have wanted : ∃ c ∈ crowd, c.status = .requesting := by decide
  obtain ⟨top, first, waits, above, answers⟩ := first_alone_let_in Topology.fourWay.conflicts
    SlotChoice.firstFit.select .higherFirst distinct outside wanted
  refine ⟨distinct, outside, wanted, top, first, ?_, answers⟩
  have only : ∀ top ∈ crowd, top.status = .requesting →
      (∀ c ∈ crowd, c.status = .requesting → c ≠ top →
        Precedence.higherFirst.outranks top.sender c.sender = true) → top.sender = ⟨30⟩ := by
    decide
  exact only top first waits above

end RightOfWay

end Junction
