import Junction.Proofs.RightOfWay.Sharing
import Mathlib.Data.List.Sort

/-! # What an answer is read from

A rule looks at the peers that are inside and at those that wait, and of each of them at little:
the serial rule at who it is, the parallel rule at its way too, and only the reserving rule at its
times. So everything else about the peers can be blurred, and nobody can tell from the answers.
-/

namespace Junction

theorem Protocol.reservation_ne_serial : Protocol.reservation ≠ .serial := nofun

/-- The peer is inside or waits. -/
def Neighbor.Competes (n : Neighbor) : Prop := n.status = .crossing ∨ n.status = .requesting

instance (n : Neighbor) : Decidable n.Competes :=
  inferInstanceAs (Decidable (n.status = .crossing ∨ n.status = .requesting))

/-- The rule of a protocol has no use for the difference between two accounts of a peer. -/
structure Neighbor.Alike (protocol : Protocol) (n m : Neighbor) : Prop where
  id : n.id = m.id
  status : n.status = m.status
  route : protocol ≠ .serial → n.route = m.route
  entryTime : protocol = .reservation → n.entryTime = m.entryTime
  crossingMs : protocol = .reservation → n.beacon.crossingMs = m.beacon.crossingMs

instance (protocol : Protocol) (n m : Neighbor) : Decidable (n.Alike protocol m) :=
  decidable_of_iff (n.id = m.id ∧ n.status = m.status ∧ (protocol ≠ .serial → n.route = m.route) ∧
      (protocol = .reservation → n.entryTime = m.entryTime) ∧
      (protocol = .reservation → n.beacon.crossingMs = m.beacon.crossingMs))
    ⟨fun h => ⟨h.1, h.2.1, h.2.2.1, h.2.2.2.1, h.2.2.2.2⟩,
      fun h => ⟨h.id, h.status, h.route, h.entryTime, h.crossingMs⟩⟩

/-- The same peers are inside or wait, and the rule of a protocol has no use for other
    differences. -/
structure Snapshot.Agree (protocol : Protocol) (s t : Snapshot) : Prop where
  known : ∀ n ∈ s.neighbors, n.Competes → ∃ m ∈ t.neighbors, n.Alike protocol m
  nobodyElse : ∀ m ∈ t.neighbors, m.Competes → ∃ n ∈ s.neighbors, n.Alike protocol m

namespace Neighbor

/-- A peer with all that the rule of a protocol does not read wiped out. -/
def blurred (protocol : Protocol) (n : Neighbor) : Neighbor where
  id := n.id
  beacon := {
    sender := n.id
    protocol
    status := n.status
    route := if protocol = .serial then ⟨⟨""⟩, ⟨""⟩⟩ else n.route
    sequence := 0
    entryTime := if protocol = .reservation then n.entryTime else none
    crossingMs := if protocol = .reservation then n.beacon.crossingMs else none }
  lastReceipt := .zero

variable {protocol : Protocol} {n m : Neighbor}

@[simp]
theorem status_blurred : (n.blurred protocol).status = n.status := rfl

theorem route_blurred (reads : protocol ≠ .serial) : (n.blurred protocol).route = n.route :=
  if_neg reads

@[simp]
theorem entryTime_blurred : (n.blurred .reservation).entryTime = n.entryTime := rfl

@[simp]
theorem exitTime_blurred : (n.blurred .reservation).exitTime = n.exitTime := rfl

theorem Alike.blurred_eq (alike : n.Alike protocol m) :
    n.blurred protocol = m.blurred protocol := by
  obtain ⟨id, status, route, entryTime, crossingMs⟩ := alike
  simp only [blurred, id, status, Neighbor.mk.injEq, Beacon.mk.injEq, true_and, and_true]
  refine ⟨?_, ?_, ?_⟩
  · split
    · rfl
    · next reads => exact route reads
  · split
    · next reads => exact entryTime reads
    · rfl
  · split
    · next reads => exact crossingMs reads
    · rfl

end Neighbor

namespace Snapshot

/-- Only the peers that are inside or wait, blurred. -/
def blurred (protocol : Protocol) (s : Snapshot) : Snapshot :=
  ⟨(s.neighbors.filter Neighbor.Competes).map (Neighbor.blurred protocol)⟩

variable {protocol : Protocol} {s t : Snapshot}

theorem withStatus_blurred {status : Status}
    (competes : status = .crossing ∨ status = .requesting) :
    (s.blurred protocol).withStatus status =
      (s.withStatus status).map (Neighbor.blurred protocol) := by
  simp only [withStatus, blurred, List.filter_map, List.filter_filter, Function.comp_def,
    Neighbor.status_blurred]
  congr 1
  apply List.filter_congr
  intro n _
  by_cases same : n.status = status
  · simp [same, Neighbor.Competes, competes]
  · simp [same]

@[simp]
theorem crossing_blurred :
    (s.blurred protocol).crossing = s.crossing.map (Neighbor.blurred protocol) :=
  withStatus_blurred (Or.inl rfl)

@[simp]
theorem requesting_blurred :
    (s.blurred protocol).requesting = s.requesting.map (Neighbor.blurred protocol) :=
  withStatus_blurred (Or.inr rfl)

theorem mem_blurred {n : Neighbor} :
    n ∈ (s.blurred protocol).neighbors ↔
      ∃ m ∈ s.neighbors, m.Competes ∧ m.blurred protocol = n := by
  simp [blurred, and_assoc]

theorem ascending_blurred (ascending : Roster.Ascending Neighbor.id s.neighbors) :
    Roster.Ascending Neighbor.id (s.blurred protocol).neighbors :=
  (ascending.filter _).map fun _ => rfl

theorem Agree.blurred_eq (agree : s.Agree protocol t)
    (ascending : Roster.Ascending Neighbor.id s.neighbors)
    (ascending' : Roster.Ascending Neighbor.id t.neighbors) :
    s.blurred protocol = t.blurred protocol := by
  have irreflexive : Std.Irrefl fun n m : Neighbor => n.id < m.id :=
    ⟨fun n => Nat.lt_irrefl n.id.toNat⟩
  have antisymmetric : Std.Antisymm fun n m : Neighbor => n.id < m.id :=
    ⟨fun n m before behind => absurd (Nat.lt_trans before behind) (Nat.lt_irrefl n.id.toNat)⟩
  have same : (s.blurred protocol).neighbors = (t.blurred protocol).neighbors := by
    refine (ascending_blurred ascending).eq_of_mem_iff (ascending_blurred ascending') fun n => ?_
    simp only [mem_blurred]
    constructor
    · rintro ⟨m, seen, competes, rfl⟩
      obtain ⟨k, listed, alike⟩ := agree.known m seen competes
      have competes' : k.Competes := by rwa [Neighbor.Competes, ← alike.status]
      exact ⟨k, listed, competes', alike.blurred_eq.symm⟩
    · rintro ⟨m, seen, competes, rfl⟩
      obtain ⟨k, listed, alike⟩ := agree.nobodyElse m seen competes
      have competes' : k.Competes := by rwa [Neighbor.Competes, alike.status]
      exact ⟨k, listed, competes', alike.blurred_eq⟩
  exact congrArg Snapshot.mk same

end Snapshot

namespace SlotChoice

theorem earliest_map {f : Neighbor → Neighbor} (keeps : ∀ n, (f n).entryTime = n.entryTime)
    (candidates : List Neighbor) :
    earliest (candidates.map f) = (earliest candidates).map f := by
  induction candidates with
  | nil => rfl
  | cons n rest ih =>
      simp only [List.map_cons, earliest, ih]
      cases earliest rest with
      | none => rfl
      | some m =>
          simp only [Option.map_some, keeps]
          split <;> rfl

theorem select_map {f : Neighbor → Neighbor} (keeps : ∀ n, (f n).entryTime = n.entryTime)
    (choice : SlotChoice) (candidates : List Neighbor) :
    choice.select (candidates.map f) = (choice.select candidates).map f := by
  cases choice with
  | firstFit => exact List.head?_map
  | earliestEntry => exact earliest_map keeps candidates

end SlotChoice

namespace Evaluation

/-- The question of a vehicle that knows of its peers no more than the rule of a protocol reads. -/
def blurred (protocol : Protocol) (e : Evaluation) : Evaluation :=
  { e with neighbors := e.neighbors.blurred protocol }

variable {protocol : Protocol} {conflicts : ConflictTest} {p : Precedence} {e : Evaluation}

@[simp]
theorem neighbors_blurred : (e.blurred protocol).neighbors = e.neighbors.blurred protocol := rfl

@[simp]
theorem now_blurred : (e.blurred protocol).now = e.now := rfl

@[simp]
theorem outranking_blurred :
    (e.blurred protocol).outranking p = (e.outranking p).map (Neighbor.blurred protocol) := by
  simp only [outranking, neighbors_blurred, Snapshot.requesting_blurred, List.filter_map]
  rfl

theorem clashes_blurred (reads : protocol ≠ .serial) (n : Neighbor) :
    (e.blurred protocol).clashes conflicts (n.blurred protocol) = e.clashes conflicts n :=
  congrArg (conflicts e.route) (Neighbor.route_blurred reads)

theorem filter_clashes_blurred (reads : protocol ≠ .serial) (neighbors : List Neighbor) :
    (neighbors.map (Neighbor.blurred protocol)).filter ((e.blurred protocol).clashes conflicts) =
      (neighbors.filter (e.clashes conflicts)).map (Neighbor.blurred protocol) := by
  rw [List.filter_map, Function.comp_def]
  simp only [clashes_blurred reads]

theorem any_clashes_blurred (reads : protocol ≠ .serial) (neighbors : List Neighbor) :
    (neighbors.map (Neighbor.blurred protocol)).any ((e.blurred protocol).clashes conflicts) =
      neighbors.any (e.clashes conflicts) := by
  rw [List.any_map, Function.comp_def]
  simp only [clashes_blurred reads]

theorem published_blurred :
    (e.blurred .reservation).published p =
      (e.published p).map (Neighbor.blurred .reservation) := by
  simp only [published, outranking_blurred, List.filter_map, Function.comp_def,
    Neighbor.entryTime_blurred]

theorem shareable_blurred :
    (e.blurred .reservation).shareable conflicts p =
      (e.shareable conflicts p).map (Neighbor.blurred .reservation) := by
  simp only [shareable, published_blurred, List.filter_map, Function.comp_def,
    clashes_blurred Protocol.reservation_ne_serial]

theorem slotBy_blurred (choice : SlotChoice) :
    (e.blurred .reservation).slotBy conflicts choice.select p =
      e.slotBy conflicts choice.select p := by
  simp only [slotBy, shareable_blurred, published_blurred,
    SlotChoice.select_map (fun _ => Neighbor.entryTime_blurred), List.filterMap_map,
    Function.comp_def, Neighbor.exitTime_blurred]
  cases choice.select (e.shareable conflicts p) <;> rfl

end Evaluation

namespace RightOfWay

variable {protocol : Protocol} {conflicts : ConflictTest} {p : Precedence} {e : Evaluation}

theorem comesFirst_blurred : comesFirst p (e.blurred protocol) = comesFirst p e := by
  simp [comesFirst]

theorem join_blurred (reads : protocol ≠ .serial) (refusal : Clearance) :
    join conflicts p refusal (e.blurred protocol) = join conflicts p refusal e := by
  simp only [join, Evaluation.neighbors_blurred, Snapshot.crossing_blurred,
    Evaluation.outranking_blurred, Evaluation.any_clashes_blurred reads, List.isEmpty_map,
    Evaluation.now_blurred]

theorem serial_blurred : (serial p).answer (e.blurred protocol) = (serial p).answer e := by
  simp only [serial, comesFirst_blurred]

theorem parallel_blurred (reads : protocol ≠ .serial) :
    (parallel conflicts (serial p)).answer (e.blurred protocol) =
      (parallel conflicts (serial p)).answer e := by
  simp only [parallel, serial_blurred, join_blurred reads]

theorem exits?_blurred (neighbors : List Neighbor) :
    exits? (neighbors.map (Neighbor.blurred .reservation)) = exits? neighbors := by
  induction neighbors with
  | nil => rfl
  | cons n rest ih => simp only [List.map_cons, exits?_cons, Neighbor.exitTime_blurred, ih]

theorem joinAt_blurred (t : Timestamp) :
    joinAt conflicts p (e.blurred .reservation) t = joinAt conflicts p e t := by
  simp only [joinAt, Evaluation.outranking_blurred,
    Evaluation.filter_clashes_blurred Protocol.reservation_ne_serial, exits?_blurred]

theorem queue_blurred (choice : SlotChoice) (bound : Option Timestamp) :
    queue conflicts choice.select p (e.blurred .reservation) bound =
      queue conflicts choice.select p e bound := by
  have own : ∀ f : Evaluation, queue conflicts choice.select p f bound =
      queue conflicts choice.select p (f.askedAt f.now) bound := fun _ => rfl
  rw [own, own e, queue_askedAt, queue_askedAt]
  simp only [Evaluation.outranking_blurred, Evaluation.published_blurred,
    Evaluation.slotBy_blurred, List.isEmpty_map, List.any_map, Function.comp_def,
    Evaluation.filter_clashes_blurred Protocol.reservation_ne_serial, List.filterMap_map,
    Evaluation.clashes_blurred Protocol.reservation_ne_serial, Neighbor.entryTime_blurred,
    Neighbor.exitTime_blurred, Evaluation.now_blurred]

theorem reserve_blurred (choice : SlotChoice) :
    reserve conflicts choice.select p (e.blurred .reservation) =
      reserve conflicts choice.select p e := by
  simp only [reserve, Evaluation.neighbors_blurred, Snapshot.crossing_blurred,
    Evaluation.filter_clashes_blurred Protocol.reservation_ne_serial, exits?_blurred,
    List.find?_map, Function.comp_def, Evaluation.clashes_blurred Protocol.reservation_ne_serial,
    queue_blurred, joinAt_blurred]
  cases exits? (e.neighbors.crossing.filter (e.clashes conflicts)) with
  | none => rfl
  | some exits =>
      dsimp only
      cases e.neighbors.crossing.find? fun n => !e.clashes conflicts n with
      | none => rfl
      | some host => cases exits.max? <;> rfl

theorem reservation_blurred (choice : SlotChoice) :
    (reservation conflicts choice.select (parallel conflicts (serial p))).answer
        (e.blurred .reservation) =
      (reservation conflicts choice.select (parallel conflicts (serial p))).answer e := by
  simp only [reservation_answer, comesFirst_blurred, reserve_blurred, Evaluation.now_blurred]

/-- A vehicle is answered as if it knew no more than the rule reads. -/
theorem policyFor_blurred (protocol : Protocol) (conflicts : ConflictTest) (options : Options)
    (e : Evaluation) :
    (policyFor protocol conflicts options).answer (e.blurred protocol) =
      (policyFor protocol conflicts options).answer e := by
  cases protocol with
  | serial => exact serial_blurred
  | parallel => exact parallel_blurred nofun
  | reservation => exact reservation_blurred options.slots

/-- Whichever routes conflict and whatever the options: a vehicle that knows of the same peers that
    they are inside or wait gets the same answer, whatever else it knows of these and of others. To
    the serial rule peers are the same by who they are and by their status, to the parallel rule by
    their route as well, and to the reserving rule also by when they enter and how long they
    stay. -/
theorem answer_eq_of_agree (protocol : Protocol) (conflicts : ConflictTest) (options : Options)
    (e : Evaluation) {known : Snapshot}
    (ascending : Roster.Ascending Neighbor.id e.neighbors.neighbors)
    (ascending' : Roster.Ascending Neighbor.id known.neighbors)
    (agree : e.neighbors.Agree protocol known) :
    (policyFor protocol conflicts options).answer { e with neighbors := known } =
      (policyFor protocol conflicts options).answer e := by
  have same : ({ e with neighbors := known } : Evaluation).blurred protocol =
      e.blurred protocol := by
    simp only [Evaluation.blurred, agree.blurred_eq ascending ascending']
  rw [← policyFor_blurred, same, policyFor_blurred]

/-- The two peers of `towardsTwo` as somebody else has heard them, and two more that are not inside
    and do not wait. -/
def heardElsewhere : Snapshot := .ofList [
  ⟨⟨250⟩, { Beacon.idle ⟨250⟩ .reservation ⟨⟨"S"⟩, ⟨"W"⟩⟩ with status := .exiting }, .zero⟩,
  ⟨⟨9⟩, ⟨⟨9⟩, .serial, .requesting, ⟨⟨"E"⟩, ⟨"W"⟩⟩, 7, some (.wrapping 3100), some 4000⟩,
    .wrapping 90⟩,
  ⟨⟨8⟩, ⟨⟨8⟩, .reservation, .requesting, ⟨⟨"N"⟩, ⟨"S"⟩⟩, 12, some (.wrapping 3000), some 4000⟩,
    .wrapping 60⟩,
  ⟨⟨2⟩, Beacon.idle ⟨2⟩ .parallel ⟨⟨"W"⟩, ⟨"E"⟩⟩, .wrapping 10⟩]

theorem answer_eq_of_agree_heardElsewhere :
    Roster.Ascending Neighbor.id towardsTwo.neighbors.neighbors ∧
      Roster.Ascending Neighbor.id heardElsewhere.neighbors ∧
      towardsTwo.neighbors.Agree .reservation heardElsewhere ∧
      (policyFor .reservation Topology.fourWay.conflicts ⟨.higherFirst, .firstFit⟩).answer
        towardsTwo = .startingAt (.wrapping 7100) ∧
      (policyFor .reservation Topology.fourWay.conflicts ⟨.higherFirst, .firstFit⟩).answer
          { towardsTwo with neighbors := heardElsewhere } =
        (policyFor .reservation Topology.fourWay.conflicts ⟨.higherFirst, .firstFit⟩).answer
          towardsTwo := by
  have ascending : Roster.Ascending Neighbor.id towardsTwo.neighbors.neighbors :=
    Roster.ascending_ofList _ _
  have ascending' : Roster.Ascending Neighbor.id heardElsewhere.neighbors :=
    Roster.ascending_ofList _ _
  have agree : towardsTwo.neighbors.Agree .reservation heardElsewhere :=
    ⟨by decide, by decide⟩
  refine ⟨ascending, ascending', agree, by decide +kernel, ?_⟩
  exact answer_eq_of_agree .reservation Topology.fourWay.conflicts ⟨.higherFirst, .firstFit⟩
    towardsTwo ascending ascending' agree

end RightOfWay

end Junction
