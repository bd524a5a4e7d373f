import Junction.Proofs.Road.Declarations

/-! # Which tables are accepted

A table is refused for a lane that it lists twice before its conflicts are looked at, and then for a
lane that a conflict names and the table does not list. What is reported is the first such lane in
the order of the table. A table that is not refused says what the same declarations say one by one,
where a lane may be declared twice, and may be declared after a conflict that names it.
-/

namespace Junction

namespace Plan

variable {plan : Plan} {lane : Lane} {seen list : List Lane}

/-- The lane is the first in the list of lanes that equals one before it. -/
def RepeatsFirst (plan : Plan) (lane : Lane) : Prop :=
  ∃ before behind, plan.lanes = before ++ lane :: behind ∧ before.Nodup ∧ lane ∈ before

/-- The lane is the first that the conflicts name, one conflict after the other and from the first
    lane of each to its fourth, without being listed. -/
def MissesFirst (plan : Plan) (lane : Lane) : Prop :=
  ∃ before pair behind, plan.conflicts = before ++ pair :: behind ∧
    (∀ earlier ∈ before, ∀ l ∈ lanesOf earlier, l ∈ plan.lanes) ∧
    ∃ named rest, lanesOf pair = named ++ lane :: rest ∧ (∀ l ∈ named, l ∈ plan.lanes) ∧
      lane ∉ plan.lanes

theorem firstRepeat?_eq_none_iff :
    firstRepeat? seen list = none ↔ list.Nodup ∧ ∀ l ∈ list, l ∉ seen := by
  induction list generalizing seen with
  | nil => simp [firstRepeat?]
  | cons l rest ih =>
      simp only [firstRepeat?, List.contains_iff_mem]
      split
      · next known => simp [known]
      · next fresh =>
        rw [ih]
        grind

theorem firstRepeat?_eq_some_iff :
    firstRepeat? seen list = some lane ↔
      ∃ before behind, list = before ++ lane :: behind ∧
        (before.Nodup ∧ ∀ l ∈ before, l ∉ seen) ∧ (lane ∈ seen ∨ lane ∈ before) := by
  induction list generalizing seen with
  | nil => simp [firstRepeat?]
  | cons l rest ih =>
      simp only [firstRepeat?, List.contains_iff_mem]
      split
      · next known =>
        constructor
        · rintro ⟨⟩
          exact ⟨[], rest, rfl, by simp, Or.inl known⟩
        · rintro ⟨before, behind, split, ⟨-, unseen⟩, -⟩
          cases before with
          | nil => exact congrArg some (List.cons.inj split).1
          | cons m before =>
              obtain ⟨rfl, -⟩ := List.cons.inj split
              exact absurd known (unseen _ List.mem_cons_self)
      · next fresh =>
        rw [ih]
        constructor
        · rintro ⟨before, behind, rfl, ⟨nodup, unseen⟩, repeated⟩
          refine ⟨l :: before, behind, rfl, ?_, ?_⟩ <;> grind
        · rintro ⟨before, behind, split, ⟨nodup, unseen⟩, repeated⟩
          cases before with
          | nil => grind
          | cons m before =>
              obtain ⟨rfl, rfl⟩ := List.cons.inj split
              refine ⟨before, behind, rfl, ?_, ?_⟩ <;> grind

theorem repeatedLane?_eq_none_iff : plan.repeatedLane? = none ↔ plan.lanes.Nodup := by
  simp [repeatedLane?, firstRepeat?_eq_none_iff]

theorem repeatedLane?_eq_some_iff : plan.repeatedLane? = some lane ↔ plan.RepeatsFirst lane := by
  simp [repeatedLane?, firstRepeat?_eq_some_iff, RepeatsFirst]

theorem unknownLane?_eq_some_iff : plan.unknownLane? = some lane ↔ plan.MissesFirst lane := by
  have first : ∀ pair, (lanesOf pair).find? (fun l => !plan.lanes.contains l) = some lane ↔
      ∃ named rest, lanesOf pair = named ++ lane :: rest ∧ (∀ l ∈ named, l ∈ plan.lanes) ∧
        lane ∉ plan.lanes := by
    intro pair
    simp only [List.find?_eq_some_iff_append, Bool.not_eq_true', Bool.not_not,
      List.contains_iff_mem, Bool.eq_false_iff, ne_eq]
    grind
  have listed : ∀ pair, (lanesOf pair).find? (fun l => !plan.lanes.contains l) = none ↔
      ∀ l ∈ lanesOf pair, l ∈ plan.lanes := by
    intro pair
    simp
  rw [unknownLane?, List.find?_flatMap, List.findSome?_eq_some_iff]
  simp only [first, listed, MissesFirst]
  constructor
  · rintro ⟨before, pair, behind, split, missed, closed⟩
    exact ⟨before, pair, behind, split, closed, missed⟩
  · rintro ⟨before, pair, behind, split, closed, missed⟩
    exact ⟨before, pair, behind, split, missed, closed⟩

theorem build_eq_error_iff {fault : TopologyFault} :
    plan.build = .error fault ↔ ∃ l, fault = .unknownLane l ∧ plan.MissesFirst l := by
  simp only [← unknownLane?_eq_some_iff, build]
  cases plan.unknownLane? <;> simp [eq_comm]

theorem buildTable_eq_ok_iff {t : Topology} :
    plan.buildTable = .ok t ↔ plan.lanes.Nodup ∧ plan.build = .ok t := by
  rw [← repeatedLane?_eq_none_iff, buildTable]
  cases plan.repeatedLane? <;> simp

theorem buildTable_eq_error_iff {fault : TopologyFault} :
    plan.buildTable = .error fault ↔
      (∃ l, fault = .duplicateLane l ∧ plan.RepeatsFirst l) ∨
        plan.lanes.Nodup ∧ ∃ l, fault = .unknownLane l ∧ plan.MissesFirst l := by
  simp only [← repeatedLane?_eq_none_iff, ← repeatedLane?_eq_some_iff, ← build_eq_error_iff,
    buildTable]
  cases plan.repeatedLane? <;> simp [eq_comm]

end Plan

namespace Topology

variable {lane : Lane} {list start : List Lane}

/-- Lanes in order of their names, each once. -/
def Listed (lanes : List Lane) : Prop := lanes.Pairwise fun a b => a.name < b.name

theorem mem_insertLane {l : Lane} : l ∈ insertLane lane list ↔ l = lane ∨ l ∈ list := by
  induction list with
  | nil => simp [insertLane]
  | cons m rest ih =>
      rw [insertLane]
      split
      · next same => simp [same]
      · split
        · simp
        · simp only [List.mem_cons, ih]
          tauto

theorem Listed.insertLane (listed : Listed list) : Listed (insertLane lane list) := by
  induction list with
  | nil => simp [Topology.insertLane, Listed]
  | cons m rest ih =>
      obtain ⟨first, others⟩ := List.pairwise_cons.mp listed
      rw [Topology.insertLane]
      split
      · exact listed
      · next other =>
        split
        · next before =>
          have before : lane.name < m.name := of_decide_eq_true before
          refine List.pairwise_cons.mpr ⟨?_, listed⟩
          intro l member
          rcases List.mem_cons.mp member with rfl | member
          · exact before
          · exact lt_trans before (first l member)
        · next after =>
          have differ : m.name ≠ lane.name := fun same => other (by cases lane; cases m; simp_all)
          have after : m.name < lane.name :=
            lt_of_le_of_ne (not_lt.mp fun before => after (decide_eq_true before)) differ
          refine List.pairwise_cons.mpr ⟨?_, ih others⟩
          intro l member
          rcases mem_insertLane.mp member with rfl | member
          · exact after
          · exact first l member

theorem mem_foldl_insertLane {l : Lane} :
    l ∈ list.foldl (fun lanes lane => insertLane lane lanes) start ↔ l ∈ list ∨ l ∈ start := by
  induction list generalizing start with
  | nil => simp
  | cons m rest ih =>
      rw [List.foldl_cons, ih, mem_insertLane, List.mem_cons]
      tauto

theorem Listed.foldl_insertLane (listed : Listed start) :
    Listed (list.foldl (fun lanes lane => Topology.insertLane lane lanes) start) := by
  induction list generalizing start with
  | nil => exact listed
  | cons m rest ih => exact ih listed.insertLane

theorem Listed.nodup (listed : Listed list) : list.Nodup :=
  List.Pairwise.imp (fun before same => absurd (same ▸ before) (lt_irrefl _)) listed

theorem Listed.eq_of_mem_iff (listed : Listed list) {others : List Lane} (again : Listed others)
    (same : ∀ l, l ∈ list ↔ l ∈ others) : list = others := by
  have perm : list.Perm others := (List.perm_ext_iff_of_nodup listed.nodup again.nodup).mpr same
  refine perm.eq_of_pairwise ?_ listed again
  intro a b _ _ before after
  exact absurd after (lt_asymm before)

theorem listed_topology (plan : Plan) : Listed plan.topology.lanes :=
  Listed.foldl_insertLane List.Pairwise.nil

theorem mem_lanes_topology {plan : Plan} : lane ∈ plan.topology.lanes ↔ lane ∈ plan.lanes := by
  simp [Plan.topology, mem_foldl_insertLane]

theorem perm_lanes_topology {plan : Plan} (once : plan.lanes.Nodup) :
    plan.topology.lanes.Perm plan.lanes :=
  (List.perm_ext_iff_of_nodup (listed_topology plan).nodup once).mpr fun _ => mem_lanes_topology

theorem conflicts_topology_congr {plan other : Plan}
    (same : ∀ pair, pair ∈ other.conflicts ↔ pair ∈ plan.conflicts) :
    other.topology.conflicts = plan.topology.conflicts ∧
      other.topology.conflictCount = plan.topology.conflictCount := by
  constructor
  · funext a b
    rw [Bool.eq_iff_iff, conflicts_topology_iff, conflicts_topology_iff, same, same]
  · have perm : (unordered other.topology.pairs).Perm (unordered plan.topology.pairs) := by
      refine (List.perm_ext_iff_of_nodup (nodup_pairs_topology other)
        (nodup_pairs_topology plan)).mpr ?_
      rintro ⟨a, b⟩
      change s(a, b) ∈ unordered other.topology.pairs ↔ s(a, b) ∈ unordered plan.topology.pairs
      rw [mem_unordered_pairs_topology, mem_unordered_pairs_topology, same, same]
    simpa [unordered, conflictCount] using perm.length_eq

end Topology

namespace Plan

variable {plan : Plan} {steps : List Declaration} {other : String}

/-- The steps declare what the table lists, in some order and each thing once or more often. -/
structure Declared (plan : Plan) (steps : List Declaration) : Prop where
  lanes : ∀ l, l ∈ plan.lanes ↔ ∃ step ∈ steps, l ∈ step.added
  conflicts : ∀ a b, (a, b) ∈ plan.conflicts ↔ .conflict a b ∈ steps

/-- A table as steps: the lanes at once, and then one conflict after the other. -/
def declarations (plan : Plan) : List Declaration :=
  .lanes plan.lanes :: plan.conflicts.map fun pair => .conflict pair.1 pair.2

theorem name_ofDeclarations : (ofDeclarations other steps).name = other := by
  have kept : ∀ start : Plan, (steps.foldl declare start).name = start.name := by
    induction steps with
    | nil => exact fun start => rfl
    | cons step rest ih =>
        intro start
        rw [List.foldl_cons, ih]
        cases step <;> rfl
  exact kept (empty other)

theorem declared_of_perm (perm : steps.Perm plan.declarations) : plan.Declared steps := by
  constructor
  · intro l
    simp [perm.mem_iff, declarations, Declaration.added]
  · intro a b
    simp [perm.mem_iff, declarations]

theorem Declared.build (declared : plan.Declared steps) (closed : plan.Closed) :
    ∃ t, (ofDeclarations other steps).build = .ok t ∧ t.name = other ∧
      t.lanes = plan.topology.lanes ∧ t.conflicts = plan.topology.conflicts ∧
      t.conflictCount = plan.topology.conflictCount := by
  have lanes : ∀ l, l ∈ (ofDeclarations other steps).lanes ↔ l ∈ plan.lanes := by
    intro l
    rw [lanes_ofDeclarations, List.mem_flatMap, declared.lanes]
  have conflicts : ∀ pair, pair ∈ (ofDeclarations other steps).conflicts ↔
      pair ∈ plan.conflicts := by
    rintro ⟨a, b⟩
    rw [conflicts_ofDeclarations, Declaration.mem_conflicts, declared.conflicts]
  have known : (ofDeclarations other steps).Closed := by
    intro pair member l inside
    exact (lanes l).mpr (closed pair ((conflicts pair).mp member) l inside)
  refine ⟨_, build_eq_ok_iff.mpr ⟨rfl, known⟩, name_ofDeclarations, ?_,
    Topology.conflicts_topology_congr conflicts⟩
  refine (Topology.listed_topology _).eq_of_mem_iff (Topology.listed_topology _) ?_
  intro l
  rw [Topology.mem_lanes_topology, Topology.mem_lanes_topology, lanes]

/-- A table is refused for a lane exactly if that lane is the first it lists a second time; if it
    lists none twice, it is refused for a lane exactly if that is the first its conflicts name
    without its being listed; and otherwise it is accepted. Then the topology has its name, its
    lanes in order and the conflicts it lists, and the same declarations made one by one, in any
    order, give the same lanes and the same conflicts. -/
theorem buildTable_refuses_first_fault (plan : Plan) :
    (∀ l, plan.buildTable = .error (.duplicateLane l) ↔ plan.RepeatsFirst l) ∧
    ((∃ l, plan.RepeatsFirst l) ↔ ¬plan.lanes.Nodup) ∧
    (∀ l, plan.buildTable = .error (.unknownLane l) ↔ plan.lanes.Nodup ∧ plan.MissesFirst l) ∧
    ((∃ l, plan.MissesFirst l) ↔ ∃ pair ∈ plan.conflicts, ∃ l ∈ lanesOf pair, l ∉ plan.lanes) ∧
    (∀ fault, plan.buildTable = .error fault →
      ∃ l, fault = .duplicateLane l ∨ fault = .unknownLane l) ∧
    ((∃ t, plan.buildTable = .ok t) ↔
      plan.lanes.Nodup ∧ ∀ pair ∈ plan.conflicts, ∀ l ∈ lanesOf pair, l ∈ plan.lanes) ∧
    ∀ t, plan.buildTable = .ok t →
      t.name = plan.name ∧ t.lanes.Perm plan.lanes ∧
      (t.lanes.Pairwise fun a b => a.name < b.name) ∧
      (∀ a b, t.conflicts a b = true ↔
        a = b ∨ (a, b) ∈ plan.conflicts ∨ (b, a) ∈ plan.conflicts) ∧
      ∀ other steps, plan.Declared steps →
        ∃ t', (ofDeclarations other steps).build = .ok t' ∧ t'.name = other ∧
          t'.lanes = t.lanes ∧ t'.conflicts = t.conflicts ∧ t'.conflictCount = t.conflictCount := by
  refine ⟨?_, ?_, ?_, ?_, ?_, ?_, ?_⟩
  · intro l
    simp [buildTable_eq_error_iff]
  · rw [← repeatedLane?_eq_none_iff]
    simp only [← repeatedLane?_eq_some_iff]
    exact Option.ne_none_iff_exists'.symm
  · intro l
    simp [buildTable_eq_error_iff]
  · simp only [← unknownLane?_eq_some_iff]
    rw [← Option.ne_none_iff_exists', Ne, unknownLane?_eq_none_iff, Closed]
    simp only [not_forall, exists_prop]
  · intro fault refused
    rcases buildTable_eq_error_iff.mp refused with ⟨l, rfl, -⟩ | ⟨-, l, rfl, -⟩
    · exact ⟨l, Or.inl rfl⟩
    · exact ⟨l, Or.inr rfl⟩
  · simp [buildTable_eq_ok_iff, build_eq_ok_iff, Closed]
  · intro t accepted
    obtain ⟨once, built⟩ := buildTable_eq_ok_iff.mp accepted
    obtain ⟨rfl, closed⟩ := build_eq_ok_iff.mp built
    exact ⟨rfl, Topology.perm_lanes_topology once, Topology.listed_topology plan,
      fun a b => Topology.conflicts_topology_iff, fun other steps declared => declared.build closed⟩

def crossing : Plan where
  name := "crossing"
  lanes := [⟨"W"⟩, ⟨"S"⟩, ⟨"E"⟩, ⟨"N"⟩]
  conflicts := [(⟨⟨"N"⟩, ⟨"S"⟩⟩, ⟨⟨"E"⟩, ⟨"W"⟩⟩)]

/-- The same with a lane left out and two listed again. -/
def misprinted : Plan :=
  { crossing with lanes := [⟨"W"⟩, ⟨"S"⟩, ⟨"E"⟩, ⟨"S"⟩, ⟨"W"⟩] }

theorem buildTable_refuses_first_fault_crossing :
    (∃ t, crossing.buildTable = .ok t ∧ t.lanes.Perm crossing.lanes ∧
      ∃ t', (ofDeclarations "again" crossing.declarations.reverse).build = .ok t' ∧
        t'.lanes = t.lanes ∧ t'.conflicts = t.conflicts ∧ t'.conflictCount = t.conflictCount) ∧
    misprinted.buildTable = .error (.duplicateLane ⟨"S"⟩) ∧
    ({ misprinted with lanes := misprinted.lanes.take 3 } : Plan).buildTable =
      .error (.unknownLane ⟨"N"⟩) := by
  refine ⟨?_, ?_, ?_⟩
  · obtain ⟨-, -, -, -, -, accepts, meaning⟩ := buildTable_refuses_first_fault crossing
    obtain ⟨t, accepted⟩ := accepts.mpr (by decide)
    obtain ⟨-, lanes, -, -, again⟩ := meaning t accepted
    obtain ⟨t', built, -, same⟩ :=
      again "again" _ (declared_of_perm (List.reverse_perm crossing.declarations))
    exact ⟨t, accepted, lanes, t', built, same⟩
  · refine ((buildTable_refuses_first_fault misprinted).1 _).mpr ?_
    exact ⟨[⟨"W"⟩, ⟨"S"⟩, ⟨"E"⟩], [⟨"W"⟩], rfl, by decide, by decide⟩
  · refine ((buildTable_refuses_first_fault _).2.2.1 _).mpr ⟨by decide, ?_⟩
    exact ⟨[], _, [], rfl, by decide, [], _, rfl, by decide, by decide⟩

end Plan

end Junction
