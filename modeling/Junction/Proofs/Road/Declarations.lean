import Junction.Road.Topology
import Mathlib.Data.Prod.Lex
import Mathlib.Data.String.Basic
import Mathlib.Data.Sym.Sym2

/-! # What a conflict table says

A topology keeps every pair of routes once. So it does not matter how often, in which order and
which way round the pairs are declared: two routes conflict if they are the same or their pair was
declared, and what is counted are the unordered pairs of distinct routes that were declared.
-/

namespace Junction

namespace Declaration

variable {steps : List Declaration} {a b : Route}

def conflict? : Declaration → Option (Route × Route)
  | .conflict a b => some (a, b)
  | .lane _ => none
  | .lanes _ => none

def added : Declaration → List Lane
  | .lane l => [l]
  | .lanes ls => ls
  | .conflict _ _ => []

/-- The unordered pairs of distinct routes that are declared to conflict. -/
def pairs (steps : List Declaration) : Finset (Sym2 Route) :=
  ((steps.filterMap conflict?).map fun pair => s(pair.1, pair.2)).toFinset.filter
    fun pair => ¬pair.IsDiag

/-- The declared pairs, each of them both ways round. -/
def table (steps : List Declaration) : Finset (Route × Route) :=
  (steps.filterMap conflict? ++ (steps.filterMap conflict?).map Prod.swap).toFinset

theorem mem_conflicts : (a, b) ∈ steps.filterMap conflict? ↔ .conflict a b ∈ steps := by
  rw [List.mem_filterMap]
  constructor
  · rintro ⟨step, member, said⟩
    cases step with
    | conflict c d =>
        obtain ⟨rfl, rfl⟩ := Prod.mk.inj (Option.some.inj said)
        exact member
    | lane => cases said
    | lanes => cases said
  · intro member
    exact ⟨_, member, rfl⟩

theorem mem_pairs :
    s(a, b) ∈ pairs steps ↔ a ≠ b ∧ (.conflict a b ∈ steps ∨ .conflict b a ∈ steps) := by
  simp only [pairs, Finset.mem_filter, List.mem_toFinset, List.mem_map, Prod.exists, mem_conflicts,
    Sym2.eq_iff, Sym2.mk_isDiag_iff]
  grind

theorem mem_table : (a, b) ∈ table steps ↔ .conflict a b ∈ steps ∨ .conflict b a ∈ steps := by
  have swapped : (a, b) ∈ (steps.filterMap conflict?).map Prod.swap ↔ .conflict b a ∈ steps := by
    rw [← mem_conflicts, ← Prod.swap_prod_mk, List.mem_map_of_injective Prod.swap_injective]
  rw [table, List.mem_toFinset, List.mem_append, mem_conflicts, swapped]

end Declaration

namespace Plan

variable {name : String} {steps : List Declaration}

theorem conflicts_foldl_declare (plan : Plan) :
    (steps.foldl declare plan).conflicts =
      plan.conflicts ++ steps.filterMap Declaration.conflict? := by
  induction steps generalizing plan with
  | nil => simp
  | cons step rest ih => cases step <;> simp [ih, declare, Declaration.conflict?, List.filterMap_cons]

theorem lanes_foldl_declare (plan : Plan) :
    (steps.foldl declare plan).lanes = plan.lanes ++ steps.flatMap Declaration.added := by
  induction steps generalizing plan with
  | nil => simp
  | cons step rest ih => cases step <;> simp [ih, declare, Declaration.added]

theorem conflicts_ofDeclarations :
    (ofDeclarations name steps).conflicts = steps.filterMap Declaration.conflict? :=
  conflicts_foldl_declare (empty name)

theorem lanes_ofDeclarations :
    (ofDeclarations name steps).lanes = steps.flatMap Declaration.added :=
  lanes_foldl_declare (empty name)

/-- All lanes that the conflicts name are declared. -/
def Closed (plan : Plan) : Prop := ∀ pair ∈ plan.conflicts, ∀ l ∈ lanesOf pair, l ∈ plan.lanes

theorem unknownLane?_eq_none_iff {plan : Plan} : plan.unknownLane? = none ↔ plan.Closed := by
  simp only [unknownLane?, Closed, List.find?_eq_none, List.mem_flatMap, Bool.not_eq_true',
    Bool.not_eq_false, List.contains_iff_mem]
  constructor
  · intro all pair member l inside
    exact all l ⟨pair, member, inside⟩
  · rintro all l ⟨pair, member, inside⟩
    exact all pair member l inside

theorem build_eq_ok_iff {plan : Plan} {t : Topology} :
    plan.build = .ok t ↔ t = plan.topology ∧ plan.Closed := by
  rw [← unknownLane?_eq_none_iff, build]
  cases plan.unknownLane? <;> simp [eq_comm]

/-- A topology is built exactly if every lane of a conflict is declared, before it or after it. -/
theorem build_ofDeclarations_iff {t : Topology} :
    (ofDeclarations name steps).build = .ok t ↔
      t = (ofDeclarations name steps).topology ∧
        ∀ a b, .conflict a b ∈ steps → ∀ lane ∈ lanesOf (a, b), ∃ step ∈ steps,
          lane ∈ step.added := by
  simp only [build_eq_ok_iff, Closed, conflicts_ofDeclarations, lanes_ofDeclarations,
    List.mem_flatMap, Prod.forall, Declaration.mem_conflicts]

end Plan

namespace Topology

variable {list start : List (Route × Route)} {a b : Route}

/-- The pairs of a list, whichever route they name first. -/
def unordered (list : List (Route × Route)) : List (Sym2 Route) :=
  list.map fun pair => s(pair.1, pair.2)

theorem joins_iff {pair : Route × Route} :
    joins a b pair = true ↔ s(pair.1, pair.2) = s(a, b) := by
  simp only [joins, Bool.or_eq_true, Bool.and_eq_true, beq_iff_eq, Sym2.eq_iff]

theorem any_joins_iff : list.any (joins a b) = true ↔ s(a, b) ∈ unordered list := by
  simp only [unordered, List.any_eq_true, joins_iff, List.mem_map]

theorem unordered_insertPair (pair : Route × Route) :
    unordered (insertPair list pair) =
      if s(pair.1, pair.2).IsDiag ∨ s(pair.1, pair.2) ∈ unordered list then unordered list
      else unordered list ++ [s(pair.1, pair.2)] := by
  simp only [insertPair, any_joins_iff, Sym2.mk_isDiag_iff]
  split
  · rfl
  · simp [unordered]

theorem mem_insertPair {pair : Route × Route} {z : Sym2 Route} :
    z ∈ unordered (insertPair list pair) ↔
      z ∈ unordered list ∨ z = s(pair.1, pair.2) ∧ ¬z.IsDiag := by
  rw [unordered_insertPair]
  split
  · next known =>
    constructor
    · exact Or.inl
    · rintro (old | ⟨rfl, distinct⟩)
      · exact old
      · exact known.resolve_left distinct
  · next fresh =>
    rw [not_or] at fresh
    rw [List.mem_append, List.mem_singleton]
    constructor
    · rintro (old | rfl)
      · exact Or.inl old
      · exact Or.inr ⟨rfl, fresh.1⟩
    · rintro (old | ⟨same, -⟩)
      · exact Or.inl old
      · exact Or.inr same

theorem nodup_foldl_insertPair (single : (unordered start).Nodup) :
    (unordered (list.foldl insertPair start)).Nodup := by
  induction list generalizing start with
  | nil => exact single
  | cons pair rest ih =>
      apply ih
      rw [unordered_insertPair]
      split
      · exact single
      · next fresh =>
        rw [not_or] at fresh
        rw [← List.concat_eq_append]
        exact single.concat fresh.2

theorem mem_foldl_insertPair {z : Sym2 Route} :
    z ∈ unordered (list.foldl insertPair start) ↔
      z ∈ unordered start ∨ z ∈ unordered list ∧ ¬z.IsDiag := by
  induction list generalizing start with
  | nil => simp [unordered]
  | cons pair rest ih =>
      rw [List.foldl_cons, ih, mem_insertPair, or_assoc, ← or_and_right, ← List.mem_cons]
      rfl

theorem conflicts_iff {t : Topology} :
    t.conflicts a b = true ↔ a = b ∨ s(a, b) ∈ unordered t.pairs := by
  rw [conflicts, Bool.or_eq_true, beq_iff_eq, any_joins_iff]

theorem nodup_pairs_topology (plan : Plan) : (unordered plan.topology.pairs).Nodup :=
  nodup_foldl_insertPair List.nodup_nil

theorem mem_unordered_pairs_topology {plan : Plan} :
    s(a, b) ∈ unordered plan.topology.pairs ↔
      a ≠ b ∧ ((a, b) ∈ plan.conflicts ∨ (b, a) ∈ plan.conflicts) := by
  simp only [Plan.topology, mem_foldl_insertPair, Sym2.mk_isDiag_iff]
  simp only [unordered, List.map_nil, List.not_mem_nil, false_or, List.mem_map, Prod.exists,
    Sym2.eq_iff]
  grind

theorem conflicts_topology_iff {plan : Plan} :
    plan.topology.conflicts a b = true ↔
      a = b ∨ (a, b) ∈ plan.conflicts ∨ (b, a) ∈ plan.conflicts := by
  rw [conflicts_iff, mem_unordered_pairs_topology]
  tauto

variable {name : String} {steps : List Declaration}

theorem toFinset_pairs_ofDeclarations :
    (unordered (Plan.ofDeclarations name steps).topology.pairs).toFinset =
      Declaration.pairs steps := by
  ext z
  simp only [Plan.topology, Plan.conflicts_ofDeclarations, List.mem_toFinset,
    mem_foldl_insertPair, Declaration.pairs, Finset.mem_filter]
  simp [unordered]

theorem conflicts_ofDeclarations_iff :
    (Plan.ofDeclarations name steps).topology.conflicts a b = true ↔
      a = b ∨ .conflict a b ∈ steps ∨ .conflict b a ∈ steps := by
  rw [conflicts_topology_iff, Plan.conflicts_ofDeclarations, Declaration.mem_conflicts,
    Declaration.mem_conflicts]

theorem conflictCount_ofDeclarations :
    (Plan.ofDeclarations name steps).topology.conflictCount = (Declaration.pairs steps).card := by
  have distinct := List.toFinset_card_of_nodup
    (nodup_pairs_topology (Plan.ofDeclarations name steps))
  rw [toFinset_pairs_ofDeclarations, unordered, List.length_map] at distinct
  exact distinct.symm

end Topology

namespace Route

/-- Routes are in the order of the lanes by which they come in, and then of those by which they
    leave. -/
def rank (r : Route) : String ×ₗ String := toLex (r.entry.name, r.exit.name)

theorem rank_injective : Function.Injective rank := by
  rintro ⟨⟨entry⟩, ⟨exit⟩⟩ ⟨⟨entry'⟩, ⟨exit'⟩⟩ same
  obtain ⟨rfl, rfl⟩ := Prod.mk.inj (toLex.injective same)
  rfl

end Route

theorem Declaration.card_ordered (steps : List Declaration) :
    ((table steps).filter fun pair => pair.1.rank < pair.2.rank).card = (pairs steps).card := by
  have once : Set.InjOn (fun pair : Route × Route => s(pair.1, pair.2))
      ((table steps).filter fun pair => pair.1.rank < pair.2.rank) := by
    rintro ⟨a, b⟩ first ⟨c, d⟩ second same
    simp only [Finset.coe_filter, Set.mem_ofPred_eq] at first second
    rcases Sym2.eq_iff.mp same with ⟨rfl, rfl⟩ | ⟨rfl, rfl⟩
    · rfl
    · exact absurd second.2 (lt_asymm first.2)
  rw [← Finset.card_image_of_injOn once]
  congr 1
  ext ⟨a, b⟩
  simp only [Finset.mem_image, Finset.mem_filter, Prod.exists, mem_table, mem_pairs, Sym2.eq_iff]
  constructor
  · rintro ⟨c, d, ⟨declared, before⟩, ⟨rfl, rfl⟩ | ⟨rfl, rfl⟩⟩
    · exact ⟨fun same => lt_irrefl _ (same ▸ before), declared⟩
    · exact ⟨fun same => lt_irrefl _ (same ▸ before), declared.symm⟩
  · rintro ⟨distinct, declared⟩
    rcases lt_or_gt_of_ne (Route.rank_injective.ne distinct) with before | before
    · exact ⟨a, b, ⟨declared, before⟩, Or.inl ⟨rfl, rfl⟩⟩
    · exact ⟨b, a, ⟨declared.symm, before⟩, Or.inr ⟨rfl, rfl⟩⟩

namespace Topology

variable {name other : String} {steps again : List Declaration} {t : Topology}

/-- The same declarations, in another order or made more often, say the same. -/
theorem build_of_same_declarations (built : (Plan.ofDeclarations name steps).build = .ok t)
    (same : ∀ step, step ∈ again ↔ step ∈ steps) :
    ∃ t', (Plan.ofDeclarations other again).build = .ok t' ∧ t'.conflicts = t.conflicts ∧
      t'.conflictCount = t.conflictCount := by
  obtain ⟨rfl, known⟩ := Plan.build_ofDeclarations_iff.mp built
  refine ⟨(Plan.ofDeclarations other again).topology, ?_, ?_, ?_⟩
  · rw [Plan.build_ofDeclarations_iff]
    refine ⟨rfl, ?_⟩
    intro a b declared lane inside
    obtain ⟨step, member, added⟩ := known a b ((same _).mp declared) lane inside
    exact ⟨step, (same step).mpr member, added⟩
  · funext a b
    rw [Bool.eq_iff_iff, conflicts_ofDeclarations_iff, conflicts_ofDeclarations_iff, same, same]
  · have pairs : Declaration.pairs again = Declaration.pairs steps := by
      ext ⟨a, b⟩
      rw [Declaration.mem_pairs, Declaration.mem_pairs, same, same]
    rw [conflictCount_ofDeclarations, conflictCount_ofDeclarations, pairs]

/-- Whatever was declared in whatever order: a topology that was built lets two routes conflict if
    they are the same or if their pair was declared one way round or the other, and it counts the
    unordered pairs of distinct routes that were declared, as does who looks in the table of both
    orders for those in which the first route ranks first. -/
theorem conflicts_iff_declared (built : (Plan.ofDeclarations name steps).build = .ok t) :
    (∀ a b, t.conflicts a b = true ↔ a = b ∨ .conflict a b ∈ steps ∨ .conflict b a ∈ steps) ∧
    (∀ a b, t.conflicts a b = t.conflicts b a) ∧ (∀ a, t.conflicts a a = true) ∧
    (∀ a b : Route, t.conflictsLanes a.entry a.exit b.entry b.exit = t.conflicts a b) ∧
    t.conflictCount = (Declaration.pairs steps).card ∧
    t.conflictCount =
      ((Declaration.table steps).filter fun pair => pair.1.rank < pair.2.rank).card ∧
    ∀ (other : String) (again : List Declaration), (∀ step, step ∈ again ↔ step ∈ steps) →
      ∃ t', (Plan.ofDeclarations other again).build = .ok t' ∧ t'.conflicts = t.conflicts ∧
        t'.conflictCount = t.conflictCount := by
  obtain ⟨rfl, -⟩ := Plan.build_ofDeclarations_iff.mp built
  refine ⟨fun a b => conflicts_ofDeclarations_iff, conflicts_comm _, conflicts_self _,
    fun a b => rfl, conflictCount_ofDeclarations, ?_, ?_⟩
  · rw [Declaration.card_ordered, conflictCount_ofDeclarations]
  · intro other again same
    exact build_of_same_declarations built same

/-- One pair of roads that cross, declared both ways round and before its lanes, and a route that is
    said to conflict with itself. -/
def crossroads : List Declaration :=
  [.conflict ⟨⟨"N"⟩, ⟨"S"⟩⟩ ⟨⟨"E"⟩, ⟨"W"⟩⟩, .lanes [⟨"W"⟩, ⟨"S"⟩, ⟨"E"⟩],
    .conflict ⟨⟨"E"⟩, ⟨"W"⟩⟩ ⟨⟨"N"⟩, ⟨"S"⟩⟩, .lane ⟨"N"⟩, .conflict ⟨⟨"S"⟩, ⟨"N"⟩⟩ ⟨⟨"S"⟩, ⟨"N"⟩⟩,
    .lane ⟨"W"⟩]

theorem conflicts_iff_declared_crossroads :
    ∃ t, (Plan.ofDeclarations "crossroads" crossroads).build = .ok t ∧
      (∀ a b, t.conflicts a b = true ↔
        a = b ∨ .conflict a b ∈ crossroads ∨ .conflict b a ∈ crossroads) ∧
      t.conflictCount = 1 ∧ (Declaration.pairs crossroads).card = 1 ∧
      ∃ t', (Plan.ofDeclarations "again" (crossroads ++ crossroads.reverse)).build = .ok t' ∧
        t'.conflicts = t.conflicts ∧ t'.conflictCount = t.conflictCount := by
  have built : (Plan.ofDeclarations "crossroads" crossroads).build =
      .ok (Plan.ofDeclarations "crossroads" crossroads).topology := rfl
  obtain ⟨iff, -, -, -, counted, -, again⟩ := conflicts_iff_declared built
  have one : (Plan.ofDeclarations "crossroads" crossroads).topology.conflictCount = 1 := rfl
  exact ⟨_, built, iff, one, counted.symm.trans one, again "again" _ (by simp)⟩

end Topology

end Junction
