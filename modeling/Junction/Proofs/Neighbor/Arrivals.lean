import Junction.Proofs.Neighbor.Reception
import Junction.RightOfWay.Policy
import Mathlib.Data.List.Induction
import Mathlib.Data.List.Sort

/-! # What a table makes of many beacons

A beacon reads and writes the entry of its sender and no other. So what becomes of the beacons of
one peer, and what the table says of that peer in the end, depends on these beacons alone. It does
not matter how the beacons of different peers come in between one another.
-/

namespace Junction

structure Arrival where
  beacon : Beacon
  time : Timestamp
  deriving DecidableEq

namespace Arrival

def sender (a : Arrival) : VehicleId := a.beacon.sender

/-- What a beacon makes of the entry of its sender, and what becomes of the beacon. -/
def meets (a : Arrival) : Option Neighbor → Neighbor × Receipt
  | none => (⟨a.sender, a.beacon, a.time⟩, .inserted)
  | some known =>
    if NeighborTable.isLate known.beacon.sequence a.beacon.sequence then
      ({ known with lastReceipt := a.time }, .refreshed)
    else ({ known with beacon := a.beacon, lastReceipt := a.time }, .updated)

theorem id_meets {a : Arrival} {known? : Option Neighbor}
    (own : ∀ n, known? = some n → n.id = a.sender) : (a.meets known?).1.id = a.sender := by
  cases known? with
  | none => rfl
  | some known =>
      simp only [meets]
      split <;> exact own known rfl

end Arrival

/-- The beacons of one vehicle, in the order in which they came in. -/
def heardFrom (v : VehicleId) (arrivals : List Arrival) : List Arrival :=
  arrivals.filter fun a => a.sender = v

theorem heardFrom_append (v : VehicleId) (past rest : List Arrival) :
    heardFrom v (past ++ rest) = heardFrom v past ++ heardFrom v rest :=
  List.filter_append ..

theorem heardFrom_cons_self (a : Arrival) (rest : List Arrival) :
    heardFrom a.sender (a :: rest) = a :: heardFrom a.sender rest := by
  simp [heardFrom]

theorem heardFrom_cons_of_ne {v : VehicleId} {a : Arrival} (other : a.sender ≠ v)
    (rest : List Arrival) : heardFrom v (a :: rest) = heardFrom v rest := by
  simp [heardFrom, other]

theorem heardFrom_concat (past : List Arrival) (a : Arrival) :
    heardFrom a.sender (past ++ [a]) = heardFrom a.sender past ++ [a] := by
  rw [heardFrom_append, heardFrom_cons_self]
  rfl

theorem heardFrom_concat_of_ne {v : VehicleId} {a : Arrival} (other : a.sender ≠ v)
    (past : List Arrival) : heardFrom v (past ++ [a]) = heardFrom v past := by
  rw [heardFrom_append, heardFrom_cons_of_ne other]
  exact List.append_nil _

theorem heardFrom_of_early {past arrivals : List Arrival} (early : past <+: arrivals)
    (v : VehicleId) : heardFrom v past <+: heardFrom v arrivals :=
  early.filter _

namespace NeighborTable

def after (t : NeighborTable) (a : Arrival) : NeighborTable := (t.update a.beacon a.time).1

def receiptOf (t : NeighborTable) (a : Arrival) : Receipt := (t.update a.beacon a.time).2

def afterAll (t : NeighborTable) (arrivals : List Arrival) : NeighborTable :=
  arrivals.foldl after t

def receipts : NeighborTable → List Arrival → List (Arrival × Receipt)
  | _, [] => []
  | t, a :: rest => (a, t.receiptOf a) :: (t.after a).receipts rest

variable {t u : NeighborTable} {a : Arrival} {v : VehicleId}

theorem update_of_own (own : a.sender = t.owner) :
    t.update a.beacon a.time = (t, .ignoredSelf) :=
  if_pos own

theorem update_of_foreign (foreign : a.sender ≠ t.owner) :
    t.update a.beacon a.time =
      (t.put (a.meets (t.get? a.sender)).1, (a.meets (t.get? a.sender)).2) := by
  change a.beacon.sender ≠ t.owner at foreign
  rw [update, if_neg foreign, Arrival.sender]
  cases t.get? a.beacon.sender with
  | none => rfl
  | some known =>
      simp only [Arrival.meets]
      split <;> rfl

theorem after_of_own (own : a.sender = t.owner) : t.after a = t :=
  congrArg Prod.fst (update_of_own own)

theorem receiptOf_of_own (own : a.sender = t.owner) : t.receiptOf a = .ignoredSelf :=
  congrArg Prod.snd (update_of_own own)

theorem receiptOf_of_foreign (foreign : a.sender ≠ t.owner) :
    t.receiptOf a = (a.meets (t.get? a.sender)).2 :=
  congrArg Prod.snd (update_of_foreign foreign)

theorem get?_after_sender (foreign : a.sender ≠ t.owner) :
    (t.after a).get? a.sender = some (a.meets (t.get? a.sender)).1 := by
  have same : (a.meets (t.get? a.sender)).1.id = a.sender :=
    Arrival.id_meets fun n found => (mem_of_get? found).2
  rw [after, update_of_foreign foreign, get?_put, if_pos same]

theorem get?_after_of_ne (other : a.sender ≠ v) : (t.after a).get? v = t.get? v :=
  t.get?_update_of_ne other.symm a.time

@[simp]
theorem owner_after (t : NeighborTable) (a : Arrival) : (t.after a).owner = t.owner :=
  t.owner_update a.beacon a.time

theorem ascending_after (ordered : Roster.Ascending Neighbor.id t.entries) (a : Arrival) :
    Roster.Ascending Neighbor.id (t.after a).entries := by
  by_cases own : a.sender = t.owner
  · rwa [after_of_own own]
  · rw [after, update_of_foreign own]
    exact ordered.insert

/-- The tables have the same owner and the same entry of a vehicle. -/
structure AgreeOn (v : VehicleId) (t u : NeighborTable) : Prop where
  owner : t.owner = u.owner
  entry : t.get? v = u.get? v

namespace AgreeOn

theorem receiptOf (agree : AgreeOn a.sender t u) : t.receiptOf a = u.receiptOf a := by
  by_cases own : a.sender = t.owner
  · rw [receiptOf_of_own own, receiptOf_of_own (own.trans agree.owner)]
  · have foreign : a.sender ≠ u.owner := agree.owner ▸ own
    rw [receiptOf_of_foreign own, receiptOf_of_foreign foreign, agree.entry]

theorem after (agree : AgreeOn a.sender t u) : AgreeOn a.sender (t.after a) (u.after a) := by
  by_cases own : a.sender = t.owner
  · rwa [after_of_own own, after_of_own (own.trans agree.owner)]
  · have foreign : a.sender ≠ u.owner := agree.owner ▸ own
    refine ⟨by simp [agree.owner], ?_⟩
    rw [get?_after_sender own, get?_after_sender foreign, agree.entry]

theorem after_of_ne (agree : AgreeOn v t u) (other : a.sender ≠ v) : AgreeOn v (t.after a) u :=
  ⟨by simp [agree.owner], (get?_after_of_ne other).trans agree.entry⟩

theorem afterAll (agree : AgreeOn v t u) (arrivals : List Arrival) :
    AgreeOn v (t.afterAll arrivals) (u.afterAll (heardFrom v arrivals)) := by
  induction arrivals generalizing t u with
  | nil => exact agree
  | cons a rest ih =>
      by_cases sender : a.sender = v
      · subst sender
        rw [heardFrom_cons_self]
        exact ih agree.after
      · rw [heardFrom_cons_of_ne sender]
        exact ih (agree.after_of_ne sender)

theorem receipts (agree : AgreeOn v t u) (arrivals : List Arrival) :
    ((t.receipts arrivals).filter fun r => r.1.sender = v) =
      u.receipts (heardFrom v arrivals) := by
  induction arrivals generalizing t u with
  | nil => rfl
  | cons a rest ih =>
      by_cases sender : a.sender = v
      · subst sender
        rw [heardFrom_cons_self]
        simp [NeighborTable.receipts, ih agree.after, agree.receiptOf]
      · rw [heardFrom_cons_of_ne sender]
        simp [NeighborTable.receipts, sender, ih (agree.after_of_ne sender)]

end AgreeOn

theorem afterAll_append (t : NeighborTable) (past rest : List Arrival) :
    t.afterAll (past ++ rest) = (t.afterAll past).afterAll rest :=
  List.foldl_append

theorem afterAll_concat (t : NeighborTable) (past : List Arrival) (a : Arrival) :
    t.afterAll (past ++ [a]) = (t.afterAll past).after a :=
  t.afterAll_append past [a]

theorem afterAll_of_own {arrivals : List Arrival} (own : ∀ a ∈ arrivals, a.sender = t.owner) :
    t.afterAll arrivals = t := by
  induction arrivals with
  | nil => rfl
  | cons a rest ih =>
      change (t.after a).afterAll rest = t
      rw [after_of_own (own a List.mem_cons_self)]
      exact ih fun b later => own b (List.mem_cons_of_mem a later)

@[simp]
theorem owner_afterAll (t : NeighborTable) (arrivals : List Arrival) :
    (t.afterAll arrivals).owner = t.owner := by
  induction arrivals generalizing t with
  | nil => rfl
  | cons a rest ih => exact (ih (t.after a)).trans (t.owner_after a)

theorem ascending_afterAll (ordered : Roster.Ascending Neighbor.id t.entries)
    (arrivals : List Arrival) : Roster.Ascending Neighbor.id (t.afterAll arrivals).entries := by
  induction arrivals generalizing t with
  | nil => exact ordered
  | cons a rest ih => exact ih (ascending_after ordered a)

/-- What holds of the entry of a vehicle and what was heard from it, and is kept by each beacon that
    comes next from that vehicle, holds at any time. -/
theorem entry_induction {arrivals : List Arrival} (holds : List Arrival → Option Neighbor → Prop)
    (foreign : v ≠ t.owner) (first : holds [] (t.get? v))
    (next : ∀ heard a known?, a.sender = v → heard ++ [a] <+: heardFrom v arrivals →
      holds heard known? → holds (heard ++ [a]) (some (a.meets known?).1))
    (past : List Arrival) (early : past <+: arrivals) :
    holds (heardFrom v past) ((t.afterAll past).get? v) := by
  induction past using List.reverseRecOn with
  | nil => exact first
  | append_singleton past a ih =>
      have before := ih ((List.prefix_append past [a]).trans early)
      rw [afterAll_concat]
      by_cases sender : a.sender = v
      · subst sender
        have told := heardFrom_of_early early a.sender
        rw [heardFrom_concat] at told ⊢
        rw [get?_after_sender (by rwa [owner_afterAll])]
        exact next _ a _ rfl told before
      · rw [heardFrom_concat_of_ne sender, get?_after_of_ne sender]
        exact before

theorem eq_of_agreeOn (ordered : Roster.Ascending Neighbor.id t.entries)
    (ordered' : Roster.Ascending Neighbor.id u.entries) (agree : ∀ v, AgreeOn v t u) : t = u := by
  have irreflexive : Std.Irrefl fun n m : Neighbor => n.id < m.id :=
    ⟨fun n => Nat.lt_irrefl n.id.toNat⟩
  have antisymmetric : Std.Antisymm fun n m : Neighbor => n.id < m.id :=
    ⟨fun n m before behind => absurd (Nat.lt_trans before behind) (Nat.lt_irrefl n.id.toNat)⟩
  have entries : t.entries = u.entries := by
    refine List.Pairwise.eq_of_mem_iff ordered ordered' fun n => ?_
    constructor
    · intro listed
      have found : t.get? n.id = some n := ordered.find?_of_mem listed
      exact (mem_of_get? ((agree n.id).entry.symm.trans found)).1
    · intro listed
      have found : u.get? n.id = some n := ordered'.find?_of_mem listed
      exact (mem_of_get? ((agree n.id).entry.trans found)).1
  cases t
  cases u
  exact congrArg₂ NeighborTable.mk (agree default).owner entries

/-- Two sequences of beacons bring those of each vehicle in the same order, and may differ in how
    the beacons of different vehicles come in between one another. -/
def SameStreams (arrivals others : List Arrival) : Prop :=
  ∀ v, heardFrom v arrivals = heardFrom v others

theorem sameStreams_iff {arrivals others : List Arrival} :
    SameStreams arrivals others ↔
      ∀ a ∈ arrivals ++ others, heardFrom a.sender arrivals = heardFrom a.sender others := by
  refine ⟨fun same a _ => same a.sender, ?_⟩
  intro same v
  by_cases heard : ∃ a ∈ arrivals ++ others, a.sender = v
  · obtain ⟨a, member, rfl⟩ := heard
    exact same a member
  · have silent : heardFrom v (arrivals ++ others) = [] := by
      refine List.filter_eq_nil_iff.mpr fun a member => ?_
      simpa using fun sender => heard ⟨a, member, sender⟩
    rw [heardFrom_append, List.append_eq_nil_iff] at silent
    rw [silent.1, silent.2]

instance (arrivals others : List Arrival) : Decidable (SameStreams arrivals others) :=
  decidable_of_iff' _ sameStreams_iff

theorem afterAll_eq_of_sameStreams (ordered : Roster.Ascending Neighbor.id t.entries)
    {arrivals others : List Arrival} (same : SameStreams arrivals others) :
    t.afterAll arrivals = t.afterAll others := by
  refine eq_of_agreeOn (ascending_afterAll ordered _) (ascending_afterAll ordered _) fun v => ?_
  have left : AgreeOn v (t.afterAll arrivals) (t.afterAll (heardFrom v arrivals)) :=
    AgreeOn.afterAll ⟨rfl, rfl⟩ arrivals
  have right : AgreeOn v (t.afterAll others) (t.afterAll (heardFrom v others)) :=
    AgreeOn.afterAll ⟨rfl, rfl⟩ others
  rw [← same v] at right
  exact ⟨left.owner.trans right.owner.symm, left.entry.trans right.entry.symm⟩

/-- In whatever way the beacons of different vehicles come in between one another, the table, the
    snapshot and the counts are the same in the end, the same becomes of each beacon, and every
    policy gives the same answers. -/
theorem indifferent_to_interleaving (ordered : Roster.Ascending Neighbor.id t.entries)
    {arrivals others : List Arrival} (same : SameStreams arrivals others) :
    t.afterAll arrivals = t.afterAll others ∧
      (t.afterAll arrivals).snapshot = (t.afterAll others).snapshot ∧
      (t.afterAll arrivals).count = (t.afterAll others).count ∧
      (∀ v, ((t.receipts arrivals).filter fun r => r.1.sender = v) =
        (t.receipts others).filter fun r => r.1.sender = v) ∧
      ∀ (policy : Policy) (me : VehicleId) (route : Route) (now : Timestamp),
        policy.answer ⟨me, route, (t.afterAll arrivals).snapshot, now⟩ =
          policy.answer ⟨me, route, (t.afterAll others).snapshot, now⟩ := by
  have table := afterAll_eq_of_sameStreams ordered same
  refine ⟨table, by rw [table], by rw [table], ?_, by simp [table]⟩
  intro v
  have kept : AgreeOn v t t := ⟨rfl, rfl⟩
  rw [kept.receipts, kept.receipts, same v]

def toldBy (sender : UInt8) (sequence : UInt64) (status : Status) (ms : Nat) : Arrival :=
  ⟨⟨⟨sender⟩, .parallel, status, ⟨⟨"E"⟩, ⟨"W"⟩⟩, sequence, none, none⟩, .wrapping ms⟩

def knowsTwo : NeighborTable := (empty ⟨9⟩).after (toldBy 2 20 .crossing 0)

/-- Vehicle 2 sends a late beacon and then counts anew, vehicle 9 hears itself, and vehicle 3 is
    new. -/
def twoFirst : List Arrival := [
  toldBy 2 12 .requesting 100,
  toldBy 2 3 .idle 200,
  toldBy 9 0 .crossing 300,
  toldBy 3 0 .idle 100,
  toldBy 3 1 .requesting 200]

def threeFirst : List Arrival := [
  toldBy 3 0 .idle 100,
  toldBy 2 12 .requesting 100,
  toldBy 3 1 .requesting 200,
  toldBy 9 0 .crossing 300,
  toldBy 2 3 .idle 200]

theorem indifferent_to_interleaving_twoAndThree :
    Roster.Ascending Neighbor.id knowsTwo.entries ∧ SameStreams twoFirst threeFirst ∧
      (knowsTwo.receipts twoFirst).map Prod.snd =
        [.refreshed, .updated, .ignoredSelf, .inserted, .updated] ∧
      (knowsTwo.receipts threeFirst).map Prod.snd =
        [.inserted, .refreshed, .updated, .ignoredSelf, .updated] ∧
      knowsTwo.afterAll twoFirst = knowsTwo.afterAll threeFirst ∧
      (knowsTwo.afterAll twoFirst).snapshot = (knowsTwo.afterAll threeFirst).snapshot ∧
      (knowsTwo.afterAll twoFirst).count = (knowsTwo.afterAll threeFirst).count ∧
      (∀ v, ((knowsTwo.receipts twoFirst).filter fun r => r.1.sender = v) =
        (knowsTwo.receipts threeFirst).filter fun r => r.1.sender = v) ∧
      ∀ (policy : Policy) (me : VehicleId) (route : Route) (now : Timestamp),
        policy.answer ⟨me, route, (knowsTwo.afterAll twoFirst).snapshot, now⟩ =
          policy.answer ⟨me, route, (knowsTwo.afterAll threeFirst).snapshot, now⟩ := by
  have ordered : Roster.Ascending Neighbor.id knowsTwo.entries :=
    ascending_after (Kept.empty ⟨9⟩).ascending _
  have same : SameStreams twoFirst threeFirst := by decide
  exact ⟨ordered, same, by decide, by decide, indifferent_to_interleaving ordered same⟩

end NeighborTable

end Junction
