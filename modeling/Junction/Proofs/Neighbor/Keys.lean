import Junction.Proofs.Neighbor.Arrivals

/-! # Entries under keys

A table keeps its entries in the order of the identifiers that they carry, and finds each one by
that identifier. A map keeps entries under keys of its own. It writes an entry under the key under
which it was found, and removes the silent peers by the identifiers in their entries, so it depends
on the two being the same. They are the same throughout, and the map is the table with every
identifier told twice. From this it follows what the table shows in a snapshot, how a flush parts
its entries, and how they are counted.
-/

namespace Junction

/-- Neighbors under keys, in ascending order of the keys. -/
structure NeighborMap where
  owner : VehicleId
  rows : List (VehicleId × Neighbor)

namespace NeighborMap

def empty (owner : VehicleId) : NeighborMap := ⟨owner, []⟩

def get? (m : NeighborMap) (key : VehicleId) : Option Neighbor :=
  (Roster.find? Prod.fst key m.rows).map Prod.snd

def put (m : NeighborMap) (key : VehicleId) (n : Neighbor) : NeighborMap :=
  { m with rows := Roster.insert Prod.fst (key, n) m.rows }

def remove (m : NeighborMap) (key : VehicleId) : NeighborMap :=
  { m with rows := m.rows.filter fun row => row.1 ≠ key }

/-- What a beacon makes of an entry is written under the key under which the entry was found,
    whatever identifier it carries. -/
def receive (m : NeighborMap) (a : Arrival) : NeighborMap × Receipt :=
  if a.sender = m.owner then (m, .ignoredSelf)
  else (m.put a.sender (a.meets (m.get? a.sender)).1, (a.meets (m.get? a.sender)).2)

/-- The identifiers in the entries of the silent peers are taken for the keys to remove. -/
def flush (m : NeighborMap) (maxAge : Nat) (now : Timestamp) : NeighborMap × List VehicleId :=
  let silent := (m.rows.filter fun row => NeighborTable.isStale maxAge now row.2).map (·.2.id)
  (silent.foldl remove m, silent)

theorem foldl_remove (m : NeighborMap) (keys : List VehicleId) :
    keys.foldl remove m = { m with rows := m.rows.filter fun row => row.1 ∉ keys } := by
  induction keys generalizing m with
  | nil => simp
  | cons key rest ih =>
      rw [List.foldl_cons, ih, remove]
      simp only [List.filter_filter]
      congr 1
      apply List.filter_congr
      intro row _
      simp [Bool.and_comm]

end NeighborMap

namespace NeighborTable

variable {owner : VehicleId} {t : NeighborTable} {m : NeighborMap}

section

variable (ascending : Roster.Ascending Neighbor.id t.entries) (maxAge : Nat) (now : Timestamp)

include ascending

theorem mem_flush_iff {v : VehicleId} :
    v ∈ (t.flush maxAge now).2 ↔ ∃ n, t.get? v = some n ∧ maxAge < n.age now := by
  simp only [flush, List.mem_map, List.mem_filter, isStale, decide_eq_true_eq]
  constructor
  · rintro ⟨n, ⟨member, silent⟩, rfl⟩
    exact ⟨n, ascending.find?_of_mem member, silent⟩
  · rintro ⟨n, found, silent⟩
    obtain ⟨member, same⟩ := mem_of_get? found
    exact ⟨n, ⟨member, silent⟩, same⟩

theorem ascending_flush : (t.flush maxAge now).2.Pairwise (· < ·) :=
  List.pairwise_map.mpr (ascending.filter _)

theorem get?_flush_eq (v : VehicleId) :
    (t.flush maxAge now).1.get? v =
      if v ∈ (t.flush maxAge now).2 then none else t.get? v := by
  have gone := mem_flush_iff ascending maxAge now (v := v)
  have left : (t.flush maxAge now).1.get? v = (t.get? v).filter fun n => !isStale maxAge now n :=
    ascending.find?_filter _ v
  rw [left]
  split
  · next silent =>
    obtain ⟨n, found, old⟩ := gone.mp silent
    simp [found, isStale, old]
  · next heard =>
    cases found : t.get? v with
    | none => rfl
    | some n =>
        have young : ¬maxAge < n.age now := fun old => heard (gone.mpr ⟨n, found, old⟩)
        simp [isStale, young]

end

theorem perm_flush (t : NeighborTable) (maxAge : Nat) (now : Timestamp) :
    ((t.flush maxAge now).2 ++ (t.flush maxAge now).1.entries.map Neighbor.id).Perm
      (t.entries.map Neighbor.id) := by
  simp only [flush, ← List.map_append]
  exact (List.filter_append_perm (isStale maxAge now) t.entries).map Neighbor.id

/-- The entries of a table under the identifiers that they carry. -/
def toMap (t : NeighborTable) : NeighborMap := ⟨t.owner, t.entries.map fun n => (n.id, n)⟩

theorem get?_toMap (t : NeighborTable) (v : VehicleId) : t.toMap.get? v = t.get? v := by
  have found : Roster.find? Prod.fst v (t.entries.map fun n => (n.id, n)) =
      (Roster.find? Neighbor.id v t.entries).map fun n => (n.id, n) :=
    Roster.find?_map (fun _ => rfl) v t.entries
  rw [NeighborMap.get?, toMap, found, Option.map_map]
  exact Option.map_id'

theorem toMap_put (t : NeighborTable) (n : Neighbor) : (t.put n).toMap = t.toMap.put n.id n := by
  have inserted : (Roster.insert Neighbor.id n t.entries).map (fun n => (n.id, n)) =
      Roster.insert Prod.fst (n.id, n) (t.entries.map fun n => (n.id, n)) :=
    Roster.map_insert (fun _ => by rfl) n t.entries
  rw [toMap, put, inserted]
  rfl

/-- The entry that is found under the sender of a beacon carries the sender's identifier, so it is
    written back to its place. -/
theorem receive_toMap (t : NeighborTable) (a : Arrival) :
    t.toMap.receive a = ((t.after a).toMap, t.receiptOf a) := by
  by_cases own : a.sender = t.owner
  · rw [after_of_own own, receiptOf_of_own own]
    exact if_pos own
  · have same : (a.meets (t.get? a.sender)).1.id = a.sender :=
      Arrival.id_meets fun n found => (mem_of_get? found).2
    rw [after, update_of_foreign own, receiptOf_of_foreign own, toMap_put, same, NeighborMap.receive,
      get?_toMap]
    exact if_neg own

theorem flush_toMap (ascending : Roster.Ascending Neighbor.id t.entries) (maxAge : Nat)
    (now : Timestamp) :
    t.toMap.flush maxAge now = ((t.flush maxAge now).1.toMap, (t.flush maxAge now).2) := by
  have silent : ((t.toMap.rows.filter fun row => isStale maxAge now row.2).map (·.2.id)) =
      (t.flush maxAge now).2 := by
    simp only [toMap, flush, List.filter_map, List.map_map, Function.comp_def]
  have kept : (t.toMap.rows.filter fun row => row.1 ∉ (t.flush maxAge now).2) =
      (t.flush maxAge now).1.toMap.rows := by
    rw [toMap, List.filter_map]
    apply congrArg (List.map _)
    apply List.filter_congr
    intro n member
    have found : t.get? n.id = some n := ascending.find?_of_mem member
    have gone : n.id ∈ (t.flush maxAge now).2 ↔ isStale maxAge now n = true := by
      simp [mem_flush_iff ascending, found, isStale]
    simp [gone]
  rw [NeighborMap.flush, silent, NeighborMap.foldl_remove, kept]
  rfl

/-- A table and a map, both empty at first, after the same beacons and flushes. -/
inductive SideBySide (owner : VehicleId) : NeighborTable → NeighborMap → Prop where
  | empty : SideBySide owner (empty owner) (.empty owner)
  | hears {t : NeighborTable} {m : NeighborMap} (before : SideBySide owner t m) (a : Arrival) :
      SideBySide owner (t.after a) (m.receive a).1
  | flush {t : NeighborTable} {m : NeighborMap} (before : SideBySide owner t m) (maxAge : Nat)
      (now : Timestamp) : SideBySide owner (t.flush maxAge now).1 (m.flush maxAge now).1

/-- The table is in good order throughout, and the map is the table with the identifiers as keys. -/
theorem SideBySide.kept (same : SideBySide owner t m) :
    t.owner = owner ∧ t.Kept ∧ m = t.toMap := by
  induction same with
  | empty => exact ⟨rfl, .empty owner, rfl⟩
  | @hears t m _ a ih =>
      obtain ⟨owned, kept, rfl⟩ := ih
      exact ⟨(t.owner_after a).trans owned, kept.update a.beacon a.time,
        congrArg Prod.fst (t.receive_toMap a)⟩
  | flush _ maxAge now ih =>
      obtain ⟨owned, kept, rfl⟩ := ih
      exact ⟨owned, kept.flush maxAge now, congrArg Prod.fst (flush_toMap kept.ascending maxAge now)⟩

theorem total_count (t : NeighborTable) : t.count.total = t.size := by
  simp only [count, countOf, NeighborCount.total, size]
  induction t.entries with
  | nil => rfl
  | cons n rest ih =>
      simp only [List.countP_cons, List.length_cons, ← ih]
      cases n.status <;> simp <;> omega

theorem countOf_eq_length (t : NeighborTable) (status : Status) :
    t.countOf status = (t.snapshot.withStatus status).length :=
  List.countP_eq_length_filter

/-- After any beacons and flushes, the keys of a map are the identifiers in its entries and the
    senders of their beacons, and not the owner's own. The snapshot is in order and is made again
    from its entries in any order. A flush parts the peers into those that it names, in order, and
    those that keep their entries. Every peer is counted once. A snapshot that is made from any
    entries has the last one of each vehicle. -/
theorem represented_exactly (same : SideBySide owner t m) :
    (m.rows.map Prod.snd = t.entries ∧
      ∀ row ∈ m.rows, row.1 = row.2.id ∧ row.1 = row.2.beacon.sender ∧ row.1 ≠ owner) ∧
    (Roster.Ascending Neighbor.id t.snapshot.neighbors ∧
      ∀ listed : List Neighbor, listed.Perm t.snapshot.neighbors →
        Snapshot.ofList listed = t.snapshot) ∧
    (∀ maxAge now left gone, t.flush maxAge now = (left, gone) →
      (m.flush maxAge now).2 = gone ∧ gone.Pairwise (· < ·) ∧
        (gone ++ left.entries.map Neighbor.id).Perm (t.entries.map Neighbor.id) ∧
        (∀ v, left.get? v = if v ∈ gone then none else t.get? v) ∧
        ∀ v, v ∈ gone ↔ ∃ n, t.get? v = some n ∧ maxAge < n.age now) ∧
    (t.count.total = t.size ∧ t.count.crossing = t.snapshot.crossing.length ∧
      t.count.requesting = t.snapshot.requesting.length) ∧
    ∀ listed : List Neighbor, Roster.Ascending Neighbor.id (Snapshot.ofList listed).neighbors ∧
      ∀ n, n ∈ (Snapshot.ofList listed).neighbors ↔
        ∃ before behind, listed = before ++ n :: behind ∧ ∀ later ∈ behind, later.id ≠ n.id := by
  obtain ⟨owned, kept, rfl⟩ := same.kept
  refine ⟨⟨?_, ?_⟩, ⟨kept.ascending, ?_⟩, ?_,
    ⟨t.total_count, t.countOf_eq_length .crossing, t.countOf_eq_length .requesting⟩, ?_⟩
  · rw [toMap, List.map_map]
    exact List.map_id' _
  · intro row member
    obtain ⟨n, inside, rfl⟩ := List.mem_map.mp member
    exact ⟨rfl, (kept.named n inside).symm, owned ▸ kept.foreign n inside⟩
  · intro listed perm
    exact congrArg Snapshot.mk (kept.ascending.ofList_eq_of_perm perm)
  · intro maxAge now left gone flushed
    have map := congrArg Prod.snd (flush_toMap kept.ascending maxAge now)
    have order := ascending_flush kept.ascending maxAge now
    have perm := t.perm_flush maxAge now
    have entries := get?_flush_eq kept.ascending maxAge now
    have silent := fun v => mem_flush_iff kept.ascending maxAge now (v := v)
    rw [flushed] at map order perm entries silent
    exact ⟨map, order, perm, entries, silent⟩
  · exact fun listed => ⟨Roster.ascending_ofList _ _, fun n => Roster.mem_ofList_iff_last⟩

/-- Vehicle 9 has heard 7, itself and 2, has forgotten 7, and has then heard 5 and a late beacon of
    vehicle 2. -/
def forgotSeven : NeighborTable :=
  (((((empty ⟨9⟩).after (toldBy 7 0 .requesting 0)).after (toldBy 9 0 .crossing 100)).after
    (toldBy 2 7 .crossing 400)).flush 300 (.wrapping 500)).1.after (toldBy 5 0 .requesting 500)
    |>.after (toldBy 2 6 .idle 600)

theorem represented_exactly_forgotSeven :
    ∃ m, SideBySide ⟨9⟩ forgotSeven m ∧ m.rows.map Prod.fst = [⟨2⟩, ⟨5⟩] ∧
      (∀ row ∈ m.rows, row.1 = row.2.id ∧ row.1 = row.2.beacon.sender ∧ row.1 ≠ ⟨9⟩) ∧
      Snapshot.ofList forgotSeven.entries.reverse = forgotSeven.snapshot ∧
      (m.flush 350 (.wrapping 900)).2 = [⟨5⟩] ∧
      (forgotSeven.flush 350 (.wrapping 900)).1.get? ⟨2⟩ = forgotSeven.get? ⟨2⟩ ∧
      forgotSeven.count.total = 2 ∧ forgotSeven.snapshot.crossing.length = 1 ∧
      forgotSeven.snapshot.requesting.length = 1 := by
  have same : SideBySide ⟨9⟩ forgotSeven _ :=
    .hears (.hears (.flush (.hears (.hears (.hears .empty _) _) _) _ _) _) _
  obtain ⟨⟨-, keys⟩, ⟨-, again⟩, flushed, ⟨total, crossing, requesting⟩, -⟩ :=
    represented_exactly same
  have parts : forgotSeven.flush 350 (.wrapping 900) =
      ((forgotSeven.flush 350 (.wrapping 900)).1, [⟨5⟩]) := Prod.ext rfl (by decide)
  obtain ⟨gone, -, -, left, -⟩ := flushed 350 (.wrapping 900) _ _ parts
  refine ⟨_, same, by decide, keys, again _ (List.reverse_perm _), gone, left ⟨2⟩, ?_, ?_, ?_⟩
  · rw [total]
    decide
  · rw [← crossing]
    decide
  · rw [← requesting]
    decide

end NeighborTable

end Junction
