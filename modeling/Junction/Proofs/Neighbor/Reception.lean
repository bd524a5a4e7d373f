import Junction.Neighbor.Table
import Junction.Proofs.Vehicle.Lookup

/-! # What a beacon does to a neighbor table

A beacon touches the entry of its sender and no other, and a beacon that is not late becomes that
entry. A flush that finds nobody silent changes nothing. Both keep the table in good order.
-/

namespace Junction.NeighborTable

/-- One entry per peer, in order, none of them the owner's own, each about the sender of its
    beacon. -/
structure Kept (t : NeighborTable) : Prop where
  ascending : Roster.Ascending Neighbor.id t.entries
  foreign : ∀ n ∈ t.entries, n.id ≠ t.owner
  named : ∀ n ∈ t.entries, n.beacon.sender = n.id

theorem Kept.empty (owner : VehicleId) : (empty owner).Kept :=
  ⟨List.Pairwise.nil, by simp [NeighborTable.empty], by simp [NeighborTable.empty]⟩

theorem get?_put (t : NeighborTable) (n : Neighbor) (v : VehicleId) :
    (t.put n).get? v = if n.id = v then some n else t.get? v :=
  Roster.find?_insert n t.entries v

theorem mem_of_get? {t : NeighborTable} {v : VehicleId} {n : Neighbor} (h : t.get? v = some n) :
    n ∈ t.entries ∧ n.id = v :=
  Roster.mem_of_find? h

theorem contains_iff {t : NeighborTable} {v : VehicleId} :
    t.contains v = true ↔ ∃ n, t.get? v = some n := by
  rw [contains, get?, ← Option.isSome_iff_exists, Roster.find?, List.find?_isSome]
  simp [Roster.contains]

theorem Kept.get?_of_mem {t : NeighborTable} (h : t.Kept) {n : Neighbor} (member : n ∈ t.entries) :
    t.get? n.id = some n :=
  h.ascending.find?_of_mem member

theorem Kept.foreign_of_get? {t : NeighborTable} (h : t.Kept) {v : VehicleId} {n : Neighbor}
    (found : t.get? v = some n) : v ≠ t.owner := by
  obtain ⟨member, rfl⟩ := mem_of_get? found
  exact h.foreign n member

theorem Kept.put {t : NeighborTable} (h : t.Kept) {n : Neighbor} (foreign : n.id ≠ t.owner)
    (named : n.beacon.sender = n.id) : (t.put n).Kept := by
  refine ⟨h.ascending.insert, ?_, ?_⟩
  · intro m member
    rcases Roster.mem_insert member with rfl | old
    · exact foreign
    · exact h.foreign m old
  · intro m member
    rcases Roster.mem_insert member with rfl | old
    · exact named
    · exact h.named m old

@[simp]
theorem owner_update (t : NeighborTable) (b : Beacon) (now : Timestamp) :
    (t.update b now).1.owner = t.owner := by
  unfold update
  split
  · rfl
  · split
    · rfl
    · split <;> rfl

theorem Kept.update {t : NeighborTable} (h : t.Kept) (b : Beacon) (now : Timestamp) :
    (t.update b now).1.Kept := by
  unfold NeighborTable.update
  split
  · exact h
  · next foreign =>
    split
    · exact h.put foreign rfl
    · next known found =>
      obtain ⟨member, same⟩ := mem_of_get? found
      have strange := h.foreign known member
      split
      · exact h.put strange (h.named known member)
      · exact h.put strange same.symm

theorem Kept.flush {t : NeighborTable} (h : t.Kept) (maxAge : Nat) (now : Timestamp) :
    (t.flush maxAge now).1.Kept := by
  refine ⟨h.ascending.filter _, ?_, ?_⟩
  · intro n member
    exact h.foreign n (List.mem_filter.mp member).1
  · intro n member
    exact h.named n (List.mem_filter.mp member).1

theorem get?_update_of_ne (t : NeighborTable) {b : Beacon} {v : VehicleId} (other : v ≠ b.sender)
    (now : Timestamp) : (t.update b now).1.get? v = t.get? v := by
  unfold update
  split
  · rfl
  · split
    · rw [get?_put, if_neg other.symm]
    · next known found =>
      have same := (mem_of_get? found).2
      have apart : known.id ≠ v := fun h => other (h.symm.trans same)
      split
      · rw [get?_put, if_neg apart]
      · rw [get?_put, if_neg apart]

theorem get?_update_sender (t : NeighborTable) {b : Beacon} (foreign : b.sender ≠ t.owner)
    (recent : ∀ n, t.get? b.sender = some n → isLate n.beacon.sequence b.sequence = false)
    (now : Timestamp) : (t.update b now).1.get? b.sender = some ⟨b.sender, b, now⟩ := by
  simp only [update, if_neg foreign]
  cases found : t.get? b.sender with
  | none => simp [get?_put]
  | some known =>
      have same := (mem_of_get? found).2
      simp [recent known found, get?_put, same]

theorem update_ne_refreshed (t : NeighborTable) {b : Beacon}
    (recent : ∀ n, t.get? b.sender = some n → isLate n.beacon.sequence b.sequence = false)
    (now : Timestamp) : (t.update b now).2 ≠ .refreshed := by
  unfold update
  split
  · simp
  · split
    · simp
    · next known found => simp [recent known found]

theorem lastReceipt_update (t : NeighborTable) {b : Beacon} (foreign : b.sender ≠ t.owner)
    (now : Timestamp) :
    ∃ n, (t.update b now).1.get? b.sender = some n ∧ n.lastReceipt = now := by
  simp only [update, if_neg foreign]
  cases found : t.get? b.sender with
  | none => exact ⟨⟨b.sender, b, now⟩, by simp [get?_put], rfl⟩
  | some known =>
      have same := (mem_of_get? found).2
      cases late : isLate known.beacon.sequence b.sequence with
      | true => exact ⟨{ known with lastReceipt := now }, by simp [late, get?_put, same], rfl⟩
      | false =>
          exact ⟨{ known with beacon := b, lastReceipt := now }, by simp [late, get?_put, same], rfl⟩

/-- The beacon that follows another one is never late, not even where the count starts anew. -/
theorem isLate_succ (s : UInt64) : isLate s (s + 1) = false := by
  have bound := s.toNat_lt
  have next : (s + 1).toNat = (s.toNat + 1) % 2 ^ 64 := by simp
  apply Bool.eq_false_iff.mpr
  intro late
  obtain ⟨behind, little⟩ : (s + 1).toNat < s.toNat ∧ s.toNat - (s + 1).toNat ≤ reorderWindow := by
    simpa [isLate] using late
  rw [reorderWindow] at little
  omega

theorem Kept.get?_flush {t : NeighborTable} (h : t.Kept) (maxAge : Nat) (now : Timestamp)
    (v : VehicleId) :
    (t.flush maxAge now).1.get? v = (t.get? v).filter fun n => !isStale maxAge now n :=
  h.ascending.find?_filter _ v

theorem flush_eq_self {t : NeighborTable} {maxAge : Nat} {now : Timestamp}
    (fresh : ∀ n ∈ t.entries, n.age now ≤ maxAge) : (t.flush maxAge now).1 = t := by
  have kept : (t.entries.filter fun n => !isStale maxAge now n) = t.entries := by
    apply List.filter_eq_self.mpr
    intro n member
    simpa [isStale] using fresh n member
  simp [flush, kept]

end Junction.NeighborTable
