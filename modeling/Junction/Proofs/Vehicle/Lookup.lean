import Junction.Pairs
import Junction.Vehicle.Roster
import Mathlib.Data.List.Induction

/-! # Looking up a vehicle in a roster

Insertion changes what is found under one identifier and under no other. In an ascending roster an
item is found under its own identifier, so there is one item per vehicle.
-/

namespace Junction.Roster

variable {α : Type} {idOf : α → VehicleId}

theorem find?_cons (v : VehicleId) (a : α) (rest : List α) :
    find? idOf v (a :: rest) = if idOf a = v then some a else find? idOf v rest := by
  by_cases h : idOf a = v <;> simp [find?, h]

theorem find?_insert (item : α) (items : List α) (v : VehicleId) :
    find? idOf v (insert idOf item items) =
      if idOf item = v then some item else find? idOf v items := by
  induction items with
  | nil => exact find?_cons v item []
  | cons a rest ih =>
      unfold insert
      split
      · exact find?_cons v item (a :: rest)
      · next notBefore =>
        split
        · next same =>
          rw [find?_cons, find?_cons, same]
          split <;> rfl
        · next different =>
          rw [find?_cons, find?_cons, ih]
          by_cases here : idOf a = v
          · have elsewhere : idOf item ≠ v := fun h => different (h.trans here.symm)
            simp [here, elsewhere]
          · simp [here]

theorem find?_map {β : Type} {keyOf : β → VehicleId} {f : α → β} (keeps : ∀ a, keyOf (f a) = idOf a)
    (v : VehicleId) (items : List α) :
    find? keyOf v (items.map f) = (find? idOf v items).map f := by
  simp only [find?, List.find?_map, Function.comp_def, keeps]

theorem map_insert {β : Type} {keyOf : β → VehicleId} {f : α → β}
    (keeps : ∀ a, keyOf (f a) = idOf a) (item : α) (items : List α) :
    (insert idOf item items).map f = insert keyOf (f item) (items.map f) := by
  induction items with
  | nil => rfl
  | cons a rest ih =>
      simp only [insert, List.map_cons, keeps]
      split
      · rfl
      · split
        · rfl
        · rw [List.map_cons, ih]

theorem mem_of_find? {v : VehicleId} {items : List α} {a : α}
    (found : find? idOf v items = some a) : a ∈ items ∧ idOf a = v := by
  refine ⟨List.mem_of_find?_eq_some found, ?_⟩
  simpa using List.find?_some found

theorem find?_eq_none {v : VehicleId} {items : List α} :
    find? idOf v items = none ↔ ∀ a ∈ items, idOf a ≠ v := by
  simp [find?, List.find?_eq_none]

theorem mem_insert_iff {item b : α} {items : List α}
    (fresh : contains idOf (idOf item) items = false) :
    b ∈ insert idOf item items ↔ b = item ∨ b ∈ items := by
  induction items with
  | nil => simp [insert]
  | cons a rest ih =>
      simp only [contains, List.any_cons, Bool.or_eq_false_iff, beq_eq_false_iff_ne] at fresh
      obtain ⟨other, absent⟩ := fresh
      unfold insert
      split
      · simp
      · rw [if_neg other.symm, List.mem_cons, ih absent, List.mem_cons, or_left_comm]

/-- A roster holds all items of a list in which no vehicle has two. -/
theorem mem_ofList_iff {items : List α} (distinct : (items.map idOf).Nodup) {b : α} :
    b ∈ ofList idOf items ↔ b ∈ items := by
  suffices ∀ roster, (∀ a ∈ items, contains idOf (idOf a) roster = false) →
      (b ∈ items.foldl (fun roster a => insert idOf a roster) roster ↔ b ∈ roster ∨ b ∈ items) by
    simpa [ofList] using this [] (fun _ _ => rfl)
  induction items with
  | nil => simp
  | cons a rest ih =>
      intro roster fresh
      obtain ⟨alone, tail⟩ := List.nodup_cons.mp distinct
      have first := fresh a List.mem_cons_self
      have others : ∀ c ∈ rest, contains idOf (idOf c) (insert idOf a roster) = false := by
        intro c later
        have old := fresh c (List.mem_cons_of_mem a later)
        simp only [contains, List.any_eq_false, beq_iff_eq, mem_insert_iff first] at old ⊢
        rintro d (rfl | inside) same
        · exact alone (List.mem_map.mpr ⟨c, later, same.symm⟩)
        · exact old d inside same
      rw [List.foldl_cons, ih tail _ others, mem_insert_iff first, List.mem_cons, or_comm (a := b = a),
        or_assoc]

namespace Ascending

variable {items : List α}

theorem find?_of_mem (h : Ascending idOf items) {a : α} (member : a ∈ items) :
    find? idOf (idOf a) items = some a := by
  induction items with
  | nil => cases member
  | cons b rest ih =>
      obtain ⟨before, tail⟩ := List.pairwise_cons.mp h
      rw [find?_cons]
      rcases List.mem_cons.mp member with rfl | later
      · simp
      · have different : idOf b ≠ idOf a := by
          intro same
          have := before a later
          rw [same, VehicleId.lt_iff] at this
          omega
        rw [if_neg different]
        exact ih tail later

/-- The item that is put in takes the place of the one that its vehicle had. -/
theorem mem_insert_iff (h : Ascending idOf items) {item b : α} :
    b ∈ Roster.insert idOf item items ↔ b = item ∨ b ∈ items ∧ idOf b ≠ idOf item := by
  have find (c : α) : c ∈ Roster.insert idOf item items ↔
      find? idOf (idOf c) (Roster.insert idOf item items) = some c :=
    ⟨h.insert.find?_of_mem, fun found => (mem_of_find? found).1⟩
  rw [find, find?_insert]
  by_cases same : idOf item = idOf b
  · rw [if_pos same, Option.some.injEq, eq_comm]
    simp [same]
  · rw [if_neg same]
    constructor
    · intro found
      exact Or.inr ⟨(mem_of_find? found).1, Ne.symm same⟩
    · rintro (rfl | ⟨member, -⟩)
      · exact absurd rfl same
      · exact h.find?_of_mem member

theorem eq_of_id (h : Ascending idOf items) {a b : α} (ha : a ∈ items) (hb : b ∈ items)
    (same : idOf a = idOf b) : a = b := by
  have found := h.find?_of_mem ha
  rw [same, h.find?_of_mem hb] at found
  exact (Option.some.inj found).symm

theorem nodup_ids (h : Ascending idOf items) : (items.map idOf).Nodup := by
  refine List.pairwise_map.mpr (h.imp ?_)
  intro a b before same
  rw [same, VehicleId.lt_iff] at before
  omega

theorem nodup (h : Ascending idOf items) : items.Nodup :=
  List.Pairwise.of_map idOf (fun _ _ other same => other (congrArg idOf same)) h.nodup_ids

/-- Two rosters of the same items are the same. -/
theorem eq_of_mem_iff (h : Ascending idOf items) {others : List α} (k : Ascending idOf others)
    (same : ∀ a, a ∈ items ↔ a ∈ others) : items = others := by
  have perm : items.Perm others :=
    (List.perm_ext_iff_of_nodup h.nodup k.nodup).mpr same
  apply perm.eq_of_pairwise _ h k
  intro a b _ _ before after
  exact absurd (Nat.lt_trans before after) (Nat.lt_irrefl _)

theorem not_mem_before (h : Ascending idOf items) {v : VehicleId} {before behind : List VehicleId}
    (split : items.map idOf = before ++ v :: behind) : v ∉ before := by
  intro twice
  have nodup := h.nodup_ids
  rw [split] at nodup
  exact (List.nodup_append.mp nodup).2.2 v twice v List.mem_cons_self rfl

theorem map (h : Ascending idOf items) {f : α → α} (keeps : ∀ a, idOf (f a) = idOf a) :
    Ascending idOf (items.map f) := by
  refine List.pairwise_map.mpr (h.imp ?_)
  intro a b before
  rwa [keeps, keeps]

theorem filter (h : Ascending idOf items) (p : α → Bool) : Ascending idOf (items.filter p) :=
  List.Pairwise.filter p h

theorem find?_filter (h : Ascending idOf items) (p : α → Bool) (v : VehicleId) :
    find? idOf v (items.filter p) = (find? idOf v items).filter p := by
  induction items with
  | nil => rfl
  | cons a rest ih =>
      obtain ⟨before, tail⟩ := List.pairwise_cons.mp h
      rw [List.filter_cons, find?_cons]
      by_cases same : idOf a = v
      · have none : find? idOf v (rest.filter p) = none := by
          apply find?_eq_none.mpr
          intro b member twice
          have order := before b (List.mem_filter.mp member).1
          rw [same, twice] at order
          exact Nat.lt_irrefl _ order
        cases keep : p a <;> simp [find?_cons, Option.filter, same, keep, none]
      · cases keep : p a <;> simp [find?_cons, same, ih tail]

theorem mem_pairsInOrder_iff (h : Ascending idOf items) {a b : α} :
    (a, b) ∈ pairsInOrder items ↔ a ∈ items ∧ b ∈ items ∧ idOf a < idOf b := by
  induction items with
  | nil => simp [pairsInOrder]
  | cons c rest ih =>
      obtain ⟨before, tail⟩ := List.pairwise_cons.mp h
      simp only [pairsInOrder, List.mem_append, List.mem_map, Prod.mk.injEq, ih tail,
        List.mem_cons]
      constructor
      · rintro (⟨d, later, rfl, rfl⟩ | ⟨ha, hb, order⟩)
        · exact ⟨Or.inl rfl, Or.inr later, before _ later⟩
        · exact ⟨Or.inr ha, Or.inr hb, order⟩
      · rintro ⟨rfl | ha, rfl | hb, order⟩
        · exact absurd order (Nat.lt_irrefl _)
        · exact Or.inl ⟨b, hb, rfl, rfl⟩
        · exact absurd (Nat.lt_trans order (before a ha)) (Nat.lt_irrefl _)
        · exact Or.inr ⟨ha, hb, order⟩

theorem pairwise_pairsInOrder (h : Ascending idOf items) :
    (pairsInOrder items).Pairwise fun x y => (idOf x.1, idOf x.2) ≠ (idOf y.1, idOf y.2) := by
  induction items with
  | nil => exact .nil
  | cons c rest ih =>
      obtain ⟨before, tail⟩ := List.pairwise_cons.mp h
      refine List.pairwise_append.mpr ⟨?_, ih tail, ?_⟩
      · refine List.pairwise_map.mpr (List.Pairwise.imp ?_ tail)
        intro a b order same
        simp only [Prod.mk.injEq] at same
        rw [same.2] at order
        exact Nat.lt_irrefl _ order
      · rintro x here ⟨a, b⟩ later same
        obtain ⟨d, -, rfl⟩ := List.mem_map.mp here
        have order := before a ((mem_pairsInOrder_iff tail).mp later).1
        rw [Prod.mk.injEq] at same
        rw [same.1] at order
        exact Nat.lt_irrefl _ order

end Ascending

theorem ofList_concat (items : List α) (item : α) :
    ofList idOf (items ++ [item]) = insert idOf item (ofList idOf items) := by
  simp [ofList]

/-- Of each vehicle the last item stays, and no other. -/
theorem mem_ofList_iff_last {items : List α} {b : α} :
    b ∈ ofList idOf items ↔
      ∃ before behind, items = before ++ b :: behind ∧ ∀ c ∈ behind, idOf c ≠ idOf b := by
  induction items using List.reverseRecOn with
  | nil => simp [ofList]
  | append_singleton items item ih =>
      rw [ofList_concat, (ascending_ofList idOf items).mem_insert_iff, ih]
      constructor
      · rintro (rfl | ⟨⟨before, behind, rfl, last⟩, other⟩)
        · exact ⟨items, [], rfl, by simp⟩
        · refine ⟨before, behind ++ [item], by simp, ?_⟩
          intro c member
          rcases List.mem_append.mp member with old | new
          · exact last c old
          · rw [List.mem_singleton.mp new]
            exact other.symm
      · rintro ⟨before, behind, split, last⟩
        rcases List.eq_nil_or_concat behind with rfl | ⟨rest, c, rfl⟩
        · obtain ⟨-, same⟩ := List.append_inj' split rfl
          exact Or.inl (List.cons.inj same).1.symm
        · rw [List.concat_eq_append] at split last
          rw [← List.cons_append, ← List.append_assoc] at split
          obtain ⟨rfl, same⟩ := List.append_inj' split rfl
          obtain rfl := (List.cons.inj same).1
          refine Or.inr ⟨⟨before, rest, rfl, ?_⟩, ?_⟩
          · exact fun d member => last d (List.mem_append_left _ member)
          · exact (last item (List.mem_append_right _ List.mem_cons_self)).symm

theorem Ascending.ofList_eq_of_perm {items : List α} (h : Ascending idOf items) {listed : List α}
    (perm : listed.Perm items) : ofList idOf listed = items := by
  have distinct : (listed.map idOf).Nodup := (perm.map idOf).nodup_iff.mpr h.nodup_ids
  apply (ascending_ofList idOf listed).eq_of_mem_iff h
  intro a
  rw [mem_ofList_iff distinct, perm.mem_iff]

end Junction.Roster
