import Junction.Vehicle.Identity

/-! # Rosters

A roster is a list that holds at most one item per vehicle, in ascending order of their
identifiers. The items carry their identifier themselves, so every operation takes the function
that reads it.
-/

namespace Junction.Roster

variable {α : Type}

/-- The identifiers ascend strictly: no vehicle is listed twice. -/
def Ascending (idOf : α → VehicleId) (items : List α) : Prop :=
  items.Pairwise fun a b => idOf a < idOf b

/-- The item of one vehicle. -/
def find? (idOf : α → VehicleId) (v : VehicleId) (items : List α) : Option α :=
  items.find? fun a => idOf a == v

def contains (idOf : α → VehicleId) (v : VehicleId) (items : List α) : Bool :=
  items.any fun a => idOf a == v

/-- Put an item in its place, taking out the one that the vehicle had. -/
def insert (idOf : α → VehicleId) (item : α) : List α → List α
  | [] => [item]
  | a :: rest =>
    if idOf item < idOf a then item :: a :: rest
    else if idOf item = idOf a then item :: rest
    else a :: insert idOf item rest

/-- The roster of a list of items; of two items of one vehicle the later one stays. -/
def ofList (idOf : α → VehicleId) (items : List α) : List α :=
  items.foldl (fun roster a => insert idOf a roster) []

theorem mem_insert {idOf : α → VehicleId} {item b : α} {items : List α}
    (h : b ∈ insert idOf item items) : b = item ∨ b ∈ items := by
  induction items with
  | nil => simpa [insert] using h
  | cons a rest ih =>
    simp only [insert] at h
    split at h
    · simpa using h
    · split at h
      · simp only [List.mem_cons] at h ⊢
        exact h.imp_right Or.inr
      · simp only [List.mem_cons] at h ⊢
        rcases h with h | h
        · exact Or.inr (Or.inl h)
        · exact (ih h).imp_right Or.inr

theorem Ascending.insert {idOf : α → VehicleId} {item : α} {items : List α}
    (h : Ascending idOf items) : Ascending idOf (Roster.insert idOf item items) := by
  induction items with
  | nil => exact List.pairwise_singleton _ _
  | cons a rest ih =>
    obtain ⟨ha, hr⟩ := List.pairwise_cons.1 h
    simp only [Roster.insert]
    split
    · next hlt =>
      refine List.pairwise_cons.2 ⟨fun b hb => ?_, h⟩
      rcases List.mem_cons.1 hb with rfl | hb
      · exact hlt
      · exact Nat.lt_trans hlt (ha b hb)
    · split
      · next heq => exact List.pairwise_cons.2 ⟨fun b hb => heq ▸ ha b hb, hr⟩
      · next hlt hne =>
        refine List.pairwise_cons.2 ⟨fun b hb => ?_, ih hr⟩
        rcases mem_insert hb with rfl | hb
        · exact (VehicleId.lt_or_gt_of_ne hne).resolve_left hlt
        · exact ha b hb

theorem ascending_ofList (idOf : α → VehicleId) (items : List α) :
    Ascending idOf (ofList idOf items) := by
  suffices ∀ roster, Ascending idOf roster →
      Ascending idOf (items.foldl (fun roster a => insert idOf a roster) roster) from
    this [] List.Pairwise.nil
  induction items with
  | nil => exact fun _ h => h
  | cons a rest ih => exact fun roster h => ih _ h.insert

end Junction.Roster
