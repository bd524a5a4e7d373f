/-! # Pairs of a list

The pairs that the items of a list form with those behind them.
-/

namespace Junction

/-- The pairs of items of which the first stands before the second. -/
def pairsInOrder {α : Type} : List α → List (α × α)
  | [] => []
  | a :: rest => rest.map (fun b => (a, b)) ++ pairsInOrder rest

theorem pairsInOrder_map {α β : Type} (f : α → β) (l : List α) :
    pairsInOrder (l.map f) = (pairsInOrder l).map fun pair => (f pair.1, f pair.2) := by
  induction l with
  | nil => rfl
  | cons a rest ih => simp [pairsInOrder, ih, Function.comp_def]

end Junction
