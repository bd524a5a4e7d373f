import Junction.Neighbor.Basic

/-! # Choosing a slot to share

A vehicle may enter together with a peer that goes before it and whose route is free. Where there
are several such peers, one is chosen.
-/

namespace Junction

/-- A way to choose among the peers whose slot can be shared. -/
abbrev SlotSelection := List Neighbor → Option Neighbor

/-- The known ways to choose. -/
inductive SlotChoice where
  /-- The first peer of the list. -/
  | firstFit
  /-- The first of the peers that enter earliest. -/
  | earliestEntry
  deriving DecidableEq, Repr, Inhabited

namespace SlotChoice

/-- Whether one entry time comes before another; no time at all comes first. -/
def entersBefore : Option Timestamp → Option Timestamp → Bool
  | _, none => false
  | none, some _ => true
  | some t, some u => decide (t < u)

/-- The first of the peers that enter earliest. -/
def earliest : SlotSelection
  | [] => none
  | n :: rest =>
    match earliest rest with
    | none => some n
    | some m => if entersBefore m.entryTime n.entryTime then some m else some n

def select : SlotChoice → SlotSelection
  | firstFit => List.head?
  | earliestEntry => earliest

def text : SlotChoice → String
  | firstFit => "first-fit"
  | earliestEntry => "earliest-entry"

instance : ToString SlotChoice := ⟨text⟩

theorem earliest_mem {candidates : List Neighbor} {n : Neighbor}
    (h : earliest candidates = some n) : n ∈ candidates := by
  induction candidates generalizing n with
  | nil => simp [earliest] at h
  | cons a rest ih =>
    simp only [earliest] at h
    split at h
    · simp_all
    · next m hm =>
      split at h
      · exact List.mem_cons_of_mem _ (ih (hm.trans h))
      · simp_all

theorem select_mem {choice : SlotChoice} {candidates : List Neighbor} {n : Neighbor}
    (h : choice.select candidates = some n) : n ∈ candidates := by
  cases choice with
  | firstFit => exact List.mem_of_mem_head? (by simpa [select] using h)
  | earliestEntry => exact earliest_mem h

end SlotChoice

end Junction
