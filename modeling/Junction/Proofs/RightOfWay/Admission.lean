import Junction.RightOfWay.Stack

/-! # What a positive answer tells about the peers

A vehicle that is let in by the serial rule has seen nobody inside and nobody who waits and goes
before it. One that is let in by the parallel rule has seen nobody inside who is in its way.
-/

namespace Junction.RightOfWay

variable {conflicts : ConflictTest} {p : Precedence} {e : Evaluation} {n : Neighbor}

theorem serial_answer_of_isSafe (safe : ((serial p).answer e).isSafe = true) :
    comesFirst p e = true ∧ (serial p).answer e = .provisional := by
  simp only [serial] at safe ⊢
  split at safe
  · next first =>
    rw [if_pos first]
    exact ⟨first, rfl⟩
  · cases safe

theorem not_crossing_of_serial (safe : ((serial p).answer e).isSafe = true)
    (seen : n ∈ e.neighbors.neighbors) : n.status ≠ .crossing := by
  obtain ⟨first, -⟩ := serial_answer_of_isSafe safe
  exact (comesFirst_iff.mp first).1 n seen

theorem not_outranked_of_serial (safe : ((serial p).answer e).isSafe = true)
    (seen : n ∈ e.neighbors.neighbors) (waiting : n.status = .requesting) :
    p.outranks n.id e.me = false := by
  obtain ⟨first, -⟩ := serial_answer_of_isSafe safe
  exact (comesFirst_iff.mp first).2 n seen waiting

theorem not_clashing_of_join {refusal : Clearance}
    (safe : (join conflicts p refusal e).isSafe = true) (seen : n ∈ e.neighbors.neighbors)
    (inside : n.status = .crossing) : e.clashes conflicts n = false := by
  unfold join at safe
  split at safe
  · cases safe
  · next free =>
    apply Bool.eq_false_iff.mpr
    intro clash
    exact free (List.any_eq_true.mpr ⟨n, Snapshot.mem_crossing.mpr ⟨seen, inside⟩, clash⟩)

theorem not_clashing_of_parallel (safe : ((parallel conflicts (serial p)).answer e).isSafe = true)
    (seen : n ∈ e.neighbors.neighbors) (inside : n.status = .crossing) :
    e.clashes conflicts n = false := by
  simp only [parallel] at safe
  split at safe
  · exact absurd inside (not_crossing_of_serial safe seen)
  · exact not_clashing_of_join safe seen inside

theorem not_outranked_of_join {refusal : Clearance} (refused : refusal.isSafe = false)
    (safe : (join conflicts p refusal e).isSafe = true) (seen : n ∈ e.neighbors.neighbors)
    (waiting : n.status = .requesting) (clash : e.clashes conflicts n = true) :
    p.outranks n.id e.me = false := by
  unfold join at safe
  split at safe
  · cases safe
  · split at safe
    · cases refused.symm.trans safe
    · split at safe
      · cases safe
      · next free =>
        refine Bool.eq_false_iff.mpr fun ahead => free ?_
        exact List.any_eq_true.mpr
          ⟨n, Evaluation.mem_outranking.mpr ⟨seen, waiting, ahead⟩, clash⟩

theorem not_outranked_of_parallel (safe : ((parallel conflicts (serial p)).answer e).isSafe = true)
    (seen : n ∈ e.neighbors.neighbors) (waiting : n.status = .requesting)
    (clash : e.clashes conflicts n = true) : p.outranks n.id e.me = false := by
  simp only [parallel] at safe
  split at safe
  · exact not_outranked_of_serial safe seen waiting
  · next refused =>
    exact not_outranked_of_join (Bool.eq_false_iff.mpr refused) safe seen waiting clash

end Junction.RightOfWay
