import Junction.RightOfWay.Policy

/-! # One vehicle at a time

A vehicle may cross while nobody is inside and no peer that waits goes before it. The answer names
no instant, because the vehicle may simply not have heard of a peer yet.
-/

namespace Junction.RightOfWay

/-- Nobody is inside and no peer that waits goes before the vehicle. -/
def comesFirst (p : Precedence) (e : Evaluation) : Bool :=
  e.neighbors.crossing.isEmpty && (e.outranking p).isEmpty

/-- The policy that lets in one vehicle at a time. -/
def serial (p : Precedence) : Baseline where
  protocol := .serial
  answer e := if comesFirst p e then .provisional else .wait
  hasPriority := comesFirst p
  precedence := p

theorem comesFirst_iff {p : Precedence} {e : Evaluation} :
    comesFirst p e = true ↔
      (∀ n ∈ e.neighbors.neighbors, n.status ≠ .crossing) ∧
        ∀ n ∈ e.neighbors.neighbors, n.status = .requesting → p.outranks n.id e.me = false := by
  simp only [comesFirst, Bool.and_eq_true, List.isEmpty_iff, List.eq_nil_iff_forall_not_mem,
    Snapshot.mem_crossing, Evaluation.mem_outranking]
  constructor
  · rintro ⟨h, k⟩
    exact ⟨fun n hn hs => h n ⟨hn, hs⟩, fun n hn hs =>
      Bool.eq_false_iff.2 fun ho => k n ⟨hn, hs, ho⟩⟩
  · rintro ⟨h, k⟩
    exact ⟨fun n hn => h n hn.1 hn.2, fun n hn => by simp [k n hn.1 hn.2.1] at hn⟩

end Junction.RightOfWay
