import Junction.Proofs.RightOfWay.Requestors
import Junction.Proofs.RightOfWay.Slots

/-! # Each rule widens the one beneath it

The parallel rule keeps every positive answer of the rule beneath it. The reserving rule does not
ask the parallel rule: it looks through those inside and those that wait by itself. Still, whoever
may join those inside is let in by both. So where the reserving rule refuses there is nobody to
join, and the parallel rule laid over it changes nothing.
-/

namespace Junction.RightOfWay

variable {conflicts : ConflictTest} {slots : SlotSelection} {p : Precedence} {base : Baseline}
  {e : Evaluation}

/-- Somebody is inside, and neither those inside nor those that wait and go first are in the way. -/
structure MayJoin (conflicts : ConflictTest) (p : Precedence) (e : Evaluation) : Prop where
  somebody : e.neighbors.crossing ≠ []
  inside : ∀ n ∈ e.neighbors.crossing, e.clashes conflicts n = false
  ahead : ∀ n ∈ e.outranking p, e.clashes conflicts n = false

theorem join_of_mayJoin (joins : MayJoin conflicts p e) (refusal : Clearance) :
    join conflicts p refusal e = .startingAt e.now := by
  have inside : e.neighbors.crossing.any (e.clashes conflicts) = false := by
    simpa using joins.inside
  have ahead : (e.outranking p).any (e.clashes conflicts) = false := by
    simpa using joins.ahead
  simp [join, inside, ahead, joins.somebody]

theorem join_of_not_mayJoin (alone : ¬MayJoin conflicts p e) :
    join conflicts p .wait e = .wait := by
  unfold join
  split
  · rfl
  · next inside =>
    split
    · rfl
    · next somebody =>
      split
      · rfl
      · next ahead =>
        refine absurd ⟨?_, ?_, ?_⟩ alone
        · simpa using somebody
        · simpa using inside
        · simpa using ahead

theorem join_join (refusal : Clearance) :
    join conflicts p (join conflicts p refusal e) e = join conflicts p refusal e := by
  unfold join
  split
  · rfl
  · split
    · rfl
    · split <;> rfl

theorem parallel_of_isSafe (safe : (base.answer e).isSafe = true) :
    (parallel conflicts base).answer e = base.answer e := if_pos safe

theorem parallel_of_refused (refused : (base.answer e).isSafe = false) :
    (parallel conflicts base).answer e =
      join conflicts base.precedence (base.answer e) e := by
  simp [parallel, refused]

/-- The parallel rule over itself is the parallel rule. -/
theorem parallel_parallel :
    (parallel conflicts (parallel conflicts base)).answer e =
      (parallel conflicts base).answer e := by
  cases answered : ((parallel conflicts base).answer e).isSafe with
  | true => exact parallel_of_isSafe answered
  | false =>
      rw [parallel_of_refused answered]
      cases first : (base.answer e).isSafe with
      | true =>
          rw [parallel_of_isSafe first, first] at answered
          cases answered
      | false =>
          rw [parallel_of_refused first]
          exact join_join _

theorem joinAt_eq_wait {t : Timestamp} (refused : (joinAt conflicts p e t).isSafe = false) :
    joinAt conflicts p e t = .wait := by
  unfold joinAt at refused ⊢
  split at refused
  · rfl
  · cases refused

theorem queue_eq_wait {bound : Option Timestamp}
    (refused : (queue conflicts slots p e bound).isSafe = false) :
    queue conflicts slots p e bound = .wait := by
  simp only [queue] at refused ⊢
  split at refused
  · cases refused
  · next somebody =>
    rw [if_neg somebody]
    split at refused
    · next unanswered => rw [if_pos unanswered]
    · next answered =>
      rw [if_neg answered]
      split at refused
      · next unpublished => rw [if_pos unpublished]
      · cases refused

theorem reserve_eq_wait (refused : (reserve conflicts slots p e).isSafe = false) :
    reserve conflicts slots p e = .wait := by
  simp only [reserve] at refused ⊢
  split at refused
  · rfl
  · split at refused
    · exact joinAt_eq_wait refused
    · exact queue_eq_wait refused

theorem reserve_of_mayJoin (joins : MayJoin conflicts p e) :
    (reserve conflicts slots p e).isSafe = true := by
  have inside : e.neighbors.crossing.filter (e.clashes conflicts) = [] := by
    simpa using joins.inside
  have ahead : (e.outranking p).filter (e.clashes conflicts) = [] := by
    simpa using joins.ahead
  obtain ⟨host, others, listed⟩ := List.exists_cons_of_ne_nil joins.somebody
  have free : e.clashes conflicts host = false := joins.inside host (by simp [listed])
  have found : e.neighbors.crossing.find? (fun n => !e.clashes conflicts n) = some host := by
    simp [listed, free]
  simp [reserve, inside, found, joinAt, ahead, exits?, Clearance.startingAt]

theorem reservation_of_parallel
    (safe : ((parallel conflicts (serial p)).answer e).isSafe = true) :
    ((reservation conflicts slots (parallel conflicts (serial p))).answer e).isSafe = true := by
  rw [reservation_answer]
  split
  · rfl
  · next behind =>
    have refused : (serial p).answer e = .wait := if_neg behind
    rw [parallel_of_refused (by rw [refused]; rfl), refused] at safe
    by_cases joins : MayJoin conflicts p e
    · exact reserve_of_mayJoin joins
    · have again : join conflicts (serial p).precedence .wait e = .wait :=
        join_of_not_mayJoin joins
      rw [again] at safe
      cases safe

/-- The parallel rule over a reserving rule is that reserving rule. -/
theorem parallel_reservation :
    (parallel conflicts (reservation conflicts slots base)).answer e =
      (reservation conflicts slots base).answer e := by
  cases answered : ((reservation conflicts slots base).answer e).isSafe with
  | true => exact parallel_of_isSafe answered
  | false =>
      rw [parallel_of_refused answered]
      simp only [reservation] at answered ⊢
      split at answered
      · cases answered
      · next behind =>
        rw [if_neg behind, reserve_eq_wait answered]
        apply join_of_not_mayJoin
        intro joins
        cases (reserve_of_mayJoin joins).symm.trans answered

/-- Whatever is known of the peers, whichever routes conflict, whoever goes before whom and however a
    shared slot is chosen: the parallel rule keeps the positive answers of the serial rule, the
    reserving rule lets in whoever the parallel rule lets in, and the parallel rule adds nothing to
    itself or to the reserving rule. -/
theorem each_layer_widens (conflicts : ConflictTest) (slots : SlotSelection) (p : Precedence)
    (e : Evaluation) :
    (((serial p).answer e).isSafe = true →
        (parallel conflicts (serial p)).answer e = (serial p).answer e) ∧
      (((parallel conflicts (serial p)).answer e).isSafe = true →
        ((reservation conflicts slots (parallel conflicts (serial p))).answer e).isSafe = true) ∧
      (parallel conflicts (parallel conflicts (serial p))).answer e =
        (parallel conflicts (serial p)).answer e ∧
      (parallel conflicts (reservation conflicts slots (parallel conflicts (serial p)))).answer e =
        (reservation conflicts slots (parallel conflicts (serial p))).answer e :=
  ⟨parallel_of_isSafe, reservation_of_parallel, parallel_parallel, parallel_reservation⟩

/-- Vehicle 4 is let in by the serial rule where it knows of nobody. Beside vehicle 20 it may join, so
    the parallel and the reserving rule let it in. -/
theorem each_layer_widens_fourBesideThree :
    ((serial .higherFirst).answer { fourBesideThree with neighbors := .empty }).isSafe = true ∧
      (parallel Topology.fourWay.conflicts (serial .higherFirst)).answer
          { fourBesideThree with neighbors := .empty } = .provisional ∧
      ((serial .higherFirst).answer fourBesideThree).isSafe = false ∧
      ((parallel Topology.fourWay.conflicts (serial .higherFirst)).answer
        fourBesideThree).isSafe = true ∧
      ((reservation Topology.fourWay.conflicts SlotChoice.firstFit.select
        (parallel Topology.fourWay.conflicts (serial .higherFirst))).answer
          fourBesideThree).isSafe = true := by
  have alone := each_layer_widens Topology.fourWay.conflicts SlotChoice.firstFit.select .higherFirst
    { fourBesideThree with neighbors := .empty }
  have beside := each_layer_widens Topology.fourWay.conflicts SlotChoice.firstFit.select .higherFirst
    fourBesideThree
  have joins : ((parallel Topology.fourWay.conflicts (serial .higherFirst)).answer
      fourBesideThree).isSafe = true := by decide +kernel
  exact ⟨rfl, alone.1 rfl, rfl, joins, beside.2.1 joins⟩

end Junction.RightOfWay
