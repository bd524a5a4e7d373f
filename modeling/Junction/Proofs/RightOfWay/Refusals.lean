import Junction.Proofs.RightOfWay.Layers

/-! # Whom each rule refuses

The parallel rule refuses a vehicle unless the vehicle comes first of all or may join those inside.
The reserving rule can name an instant in nearly every situation: it refuses a vehicle only while a
peer that goes first has not published when it enters, and of these only while one of them is in the
way, or while there is nothing else to go by.
-/

namespace Junction

theorem Neighbor.exitTime_eq_none {n : Neighbor} : n.exitTime = none ↔ n.entryTime = none :=
  Option.map_eq_none_iff

namespace Clearance

theorem startingAt_eq_provisional {t : Timestamp} :
    startingAt t = provisional ↔ t = .unscheduled := by
  simp [startingAt, provisional]

theorem startingAt_ne_wait (t : Timestamp) : startingAt t ≠ wait := by
  simp [startingAt, wait]

end Clearance

namespace RightOfWay

variable {conflicts : ConflictTest} {slots : SlotSelection} {p : Precedence} {e : Evaluation}

/-- Nobody is inside, and nobody who waits goes before the vehicle. -/
structure Unrivalled (p : Precedence) (e : Evaluation) : Prop where
  nobody : e.neighbors.crossing = []
  foremost : e.outranking p = []

theorem comesFirst_iff_unrivalled : comesFirst p e = true ↔ Unrivalled p e := by
  rw [comesFirst, Bool.and_eq_true, List.isEmpty_iff, List.isEmpty_iff]
  exact ⟨fun h => ⟨h.1, h.2⟩, fun h => ⟨h.nobody, h.foremost⟩⟩

theorem Unrivalled.not_mayJoin (first : Unrivalled p e) : ¬MayJoin conflicts p e :=
  fun joins => joins.somebody first.nobody

theorem parallel_of_unrivalled (first : Unrivalled p e) :
    (parallel conflicts (serial p)).answer e = .provisional := by
  have granted : (serial p).answer e = .provisional := if_pos (comesFirst_iff_unrivalled.mpr first)
  rw [parallel_of_isSafe (by rw [granted]; rfl), granted]

theorem parallel_of_rivalled (behind : ¬Unrivalled p e) :
    (parallel conflicts (serial p)).answer e = join conflicts p .wait e := by
  have refused : (serial p).answer e = .wait := if_neg (mt comesFirst_iff_unrivalled.mp behind)
  rw [parallel_of_refused (by rw [refused]; rfl), refused]
  rfl

theorem parallel_of_mayJoin (joins : MayJoin conflicts p e) :
    (parallel conflicts (serial p)).answer e = .startingAt e.now := by
  rw [parallel_of_rivalled fun first => first.not_mayJoin joins]
  exact join_of_mayJoin joins .wait

theorem parallel_of_neither (behind : ¬Unrivalled p e) (alone : ¬MayJoin conflicts p e) :
    (parallel conflicts (serial p)).answer e = .wait := by
  rw [parallel_of_rivalled behind]
  exact join_of_not_mayJoin alone

/-- Whatever is known of the peers, whichever routes conflict and whoever goes before whom, the
    parallel rule gives one of three answers: a positive one without an instant to the vehicle that
    comes first, the present instant to the one that may join those inside, and a refusal to every
    other one. No vehicle is in both positions. The two positive answers are one and the same value
    where the present instant is the one that stands for none. -/
theorem parallel_answers_exactly (conflicts : ConflictTest) (p : Precedence) (e : Evaluation) :
    ((parallel conflicts (serial p)).answer e = .provisional ↔
        Unrivalled p e ∨ e.now = .unscheduled ∧ MayJoin conflicts p e) ∧
      ((parallel conflicts (serial p)).answer e = .startingAt e.now ↔
        MayJoin conflicts p e ∨ e.now = .unscheduled ∧ Unrivalled p e) ∧
      ((parallel conflicts (serial p)).answer e = .wait ↔
        ¬Unrivalled p e ∧ ¬MayJoin conflicts p e) ∧
      ¬(Unrivalled p e ∧ MayJoin conflicts p e) := by
  have same : Clearance.startingAt e.now = .provisional ↔ e.now = .unscheduled :=
    Clearance.startingAt_eq_provisional
  have positive : Clearance.provisional ≠ .wait := Clearance.startingAt_ne_wait .unscheduled
  have positiveNow : Clearance.startingAt e.now ≠ .wait := Clearance.startingAt_ne_wait e.now
  by_cases first : Unrivalled p e
  · have alone : ¬MayJoin conflicts p e := first.not_mayJoin
    rw [parallel_of_unrivalled first, eq_comm (b := Clearance.startingAt e.now), same]
    simp [first, alone, positive]
  · by_cases joins : MayJoin conflicts p e
    · rw [parallel_of_mayJoin joins, same]
      simp [first, joins, positiveNow]
    · rw [parallel_of_neither first joins]
      simp [first, joins, positive.symm, positiveNow.symm]

/-- Each of the three answers is given in a position of its own, and in that one only. -/
structure AnswersApart (conflicts : ConflictTest) (p : Precedence) (e : Evaluation) : Prop where
  first : (parallel conflicts (serial p)).answer e = .provisional ↔ Unrivalled p e
  joins : (parallel conflicts (serial p)).answer e = .startingAt e.now ↔ MayJoin conflicts p e
  refused : (parallel conflicts (serial p)).answer e = .wait ↔
    ¬Unrivalled p e ∧ ¬MayJoin conflicts p e

/-- A vehicle that joins at the instant that stands for none gets the answer without an instant. -/
theorem not_answersApart :
    ¬AnswersApart Topology.fourWay.conflicts .higherFirst
      { fourBesideThree with now := .unscheduled } := by
  intro apart
  have joins : MayJoin Topology.fourWay.conflicts .higherFirst
      { fourBesideThree with now := .unscheduled } :=
    ⟨by decide, by decide +kernel, by decide +kernel⟩
  have given : (parallel Topology.fourWay.conflicts (serial .higherFirst)).answer
      { fourBesideThree with now := .unscheduled } = .provisional := parallel_of_mayJoin joins
  exact joins.somebody (apart.first.mp given).nobody

theorem exits?_eq_none {neighbors : List Neighbor} :
    exits? neighbors = none ↔ ∃ n ∈ neighbors, n.entryTime = none := by
  induction neighbors with
  | nil => simp [exits?]
  | cons n rest ih =>
      rw [exits?_cons]
      cases said : n.exitTime with
      | none =>
          have silent := Neighbor.exitTime_eq_none.mp said
          simp [silent]
      | some exit =>
          have entered : n.entryTime ≠ none := by
            intro silent
            rw [Neighbor.exitTime_eq_none.mpr silent] at said
            cases said
          simp [ih, entered]

theorem joinAt_refuses_iff {t : Timestamp} :
    (joinAt conflicts p e t).isSafe = false ↔
      ∃ n ∈ e.outranking p, e.clashes conflicts n = true ∧ n.entryTime = none := by
  unfold joinAt
  split
  · next unknown =>
    obtain ⟨n, rival, silent⟩ := exits?_eq_none.mp unknown
    obtain ⟨ahead, clash⟩ := List.mem_filter.mp rival
    exact iff_of_true rfl ⟨n, ahead, clash, silent⟩
  · next exits known =>
    refine iff_of_false (ne_false_of_eq_true rfl) ?_
    rintro ⟨n, ahead, clash, silent⟩
    have unknown := exits?_eq_none.mpr ⟨n, List.mem_filter.mpr ⟨ahead, clash⟩, silent⟩
    cases known.symm.trans unknown

theorem queue_refuses_iff {bound : Option Timestamp} :
    (queue conflicts slots p e bound).isSafe = false ↔
      (∃ n ∈ e.outranking p, e.clashes conflicts n = true ∧ n.entryTime = none) ∨
        e.outranking p ≠ [] ∧ ∀ n ∈ e.outranking p, n.entryTime = none := by
  simp only [queue]
  split
  · next nobody =>
    have empty := List.isEmpty_iff.mp nobody
    simp [empty, Clearance.startingAt]
  · next somebody =>
    have present : e.outranking p ≠ [] := mt List.isEmpty_iff.mpr somebody
    split
    · next unanswered =>
      refine iff_of_true rfl (Or.inl ?_)
      simpa [and_comm] using unanswered
    · next answered =>
      have published :
          ∀ n ∈ e.outranking p, n.entryTime = none → e.clashes conflicts n = false := by
        simpa using answered
      split
      · next unpublished =>
        refine iff_of_true rfl (Or.inr ⟨present, ?_⟩)
        simpa using unpublished
      · next somePublished =>
        refine iff_of_false (ne_false_of_eq_true rfl) ?_
        rintro (⟨n, ahead, clash, silent⟩ | ⟨-, silent⟩)
        · cases clash.symm.trans (published n ahead silent)
        · exact somePublished (by simpa using silent)

/-- Somebody is inside, and nobody inside is in the way. -/
def Hosted (conflicts : ConflictTest) (e : Evaluation) : Prop :=
  e.neighbors.crossing ≠ [] ∧ ∀ n ∈ e.neighbors.crossing, e.clashes conflicts n = false

theorem hosted_iff {exits : List Timestamp}
    (known : exits? (e.neighbors.crossing.filter (e.clashes conflicts)) = some exits) :
    Hosted conflicts e ↔
      exits.max? = none ∧
        ∃ host, e.neighbors.crossing.find? (fun n => !e.clashes conflicts n) = some host := by
  constructor
  · rintro ⟨somebody, free⟩
    have nobody : e.neighbors.crossing.filter (e.clashes conflicts) = [] := by simpa using free
    rw [nobody] at known
    obtain rfl : [] = exits := by simpa [exits?] using known
    obtain ⟨host, others, listed⟩ := List.exists_cons_of_ne_nil somebody
    have hostFree : e.clashes conflicts host = false := free host (by simp [listed])
    exact ⟨rfl, host, by simp [listed, hostFree]⟩
  · rintro ⟨noExit, host, found⟩
    refine ⟨List.ne_nil_of_mem (List.mem_of_find?_eq_some found), ?_⟩
    intro n inside
    apply Bool.eq_false_iff.mpr
    intro clash
    obtain ⟨latest, exit, -⟩ := isOutBy_latest known (List.mem_filter.mpr ⟨inside, clash⟩)
    cases noExit.symm.trans exit

/-- The vehicle has to wait for a peer to publish when it enters. -/
inductive HeldUp (conflicts : ConflictTest) (p : Precedence) (e : Evaluation) : Prop where
  /-- The peer is inside and in the way. -/
  | byOccupant (n : Neighbor) (inside : n ∈ e.neighbors.crossing)
      (clash : e.clashes conflicts n = true) (silent : n.entryTime = none)
  /-- The peer waits, goes first and is in the way. -/
  | byRival (n : Neighbor) (ahead : n ∈ e.outranking p) (clash : e.clashes conflicts n = true)
      (silent : n.entryTime = none)
  /-- None of the peers that wait and go first has published, and there is nobody to join. -/
  | byAll (somebody : e.outranking p ≠ []) (silent : ∀ n ∈ e.outranking p, n.entryTime = none)
      (alone : ¬Hosted conflicts e)

theorem reserve_refuses_iff :
    (reserve conflicts slots p e).isSafe = false ↔ HeldUp conflicts p e := by
  simp only [reserve]
  split
  · next unknown =>
    obtain ⟨n, occupant, silent⟩ := exits?_eq_none.mp unknown
    obtain ⟨inside, clash⟩ := List.mem_filter.mp occupant
    exact iff_of_true rfl (.byOccupant n inside clash silent)
  · next exits known =>
    have published : ∀ n ∈ e.neighbors.crossing, e.clashes conflicts n = true →
        n.entryTime ≠ none := by
      intro n inside clash silent
      have unknown := exits?_eq_none.mpr ⟨n, List.mem_filter.mpr ⟨inside, clash⟩, silent⟩
      cases known.symm.trans unknown
    split
    · next host noExit found =>
      rw [joinAt_refuses_iff]
      constructor
      · rintro ⟨n, ahead, clash, silent⟩
        exact .byRival n ahead clash silent
      · intro held
        cases held with
        | byOccupant n inside clash silent => exact absurd silent (published n inside clash)
        | byRival n ahead clash silent => exact ⟨n, ahead, clash, silent⟩
        | byAll _ _ alone => exact absurd ((hosted_iff known).mpr ⟨noExit, host, found⟩) alone
    · next bound unjoined =>
      rw [queue_refuses_iff]
      constructor
      · rintro (⟨n, ahead, clash, silent⟩ | ⟨somebody, silent⟩)
        · exact .byRival n ahead clash silent
        · refine .byAll somebody silent ?_
          intro hosted
          obtain ⟨noExit, host, found⟩ := (hosted_iff known).mp hosted
          exact unjoined host noExit found
      · intro held
        cases held with
        | byOccupant n inside clash silent => exact absurd silent (published n inside clash)
        | byRival n ahead clash silent => exact Or.inl ⟨n, ahead, clash, silent⟩
        | byAll somebody silent _ => exact Or.inr ⟨somebody, silent⟩

theorem Unrivalled.not_heldUp (first : Unrivalled p e) : ¬HeldUp conflicts p e := by
  intro held
  cases held with
  | byOccupant n inside => exact List.ne_nil_of_mem inside first.nobody
  | byRival n ahead => exact List.ne_nil_of_mem ahead first.foremost
  | byAll somebody => exact somebody first.foremost

theorem reservation_refuses_iff_heldUp :
    ((reservation conflicts slots (parallel conflicts (serial p))).answer e).isSafe = false ↔
      HeldUp conflicts p e := by
  rw [reservation_answer]
  split
  · next first =>
    exact iff_of_false (ne_false_of_eq_true rfl) (comesFirst_iff_unrivalled.mp first).not_heldUp
  · exact reserve_refuses_iff

theorem crossing_ne_nil_iff :
    e.neighbors.crossing ≠ [] ↔ ∃ n ∈ e.neighbors.neighbors, n.status = .crossing := by
  simp [List.eq_nil_iff_forall_not_mem, Snapshot.mem_crossing]

theorem outranking_ne_nil_iff :
    e.outranking p ≠ [] ↔
      ∃ n ∈ e.neighbors.neighbors, n.status = .requesting ∧ p.outranks n.id e.me = true := by
  simp [List.eq_nil_iff_forall_not_mem, Evaluation.mem_outranking]

theorem hosted_iff_exists :
    Hosted conflicts e ↔
      (∃ n ∈ e.neighbors.neighbors, n.status = .crossing) ∧
        ∀ n ∈ e.neighbors.neighbors, n.status = .crossing → conflicts e.route n.route = false := by
  simp only [Hosted, crossing_ne_nil_iff, Snapshot.mem_crossing, and_imp]
  rfl

/-- Whatever is known of the peers, whichever routes conflict, whoever goes before whom and however
    a shared slot is chosen: the reserving rule refuses a vehicle exactly if a peer inside is in the
    way and has not published when it enters, or a peer that waits and goes first is and has not, or
    if peers wait and go first of which none has published, and it is not so that somebody is inside
    and nobody inside is in the way. -/
theorem reservation_refuses_iff (conflicts : ConflictTest) (slots : SlotSelection) (p : Precedence)
    (e : Evaluation) :
    ((reservation conflicts slots (parallel conflicts (serial p))).answer e).isSafe = false ↔
      (∃ n ∈ e.neighbors.neighbors, n.status = .crossing ∧ conflicts e.route n.route = true ∧
          n.entryTime = none) ∨
        (∃ n ∈ e.neighbors.neighbors, n.status = .requesting ∧
          conflicts e.route n.route = true ∧ p.outranks n.id e.me = true ∧ n.entryTime = none) ∨
        (∃ n ∈ e.neighbors.neighbors, n.status = .requesting ∧ p.outranks n.id e.me = true) ∧
          (∀ n ∈ e.neighbors.neighbors, n.status = .requesting → p.outranks n.id e.me = true →
            n.entryTime = none) ∧
          ¬((∃ n ∈ e.neighbors.neighbors, n.status = .crossing) ∧
            ∀ n ∈ e.neighbors.neighbors, n.status = .crossing →
              conflicts e.route n.route = false) := by
  rw [reservation_refuses_iff_heldUp, ← hosted_iff_exists, ← outranking_ne_nil_iff]
  constructor
  · intro held
    cases held with
    | byOccupant n inside clash silent =>
        obtain ⟨seen, crossing⟩ := Snapshot.mem_crossing.mp inside
        exact Or.inl ⟨n, seen, crossing, clash, silent⟩
    | byRival n ahead clash silent =>
        obtain ⟨seen, waiting, before⟩ := Evaluation.mem_outranking.mp ahead
        exact Or.inr (Or.inl ⟨n, seen, waiting, clash, before, silent⟩)
    | byAll somebody silent alone =>
        refine Or.inr (Or.inr ⟨somebody, ?_, alone⟩)
        intro n seen waiting before
        exact silent n (Evaluation.mem_outranking.mpr ⟨seen, waiting, before⟩)
  · rintro (⟨n, seen, crossing, clash, silent⟩ | ⟨n, seen, waiting, clash, before, silent⟩ |
      ⟨somebody, silent, alone⟩)
    · exact .byOccupant n (Snapshot.mem_crossing.mpr ⟨seen, crossing⟩) clash silent
    · exact .byRival n (Evaluation.mem_outranking.mpr ⟨seen, waiting, before⟩) clash silent
    · refine .byAll somebody ?_ alone
      intro n ahead
      obtain ⟨seen, waiting, before⟩ := Evaluation.mem_outranking.mp ahead
      exact silent n seen waiting before

end RightOfWay

end Junction
