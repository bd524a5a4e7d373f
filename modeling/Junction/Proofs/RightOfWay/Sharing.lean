import Junction.Proofs.RightOfWay.Refusals

/-! # The slot that a vehicle shares

Behind others a vehicle shares the slot of a peer that is not in its way, and where there are
several such peers one of them is chosen. The choice decides about the slot and about nothing else:
whether the answer is positive, and before which instant it never is, follow from the peers alone.
So to choose the peer that enters earliest never makes the vehicle wait longer.
-/

namespace Junction

namespace SlotChoice

/-- The place of an entry time in the order in which peers are chosen. -/
def entryRank : Option Timestamp → Nat
  | none => 0
  | some t => t.ms + 1

theorem entersBefore_iff {t u : Option Timestamp} :
    entersBefore t u = true ↔ entryRank t < entryRank u := by
  cases t <;> cases u <;> simp [entersBefore, entryRank, Timestamp.lt_iff]

theorem earliest_eq_none {candidates : List Neighbor} :
    earliest candidates = none ↔ candidates = [] := by
  cases candidates with
  | nil => simp [earliest]
  | cons n rest =>
      simp only [earliest, reduceCtorEq, iff_false]
      split
      · simp
      · split <;> simp

theorem entryRank_earliest_le {candidates : List Neighbor} {n : Neighbor}
    (chosen : earliest candidates = some n) :
    ∀ m ∈ candidates, entryRank n.entryTime ≤ entryRank m.entryTime := by
  induction candidates generalizing n with
  | nil => cases chosen
  | cons a rest ih =>
      simp only [earliest] at chosen
      split at chosen
      · next none =>
        obtain rfl := Option.some.inj chosen
        simp [earliest_eq_none.mp none]
      · next k found =>
        have least := ih found
        split at chosen
        · next before =>
          obtain rfl := Option.some.inj chosen
          exact List.forall_mem_cons.mpr ⟨Nat.le_of_lt (entersBefore_iff.mp before), least⟩
        · next behind =>
          obtain rfl := Option.some.inj chosen
          have first := Nat.not_lt.mp (mt entersBefore_iff.mpr behind)
          exact List.forall_mem_cons.mpr
            ⟨Nat.le_refl _, fun m later => Nat.le_trans first (least m later)⟩

theorem id_earliest_lt {candidates : List Neighbor} {n : Neighbor}
    (ascending : Roster.Ascending Neighbor.id candidates) (chosen : earliest candidates = some n) :
    ∀ m ∈ candidates, entryRank m.entryTime = entryRank n.entryTime → m = n ∨ n.id < m.id := by
  induction candidates generalizing n with
  | nil => cases chosen
  | cons a rest ih =>
      obtain ⟨before, tail⟩ := List.pairwise_cons.mp ascending
      simp only [earliest] at chosen
      split at chosen
      · next none =>
        obtain rfl := Option.some.inj chosen
        simp [earliest_eq_none.mp none]
      · next k found =>
        split at chosen
        · next earlier =>
          obtain rfl := Option.some.inj chosen
          refine List.forall_mem_cons.mpr ⟨?_, ih tail found⟩
          intro same
          exact absurd same (Nat.ne_of_gt (entersBefore_iff.mp earlier))
        · next behind =>
          obtain rfl := Option.some.inj chosen
          exact List.forall_mem_cons.mpr
            ⟨fun _ => Or.inl rfl, fun m later _ => Or.inr (before m later)⟩

end SlotChoice

/-- Both peers have published when they enter, and the first enters earlier, or at the same time and
    has the lower identifier. -/
def Neighbor.EntersAhead (n m : Neighbor) : Prop :=
  ∃ t u, n.entryTime = some t ∧ m.entryTime = some u ∧ (t < u ∨ t = u ∧ n.id < m.id)

/-- One of the candidates comes before all others. -/
structure IsEarliest (candidates : List Neighbor) (n : Neighbor) : Prop where
  candidate : n ∈ candidates
  first : ∀ m ∈ candidates, m = n ∨ n.EntersAhead m

theorem Neighbor.EntersAhead.asymm {n m : Neighbor} (h : n.EntersAhead m) : ¬m.EntersAhead n := by
  rintro ⟨u', t', entry', entry, order'⟩
  obtain ⟨t, u, said, said', order⟩ := h
  obtain rfl := Option.some.inj (said.symm.trans entry)
  obtain rfl := Option.some.inj (said'.symm.trans entry')
  simp only [Timestamp.lt_iff, VehicleId.lt_iff, Timestamp.ext_iff] at order order'
  omega

theorem IsEarliest.unique {candidates : List Neighbor} {n m : Neighbor}
    (h : IsEarliest candidates n) (k : IsEarliest candidates m) : n = m := by
  rcases h.first m k.candidate with same | ahead
  · exact same.symm
  · rcases k.first n h.candidate with same | behind
    · exact same
    · exact absurd behind ahead.asymm

namespace SlotChoice

variable {candidates : List Neighbor} {n : Neighbor}

theorem isEarliest_of_earliest (ascending : Roster.Ascending Neighbor.id candidates)
    (published : ∀ m ∈ candidates, m.entryTime.isSome = true)
    (chosen : earliest candidates = some n) : IsEarliest candidates n := by
  refine ⟨earliest_mem chosen, ?_⟩
  intro m member
  obtain ⟨t, said⟩ := Option.isSome_iff_exists.mp (published n (earliest_mem chosen))
  obtain ⟨u, said'⟩ := Option.isSome_iff_exists.mp (published m member)
  have least := entryRank_earliest_le chosen m member
  have tied := id_earliest_lt ascending chosen m member
  simp only [said, said', entryRank, Nat.add_le_add_iff_right, Nat.add_right_cancel_iff]
    at least tied
  rcases Nat.eq_or_lt_of_le least with same | before
  · refine (tied same.symm).imp_right fun lower => ?_
    exact ⟨t, u, said, said', Or.inr ⟨Timestamp.ext same, lower⟩⟩
  · exact Or.inr ⟨t, u, said, said', Or.inl before⟩

/-- Of peers in order of their identifiers that all have published when they enter, the one that
    comes before all others is chosen. -/
theorem earliest_eq_some_iff (ascending : Roster.Ascending Neighbor.id candidates)
    (published : ∀ m ∈ candidates, m.entryTime.isSome = true) :
    earliest candidates = some n ↔ IsEarliest candidates n := by
  refine ⟨isEarliest_of_earliest ascending published, ?_⟩
  intro first
  cases chosen : earliest candidates with
  | none =>
      have member := first.candidate
      rw [earliest_eq_none.mp chosen] at member
      cases member
  | some m => rw [first.unique (isEarliest_of_earliest ascending published chosen)]

end SlotChoice

namespace Evaluation

def askedAt (e : Evaluation) (t : Timestamp) : Evaluation := { e with now := t }

/-- The peers that wait, go first and have published when they enter. -/
def published (e : Evaluation) (p : Precedence) : List Neighbor :=
  (e.outranking p).filter fun n => n.entryTime.isSome

/-- Those of them that are not in the way. -/
def shareable (e : Evaluation) (conflicts : ConflictTest) (p : Precedence) : List Neighbor :=
  (e.published p).filter fun n => !e.clashes conflicts n

/-- The slot of the peer that is chosen, or else the exit of all that go first. -/
def slotBy (e : Evaluation) (conflicts : ConflictTest) (slots : SlotSelection) (p : Precedence) :
    Option Timestamp :=
  match slots (e.shareable conflicts p) with
  | some shared => shared.entryTime
  | none => ((e.published p).filterMap Neighbor.exitTime).max?

variable {e : Evaluation} {conflicts : ConflictTest} {p : Precedence} {n : Neighbor}

theorem published_of_shareable (offered : n ∈ e.shareable conflicts p) :
    n.entryTime.isSome = true :=
  (List.mem_filter.mp (List.mem_filter.mp offered).1).2

theorem ascending_shareable (ascending : Roster.Ascending Neighbor.id e.neighbors.neighbors) :
    Roster.Ascending Neighbor.id (e.shareable conflicts p) :=
  (((ascending.filter _).filter _).filter _).filter _

theorem slotBy_earliest_le (e : Evaluation) (conflicts : ConflictTest) (p : Precedence)
    (otherwise : Timestamp) :
    (e.slotBy conflicts SlotChoice.earliestEntry.select p).getD otherwise ≤
      (e.slotBy conflicts SlotChoice.firstFit.select p).getD otherwise := by
  simp only [slotBy, SlotChoice.select]
  cases chosen : SlotChoice.earliest (e.shareable conflicts p) with
  | none =>
      rw [SlotChoice.earliest_eq_none.mp chosen]
      exact Timestamp.le_refl _
  | some n =>
      have offered := SlotChoice.earliest_mem chosen
      cases first : (e.shareable conflicts p).head? with
      | none =>
          rw [List.head?_eq_none_iff.mp first] at offered
          cases offered
      | some m =>
          have offered' := List.mem_of_mem_head? (Option.mem_def.mpr first)
          obtain ⟨t, said⟩ := Option.isSome_iff_exists.mp (published_of_shareable offered)
          obtain ⟨u, said'⟩ := Option.isSome_iff_exists.mp (published_of_shareable offered')
          have least := SlotChoice.entryRank_earliest_le chosen m offered'
          simpa [said, said', SlotChoice.entryRank, Timestamp.le_iff] using least

end Evaluation

namespace RightOfWay

variable {conflicts : ConflictTest} {slots : SlotSelection} {p : Precedence} {e : Evaluation}

/-- What becomes of a question whichever peer is chosen and whenever it is asked: it is always
    refused; or it is answered by a fixed slot, or else by the present instant; or the slot is the
    one aimed at behind others. No answer names an instant before the bound. -/
inductive Shape (conflicts : ConflictTest) (p : Precedence) (e : Evaluation)
    (answer : SlotSelection → Timestamp → Clearance) : Prop where
  | refused (all : ∀ slots t, answer slots t = .wait)
  | fixed (bound slot : Option Timestamp)
      (all : ∀ slots t, answer slots t = .startingAt (notBefore bound (slot.getD t)))
  | behind (bound : Option Timestamp)
      (all : ∀ slots t, answer slots t =
        .startingAt (notBefore bound ((e.slotBy conflicts slots p).getD t)))

theorem queue_askedAt {bound : Option Timestamp} {t : Timestamp} :
    queue conflicts slots p (e.askedAt t) bound =
      if (e.outranking p).isEmpty then .startingAt (notBefore bound t)
      else if (e.outranking p).any fun n => n.entryTime.isNone && e.clashes conflicts n then .wait
      else if (e.published p).isEmpty then .wait
      else
        let inTheWay := (e.published p).filter (e.clashes conflicts)
        let bound := (bound.toList ++ inTheWay.filterMap Neighbor.exitTime).max?
        .startingAt (notBefore bound ((e.slotBy conflicts slots p).getD t)) := by
  have slot : ((e.slotBy conflicts slots p).getD t) =
      match slots (e.shareable conflicts p) with
      | some shared => shared.entryTime.getD t
      | none => ((e.published p).filterMap Neighbor.exitTime).max?.getD t := by
    simp only [Evaluation.slotBy]
    split <;> rfl
  rw [slot]
  rfl

theorem shape_queue (bound : Option Timestamp) :
    Shape conflicts p e fun slots t => queue conflicts slots p (e.askedAt t) bound := by
  by_cases nobody : (e.outranking p).isEmpty = true
  · exact .fixed bound none fun slots t => by rw [queue_askedAt, if_pos nobody]; rfl
  · by_cases silent : ((e.outranking p).any fun n =>
        n.entryTime.isNone && e.clashes conflicts n) = true
    · exact .refused fun slots t => by rw [queue_askedAt, if_neg nobody, if_pos silent]
    · by_cases unpublished : (e.published p).isEmpty = true
      · exact .refused fun slots t => by
          rw [queue_askedAt, if_neg nobody, if_neg silent, if_pos unpublished]
      · exact .behind _ fun slots t => by
          rw [queue_askedAt, if_neg nobody, if_neg silent, if_neg unpublished]

theorem shape_joinAt (slot : Option Timestamp) :
    Shape conflicts p e fun _ t => joinAt conflicts p (e.askedAt t) (slot.getD t) := by
  have asked : ∀ t, exits? (((e.askedAt t).outranking p).filter ((e.askedAt t).clashes conflicts)) =
      exits? ((e.outranking p).filter (e.clashes conflicts)) := fun _ => rfl
  cases known : exits? ((e.outranking p).filter (e.clashes conflicts)) with
  | none => exact .refused fun _ t => by simp only [joinAt, asked, known]
  | some exits => exact .fixed exits.max? slot fun _ t => by simp only [joinAt, asked, known]

theorem shape_reserve :
    Shape conflicts p e fun slots t => reserve conflicts slots p (e.askedAt t) := by
  have inside : ∀ t, (e.askedAt t).neighbors.crossing = e.neighbors.crossing := fun _ => rfl
  have clashes : ∀ t, (e.askedAt t).clashes conflicts = e.clashes conflicts := fun _ => rfl
  have now : ∀ t, (e.askedAt t).now = t := fun _ => rfl
  cases known : exits? (e.neighbors.crossing.filter (e.clashes conflicts)) with
  | none => exact .refused fun slots t => by simp only [reserve, inside, clashes, known]
  | some exits =>
      simp only [reserve, inside, clashes, now, known]
      cases latest : exits.max? with
      | some bound => exact shape_queue (some bound)
      | none =>
          cases e.neighbors.crossing.find? fun n => !e.clashes conflicts n with
          | none => exact shape_queue none
          | some host => exact shape_joinAt host.entryTime

theorem notBefore_le_notBefore (bound : Option Timestamp) {t u : Timestamp} (h : t ≤ u) :
    notBefore bound t ≤ notBefore bound u := by
  cases bound with
  | none => exact h
  | some b =>
      simp only [notBefore, Timestamp.le_iff, Timestamp.max_ms] at h ⊢
      omega

/-- The choice of a peer is without effect, or it decides about the slot and about nothing else. -/
theorem reservation_of_choice (conflicts : ConflictTest) (base : Baseline) (e : Evaluation) :
    (∃ c, ∀ slots, (reservation conflicts slots base).answer e = c) ∨
      ∃ bound, ∀ slots, (reservation conflicts slots base).answer e =
        .startingAt (notBefore bound
          ((e.slotBy conflicts slots base.precedence).getD e.now)) := by
  by_cases first : base.hasPriority e = true
  · exact Or.inl ⟨_, fun slots => if_pos first⟩
  · have behind : ∀ slots, (reservation conflicts slots base).answer e =
        reserve conflicts slots base.precedence (e.askedAt e.now) := fun slots => if_neg first
    simp only [behind]
    have shape : Shape conflicts base.precedence e fun slots t =>
        reserve conflicts slots base.precedence (e.askedAt t) := shape_reserve
    cases shape with
    | refused all => exact Or.inl ⟨_, fun slots => all slots e.now⟩
    | fixed bound slot all => exact Or.inl ⟨_, fun slots => all slots e.now⟩
    | behind bound all => exact Or.inr ⟨bound, fun slots => all slots e.now⟩

/-- Whatever is known of the peers, whichever routes conflict and whatever rule lies beneath: to
    choose the earliest slot and to choose the first one are refused alike, and the earliest slot is
    never the later one. Only the choice among the peers whose slots can be shared matters. Of
    these, listed in order of their identifiers as a snapshot lists them, the one that enters
    earliest is chosen, and of several that do the one with the lowest identifier. -/
theorem earliest_not_after_first (conflicts : ConflictTest) (base : Baseline) (e : Evaluation) :
    ((reservation conflicts SlotChoice.earliestEntry.select base).answer e).isSafe =
        ((reservation conflicts SlotChoice.firstFit.select base).answer e).isSafe ∧
      (((reservation conflicts SlotChoice.firstFit.select base).answer e).isSafe = true →
        ((reservation conflicts SlotChoice.earliestEntry.select base).answer e).safeAt ≤
          ((reservation conflicts SlotChoice.firstFit.select base).answer e).safeAt) ∧
      (∀ slots slots' : SlotSelection,
        slots (e.shareable conflicts base.precedence) =
            slots' (e.shareable conflicts base.precedence) →
          (reservation conflicts slots base).answer e =
            (reservation conflicts slots' base).answer e) ∧
      (Roster.Ascending Neighbor.id e.neighbors.neighbors → ∀ n,
        SlotChoice.earliestEntry.select (e.shareable conflicts base.precedence) = some n ↔
          IsEarliest (e.shareable conflicts base.precedence) n) := by
  have ordered : Roster.Ascending Neighbor.id e.neighbors.neighbors → ∀ n,
      SlotChoice.earliestEntry.select (e.shareable conflicts base.precedence) = some n ↔
        IsEarliest (e.shareable conflicts base.precedence) n :=
    fun ascending _ => SlotChoice.earliest_eq_some_iff (Evaluation.ascending_shareable ascending)
      fun _ => Evaluation.published_of_shareable
  rcases reservation_of_choice conflicts base e with ⟨c, same⟩ | ⟨bound, aims⟩
  · simp only [same]
    exact ⟨trivial, fun _ => Timestamp.le_refl _, fun _ _ _ => trivial, ordered⟩
  · simp only [aims]
    refine ⟨rfl, fun _ => ?_, ?_, ordered⟩
    · exact notBefore_le_notBefore bound
        (e.slotBy_earliest_le conflicts base.precedence e.now)
    · intro slots slots' alike
      simp only [Evaluation.slotBy, alike]

def entrant (v : UInt8) (route : Route) (entry : Nat) : Neighbor :=
  ⟨⟨v⟩, ⟨⟨v⟩, .reservation, .requesting, route, 0, some (.wrapping entry), some 4000⟩, .zero⟩

/-- A vehicle from the south behind three peers that go first and are not in its way. -/
def behindThree : Evaluation where
  me := ⟨4⟩
  route := ⟨⟨"S"⟩, ⟨"N"⟩⟩
  neighbors := .ofList [
    entrant 10 ⟨⟨"W"⟩, ⟨"S"⟩⟩ 2000, entrant 8 ⟨⟨"N"⟩, ⟨"S"⟩⟩ 6000, entrant 9 ⟨⟨"W"⟩, ⟨"S"⟩⟩ 2000]
  now := .wrapping 100

theorem earliest_not_after_first_behindThree :
    Roster.Ascending Neighbor.id behindThree.neighbors.neighbors ∧
      (reservation Topology.fourWay.conflicts SlotChoice.firstFit.select
        (parallel Topology.fourWay.conflicts (serial .higherFirst))).answer behindThree =
          .startingAt (.wrapping 6000) ∧
      (reservation Topology.fourWay.conflicts SlotChoice.earliestEntry.select
        (parallel Topology.fourWay.conflicts (serial .higherFirst))).answer behindThree =
          .startingAt (.wrapping 2000) ∧
      ((reservation Topology.fourWay.conflicts SlotChoice.earliestEntry.select
        (parallel Topology.fourWay.conflicts (serial .higherFirst))).answer behindThree).safeAt ≤
          ((reservation Topology.fourWay.conflicts SlotChoice.firstFit.select
            (parallel Topology.fourWay.conflicts (serial .higherFirst))).answer
              behindThree).safeAt ∧
      IsEarliest (behindThree.shareable Topology.fourWay.conflicts .higherFirst)
        (entrant 9 ⟨⟨"W"⟩, ⟨"S"⟩⟩ 2000) := by
  have ascending : Roster.Ascending Neighbor.id behindThree.neighbors.neighbors :=
    Roster.ascending_ofList _ _
  have first : (reservation Topology.fourWay.conflicts SlotChoice.firstFit.select
      (parallel Topology.fourWay.conflicts (serial .higherFirst))).answer behindThree =
        .startingAt (.wrapping 6000) := by decide +kernel
  have chosen : SlotChoice.earliestEntry.select
      (behindThree.shareable Topology.fourWay.conflicts .higherFirst) =
        some (entrant 9 ⟨⟨"W"⟩, ⟨"S"⟩⟩ 2000) := by decide +kernel
  obtain ⟨-, sooner, -, ordered⟩ := earliest_not_after_first Topology.fourWay.conflicts
    (parallel Topology.fourWay.conflicts (serial .higherFirst)) behindThree
  refine ⟨ascending, first, by decide +kernel, ?_, (ordered ascending _).mp chosen⟩
  exact sooner (congrArg Clearance.isSafe first)

end RightOfWay

end Junction
