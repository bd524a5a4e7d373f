import Junction.Proofs.Time.Order
import Junction.RightOfWay.Stack
import Junction.Road.FourWay

/-! # The instants that reservations name

A vehicle has to let peers go first that are in its way and are inside, or wait and go before it.
An answer of the reserving rule names no instant before one of these peers is due out, and no
instant that comes after everything the vehicle has heard of.
-/

namespace Junction

/-- The vehicle has to let a peer go first. -/
structure Evaluation.YieldsTo (e : Evaluation) (conflicts : ConflictTest) (p : Precedence)
    (n : Neighbor) : Prop where
  seen : n ∈ e.neighbors.neighbors
  clash : e.clashes conflicts n = true
  ahead : n.status = .crossing ∨ n.status = .requesting ∧ p.outranks n.id e.me = true

/-- A peer that goes first has said when it will have left, and that is not after `t`. -/
def Neighbor.IsOutBy (n : Neighbor) (t : Timestamp) : Prop :=
  ∃ exit, n.exitTime = some exit ∧ exit ≤ t

instance (n : Neighbor) (t : Timestamp) : Decidable (n.IsOutBy t) :=
  decidable_of_iff (n.exitTime.any (fun exit => decide (exit ≤ t)) = true) (by
    simp [Neighbor.IsOutBy, Option.any_eq_true])

theorem Neighbor.IsOutBy.mono {n : Neighbor} {t u : Timestamp} (h : n.IsOutBy t) (later : t ≤ u) :
    n.IsOutBy u := by
  obtain ⟨exit, said, before⟩ := h
  exact ⟨exit, said, Timestamp.le_trans before later⟩

theorem Neighbor.exitTime_of_entryTime {n : Neighbor} {t : Timestamp} (h : n.entryTime = some t) :
    ∃ exit, n.exitTime = some exit ∧ t ≤ exit := by
  have said : n.beacon.entryTime = some t := h
  refine ⟨t.plus (n.beacon.crossingMs.elim 0 UInt64.toNat), ?_, Timestamp.le_plus _ _⟩
  simp [Neighbor.exitTime, Beacon.exitTime, said]

namespace RightOfWay

variable {conflicts : ConflictTest} {slots : SlotSelection} {p : Precedence} {e : Evaluation}

theorem le_notBefore {bound : Option Timestamp} {b : Timestamp} (h : bound = some b)
    (t : Timestamp) : b ≤ notBefore bound t := by
  subst h
  simp only [notBefore, Timestamp.le_iff, Timestamp.max_ms]
  omega

theorem notBefore_ms_le {bound : Option Timestamp} {t : Timestamp} {limit : Nat}
    (bounded : ∀ b, bound = some b → b.ms ≤ limit) (small : t.ms ≤ limit) :
    (notBefore bound t).ms ≤ limit := by
  cases bound with
  | none => exact small
  | some b =>
      have := bounded b rfl
      simp only [notBefore, Timestamp.max_ms]
      omega

theorem exits?_cons (n : Neighbor) (rest : List Neighbor) :
    exits? (n :: rest) =
      n.exitTime.bind fun exit => (exits? rest).map fun exits => exit :: exits := by
  simp only [exits?, List.mapM_cons, Option.map_eq_bind]
  rfl

theorem mem_exits? {neighbors : List Neighbor} {exits : List Timestamp}
    (h : exits? neighbors = some exits) :
    (∀ n ∈ neighbors, ∃ exit ∈ exits, n.exitTime = some exit) ∧
      ∀ exit ∈ exits, ∃ n ∈ neighbors, n.exitTime = some exit := by
  induction neighbors generalizing exits with
  | nil =>
      obtain rfl : [] = exits := by simpa [exits?] using h
      simp
  | cons n rest ih =>
      rw [exits?_cons] at h
      obtain ⟨exit, said, others⟩ := Option.bind_eq_some_iff.mp h
      obtain ⟨tail, known, rfl⟩ := Option.map_eq_some_iff.mp others
      obtain ⟨listed, origin⟩ := ih known
      constructor
      · intro m member
        rcases List.mem_cons.mp member with rfl | later
        · exact ⟨exit, List.mem_cons_self, said⟩
        · obtain ⟨u, inside, same⟩ := listed m later
          exact ⟨u, List.mem_cons_of_mem _ inside, same⟩
      · intro u member
        rcases List.mem_cons.mp member with rfl | later
        · exact ⟨n, List.mem_cons_self, said⟩
        · obtain ⟨m, inside, same⟩ := origin u later
          exact ⟨m, List.mem_cons_of_mem _ inside, same⟩

theorem isOutBy_latest {neighbors : List Neighbor} {exits : List Timestamp}
    (h : exits? neighbors = some exits) {n : Neighbor} (member : n ∈ neighbors) :
    ∃ latest, exits.max? = some latest ∧ n.IsOutBy latest := by
  obtain ⟨exit, listed, said⟩ := (mem_exits? h).1 n member
  cases found : exits.max? with
  | none =>
      rw [List.max?_eq_none_iff] at found
      subst found
      cases listed
  | some latest => exact ⟨latest, rfl, exit, said, (List.max?_eq_some_iff.mp found).2 exit listed⟩

theorem isOutBy_of_joinAt {t : Timestamp} (safe : (joinAt conflicts p e t).isSafe = true)
    {n : Neighbor} (ahead : n ∈ e.outranking p) (clash : e.clashes conflicts n = true) :
    n.IsOutBy (joinAt conflicts p e t).safeAt := by
  unfold joinAt at safe ⊢
  split at safe
  · cases safe
  · next exits known =>
    have rival := List.mem_filter.mpr ⟨ahead, clash⟩
    obtain ⟨latest, found, out⟩ := isOutBy_latest known rival
    exact out.mono (le_notBefore found t)

theorem mem_inTheWay {n : Neighbor} (ahead : n ∈ e.outranking p)
    (clash : e.clashes conflicts n = true)
    (answered :
      ¬(e.outranking p).any (fun n => n.entryTime.isNone && e.clashes conflicts n) = true) :
    n ∈ ((e.outranking p).filter fun n => n.entryTime.isSome).filter (e.clashes conflicts) := by
  refine List.mem_filter.mpr ⟨List.mem_filter.mpr ⟨ahead, ?_⟩, clash⟩
  cases said : n.entryTime with
  | some t => rfl
  | none =>
      refine absurd (List.any_eq_true.mpr ⟨n, ahead, ?_⟩) answered
      simp [said, clash]

theorem isOutBy_of_queue {bound : Option Timestamp}
    (safe : (queue conflicts slots p e bound).isSafe = true) :
    (∀ b, bound = some b → b ≤ (queue conflicts slots p e bound).safeAt) ∧
      ∀ n ∈ e.outranking p, e.clashes conflicts n = true →
        n.IsOutBy (queue conflicts slots p e bound).safeAt := by
  simp only [queue] at safe ⊢
  split at safe
  · next nobody =>
    rw [if_pos nobody]
    refine ⟨fun b h => le_notBefore h _, ?_⟩
    intro n ahead
    rw [List.isEmpty_iff.mp nobody] at ahead
    cases ahead
  · next somebody =>
    split at safe
    · cases safe
    · next answered =>
      split at safe
      · cases safe
      · next published =>
        rw [if_neg somebody, if_neg answered, if_neg published]
        generalize listed : bound.toList ++
          (((e.outranking p).filter fun n => n.entryTime.isSome).filter
            (e.clashes conflicts)).filterMap Neighbor.exitTime = times
        have behind : ∀ t ∈ times, ∃ latest, times.max? = some latest ∧ t ≤ latest := by
          intro t member
          cases found : times.max? with
          | none =>
              rw [List.max?_eq_none_iff.mp found] at member
              cases member
          | some latest => exact ⟨latest, rfl, (List.max?_eq_some_iff.mp found).2 t member⟩
        constructor
        · rintro b rfl
          obtain ⟨latest, found, before⟩ := behind b (by simp [← listed])
          exact Timestamp.le_trans before (le_notBefore found _)
        · intro n ahead clash
          have blocking := mem_inTheWay ahead clash answered
          have entered := (List.mem_filter.mp (List.mem_filter.mp blocking).1).2
          obtain ⟨t, said⟩ := Option.isSome_iff_exists.mp entered
          obtain ⟨exit, out, -⟩ := Neighbor.exitTime_of_entryTime said
          have member : exit ∈ times := by
            rw [← listed]
            exact List.mem_append_right _ (List.mem_filterMap.mpr ⟨n, blocking, out⟩)
          obtain ⟨latest, found, before⟩ := behind exit member
          exact ⟨exit, out, Timestamp.le_trans before (le_notBefore found _)⟩

/-- A positive answer of the reserving rule names no instant before those that go first are out. -/
theorem isOutBy_of_reserve (safe : (reserve conflicts slots p e).isSafe = true) {n : Neighbor}
    (yields : e.YieldsTo conflicts p n) : n.IsOutBy (reserve conflicts slots p e).safeAt := by
  simp only [reserve] at safe ⊢
  split at safe
  · cases safe
  · next exits known =>
    have inside : n.status = .crossing →
        ∃ latest, exits.max? = some latest ∧ n.IsOutBy latest := by
      intro crossing
      have member := Snapshot.mem_crossing.mpr ⟨yields.seen, crossing⟩
      exact isOutBy_latest known (List.mem_filter.mpr ⟨member, yields.clash⟩)
    have waiting : n.status = .requesting ∧ p.outranks n.id e.me = true → n ∈ e.outranking p :=
      fun h => Evaluation.mem_outranking.mpr ⟨yields.seen, h⟩
    split at safe
    · next host nobody found =>
      rcases yields.ahead with crossing | ahead
      · obtain ⟨latest, some, -⟩ := inside crossing
        rw [nobody] at some
        cases some
      · exact isOutBy_of_joinAt safe (waiting ahead) yields.clash
    · obtain ⟨behindBound, behindPeers⟩ := isOutBy_of_queue safe
      rcases yields.ahead with crossing | ahead
      · obtain ⟨latest, found, out⟩ := inside crossing
        exact out.mono (behindBound latest found)
      · exact behindPeers n (waiting ahead) yields.clash

/-- Everything the vehicle has heard of happens by `limit`: nobody it may have to wait for means to
    leave after that. -/
structure KnownBy (p : Precedence) (e : Evaluation) (limit : Nat) : Prop where
  now : e.now.ms ≤ limit
  inside : ∀ n ∈ e.neighbors.crossing, ∀ exit, n.exitTime = some exit → exit.ms ≤ limit
  ahead : ∀ n ∈ e.outranking p, ∀ exit, n.exitTime = some exit → exit.ms ≤ limit

variable {limit : Nat}

theorem entry_ms_le {n : Neighbor} {otherwise : Timestamp}
    (exits : ∀ exit, n.exitTime = some exit → exit.ms ≤ limit) (small : otherwise.ms ≤ limit) :
    (n.entryTime.getD otherwise).ms ≤ limit := by
  cases said : n.entryTime with
  | none => exact small
  | some t =>
      obtain ⟨exit, out, before⟩ := Neighbor.exitTime_of_entryTime said
      exact Nat.le_trans before (exits exit out)

theorem joinAt_ms_le (known : KnownBy p e limit) {t : Timestamp} (small : t.ms ≤ limit)
    (safe : (joinAt conflicts p e t).isSafe = true) :
    (joinAt conflicts p e t).safeAt.ms ≤ limit := by
  unfold joinAt at safe ⊢
  split at safe
  · cases safe
  · next exits listed =>
    refine notBefore_ms_le ?_ small
    intro latest found
    obtain ⟨n, rival, said⟩ := (mem_exits? listed).2 latest (List.max?_mem found)
    exact known.ahead n (List.mem_filter.mp rival).1 latest said

theorem queue_ms_le (chosen : ∀ candidates n, slots candidates = some n → n ∈ candidates)
    (known : KnownBy p e limit) {bound : Option Timestamp}
    (bounded : ∀ b, bound = some b → b.ms ≤ limit)
    (safe : (queue conflicts slots p e bound).isSafe = true) :
    (queue conflicts slots p e bound).safeAt.ms ≤ limit := by
  simp only [queue] at safe ⊢
  split at safe
  · next nobody =>
    rw [if_pos nobody]
    exact notBefore_ms_le bounded known.now
  · next somebody =>
    split at safe
    · cases safe
    · next answered =>
      split at safe
      · cases safe
      · next published =>
        rw [if_neg somebody, if_neg answered, if_neg published]
        refine notBefore_ms_le ?_ ?_
        · intro latest found
          rcases List.mem_append.mp (List.max?_mem found) with floor | exit
          · exact bounded latest (Option.mem_toList.mp floor)
          · obtain ⟨n, blocking, said⟩ := List.mem_filterMap.mp exit
            have ahead := (List.mem_filter.mp (List.mem_filter.mp blocking).1).1
            exact known.ahead n ahead latest said
        · split
          · next shared picked =>
            have candidate := chosen _ shared picked
            have ahead := (List.mem_filter.mp (List.mem_filter.mp candidate).1).1
            exact entry_ms_le (known.ahead shared ahead) known.now
          · cases found : (((e.outranking p).filter fun n =>
                n.entryTime.isSome).filterMap Neighbor.exitTime).max? with
            | none => exact known.now
            | some latest =>
                obtain ⟨n, listed, said⟩ := List.mem_filterMap.mp (List.max?_mem found)
                exact known.ahead n (List.mem_filter.mp listed).1 latest said

/-- A positive answer of the reserving rule names no instant after everything that is known. -/
theorem reserve_ms_le (chosen : ∀ candidates n, slots candidates = some n → n ∈ candidates)
    (known : KnownBy p e limit) (safe : (reserve conflicts slots p e).isSafe = true) :
    (reserve conflicts slots p e).safeAt.ms ≤ limit := by
  simp only [reserve] at safe ⊢
  split at safe
  · cases safe
  · next exits listed =>
    split at safe
    · next host nobody found =>
      have inside := known.inside host (List.mem_of_find?_eq_some found)
      exact joinAt_ms_le known (entry_ms_le inside known.now) safe
    · refine queue_ms_le chosen known ?_ safe
      intro latest found
      obtain ⟨n, blocking, said⟩ := (mem_exits? listed).2 latest (List.max?_mem found)
      exact known.inside n (List.mem_filter.mp blocking).1 latest said

theorem reservation_answer :
    (reservation conflicts slots (parallel conflicts (serial p))).answer e =
      if comesFirst p e then .startingAt e.now else reserve conflicts slots p e := rfl

theorem isOutBy_of_reservation
    (safe : ((reservation conflicts slots (parallel conflicts (serial p))).answer e).isSafe = true)
    {n : Neighbor} (yields : e.YieldsTo conflicts p n) :
    n.IsOutBy ((reservation conflicts slots (parallel conflicts (serial p))).answer e).safeAt := by
  rw [reservation_answer] at safe ⊢
  split at safe
  · next first =>
    obtain ⟨empty, highest⟩ := comesFirst_iff.mp first
    rcases yields.ahead with crossing | ⟨waiting, before⟩
    · exact absurd crossing (empty n yields.seen)
    · rw [highest n yields.seen waiting] at before
      cases before
  · next behind =>
    rw [if_neg behind]
    exact isOutBy_of_reserve safe yields

theorem reservation_ms_le (chosen : ∀ candidates n, slots candidates = some n → n ∈ candidates)
    (known : KnownBy p e limit)
    (safe :
      ((reservation conflicts slots (parallel conflicts (serial p))).answer e).isSafe = true) :
    ((reservation conflicts slots (parallel conflicts (serial p))).answer e).safeAt.ms ≤ limit := by
  rw [reservation_answer] at safe ⊢
  split at safe
  · next first =>
    rw [if_pos first]
    exact known.now
  · next behind =>
    rw [if_neg behind]
    exact reserve_ms_le chosen known safe

/-- Whatever conflicts, whoever goes before whom, and however a shared slot is chosen: a positive
    answer comes behind the exits of all that are in the way and are inside, or wait and go first,
    and all of these have published one. -/
theorem exits_before_reserved_slot (conflicts : ConflictTest) (slots : SlotSelection)
    (p : Precedence) (e : Evaluation)
    (safe :
      ((reservation conflicts slots (parallel conflicts (serial p))).answer e).isSafe = true) :
    ∀ n ∈ e.neighbors.neighbors, conflicts e.route n.route = true →
      n.status = .crossing ∨ n.status = .requesting ∧ p.outranks n.id e.me = true →
        ∃ exit, n.exitTime = some exit ∧
          exit ≤ ((reservation conflicts slots (parallel conflicts (serial p))).answer e).safeAt := by
  intro n seen clash ahead
  have yields : e.YieldsTo conflicts p n := ⟨seen, clash, ahead⟩
  exact isOutBy_of_reservation safe yields

/-- A vehicle from the south finds a peer that drives towards it and enters at `3000`, and one from
    the east that enters a little later. Both go first, and only the second is in the way. -/
def towardsTwo : Evaluation where
  me := ⟨4⟩
  route := ⟨⟨"S"⟩, ⟨"N"⟩⟩
  neighbors := .ofList [
    ⟨⟨8⟩, ⟨⟨8⟩, .reservation, .requesting, ⟨⟨"N"⟩, ⟨"S"⟩⟩, 0, some (.wrapping 3000), some 4000⟩,
      .zero⟩,
    ⟨⟨9⟩, ⟨⟨9⟩, .reservation, .requesting, ⟨⟨"E"⟩, ⟨"W"⟩⟩, 0, some (.wrapping 3100), some 4000⟩,
      .zero⟩]
  now := .wrapping 100

theorem exits_before_reserved_slot_towardsTwo :
    ((reservation Topology.fourWay.conflicts SlotChoice.firstFit.select
        (parallel Topology.fourWay.conflicts (serial .higherFirst))).answer towardsTwo) =
        .startingAt (.wrapping 7100) ∧
      ∀ n ∈ towardsTwo.neighbors.neighbors,
        Topology.fourWay.conflicts towardsTwo.route n.route = true →
          n.status = .crossing ∨
              n.status = .requesting ∧ Precedence.higherFirst.outranks n.id towardsTwo.me = true →
            ∃ exit, n.exitTime = some exit ∧
              exit ≤ ((reservation Topology.fourWay.conflicts SlotChoice.firstFit.select
                (parallel Topology.fourWay.conflicts (serial .higherFirst))).answer
                  towardsTwo).safeAt := by
  have slot : ((reservation Topology.fourWay.conflicts SlotChoice.firstFit.select
      (parallel Topology.fourWay.conflicts (serial .higherFirst))).answer towardsTwo) =
      .startingAt (.wrapping 7100) := by decide +kernel
  exact ⟨slot, exits_before_reserved_slot _ _ _ _ (congrArg Clearance.isSafe slot)⟩

end RightOfWay

end Junction
