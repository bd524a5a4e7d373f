import Junction.Proofs.Neighbor.Arrivals

/-! # Beacons out of order, and numbers that begin anew

A beacon that is up to eight numbers behind the stored one is late, and one that is further behind
comes from a peer that counts anew. A peer that never sends anything more than eight behind is
never taken for one that counts anew, so its entry shows the newest of its beacons. A peer that does
count anew is believed at once if it is far behind. If it is not, its first beacons look like late
ones, until it has caught up; those are eight at most.
-/

namespace Junction

def Arrival.number (a : Arrival) : Nat := a.beacon.sequence.toNat

theorem NeighborTable.isLate_iff {stored received : UInt64} :
    isLate stored received = true ↔
      received.toNat < stored.toNat ∧ stored.toNat ≤ received.toNat + 8 := by
  simp only [isLate, Bool.and_eq_true, decide_eq_true_eq]
  rw [reorderWindow]
  omega

namespace Arrival

variable {a : Arrival} {known : Neighbor}

theorem meets_of_late (behind : a.number < known.beacon.sequence.toNat)
    (little : known.beacon.sequence.toNat ≤ a.number + 8) :
    a.meets (some known) = ({ known with lastReceipt := a.time }, .refreshed) :=
  if_pos (NeighborTable.isLate_iff.mpr ⟨behind, little⟩)

theorem meets_of_not_late
    (timely : a.number < known.beacon.sequence.toNat →
      a.number + 8 < known.beacon.sequence.toNat) :
    a.meets (some known) = ({ known with beacon := a.beacon, lastReceipt := a.time }, .updated) := by
  refine if_neg fun late => ?_
  obtain ⟨behind, little⟩ := NeighborTable.isLate_iff.mp late
  exact absurd (timely behind) (Nat.not_lt.mpr little)

end Arrival

/-- No beacon is more than eight numbers behind one that came in before it. -/
def NearlyInOrder (heard : List Arrival) : Prop :=
  heard.Pairwise fun a b => a.number ≤ b.number + 8

instance (heard : List Arrival) : Decidable (NearlyInOrder heard) :=
  inferInstanceAs (Decidable (heard.Pairwise fun a b => a.number ≤ b.number + 8))

theorem NearlyInOrder.near {heard past : List Arrival} {a : Arrival} (orderly : NearlyInOrder heard)
    (told : past ++ [a] <+: heard) : ∀ b ∈ past, b.number ≤ a.number + 8 := by
  have pairs := List.pairwise_append.mp (orderly.sublist told.sublist)
  intro b member
  exact pairs.2.2 b member a List.mem_cons_self

/-- Of the beacons with the highest number, this is the one that came in last. -/
def IsNewest (heard : List Arrival) (a : Arrival) : Prop :=
  ∃ before behind, heard = before ++ a :: behind ∧ (∀ b ∈ before, b.number ≤ a.number) ∧
    ∀ b ∈ behind, b.number < a.number

namespace IsNewest

variable {heard : List Arrival} {a b : Arrival}

theorem mem (newest : IsNewest heard a) : a ∈ heard := by
  obtain ⟨before, behind, rfl, -⟩ := newest
  simp

theorem number_le (newest : IsNewest heard a) (member : b ∈ heard) : b.number ≤ a.number := by
  obtain ⟨before, behind, rfl, earlier, later⟩ := newest
  rcases List.mem_append.mp member with old | rest
  · exact earlier b old
  · rcases List.mem_cons.mp rest with rfl | new
    · exact Nat.le_refl _
    · exact Nat.le_of_lt (later b new)

theorem concat_self (highest : ∀ b ∈ heard, b.number ≤ a.number) : IsNewest (heard ++ [a]) a :=
  ⟨heard, [], rfl, highest, by simp⟩

theorem concat (newest : IsNewest heard a) (lower : b.number < a.number) :
    IsNewest (heard ++ [b]) a := by
  obtain ⟨before, behind, rfl, earlier, later⟩ := newest
  refine ⟨before, behind ++ [b], by simp, earlier, ?_⟩
  intro c member
  rcases List.mem_append.mp member with old | new
  · exact later c old
  · rw [List.mem_singleton.mp new]
    exact lower

end IsNewest

/-- The entry of a vehicle has the content of the newest beacon that was heard from it, and tells
    when the latest one came in. -/
inductive Shows (v : VehicleId) : List Arrival → Option Neighbor → Prop where
  | unheard : Shows v [] none
  | heard {all : List Arrival} (newest latest : Arrival) (top : IsNewest all newest)
      (last : all.getLast? = some latest) : Shows v all (some ⟨v, newest.beacon, latest.time⟩)

/-- A beacon that is not too far behind is dropped if a higher number was heard before, and becomes
    the entry of its sender otherwise. -/
theorem Shows.meets {a : Arrival} {heard : List Arrival} {known? : Option Neighbor}
    (shown : Shows a.sender heard known?) (near : ∀ b ∈ heard, b.number ≤ a.number + 8) :
    Shows a.sender (heard ++ [a]) (some (a.meets known?).1) ∧
      ((a.meets known?).2 = .refreshed ↔ ∃ b ∈ heard, a.number < b.number) := by
  cases shown with
  | unheard =>
      have first : IsNewest ([] ++ [a]) a := .concat_self (by simp)
      exact ⟨.heard a a first rfl, by simp [Arrival.meets]⟩
  | heard newest latest top last =>
      by_cases behind : a.number < newest.number
      · have late : a.meets (some ⟨a.sender, newest.beacon, latest.time⟩) =
            (⟨a.sender, newest.beacon, a.time⟩, .refreshed) :=
          Arrival.meets_of_late behind (near newest top.mem)
        rw [late]
        exact ⟨.heard newest a (top.concat behind) (by simp),
          iff_of_true rfl ⟨newest, top.mem, behind⟩⟩
      · have timely : a.meets (some ⟨a.sender, newest.beacon, latest.time⟩) =
            (⟨a.sender, a.beacon, a.time⟩, .updated) :=
          Arrival.meets_of_not_late fun before => absurd before behind
        rw [timely]
        have highest : ∀ b ∈ heard, b.number ≤ a.number := fun b member =>
          Nat.le_trans (top.number_le member) (Nat.not_lt.mp behind)
        refine ⟨.heard a a (.concat_self highest) (by simp), iff_of_false (by simp) ?_⟩
        rintro ⟨b, member, higher⟩
        exact absurd higher (Nat.not_lt.mpr (highest b member))

namespace NeighborTable

variable {t : NeighborTable} {v : VehicleId}

/-- The beacons of a peer that was not known come in nearly in order, and others in between. Then
    at any time its entry shows the newest of them, and a beacon is late exactly if a higher number
    was heard before it. -/
theorem never_rolls_back (foreign : v ≠ t.owner) (unknown : t.get? v = none)
    {arrivals : List Arrival} (orderly : NearlyInOrder (heardFrom v arrivals))
    {past : List Arrival} (early : past <+: arrivals) :
    Shows v (heardFrom v past) ((t.afterAll past).get? v) ∧
      ∀ a, past ++ [a] <+: arrivals → a.sender = v →
        ((t.afterAll past).receiptOf a = .refreshed ↔
          ∃ b ∈ heardFrom v past, a.number < b.number) := by
  have shown : Shows v (heardFrom v past) ((t.afterAll past).get? v) := by
    refine entry_induction (Shows v) foreign ?_ ?_ past early
    · rw [unknown]
      exact .unheard
    · rintro heard a known? rfl told before
      exact (before.meets (orderly.near told)).1
  refine ⟨shown, ?_⟩
  rintro a next rfl
  have told := heardFrom_of_early next a.sender
  rw [heardFrom_concat] at told
  rw [receiptOf_of_foreign (by rwa [owner_afterAll])]
  exact (shown.meets (orderly.near told)).2

/-- Vehicle 2 sends a beacon that is eight numbers behind, one number twice, and one that is just
    behind; vehicle 3 counts anew in between. -/
def outOfOrder : List Arrival := [
  toldBy 2 10 .idle 100,
  toldBy 3 50 .crossing 100,
  toldBy 2 12 .requesting 200,
  toldBy 2 4 .idle 300,
  toldBy 3 0 .idle 300,
  toldBy 2 12 .crossing 400,
  toldBy 2 11 .requesting 500]

theorem never_rolls_back_outOfOrder :
    (⟨2⟩ : VehicleId) ≠ (empty ⟨9⟩).owner ∧ (empty ⟨9⟩).get? ⟨2⟩ = none ∧
      NearlyInOrder (heardFrom ⟨2⟩ outOfOrder) ∧ outOfOrder.take 3 <+: outOfOrder ∧
      outOfOrder.take 3 ++ [toldBy 2 4 .idle 300] <+: outOfOrder ∧
      ((empty ⟨9⟩).receipts outOfOrder).map Prod.snd =
        [.inserted, .inserted, .updated, .refreshed, .updated, .updated, .refreshed] ∧
      Shows ⟨2⟩ (heardFrom ⟨2⟩ (outOfOrder.take 3))
        (((empty ⟨9⟩).afterAll (outOfOrder.take 3)).get? ⟨2⟩) ∧
      ∀ a, outOfOrder.take 3 ++ [a] <+: outOfOrder → a.sender = ⟨2⟩ →
        (((empty ⟨9⟩).afterAll (outOfOrder.take 3)).receiptOf a = .refreshed ↔
          ∃ b ∈ heardFrom ⟨2⟩ (outOfOrder.take 3), a.number < b.number) := by
  have foreign : (⟨2⟩ : VehicleId) ≠ (empty ⟨9⟩).owner := by decide
  have orderly : NearlyInOrder (heardFrom ⟨2⟩ outOfOrder) := by decide
  have early : outOfOrder.take 3 <+: outOfOrder := List.take_prefix ..
  exact ⟨foreign, rfl, orderly, early, by decide, by decide,
    never_rolls_back foreign rfl orderly early⟩

end NeighborTable

/-- The beacons carry the numbers from zero on. -/
def CountsFromZero (heard : List Arrival) : Prop :=
  ∀ (k : Nat) (a : Arrival), heard[k]? = some a → a.number = k

instance (heard : List Arrival) : Decidable (CountsFromZero heard) :=
  decidable_of_iff (∀ k : Fin heard.length, heard[k].number = k) <| by
    constructor
    · intro counted k a place
      obtain ⟨inside, rfl⟩ := List.getElem?_eq_some_iff.mp place
      exact counted ⟨k, inside⟩
    · intro counted k
      exact counted k heard[k] (List.getElem?_eq_getElem k.isLt)

theorem CountsFromZero.of_early {past heard : List Arrival} (counted : CountsFromZero heard)
    (early : past <+: heard) : CountsFromZero past := by
  intro k a place
  obtain ⟨rest, rfl⟩ := early
  have inside := (List.getElem?_eq_some_iff.mp place).1
  exact counted k a ((List.getElem?_append_left inside).trans place)

namespace Neighbor

variable {n : Neighbor}

/-- The number of the first beacon that is believed of a peer that counts anew. -/
def firstBelieved (n : Neighbor) : Nat :=
  if n.beacon.sequence.toNat ≤ 8 then n.beacon.sequence.toNat else 0

theorem firstBelieved_le (n : Neighbor) : n.firstBelieved ≤ 8 := by
  unfold firstBelieved
  split
  · assumption
  · exact Nat.zero_le 8

theorem lt_firstBelieved_iff {k : Nat} :
    k < n.firstBelieved ↔ k < n.beacon.sequence.toNat ∧ n.beacon.sequence.toNat ≤ 8 := by
  unfold firstBelieved
  split <;> omega

theorem firstBelieved_eq_zero (far : 8 < n.beacon.sequence.toNat) : n.firstBelieved = 0 :=
  if_neg (Nat.not_le.mpr far)

end Neighbor

/-- The entry of a peer that counts anew keeps its content at first, and then has that of the latest
    beacon. It always tells when that beacon came in. -/
inductive Recovers (n : Neighbor) : List Arrival → Option Neighbor → Prop where
  | doubted {all : List Arrival} (time : Timestamp) (few : all.length ≤ n.firstBelieved)
      (last : ∀ a, all.getLast? = some a → a.time = time) :
      Recovers n all (some { n with lastReceipt := time })
  | believed {all : List Arrival} (latest : Arrival) (enough : n.firstBelieved < all.length)
      (last : all.getLast? = some latest) : Recovers n all (some ⟨n.id, latest.beacon, latest.time⟩)

/-- The next beacon of a peer that counts anew is dropped before the first one that is believed, and
    becomes the entry from then on. -/
theorem Recovers.meets {n : Neighbor} {a : Arrival} {heard : List Arrival}
    {known? : Option Neighbor} (recovers : Recovers n heard known?)
    (counted : CountsFromZero (heard ++ [a])) :
    Recovers n (heard ++ [a]) (some (a.meets known?).1) ∧
      (a.meets known?).2 = if a.number < n.firstBelieved then .refreshed else .updated := by
  have number : a.number = heard.length := counted heard.length a (by simp)
  have length : (heard ++ [a]).length = heard.length + 1 := List.length_append
  cases recovers with
  | doubted time few last =>
      by_cases doubtful : a.number < n.firstBelieved
      · obtain ⟨behind, near⟩ := Neighbor.lt_firstBelieved_iff.mp doubtful
        have late : a.meets (some { n with lastReceipt := time }) =
            ({ n with lastReceipt := a.time }, .refreshed) :=
          Arrival.meets_of_late behind (Nat.le_add_left_of_le near)
        rw [late, if_pos doubtful]
        exact ⟨.doubted a.time (by omega) (by simp), rfl⟩
      · have timely : a.meets (some { n with lastReceipt := time }) =
            (⟨n.id, a.beacon, a.time⟩, .updated) := by
          refine Arrival.meets_of_not_late fun behind => ?_
          -- A stored number in the window would make this one a late beacon.
          have far : 8 < n.beacon.sequence.toNat := Nat.not_le.mp fun near =>
            doubtful (Neighbor.lt_firstBelieved_iff.mpr ⟨behind, near⟩)
          have zero := Neighbor.firstBelieved_eq_zero far
          change a.number + 8 < n.beacon.sequence.toNat
          omega
        rw [timely, if_neg doubtful]
        exact ⟨.believed a (by omega) (by simp), rfl⟩
  | believed latest enough last =>
      have before : latest.number = heard.length - 1 := by
        rw [List.getLast?_eq_getElem?] at last
        have inside : heard.length - 1 < heard.length := by omega
        exact counted _ latest ((List.getElem?_append_left inside).trans last)
      have timely : a.meets (some ⟨n.id, latest.beacon, latest.time⟩) =
          (⟨n.id, a.beacon, a.time⟩, .updated) := by
        refine Arrival.meets_of_not_late fun behind => ?_
        change a.number < latest.number at behind
        omega
      rw [timely, if_neg (by omega)]
      exact ⟨.believed a (by omega) (by simp), rfl⟩

namespace NeighborTable

variable {t : NeighborTable} {n : Neighbor}

/-- The beacons of a known peer begin anew with the number zero and come in in order, and others in
    between. Then the first one that is believed is the one with the stored number, or the very
    first if that number is greater than eight. The ones before it are late, and from it on each
    one becomes the entry. -/
theorem believes_restart (kept : t.Kept) {v : VehicleId} (known : t.get? v = some n)
    {arrivals : List Arrival} (counted : CountsFromZero (heardFrom v arrivals))
    {past : List Arrival} (early : past <+: arrivals) :
    n.firstBelieved ≤ 8 ∧ Recovers n (heardFrom v past) ((t.afterAll past).get? v) ∧
      ∀ a, past ++ [a] <+: arrivals → a.sender = v →
        (t.afterAll past).receiptOf a =
          if a.number < n.firstBelieved then .refreshed else .updated := by
  have foreign := kept.foreign_of_get? known
  have recovers : Recovers n (heardFrom v past) ((t.afterAll past).get? v) := by
    refine entry_induction (Recovers n) foreign ?_ ?_ past early
    · rw [known]
      exact .doubted n.lastReceipt (Nat.zero_le _) (by simp)
    · intro heard a known? _ told before
      exact (before.meets (counted.of_early told)).1
  refine ⟨n.firstBelieved_le, recovers, ?_⟩
  rintro a next rfl
  have told := heardFrom_of_early next a.sender
  rw [heardFrom_concat] at told
  rw [receiptOf_of_foreign (by rwa [owner_afterAll])]
  exact (recovers.meets (counted.of_early told)).2

/-- Vehicle 9 has heard the beacon with the number five from vehicle 2. -/
def fifth : Neighbor := ⟨⟨2⟩, (toldBy 2 5 .crossing 0).beacon, .zero⟩

def knowsFifth : NeighborTable := (empty ⟨9⟩).put fifth

/-- Vehicle 2 counts anew, and vehicle 3 is heard in between. -/
def countingAnew : List Arrival := [
  toldBy 2 0 .idle 100,
  toldBy 2 1 .idle 200,
  toldBy 3 7 .crossing 200,
  toldBy 2 2 .idle 300,
  toldBy 2 3 .idle 400,
  toldBy 2 4 .idle 500,
  toldBy 2 5 .idle 600,
  toldBy 2 6 .requesting 700]

theorem believes_restart_countingAnew :
    knowsFifth.Kept ∧ knowsFifth.get? ⟨2⟩ = some fifth ∧
      CountsFromZero (heardFrom ⟨2⟩ countingAnew) ∧ countingAnew.take 6 <+: countingAnew ∧
      countingAnew.take 6 ++ [toldBy 2 5 .idle 600] <+: countingAnew ∧
      (knowsFifth.receipts countingAnew).map Prod.snd =
        [.refreshed, .refreshed, .inserted, .refreshed, .refreshed, .refreshed, .updated,
          .updated] ∧
      fifth.firstBelieved ≤ 8 ∧
      Recovers fifth (heardFrom ⟨2⟩ (countingAnew.take 6))
        ((knowsFifth.afterAll (countingAnew.take 6)).get? ⟨2⟩) ∧
      ∀ a, countingAnew.take 6 ++ [a] <+: countingAnew → a.sender = ⟨2⟩ →
        (knowsFifth.afterAll (countingAnew.take 6)).receiptOf a =
          if a.number < fifth.firstBelieved then .refreshed else .updated := by
  have kept : knowsFifth.Kept := (Kept.empty ⟨9⟩).put (by decide) rfl
  have counted : CountsFromZero (heardFrom ⟨2⟩ countingAnew) := by decide
  have early : countingAnew.take 6 <+: countingAnew := List.take_prefix ..
  exact ⟨kept, rfl, counted, early, by decide, by decide,
    believes_restart kept rfl counted early⟩

end NeighborTable

end Junction
