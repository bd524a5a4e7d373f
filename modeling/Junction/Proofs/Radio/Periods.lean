import Junction.Proofs.Time.Order
import Junction.Radio.Transmitter

/-! # The time between two beacons

The bounds of a transmitter are compared to the nanosecond. What is drawn between them is a count of
whole milliseconds, and both bounds are cut down to such counts first, modulo `2 ^ 64`. So no period
is longer than the upper bound. One can be shorter than the lower bound, and even of no time at all,
unless that bound is a count of milliseconds itself; and where the cut bounds come out in reverse
there is nothing to draw.
-/

namespace Junction

namespace Duration

theorem ms_mul_le (d : Duration) : d.ms * 10 ^ 6 ≤ d.nanos :=
  Nat.le_trans (Nat.mul_le_mul_right _ d.ms_le_millis) (Nat.div_mul_le_self _ _)

theorem nanos_ofMillis_ofNat {n : Nat} (counted : n < 2 ^ 64) :
    (ofMillis (UInt64.ofNat n)).nanos = n * 10 ^ 6 := by
  simp only [ofMillis, UInt64.toNat_ofNat_of_lt' counted]

end Duration

namespace Transmitter

/-- The first `n` periods, if there are periods to draw. -/
def periods? : Nat → Transmitter → Option (List Duration)
  | 0, _ => some []
  | n + 1, t =>
    match t.nextPeriod? with
    | none => none
    | some (ms, t) => (periods? n t).map (Duration.ofMillis (UInt64.ofNat ms) :: ·)

/-- However often it is drawn from, the transmitter has a period to draw, which takes time and lies
    between its bounds. -/
def KeepsWithin (t : Transmitter) : Prop :=
  ∀ n, ∃ periods, t.periods? n = some periods ∧ periods.length = n ∧
    ∀ d ∈ periods, t.minPeriod.nanos ≤ d.nanos ∧ d.nanos ≤ t.maxPeriod.nanos ∧ d.isZero = false

variable {min max : Duration} {random : Random.Stream} {t : Transmitter}

theorem create_eq_ok_iff : create min max random = .ok t ↔
    (0 < min.nanos ∧ min.nanos ≤ max.nanos) ∧ ⟨random, min, max, 0⟩ = t := by
  have accepts : (min.isZero || decide (max < min)) = true ↔
      ¬(0 < min.nanos ∧ min.nanos ≤ max.nanos) := by
    simp only [Duration.isZero, Duration.lt_iff, Bool.or_eq_true, beq_iff_eq, decide_eq_true_eq]
    omega
  unfold create
  split
  · next refused => simp [accepts.mp refused]
  · next taken => simp [Classical.not_not.mp fun h => taken (accepts.mpr h)]

theorem nextPeriod?_eq_none (reversed : t.maxPeriod.ms < t.minPeriod.ms) :
    t.nextPeriod? = none := by
  simp [nextPeriod?, hasPeriod, reversed]

theorem nextPeriod?_eq_some (ordered : t.minPeriod.ms ≤ t.maxPeriod.ms) :
    ∃ ms random, t.nextPeriod? = some (ms, { t with random }) ∧ t.minPeriod.ms ≤ ms ∧
      ms ≤ t.maxPeriod.ms := by
  have above := t.random.low_le_uniform t.minPeriod.ms t.maxPeriod.ms
  have below := Random.Stream.uniform_le ordered t.maxPeriod.ms_lt t.random
  refine ⟨_, (t.random.uniform t.minPeriod.ms t.maxPeriod.ms).2, ?_, above, below⟩
  simp only [nextPeriod?, hasPeriod, ordered, decide_true, if_true]
  rfl

theorem periods?_eq_none (reversed : t.maxPeriod.ms < t.minPeriod.ms) (n : Nat) :
    t.periods? (n + 1) = none := by
  simp only [periods?, nextPeriod?_eq_none reversed]

/-- Any number of draws gives counts of milliseconds between the bounds as they are cut. -/
theorem exists_periods (ordered : t.minPeriod.ms ≤ t.maxPeriod.ms) (n : Nat) :
    ∃ periods, t.periods? n = some periods ∧ periods.length = n ∧
      ∀ d ∈ periods, t.minPeriod.ms * 10 ^ 6 ≤ d.nanos ∧ d.nanos ≤ t.maxPeriod.ms * 10 ^ 6 := by
  induction n generalizing t with
  | zero => exact ⟨[], rfl, rfl, nofun⟩
  | succ n ih =>
      obtain ⟨ms, random, drawn, above, below⟩ := nextPeriod?_eq_some ordered
      obtain ⟨periods, rest, length, within⟩ := @ih { t with random } ordered
      have counted : ms < 2 ^ 64 := Nat.lt_of_le_of_lt below t.maxPeriod.ms_lt
      refine ⟨.ofMillis (.ofNat ms) :: periods, ?_, congrArg (· + 1) length, ?_⟩
      · simp only [periods?, drawn, rest, Option.map_some]
      · intro d member
        rcases List.mem_cons.mp member with rfl | later
        · rw [Duration.nanos_ofMillis_ofNat counted]
          exact ⟨Nat.mul_le_mul_right _ above, Nat.mul_le_mul_right _ below⟩
        · exact within d later

/-- A stream whose next word is zero. -/
def lowest : Random.Stream := ⟨Random.keyOf 0, 0, [0]⟩

theorem uniform_lowest (low high : Nat) : (lowest.uniform low high).1 = low := by
  simp only [Random.Stream.uniform]
  split
  · rfl
  · simp [Random.Stream.attempts, Random.Stream.belowWithin, Random.Stream.draw, lowest]

theorem periods?_lowest (ordered : min.ms ≤ max.ms) :
    periods? 1 ⟨lowest, min, max, 0⟩ = some [.ofMillis (.ofNat min.ms)] := by
  simp only [periods?, nextPeriod?, hasPeriod, ordered, decide_true, if_true, draw,
    uniform_lowest, Option.map_some]

theorem keepsWithin_of_whole (positive : 0 < t.minPeriod.nanos)
    (whole : t.minPeriod.nanos = t.minPeriod.ms * 10 ^ 6)
    (ordered : t.minPeriod.ms ≤ t.maxPeriod.ms) : t.KeepsWithin := by
  intro n
  obtain ⟨periods, drawn, length, within⟩ := exists_periods ordered n
  refine ⟨periods, drawn, length, fun d member => ?_⟩
  obtain ⟨above, below⟩ := within d member
  have least : t.minPeriod.nanos ≤ d.nanos := whole ▸ above
  have lasts : d.nanos ≠ 0 := by omega
  exact ⟨least, Nat.le_trans below t.maxPeriod.ms_mul_le, beq_eq_false_iff_ne.mpr lasts⟩

theorem whole_of_keepsWithin (keeps : KeepsWithin ⟨lowest, min, max, 0⟩) :
    min.nanos = min.ms * 10 ^ 6 ∧ min.ms ≤ max.ms := by
  obtain ⟨periods, drawn, -, within⟩ := keeps 1
  by_cases ordered : min.ms ≤ max.ms
  · rw [periods?_lowest ordered] at drawn
    obtain rfl := Option.some.inj drawn
    have least := (within _ List.mem_cons_self).1
    rw [Duration.nanos_ofMillis_ofNat min.ms_lt] at least
    exact ⟨Nat.le_antisymm least min.ms_mul_le, ordered⟩
  · rw [periods?_eq_none (Nat.lt_of_not_le ordered)] at drawn
    cases drawn

/-- Of the bounds that are accepted, just those keep all periods in between whose lower one is a
    count of milliseconds and does not exceed the count that the upper one is cut down to. If it
    does exceed that count, no period can be drawn. Otherwise periods can always be drawn, and none
    is longer than the upper bound or shorter than the whole milliseconds of the lower one. -/
theorem keepsWithin_iff_whole (created : create min max random = .ok t) :
    ((∀ other s, create min max other = .ok s → s.KeepsWithin) ↔
        min.nanos = min.ms * 10 ^ 6 ∧ min.ms ≤ max.ms) ∧
      (max.ms < min.ms → ∀ n, t.periods? (n + 1) = none) ∧
      (min.ms ≤ max.ms → ∀ n, ∃ periods, t.periods? n = some periods ∧ periods.length = n ∧
        ∀ d ∈ periods, min.ms * 10 ^ 6 ≤ d.nanos ∧ d.nanos ≤ max.nanos) := by
  obtain ⟨taken, rfl⟩ := create_eq_ok_iff.mp created
  refine ⟨⟨?_, ?_⟩, ?_, ?_⟩
  · intro keeps
    exact whole_of_keepsWithin (keeps lowest _ (create_eq_ok_iff.mpr ⟨taken, rfl⟩))
  · rintro ⟨whole, ordered⟩ other s accepted
    obtain ⟨-, rfl⟩ := create_eq_ok_iff.mp accepted
    exact keepsWithin_of_whole taken.1 whole ordered
  · intro reversed n
    exact periods?_eq_none reversed n
  · intro ordered n
    obtain ⟨periods, drawn, length, within⟩ :=
      exists_periods (t := ⟨random, min, max, 0⟩) ordered n
    refine ⟨periods, drawn, length, fun d member => ?_⟩
    obtain ⟨above, below⟩ := within d member
    exact ⟨above, Nat.le_trans below max.ms_mul_le⟩

/-- A thousand draws between a tenth of a second and a second. -/
theorem keepsWithin_iff_whole_thousandDraws :
    create (.ofMillis 100) (.ofMillis 1000) (.ofSeed 7) =
        .ok ⟨.ofSeed 7, .ofMillis 100, .ofMillis 1000, 0⟩ ∧
      ∃ periods, periods? 1000 ⟨.ofSeed 7, .ofMillis 100, .ofMillis 1000, 0⟩ = some periods ∧
        periods.length = 1000 ∧ ∀ d ∈ periods, (Duration.ofMillis 100).nanos ≤ d.nanos ∧
          d.nanos ≤ (Duration.ofMillis 1000).nanos ∧ d.isZero = false := by
  have created : create (.ofMillis 100) (.ofMillis 1000) (.ofSeed 7) =
      .ok ⟨.ofSeed 7, .ofMillis 100, .ofMillis 1000, 0⟩ := rfl
  have keeps := (keepsWithin_iff_whole created).1.mpr ⟨by decide, by decide⟩
  exact ⟨created, keeps _ _ created 1000⟩

def quarterMs : Duration := ⟨250000, by decide⟩

/-- Where both bounds are a quarter of a millisecond, which is accepted, all periods are of no
    time. -/
theorem not_forall_keepsWithin :
    ¬∀ min max seed t, create min max (.ofSeed seed) = .ok t → t.KeepsWithin := by
  intro keeps
  have created : create quarterMs quarterMs (.ofSeed 7) =
      .ok ⟨.ofSeed 7, quarterMs, quarterMs, 0⟩ := rfl
  obtain ⟨periods, drawn, length, within⟩ := keeps quarterMs quarterMs 7 _ created 1
  obtain ⟨other, same, -, short⟩ :=
    exists_periods (t := ⟨.ofSeed 7, quarterMs, quarterMs, 0⟩) (Nat.le_refl _) 1
  obtain rfl := Option.some.inj (drawn.symm.trans same)
  obtain ⟨d, member⟩ := List.exists_mem_of_length_pos (length ▸ Nat.one_pos)
  have least : 250000 ≤ d.nanos := (within d member).1
  have most : d.nanos ≤ 0 := (short d member).2
  exact absurd (Nat.le_trans least most) (by decide)

end Transmitter

end Junction
