import Junction.Proofs.Control.Reachable
import Junction.Proofs.Time.Words

/-! # When a silence is too long

A peer is forgotten after the longest period a number of times over. Both can be set to anything,
so the product need not be a duration, and its milliseconds need not be a count; there are bounds to
take in their place. Settings are refused exactly where a bound would be taken, so under accepted
ones the product itself is what a tick goes by.
-/

namespace Junction

namespace Settings

variable {s : Settings}

theorem validate_eq_ok_iff : s.validate = .ok () ↔ s.Valid := by
  unfold validate Valid
  cases s.fault? <;> simp

theorem validate_eq_error_iff {f : SettingsFault} : s.validate = .error f ↔ s.fault? = some f := by
  unfold validate
  cases s.fault? <;> simp

theorem hasExactThreshold_of_valid (valid : s.Valid) : s.hasExactThreshold = true := by
  simp only [Valid, fault?] at valid
  grind

theorem maxLost_pos_of_valid (valid : s.Valid) : 0 < s.maxLost.toNat := by
  have counted : s.maxLost ≠ 0 := by
    simp only [Valid, fault?] at valid
    grind
  exact Nat.pos_of_ne_zero fun none => counted (UInt32.toNat_inj.mp none)

theorem hasExactThreshold_iff :
    s.hasExactThreshold = true ↔ s.maxPeriod.nanos * s.maxLost.toNat / 10 ^ 6 < 2 ^ 64 := by
  simp only [hasExactThreshold, exactThreshold?, Duration.times?, Duration.ofNanos?]
  split
  · next d counted =>
    split at counted
    · obtain rfl := Option.some.inj counted
      exact decide_eq_true_iff
    · cases counted
  · next none =>
    split at none
    · cases none
    · simp only [Bool.false_eq_true, false_iff]
      omega

theorem threshold_of_hasExactThreshold (exact : s.hasExactThreshold = true) :
    s.exactThreshold? = some s.threshold ∧
      s.threshold.nanos = s.maxPeriod.nanos * s.maxLost.toNat := by
  have counted : s.maxPeriod.nanos * s.maxLost.toNat < 2 ^ 64 * 10 ^ 9 := by
    have := hasExactThreshold_iff.mp exact
    omega
  simp [threshold, exactThreshold?, Duration.times?, Duration.ofNanos?, counted]

theorem thresholdMs_of_hasExactThreshold (exact : s.hasExactThreshold = true) :
    s.thresholdMs = s.maxPeriod.nanos * s.maxLost.toNat / 10 ^ 6 := by
  have counted := hasExactThreshold_iff.mp exact
  rw [thresholdMs, Duration.millis, (threshold_of_hasExactThreshold exact).2]
  omega

/-- Behind the checks of the periods and of the count, the threshold is what is refused if it is
    not exact; where it is, only other things are left to refuse. -/
theorem fault?_eq_thresholdOverflow_iff (shortest : 0 < s.minPeriod.nanos)
    (ordered : s.minPeriod.nanos ≤ s.maxPeriod.nanos) (counted : s.maxLost ≠ 0) :
    s.fault? = some (.thresholdOverflow s.maxPeriod s.maxLost) ↔ s.hasExactThreshold = false := by
  have positive : ¬s.minPeriod.isZero = true := by simp [Duration.isZero]; omega
  have inOrder : ¬s.maxPeriod < s.minPeriod := Nat.not_lt.mpr ordered
  rw [fault?, if_neg positive, if_neg inOrder, if_neg counted]
  cases s.hasExactThreshold with
  | false => simp
  | true => grind

end Settings

/-- The silence after which peers are forgotten is the longest period as often as is set, in
    nanoseconds as in words. For accepted settings its milliseconds can be counted, they are no
    fewer than those of one period, and a tick goes by them; and settings whose periods and count
    are in order are refused for it exactly if its milliseconds cannot be counted. -/
theorem Settings.accepted_threshold_exact (s : Settings) :
    (s.validate = .ok () →
      s.exactThreshold? = some s.threshold ∧
      s.maxPeriod.words.times? s.maxLost = some s.threshold.words ∧
      s.threshold.nanos = s.maxPeriod.nanos * s.maxLost.toNat ∧
      s.threshold.millis < 2 ^ 64 ∧
      s.threshold.words.millis = s.thresholdMs ∧
      s.thresholdMs = s.maxPeriod.nanos * s.maxLost.toNat / 10 ^ 6 ∧
      s.maxPeriod.millis ≤ s.thresholdMs ∧
      ∀ c : Controller, c.settings = s → c.running = true → ∀ now,
        (c.tick now).1.table =
          (c.table.flush (s.maxPeriod.nanos * s.maxLost.toNat / 10 ^ 6) now).1) ∧
    (0 < s.minPeriod.nanos → s.minPeriod.nanos ≤ s.maxPeriod.nanos → s.maxLost ≠ 0 →
      (s.validate = .error (.thresholdOverflow s.maxPeriod s.maxLost) ↔
        2 ^ 64 ≤ s.maxPeriod.nanos * s.maxLost.toNat / 10 ^ 6)) := by
  constructor
  · intro accepted
    have valid := validate_eq_ok_iff.mp accepted
    have exact := hasExactThreshold_of_valid valid
    have counted := hasExactThreshold_iff.mp exact
    obtain ⟨product, nanos⟩ := threshold_of_hasExactThreshold exact
    have ms := thresholdMs_of_hasExactThreshold exact
    have millis : s.threshold.millis = s.maxPeriod.nanos * s.maxLost.toNat / 10 ^ 6 := by
      rw [Duration.millis, nanos]
    refine ⟨product, ?_, nanos, millis ▸ counted, ?_, ms, ?_, ?_⟩
    · have inWords : s.maxPeriod.times? s.maxLost.toNat = some s.threshold := product
      rw [Duration.times?_words, inWords, Option.map_some]
    · rw [Duration.millis_words, millis, ms]
    · rw [ms]
      exact Nat.div_le_div_right (Nat.le_mul_of_pos_right _ (maxLost_pos_of_valid valid))
    · rintro c rfl running now
      rw [Controller.table_tick running, Controller.forget, ms]
  · intro shortest ordered lost
    rw [validate_eq_error_iff, fault?_eq_thresholdOverflow_iff shortest ordered lost,
      ← Nat.not_lt, ← hasExactThreshold_iff, Bool.not_eq_true]

/-- Settings with the longest period of which five can still be counted in milliseconds. -/
def Settings.longLived : Settings :=
  { standard with maxPeriod := ⟨3689348814741910323199999, by decide⟩ }

/-- Settings with a longest period of one nanosecond more. -/
def Settings.tooLongLived : Settings :=
  { standard with maxPeriod := ⟨3689348814741910323200000, by decide⟩ }

/-- The greatest count of milliseconds is a threshold like any other, and the next one is none. -/
theorem Settings.accepted_threshold_exact_atEdge :
    longLived.validate = .ok () ∧
      longLived.threshold.nanos = 18446744073709551615999995 ∧
      longLived.thresholdMs = 18446744073709551615 ∧
      (∀ c : Controller, c.settings = longLived → c.running = true → ∀ now,
        (c.tick now).1.table = (c.table.flush 18446744073709551615 now).1) ∧
      tooLongLived.validate = .error (.thresholdOverflow tooLongLived.maxPeriod 5) := by
  have accepted : longLived.validate = .ok () := rfl
  obtain ⟨-, -, nanos, -, -, ms, -, ticks⟩ := longLived.accepted_threshold_exact.1 accepted
  have overflow := tooLongLived.accepted_threshold_exact.2 (by decide) (by decide) (by decide)
  exact ⟨accepted, nanos, ms, ticks, overflow.mpr (by decide)⟩

end Junction
