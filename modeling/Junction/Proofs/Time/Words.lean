import Junction.Time.Duration

/-! # Durations in words

A machine keeps a duration as a word of whole seconds and half a word of nanoseconds beyond them.
To take it several times, the nanoseconds are multiplied on their own, what they hold of whole
seconds is carried, and the count of seconds can overflow at two places: in its own product, and
where the carry is added. What comes out is the multiple of the count of nanoseconds, and nothing
comes out exactly where that multiple is no duration.
-/

namespace Junction

/-- The product of two words, if it is a word. -/
def wordProduct? (a b : UInt64) : Option UInt64 :=
  if a.toNat * b.toNat < 2 ^ 64 then some (a * b) else none

def wordSum? (a b : UInt64) : Option UInt64 :=
  if a.toNat + b.toNat < 2 ^ 64 then some (a + b) else none

namespace Duration

/-- A duration as a machine keeps it. -/
@[ext]
structure Words where
  seconds : UInt64
  /-- Nanoseconds beyond the whole seconds. -/
  subsecond : UInt32
  deriving DecidableEq, Repr

namespace Words

/-- A duration `n` times over, in words. -/
def times? (w : Words) (n : UInt32) : Option Words :=
  let nanos := w.subsecond.toUInt64 * n.toUInt64
  match wordProduct? w.seconds n.toUInt64 with
  | none => none
  | some whole =>
      match wordSum? whole (nanos / 1000000000) with
      | none => none
      | some seconds => some ⟨seconds, (nanos % 1000000000).toUInt32⟩

/-- Whole milliseconds; the count can take more than a word. -/
def millis (w : Words) : Nat := w.seconds.toNat * 1000 + w.subsecond.toNat / 1000000

end Words

def words (d : Duration) : Words where
  seconds := .ofNat d.seconds
  subsecond := .ofNat d.subsecond

@[simp]
theorem toNat_words_seconds (d : Duration) : d.words.seconds.toNat = d.nanos / 10 ^ 9 := by
  have bounded := d.bounded
  simp only [words, seconds]
  rw [UInt64.toNat_ofNat_of_lt']
  change d.nanos / 10 ^ 9 < 2 ^ 64
  omega

@[simp]
theorem toNat_words_subsecond (d : Duration) : d.words.subsecond.toNat = d.nanos % 10 ^ 9 := by
  simp only [words, subsecond]
  rw [UInt32.toNat_ofNat_of_lt']
  change d.nanos % 10 ^ 9 < 2 ^ 32
  omega

theorem millis_words (d : Duration) : d.words.millis = d.millis := by
  simp only [Words.millis, millis, toNat_words_seconds, toNat_words_subsecond]
  omega

theorem toNat_subsecond_mul (d : Duration) (n : UInt32) :
    (d.words.subsecond.toUInt64 * n.toUInt64).toNat = d.nanos % 10 ^ 9 * n.toNat := by
  have count : n.toNat ≤ 2 ^ 32 := Nat.le_of_lt n.toNat_lt
  have part : d.nanos % 10 ^ 9 ≤ 10 ^ 9 := Nat.le_of_lt (Nat.mod_lt _ (by decide))
  have small : d.nanos % 10 ^ 9 * n.toNat < 2 ^ 64 :=
    calc d.nanos % 10 ^ 9 * n.toNat ≤ 10 ^ 9 * 2 ^ 32 := Nat.mul_le_mul part count
      _ < 2 ^ 64 := by decide
  rw [UInt64.toNat_mul, UInt32.toNat_toUInt64, UInt32.toNat_toUInt64, toNat_words_subsecond]
  exact Nat.mod_eq_of_lt small

theorem nanos_mul_eq (d : Duration) (n : Nat) :
    d.nanos * n = (d.nanos / 10 ^ 9 * n + d.nanos % 10 ^ 9 * n / 10 ^ 9) * 10 ^ 9 +
      d.nanos % 10 ^ 9 * n % 10 ^ 9 := by
  calc d.nanos * n = (10 ^ 9 * (d.nanos / 10 ^ 9) + d.nanos % 10 ^ 9) * n := by
        rw [Nat.div_add_mod]
    _ = d.nanos / 10 ^ 9 * n * 10 ^ 9 + d.nanos % 10 ^ 9 * n := by
        rw [Nat.add_mul, Nat.mul_assoc, Nat.mul_comm (10 ^ 9)]
    _ = _ := by
        have carried := Nat.div_add_mod (d.nanos % 10 ^ 9 * n) (10 ^ 9)
        omega

/-- Taken several times in words, a duration is what it is taken several times as a count, and
    neither gives anything where that is too long. -/
theorem times?_words (d : Duration) (n : UInt32) :
    d.words.times? n = (d.times? n.toNat).map words := by
  have product := d.nanos_mul_eq n.toNat
  have beyond := d.toNat_subsecond_mul n
  have carry : (d.words.subsecond.toUInt64 * n.toUInt64 / 1000000000).toNat =
      d.nanos % 10 ^ 9 * n.toNat / 10 ^ 9 := by
    rw [UInt64.toNat_div, beyond]
    rfl
  have rest : (d.words.subsecond.toUInt64 * n.toUInt64 % 1000000000).toUInt32.toNat =
      d.nanos % 10 ^ 9 * n.toNat % 10 ^ 9 := by
    rw [UInt64.toNat_toUInt32, UInt64.toNat_mod, beyond]
    exact Nat.mod_eq_of_lt (Nat.lt_trans (Nat.mod_lt _ (by decide)) (by decide))
  simp only [Words.times?, wordProduct?, wordSum?, times?, ofNanos?, toNat_words_seconds,
    UInt32.toNat_toUInt64]
  by_cases fits : d.nanos / 10 ^ 9 * n.toNat < 2 ^ 64
  · have whole : (d.words.seconds * n.toUInt64).toNat = d.nanos / 10 ^ 9 * n.toNat := by
      rw [UInt64.toNat_mul, toNat_words_seconds, UInt32.toNat_toUInt64]
      exact Nat.mod_eq_of_lt fits
    simp only [if_pos fits, whole, carry]
    by_cases sum : d.nanos / 10 ^ 9 * n.toNat + d.nanos % 10 ^ 9 * n.toNat / 10 ^ 9 < 2 ^ 64
    · have counted : d.nanos * n.toNat < 2 ^ 64 * 10 ^ 9 := by omega
      rw [if_pos sum, dif_pos counted]
      rw [Option.map_some]
      refine congrArg some (Words.ext (UInt64.toNat_inj.mp ?_) (UInt32.toNat_inj.mp ?_))
      · rw [UInt64.toNat_add, whole, carry, Nat.mod_eq_of_lt sum]
        refine .trans ?_ (toNat_words_seconds ⟨_, counted⟩).symm
        change _ = d.nanos * n.toNat / 10 ^ 9
        omega
      · rw [rest]
        refine .trans ?_ (toNat_words_subsecond ⟨_, counted⟩).symm
        change _ = d.nanos * n.toNat % 10 ^ 9
        omega
    · have tooLong : ¬d.nanos * n.toNat < 2 ^ 64 * 10 ^ 9 := by omega
      rw [if_neg sum, dif_neg tooLong]
      rfl
  · have tooLong : ¬d.nanos * n.toNat < 2 ^ 64 * 10 ^ 9 := by omega
    simp only [if_neg fits, dif_neg tooLong]
    rfl

end Duration

end Junction
