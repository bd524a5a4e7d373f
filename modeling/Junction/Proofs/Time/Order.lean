import Junction.Time.Duration
import Junction.Time.Timestamp

/-! # The order of instants

Instants are ordered as their counts are, so the library's facts about the greatest item of a list
apply to them.
-/

namespace Junction

theorem Duration.ms_le_millis (d : Duration) : d.ms ≤ d.millis := Nat.mod_le _ _

theorem Duration.ms_of_millis_lt {d : Duration} (small : d.millis < 2 ^ 64) : d.ms = d.millis :=
  Nat.mod_eq_of_lt small

namespace Timestamp

theorem le_refl (t : Timestamp) : t ≤ t := Nat.le_refl t.ms

theorem le_trans {t u v : Timestamp} (h : t ≤ u) (k : u ≤ v) : t ≤ v := Nat.le_trans h k

theorem not_le {t u : Timestamp} : ¬t ≤ u ↔ u < t := Nat.not_le

instance : Std.IsLinearOrder Timestamp where
  le_refl := le_refl
  le_trans _ _ _ := le_trans
  le_antisymm _ _ h k := Timestamp.ext (Nat.le_antisymm h k)
  le_total t u := Nat.le_total t.ms u.ms

instance : Std.LawfulOrderMax Timestamp where
  max_eq_or t u := by
    change (if t ≤ u then u else t) = t ∨ (if t ≤ u then u else t) = u
    split
    · exact Or.inr rfl
    · exact Or.inl rfl
  max_le_iff t u v := by
    simp only [le_iff, max_ms]
    omega

theorem isScheduled_eq_false {t : Timestamp} : t.isScheduled = false ↔ t = .unscheduled := by
  simp [isScheduled, Timestamp.ext_iff]

theorem ms_le_of_ne {t : Timestamp} (h : t ≠ .unscheduled) : t.ms ≤ 2 ^ 64 - 2 := by
  have := t.bounded
  have : t.ms ≠ 2 ^ 64 - 1 := fun same => h (Timestamp.ext same)
  omega

theorem ite_le_ms (t u : Timestamp) : (if t ≤ u then t else u).ms = min t.ms u.ms := by
  simp only [le_iff]
  split <;> omega

theorem plus_ms_of_lt {t : Timestamp} {ms : Nat} (small : t.ms + ms < 2 ^ 64) :
    (t.plus ms).ms = t.ms + ms := by
  rw [plus_ms]
  omega

theorem advance_ms_of_lt {t : Timestamp} {ms : Nat} (small : t.ms + ms < 2 ^ 64) :
    (t.advance ms).ms = t.ms + ms := by
  rw [advance_ms]
  omega

end Timestamp

end Junction
