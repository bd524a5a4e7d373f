/-! # Vehicle identifiers

A vehicle is known by one octet, the last one of its network address. The octet is also the rank
by which vehicles are ordered when they compete for the crossing.
-/

namespace Junction

/-- The one-octet name of a vehicle. -/
structure VehicleId where
  octet : UInt8
  deriving DecidableEq, Repr, Inhabited

namespace VehicleId

/-- The identifier as a number below 256. -/
def toNat (v : VehicleId) : Nat := v.octet.toNat

theorem toNat_lt (v : VehicleId) : v.toNat < 256 := v.octet.toNat_lt

theorem toNat_inj {v w : VehicleId} : v.toNat = w.toNat ↔ v = w := by
  cases v; cases w
  simp [toNat, UInt8.toNat_inj]

instance : LT VehicleId := ⟨fun v w => v.toNat < w.toNat⟩

instance (v w : VehicleId) : Decidable (v < w) := inferInstanceAs (Decidable (v.toNat < w.toNat))

theorem lt_iff {v w : VehicleId} : v < w ↔ v.toNat < w.toNat := Iff.rfl

theorem lt_or_gt_of_ne {v w : VehicleId} (h : v ≠ w) : v < w ∨ w < v := by
  have : v.toNat ≠ w.toNat := fun e => h (toNat_inj.1 e)
  simp only [lt_iff]
  omega

/-- The identifier of the vehicle at a network address: the address' last octet, if it has any. -/
def ofAddress? (octets : List UInt8) : Option VehicleId := octets.getLast?.map VehicleId.mk

/-- The word `vehicle` and the number. -/
def text (v : VehicleId) : String := s!"vehicle-{v.toNat}"

instance : ToString VehicleId := ⟨text⟩

end VehicleId

end Junction
