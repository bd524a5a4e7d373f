import Junction.Power

/-! # Shortest decimals

A floating point number is written with the fewest digits that read back to it, and of the decimals
with so few digits the nearest one is taken. The search works on whole numbers alone: a finite
number is `m * 2 ^ q`, and a decimal reads back to it if it lies between the points halfway to the
neighbors on either side (on such a point, if `m` is even).
-/

namespace Junction.Decimal

/-- A positive binary number `m * 2 ^ q`. -/
structure Binary where
  m : Nat
  q : Int
  /-- The neighbor below is half as far away as the one above. -/
  narrowBelow : Bool
  deriving DecidableEq, Repr

/-- A decimal number `digits * 10 ^ exponent`. -/
structure Scaled where
  digits : Nat
  exponent : Int
  deriving DecidableEq, Repr

namespace Binary

/-- The absolute value of the finite number with the given bits. -/
def ofBits (bits : UInt64) : Binary :=
  let fraction : Nat := bits.toNat % 2 ^ 52
  let exponent : Nat := bits.toNat / 2 ^ 52 % 2 ^ 11
  if exponent = 0 then ⟨fraction, -1074, false⟩
  else ⟨2 ^ 52 + fraction, (exponent : Int) - 1075, fraction == 0 && exponent > 1⟩

/-- The two sides of a comparison of `d * 10 ^ e` with a quarter of `x * 2 ^ q`, brought to whole
    numbers. -/
def sides (q : Int) (x d : Nat) (e : Int) : Nat × Nat :=
  let p := q - 2
  (d * 10 ^ e.toNat * 2 ^ (-p).toNat, x * 2 ^ p.toNat * 10 ^ (-e).toNat)

/-- Whether a decimal reads back to the number. -/
def readsBack (b : Binary) (s : Scaled) : Bool :=
  let below := sides b.q (4 * b.m - if b.narrowBelow then 1 else 2) s.digits s.exponent
  let above := sides b.q (4 * b.m + 2) s.digits s.exponent
  if b.m % 2 = 0 then decide (below.2 ≤ below.1 ∧ above.1 ≤ above.2)
  else decide (below.2 < below.1 ∧ above.1 < above.2)

/-- Whether the number lies below `10 ^ e`. -/
def isBelowPower (b : Binary) (e : Int) : Bool :=
  let s := sides b.q (4 * b.m) 1 e
  decide (s.2 < s.1)

/-- The least exponent of a power of ten above the number: the binary exponent gives it but for one
    or two steps. -/
def magnitude (b : Binary) : Int :=
  let k := ((b.m.log2 : Int) + b.q) * 30103 / 100000
  if b.isBelowPower k then k else if b.isBelowPower (k + 1) then k + 1 else k + 2

/-- The greatest multiple of `10 ^ e` that is not above the number. -/
def floorAt (b : Binary) (e : Int) : Scaled :=
  let s := sides b.q (4 * b.m) 1 e
  ⟨s.2 / s.1, e⟩

/-- Whether the next multiple of `10 ^ e` is at least as near as the one below. -/
def isNearerAbove (b : Binary) (s : Scaled) : Bool :=
  let t := sides b.q (8 * b.m) (2 * s.digits + 1) s.exponent
  decide (t.1 ≤ t.2)

/-- The decimal of a given number of digits that reads back, if there is one. -/
def withDigits? (b : Binary) (count : Nat) : Option Scaled :=
  let lower := b.floorAt (b.magnitude - count)
  let upper : Scaled := ⟨lower.digits + 1, lower.exponent⟩
  match b.readsBack lower, b.readsBack upper with
  | true, true => some (if b.isNearerAbove lower then upper else lower)
  | true, false => some lower
  | false, true => some upper
  | false, false => none

def exact (b : Binary) : Scaled := ⟨b.m * 2 ^ b.q.toNat * 5 ^ (-b.q).toNat, -((-b.q).toNat : Int)⟩

/-- The shortest decimal that reads back. -/
def shortest (b : Binary) : Scaled :=
  ((List.range 17).findSome? fun n => b.withDigits? (n + 1)).getD b.exact

end Binary

/-- A decimal written out with a point where it needs one and without an exponent. -/
def Scaled.positional (s : Scaled) : String :=
  let digits := Nat.toDigits 10 s.digits
  let behind := (-s.exponent).toNat
  if 0 ≤ s.exponent then String.ofList (digits ++ List.replicate s.exponent.toNat '0')
  else
    let padded := List.replicate (behind + 1 - digits.length) '0' ++ digits
    let whole := padded.take (padded.length - behind)
    let fraction := (padded.drop (padded.length - behind)).reverse.dropWhile (· = '0') |>.reverse
    if fraction.isEmpty then String.ofList whole
    else String.ofList (whole ++ '.' :: fraction)

/-- The text of a floating point number in messages: the shortest decimal that reads back, never
    with an exponent, and with the sign of a negative zero. -/
def floatText (x : Float) : String :=
  if x.isNaN then "NaN"
  else
    let bits := x.toBits
    let sign := if bits.toNat / 2 ^ 63 = 1 then "-" else ""
    if x.isInf then sign ++ "inf"
    else if bits.toNat % 2 ^ 63 = 0 then sign ++ "0"
    else sign ++ (Binary.ofBits bits).shortest.positional

end Junction.Decimal
