import Junction.Power

/-! # Numerals

A numeral is the text of a number, taken apart into sign, whole digits, digits behind the point and
exponent. What number it stands for depends on what is wanted. A count must be written without
point and exponent. A measure gathers as many digits as fit in sixty-four bits, leaves out the
others, and is then brought to its size by powers of ten, each step rounding.
-/

namespace Junction.Json

/-- The parts of a number's text. -/
structure Numeral where
  negative : Bool
  whole : List Char
  /-- The digits behind the point, if there is one. -/
  fraction : Option (List Char)
  /-- Whether the exponent is negative, and its digits, if there is one. -/
  exponent : Option (Bool × List Char)
  deriving DecidableEq, Repr

namespace Numeral

def ofNat (n : Nat) : Numeral := ⟨false, Nat.toDigits 10 n, none, none⟩

/-- The exponent at the end of a numeral, behind its letter. -/
def exponentOf? (cs : List Char) : Option (Bool × List Char) :=
  let (negative, digits) :=
    match cs with
    | '-' :: digits => (true, digits)
    | '+' :: digits => (false, digits)
    | digits => (false, digits)
  if digits.isEmpty || !digits.all Char.isDigit then none else some (negative, digits)

/-- Whether the whole digits have the one form that is allowed: no zero stands in front. -/
def isPlain : List Char → Bool
  | [] => false
  | ['0'] => true
  | '0' :: _ => false
  | _ => true

/-- Take the text of a number apart, if it has the form of one. -/
def ofChars? (cs : List Char) : Option Numeral := do
  let (negative, cs) :=
    match cs with
    | '-' :: rest => (true, rest)
    | cs => (false, cs)
  let (whole, cs) := cs.span Char.isDigit
  if !isPlain whole then none
  let (fraction, cs) :=
    match cs with
    | '.' :: rest =>
      let (digits, rest) := rest.span Char.isDigit
      (some digits, rest)
    | cs => (none, cs)
  if fraction = some [] then none
  match cs with
  | [] => some ⟨negative, whole, fraction, none⟩
  | c :: rest =>
    if c = 'e' ∨ c = 'E' then some ⟨negative, whole, fraction, some (← exponentOf? rest)⟩ else none

def digitValue (c : Char) : Nat := c.toNat - '0'.toNat

def valueOf (digits : List Char) : Nat := digits.foldl (fun n c => n * 10 + digitValue c) 0

/-- The count that a numeral stands for, if it is one of sixty-four bits. -/
def toNat? (n : Numeral) : Option Nat :=
  if n.negative || n.fraction.isSome || n.exponent.isSome then none
  else
    let value := valueOf n.whole
    if value < 2 ^ 64 then some value else none

/-- Gather digits as long as they fit in sixty-four bits: the number, how many digits were used,
    and how many were left out. -/
def gather (n used : Nat) : List Char → Nat × Nat × Nat
  | [] => (n, used, 0)
  | c :: rest =>
    let next := n * 10 + digitValue c
    if next < 2 ^ 64 then gather next (used + 1) rest else (n, used, rest.length + 1)

/-- Multiply by a power of ten, one step of up to 308 places at a time. None if the result is too
    large. -/
def scale (x : Float) (exponent : Int) : Option Float :=
  if exponent.natAbs ≤ 308 then
    let power := Float.ofScientific 1 false exponent.natAbs
    if 0 ≤ exponent then
      let y := x * power
      if y.isInf then none else some y
    else some (x / power)
  else if x == 0.0 then some x
  else if 0 ≤ exponent then none
  else scale (x / 1e308) (exponent + 308)
termination_by exponent.natAbs
decreasing_by omega

/-- The measure that a numeral stands for, unless it is too large. -/
def toFloat? (n : Numeral) : Option Float :=
  let (whole, _, left) := gather 0 0 n.whole
  let (digits, used, _) := gather whole 0 (n.fraction.getD [])
  let shift : Int := left - used
  let size :=
    match n.exponent with
    | none => some (some shift)
    | some (negative, places) =>
      let value := valueOf places
      if 2 ^ 31 ≤ value then
        if digits ≠ 0 ∧ !negative then none else some none
      else some (some (if negative then shift - value else shift + value))
  let unsigned :=
    match size with
    | none => none
    | some none => some 0.0
    | some (some exponent) => scale (UInt64.ofNat digits).toFloat exponent
  unsigned.map fun x => if n.negative then -x else x

def text (n : Numeral) : String :=
  String.ofList ((if n.negative then ['-'] else []) ++ n.whole
    ++ (n.fraction.elim [] fun digits => '.' :: digits)
    ++ (n.exponent.elim [] fun (negative, digits) => (if negative then ['e', '-'] else ['e']) ++ digits))

end Numeral

end Junction.Json
