/-! # Numbers in text

How a count or a measure is read from a text. A count is written in decimal digits, with a plus
sign at most, and has a greatest value. A measure may have a sign, a point and an exponent, or be
one of the words for infinity and for no number.
-/

namespace Junction.Text

/-- Why a text is not a number of the wanted kind. -/
inductive NumberFault where
  /-- There is no text where a count should be. -/
  | emptyCount
  /-- A character of a count is no digit. -/
  | invalidDigit
  /-- The count exceeds its greatest value. -/
  | tooLarge
  /-- There is no text where a measure should be. -/
  | emptyMeasure
  /-- The text does not follow the form of a measure. -/
  | invalidMeasure
  deriving DecidableEq, Repr

namespace NumberFault

def message : NumberFault → String
  | emptyCount => "cannot parse integer from empty string"
  | invalidDigit => "invalid digit found in string"
  | tooLarge => "number too large to fit in target type"
  | emptyMeasure => "cannot parse float from empty string"
  | invalidMeasure => "invalid float literal"

end NumberFault

def digitValue? (c : Char) : Option Nat :=
  if '0' ≤ c ∧ c ≤ '9' then some (c.toNat - '0'.toNat) else none

/-- Go on reading a count that has reached `value`; the first fault from the left is found. -/
def countFrom (greatest value : Nat) : List Char → Except NumberFault Nat
  | [] => .ok value
  | c :: rest =>
    match digitValue? c with
    | none => .error .invalidDigit
    | some d =>
      let next := value * 10 + d
      if greatest < next then .error .tooLarge else countFrom greatest next rest

/-- Read a count of at most `greatest`. -/
def readCount (greatest : Nat) (s : String) : Except NumberFault Nat :=
  match s.toList with
  | [] => .error .emptyCount
  | ['+'] => .error .invalidDigit
  | '+' :: digits => countFrom greatest 0 digits
  | digits => countFrom greatest 0 digits

/-- The decimal digits at the head of a text, and the rest. -/
def splitDigits (cs : List Char) : List Char × List Char := cs.span Char.isDigit

def digitsValue (digits : List Char) : Nat :=
  digits.foldl (fun n c => n * 10 + (c.toNat - '0'.toNat)) 0

/-- The measure `digits * 10 ^ exponent`, rounded to the nearest one that can be held. An exponent
    far out of range is not multiplied out. -/
def measure (digits : Nat) (exponent : Int) : Float :=
  let size := (Nat.toDigits 10 digits).length + exponent
  if digits = 0 ∨ size < -400 then 0.0
  else if 400 < size then 1.0 / 0.0
  else if 0 ≤ exponent then Float.ofScientific digits false exponent.toNat
  else Float.ofScientific digits true (-exponent).toNat

/-- The exponent at the end of a measure; none at all counts as zero. -/
def readExponent? (cs : List Char) : Option Int :=
  match cs with
  | [] => some 0
  | c :: rest =>
    if c = 'e' ∨ c = 'E' then
      let (negative, digits) := match rest with
        | '-' :: digits => (true, digits)
        | '+' :: digits => (false, digits)
        | digits => (false, digits)
      if digits.isEmpty || !digits.all Char.isDigit then none
      else some (if negative then -(digitsValue digits : Int) else digitsValue digits)
    else none

/-- A measure without its sign. -/
def readUnsigned? (cs : List Char) : Option Float :=
  let word := cs.map Char.toLower
  if word = ['i', 'n', 'f'] ∨ word = ['i', 'n', 'f', 'i', 'n', 'i', 't', 'y'] then some (1.0 / 0.0)
  else if word = ['n', 'a', 'n'] then some (0.0 / 0.0)
  else
    let (whole, rest) := splitDigits cs
    let (fraction, rest) := match rest with
      | '.' :: rest => splitDigits rest
      | rest => ([], rest)
    if whole.isEmpty && fraction.isEmpty then none
    else (readExponent? rest).map fun e => measure (digitsValue (whole ++ fraction)) (e - fraction.length)

def readMeasure (s : String) : Except NumberFault Float :=
  let unsigned (cs : List Char) : Except NumberFault Float :=
    match readUnsigned? cs with
    | some x => .ok x
    | none => .error .invalidMeasure
  match s.toList with
  | [] => .error .emptyMeasure
  | '-' :: cs => (unsigned cs).map fun x => -x
  | '+' :: cs => unsigned cs
  | cs => unsigned cs

end Junction.Text
