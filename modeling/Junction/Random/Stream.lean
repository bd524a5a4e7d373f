import Junction.Power

/-! # A stream of random words

The words come from a stream cipher that is run on nothing: a key of eight words, a count of
blocks, and twelve rounds of mixing per block. A seed of sixty-four bits is spread over the key by
a small generator of its own. The same seed always gives the same words.
-/

namespace Junction.Random

def rotateLeft (x k : UInt32) : UInt32 := (x <<< k) ||| (x >>> (32 - k))

/-- A block of sixteen words. -/
abbrev Block := Vector UInt32 16

/-- Mix four words of a block. -/
def quarterRound (v : Block) (i j k l : Fin 16) : Block :=
  let a := v[i] + v[j]
  let d := rotateLeft (v[l] ^^^ a) 16
  let c := v[k] + d
  let b := rotateLeft (v[j] ^^^ c) 12
  let a := a + b
  let d := rotateLeft (d ^^^ a) 8
  let c := c + d
  let b := rotateLeft (b ^^^ c) 7
  (((v.set i a).set j b).set k c).set l d

/-- Mix the columns of a block, and then its diagonals. -/
def doubleRound (v : Block) : Block :=
  let v := quarterRound v 0 4 8 12
  let v := quarterRound v 1 5 9 13
  let v := quarterRound v 2 6 10 14
  let v := quarterRound v 3 7 11 15
  let v := quarterRound v 0 5 10 15
  let v := quarterRound v 1 6 11 12
  let v := quarterRound v 2 7 8 13
  quarterRound v 3 4 9 14

/-- The key of a stream. -/
abbrev Key := Vector UInt32 8

/-- The block that is mixed: four fixed words, the key, and the number of the block. -/
def input (key : Key) (number : Nat) : Block :=
  #v[0x61707865, 0x3320646e, 0x79622d32, 0x6b206574, key[0], key[1], key[2], key[3], key[4],
    key[5], key[6], key[7], UInt32.ofNat (number % 2 ^ 32), UInt32.ofNat (number / 2 ^ 32 % 2 ^ 32),
    0, 0]

/-- A block of the stream: the input mixed by six double rounds, and added to itself unmixed. -/
def block (key : Key) (number : Nat) : Block :=
  let start := input key number
  let mixed := (List.range 6).foldl (fun v _ => doubleRound v) start
  start.zipWith (· + ·) mixed

/-- The words of a list two by two, the low half first. -/
def pairUp : List UInt32 → List UInt64
  | low :: high :: rest => (high.toUInt64 <<< 32 ||| low.toUInt64) :: pairUp rest
  | _ => []

/-- The next state of the generator that spreads a seed. -/
def spread (s : UInt64) : UInt64 := s * 6364136223846793005 + 11634580027462260723

/-- The word that a state of that generator gives. -/
def spreadWord (s : UInt64) : UInt32 :=
  let x := (((s >>> 18) ^^^ s) >>> 27).toUInt32
  let k := (s >>> 59).toUInt32
  (x >>> k) ||| (x <<< ((32 - k) % 32))

def keyOf (seed : UInt64) : Key :=
  Vector.ofFn fun i => spreadWord ((List.range (i.val + 1)).foldl (fun s _ => spread s) seed)

/-- A stream of words: its key, the number of the next block, and the words of the current block
    that are left. -/
structure Stream where
  key : Key
  next : Nat
  pending : List UInt64
  deriving DecidableEq, Repr

namespace Stream

def ofSeed (seed : UInt64) : Stream := ⟨keyOf seed, 0, []⟩

def draw (s : Stream) : UInt64 × Stream :=
  match s.pending with
  | w :: rest => (w, { s with pending := rest })
  | [] =>
    let words := pairUp (block s.key s.next).toList
    (words.headD 0, { s with next := s.next + 1, pending := words.tail })

/-- How often a draw is repeated. Each one is rejected less than every other time, so the last
    one is as good as never reached. -/
def attempts : Nat := 1000

/-- A number below `count`, all equally likely: the high half of the product of `count` and a word,
    unless the low half exceeds `zone`. -/
def belowWithin (count zone : Nat) : Nat → Stream → Nat × Stream
  | 0, s => (0, s)
  | n + 1, s =>
    let (w, s) := s.draw
    let product := w.toNat * count
    if product % 2 ^ 64 ≤ zone then (product / 2 ^ 64, s) else belowWithin count zone n s

/-- A number from `low` to `high`, all equally likely. -/
def uniform (low high : Nat) (s : Stream) : Nat × Stream :=
  let count := high - low + 1
  if 2 ^ 64 ≤ count then
    let (w, s) := s.draw
    (low + w.toNat, s)
  else
    let zone := count * 2 ^ (63 - count.log2) - 1
    let (n, s) := belowWithin count zone attempts s
    (low + n, s)

/-- Whether something of probability `p` happens. What is certain takes no word. -/
def chance (p : Float) (s : Stream) : Bool × Stream :=
  if p == 1.0 then (true, s)
  else
    let (w, s) := s.draw
    (decide (w < (p * 18446744073709551616.0).toUInt64), s)

theorem belowWithin_lt {count zone : Nat} (h : 0 < count) (n : Nat) (s : Stream) :
    (belowWithin count zone n s).1 < count := by
  induction n generalizing s with
  | zero => exact h
  | succ n ih =>
    simp only [belowWithin]
    split
    · have hw := s.draw.1.toNat_lt
      refine Nat.div_lt_of_lt_mul ?_
      exact (Nat.mul_lt_mul_right h).2 hw
    · exact ih _

theorem low_le_uniform (low high : Nat) (s : Stream) : low ≤ (uniform low high s).1 := by
  simp only [uniform]
  split <;> exact Nat.le_add_right _ _

/-- What is drawn between two bounds lies between them. -/
theorem uniform_le {low high : Nat} (h : low ≤ high) (hh : high < 2 ^ 64) (s : Stream) :
    (uniform low high s).1 ≤ high := by
  simp only [uniform]
  split
  · have := s.draw.1.toNat_lt
    simp only
    omega
  · have hc : 0 < high - low + 1 := by omega
    exact Nat.le_trans (Nat.add_le_add_left (Nat.le_of_lt_succ (belowWithin_lt hc attempts s)) low)
      (by omega)

end Stream

end Junction.Random
