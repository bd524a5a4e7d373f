import Junction.Beacon.Basic
import Junction.Text.Utf8

/-! # Beacons in bytes

The fields of a beacon follow each other without gaps, in the order of their declaration. Numbers
have a fixed width and their lowest byte comes first; a choice is the number of the alternative in
four bytes; a text is its length in eight bytes and then its characters; an optional field is a
byte zero, or a byte one and the field. A receiver reads as many bytes as a beacon takes and pays
no heed to those after it.
-/

namespace Junction

/-- Why bytes are not a beacon. -/
inductive WireFault where
  /-- The bytes end where a number or the mark of an optional field should stand. -/
  | endOfBytes
  /-- A text claims to be longer than what is left. -/
  | textPastEnd
  /-- There is no alternative of this number among `count`. -/
  | unknownVariant (found count : Nat)
  /-- The mark of an optional field is neither zero nor one. -/
  | unknownMark (found : Nat)
  /-- The bytes of a text do not spell characters. -/
  | badText (fault : Text.Utf8.Fault)
  deriving DecidableEq, Repr

namespace WireFault

def message (f : WireFault) : String :=
  "malformed beacon: " ++
    match f with
    | endOfBytes => "io error: unexpected end of file"
    | textPastEnd => "io error: "
    | unknownVariant found count =>
      s!"invalid value: integer `{found}`, expected variant index 0 <= i < {count}"
    | unknownMark found => s!"tag for enum is not valid, found {found}"
    | badText fault => s!"string is not valid utf8: {fault.message}"

end WireFault

namespace Wire

/-- The `width` lowest bytes of a number, the lowest first. -/
def ofNat : (width : Nat) → Nat → List UInt8
  | 0, _ => []
  | width + 1, n => UInt8.ofNat (n % 256) :: ofNat width (n / 256)

/-- The number whose bytes are given, the lowest first. -/
def toNat : List UInt8 → Nat
  | [] => 0
  | b :: rest => b.toNat + 256 * toNat rest

@[simp]
theorem length_ofNat (width n : Nat) : (ofNat width n).length = width := by
  induction width generalizing n with
  | zero => rfl
  | succ width ih => simp [ofNat, ih]

theorem toNat_ofNat (width n : Nat) : toNat (ofNat width n) = n % 256 ^ width := by
  induction width generalizing n with
  | zero => simp [ofNat, toNat, Nat.mod_one]
  | succ width ih =>
    have hb : (UInt8.ofNat (n % 256)).toNat = n % 256 := by
      rw [UInt8.toNat_ofNat']
      exact Nat.mod_mod n 256
    simp only [ofNat, toNat, ih, hb, Nat.pow_succ]
    rw [Nat.mul_comm (256 ^ width) 256, Nat.mod_mul]

theorem toNat_lt (bytes : List UInt8) : toNat bytes < 256 ^ bytes.length := by
  induction bytes with
  | nil => decide
  | cons b rest ih =>
    have := b.toNat_lt
    simp only [toNat, List.length_cons, Nat.pow_succ]
    omega

theorem ofNat_toNat (bytes : List UInt8) : ofNat bytes.length (toNat bytes) = bytes := by
  induction bytes with
  | nil => rfl
  | cons b rest ih =>
    have hb : b.toNat < 256 := b.toNat_lt
    have hmod : (b.toNat + 256 * toNat rest) % 256 = b.toNat := by omega
    have hdiv : (b.toNat + 256 * toNat rest) / 256 = toNat rest := by omega
    simp [ofNat, toNat, List.length_cons, hmod, hdiv, ih]

/-- A reader takes a value off the front of the bytes, or finds a fault. -/
abbrev Reader (α : Type) := StateT (List UInt8) (Except WireFault) α

/-- Take a number of `width` bytes. -/
def takeNat (width : Nat) : Reader Nat := fun bytes =>
  if bytes.length < width then .error .endOfBytes
  else .ok (toNat (bytes.take width), bytes.drop width)

/-- Take a text of `length` bytes. -/
def takeChars (length : Nat) : Reader String := fun bytes =>
  if bytes.length < length then .error .textPastEnd
  else
    let body := bytes.take length
    match Text.Utf8.decode? body with
    | some s => .ok (s, bytes.drop length)
    | none => .error (.badText ((Text.Utf8.fault? body).getD (.incomplete body.length)))

/-- Take the number of one of the given alternatives. -/
def takeVariant {α : Type} (variants : List α) : Reader α := do
  let n ← takeNat 4
  match variants[n]? with
  | some a => pure a
  | none => throw (.unknownVariant n variants.length)

def takeText : Reader String := do takeChars (← takeNat 8)

/-- Take a number of eight bytes that may be left out. -/
def takeOptional : Reader (Option Nat) := do
  let mark ← takeNat 1
  if mark = 0 then pure none
  else if mark = 1 then
    let n ← takeNat 8
    pure (some n)
  else throw (.unknownMark mark)

/-- A text: its length in bytes and its bytes. -/
def ofText (s : String) : List UInt8 :=
  let body := Text.Utf8.encode s
  ofNat 8 body.length ++ body

/-- A number of eight bytes that may be left out. -/
def ofOptional : Option Nat → List UInt8
  | none => [0]
  | some n => 1 :: ofNat 8 n

end Wire

namespace Protocol

/-- The protocols in the order of their numbers on the wire. -/
def all : List Protocol := [serial, parallel, reservation]

/-- The number of a protocol on the wire. -/
def index : Protocol → Nat
  | serial => 0
  | parallel => 1
  | reservation => 2

theorem all_index (p : Protocol) : all[p.index]? = some p := by cases p <;> rfl

end Protocol

namespace Status

/-- The statuses in the order of their numbers on the wire. -/
def all : List Status := [idle, requesting, crossing, exiting]

/-- The number of a status on the wire. -/
def index : Status → Nat
  | idle => 0
  | requesting => 1
  | crossing => 2
  | exiting => 3

theorem all_index (s : Status) : all[s.index]? = some s := by cases s <;> rfl

end Status

namespace Beacon

open Wire

def toBytes (b : Beacon) : List UInt8 :=
  ofNat 1 b.sender.toNat ++ ofNat 4 b.protocol.index ++ ofNat 4 b.status.index
    ++ ofText b.route.entry.name ++ ofText b.route.exit.name ++ ofNat 8 b.sequence.toNat
    ++ ofOptional (b.entryTime.map Timestamp.ms) ++ ofOptional (b.crossingMs.map UInt64.toNat)

def take : Reader Beacon := do
  let sender ← takeNat 1
  let protocol ← takeVariant Protocol.all
  let status ← takeVariant Status.all
  let entry ← takeText
  let exit ← takeText
  let sequence ← takeNat 8
  let entryTime ← takeOptional
  let crossingMs ← takeOptional
  pure {
    sender := ⟨UInt8.ofNat sender⟩
    protocol
    status
    route := ⟨⟨entry⟩, ⟨exit⟩⟩
    sequence := UInt64.ofNat sequence
    entryTime := entryTime.map Timestamp.wrapping
    crossingMs := crossingMs.map UInt64.ofNat
  }

def ofBytes (bytes : List UInt8) : Except WireFault Beacon := (take.run bytes).map Prod.fst

end Beacon

end Junction
