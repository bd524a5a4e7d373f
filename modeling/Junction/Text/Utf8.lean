/-! # Where a text in bytes goes wrong

A text is sent as the bytes of its characters. The leading byte of a character fixes how many
bytes follow and in which range each of them lies. The first byte that breaks this rule gives the
fault: where the broken character starts, and how many of its bytes were good.
-/

namespace Junction.Text.Utf8

/-- The first departure from the encoding. -/
inductive Fault where
  /-- The character that starts at byte `start` breaks off after `length` good bytes (a byte that
      can start no character counts as one). -/
  | invalid (start length : Nat)
  /-- The bytes end inside the character that starts at byte `start`. -/
  | incomplete (start : Nat)
  deriving DecidableEq, Repr

namespace Fault

def message : Fault → String
  | invalid start length => s!"invalid utf-8 sequence of {length} bytes from index {start}"
  | incomplete start => s!"incomplete utf-8 byte sequence from index {start}"

end Fault

/-- The ranges of the bytes that follow a leading byte, if it is one. -/
def following (b : UInt8) : Option (List (UInt8 × UInt8)) :=
  if b ≤ 0x7F then some []
  else if 0xC2 ≤ b && b ≤ 0xDF then some [(0x80, 0xBF)]
  else if b = 0xE0 then some [(0xA0, 0xBF), (0x80, 0xBF)]
  else if b = 0xED then some [(0x80, 0x9F), (0x80, 0xBF)]
  else if 0xE1 ≤ b && b ≤ 0xEF then some [(0x80, 0xBF), (0x80, 0xBF)]
  else if b = 0xF0 then some [(0x90, 0xBF), (0x80, 0xBF), (0x80, 0xBF)]
  else if b = 0xF4 then some [(0x80, 0x8F), (0x80, 0xBF), (0x80, 0xBF)]
  else if 0xF1 ≤ b && b ≤ 0xF3 then some [(0x80, 0xBF), (0x80, 0xBF), (0x80, 0xBF)]
  else none

/-- The first fault in bytes that go on at `index`, inside a character that started at `start`,
    had `seen` bytes and still owes one byte for each range. -/
def faultFrom (index start seen : Nat) : List (UInt8 × UInt8) → List UInt8 → Option Fault
  | [], [] => none
  | _ :: _, [] => some (.incomplete start)
  | [], b :: rest =>
    match following b with
    | none => some (.invalid index 1)
    | some owed => faultFrom (index + 1) index 1 owed rest
  | (low, high) :: owed, b :: rest =>
    if low ≤ b && b ≤ high then faultFrom (index + 1) start (seen + 1) owed rest
    else some (.invalid start seen)

/-- The first fault in a text in bytes. -/
def fault? (bytes : List UInt8) : Option Fault := faultFrom 0 0 0 [] bytes

def encode (s : String) : List UInt8 := s.toByteArray.data.toList

/-- The text that the bytes spell, if they follow the encoding. -/
def decode? (bytes : List UInt8) : Option String := String.fromUTF8? ⟨bytes.toArray⟩

@[simp]
theorem decode?_encode (s : String) : decode? (encode s) = some s := by
  simp [decode?, encode, String.fromUTF8?, s.isValidUTF8, String.fromUTF8]

theorem encode_of_decode? {bytes : List UInt8} {s : String} (h : decode? bytes = some s) :
    encode s = bytes := by
  simp only [decode?, String.fromUTF8?] at h
  split at h
  · simp only [Option.some.injEq] at h
    subst h
    simp [encode, String.fromUTF8]
  · simp at h

end Junction.Text.Utf8
