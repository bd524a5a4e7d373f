import Junction.Json.Numeral

/-! # Tokens

The text of a value is cut into marks, words, numbers and quoted texts. Only blanks, tabs and ends
of lines may stand between them.
-/

namespace Junction.Json

/-- The marks that structure a value. -/
inductive Mark where
  | listStart
  | listEnd
  | recordStart
  | recordEnd
  | colon
  | comma
  deriving DecidableEq, Repr

/-- The words that are values. -/
inductive Word where
  | null
  | yes
  | no
  deriving DecidableEq, Repr

/-- A piece of the text of a value. -/
inductive Token where
  | mark (m : Mark)
  | word (w : Word)
  | number (n : Numeral)
  /-- A quoted text; one that holds half a character has no content. -/
  | text (content : Option String)
  deriving DecidableEq, Repr

namespace Token

def mark? : Char → Option Mark
  | '[' => some .listStart
  | ']' => some .listEnd
  | '\x7b' => some .recordStart
  | '\x7d' => some .recordEnd
  | ':' => some .colon
  | ',' => some .comma
  | _ => none

def isSpace (c : Char) : Bool := c = ' ' || c = '\t' || c = '\n' || c = '\r'

def ofBare? (cs : List Char) : Option Token :=
  match String.ofList cs with
  | "null" => some (.word .null)
  | "true" => some (.word .yes)
  | "false" => some (.word .no)
  | _ => (Numeral.ofChars? cs).map .number

def hexValue? (c : Char) : Option Nat :=
  if c.isDigit then some (c.toNat - '0'.toNat)
  else if 'a' ≤ c ∧ c ≤ 'f' then some (c.toNat - 'a'.toNat + 10)
  else if 'A' ≤ c ∧ c ≤ 'F' then some (c.toNat - 'A'.toNat + 10)
  else none

def escaped? : Char → Option Char
  | '"' => some '"'
  | '\\' => some '\\'
  | '/' => some '/'
  | 'b' => some '\x08'
  | 'f' => some '\x0c'
  | 'n' => some '\n'
  | 'r' => some '\r'
  | 't' => some '\t'
  | _ => none

/-- What stands between quotes, as numbers: characters, and the sixteen-bit units of escapes, which
    are told apart by the flag. -/
def units? : List Char → Option (List (Bool × Nat))
  | [] => some []
  | '\\' :: 'u' :: a :: b :: c :: d :: rest => do
    let n := ((← hexValue? a) * 16 + (← hexValue? b)) * 256 + (← hexValue? c) * 16 + (← hexValue? d)
    some ((true, n) :: (← units? rest))
  | '\\' :: c :: rest => do
    let c ← escaped? c
    some ((false, c.toNat) :: (← units? rest))
  | c :: rest => if c = '\\' ∨ c.toNat < 0x20 then none else (units? rest).map ((false, c.toNat) :: ·)

/-- The characters that numbers spell; two halves of a character must follow each other. -/
def join? : List (Bool × Nat) → Option (List Char)
  | [] => some []
  | (true, high) :: (true, low) :: rest =>
    if 0xD800 ≤ high ∧ high < 0xDC00 then
      if 0xDC00 ≤ low ∧ low < 0xE000 then
        (join? rest).map (Char.ofNat (0x10000 + (high - 0xD800) * 0x400 + (low - 0xDC00)) :: ·)
      else none
    else if 0xDC00 ≤ high ∧ high < 0xE000 then none
    else (join? ((true, low) :: rest)).map (Char.ofNat high :: ·)
  | (escape, n) :: rest =>
    if escape && 0xD800 ≤ n && n < 0xE000 then none else (join? rest).map (Char.ofNat n :: ·)

def ofQuoted? (cs : List Char) : Option Token :=
  (units? cs).map fun units => .text ((join? units).map String.ofList)

/-- Where a reader of tokens stands; characters read so far are kept last one first. -/
inductive Place where
  /-- Between tokens. -/
  | between
  /-- In a word or a number. -/
  | bare (read : List Char)
  /-- Between quotes; `afterEscape` holds behind a backslash. -/
  | quoted (read : List Char) (afterEscape : Bool)

/-- The place after a character that starts a token, and the token if that is all of it. -/
def start (c : Char) : Place × List Token :=
  match mark? c with
  | some m => (.between, [.mark m])
  | none => if isSpace c then (.between, []) else if c = '"' then (.quoted [] false, []) else (.bare [c], [])

def ofCharsFrom? : Place → List Char → Option (List Token)
  | .between, [] => some []
  | .bare read, [] => (ofBare? read.reverse).map ([·])
  | .quoted _ _, [] => none
  | .between, c :: rest =>
    let (place, tokens) := start c
    (ofCharsFrom? place rest).map (tokens ++ ·)
  | .bare read, c :: rest =>
    if (mark? c).isSome || isSpace c || c = '"' then do
      let token ← ofBare? read.reverse
      let (place, tokens) := start c
      (ofCharsFrom? place rest).map (token :: tokens ++ ·)
    else ofCharsFrom? (.bare (c :: read)) rest
  | .quoted read true, c :: rest => ofCharsFrom? (.quoted (c :: read) false) rest
  | .quoted read false, c :: rest =>
    if c = '"' then do
      let token ← ofQuoted? read.reverse
      (ofCharsFrom? .between rest).map (token :: ·)
    else ofCharsFrom? (.quoted (c :: read) (c = '\\')) rest

/-- The tokens of a text, if it is made of tokens. -/
def ofString? (s : String) : Option (List Token) := ofCharsFrom? .between s.toList

end Token

end Junction.Json
