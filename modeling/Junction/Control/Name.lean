import Junction.Beacon.Basic
import Junction.Control.Event
import Junction.RightOfWay.Precedence
import Junction.RightOfWay.SlotChoice
import Junction.Text.Blank
import Junction.Text.Quoted

/-! # Names in text

Protocols, precedences, slot choices and events can be given by name. White space around a name and
the case of its seven-bit letters do not matter.
-/

namespace Junction

/-- A text that names nothing of the wanted kind; it is kept as it was compared. -/
inductive UnknownName where
  | protocol (text : String)
  | precedence (text : String)
  | slotChoice (text : String)
  | event (text : String)
  deriving DecidableEq, Repr

namespace UnknownName

def message : UnknownName → String
  | protocol text =>
    s!"unknown policy {Text.quoted text} (expected serial, parallel or reservation)"
  | precedence text => s!"unknown tie break {Text.quoted text}"
  | slotChoice text => s!"unknown slot selection {Text.quoted text}"
  | event text => s!"unknown intersection event {Text.quoted text}"

end UnknownName

def Protocol.ofName (s : String) : Except UnknownName Protocol :=
  match (Text.trim s).toLower with
  | "serial" => .ok .serial
  | "parallel" => .ok .parallel
  | "reservation" => .ok .reservation
  | other => .error (.protocol other)

/-- The precedence of a name, which may be cut after its first word. -/
def Precedence.ofName (s : String) : Except UnknownName Precedence :=
  match (Text.trim s).toLower with
  | "higher-id-first" | "higher" => .ok .higherFirst
  | "lower-id-first" | "lower" => .ok .lowerFirst
  | other => .error (.precedence other)

def SlotChoice.ofName (s : String) : Except UnknownName SlotChoice :=
  match (Text.trim s).toLower with
  | "first-fit" | "firstfit" => .ok .firstFit
  | "earliest-entry" | "earliest" => .ok .earliestEntry
  | other => .error (.slotChoice other)

def Event.ofName (s : String) : Except UnknownName Event :=
  match (Text.trim s).toUpper with
  | "APPROACHING" => .ok .approaching
  | "ENTERING" => .ok .entering
  | "EXITING" => .ok .exiting
  | "ERROR" => .ok .error
  | other => .error (.event other)

end Junction
