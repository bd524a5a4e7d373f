import Junction.Control.Controller
import Junction.Road.Topology

/-! # Failures

Everything that can go wrong between reading the settings and the end of a run, with the words in
which a user is told.
-/

namespace Junction

/-- Why a vehicle or a simulation cannot go on. -/
inductive Fault where
  | settings (cause : SettingsFault)
  | topology (cause : TopologyFault)
  /-- Beacons cannot be sent or handed on. -/
  | transport (reason : String)
  | aborted (cause : Abort)
  /-- The text of a scenario is not one. -/
  | malformedScenario
  /-- A file that is not a topology table cannot be read. -/
  | unreadableFile (reason : String)

namespace Fault

def message : Fault → String
  | settings cause => s!"Invalid configuration: {cause.message}"
  | topology cause => s!"Topology error: {cause.message}"
  | transport reason => s!"Transport error: {reason}"
  | aborted cause => s!"Crossing aborted: {cause.message}"
  | malformedScenario => "Serialization error: malformed scenario"
  | unreadableFile reason => s!"IO error: {reason}"

end Fault

end Junction
