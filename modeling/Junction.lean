import Junction.Main
import Junction.Live.Fleet
import Junction.Proofs.Control.Commitment
import Junction.Proofs.Control.Window
import Junction.Proofs.Control.Memory
import Junction.Proofs.Control.Interlock
import Junction.Proofs.Simulation.Debounce
import Junction.Proofs.Simulation.Reservations
import Junction.Proofs.Simulation.Chronicle
import Junction.Proofs.Simulation.Violations
import Junction.Proofs.Simulation.Passage
import Junction.Proofs.Simulation.Renewal
import Junction.Proofs.Simulation.Latecomers
import Junction.Proofs.Simulation.Termination
import Junction.Proofs.RightOfWay.Requestors
import Junction.Proofs.Beacon.RoundTrip
import Junction.Proofs.RightOfWay.Layers
import Junction.Proofs.Road.Declarations
import Junction.Proofs.Simulation.Yielding
import Junction.Proofs.Simulation.Frequency
import Junction.Proofs.RightOfWay.Refusals
import Junction.Proofs.Live.Publication
import Junction.Proofs.Radio.Link
import Junction.Proofs.RightOfWay.Patience
import Junction.Proofs.Control.Announcement
import Junction.Proofs.RightOfWay.Concerns
import Junction.Proofs.Neighbor.Numbering
import Junction.Proofs.Control.Aftermath
import Junction.Proofs.Radio.Periods
import Junction.Proofs.Simulation.Cadence
import Junction.Proofs.Simulation.Enrolment
import Junction.Proofs.Radio.Forwarding
import Junction.Proofs.Road.Table
import Junction.Proofs.Simulation.Views
import Junction.Proofs.Simulation.Transmissions
import Junction.Proofs.Neighbor.Keys
