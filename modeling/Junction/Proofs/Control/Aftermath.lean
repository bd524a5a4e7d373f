import Junction.Proofs.Control.Memory
import Junction.Proofs.Neighbor.Arrivals

/-! # After the detector has failed

A failure of the detector stops the vehicle for good: no event, tick or progress does anything from
then on. Beacons are not stopped. They still go into the table of the neighbors, which nothing reads
any more, and so the state does not quite stay what it was.
-/

namespace Junction.Controller

/-- The beacons that go into a table of a protocol, and when they come. -/
def Input.arrival? (protocol : Protocol) : Input → Option Arrival
  | .beacon b now => if b.protocol = protocol then some ⟨b, now⟩ else none
  | .event _ _ | .progress _ | .tick _ => none

def arrivals (protocol : Protocol) (inputs : List Input) : List Arrival :=
  inputs.filterMap (Input.arrival? protocol)

/-- The controller has stopped after a failure of the detector. -/
structure Failed (c : Controller) : Prop where
  stopped : c.running = false
  aborted : c.phase = .aborted

variable {c : Controller} {event : Event} {now : Timestamp}

theorem onEvent_of_stopped (stopped : c.running = false) (event : Event) (now : Timestamp) :
    c.onEvent event now = (c, none) := by
  simp [onEvent, stopped]

namespace Failed

theorem of_error (coherent : c.Coherent) (now : Timestamp) :
    (c.after (.event .error now)).Failed := by
  have stopped : (c.after (.event .error now)).running = false := by
    change (c.onEvent .error now).1.running = false
    cases running : c.running with
    | false => rw [onEvent_of_stopped running, running]
    | true => simp [onEvent, running, abort]
  exact ⟨stopped, (coherent.after _).stopped.mpr stopped⟩

theorem withTable (failed : c.Failed) (table : NeighborTable) : Failed { c with table } :=
  ⟨failed.stopped, failed.aborted⟩

theorem after_eq (failed : c.Failed) (input : Input) :
    c.after input =
      { c with table := c.table.afterAll (arrivals c.beacon.protocol [input]) } := by
  cases input with
  | event event now => exact congrArg Prod.fst (onEvent_of_stopped failed.stopped event now)
  | tick now => exact congrArg Prod.fst (tick_of_stopped failed.stopped now)
  | progress metres =>
      have still : c.phase ≠ .approaching := by simp [failed.aborted]
      exact if_neg still
  | beacon b now =>
      change (c.onBeacon b now).1 = _
      rw [onBeacon_eq]
      by_cases own : b.protocol = c.beacon.protocol
      · rw [if_pos own]
        simp [arrivals, Input.arrival?, own, NeighborTable.afterAll, NeighborTable.after]
      · rw [if_neg own]
        simp [arrivals, Input.arrival?, own, NeighborTable.afterAll]

theorem afterAll_eq (failed : c.Failed) (inputs : List Input) :
    c.afterAll inputs =
      { c with table := c.table.afterAll (arrivals c.beacon.protocol inputs) } := by
  induction inputs generalizing c with
  | nil => rfl
  | cons input rest ih =>
      have split : arrivals c.beacon.protocol (input :: rest) =
          arrivals c.beacon.protocol [input] ++ arrivals c.beacon.protocol rest :=
        List.filterMap_append (l := [input])
      change (c.after input).afterAll rest = _
      rw [failed.after_eq, ih (failed.withTable _), split, NeighborTable.afterAll_append]

end Failed

/-- After a failure of the detector no input makes the controller report or decide anything, and
    whatever comes, its state stays what it was but for the table, which takes in the beacons of
    its protocol. If none of these is a peer's, nothing changes at all. -/
theorem only_hears_after_failure (s : Settings) (policy : Policy) (drive : Drive)
    (inputs : List Input) (t : Timestamp) (later : List Input) :
    let failed := reached s policy drive (inputs ++ [.event .error t])
    let c := reached s policy drive (inputs ++ .event .error t :: later)
    c = { failed with table := failed.table.afterAll (arrivals policy.protocol later) } ∧
      c.Failed ∧ (∀ event now, (c.onEvent event now).2 = none) ∧
      (∀ now, (c.tick now).2 = none) ∧
      ((∀ a ∈ arrivals policy.protocol later, a.sender = s.id) → c = failed) := by
  intro failed c
  have stopped : failed.Failed := by
    simp only [failed, reached_concat]
    exact .of_error (.reached inputs) t
  have constants : failed.constants = (ofPolicy s policy).constants := constants_reached ..
  have protocol : failed.beacon.protocol = policy.protocol :=
    (protocol_of_constants constants).trans (firstBeacon_sender s policy.protocol).2.1
  have owner : failed.table.owner = s.id := owner_of_constants constants
  have changed : c =
      { failed with table := failed.table.afterAll (arrivals policy.protocol later) } := by
    have split : c = failed.afterAll later := by
      simp [c, failed, reached, Controller.afterAll]
    rw [split, stopped.afterAll_eq, protocol]
  have still : c.Failed := by
    rw [changed]
    exact stopped.withTable _
  refine ⟨changed, still, ?_, ?_, ?_⟩
  · intro event now
    rw [onEvent_of_stopped still.stopped]
  · intro now
    rw [tick_of_stopped still.stopped]
  · intro own
    rw [changed, NeighborTable.afterAll_of_own (owner ▸ own)]

/-- The vehicle from the north asks for access and hears a peer before its detector fails. -/
def goesWell : List Input := [
  .event .approaching .zero,
  .beacon (eastern 2 0) .zero,
  .tick .zero]

/-- It gets back its own beacon and hears one of another protocol. -/
def hearsNobody : List Input := [
  .event .approaching (.wrapping 200),
  .beacon (eastern 1 4) (.wrapping 200),
  .progress 0.1,
  .beacon { eastern 2 1 with protocol := .serial } (.wrapping 300),
  .event .error (.wrapping 400),
  .tick (.wrapping 9000)]

theorem only_hears_after_failure_hearsNobody :
    (∀ a ∈ arrivals .parallel hearsNobody, a.sender = Settings.standard.id) ∧
      northern (goesWell ++ .event .error (.wrapping 100) :: hearsNobody) =
        northern (goesWell ++ [.event .error (.wrapping 100)]) := by
  have own : ∀ a ∈ arrivals .parallel hearsNobody, a.sender = Settings.standard.id := by decide
  exact ⟨own, (only_hears_after_failure .standard northernRule (.fresh 0.75) goesWell
    (.wrapping 100) hearsNobody).2.2.2.2 own⟩

/-- After a failure of the detector no input does anything. -/
def DeafAfterFailure : Prop :=
  ∀ (s : Settings) (policy : Policy) (drive : Drive) (inputs : List Input) (t : Timestamp)
    (later : List Input),
    let failed := reached s policy drive (inputs ++ [.event .error t])
    let c := reached s policy drive (inputs ++ .event .error t :: later)
    (∀ event now, (c.onEvent event now).2 = none) ∧ (∀ now, (c.tick now).2 = none) ∧ c = failed

/-- A peer that is heard after the failure gets an entry. -/
theorem not_deafAfterFailure : ¬DeafAfterFailure := by
  intro deaf
  have same := (deaf .standard northernRule (.fresh 0.75) [.event .approaching .zero]
    (.wrapping 100) [.beacon (eastern 2 0) (.wrapping 200)]).2.2
  have known := congrArg (fun c => c.table.contains ⟨2⟩) same
  exact absurd known (by decide +kernel)

end Junction.Controller
