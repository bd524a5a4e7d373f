import Junction.Live.Runner
import Junction.Proofs.Control.Reachable
import Junction.RightOfWay.Serial

/-! # What a run does with its controller

A run adds nothing to its controller and takes nothing away: it hands every input on, in the order
in which it takes them, and shows the others at any time the beacon that the controller has then.
-/

namespace Junction

namespace Controller

variable {c : Controller}

theorem running_onEvent (c : Controller) (event : Event) (now : Timestamp) :
    (c.onEvent event now).1.running = (c.running && event != .error) := by
  cases running : c.running with
  | false => simp [onEvent, running]
  | true =>
      simp only [onEvent, running, Bool.not_true, Bool.false_eq_true, if_false]
      cases event with
      | approaching =>
          simp only [approach]
          split <;> exact running
      | entering =>
          simp only [enter]
          split <;> split <;> exact running
      | exiting => exact running
      | error => rfl

theorem running_tick (c : Controller) (now : Timestamp) :
    (c.tick now).1.running = c.running := by
  cases running : c.running with
  | false => rw [tick_of_stopped running, running]
  | true =>
      rw [tick_eq running]
      split
      · by_cases admits : (c.forget now).Admits (c.answerAt now) now
        · obtain ⟨pacer, eq, -⟩ := act_admitted admits
          rw [eq]
          exact running
        · obtain ⟨drive, pacer, since, eq, -⟩ := act_refused admits
          rw [eq]
          exact running
      · obtain ⟨drive, phase, eq, -⟩ := (c.forget now).pauseIfDue_eq now
        rw [eq]
        exact running

theorem running_onBeacon (c : Controller) (b : Beacon) (now : Timestamp) :
    (c.onBeacon b now).1.running = c.running := by
  rw [onBeacon_eq]
  split <;> rfl

theorem onEvent_snd (running : c.running = true) (event : Event) (now : Timestamp) :
    (c.onEvent event now).2 = if event = .error then some ⟨c.id, c.status⟩ else none := by
  cases event <;> simp [onEvent, running]

theorem status_onEvent_error (c : Controller) (now : Timestamp) :
    (c.onEvent .error now).1.status = c.status := by
  unfold onEvent
  split <;> rfl

end Controller

namespace RunnerInput

/-- What a controller is told of an input that is taken at an instant. -/
def told? : RunnerInput × Timestamp → Option Controller.Input
  | (.tick, now) => some (.tick now)
  | (.event e, now) => some (.event e now)
  | (.beacon b, now) => some (.beacon b now)
  | (.beaconsClosed, _) | (.eventsClosed, _) => none

/-- How a run ends with an input, if it does. -/
def end? (a : Abort) : RunnerInput → Option RunEnd
  | .event .error => some (.aborted a)
  | .eventsClosed => some .finished
  | _ => none

def isOfPeers : RunnerInput → Bool
  | .beacon _ | .beaconsClosed => true
  | _ => false

/-- Whether no more beacons come after an input. -/
def endsBeacons : RunnerInput → Bool
  | .beaconsClosed => true
  | _ => false

/-- An order in which a run can take inputs: it takes none after the one that ends it, and none that
    has to do with the peers once no more beacons can come. -/
def Orderly (inputs : List (RunnerInput × Timestamp)) : Prop :=
  inputs.Pairwise fun i j =>
    (∀ a, i.1.end? a = none) ∧ (i.1.endsBeacons = true → j.1.isOfPeers = false)

namespace Orderly

variable {past : List (RunnerInput × Timestamp)} {input : RunnerInput} {now : Timestamp}

theorem goesOn (orderly : Orderly (past ++ [(input, now)])) :
    ∀ i ∈ past, ∀ a, i.1.end? a = none := by
  intro i member
  obtain ⟨-, -, before⟩ := List.pairwise_append.mp orderly
  exact (before i member _ List.mem_cons_self).1

theorem stillHeard (orderly : Orderly (past ++ [(input, now)])) (peers : input.isOfPeers = true) :
    ∀ i ∈ past, i.1.endsBeacons = false := by
  intro i member
  obtain ⟨-, -, before⟩ := List.pairwise_append.mp orderly
  apply Bool.eq_false_iff.mpr
  intro ends
  cases peers.symm.trans ((before i member _ List.mem_cons_self).2 ends)

theorem getLast?_end?_iff (orderly : Orderly past) {a : Abort} {e : RunEnd} :
    (past.getLast?.bind fun i => i.1.end? a) = some e ↔ ∃ i ∈ past, i.1.end? a = some e := by
  constructor
  · intro ended
    obtain ⟨i, last, ends⟩ := Option.bind_eq_some_iff.mp ended
    exact ⟨i, List.mem_of_getLast? last, ends⟩
  · rintro ⟨i, member, ends⟩
    obtain ⟨before, behind, rfl⟩ := List.append_of_mem member
    cases behind with
    | nil => simpa using ends
    | cons j rest =>
        obtain ⟨-, tail, -⟩ := List.pairwise_append.mp orderly
        have goesOn := ((List.pairwise_cons.mp tail).1 j List.mem_cons_self).1 a
        cases goesOn.symm.trans ends

end Orderly

theorem end?_eq_aborted {input : RunnerInput} {a b : Abort} :
    input.end? b = some (.aborted a) ↔ a = b ∧ input = .event .error := by
  cases input with
  | event e => cases e <;> simp [end?, eq_comm]
  | _ => simp [end?]

theorem end?_eq_finished {input : RunnerInput} {b : Abort} :
    input.end? b = some .finished ↔ input = .eventsClosed := by
  cases input with
  | event e => cases e <;> simp [end?]
  | _ => simp [end?]

end RunnerInput

namespace Controller

def afterTold (c : Controller) (i : RunnerInput × Timestamp) : Controller :=
  (RunnerInput.told? i).elim c c.after

theorem afterAll_told_concat (c : Controller) (past : List (RunnerInput × Timestamp))
    (i : RunnerInput × Timestamp) :
    c.afterAll ((past ++ [i]).filterMap RunnerInput.told?) =
      (c.afterAll (past.filterMap RunnerInput.told?)).afterTold i := by
  rw [List.filterMap_append, afterTold, afterAll, afterAll, List.foldl_append]
  cases told : RunnerInput.told? i with
  | none => simp [told]
  | some input => simp [told]

theorem running_afterTold (c : Controller) {input : RunnerInput} (on : ∀ a, input.end? a = none)
    (now : Timestamp) : (c.afterTold (input, now)).running = c.running := by
  cases input with
  | tick => exact running_tick c now
  | event e =>
      have sound : e ≠ .error := by
        rintro rfl
        cases on ⟨c.id, c.status⟩
      refine (running_onEvent c e now).trans ?_
      simp [sound]
  | beacon b => exact running_onBeacon c b now
  | beaconsClosed | eventsClosed => rfl

theorem end?_afterTold (c : Controller) (v : VehicleId) (input : RunnerInput) (now : Timestamp) :
    input.end? ⟨v, (c.afterTold (input, now)).status⟩ = input.end? ⟨v, c.status⟩ := by
  cases input with
  | event e =>
      cases e with
      | error =>
          exact congrArg (fun s => some (RunEnd.aborted ⟨v, s⟩)) (status_onEvent_error c now)
      | _ => rfl
  | _ => rfl

end Controller

namespace Runner

variable {c : Controller} {r : Runner} {past : List (RunnerInput × Timestamp)}
  {input : RunnerInput} {now : Timestamp}

theorem publish_eq (r : Runner) :
    r.publish =
      { r with
        published := r.controller.beacon
        notices := if r.controller.beacon = r.published then r.notices else r.notices + 1 } := by
  unfold publish
  by_cases same : r.published = r.controller.beacon
  · rw [if_pos same, if_pos same.symm, ← same]
  · rw [if_neg same, if_neg (Ne.symm same)]

def taking (r : Runner) (input : RunnerInput) (now : Timestamp) : Runner where
  controller := r.controller.afterTold (input, now)
  published := (r.controller.afterTold (input, now)).beacon
  notices :=
    if (r.controller.afterTold (input, now)).beacon = r.published then r.notices else r.notices + 1
  hearsBeacons := r.hearsBeacons && !input.endsBeacons
  ending := input.end? ⟨r.controller.id, r.controller.status⟩

theorem handle_of_going (going : r.ending = none) (running : r.controller.running = true)
    (shown : r.published = r.controller.beacon)
    (heard : input.isOfPeers = true → r.hearsBeacons = true) :
    r.handle input now = r.taking input now := by
  have on : r.hasEnded = false := by simp [hasEnded, going]
  simp only [handle, taking, on, Bool.false_eq_true, if_false, publish_eq]
  cases input with
  | tick =>
      simp only [going, RunnerInput.endsBeacons, Bool.not_false, Bool.and_true]
      rfl
  | event e =>
      simp only [onEvent, Controller.onEvent_snd running, RunnerInput.endsBeacons, Bool.not_false,
        Bool.and_true]
      cases e <;> rfl
  | beacon b =>
      simp only [heard rfl, if_true, going, RunnerInput.endsBeacons, Bool.not_false, Bool.and_true]
      rfl
  | beaconsClosed =>
      simp only [going, RunnerInput.endsBeacons, Bool.not_true, Bool.and_false]
      rfl
  | eventsClosed =>
      have same : (r.controller.afterTold (.eventsClosed, now)).beacon = r.published := shown.symm
      simp only [same, if_true, RunnerInput.endsBeacons, Bool.not_false, Bool.and_true]
      rfl

/-- A run has done with its controller, and shown of it, what it had to after the given inputs. -/
structure Follows (c : Controller) (past : List (RunnerInput × Timestamp)) (r : Runner) : Prop where
  controller : r.controller = c.afterAll (past.filterMap RunnerInput.told?)
  shown : r.published = r.controller.beacon
  hears : (∀ i ∈ past, i.1.endsBeacons = false) → r.hearsBeacons = true
  ending : r.ending = past.getLast?.bind fun i => i.1.end? ⟨c.id, r.controller.status⟩
  running : (∀ i ∈ past, ∀ a, i.1.end? a = none) → r.controller.running = true

namespace Follows

theorem atStart (running : c.running = true) : Follows c [] (ofController c) :=
  ⟨rfl, rfl, fun _ => rfl, rfl, fun _ => running⟩

theorem id_eq (follows : Follows c past r) : r.controller.id = c.id := by
  rw [follows.controller]
  have constants := Controller.constants_afterAll c (past.filterMap RunnerInput.told?)
  exact congrArg Settings.id (Controller.settings_of_constants constants)

theorem going (follows : Follows c past r) (on : ∀ i ∈ past, ∀ a, i.1.end? a = none) :
    r.ending = none := by
  rw [follows.ending]
  cases last : past.getLast? with
  | none => rfl
  | some i => exact on i (List.mem_of_getLast? last) _

theorem handle_eq (follows : Follows c past r)
    (orderly : RunnerInput.Orderly (past ++ [(input, now)])) :
    r.handle input now = r.taking input now :=
  handle_of_going (follows.going orderly.goesOn) (follows.running orderly.goesOn) follows.shown
    fun peers => follows.hears (orderly.stillHeard peers)

theorem handle (follows : Follows c past r)
    (orderly : RunnerInput.Orderly (past ++ [(input, now)])) :
    Follows c (past ++ [(input, now)]) (r.handle input now) := by
  rw [follows.handle_eq orderly]
  constructor
  · rw [Controller.afterAll_told_concat, ← follows.controller]
    rfl
  · rfl
  · intro stillOpen
    have last := stillOpen (input, now) (List.mem_append_right past List.mem_cons_self)
    have before := follows.hears fun i member => stillOpen i (List.mem_append_left _ member)
    simp [taking, last, before]
  · rw [List.getLast?_concat, Option.bind_some, ← follows.id_eq]
    exact (Controller.end?_afterTold r.controller _ input now).symm
  · intro stillOn
    have last := stillOn (input, now) (List.mem_append_right past List.mem_cons_self)
    exact (Controller.running_afterTold _ last now).trans (follows.running orderly.goesOn)

/-- The others are notified of an input exactly if it changes what the controller tells them. -/
theorem notices_handle (follows : Follows c past r)
    (orderly : RunnerInput.Orderly (past ++ [(input, now)])) :
    (r.handle input now).notices =
      if (r.handle input now).controller.beacon = r.controller.beacon then r.notices
      else r.notices + 1 := by
  rw [follows.handle_eq orderly, ← follows.shown]
  rfl

theorem handleAll {inputs : List (RunnerInput × Timestamp)} (follows : Follows c past r)
    (orderly : RunnerInput.Orderly (past ++ inputs)) :
    Follows c (past ++ inputs) (r.handleAll inputs) := by
  induction inputs generalizing past r with
  | nil => simpa [Runner.handleAll] using follows
  | cons i rest ih =>
      obtain ⟨input, now⟩ := i
      rw [List.append_cons] at orderly ⊢
      have first : RunnerInput.Orderly (past ++ [(input, now)]) :=
        (List.pairwise_append.mp orderly).1
      exact ih (follows.handle first) orderly

end Follows

def reached (c : Controller) (inputs : List (RunnerInput × Timestamp)) : Runner :=
  (ofController c).handleAll inputs

theorem reached_concat (c : Controller) (inputs : List (RunnerInput × Timestamp))
    (input : RunnerInput) (now : Timestamp) :
    reached c (inputs ++ [(input, now)]) = (reached c inputs).handle input now := by
  simp [reached, handleAll]

theorem Follows.reached (running : c.running = true) {inputs : List (RunnerInput × Timestamp)}
    (orderly : RunnerInput.Orderly inputs) : Follows c inputs (reached c inputs) :=
  (Follows.atStart running).handleAll orderly

/-- In whatever order a run takes ticks, events, beacons and the news that no more of these will
    come, and whatever its clock shows: its controller, which ran at the start, is what it would be
    if it had taken the same inputs by itself; what is published is the beacon of that controller,
    at the end of the run as well; the others are notified of an input exactly if it changed that
    beacon; and the run has been aborted exactly if the detector failed, and has ended otherwise
    exactly if no more events can come. -/
theorem runs_faithfully {c : Controller} (running : c.running = true)
    {inputs : List (RunnerInput × Timestamp)} (orderly : RunnerInput.Orderly inputs) :
    (reached c inputs).controller = c.afterAll (inputs.filterMap RunnerInput.told?) ∧
      (reached c inputs).published = (reached c inputs).controller.beacon ∧
      (∀ input now, RunnerInput.Orderly (inputs ++ [(input, now)]) →
        (reached c (inputs ++ [(input, now)])).notices =
          if (reached c (inputs ++ [(input, now)])).controller.beacon =
              (reached c inputs).controller.beacon
          then (reached c inputs).notices
          else (reached c inputs).notices + 1) ∧
      (∀ a, (reached c inputs).ending = some (.aborted a) ↔
        a = ⟨c.id, (reached c inputs).controller.status⟩ ∧ ∃ now, (.event .error, now) ∈ inputs) ∧
      ((reached c inputs).ending = some .finished ↔ ∃ now, (.eventsClosed, now) ∈ inputs) := by
  have follows := Follows.reached running orderly
  refine ⟨follows.controller, follows.shown, ?_, ?_, ?_⟩
  · intro input now orderly'
    rw [reached_concat]
    exact follows.notices_handle orderly'
  · intro a
    rw [follows.ending, orderly.getLast?_end?_iff]
    constructor
    · rintro ⟨⟨i, now⟩, member, ends⟩
      obtain ⟨rfl, rfl⟩ := RunnerInput.end?_eq_aborted.mp ends
      exact ⟨rfl, now, member⟩
    · rintro ⟨rfl, now, member⟩
      exact ⟨_, member, RunnerInput.end?_eq_aborted.mpr ⟨rfl, rfl⟩⟩
  · rw [follows.ending, orderly.getLast?_end?_iff]
    simp [RunnerInput.end?_eq_finished]

def fromNorth : Controller := .ofPolicy .standard (RightOfWay.serial .higherFirst).toPolicy

/-- It is let in after two seconds without a rival, and its detector fails while it is inside. No
    beacons come any more then. -/
def failsInside : List (RunnerInput × Timestamp) := [
  (.tick, .zero),
  (.event .approaching, .zero),
  (.beacon (.idle ⟨9⟩ .serial ⟨⟨"E"⟩, ⟨"W"⟩⟩), .wrapping 100),
  (.tick, .wrapping 500),
  (.beaconsClosed, .wrapping 1000),
  (.tick, .wrapping 2600),
  (.event .error, .wrapping 2700)]

theorem runs_faithfully_failsInside :
    fromNorth.running = true ∧ RunnerInput.Orderly failsInside ∧
      (reached fromNorth failsInside).published.status = .crossing ∧
      (reached fromNorth failsInside).notices = 2 ∧
      (reached fromNorth failsInside).published =
        (fromNorth.afterAll (failsInside.filterMap RunnerInput.told?)).beacon ∧
      (reached fromNorth failsInside).ending = some (.aborted ⟨fromNorth.id, .crossing⟩) := by
  have orderly : RunnerInput.Orderly failsInside := by
    simp [RunnerInput.Orderly, failsInside, RunnerInput.end?, RunnerInput.endsBeacons,
      RunnerInput.isOfPeers]
  have status : (reached fromNorth failsInside).controller.status = .crossing := by decide +kernel
  obtain ⟨same, shown, -, aborted, -⟩ := runs_faithfully (c := fromNorth) rfl orderly
  refine ⟨rfl, orderly, ?_, ?_, ?_, ?_⟩
  · rw [shown]
    exact status
  · decide +kernel
  · rw [shown, same]
  · refine (aborted _).mpr ⟨by rw [status], .wrapping 2700, ?_⟩
    simp [failsInside]

end Runner

end Junction
