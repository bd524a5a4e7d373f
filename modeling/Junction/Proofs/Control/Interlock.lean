import Junction.Proofs.Control.Lifecycle

/-! # When the vehicle may move

The vehicle is held at the entrance until it has access, and once it has access it is held no more
and may go as fast as is set. A pause behind the crossing may last into the next episode, and speeds
are set while the vehicle waits; neither of them loosens the hold at the entrance or outlasts the
access.
-/

namespace Junction.Controller

/-- What the vehicle was told fits where it is and whether it has access. -/
structure Interlocked (c : Controller) : Prop where
  held : c.phase = .entering → c.granted = false → c.drive.motion.paused = true
  free : c.phase.Underway → c.granted = true → c.drive.motion.paused = false
  unlimited : c.phase.Underway → c.granted = true → c.reserves = true →
    c.drive.motion.maxSpeed = c.settings.maxSpeed
  stopped : c.drive.motion.stopped = true ↔ c.phase = .aborted
  pacer : c.pacer.maxSpeed = c.settings.maxSpeed

variable {c : Controller} {s : Settings} {policy : Policy}

theorem paused_released (c : Controller) : c.released.motion.paused = false := rfl

theorem stopped_released (c : Controller) :
    c.released.motion.stopped = c.drive.motion.stopped := by
  unfold released
  split <;> rfl

theorem maxSpeed_released (reserving : c.reserves = true) :
    c.released.motion.maxSpeed = c.pacer.maxSpeed := by
  simp only [released, if_pos reserving]
  rfl

namespace Interlocked

theorem atRest (speed : Float) :
    ({ ofPolicy s policy with drive := .fresh speed } : Controller).Interlocked := by
  constructor <;> simp [ofPolicy, Drive.fresh, Motion.free, Pacer.fresh]

theorem not_stopped (locked : c.Interlocked) (aligned : c.Aligned) (running : c.running = true) :
    c.drive.motion.stopped = false := by
  apply Bool.eq_false_iff.mpr
  intro stopped
  exact aligned running (locked.stopped.mp stopped)

theorem beginEpisode (locked : c.Interlocked) (moves : c.drive.motion.stopped = false) :
    c.beginEpisode.Interlocked where
  held phase := by cases phase
  free _ granted := by cases granted
  unlimited _ granted := by cases granted
  stopped := by simp [Controller.beginEpisode, moves]
  pacer := locked.pacer

theorem hold (locked : c.Interlocked) (moves : c.drive.motion.stopped = false)
    (outside : c.granted = false) :
    (issue { c with phase := .entering } .pause).Interlocked where
  held _ _ := rfl
  free _ granted := by cases outside.symm.trans granted
  unlimited _ granted := by cases outside.symm.trans granted
  stopped := by simp [Controller.issue, Motion.obey, moves]
  pacer := locked.pacer

theorem behind (pacer : c.pacer.maxSpeed = c.settings.maxSpeed) {due : Option Timestamp}
    (phase : c.phase = .exiting due) (moves : c.drive.motion.stopped = false) :
    c.Interlocked where
  held entering := by cases phase.symm.trans entering
  free underway := absurd (Or.inr ⟨due, phase⟩) underway.not_away
  unlimited underway := absurd (Or.inr ⟨due, phase⟩) underway.not_away
  stopped := by simp [moves, phase]
  pacer := pacer

theorem after (locked : c.Interlocked) (aligned : c.Aligned) (input : Input) :
    (c.after input).Interlocked := by
  have reaction := reaction_after aligned input
  have moves := locked.not_stopped aligned
  generalize c.after input = d at reaction
  cases reaction with
  | rests input table pacer speed =>
      exact ⟨locked.held, locked.free, locked.unlimited, locked.stopped,
        speed.trans locked.pacer⟩
  | asks now running => exact locked.beginEpisode (moves running)
  | asksLate now running => exact (locked.beginEpisode (moves running)).hold (moves running) rfl
  | passes now running underway granted =>
      refine ⟨?_, fun _ => locked.free underway, fun _ => locked.unlimited underway, ?_,
        locked.pacer⟩
      · intro _ outside
        cases granted.symm.trans outside
      · simp [moves running]
  | halts now running underway outside => exact locked.hold (moves running) outside
  | leaves now running => exact behind locked.pacer rfl (moves running)
  | stops now running =>
      refine ⟨?_, ?_, ?_, ?_, locked.pacer⟩
      · intro phase
        cases phase
      · intro underway
        simp [abort, Phase.Underway] at underway
      · intro underway
        simp [abort, Phase.Underway] at underway
      · simp [abort, Controller.issue, Motion.obey]
  | pauses now table running => exact behind locked.pacer rfl (moves running)
  | letIn now table answer entryTime pacer speed running underway =>
      refine ⟨?_, fun _ _ => paused_released c, ?_, ?_, speed.trans locked.pacer⟩
      · intro _ outside
        cases outside
      · intro _ _ reserving
        have limit : c.released.motion.maxSpeed = c.pacer.maxSpeed := maxSpeed_released reserving
        exact limit.trans locked.pacer
      · rw [stopped_released]
        exact locked.stopped
  | waits now table answer entryTime since drive pacer paced speed running underway outside =>
      refine ⟨?_, ?_, ?_, ?_, speed.trans locked.pacer⟩
      · intro phase _
        exact paced.paused.trans (locked.held phase outside)
      · intro _ granted
        cases outside.symm.trans granted
      · intro _ granted
        cases outside.symm.trans granted
      · rw [paced.stopped]
        exact locked.stopped

theorem reached (s : Settings) (policy : Policy) (speed : Float) (inputs : List Input) :
    (reached s policy (.fresh speed) inputs).Interlocked := by
  have kept : (Controller.reached s policy (.fresh speed) inputs).Coherent ∧
      (Controller.reached s policy (.fresh speed) inputs).Interlocked := by
    refine reached_induction (fun c => c.Coherent ∧ c.Interlocked) ⟨.atRest, atRest speed⟩ ?_ inputs
    intro c ⟨coherent, locked⟩ input
    exact ⟨coherent.after input, locked.after coherent.aligned input⟩
  exact kept.2

end Interlocked

/-- The commands are only ever added to, and only a tick that lets the vehicle in lets it go. -/
theorem unpause_issued (aligned : c.Aligned) (input : Input) :
    ∃ issued, (c.after input).drive.log = issued ++ c.drive.log ∧
      (DriveCommand.unpause ∈ issued →
        ∃ now, input = .tick now ∧ (c.tick now).2 = some .committed) := by
  have reaction := reaction_after aligned input
  generalize c.after input = d at reaction
  cases reaction with
  | rests | asks | passes | leaves => exact ⟨[], rfl, by simp⟩
  | halts | asksLate | pauses => exact ⟨[.pause], rfl, by simp⟩
  | stops => exact ⟨[.stop], rfl, by simp⟩
  | letIn now table answer entryTime pacer speed running underway granted committed =>
      obtain ⟨issued, log⟩ : ∃ issued, c.released.log = issued ++ c.drive.log := by
        unfold released
        split
        · exact ⟨[.unpause, .limit c.pacer.maxSpeed], rfl⟩
        · exact ⟨[.unpause], rfl⟩
      exact ⟨issued, log, fun _ => ⟨now, rfl, committed⟩⟩
  | waits now table answer entryTime since drive pacer paced =>
      rcases paced with rfl | ⟨speed, rfl⟩
      · exact ⟨[], rfl, by simp⟩
      · exact ⟨[.limit speed], rfl, by simp⟩

/-- In every state that a controller can reach: the vehicle is held at the entrance while it has no
    access, it is not held once it has, and if it reserves it may then go as fast as is set; it is
    stopped exactly if it was aborted. Whatever comes next, only a tick that lets the vehicle in
    tells it to go on. -/
theorem interlocked_throughout (s : Settings) (policy : Policy) (speed : Float)
    (inputs : List Input) (next : Input) :
    ((reached s policy (.fresh speed) inputs).phase = .entering →
        (reached s policy (.fresh speed) inputs).granted = false →
          (reached s policy (.fresh speed) inputs).drive.motion.paused = true) ∧
      ((reached s policy (.fresh speed) inputs).phase.Underway →
        (reached s policy (.fresh speed) inputs).granted = true →
          (reached s policy (.fresh speed) inputs).drive.motion.paused = false ∧
            (policy.protocol = .reservation →
              (reached s policy (.fresh speed) inputs).drive.motion.maxSpeed = s.maxSpeed)) ∧
      ((reached s policy (.fresh speed) inputs).drive.motion.stopped = true ↔
        (reached s policy (.fresh speed) inputs).phase = .aborted) ∧
      ∃ issued,
        (reached s policy (.fresh speed) (inputs ++ [next])).drive.log =
            issued ++ (reached s policy (.fresh speed) inputs).drive.log ∧
          (DriveCommand.unpause ∈ issued →
            ∃ now, next = .tick now ∧
              ((reached s policy (.fresh speed) inputs).tick now).2 = some .committed) := by
  have coherent : (reached s policy (.fresh speed) inputs).Coherent := .reached inputs
  have locked := Interlocked.reached s policy speed inputs
  have constants := constants_reached s policy (.fresh speed) inputs
  rw [reached_concat]
  generalize reached s policy (.fresh speed) inputs = c at coherent locked constants
  refine ⟨locked.held, ?_, locked.stopped, unpause_issued coherent.aligned next⟩
  intro underway granted
  refine ⟨locked.free underway granted, ?_⟩
  intro reservation
  have reserving : c.reserves = true := by
    simp [reserves, protocol_of_constants constants, ofPolicy, firstBeacon_sender, reservation]
  rw [locked.unlimited underway granted reserving, settings_of_constants constants]
  rfl

end Junction.Controller
