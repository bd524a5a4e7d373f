import Junction.Proofs.Control.Reaction

/-! # The phases of a crossing episode

Where the vehicle is, what it tells its peers, whether it has access, and since when it has been
answered positively are kept apart, and each input changes some of them. They always fit together,
in whatever order the detector reports and whenever the ticks come.
-/

namespace Junction

/-- The changes of the status that there are. -/
inductive Status.Changes : Status → Status → Prop where
  | asks : Changes .idle .requesting
  | strays : Changes .idle .exiting
  | enters : Changes .requesting .crossing
  | forgoes : Changes .requesting .exiting
  | leaves : Changes .crossing .exiting
  | asksAgain : Changes .exiting .requesting

namespace Controller

/-- What a controller keeps apart fits together. -/
structure Coherent (c : Controller) : Prop where
  idle : c.phase = .idle → c.status = .idle ∧ c.granted = false
  underway : c.phase.Underway → c.status = if c.granted then .crossing else .requesting
  behind : ∀ due, c.phase = .exiting due → c.status = .exiting
  stopped : c.phase = .aborted ↔ c.running = false
  inside : c.status = .crossing → c.granted = true
  outside : c.status = .idle ∨ c.status = .requesting → c.granted = false
  unread : c.granted = true ∨ c.phase.Away → c.safeSince = none

variable {c : Controller} {s : Settings} {policy : Policy} {drive : Drive}

namespace Coherent

theorem aligned (coherent : c.Coherent) : c.Aligned := by
  intro running phase
  rw [coherent.stopped.mp phase] at running
  cases running

theorem requesting (coherent : c.Coherent) (underway : c.phase.Underway)
    (outside : c.granted = false) : c.status = .requesting := by
  simpa [outside] using coherent.underway underway

theorem atRest : ({ ofPolicy s policy with drive } : Controller).Coherent := by
  have status := (firstBeacon_status s policy.protocol).1
  constructor <;> simp [ofPolicy, Controller.status, status, Phase.Underway]

theorem beginEpisode (running : c.running = true) : c.beginEpisode.Coherent := by
  constructor <;>
    simp [Controller.beginEpisode, Controller.status, Phase.Underway, Phase.Away, running]

theorem enters (coherent : c.Coherent) (running : c.running = true)
    (underway : c.phase.Underway) : ({ c with phase := .entering } : Controller).Coherent where
  idle phase := by cases phase
  underway _ := coherent.underway underway
  behind _ phase := by cases phase
  stopped := by simp [running]
  inside := coherent.inside
  outside := coherent.outside
  unread := by
    rintro (granted | away)
    · exact coherent.unread (Or.inl granted)
    · simp [Phase.Away] at away

theorem leave (running : c.running = true) (now : Timestamp) : (c.leave now).Coherent := by
  constructor <;> simp [Controller.leave, Controller.status, Phase.Underway, running]

theorem abort (coherent : c.Coherent) : c.abort.Coherent where
  idle phase := by cases phase
  underway way := by simp [Controller.abort, Phase.Underway] at way
  behind _ phase := by cases phase
  stopped := by simp [Controller.abort]
  inside := coherent.inside
  outside := coherent.outside
  unread := by
    rintro (granted | away)
    · exact coherent.unread (Or.inl granted)
    · simp [Controller.abort, Phase.Away] at away

theorem pauses (coherent : c.Coherent) (table : NeighborTable) (running : c.running = true)
    {due : Option Timestamp} (behind : c.phase = .exiting due) :
    ({ c with table, phase := .exiting none } : Controller).Coherent where
  idle phase := by cases phase
  underway way := by simp [Phase.Underway] at way
  behind _ _ := coherent.behind due behind
  stopped := by simp [running]
  inside := coherent.inside
  outside := coherent.outside
  unread _ := coherent.unread (Or.inr (Or.inr ⟨due, behind⟩))

theorem issue (coherent : c.Coherent) (command : DriveCommand) : (c.issue command).Coherent :=
  ⟨coherent.idle, coherent.underway, coherent.behind, coherent.stopped, coherent.inside,
    coherent.outside, coherent.unread⟩

/-- An input of whatever kind leaves a coherent controller coherent. -/
theorem after (coherent : c.Coherent) (input : Input) : (c.after input).Coherent := by
  have reaction := reaction_after coherent.aligned input
  generalize c.after input = d at reaction
  cases reaction with
  | rests =>
      exact ⟨coherent.idle, coherent.underway, coherent.behind, coherent.stopped, coherent.inside,
        coherent.outside, coherent.unread⟩
  | asks now running => exact beginEpisode running
  | asksLate now running =>
      have asked : c.beginEpisode.Coherent := beginEpisode running
      exact (asked.enters running (Or.inl rfl)).issue .pause
  | passes now running underway => exact coherent.enters running underway
  | halts now running underway => exact (coherent.enters running underway).issue .pause
  | leaves now running => exact leave running now
  | stops => exact coherent.abort
  | pauses now table running out =>
      obtain ⟨due, behind⟩ := out
      exact (coherent.pauses table running behind).issue .pause
  | letIn now table answer entryTime pacer speed running underway =>
      refine ⟨?_, fun _ => rfl, ?_, coherent.stopped, fun _ => rfl, ?_, fun _ => rfl⟩
      · intro phase
        exact absurd (Or.inl phase) underway.not_away
      · intro due phase
        exact absurd (Or.inr ⟨due, phase⟩) underway.not_away
      · rintro (status | status) <;> cases status
  | waits now table answer entryTime since drive pacer paced speed running underway granted =>
      refine ⟨coherent.idle, coherent.underway, coherent.behind, coherent.stopped, coherent.inside,
        coherent.outside, ?_⟩
      rintro (inside | away)
      · cases inside.symm.trans granted
      · exact absurd away underway.not_away

theorem reached (inputs : List Input) : (reached s policy drive inputs).Coherent :=
  reached_induction Coherent atRest (fun _ => after) inputs

end Coherent

/-- The status stays, or changes in one of the ways there are; only a tick that lets the vehicle in
    makes it that of a vehicle inside. -/
theorem status_after (coherent : c.Coherent) (input : Input) :
    (c.after input).status = c.status ∨
      Status.Changes c.status (c.after input).status ∧
        ((c.after input).status = .crossing →
          ∃ now, input = .tick now ∧ (c.tick now).2 = some .committed) := by
  have reaction := reaction_after coherent.aligned input
  generalize c.after input = d at reaction
  cases reaction with
  | rests | passes | halts | stops | pauses | waits => exact Or.inl rfl
  | asks now running away | asksLate now running away =>
      refine Or.inr ⟨?_, ?_⟩
      · rcases away with phase | ⟨due, phase⟩
        · rw [(coherent.idle phase).1]
          exact .asks
        · rw [coherent.behind due phase]
          exact .asksAgain
      · intro status
        cases status
  | leaves now running =>
      by_cases same : c.status = .exiting
      · exact Or.inl same.symm
      · refine Or.inr ⟨?_, ?_⟩
        · change Status.Changes c.status .exiting
          cases status : c.status with
          | idle => exact .strays
          | requesting => exact .forgoes
          | crossing => exact .leaves
          | exiting => exact absurd status same
        · intro status
          cases status
  | letIn now table answer entryTime pacer speed running underway granted committed =>
      apply Or.inr
      rw [coherent.requesting underway granted]
      exact ⟨.enters, fun _ => ⟨now, rfl, committed⟩⟩

/-- In every state that a controller can reach, its phase, its status, its access and its run of
    positive answers fit together, and its beacon is the first one but for the status and the entry
    time. Whatever comes next, the status stays or changes in one of the ways there are. -/
theorem coherent_throughout (s : Settings) (policy : Policy) (drive : Drive)
    (inputs : List Input) (next : Input) :
    (reached s policy drive inputs).Coherent ∧
      (reached s policy drive inputs).beacon =
        { firstBeacon s policy.protocol with
          status := (reached s policy drive inputs).status
          entryTime := (reached s policy drive inputs).beacon.entryTime } ∧
      ((reached s policy drive (inputs ++ [next])).status ≠
          (reached s policy drive inputs).status →
        Status.Changes (reached s policy drive inputs).status
            (reached s policy drive (inputs ++ [next])).status ∧
          ((reached s policy drive (inputs ++ [next])).status = .crossing →
            ∃ now, next = .tick now ∧
              ((reached s policy drive inputs).tick now).2 = some .committed)) := by
  have coherent : (reached s policy drive inputs).Coherent := .reached inputs
  refine ⟨coherent, beacon_of_constants (constants_reached s policy drive inputs), ?_⟩
  rw [reached_concat]
  exact (status_after coherent next).resolve_left

end Controller

end Junction
