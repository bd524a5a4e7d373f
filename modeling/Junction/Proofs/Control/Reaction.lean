import Junction.Proofs.Control.Reachable

/-! # What an input does to a controller

An input does one of a few things. They are listed here once, each with all that it changes, and
what holds after any inputs is then found by going through the list.
-/

namespace Junction

/-- The vehicle is between the approach mark and the exit mark. -/
def Phase.Underway (p : Phase) : Prop := p = .approaching ∨ p = .entering

/-- The vehicle is far from the crossing, or behind it. -/
def Phase.Away (p : Phase) : Prop := p = .idle ∨ ∃ due, p = .exiting due

theorem Phase.Underway.not_away {p : Phase} (h : p.Underway) : ¬p.Away := by
  rcases h with rfl | rfl <;> simp [Phase.Away]

namespace Controller

/-- What an input can do to a controller. The names tell what becomes of the vehicle. -/
inductive Reaction (c : Controller) : Input → Controller → Prop where
  | rests (input : Input) (table : NeighborTable) (pacer : Pacer)
      (speed : pacer.maxSpeed = c.pacer.maxSpeed) : Reaction c input { c with table, pacer }
  | asks (now : Timestamp) (running : c.running = true) (away : c.phase.Away) :
      Reaction c (.event .approaching now) c.beginEpisode
  | passes (now : Timestamp) (running : c.running = true) (underway : c.phase.Underway)
      (granted : c.granted = true) :
      Reaction c (.event .entering now) { c with phase := .entering }
  | halts (now : Timestamp) (running : c.running = true) (underway : c.phase.Underway)
      (granted : c.granted = false) :
      Reaction c (.event .entering now) (issue { c with phase := .entering } .pause)
  | asksLate (now : Timestamp) (running : c.running = true) (away : c.phase.Away) :
      Reaction c (.event .entering now) (issue { c.beginEpisode with phase := .entering } .pause)
  | leaves (now : Timestamp) (running : c.running = true) :
      Reaction c (.event .exiting now) (c.leave now)
  | stops (now : Timestamp) (running : c.running = true) :
      Reaction c (.event .error now) c.abort
  | pauses (now : Timestamp) (table : NeighborTable) (running : c.running = true)
      (behind : ∃ due, c.phase = .exiting due) :
      Reaction c (.tick now) (issue { c with table, phase := .exiting none } .pause)
  | letIn (now : Timestamp) (table : NeighborTable) (answer : Clearance)
      (entryTime : Option Timestamp) (pacer : Pacer) (speed : pacer.maxSpeed = c.pacer.maxSpeed)
      (running : c.running = true) (underway : c.phase.Underway) (granted : c.granted = false)
      (committed : (c.tick now).2 = some .committed) :
      Reaction c (.tick now)
        { c with
          table
          granted := true
          safeSince := none
          lastAnswer := some answer
          beacon := { c.beacon with status := .crossing, entryTime }
          drive := c.released
          pacer }
  | waits (now : Timestamp) (table : NeighborTable) (answer : Clearance)
      (entryTime safeSince : Option Timestamp) (drive : Drive) (pacer : Pacer)
      (paced : c.drive.Paced drive) (speed : pacer.maxSpeed = c.pacer.maxSpeed)
      (running : c.running = true) (underway : c.phase.Underway) (granted : c.granted = false) :
      Reaction c (.tick now)
        { c with
          table
          safeSince
          lastAnswer := some answer
          beacon := { c.beacon with entryTime }
          drive
          pacer }

variable {c : Controller}

theorem Reaction.same (c : Controller) (input : Input) : c.Reaction input c :=
  .rests input c.table c.pacer rfl

/-- A controller that runs has not been aborted. -/
def Aligned (c : Controller) : Prop := c.running = true → c.phase ≠ .aborted

theorem Aligned.away (aligned : c.Aligned) (running : c.running = true)
    (apart : ¬c.phase.Underway) : c.phase.Away := by
  cases phase : c.phase with
  | idle => exact Or.inl rfl
  | exiting due => exact Or.inr ⟨due, rfl⟩
  | approaching => exact absurd (Or.inl phase) apart
  | entering => exact absurd (Or.inr phase) apart
  | aborted => exact absurd phase (aligned running)

theorem approach_of_underway (underway : c.phase.Underway) : c.approach = c := by
  rcases underway with phase | phase <;> simp [approach, phase]

theorem approach_of_away (away : c.phase.Away) : c.approach = c.beginEpisode := by
  rcases away with phase | ⟨due, phase⟩ <;> simp [approach, phase]

theorem enter_of_underway (underway : c.phase.Underway) :
    c.enter =
      if c.granted then { c with phase := .entering }
      else issue { c with phase := .entering } .pause := by
  rcases underway with phase | phase <;> simp [enter, phase]

theorem enter_of_away (away : c.phase.Away) :
    c.enter = issue { c.beginEpisode with phase := .entering } .pause := by
  rcases away with phase | ⟨due, phase⟩ <;> simp [enter, phase, beginEpisode]

theorem reaction_onEvent (aligned : c.Aligned) (event : Event) (now : Timestamp) :
    c.Reaction (.event event now) (c.onEvent event now).1 := by
  cases running : c.running with
  | false =>
      simp only [onEvent, running, Bool.not_false, if_true]
      exact .same c _
  | true =>
      simp only [onEvent, running, Bool.not_true, Bool.false_eq_true, if_false]
      cases event with
      | approaching =>
          by_cases underway : c.phase.Underway
          · simp only [approach_of_underway underway]
            exact .same c _
          · have away := aligned.away running underway
            simp only [approach_of_away away]
            exact .asks now running away
      | entering =>
          by_cases underway : c.phase.Underway
          · simp only [enter_of_underway underway]
            split
            · next granted => exact .passes now running underway granted
            · next outside => exact .halts now running underway (Bool.eq_false_iff.mpr outside)
          · have away := aligned.away running underway
            simp only [enter_of_away away]
            exact .asksLate now running away
      | exiting => exact .leaves now running
      | error => exact .stops now running

theorem reaction_tick (c : Controller) (now : Timestamp) :
    c.Reaction (.tick now) (c.tick now).1 := by
  cases running : c.running with
  | false =>
      rw [tick_of_stopped running]
      exact .same c _
  | true =>
      rw [tick_eq running]
      by_cases seeks : c.seeks = true
      · obtain ⟨granted, underway⟩ := seeks_iff.mp seeks
        rw [if_pos seeks]
        by_cases admits : c.Admits (c.answerAt now) now
        · have committed := tick_committed_iff.mpr ⟨running, seeks, admits⟩
          obtain ⟨pacer, eq, speed⟩ := act_admitted ((admits_forget (t := now)).mpr admits)
          simp only [eq]
          exact .letIn now _ _ _ pacer speed running underway granted committed
        · have refused : ¬(c.forget now).Admits (c.answerAt now) now :=
            fun admitted => admits (admits_forget.mp admitted)
          obtain ⟨drive, pacer, since, eq, ⟨paced, speed⟩, -⟩ := act_refused refused
          simp only [eq]
          exact .waits now _ _ _ since drive pacer paced speed running underway granted
      · rw [if_neg seeks]
        unfold pauseIfDue
        split
        · next due behind =>
          split
          · exact .pauses now _ running ⟨_, behind⟩
          · exact .rests _ _ c.pacer rfl
        · exact .rests _ _ c.pacer rfl

/-- Whatever the input, what it does is in the list. -/
theorem reaction_after (aligned : c.Aligned) (input : Input) :
    c.Reaction input (c.after input) := by
  cases input with
  | event event now => exact reaction_onEvent aligned event now
  | tick now => exact reaction_tick c now
  | beacon b now =>
      change c.Reaction _ (c.onBeacon b now).1
      rw [onBeacon_eq]
      split
      · exact .rests _ _ c.pacer rfl
      · exact .same c _
  | progress metres =>
      change c.Reaction _ (c.onProgress metres)
      unfold onProgress
      split
      · exact .rests _ c.table (c.pacer.advance metres) rfl
      · exact .same c _

def reached (s : Settings) (policy : Policy) (drive : Drive) (inputs : List Input) : Controller :=
  afterAll { ofPolicy s policy with drive } inputs

variable {s : Settings} {policy : Policy} {drive : Drive}

theorem reached_induction (holds : Controller → Prop)
    (first : holds { ofPolicy s policy with drive })
    (keeps : ∀ c, holds c → ∀ input, holds (c.after input)) (inputs : List Input) :
    holds (reached s policy drive inputs) :=
  List.foldlRecOn inputs after first fun c here input _ => keeps c here input

theorem reached_concat (inputs : List Input) (next : Input) :
    reached s policy drive (inputs ++ [next]) = (reached s policy drive inputs).after next := by
  simp [reached, afterAll]

theorem constants_reached (s : Settings) (policy : Policy) (drive : Drive) (inputs : List Input) :
    (reached s policy drive inputs).constants = (ofPolicy s policy).constants :=
  constants_afterAll _ inputs

end Controller

end Junction
