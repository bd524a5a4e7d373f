import Junction.Proofs.Control.Reachable
import Junction.Simulation.Participant

/-! # What a vehicle does at its turn

A vehicle waits for its time, then seeks access, then has it, then is through. At its turn it may
set out, be let in, or leave, and nothing else about its stay changes. It is let in only by an
answer of its policy that its controller admits.
-/

namespace Junction.Participant

/-- Where a vehicle is that has set out and is not through, by the script and by its controller. -/
def Underway (stage : Stage) (phase : Phase) : Prop :=
  (∃ metres, stage = .approaching metres) ∧ phase = .approaching ∨
    (∃ metres, stage = .inside metres) ∧ phase = .entering

/-- Where a vehicle stands. Everything that has happened to it did so before `bound`
    milliseconds. -/
inductive Standing (bound : Nat) (p : Participant) : Prop where
  | waiting (stage : p.stage = .parked) (phase : p.controller.phase = .idle)
      (status : p.controller.status = .idle) (entry : p.controller.beacon.entryTime = none)
      (started : p.startedAt = none) (crossing : p.crossing = none) (next : p.nextBeacon = .zero)
  | seeking (s : Timestamp) (started : p.startedAt = some s) (past : s.ms < bound)
      (crossing : p.crossing = none) (status : p.controller.status = .requesting)
      (granted : p.controller.granted = false)
      (since : ∀ u, p.controller.safeSince = some u → s ≤ u)
      (way : Underway p.stage p.controller.phase)
      (held : p.controller.phase = .entering → p.controller.drive.motion.paused = true)
  | inside (s c : Timestamp) (started : p.startedAt = some s) (order : s ≤ c)
      (past : c.ms < bound) (crossing : p.crossing = some ⟨c, none⟩)
      (status : p.controller.status = .crossing) (granted : p.controller.granted = true)
      (way : Underway p.stage p.controller.phase)
      (entry : p.controller.reserves = true → p.controller.beacon.entryTime = some c)
  | through (s c e : Timestamp) (started : p.startedAt = some s) (order : c ≤ e)
      (past : e.ms < bound) (crossing : p.crossing = some ⟨c, some e⟩)
      (status : p.controller.status = .exiting) (stage : p.stage = .done)
      (phase : ∃ due, p.controller.phase = .exiting due)

namespace Standing

variable {p : Participant} {bound : Nat}

theorem mono {later : Nat} (h : p.Standing bound) (more : bound ≤ later) : p.Standing later := by
  cases h with
  | waiting stage phase status entry started crossing next =>
      exact .waiting stage phase status entry started crossing next
  | seeking s started past crossing status granted since way held =>
      exact .seeking s started (by omega) crossing status granted since way held
  | inside s c started order past crossing status granted way entry =>
      exact .inside s c started order (by omega) crossing status granted way entry
  | through s c e started order past crossing status stage phase =>
      exact .through s c e started order (by omega) crossing status stage phase

theorem nextBeacon_of_waiting (h : p.Standing bound) (waits : p.startedAt = none) :
    p.nextBeacon = .zero := by
  cases h with
  | waiting _ _ _ _ _ _ next => exact next
  | seeking _ started => cases waits.symm.trans started
  | inside _ _ started => cases waits.symm.trans started
  | through _ _ _ started => cases waits.symm.trans started

theorem status_of_seeking (h : p.Standing bound) (started : p.startedAt ≠ none)
    (outside : p.crossing = none) : p.controller.status = .requesting := by
  cases h with
  | waiting _ _ _ _ waits => exact absurd waits started
  | seeking _ _ _ _ status => exact status
  | inside _ _ _ _ _ crossing => cases outside.symm.trans crossing
  | through _ _ _ _ _ _ crossing => cases outside.symm.trans crossing

theorem crossing_of_requesting (h : p.Standing bound) (status : p.controller.status = .requesting) :
    p.crossing = none := by
  cases h with
  | waiting _ _ idle => cases status.symm.trans idle
  | seeking _ _ _ outside => exact outside
  | inside _ _ _ _ _ _ crossing => cases status.symm.trans crossing
  | through _ _ _ _ _ _ _ exiting => cases status.symm.trans exiting

theorem started_of_requesting (h : p.Standing bound) (status : p.controller.status = .requesting) :
    p.startedAt ≠ none := by
  cases h with
  | waiting _ _ idle => cases status.symm.trans idle
  | seeking s started => simp [started]
  | inside _ _ _ _ _ _ crossing => cases status.symm.trans crossing
  | through _ _ _ _ _ _ _ exiting => cases status.symm.trans exiting

theorem crossing_of_status (h : p.Standing bound) (status : p.controller.status = .crossing) :
    ∃ c, p.crossing = some ⟨c, none⟩ := by
  cases h with
  | waiting _ _ idle => cases status.symm.trans idle
  | seeking _ _ _ _ requesting => cases status.symm.trans requesting
  | inside _ c _ _ _ crossing => exact ⟨c, crossing⟩
  | through _ _ _ _ _ _ _ exiting => cases status.symm.trans exiting

theorem of_inside (h : p.Standing bound) {c : Timestamp} (inside : p.crossing = some ⟨c, none⟩) :
    p.startedAt ≠ none ∧ c.ms < bound ∧ p.controller.status = .crossing ∧
      (p.controller.reserves = true → p.controller.beacon.entryTime = some c) := by
  cases h with
  | waiting _ _ _ _ _ outside => cases inside.symm.trans outside
  | seeking _ _ _ outside => cases inside.symm.trans outside
  | inside s c' started _ past crossing status _ _ entry =>
      cases inside.symm.trans crossing
      exact ⟨by simp [started], past, status, entry⟩
  | through _ _ _ _ _ _ crossing => cases inside.symm.trans crossing

theorem stop_lt (h : p.Standing bound) {c e : Timestamp} (out : p.crossing = some ⟨c, some e⟩) :
    e.ms < bound := by
  cases h with
  | waiting _ _ _ _ _ outside => cases out.symm.trans outside
  | seeking _ _ _ outside => cases out.symm.trans outside
  | inside _ _ _ _ _ crossing => cases out.symm.trans crossing
  | through _ _ _ _ _ past crossing =>
      cases out.symm.trans crossing
      exact past

end Standing

/-- What a distance driven does to a vehicle that has set out and is not through. -/
inductive Moves (now : Timestamp) (p : Participant) : Participant → Prop where
  | goes (stage : Stage) (pacer : Pacer) (way : Underway stage p.controller.phase) :
      Moves now p { p with stage, controller := { p.controller with pacer } }
  | enters (crossed : Float) (pacer : Pacer) (drive : Drive)
      (held : p.controller.granted = false → drive.motion.paused = true) :
      Moves now p { p with
        stage := .inside crossed
        controller := { p.controller with pacer, drive, phase := .entering } }
  | leaves (phase : p.controller.phase = .entering)
      (free : p.controller.drive.motion.paused = false) :
      Moves now p { p with
        stage := .done
        controller := p.controller.leave now
        crossing := p.crossing.map fun i => { i with stop := some now } }

theorem Underway.stage_ne_parked {stage : Stage} {phase : Phase} (way : Underway stage phase) :
    stage ≠ .parked := by
  rcases way with ⟨⟨metres, rfl⟩, -⟩ | ⟨⟨metres, rfl⟩, -⟩ <;> simp

theorem Moves.stage_ne_parked {p q : Participant} {now : Timestamp} (moves : p.Moves now q) :
    q.stage ≠ .parked := by
  cases moves with
  | goes stage pacer way => exact way.stage_ne_parked
  | enters => simp
  | leaves => simp

theorem onProgress_eq (c : Controller) (metres : Float) :
    ∃ pacer, c.onProgress metres = { c with pacer } := by
  unfold Controller.onProgress
  split
  · exact ⟨_, rfl⟩
  · exact ⟨c.pacer, rfl⟩

theorem onEvent_approaching {c : Controller} (running : c.running = true) (phase : c.phase = .idle)
    (now : Timestamp) : (c.onEvent .approaching now).1 = c.beginEpisode := by
  simp [Controller.onEvent, Controller.approach, running, phase]

theorem onEvent_entering {c : Controller} (running : c.running = true)
    (phase : c.phase = .approaching) (now : Timestamp) :
    ∃ drive, (c.onEvent .entering now).1 = { c with drive, phase := .entering } ∧
      (c.granted = false → drive.motion.paused = true) := by
  cases granted : c.granted with
  | true =>
      refine ⟨c.drive, ?_, nofun⟩
      simp [Controller.onEvent, Controller.enter, running, phase, granted]
  | false =>
      refine ⟨c.drive.issue .pause, ?_, fun _ => rfl⟩
      simp [Controller.onEvent, Controller.enter, Controller.issue, running, phase, granted]

theorem moves_approach {p : Participant} (running : p.controller.running = true)
    (phase : p.controller.phase = .approaching) (remaining metres : Float) (now : Timestamp) :
    p.Moves now (p.approach remaining metres now) := by
  obtain ⟨pacer, progress⟩ := onProgress_eq p.controller metres
  simp only [approach, progress]
  split
  · obtain ⟨drive, entered, held⟩ :=
      onEvent_entering (c := { p.controller with pacer }) running phase now
    simp only [detect, entered]
    exact .enters _ pacer drive held
  · exact .goes _ pacer (Or.inl ⟨⟨_, rfl⟩, phase⟩)

theorem moves_cross {p : Participant} (running : p.controller.running = true)
    (phase : p.controller.phase = .entering) (free : p.controller.drive.motion.paused = false)
    (crossed metres : Float) (now : Timestamp) : p.Moves now (p.cross crossed metres now) := by
  simp only [cross]
  split
  · have left : (p.controller.onEvent .exiting now).1 = p.controller.leave now := by
      simp [Controller.onEvent, running]
    simp only [detect, left]
    exact .leaves phase free
  · exact .goes _ p.controller.pacer (Or.inr ⟨⟨_, rfl⟩, phase⟩)

theorem not_lt_reach_of_paused {p : Participant} (paused : p.controller.drive.motion.paused = true)
    (seconds : Float) : ¬0.0 < p.reach seconds := by
  simp only [reach, Motion.isMoving_eq_false_of_paused paused, Bool.false_eq_true, if_false]
  decide

/-- A vehicle that has not set out, or is through, does not move. -/
theorem move_eq_self {p : Participant} (still : p.stage = .parked ∨ p.stage = .done)
    (metres : Float) (now : Timestamp) : p.move metres now = p := by
  rcases still with stage | stage <;>
    · simp only [move, stage]
      split <;> rfl

theorem moves_move {p : Participant} (running : p.controller.running = true)
    (way : Underway p.stage p.controller.phase) (seconds : Float) (now : Timestamp) :
    p.Moves now (p.move (p.reach seconds) now) := by
  unfold move
  split
  · next far =>
    rcases way with ⟨⟨metres, stage⟩, phase⟩ | ⟨⟨metres, stage⟩, phase⟩
    · rw [stage]
      exact moves_approach running phase _ _ now
    · rw [stage]
      cases paused : p.controller.drive.motion.paused with
      | true => exact absurd far (not_lt_reach_of_paused paused seconds)
      | false => exact moves_cross running phase paused _ _ now
  · exact .goes p.stage p.controller.pacer way

/-- What driving and setting out do to a vehicle. -/
structure Drives (now : Timestamp) (p q : Participant) : Prop where
  frame : ∃ controller stage startedAt crossing,
    q = { p with controller, stage, startedAt, crossing }
  keeps : p.controller.Keeps q.controller
  running : q.controller.running = true
  standing : q.Standing (now.ms + 1)
  started : q.startedAt = p.startedAt ∨ p.startedAt = none ∧ q.startedAt = some now
  stay : q.crossing = p.crossing ∨
    ∃ c, p.crossing = some ⟨c, none⟩ ∧ q.crossing = some ⟨c, some now⟩
  entry : ∀ t, q.controller.beacon.entryTime = some t →
    p.controller.beacon.entryTime = some t

variable {p q : Participant} {now : Timestamp}

theorem drives_self (standing : p.Standing now.ms) (running : p.controller.running = true) :
    p.Drives now p :=
  ⟨⟨_, _, _, _, rfl⟩, ⟨rfl, rfl⟩, running, standing.mono (Nat.le_succ _), Or.inl rfl, Or.inl rfl,
    fun _ h => h⟩

/-- A vehicle that seeks access goes on as far as the entrance. -/
theorem drives_of_seeking (standing : p.Standing now.ms) (running : p.controller.running = true)
    (outside : p.crossing = none) (started : p.startedAt ≠ none) (moves : p.Moves now q) :
    p.Drives now q := by
  cases standing with
  | waiting _ _ _ _ waits => exact absurd waits started
  | inside _ _ _ _ _ crossing => cases outside.symm.trans crossing
  | through _ _ _ _ _ _ crossing => cases outside.symm.trans crossing
  | seeking s began past _ status granted since _ stands =>
      cases moves with
      | goes stage pacer way =>
          exact ⟨⟨_, _, _, _, rfl⟩, ⟨rfl, rfl⟩, running,
            .seeking s began (by omega) outside status granted since way stands, Or.inl rfl,
            Or.inl rfl, fun _ h => h⟩
      | enters crossed pacer drive held =>
          exact ⟨⟨_, _, _, _, rfl⟩, ⟨rfl, rfl⟩, running,
            .seeking s began (by omega) outside status granted since
              (Or.inr ⟨⟨crossed, rfl⟩, rfl⟩) (fun _ => held granted),
            Or.inl rfl, Or.inl rfl, fun _ h => h⟩
      | leaves phase free =>
          rw [stands phase] at free
          cases free

/-- A vehicle that has access goes on until it is through. -/
theorem drives_of_inside (standing : p.Standing now.ms) (running : p.controller.running = true)
    {c : Timestamp} (inside : p.crossing = some ⟨c, none⟩) (moves : p.Moves now q) :
    p.Drives now q := by
  cases standing with
  | waiting _ _ _ _ _ outside => cases inside.symm.trans outside
  | seeking _ _ _ outside => cases inside.symm.trans outside
  | through _ _ _ _ _ _ crossing => cases inside.symm.trans crossing
  | inside s c' began order past crossing status granted _ entry =>
      cases moves with
      | goes stage pacer way =>
          exact ⟨⟨_, _, _, _, rfl⟩, ⟨rfl, rfl⟩, running,
            .inside s c' began order (by omega) crossing status granted way entry, Or.inl rfl,
            Or.inl rfl, fun _ h => h⟩
      | enters crossed pacer drive held =>
          exact ⟨⟨_, _, _, _, rfl⟩, ⟨rfl, rfl⟩, running,
            .inside s c' began order (by omega) crossing status granted
              (Or.inr ⟨⟨crossed, rfl⟩, rfl⟩) entry,
            Or.inl rfl, Or.inl rfl, fun _ h => h⟩
      | leaves phase free =>
          have closed : (p.crossing.map fun i => { i with stop := some now }) =
              some ⟨c', some now⟩ := by
            rw [crossing]
            rfl
          exact ⟨⟨_, _, _, _, rfl⟩, ⟨rfl, rfl⟩, running,
            .through s c' now began (Nat.le_of_lt past) (Nat.lt_succ_self _) closed rfl rfl
              ⟨_, rfl⟩,
            Or.inl rfl, Or.inr ⟨c', crossing, closed⟩, fun _ h => h⟩

theorem start_eq_self (out : p.stage ≠ .parked) (distance : Float) (now : Timestamp) :
    p.start distance now = p := by
  simp only [start]

theorem drives_start (standing : p.Standing now.ms) (running : p.controller.running = true)
    (waits : p.startedAt = none) (distance : Float) : p.Drives now (p.start distance now) := by
  have idle := drives_self standing running
  cases standing with
  | seeking _ started => cases waits.symm.trans started
  | inside _ _ started => cases waits.symm.trans started
  | through _ _ _ started => cases waits.symm.trans started
  | waiting stage phase status entry started crossing next =>
      simp only [start, stage]
      split
      · simp only [detect, onEvent_approaching running phase]
        refine ⟨⟨_, _, _, _, rfl⟩, ⟨rfl, rfl⟩, running, ?_, Or.inr ⟨started, rfl⟩, Or.inl rfl, ?_⟩
        · refine .seeking now rfl (Nat.lt_succ_self _) crossing rfl rfl ?_
            (Or.inl ⟨⟨_, rfl⟩, rfl⟩) ?_
          · intro u answered
            cases answered
          · intro entered
            cases entered
        · intro t published
          cases published
      · exact idle

theorem drives_drive (standing : p.Standing now.ms) (running : p.controller.running = true)
    (seconds distance : Float) :
    p.Drives now ((p.move (p.reach seconds) now).start distance now) := by
  cases same : standing with
  | waiting stage phase status entry started crossing next =>
      rw [move_eq_self (Or.inl stage)]
      exact drives_start standing running started distance
  | seeking s started past crossing status granted since way held =>
      have moves := moves_move running way seconds now
      rw [start_eq_self moves.stage_ne_parked]
      exact drives_of_seeking standing running crossing (by simp [started]) moves
  | inside s c started order past crossing status granted way entry =>
      have moves := moves_move running way seconds now
      rw [start_eq_self moves.stage_ne_parked]
      exact drives_of_inside standing running crossing moves
  | through s c e started order past crossing status stage phase =>
      rw [move_eq_self (Or.inr stage), start_eq_self (by simp [stage])]
      exact drives_self standing running

/-- The controller of a vehicle that set out at `s`, as it consults its policy. -/
structure Consults (p : Participant) (s : Timestamp) (c : Controller) : Prop where
  table : c.table = p.controller.table
  constants : c.constants = p.controller.constants
  since : ∀ u, c.safeSince = some u → s ≤ u

/-- What becomes of a vehicle's stay inside. -/
inductive Stay (now : Timestamp) (p q : Participant) : Prop where
  | same (crossing : q.crossing = p.crossing)
  | opens (s : Timestamp) (c : Controller) (outside : p.crossing = none)
      (crossing : q.crossing = some ⟨now, none⟩) (started : q.startedAt = some s)
      (consults : p.Consults s c) (admits : c.Admits (c.answerAt now) now)
  | closes (c : Timestamp) (inside : p.crossing = some ⟨c, none⟩)
      (crossing : q.crossing = some ⟨c, some now⟩)

/-- What a vehicle does at its turn. -/
structure Acts (now : Timestamp) (p q : Participant) : Prop where
  frame : ∃ controller stage startedAt crossing,
    q = { p with controller, stage, startedAt, crossing }
  constants : q.controller.constants = p.controller.constants
  running : q.controller.running = true
  table : q.controller.table = p.controller.table ∨
    q.controller.table = (p.controller.forget now).table
  standing : q.Standing (now.ms + 1)
  started : q.startedAt = p.startedAt ∨ p.startedAt = none ∧ q.startedAt = some now
  stay : Stay now p q
  entry : q.crossing = none → ∀ t, q.controller.beacon.entryTime = some t →
    p.controller.beacon.entryTime = some t ∨
      ∃ s c, p.Consults s c ∧ (c.answerAt now).scheduledTime = some t

namespace Acts

theorem script (acts : p.Acts now q) : q.script = p.script := by
  obtain ⟨_, _, _, _, rfl⟩ := acts.frame
  rfl

theorem id (acts : p.Acts now q) : q.id = p.id := congrArg Script.id acts.script

theorem sent (acts : p.Acts now q) : q.sent = p.sent := by
  obtain ⟨_, _, _, _, rfl⟩ := acts.frame
  rfl

theorem nextBeacon (acts : p.Acts now q) : q.nextBeacon = p.nextBeacon := by
  obtain ⟨_, _, _, _, rfl⟩ := acts.frame
  rfl

theorem outside (acts : p.Acts now q) (after : q.crossing = none) : p.crossing = none := by
  cases acts.stay with
  | same kept => exact kept.symm.trans after
  | opens _ _ before => exact before
  | closes c _ closed => cases after.symm.trans closed

end Acts

theorem mark_eq_self {bound : Nat} (standing : p.Standing bound) (now : Timestamp) :
    p.mark now = p := by
  cases standing with
  | waiting stage phase status => simp [mark, status]
  | seeking s started past crossing status => simp [mark, status]
  | inside s c started order past crossing => simp [mark, crossing]
  | through s c e started order past crossing => simp [mark, crossing]

theorem Drives.outside (h : p.Drives now q) (after : q.crossing = none) : p.crossing = none := by
  rcases h.stay with same | ⟨c, -, closed⟩
  · exact same.symm.trans after
  · cases after.symm.trans closed

theorem Drives.stay_acts (h : p.Drives now q) : Stay now p q := by
  rcases h.stay with same | ⟨c, before, after⟩
  · exact .same same
  · exact .closes c before after

theorem acts_of_drives (h : p.Drives now q) : p.Acts now q := by
  refine ⟨h.frame, h.keeps.constants, h.running, Or.inl h.keeps.table, h.standing, h.started,
    h.stay_acts, ?_⟩
  intro _ t published
  exact Or.inl (h.entry t published)

theorem table_forget_eq {c d : Controller} (table : c.table = d.table)
    (constants : c.constants = d.constants) (now : Timestamp) :
    (c.forget now).table = (d.forget now).table := by
  simp only [Controller.forget, table, Controller.settings_of_constants constants]

theorem Underway.phase_ne_exiting {stage : Stage} {phase : Phase} (way : Underway stage phase)
    (due : Option Timestamp) : phase ≠ .exiting due := by
  rcases way with ⟨-, rfl⟩ | ⟨-, rfl⟩ <;> simp

/-- A tick that does not consult the policy leaves a vehicle where it stands. -/
theorem acts_rest (h : p.Drives now q) :
    p.Acts now { q with controller := (q.controller.forget now).pauseIfDue now } := by
  obtain ⟨drive, phase, eq, stays, leaves⟩ := (q.controller.forget now).pauseIfDue_eq now
  have stay := h.stay_acts
  have table := table_forget_eq h.keeps.table h.keeps.constants now
  obtain ⟨⟨controller, stage, startedAt, crossing, rfl⟩, keeps, running, standing, started, -,
    entry⟩ := h
  rw [eq]
  refine ⟨⟨_, _, _, _, rfl⟩, keeps.constants, running, Or.inr table, ?_, started, ?_, ?_⟩
  · cases standing with
    | waiting parked idle status unset began crossing next =>
        obtain ⟨rfl, rfl⟩ := stays (fun due exiting => by cases idle.symm.trans exiting)
        exact .waiting parked idle status unset began crossing next
    | seeking s began past crossing status granted since way held =>
        obtain ⟨rfl, rfl⟩ := stays way.phase_ne_exiting
        exact .seeking s began past crossing status granted since way held
    | inside s c began order past crossing status granted way unset =>
        obtain ⟨rfl, rfl⟩ := stays way.phase_ne_exiting
        exact .inside s c began order past crossing status granted way unset
    | through s c e began order past crossing status done exiting =>
        exact .through s c e began order past crossing status done (leaves exiting)
  · cases stay with
    | same kept => exact .same kept
    | opens s c before after began consults admits =>
        exact .opens s c before after began consults admits
    | closes c before after => exact .closes c before after
  · intro _ t published
    exact Or.inl (entry t published)

theorem acts_of_admits (h : p.Drives now q) {s : Timestamp} (began : q.startedAt = some s)
    (early : s ≤ now) (outside : q.crossing = none)
    (way : Underway q.stage q.controller.phase) (consults : p.Consults s q.controller)
    (admits : q.controller.Admits (q.controller.answerAt now) now) :
    p.Acts now (({ q with controller :=
      ((q.controller.forget now).act (q.controller.answerAt now) now).1 } : Participant).mark
        now) := by
  have before := h.outside outside
  have table := table_forget_eq h.keeps.table h.keeps.constants now
  obtain ⟨⟨controller, stage, startedAt, crossing, rfl⟩, keeps, running, -, started, -, -⟩ := h
  obtain ⟨pacer, eq, -⟩ :=
    Controller.act_admitted ((Controller.admits_forget (t := now)).mpr admits)
  rw [eq]
  obtain rfl : crossing = none := outside
  refine ⟨⟨_, _, _, _, rfl⟩, keeps.constants, running, Or.inr table, ?_, started,
    .opens s controller before rfl began consults admits, ?_⟩
  · exact .inside s now began early (Nat.lt_succ_self _) rfl rfl rfl way
      (fun reserves => if_pos reserves)
  · intro outside
    cases outside

theorem acts_of_refused (h : p.Drives now q) {s : Timestamp} (began : q.startedAt = some s)
    (early : s ≤ now) (outside : q.crossing = none) (status : q.controller.status = .requesting)
    (granted : q.controller.granted = false) (way : Underway q.stage q.controller.phase)
    (held : q.controller.phase = .entering → q.controller.drive.motion.paused = true)
    (consults : p.Consults s q.controller)
    (refused : ¬q.controller.Admits (q.controller.answerAt now) now) :
    p.Acts now (({ q with controller :=
      ((q.controller.forget now).act (q.controller.answerAt now) now).1 } : Participant).mark
        now) := by
  have before := h.outside outside
  have table := table_forget_eq h.keeps.table h.keeps.constants now
  obtain ⟨⟨controller, stage, startedAt, crossing, rfl⟩, keeps, running, -, started, -, entry⟩ := h
  obtain ⟨drive, pacer, run, eq, ⟨paced, -⟩, unbroken⟩ :=
    Controller.act_refused (fun h => refused ((Controller.admits_forget (t := now)).mp h))
  have since : ∀ u, run = some u → s ≤ u := by
    intro u prolonged
    have kept : (controller.forget now).safeSince = controller.safeSince := rfl
    rw [unbroken u prolonged, kept]
    cases earlier : controller.safeSince with
    | none => exact early
    | some v => exact consults.since v earlier
  have waits : ({ p with
      controller := ((controller.forget now).act (controller.answerAt now) now).1
      stage, startedAt, crossing } : Participant).Standing (now.ms + 1) := by
    rw [eq]
    exact .seeking s began (Nat.lt_succ_of_le early) outside status granted since way
      (fun phase => paced.paused.trans (held phase))
  rw [mark_eq_self waits]
  refine ⟨⟨_, _, _, _, rfl⟩, ?_, ?_, ?_, waits, started, .same (outside.trans before.symm), ?_⟩
  · rw [eq]
    exact keeps.constants
  · rw [eq]
    exact running
  · rw [eq]
    exact Or.inr table
  · intro _ t published
    rw [eq] at published
    simp only at published
    split at published
    · exact Or.inr ⟨s, controller, consults, published⟩
    · exact Or.inl (entry t published)

theorem acts_consult (h : p.Drives now q) (due : Bool) :
    p.Acts now ((q.consult due now).mark now) := by
  cases due with
  | false =>
      have idle : q.consult false now = q := rfl
      rw [idle, mark_eq_self h.standing]
      exact acts_of_drives h
  | true =>
      have ticked : q.consult true now = { q with controller := (q.controller.tick now).1 } := rfl
      rw [ticked, Controller.tick_eq h.running]
      by_cases seeks : q.controller.seeks = true
      · rw [if_pos seeks]
        cases h.standing with
        | waiting _ phase => simp [Controller.seeks, phase] at seeks
        | inside _ _ _ _ _ _ _ granted => simp [Controller.seeks, granted] at seeks
        | through _ _ _ _ _ _ _ _ _ phase =>
            obtain ⟨due, exiting⟩ := phase
            simp [Controller.seeks, exiting] at seeks
        | seeking s began past outside status granted since way held =>
            have consults : p.Consults s q.controller := ⟨h.keeps.table, h.keeps.constants, since⟩
            have early : s ≤ now := Nat.le_of_lt_succ past
            by_cases admits : q.controller.Admits (q.controller.answerAt now) now
            · exact acts_of_admits h began early outside way consults admits
            · exact acts_of_refused h began early outside status granted way held consults admits
      · have rest := acts_rest h
        rw [if_neg seeks, mark_eq_self rest.standing]
        exact rest

/-- At its turn a vehicle drives or sets out, and then consults its policy if it is time to. -/
theorem acts_act (standing : p.Standing now.ms) (running : p.controller.running = true)
    (settings : SimulationSettings) (due : Bool) : p.Acts now (p.act settings due now) :=
  acts_consult (drives_drive standing running _ _) due

def withTable (p : Participant) (table : NeighborTable) : Participant :=
  { p with controller := { p.controller with table } }

theorem hear_eq {b : Beacon} (same : b.protocol = p.controller.beacon.protocol)
    (now : Timestamp) : p.hear b now = p.withTable (p.controller.table.update b now).1 := by
  simp only [hear, Controller.onBeacon_eq, if_pos same]
  rfl

theorem hear_frame (p : Participant) (b : Beacon) (now : Timestamp) :
    ∃ table, p.hear b now = p.withTable table := by
  simp only [hear, Controller.onBeacon_eq]
  split
  · exact ⟨_, rfl⟩
  · exact ⟨p.controller.table, rfl⟩

theorem Standing.withTable {bound : Nat} (h : p.Standing bound) (table : NeighborTable) :
    (p.withTable table).Standing bound := by
  cases h with
  | waiting stage phase status entry started crossing next =>
      exact .waiting stage phase status entry started crossing next
  | seeking s started past crossing status granted since way held =>
      exact .seeking s started past crossing status granted since way held
  | inside s c started order past crossing status granted way entry =>
      exact .inside s c started order past crossing status granted way entry
  | through s c e started order past crossing status stage phase =>
      exact .through s c e started order past crossing status stage phase

theorem Standing.send {bound : Nat} (h : p.Standing bound) (started : p.startedAt ≠ none)
    (sent : UInt64) (nextBeacon : Timestamp) :
    ({ p with sent, nextBeacon } : Participant).Standing bound := by
  cases h with
  | waiting _ _ _ _ waits => exact absurd waits started
  | seeking s began past crossing status granted since way held =>
      exact .seeking s began past crossing status granted since way held
  | inside s c began order past crossing status granted way entry =>
      exact .inside s c began order past crossing status granted way entry
  | through s c e began order past crossing status stage phase =>
      exact .through s c e began order past crossing status stage phase

end Junction.Participant
