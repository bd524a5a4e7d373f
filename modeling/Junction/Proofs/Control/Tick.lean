import Junction.Control.Controller
import Junction.Proofs.Neighbor.Reception
import Junction.Proofs.Time.Order

/-! # What the inputs of a controller change

Each operation is a change of a few fields, and these are named here once. A tick asks the policy
exactly when the vehicle waits for access. It lets the vehicle in if the answer holds already, or
if the answer names no instant and has been repeated for long enough.
-/

namespace Junction

/-- The vehicle was told a speed, or nothing. -/
def Drive.Paced (d e : Drive) : Prop := e = d ∨ ∃ speed, e = d.issue (.limit speed)

theorem Drive.Paced.paused {d e : Drive} (h : d.Paced e) : e.motion.paused = d.motion.paused := by
  rcases h with rfl | ⟨speed, rfl⟩ <;> rfl

theorem Drive.Paced.stopped {d e : Drive} (h : d.Paced e) :
    e.motion.stopped = d.motion.stopped := by
  rcases h with rfl | ⟨speed, rfl⟩ <;> rfl

namespace Controller

/-- The settings, the policy, the owner of the table, and the beacon apart from the status and the
    entry time. -/
structure Constants where
  settings : Settings
  policy : Policy
  owner : VehicleId
  beacon : Beacon

def constants (c : Controller) : Constants where
  settings := c.settings
  policy := c.policy
  owner := c.table.owner
  beacon := { c.beacon with status := .idle, entryTime := none }

theorem settings_of_constants {c d : Controller} (h : c.constants = d.constants) :
    c.settings = d.settings := congrArg Constants.settings h

theorem policy_of_constants {c d : Controller} (h : c.constants = d.constants) :
    c.policy = d.policy := congrArg Constants.policy h

theorem owner_of_constants {c d : Controller} (h : c.constants = d.constants) :
    c.table.owner = d.table.owner := congrArg Constants.owner h

theorem sender_of_constants {c d : Controller} (h : c.constants = d.constants) :
    c.beacon.sender = d.beacon.sender := congrArg (Beacon.sender ∘ Constants.beacon) h

theorem protocol_of_constants {c d : Controller} (h : c.constants = d.constants) :
    c.beacon.protocol = d.beacon.protocol := congrArg (Beacon.protocol ∘ Constants.beacon) h

theorem route_of_constants {c d : Controller} (h : c.constants = d.constants) :
    c.beacon.route = d.beacon.route := congrArg (Beacon.route ∘ Constants.beacon) h

theorem sequence_of_constants {c d : Controller} (h : c.constants = d.constants) :
    c.beacon.sequence = d.beacon.sequence := congrArg (Beacon.sequence ∘ Constants.beacon) h

theorem crossingMs_of_constants {c d : Controller} (h : c.constants = d.constants) :
    c.beacon.crossingMs = d.beacon.crossingMs := congrArg (Beacon.crossingMs ∘ Constants.beacon) h

theorem beacon_of_constants {c d : Controller} (h : c.constants = d.constants) :
    c.beacon = { d.beacon with status := c.beacon.status, entryTime := c.beacon.entryTime } := by
  simp only [← sender_of_constants h, ← protocol_of_constants h, ← route_of_constants h,
    ← sequence_of_constants h, ← crossingMs_of_constants h]

theorem pace_eq (c : Controller) (entry : Option Timestamp) (now : Timestamp) :
    ∃ drive pacer, c.pace entry now = { c with drive, pacer } ∧ c.drive.Paced drive ∧
      pacer.maxSpeed = c.pacer.maxSpeed := by
  unfold pace
  split
  · next speed _ => exact ⟨_, _, rfl, Or.inr ⟨speed, rfl⟩, rfl⟩
  · exact ⟨c.drive, c.pacer, rfl, Or.inl rfl, rfl⟩

theorem publish_eq (c : Controller) (answer : Clearance) (now : Timestamp) :
    ∃ drive pacer,
      c.publish answer now =
        { c with
          beacon := { c.beacon with
            entryTime := if c.reserves then answer.scheduledTime else c.beacon.entryTime }
          drive
          pacer } ∧
      c.drive.Paced drive ∧ pacer.maxSpeed = c.pacer.maxSpeed := by
  unfold publish
  cases c.reserves with
  | false => exact ⟨c.drive, c.pacer, rfl, Or.inl rfl, rfl⟩
  | true =>
      by_cases underway : c.phase = .approaching
      · rw [if_pos rfl, if_pos underway]
        exact pace_eq _ _ _
      · rw [if_pos rfl, if_neg underway]
        exact ⟨c.drive, c.pacer, rfl, Or.inl rfl, rfl⟩

/-- What a vehicle is told when it is let in. -/
def released (c : Controller) : Drive :=
  (if c.reserves then c.drive.issue (.limit c.pacer.maxSpeed) else c.drive).issue .unpause

theorem commit_eq (c : Controller) (now : Timestamp) :
    ∃ pacer,
      c.commit now =
        { c with
          granted := true
          safeSince := none
          beacon := { c.beacon with
            status := .crossing
            entryTime := if c.reserves then some now else c.beacon.entryTime }
          drive := c.released
          pacer } ∧
      pacer.maxSpeed = c.pacer.maxSpeed := by
  cases reserving : c.reserves with
  | false =>
      have still : (c.beacon.protocol == Protocol.reservation) = false := reserving
      refine ⟨c.pacer, ?_, rfl⟩
      simp [commit, released, reserves, still, issue]
  | true =>
      have still : (c.beacon.protocol == Protocol.reservation) = true := reserving
      refine ⟨c.pacer.note c.pacer.maxSpeed, ?_, rfl⟩
      simp [commit, released, reserves, still, issue]

/-- The answer of the policy that a tick reads if it reads one. -/
def answerAt (c : Controller) (now : Timestamp) : Clearance :=
  c.policy.answer ((c.forget now).question now)

/-- An answer lets the vehicle in: it holds already, or it names no instant and the run of positive
    answers is long enough. -/
structure Admits (c : Controller) (answer : Clearance) (now : Timestamp) : Prop where
  safe : answer.isSafe = true
  ripe : answer.safeAt ≤ now ∨
    answer.safeAt = .unscheduled ∧ c.settings.minSafe.ms ≤ now.since (c.safeSince.getD now)

/-- An answer that does not let the vehicle in names an instant ahead, if it names one. -/
theorem lt_scheduledTime_of_refused {c : Controller} {answer : Clearance} {now t : Timestamp}
    (refused : ¬c.Admits answer now) (named : answer.scheduledTime = some t) : now < t := by
  simp only [Clearance.scheduledTime] at named
  split at named
  · next positive =>
    obtain rfl := Option.some.inj named
    have safe := (Bool.and_eq_true_iff.mp positive).1
    exact Timestamp.not_le.mp fun due => refused ⟨safe, Or.inl due⟩
  · cases named

theorem weigh_eq_committed {c : Controller} {answer : Clearance} {now : Timestamp} :
    c.weigh answer now = .committed ↔ c.Admits answer now := by
  constructor
  · intro h
    simp only [weigh] at h
    split at h
    · next immediate =>
      obtain ⟨safe, due⟩ := Bool.and_eq_true_iff.mp immediate
      exact ⟨safe, Or.inl (of_decide_eq_true due)⟩
    · split at h
      · next safe =>
        split at h
        · next repeated =>
          obtain ⟨none, held⟩ := Bool.and_eq_true_iff.mp repeated
          refine ⟨safe, Or.inr ⟨Timestamp.isScheduled_eq_false.mp ?_, of_decide_eq_true held⟩⟩
          simpa using none
        · cases h
      · cases h
  · rintro ⟨safe, ripe⟩
    unfold weigh
    by_cases immediate : answer.isImmediate now = true
    · rw [if_pos immediate]
    · have ahead : ¬answer.safeAt ≤ now := by
        intro due
        exact immediate (by simp [Clearance.isImmediate, safe, due])
      obtain ⟨none, held⟩ := ripe.resolve_left ahead
      rw [if_neg immediate, if_pos safe, if_pos]
      simp [Timestamp.isScheduled_eq_false.mpr none, held]

theorem admits_forget {c : Controller} {answer : Clearance} {now t : Timestamp} :
    (c.forget t).Admits answer now ↔ c.Admits answer now :=
  ⟨fun h => ⟨h.safe, h.ripe⟩, fun h => ⟨h.safe, h.ripe⟩⟩

theorem seeks_iff {c : Controller} :
    c.seeks = true ↔ c.granted = false ∧ (c.phase = .approaching ∨ c.phase = .entering) := by
  simp [seeks]

theorem pauseIfDue_eq (c : Controller) (now : Timestamp) :
    ∃ drive phase, c.pauseIfDue now = { c with drive, phase } ∧
      ((∀ due, c.phase ≠ .exiting due) → drive = c.drive ∧ phase = c.phase) ∧
      ((∃ due, c.phase = .exiting due) → ∃ due, phase = .exiting due) := by
  unfold pauseIfDue
  split
  · next due exiting =>
    split
    · exact ⟨_, _, rfl, fun none => absurd exiting (none _), fun _ => ⟨_, rfl⟩⟩
    · exact ⟨c.drive, c.phase, rfl, fun _ => ⟨rfl, rfl⟩, fun _ => ⟨_, exiting⟩⟩
  · exact ⟨c.drive, c.phase, rfl, fun _ => ⟨rfl, rfl⟩, fun leaves => leaves⟩

theorem seeks_pauseIfDue (c : Controller) (now : Timestamp) :
    (c.pauseIfDue now).seeks = c.seeks := by
  unfold pauseIfDue
  split
  · next due exiting =>
    split
    · simp only [seeks, exiting]
      rfl
    · rfl
  · rfl

theorem pauseIfDue_of_seeks {c : Controller} (h : c.seeks = true) (now : Timestamp) :
    c.pauseIfDue now = c := by
  unfold pauseIfDue
  split
  · next due exiting => simp [seeks, exiting] at h
  · rfl

/-- A tick of a vehicle that waits for access acts upon the answer it reads, and any other tick
    only looks after the table and the pause. -/
theorem tick_eq {c : Controller} (running : c.running = true) (now : Timestamp) :
    c.tick now =
      if c.seeks then
        (((c.forget now).act (c.answerAt now) now).1,
          some ((c.forget now).act (c.answerAt now) now).2)
      else ((c.forget now).pauseIfDue now, none) := by
  have same : (c.forget now).seeks = c.seeks := rfl
  simp only [tick, running, Bool.not_true, Bool.false_eq_true, if_false, seeks_pauseIfDue, same]
  by_cases seeking : c.seeks = true
  · rw [if_pos seeking, if_pos seeking, pauseIfDue_of_seeks (same.trans seeking)]
    rfl
  · rw [if_neg seeking, if_neg seeking]

theorem tick_of_stopped {c : Controller} (stopped : c.running = false) (now : Timestamp) :
    c.tick now = (c, none) := by
  simp [tick, stopped]

theorem act_snd (c : Controller) (answer : Clearance) (now : Timestamp) :
    (c.act answer now).2 = c.weigh answer now := by
  simp only [act]
  split <;> rfl

theorem act_of_admits {c : Controller} {answer : Clearance} {now : Timestamp}
    (h : c.Admits answer now) :
    (c.act answer now).1 = ({ c with lastAnswer := some answer } : Controller).commit now := by
  simp only [act, weigh_eq_committed.mpr h]

theorem weigh_of_not_admits {c : Controller} {answer : Clearance} {now : Timestamp}
    (h : ¬c.Admits answer now) :
    c.weigh answer now =
      if answer.isSafe then .provisional (c.safeSince.getD now) answer.safeAt else .waiting := by
  have held : c.weigh answer now ≠ .committed := fun same => h (weigh_eq_committed.mp same)
  simp only [weigh] at held ⊢
  split
  · next immediate => exact absurd (if_pos immediate) held
  · next later =>
    rw [if_neg later] at held
    split
    · next safe =>
      rw [if_pos safe] at held
      split
      · next repeated => exact absurd (if_pos repeated) held
      · rfl
    · rfl

theorem act_of_not_admits {c : Controller} {answer : Clearance} {now : Timestamp}
    (h : ¬c.Admits answer now) :
    (c.act answer now).1 =
      ({ c with
        lastAnswer := some answer
        safeSince := if answer.isSafe then some (c.safeSince.getD now) else none } :
          Controller).publish answer now := by
  have decided := weigh_of_not_admits h
  by_cases safe : answer.isSafe = true
  · rw [if_pos safe] at decided
    simp only [act, decided, if_pos safe]
  · rw [if_neg safe] at decided
    simp only [act, decided, if_neg safe]

theorem act_admitted {c : Controller} {answer : Clearance} {now : Timestamp}
    (h : c.Admits answer now) :
    ∃ pacer,
      (c.act answer now).1 =
        { c with
          granted := true
          safeSince := none
          lastAnswer := some answer
          beacon := { c.beacon with
            status := .crossing
            entryTime := if c.reserves then some now else c.beacon.entryTime }
          drive := c.released
          pacer } ∧
      pacer.maxSpeed = c.pacer.maxSpeed := by
  obtain ⟨pacer, eq, speed⟩ := commit_eq ({ c with lastAnswer := some answer } : Controller) now
  exact ⟨pacer, (act_of_admits h).trans eq, speed⟩

theorem act_refused {c : Controller} {answer : Clearance} {now : Timestamp}
    (h : ¬c.Admits answer now) :
    ∃ drive pacer safeSince,
      (c.act answer now).1 =
        { c with
          safeSince
          lastAnswer := some answer
          beacon := { c.beacon with
            entryTime := if c.reserves then answer.scheduledTime else c.beacon.entryTime }
          drive
          pacer } ∧
      (c.drive.Paced drive ∧ pacer.maxSpeed = c.pacer.maxSpeed) ∧
      ∀ u, safeSince = some u → u = c.safeSince.getD now := by
  obtain ⟨drive, pacer, eq, paced⟩ :=
    publish_eq ({ c with
      lastAnswer := some answer
      safeSince := if answer.isSafe then some (c.safeSince.getD now) else none } :
        Controller) answer now
  refine ⟨drive, pacer, _, (act_of_not_admits h).trans eq, paced, ?_⟩
  intro u run
  split at run
  · exact (Option.some.inj run).symm
  · cases run

theorem tick_committed_iff {c : Controller} {now : Timestamp} :
    (c.tick now).2 = some .committed ↔
      c.running = true ∧ c.seeks = true ∧ c.Admits (c.answerAt now) now := by
  cases running : c.running with
  | false => simp [tick_of_stopped running]
  | true =>
      rw [tick_eq running]
      by_cases seeking : c.seeks = true
      · rw [if_pos seeking]
        simp only [act_snd, Option.some.injEq, seeking, true_and]
        exact weigh_eq_committed.trans admits_forget
      · rw [if_neg seeking]
        simp [seeking]

end Controller

end Junction
