import Junction.Proofs.Control.Commitment
import Junction.Proofs.Control.Lifecycle
import Junction.Proofs.Control.Window

/-! # What a vehicle says about its entry

Peers plan around the time of entry that a reserving vehicle publishes. It is always the one that
follows from the last answer of the crossing episode: nothing before there is an answer, nothing
where the answer names no instant, and the instant of the tick that let the vehicle in. No input
leaves an older one standing. A vehicle that does not reserve never publishes any.
-/

namespace Junction

theorem Clearance.scheduledTime_eq_none {answer : Clearance} :
    answer.scheduledTime = none ↔ answer.isSafe = false ∨ answer.safeAt = .unscheduled := by
  cases safe : answer.isSafe <;> simp [scheduledTime, safe, Timestamp.isScheduled_iff]

namespace Controller

/-- What moves a crossing episode on. -/
inductive Milestone where
  /-- The episode began. -/
  | began
  /-- A tick read an answer of the policy and came to a decision. -/
  | read (now : Timestamp) (answer : Clearance) (decision : Decision)
  deriving DecidableEq, Repr

namespace Milestone

def status : Milestone → Status
  | .read _ _ .committed => .crossing
  | .began | .read _ _ _ => .requesting

def answer? : Milestone → Option Clearance
  | .began => none
  | .read _ answer _ => some answer

def entryTime : Milestone → Option Timestamp
  | .began => none
  | .read now _ .committed => some now
  | .read _ answer _ => answer.scheduledTime

theorem status_of_ne_committed {now : Timestamp} {answer : Clearance} {decision : Decision}
    (outside : decision ≠ .committed) : (read now answer decision).status = .requesting := by
  cases decision with
  | committed => exact absurd rfl outside
  | waiting | provisional => rfl

theorem entryTime_of_ne_committed {now : Timestamp} {answer : Clearance} {decision : Decision}
    (outside : decision ≠ .committed) :
    (read now answer decision).entryTime = answer.scheduledTime := by
  cases decision with
  | committed => exact absurd rfl outside
  | waiting | provisional => rfl

end Milestone

def milestone? (c : Controller) : Input → Option Milestone
  | .event event _ => if c.running && c.beginsEpisode event then some .began else none
  | .tick now => (c.tick now).2.map (.read now (c.answerAt now))
  | .beacon _ _ | .progress _ => none

def lastMilestone? (c : Controller) : List Input → Option Milestone
  | [] => none
  | input :: rest => ((c.after input).lastMilestone? rest).or (c.milestone? input)

variable {c : Controller} {input : Input} {inputs : List Input} {event : Event} {now t : Timestamp}
  {answer : Clearance} {decision : Decision} {m : Option Milestone}

theorem exists_milestone {k : Milestone} (last : c.lastMilestone? inputs = some k) :
    ∃ d input, milestone? d input = some k := by
  induction inputs generalizing c with
  | nil => cases last
  | cons input rest ih =>
      rcases Option.or_eq_some_iff.mp last with later | ⟨-, own⟩
      · exact ih later
      · exact ⟨c, input, own⟩

theorem onEvent_of_begins (running : c.running = true) (begins : c.beginsEpisode event = true)
    (now : Timestamp) :
    (c.onEvent event now).1.status = .requesting ∧
      (c.onEvent event now).1.lastAnswer = none ∧
      (c.onEvent event now).1.beacon.entryTime = none := by
  simp only [onEvent, running, Bool.not_true, Bool.false_eq_true, if_false]
  cases event with
  | approaching =>
      cases phase : c.phase with
      | approaching | entering => simp [beginsEpisode, phase] at begins
      | idle | exiting _ | aborted =>
          simp only [approach, phase]
          exact ⟨rfl, rfl, rfl⟩
  | entering =>
      cases phase : c.phase with
      | approaching | entering | aborted => simp [beginsEpisode, phase] at begins
      | idle | exiting _ =>
          simp only [enter, phase]
          exact ⟨rfl, rfl, rfl⟩
  | exiting => cases begins
  | error => cases begins

theorem onEvent_of_not_begins (goesOn : (c.running && c.beginsEpisode event) = false)
    (now : Timestamp) :
    ((c.onEvent event now).1.status = c.status ∨ (c.onEvent event now).1.status = .exiting) ∧
      (c.onEvent event now).1.lastAnswer = c.lastAnswer ∧
      (c.onEvent event now).1.beacon.entryTime = c.beacon.entryTime := by
  cases running : c.running with
  | false => simp [onEvent, running]
  | true =>
      simp only [running, Bool.true_and] at goesOn
      simp only [onEvent, running, Bool.not_true, Bool.false_eq_true, if_false]
      cases event with
      | approaching =>
          cases phase : c.phase with
          | approaching | entering => simp [approach, phase]
          | idle | exiting _ | aborted => simp [beginsEpisode, phase] at goesOn
      | entering =>
          cases phase : c.phase with
          | approaching | entering | aborted =>
              simp only [enter, phase]
              split <;> exact ⟨Or.inl rfl, rfl, rfl⟩
          | idle | exiting _ => simp [beginsEpisode, phase] at goesOn
      | exiting => exact ⟨Or.inr rfl, rfl, rfl⟩
      | error => exact ⟨Or.inl rfl, rfl, rfl⟩

theorem tick_of_undecided (undecided : (c.tick now).2 = none) :
    (c.tick now).1.beacon = c.beacon ∧ (c.tick now).1.lastAnswer = c.lastAnswer := by
  cases running : c.running with
  | false => simp [tick_of_stopped running]
  | true =>
      rw [tick_eq running] at undecided ⊢
      split at undecided
      · cases undecided
      · next rests =>
        rw [if_neg rests]
        obtain ⟨drive, phase, eq, -⟩ := (c.forget now).pauseIfDue_eq now
        rw [eq]
        exact ⟨rfl, rfl⟩

theorem weigh_of_decided (decided : (c.tick now).2 = some decision) :
    c.running = true ∧ c.seeks = true ∧
      (c.forget now).weigh (c.answerAt now) now = decision := by
  cases running : c.running with
  | false => simp [tick_of_stopped running] at decided
  | true =>
      rw [tick_eq running] at decided
      split at decided
      · next seeks => exact ⟨rfl, seeks, by simpa [act_snd] using decided⟩
      · cases decided

theorem tick_of_decided (coherent : c.Coherent) (decided : (c.tick now).2 = some decision) :
    (c.tick now).1.status = (Milestone.read now (c.answerAt now) decision).status ∧
      (c.tick now).1.lastAnswer = some (c.answerAt now) ∧
      (c.tick now).1.beacon.entryTime =
        if c.reserves then (Milestone.read now (c.answerAt now) decision).entryTime
        else c.beacon.entryTime := by
  obtain ⟨running, seeks, rfl⟩ := weigh_of_decided decided
  obtain ⟨outside, underway⟩ := seeks_iff.mp seeks
  rw [tick_eq running, if_pos seeks]
  by_cases admits : (c.forget now).Admits (c.answerAt now) now
  · obtain ⟨pacer, eq, -⟩ := act_admitted admits
    rw [eq, weigh_eq_committed.mpr admits]
    exact ⟨rfl, rfl, rfl⟩
  · obtain ⟨drive, pacer, since, eq, -⟩ := act_refused admits
    have refused := mt weigh_eq_committed.mp admits
    rw [eq, Milestone.status_of_ne_committed refused, Milestone.entryTime_of_ne_committed refused]
    exact ⟨coherent.requesting underway outside, rfl, rfl⟩

theorem lt_of_milestone (made : c.milestone? input = some (.read now answer decision))
    (refused : decision ≠ .committed) (named : answer.scheduledTime = some t) : now < t := by
  cases input with
  | event event now =>
      simp only [milestone?] at made
      split at made <;> cases made
  | beacon b now => cases made
  | progress metres => cases made
  | tick now =>
      obtain ⟨decision, decided, same⟩ := Option.map_eq_some_iff.mp made
      cases same
      obtain ⟨-, -, rfl⟩ := weigh_of_decided decided
      exact lt_scheduledTime_of_refused (mt weigh_eq_committed.mpr refused) named

/-- The status of a vehicle, the answer it holds and, if it reserves, the time of entry it publishes
    are those of a milestone. -/
structure Follows (c : Controller) (k : Milestone) : Prop where
  status : c.status = k.status
  answer : c.lastAnswer = k.answer?
  entryTime : c.reserves = true → c.beacon.entryTime = k.entryTime

/-- A vehicle that waits or is inside follows the last milestone, and one that does not reserve
    never publishes when it enters. -/
structure Announces (m : Option Milestone) (c : Controller) : Prop where
  near : c.status = .requesting ∨ c.status = .crossing → ∃ k ∈ m, c.Follows k
  silent : c.reserves = false → c.beacon.entryTime = none

theorem Announces.congr {d : Controller} (announces : Announces m c)
    (status : d.status = c.status ∨ d.status = .exiting) (answer : d.lastAnswer = c.lastAnswer)
    (entryTime : d.beacon.entryTime = c.beacon.entryTime) (reserves : d.reserves = c.reserves) :
    Announces m d where
  near near := by
    rcases status with same | left
    · rw [same] at near
      obtain ⟨k, last, follows⟩ := announces.near near
      refine ⟨k, last, same.trans follows.status, answer.trans follows.answer, ?_⟩
      intro reserving
      exact entryTime.trans (follows.entryTime (reserves.symm.trans reserving))
    · simp [left] at near
  silent shares := entryTime.trans (announces.silent (reserves.symm.trans shares))

theorem reserves_after (c : Controller) (input : Input) : (c.after input).reserves = c.reserves :=
  congrArg (· == Protocol.reservation) (protocol_of_constants (constants_after c input))

theorem announces_after (coherent : c.Coherent) (announces : Announces m c) (input : Input) :
    Announces ((c.milestone? input).or m) (c.after input) := by
  have reserves := reserves_after c input
  cases input with
  | event event now =>
      cases begins : c.running && c.beginsEpisode event with
      | true =>
          obtain ⟨running, starts⟩ := Bool.and_eq_true_iff.mp begins
          obtain ⟨status, answer, entryTime⟩ := onEvent_of_begins running starts now
          simp only [milestone?, begins, if_true, Option.some_or]
          exact ⟨fun _ => ⟨_, rfl, status, answer, fun _ => entryTime⟩, fun _ => entryTime⟩
      | false =>
          obtain ⟨status, answer, entryTime⟩ := onEvent_of_not_begins begins now
          simp only [milestone?, begins, Bool.false_eq_true, if_false, Option.none_or]
          exact announces.congr status answer entryTime reserves
  | tick now =>
      cases read : (c.tick now).2 with
      | some decision =>
          obtain ⟨status, answer, entryTime⟩ := tick_of_decided coherent read
          simp only [milestone?, read, Option.map_some, Option.some_or]
          refine ⟨fun _ => ⟨_, rfl, status, answer, fun reserving => ?_⟩, fun shares => ?_⟩
          · exact entryTime.trans (if_pos (reserves.symm.trans reserving))
          · have outside := reserves.symm.trans shares
            rw [outside] at entryTime
            exact entryTime.trans (announces.silent outside)
      | none =>
          obtain ⟨beacon, answer⟩ := tick_of_undecided read
          simp only [milestone?, read, Option.map_none, Option.none_or]
          exact announces.congr (Or.inl (congrArg Beacon.status beacon)) answer
            (congrArg Beacon.entryTime beacon) reserves
  | beacon b now =>
      have same : (c.onBeacon b now).1 = { c with table := (c.onBeacon b now).1.table } := by
        rw [onBeacon_eq]
        split <;> rfl
      change Announces m (c.onBeacon b now).1
      rw [same]
      exact announces.congr (Or.inl rfl) rfl rfl rfl
  | progress metres =>
      have same : c.onProgress metres = { c with pacer := (c.onProgress metres).pacer } := by
        unfold onProgress
        split <;> rfl
      change Announces m (c.onProgress metres)
      rw [same]
      exact announces.congr (Or.inl rfl) rfl rfl rfl

/-- Whatever comes one after the other, what is published follows the last milestone there was. -/
theorem announces_afterAll (coherent : c.Coherent) (announces : Announces m c)
    (inputs : List Input) : Announces ((c.lastMilestone? inputs).or m) (c.afterAll inputs) := by
  induction inputs generalizing c m with
  | nil => exact announces
  | cons input rest ih =>
      have later := ih (coherent.after input) (announces_after coherent announces input)
      rwa [← Option.or_assoc] at later

theorem announces_reached (s : Settings) (policy : Policy) (drive : Drive) (inputs : List Input) :
    Announces (lastMilestone? { ofPolicy s policy with drive } inputs)
      (reached s policy drive inputs) := by
  obtain ⟨status, silent⟩ := firstBeacon_status s policy.protocol
  have start : Announces none { ofPolicy s policy with drive } := by
    refine ⟨?_, fun _ => silent⟩
    rintro (near | near) <;> cases near.symm.trans status
  have later := announces_afterAll Coherent.atRest start inputs
  rwa [Option.or_none] at later

/-- Before it has an answer, a reserving vehicle that waits publishes nothing; then it publishes
    what the last answer names. -/
theorem Announces.waiting (announces : Announces m c) (reserves : c.reserves = true)
    (waits : c.status = .requesting) :
    (m = some .began ∧ c.lastAnswer = none ∧ c.beacon.entryTime = none) ∨
      ∃ now answer decision,
        m = some (.read now answer decision) ∧ decision ≠ .committed ∧
          c.lastAnswer = some answer ∧ c.beacon.entryTime = answer.scheduledTime := by
  obtain ⟨k, last, follows⟩ := announces.near (Or.inl waits)
  cases k with
  | began => exact Or.inl ⟨last, follows.answer, follows.entryTime reserves⟩
  | read now answer decision =>
      have refused : decision ≠ .committed := by
        rintro rfl
        cases waits.symm.trans follows.status
      have published := follows.entryTime reserves
      rw [Milestone.entryTime_of_ne_committed refused] at published
      exact Or.inr ⟨now, answer, decision, last, refused, follows.answer, published⟩

theorem Announces.inside (announces : Announces m c) (reserves : c.reserves = true)
    (inside : c.status = .crossing) :
    ∃ now answer,
      m = some (.read now answer .committed) ∧ c.lastAnswer = some answer ∧
        c.beacon.entryTime = some now := by
  obtain ⟨k, last, follows⟩ := announces.near (Or.inr inside)
  cases k with
  | began => cases inside.symm.trans follows.status
  | read now answer decision =>
      cases decision with
      | committed => exact ⟨now, answer, last, follows.answer, follows.entryTime reserves⟩
      | waiting | provisional => cases inside.symm.trans follows.status

/-- Whatever the policy and whatever comes, at whatever times: a reserving vehicle that waits
    publishes nothing as long as its episode has no answer, and then the instant that the last one
    names, if it names one, and that is later than when it was read. Inside, it publishes when it
    was let in. Any other vehicle never publishes when it enters or how long it stays. -/
theorem announces_entry (s : Settings) (policy : Policy) (drive : Drive) (inputs : List Input) :
    (policy.protocol = .reservation →
      ((reached s policy drive inputs).status = .requesting →
        (lastMilestone? { ofPolicy s policy with drive } inputs = some .began ∧
            (reached s policy drive inputs).lastAnswer = none ∧
            (reached s policy drive inputs).beacon.entryTime = none) ∨
          ∃ now answer decision,
            lastMilestone? { ofPolicy s policy with drive } inputs =
                some (.read now answer decision) ∧
              decision ≠ .committed ∧
              (reached s policy drive inputs).lastAnswer = some answer ∧
              (reached s policy drive inputs).beacon.entryTime = answer.scheduledTime ∧
              (answer.isSafe = false ∨ answer.safeAt = .unscheduled →
                (reached s policy drive inputs).beacon.entryTime = none) ∧
              ∀ t, (reached s policy drive inputs).beacon.entryTime = some t → now < t) ∧
      ((reached s policy drive inputs).status = .crossing →
        ∃ now answer,
          lastMilestone? { ofPolicy s policy with drive } inputs =
              some (.read now answer .committed) ∧
            (reached s policy drive inputs).lastAnswer = some answer ∧
            (reached s policy drive inputs).beacon.entryTime = some now)) ∧
    (policy.protocol ≠ .reservation →
      (reached s policy drive inputs).beacon.entryTime = none ∧
        (reached s policy drive inputs).beacon.crossingMs = none) := by
  have announces := announces_reached s policy drive inputs
  have constants := constants_reached s policy drive inputs
  have protocol : (reached s policy drive inputs).beacon.protocol = policy.protocol :=
    (protocol_of_constants constants).trans (firstBeacon_sender s policy.protocol).2.1
  constructor
  · intro reserving
    have reserves : (reached s policy drive inputs).reserves = true := by
      simp [Controller.reserves, protocol, reserving]
    refine ⟨?_, announces.inside reserves⟩
    intro waits
    rcases announces.waiting reserves waits with unread |
      ⟨now, answer, decision, last, refused, held, published⟩
    · exact Or.inl unread
    · refine Or.inr ⟨now, answer, decision, last, refused, held, published, ?_, ?_⟩
      · intro nothing
        exact published.trans (Clearance.scheduledTime_eq_none.mpr nothing)
      · intro t said
        obtain ⟨d, input, made⟩ := exists_milestone last
        exact lt_of_milestone made refused (published.symm.trans said)
  · intro shares
    constructor
    · exact announces.silent (by simp [Controller.reserves, protocol, shares])
    · refine (crossingMs_of_constants constants).trans ?_
      simp only [ofPolicy, firstBeacon, if_neg shares]
      rfl

/-- The vehicle from the north waits for a peer that is out at 4500, publishes that instant ahead of
    it, is let in at it, and then publishes that it went in. -/
theorem announces_entry_behindPeer :
    (∃ now answer decision,
      northAtRest.lastMilestone? (hearsOfPeer 500) = some (.read now answer decision) ∧
        decision ≠ .committed ∧
        (northAtRest.afterAll (hearsOfPeer 500)).beacon.entryTime = some (.wrapping 4500) ∧
        now < .wrapping 4500) ∧
      ∃ now answer,
        northAtRest.lastMilestone? (hearsOfPeer 500 ++ [.tick (.wrapping 4500)]) =
            some (.read now answer .committed) ∧
          (northAtRest.afterAll (hearsOfPeer 500 ++ [.tick (.wrapping 4500)])).beacon.entryTime =
            some now := by
  have start : ({ ofPolicy fromNorth northAtRest.policy with drive := northAtRest.drive } :
      Controller) = northAtRest := rfl
  have announces := announces_entry fromNorth northAtRest.policy northAtRest.drive
  simp only [reached, start] at announces
  constructor
  · have waits : (northAtRest.afterAll (hearsOfPeer 500)).status = .requesting := by
      decide +kernel
    have said : (northAtRest.afterAll (hearsOfPeer 500)).beacon.entryTime =
        some (.wrapping 4500) := by decide +kernel
    rcases ((announces (hearsOfPeer 500)).1 rfl).1 waits with ⟨-, -, unset⟩ |
      ⟨now, answer, decision, last, refused, -, -, -, ahead⟩
    · rw [said] at unset
      cases unset
    · exact ⟨now, answer, decision, last, refused, said, ahead _ said⟩
  · have inside : (northAtRest.afterAll (hearsOfPeer 500 ++ [.tick (.wrapping 4500)])).status =
        .crossing := by decide +kernel
    have reserving := (announces (hearsOfPeer 500 ++ [.tick (.wrapping 4500)])).1 rfl
    obtain ⟨now, answer, last, -, published⟩ := reserving.2 inside
    exact ⟨now, answer, last, published⟩

end Controller

end Junction
