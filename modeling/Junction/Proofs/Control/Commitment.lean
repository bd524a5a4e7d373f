import Junction.Proofs.Control.Reachable
import Junction.Proofs.RightOfWay.Slots
import Junction.Road.FourWay

/-! # When a reserving vehicle is let in

A vehicle that reserves is let in behind all peers that go first and are in its way, unless one of
its peers publishes an exit at the count that means "no concrete time". Such an answer is taken for
one without an instant, and repeating it for long enough lets the vehicle in while a peer is still
inside.
-/

namespace Junction.Controller

/-- The peers that the owner of a table has to let go first. -/
structure Precedes (s : Settings) (conflicts : ConflictTest) (n : Neighbor) : Prop where
  clash : conflicts s.route n.route = true
  ahead : n.status = .crossing ∨
    n.status = .requesting ∧ s.options.precedence.outranks n.id s.id = true

instance (s : Settings) (conflicts : ConflictTest) (n : Neighbor) :
    Decidable (Precedes s conflicts n) :=
  decidable_of_iff (conflicts s.route n.route = true ∧ (n.status = .crossing ∨
      n.status = .requesting ∧ s.options.precedence.outranks n.id s.id = true))
    ⟨fun h => ⟨h.1, h.2⟩, fun h => ⟨h.clash, h.ahead⟩⟩

/-- An answer of the reserving rule is not before any peer is out that goes first, and it names the
    last instant there is only if it is that instant, or if some peer does. -/
theorem exits_of_admits {c : Controller} {conflicts : ConflictTest} {now : Timestamp}
    (policy : c.policy =
      (RightOfWay.policyFor .reservation conflicts c.settings.options).toPolicy)
    (admits : c.Admits (c.answerAt now) now) :
    (∀ n ∈ (c.forget now).table.entries, Precedes c.settings conflicts n →
        n.IsOutBy (c.answerAt now).safeAt) ∧
      ((∀ n ∈ (c.forget now).table.entries, n.exitTime ≠ some .unscheduled) →
        (c.answerAt now).safeAt ≤ now) := by
  have answer : c.answerAt now = (RightOfWay.policyFor .reservation conflicts
      c.settings.options).answer ((c.forget now).question now) := by
    rw [answerAt, policy]
  have safe := admits.safe
  rw [answer] at safe
  constructor
  · intro n member precedes
    rw [answer]
    exact RightOfWay.isOutBy_of_reservation safe ⟨member, precedes.clash, precedes.ahead⟩
  · intro concrete
    rcases admits.ripe with due | ⟨unscheduled, -⟩
    · exact due
    · by_cases last : now = .unscheduled
      · rw [last]
        exact Timestamp.le_unscheduled _
      · have early : ∀ n ∈ (c.forget now).table.entries, ∀ exit, n.exitTime = some exit →
            exit.ms ≤ 2 ^ 64 - 2 := by
          intro n member exit said
          apply Timestamp.ms_le_of_ne
          rintro rfl
          exact concrete n member said
        have known : RightOfWay.KnownBy c.settings.options.precedence
            ((c.forget now).question now) (2 ^ 64 - 2) := by
          refine ⟨Timestamp.ms_le_of_ne last, ?_, ?_⟩
          · intro n inside
            exact early n (Snapshot.mem_crossing.mp inside).1
          · intro n ahead
            exact early n (Evaluation.mem_outranking.mp ahead).1
        have bound : (c.answerAt now).safeAt.ms ≤ 2 ^ 64 - 2 := by
          rw [answer]
          exact RightOfWay.reservation_ms_le (fun _ _ => SlotChoice.select_mem) known safe
        rw [unscheduled, Timestamp.unscheduled_ms] at bound
        omega

/-- Whenever a tick lets a reserving vehicle in, either all peers that go first and are in its way
    are due out by then, or the answer named no concrete time because some peer's exit has none. -/
theorem commits_behind_exits {s : Settings} {conflicts : ConflictTest} {start : Controller}
    (created : create s conflicts = .ok start) (reserving : s.protocol = .reservation)
    (inputs : List Input) (now : Timestamp)
    (committed : ((start.afterAll inputs).tick now).2 = some .committed) :
    (∀ n ∈ ((start.afterAll inputs).tick now).1.table.entries, Precedes s conflicts n →
        n.IsOutBy now) ∨
      ((start.afterAll inputs).answerAt now).safeAt = .unscheduled ∧
        (∃ n ∈ ((start.afterAll inputs).tick now).1.table.entries,
          n.exitTime = some .unscheduled) ∧
        ∀ n ∈ ((start.afterAll inputs).tick now).1.table.entries, Precedes s conflicts n →
          n.IsOutBy .unscheduled := by
  obtain ⟨rfl, -⟩ := eq_of_create created
  have constants := constants_afterAll
    (ofPolicy s (RightOfWay.policyFor s.protocol conflicts s.options).toPolicy) inputs
  generalize (ofPolicy s (RightOfWay.policyFor s.protocol conflicts s.options).toPolicy).afterAll
    inputs = c at constants committed ⊢
  have settings : c.settings = s := settings_of_constants constants
  have policy : c.policy = (RightOfWay.policyFor s.protocol conflicts s.options).toPolicy :=
    policy_of_constants constants
  rw [reserving, ← settings] at policy
  obtain ⟨running, -, admits⟩ := tick_committed_iff.mp committed
  obtain ⟨behind, concrete⟩ := exits_of_admits policy admits
  rw [table_tick running, ← settings]
  by_cases due : (c.answerAt now).safeAt ≤ now
  · apply Or.inl
    intro n member precedes
    exact (behind n member precedes).mono due
  · refine Or.inr ⟨(admits.ripe.resolve_left due).1, ?_, ?_⟩
    · refine Classical.byContradiction fun none => due (concrete ?_)
      intro n member said
      exact none ⟨n, member, said⟩
    · intro n member precedes
      exact (behind n member precedes).mono (Timestamp.le_unscheduled _)

def fromNorth : Settings := { Settings.standard with id := ⟨5⟩, protocol := .reservation }

def northAtRest : Controller :=
  ofPolicy fromNorth
    (RightOfWay.policyFor .reservation Topology.fourWay.conflicts fromNorth.options).toPolicy

/-- The vehicle approaches, and hears that a peer from the east went in at `entry` and stays for
    four seconds. -/
def hearsOfPeer (entry : Nat) : List Input := [
  .event .approaching .zero,
  .beacon {
    sender := ⟨9⟩
    protocol := .reservation
    status := .crossing
    route := ⟨⟨"E"⟩, ⟨"W"⟩⟩
    sequence := 0
    entryTime := some (.wrapping entry)
    crossingMs := some 4000 } .zero,
  .tick .zero]

theorem commits_behind_exits_of_peer :
    create fromNorth Topology.fourWay.conflicts = .ok northAtRest ∧
      ((northAtRest.afterAll (hearsOfPeer 500)).tick (.wrapping 4500)).2 = some .committed ∧
      ((∀ n ∈ ((northAtRest.afterAll (hearsOfPeer 500)).tick (.wrapping 4500)).1.table.entries,
          Precedes fromNorth Topology.fourWay.conflicts n → n.IsOutBy (.wrapping 4500)) ∨
        ((northAtRest.afterAll (hearsOfPeer 500)).answerAt (.wrapping 4500)).safeAt =
            .unscheduled ∧
          (∃ n ∈ ((northAtRest.afterAll (hearsOfPeer 500)).tick (.wrapping 4500)).1.table.entries,
            n.exitTime = some .unscheduled) ∧
          ∀ n ∈ ((northAtRest.afterAll (hearsOfPeer 500)).tick (.wrapping 4500)).1.table.entries,
            Precedes fromNorth Topology.fourWay.conflicts n → n.IsOutBy .unscheduled) := by
  have created : create fromNorth Topology.fourWay.conflicts = .ok northAtRest := rfl
  have committed : ((northAtRest.afterAll (hearsOfPeer 500)).tick (.wrapping 4500)).2 =
      some .committed := by decide +kernel
  exact ⟨created, committed, commits_behind_exits created rfl _ _ committed⟩

/-- A peer went in so late that its exit cannot be counted. After the usual repetition the vehicle
    is let in while that peer is inside. -/
theorem commits_before_uncounted_exit :
    create fromNorth Topology.fourWay.conflicts = .ok northAtRest ∧
      ((northAtRest.afterAll (hearsOfPeer 18446744073709551000)).tick (.wrapping 2100)).2 =
        some .committed ∧
      ¬∀ n ∈ ((northAtRest.afterAll (hearsOfPeer 18446744073709551000)).tick
          (.wrapping 2100)).1.table.entries,
        Precedes fromNorth Topology.fourWay.conflicts n → n.IsOutBy (.wrapping 2100) := by
  refine ⟨rfl, ?_, ?_⟩ <;> decide +kernel

end Junction.Controller
