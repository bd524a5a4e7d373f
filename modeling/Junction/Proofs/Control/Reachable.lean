import Junction.Proofs.Control.Tick

/-! # What holds of a controller after any inputs

The constants of a controller stay what they were, and its table stays in good order. Only beacons
and ticks touch the table.
-/

namespace Junction.Controller

theorem eq_of_create {s : Settings} {conflicts : ConflictTest} {c : Controller}
    (created : create s conflicts = .ok c) :
    c = ofPolicy s (RightOfWay.policyFor s.protocol conflicts s.options).toPolicy ∧ s.Valid := by
  simp only [create] at created
  split at created
  · cases created
  · next valid => exact ⟨(Except.ok.inj created).symm, valid⟩

theorem firstBeacon_sender (s : Settings) (protocol : Protocol) :
    (firstBeacon s protocol).sender = s.id ∧ (firstBeacon s protocol).protocol = protocol ∧
      (firstBeacon s protocol).route = s.route := by
  unfold firstBeacon
  split <;> exact ⟨rfl, rfl, rfl⟩

theorem firstBeacon_status (s : Settings) (protocol : Protocol) :
    (firstBeacon s protocol).status = .idle ∧ (firstBeacon s protocol).entryTime = none := by
  unfold firstBeacon
  split <;> exact ⟨rfl, rfl⟩

/-- The table and the constants are as before. -/
structure Keeps (c d : Controller) : Prop where
  table : d.table = c.table
  constants : d.constants = c.constants

theorem keeps_onEvent (c : Controller) (event : Event) (now : Timestamp) :
    c.Keeps (c.onEvent event now).1 := by
  unfold onEvent
  split
  · exact ⟨rfl, rfl⟩
  · cases event with
    | approaching =>
        simp only [approach]
        split <;> exact ⟨rfl, rfl⟩
    | entering =>
        simp only [enter]
        split <;> split <;> exact ⟨rfl, rfl⟩
    | exiting => exact ⟨rfl, rfl⟩
    | error => exact ⟨rfl, rfl⟩

theorem keeps_onProgress (c : Controller) (metres : Float) : c.Keeps (c.onProgress metres) := by
  unfold onProgress
  split <;> exact ⟨rfl, rfl⟩

theorem keeps_pauseIfDue (c : Controller) (now : Timestamp) : c.Keeps (c.pauseIfDue now) := by
  obtain ⟨drive, phase, eq, -⟩ := c.pauseIfDue_eq now
  rw [eq]
  exact ⟨rfl, rfl⟩

theorem keeps_act (c : Controller) (answer : Clearance) (now : Timestamp) :
    c.Keeps (c.act answer now).1 := by
  by_cases admits : c.Admits answer now
  · obtain ⟨pacer, eq, -⟩ := act_admitted admits
    rw [eq]
    exact ⟨rfl, rfl⟩
  · obtain ⟨drive, pacer, since, eq, -⟩ := act_refused admits
    rw [eq]
    exact ⟨rfl, rfl⟩

theorem onBeacon_eq (c : Controller) (b : Beacon) (now : Timestamp) :
    (c.onBeacon b now).1 =
      if b.protocol = c.beacon.protocol then { c with table := (c.table.update b now).1 }
      else c := by
  unfold onBeacon
  split <;> rfl

theorem constants_onBeacon (c : Controller) (b : Beacon) (now : Timestamp) :
    (c.onBeacon b now).1.constants = c.constants := by
  rw [onBeacon_eq]
  split
  · simp only [constants, NeighborTable.owner_update]
  · rfl

theorem table_tick {c : Controller} (running : c.running = true) (now : Timestamp) :
    (c.tick now).1.table = (c.forget now).table := by
  rw [tick_eq running]
  split
  · exact (keeps_act _ _ _).table
  · exact (keeps_pauseIfDue _ _).table

theorem constants_tick (c : Controller) (now : Timestamp) :
    (c.tick now).1.constants = c.constants := by
  cases running : c.running with
  | false => rw [tick_of_stopped running]
  | true =>
      rw [tick_eq running]
      split
      · exact (keeps_act _ _ _).constants
      · exact (keeps_pauseIfDue _ _).constants

theorem constants_after (c : Controller) (input : Input) :
    (c.after input).constants = c.constants := by
  cases input with
  | event event now => exact (keeps_onEvent c event now).constants
  | beacon b now => exact constants_onBeacon c b now
  | progress metres => exact (keeps_onProgress c metres).constants
  | tick now => exact constants_tick c now

theorem constants_afterAll (c : Controller) (inputs : List Input) :
    (c.afterAll inputs).constants = c.constants := by
  induction inputs generalizing c with
  | nil => rfl
  | cons input rest ih => exact (ih (c.after input)).trans (constants_after c input)

theorem kept_after {c : Controller} (kept : c.table.Kept) (input : Input) :
    (c.after input).table.Kept := by
  cases input with
  | event event now =>
      change (c.onEvent event now).1.table.Kept
      rwa [(keeps_onEvent c event now).table]
  | beacon b now =>
      change (c.onBeacon b now).1.table.Kept
      rw [onBeacon_eq]
      split
      · exact kept.update b now
      · exact kept
  | progress metres =>
      change (c.onProgress metres).table.Kept
      rwa [(keeps_onProgress c metres).table]
  | tick now =>
      change (c.tick now).1.table.Kept
      cases running : c.running with
      | false => rwa [tick_of_stopped running]
      | true =>
          rw [table_tick running]
          exact kept.flush _ _

end Junction.Controller
