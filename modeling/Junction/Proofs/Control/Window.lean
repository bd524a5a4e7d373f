import Junction.Proofs.Control.Reachable

/-! # When a tick lets the vehicle in

The controller keeps one instant to tell for how long it has been answered positively. Here that
instant is found in the history of its inputs: it is when the first answer was read of the unbroken
block of positive answers that the history ends with. So a vehicle is let in exactly by an answer
that holds already, or by one without an instant at the end of a block that is long enough.
-/

namespace Junction.Controller

/-- What an input means for the block of positive answers. -/
inductive Mark where
  /-- A positive answer was read. -/
  | positive (now : Timestamp)
  /-- A negative answer was read, a crossing episode began, or the vehicle left the crossing. -/
  | broken
  deriving DecidableEq, Repr

/-- Whether an event starts a crossing episode. -/
def beginsEpisode (c : Controller) : Event → Bool
  | .approaching => c.phase != .approaching && c.phase != .entering
  | .entering =>
    match c.phase with
    | .idle | .exiting _ => true
    | _ => false
  | .exiting | .error => false

def mark? (c : Controller) : Input → Option Mark
  | .event event _ =>
    if c.running && (event == .exiting || c.beginsEpisode event) then some .broken else none
  | .tick now =>
    if c.running && c.seeks then
      some (if (c.answerAt now).isSafe then .positive now else .broken)
    else none
  | .beacon _ _ | .progress _ => none

/-- The marks that inputs leave, the last one first. -/
def marks (c : Controller) : List Input → List Mark
  | [] => []
  | input :: rest => (c.after input).marks rest ++ (c.mark? input).toList

/-- The last marks are an unbroken block of positive answers, and the first of these was read at an
    instant. -/
inductive BlockSince : List Mark → Timestamp → Prop where
  | first {ms : List Mark} {t : Timestamp} (edge : ∀ m ∈ ms.head?, m = .broken) :
      BlockSince (.positive t :: ms) t
  | more {ms : List Mark} {t : Timestamp} (u : Timestamp) (block : BlockSince ms t) :
      BlockSince (.positive u :: ms) t

variable {c d : Controller} {ms : List Mark} {t u now : Timestamp}

theorem not_blockSince_broken : ¬BlockSince (.broken :: ms) t := nofun

theorem exists_blockSince (u : Timestamp) (ms : List Mark) : ∃ t, BlockSince (.positive u :: ms) t := by
  induction ms generalizing u with
  | nil => exact ⟨u, .first (by simp)⟩
  | cons m ms ih =>
      cases m with
      | positive v =>
          obtain ⟨t, block⟩ := ih v
          exact ⟨t, .more u block⟩
      | broken => exact ⟨u, .first (by simp)⟩

theorem blockSince_positive :
    BlockSince (.positive u :: ms) t ↔ BlockSince ms t ∨ (∀ v, ¬BlockSince ms v) ∧ t = u := by
  constructor
  · intro block
    cases block with
    | first edge =>
        refine Or.inr ⟨?_, rfl⟩
        intro v earlier
        cases earlier with
        | first => cases edge _ rfl
        | more => cases edge _ rfl
    | more _ block => exact Or.inl block
  · rintro (block | ⟨none, rfl⟩)
    · exact .more u block
    · refine .first ?_
      intro m last
      cases ms with
      | nil => cases last
      | cons m' ms =>
          obtain rfl := Option.some.inj last
          cases m' with
          | positive v =>
              obtain ⟨w, block⟩ := exists_blockSince v ms
              exact absurd block (none w)
          | broken => rfl

/-- While the vehicle has no access, the controller knows since when it has been answered
    positively. -/
def Tracks (ms : List Mark) (c : Controller) : Prop :=
  c.granted = false → ∀ t, c.safeSince = some t ↔ BlockSince ms t

theorem Tracks.congr (tracks : Tracks ms c) (granted : d.granted = c.granted)
    (since : d.safeSince = c.safeSince) : Tracks ms d := by
  intro outside t
  rw [since]
  exact tracks (granted.symm.trans outside) t

theorem tracks_broken (since : d.safeSince = none) : Tracks (.broken :: ms) d := by
  intro _ t
  rw [since]
  exact iff_of_false nofun not_blockSince_broken

theorem tracks_onEvent (tracks : Tracks ms c) (event : Event) (now : Timestamp) :
    Tracks ((c.mark? (.event event now)).toList ++ ms) (c.onEvent event now).1 := by
  cases running : c.running with
  | false =>
      simp only [mark?, onEvent, running]
      exact tracks.congr rfl rfl
  | true =>
      simp only [mark?, onEvent, running, Bool.not_true, Bool.false_eq_true, if_false]
      cases event with
      | approaching =>
          cases phase : c.phase with
          | approaching | entering =>
              simp only [approach, beginsEpisode, phase]
              exact tracks.congr rfl rfl
          | idle | exiting _ | aborted =>
              simp only [approach, beginsEpisode, phase]
              exact tracks_broken rfl
      | entering =>
          cases phase : c.phase with
          | idle | exiting _ =>
              simp only [enter, beginsEpisode, phase]
              exact tracks_broken rfl
          | approaching | entering | aborted =>
              simp only [enter, beginsEpisode, phase]
              refine tracks.congr ?_ ?_ <;> split <;> rfl
      | exiting => exact tracks_broken rfl
      | error => exact tracks.congr rfl rfl

theorem Tracks.blockSince_positive (tracks : Tracks ms c) (outside : c.granted = false) :
    BlockSince (.positive now :: ms) t ↔ c.safeSince.getD now = t := by
  rw [Controller.blockSince_positive]
  simp only [← tracks outside]
  cases c.safeSince with
  | none => simp [eq_comm]
  | some u => simp

/-- A tick that reads an answer starts, prolongs or breaks the block, unless it lets the vehicle
    in. -/
theorem tracks_act (tracks : Tracks ms c) (answer : Clearance) (now : Timestamp) :
    Tracks ((if answer.isSafe then .positive now else .broken) :: ms) (c.act answer now).1 := by
  by_cases admits : c.Admits answer now
  · obtain ⟨pacer, eq, -⟩ := act_admitted admits
    rw [eq]
    intro outside
    cases outside
  · rw [act_of_not_admits admits]
    obtain ⟨drive, pacer, eq, -⟩ := publish_eq ({ c with
      lastAnswer := some answer
      safeSince := if answer.isSafe then some (c.safeSince.getD now) else none } :
        Controller) answer now
    rw [eq]
    cases safe : answer.isSafe with
    | false => exact tracks_broken rfl
    | true =>
        intro outside t
        exact Option.some_inj.trans (tracks.blockSince_positive outside).symm

theorem tracks_pauseIfDue (tracks : Tracks ms c) (now : Timestamp) :
    Tracks ms (c.pauseIfDue now) := by
  obtain ⟨drive, phase, eq, -⟩ := c.pauseIfDue_eq now
  rw [eq]
  exact tracks.congr rfl rfl

theorem tracks_tick (tracks : Tracks ms c) (now : Timestamp) :
    Tracks ((c.mark? (.tick now)).toList ++ ms) (c.tick now).1 := by
  cases running : c.running with
  | false =>
      simp only [mark?, running, tick_of_stopped running]
      exact tracks.congr rfl rfl
  | true =>
      have kept : Tracks ms (c.forget now) := tracks.congr rfl rfl
      rw [tick_eq running]
      cases seeks : c.seeks with
      | true =>
          simp only [mark?, running, seeks]
          exact tracks_act kept _ now
      | false =>
          simp only [mark?, running, seeks]
          exact tracks_pauseIfDue kept now

theorem tracks_after (tracks : Tracks ms c) (input : Input) :
    Tracks ((c.mark? input).toList ++ ms) (c.after input) := by
  cases input with
  | event event now => exact tracks_onEvent tracks event now
  | tick now => exact tracks_tick tracks now
  | beacon b now =>
      change Tracks ms (c.onBeacon b now).1
      rw [onBeacon_eq]
      split
      · exact tracks.congr rfl rfl
      · exact tracks
  | progress metres =>
      change Tracks ms (c.onProgress metres)
      unfold onProgress
      split
      · exact tracks.congr rfl rfl
      · exact tracks

theorem tracks_afterAll (tracks : Tracks ms c) (inputs : List Input) :
    Tracks (c.marks inputs ++ ms) (c.afterAll inputs) := by
  induction inputs generalizing c ms with
  | nil => exact tracks
  | cons input rest ih =>
      have later := ih (tracks_after tracks input)
      rwa [← List.append_assoc] at later

theorem marks_concat (c : Controller) (inputs : List Input) (last : Input) :
    c.marks (inputs ++ [last]) = ((c.afterAll inputs).mark? last).toList ++ c.marks inputs := by
  induction inputs generalizing c with
  | nil => simp [marks, afterAll]
  | cons input rest ih =>
      simp only [List.cons_append, marks, ih, List.append_assoc]
      rfl

theorem tracks_ofPolicy (s : Settings) (policy : Policy) : Tracks [] (ofPolicy s policy) :=
  fun _ _ => iff_of_false nofun nofun

/-- What lets the vehicle in at a tick that follows some inputs: it is under way without access, and
    the answer that the tick reads holds already, or names no instant and ends a block of positive
    answers that is long enough. -/
structure Earns (start : Controller) (inputs : List Input) (now : Timestamp) : Prop where
  running : (start.afterAll inputs).running = true
  underway : (start.afterAll inputs).phase = .approaching ∨ (start.afterAll inputs).phase = .entering
  outside : (start.afterAll inputs).granted = false
  ripe : ((start.afterAll inputs).answerAt now).isImmediate now = true ∨
    ((start.afterAll inputs).answerAt now).isSafe = true ∧
      ((start.afterAll inputs).answerAt now).safeAt = .unscheduled ∧
      ∃ first, BlockSince (start.marks (inputs ++ [.tick now])) first ∧
        start.settings.minSafe.ms ≤ now.since first

/-- While a vehicle seeks access, a positive answer ends the block that the controller keeps. -/
theorem blockSince_marks (s : Settings) (policy : Policy) (inputs : List Input)
    (running : ((ofPolicy s policy).afterAll inputs).running = true)
    (seeks : ((ofPolicy s policy).afterAll inputs).seeks = true)
    (safe : (((ofPolicy s policy).afterAll inputs).answerAt now).isSafe = true) :
    BlockSince ((ofPolicy s policy).marks (inputs ++ [.tick now])) t ↔
      ((ofPolicy s policy).afterAll inputs).safeSince.getD now = t := by
  have tracks := tracks_afterAll (tracks_ofPolicy s policy) inputs
  rw [List.append_nil] at tracks
  rw [marks_concat]
  simp only [mark?, running, seeks, safe, Bool.and_self, if_true, Option.toList_some,
    List.singleton_append]
  exact tracks.blockSince_positive (seeks_iff.mp seeks).1

theorem admits_iff_earns (s : Settings) (policy : Policy) (inputs : List Input) (now : Timestamp) :
    (((ofPolicy s policy).afterAll inputs).running = true ∧
        ((ofPolicy s policy).afterAll inputs).seeks = true ∧
        ((ofPolicy s policy).afterAll inputs).Admits
          (((ofPolicy s policy).afterAll inputs).answerAt now) now) ↔
      (ofPolicy s policy).Earns inputs now := by
  have settings : ((ofPolicy s policy).afterAll inputs).settings = (ofPolicy s policy).settings :=
    settings_of_constants (constants_afterAll _ inputs)
  constructor
  · rintro ⟨running, seeks, admits⟩
    obtain ⟨outside, underway⟩ := seeks_iff.mp seeks
    refine ⟨running, underway, outside, ?_⟩
    rcases admits.ripe with due | ⟨never, held⟩
    · exact Or.inl (Bool.and_eq_true_iff.mpr ⟨admits.safe, decide_eq_true due⟩)
    · have block := (blockSince_marks s policy inputs running seeks admits.safe).mpr rfl
      rw [settings] at held
      exact Or.inr ⟨admits.safe, never, _, block, held⟩
  · rintro ⟨running, underway, outside, ripe⟩
    have seeks := seeks_iff.mpr ⟨outside, underway⟩
    refine ⟨running, seeks, ?_⟩
    rcases ripe with immediate | ⟨safe, never, first, block, held⟩
    · obtain ⟨safe, due⟩ := Bool.and_eq_true_iff.mp immediate
      exact ⟨safe, Or.inl (of_decide_eq_true due)⟩
    · obtain rfl := (blockSince_marks s policy inputs running seeks safe).mp block
      rw [← settings] at held
      exact ⟨safe, Or.inr ⟨never, held⟩⟩

theorem granted_of_committed (committed : (c.tick now).2 = some .committed) :
    (c.tick now).1.granted = true ∧ (c.tick now).1.status = .crossing := by
  obtain ⟨running, seeks, admits⟩ := tick_committed_iff.mp committed
  obtain ⟨pacer, eq, -⟩ := act_admitted ((admits_forget (t := now)).mpr admits)
  rw [tick_eq running, if_pos seeks]
  simp only [eq, status, and_self]

theorem granted_tick (waits : (c.tick now).2 ≠ some .committed) :
    (c.tick now).1.granted = c.granted := by
  cases running : c.running with
  | false => rw [tick_of_stopped running]
  | true =>
      rw [tick_eq running]
      split
      · next seeks =>
        have refused : ¬(c.forget now).Admits (c.answerAt now) now := by
          intro admits
          exact waits (tick_committed_iff.mpr ⟨running, seeks, admits_forget.mp admits⟩)
        obtain ⟨drive, pacer, since, eq, -⟩ := act_refused refused
        rw [eq]
        rfl
      · obtain ⟨drive, phase, eq, -⟩ := (c.forget now).pauseIfDue_eq now
        rw [eq]
        rfl

theorem granted_onEvent (outside : c.granted = false) (event : Event) (now : Timestamp) :
    (c.onEvent event now).1.granted = false := by
  unfold onEvent
  split
  · exact outside
  · cases event with
    | approaching =>
        simp only [approach]
        split
        · exact outside
        · exact outside
        · rfl
    | entering =>
        simp only [enter]
        split <;> split <;> first | rfl | exact outside
    | exiting => exact outside
    | error => exact outside

/-- Nothing but a tick that says so gives access. -/
theorem committed_of_granted (outside : c.granted = false) (input : Input)
    (inside : (c.after input).granted = true) :
    ∃ now, input = .tick now ∧ (c.tick now).2 = some .committed := by
  cases input with
  | tick now =>
      refine ⟨now, rfl, Classical.byContradiction fun waits => ?_⟩
      cases ((granted_tick waits).trans outside).symm.trans inside
  | event event now => cases (granted_onEvent outside event now).symm.trans inside
  | beacon b now =>
      have kept : (c.onBeacon b now).1.granted = c.granted := by
        rw [onBeacon_eq]
        split <;> rfl
      cases (kept.trans outside).symm.trans inside
  | progress metres =>
      have kept : (c.onProgress metres).granted = c.granted := by
        unfold onProgress
        split <;> rfl
      cases (kept.trans outside).symm.trans inside

/-- Whatever the policy and the settings, and whatever came before at whatever times: a tick lets
    the vehicle in exactly when the history has earned it, access is then marked and told to the
    peers, an answer for a later instant never lets the vehicle in, and no other input does. -/
theorem commits_iff_earned (s : Settings) (policy : Policy) (inputs : List Input)
    (now : Timestamp) :
    ((((ofPolicy s policy).afterAll inputs).tick now).2 = some .committed ↔
        (ofPolicy s policy).Earns inputs now) ∧
      ((((ofPolicy s policy).afterAll inputs).tick now).2 = some .committed →
        (((ofPolicy s policy).afterAll inputs).tick now).1.granted = true ∧
          (((ofPolicy s policy).afterAll inputs).tick now).1.status = .crossing) ∧
      ((((ofPolicy s policy).afterAll inputs).answerAt now).safeAt ≠ .unscheduled →
        now < (((ofPolicy s policy).afterAll inputs).answerAt now).safeAt →
          (((ofPolicy s policy).afterAll inputs).tick now).2 ≠ some .committed) ∧
      ∀ input, ((ofPolicy s policy).afterAll inputs).granted = false →
        (((ofPolicy s policy).afterAll inputs).after input).granted = true →
          ∃ t, input = .tick t ∧
            (((ofPolicy s policy).afterAll inputs).tick t).2 = some .committed := by
  refine ⟨?_, granted_of_committed, ?_, ?_⟩
  · exact tick_committed_iff.trans (admits_iff_earns s policy inputs now)
  · intro concrete later committed
    obtain ⟨-, -, admits⟩ := tick_committed_iff.mp committed
    rcases admits.ripe with due | ⟨never, -⟩
    · exact Timestamp.not_le.mpr later due
    · exact concrete never
  · intro input outside inside
    exact committed_of_granted outside input inside

end Junction.Controller
