import Junction.Proofs.Radio.Link
import Mathlib.Data.List.Induction

/-! # What a receiver hands on

While a receiver goes through the frames of a medium, more frames are sent, and the owner of the
inbox takes beacons out of it whenever it likes, or wants no more of them. However all this comes
about, what the receiver has put into the inbox are the beacons of frames sent since it began to
listen, each once and in the order of the medium. A frame is left out for one of few reasons, and
none of them holds the receiver up.
-/

namespace Junction

namespace Receiver

variable {m : Medium} {r : Receiver}

theorem step_of_stopped (stopped : r.state ≠ .active) : r.step m = r := by
  unfold step
  cases state : r.state with
  | active => exact absurd state stopped
  | ended => rfl
  | failed => rfl

theorem step_of_behind (active : r.state = .active)
    (behind : r.position + m.capacity < m.frames.length) :
    r.step m = { r with position := m.frames.length - m.capacity } := by
  simp only [step, active, Medium.receive, if_pos behind]

theorem state_step_eq_ended_iff (active : r.state = .active) :
    (r.step m).state = .ended ↔ m.isClosed = true ∧ m.frames.length ≤ r.position := by
  by_cases behind : r.position + m.capacity < m.frames.length
  · rw [step_of_behind active behind, active]
    simp only [reduceCtorEq, false_iff]
    omega
  · generalize stepped : r.step m = s
    have listens := listens_step m r
    rw [stepped] at listens
    cases listens with
    | rests done => exact absurd active done
    | waits _ _ going => simp [active, going]
    | ends _ silent closed => simpa [closed] using silent
    | skips _ far => exact absurd far behind
    | drops bytes _ heard =>
        have := (List.getElem?_eq_some_iff.mp heard).1
        simp only [active, reduceCtorEq, false_iff]
        omega
    | puts bytes b _ heard =>
        have := (List.getElem?_eq_some_iff.mp heard).1
        simp only [active, reduceCtorEq, false_iff]
        omega
    | fails bytes b _ heard =>
        have := (List.getElem?_eq_some_iff.mp heard).1
        simp only [reduceCtorEq, false_iff]
        omega

theorem state_step_eq_failed_iff (active : r.state = .active) :
    (r.step m).state = .failed ↔ m.frames.length ≤ r.position + m.capacity ∧
      ∃ bytes b, m.frames[r.position]? = some bytes ∧ Beacon.ofBytes bytes = .ok b ∧
        r.inbox.isOpen = false := by
  by_cases behind : r.position + m.capacity < m.frames.length
  · rw [step_of_behind active behind, active]
    simp only [reduceCtorEq, false_iff]
    omega
  · generalize stepped : r.step m = s
    have listens := listens_step m r
    rw [stepped] at listens
    have near := Nat.not_lt.mp behind
    cases listens with
    | rests done => exact absurd active done
    | waits _ silent => simp [active, silent]
    | ends _ silent => simp [silent]
    | skips _ far => exact absurd far behind
    | drops bytes _ heard reason =>
        simp only [active, heard, reduceCtorEq, false_iff]
        rintro ⟨-, other, b, same, read, gone⟩
        obtain rfl := Option.some.inj same
        obtain ⟨fault, unread⟩ | ⟨-, wanted, -⟩ := reason
        · cases unread.symm.trans read
        · cases wanted.symm.trans gone
    | puts bytes b _ _ _ wanted => simp [active, wanted]
    | fails bytes b _ heard read gone =>
        simp only [true_iff]
        exact ⟨near, bytes, b, heard, read, gone⟩

end Receiver

/-- A medium, and a receiver that fills the inbox of somebody. -/
structure Relay where
  medium : Medium
  receiver : Receiver

namespace Relay

/-- What can happen around a receiver. What it hears it offers to the inbox in the same move: those
    who send do not look at the inbox, and those who take from it do not look at the medium. -/
inductive Move where
  /-- A frame is sent, unless nobody can send any more. -/
  | send (bytes : List UInt8)
  /-- Nobody will send any more. -/
  | close
  /-- The receiver listens once. -/
  | listen
  /-- The oldest beacon is taken out of the inbox. -/
  | take
  /-- The owner of the inbox wants no more beacons. -/
  | leave
  deriving DecidableEq, Repr

def after (l : Relay) : Move → Relay
  | .send bytes => if l.medium.isClosed then l else { l with medium := l.medium.send bytes }
  | .close => { l with medium := l.medium.close }
  | .listen => { l with receiver := l.receiver.step l.medium }
  | .take =>
    { l with receiver :=
      { l.receiver with inbox :=
        { l.receiver.inbox with queue := l.receiver.inbox.queue.tail } } }
  | .leave =>
    { l with receiver := { l.receiver with inbox := { l.receiver.inbox with isOpen := false } } }

def afterAll (l : Relay) (moves : List Move) : Relay := moves.foldl after l

/-- A receiver that has just begun to listen, with room for so many beacons. -/
def begin (m : Medium) (room : Nat) : Relay := ⟨m, .subscribe m (.empty room)⟩

def takes (l : Relay) : Move → List Beacon
  | .take => l.receiver.inbox.queue.head?.toList
  | .send _ | .close | .listen | .leave => []

/-- What is taken out of the inbox in some moves, the first beacon first. -/
def taken (l : Relay) : List Move → List Beacon
  | [] => []
  | move :: rest => l.takes move ++ (l.after move).taken rest

/-- All that has been put into an inbox which was empty at the start: what was taken out of it, and
    what still waits. -/
def handed (l : Relay) (moves : List Move) : List Beacon :=
  l.taken moves ++ (l.afterAll moves).receiver.inbox.queue

/-- Somewhere among the moves the receiver, which has not stopped, listens in this state. -/
def Meets (start : Relay) (moves : List Move) (l : Relay) : Prop :=
  ∃ before behind, moves = before ++ .listen :: behind ∧ start.afterAll before = l ∧
    l.receiver.state = .active

/-- The receiver is about to hear the frame at this place. -/
structure Hears (l : Relay) (p : Nat) (bytes : List UInt8) : Prop where
  here : l.receiver.position = p
  kept : l.medium.frames.length ≤ p + l.medium.capacity
  sent : l.medium.frames[p]? = some bytes

/-- Why the receiver, as it listens in this state, goes on past a frame and hands nothing on. -/
inductive Loses (l : Relay) (p : Nat) : Prop where
  | malformed (bytes : List UInt8) (fault : WireFault) (hears : l.Hears p bytes)
      (unread : Beacon.ofBytes bytes = .error fault)
  /-- The medium does not keep the frame any more. -/
  | overtaken (onward : l.receiver.position ≤ p)
      (gone : p + l.medium.capacity < l.medium.frames.length)
  /-- The inbox is full. -/
  | crowded (bytes : List UInt8) (b : Beacon) (hears : l.Hears p bytes)
      (read : Beacon.ofBytes bytes = .ok b) (wanted : l.receiver.inbox.isOpen = true)
      (full : l.receiver.inbox.capacity ≤ l.receiver.inbox.queue.length)

/-- The frame at this place is the last that the receiver has heard, and it failed with it. -/
def FailsAt (l : Relay) (p : Nat) : Prop :=
  l.receiver.state = .failed ∧ p + 1 = l.receiver.position

variable {start l mid : Relay} {moves before : List Move} {move : Move} {places : List Nat}

theorem afterAll_concat (l : Relay) (moves : List Move) (move : Move) :
    l.afterAll (moves ++ [move]) = (l.afterAll moves).after move := by
  rw [afterAll, List.foldl_append]
  rfl

theorem taken_concat (l : Relay) (moves : List Move) (move : Move) :
    l.taken (moves ++ [move]) = l.taken moves ++ (l.afterAll moves).takes move := by
  induction moves generalizing l with
  | nil => simp [taken, afterAll]
  | cons first rest ih =>
      rw [List.cons_append, taken, ih, taken, List.append_assoc]
      rfl

theorem Meets.concat (meets : start.Meets moves mid) (move : Move) :
    start.Meets (moves ++ [move]) mid := by
  obtain ⟨before, behind, rfl, reached, active⟩ := meets
  exact ⟨before, behind ++ [move], by simp, reached, active⟩

theorem meets_listen (active : (start.afterAll moves).receiver.state = .active) :
    start.Meets (moves ++ [.listen]) (start.afterAll moves) :=
  ⟨moves, [], rfl, rfl, active⟩

theorem meets_concat_iff : start.Meets (moves ++ [move]) mid ↔
    start.Meets moves mid ∨
      move = .listen ∧ start.afterAll moves = mid ∧ mid.receiver.state = .active := by
  constructor
  · rintro ⟨before, behind, split, reached, active⟩
    cases behind using List.reverseRecOn with
    | nil =>
        obtain ⟨rfl, last⟩ := List.append_inj' split rfl
        exact Or.inr ⟨(List.cons.inj last).1, reached, active⟩
    | append_singleton behind last =>
        rw [← List.cons_append, ← List.append_assoc] at split
        obtain ⟨rfl, -⟩ := List.append_inj' split rfl
        exact Or.inl ⟨before, behind, rfl, reached, active⟩
  · rintro (meets | ⟨rfl, rfl, active⟩)
    · exact meets.concat move
    · exact meets_listen active

/-- The frames at these places are read as these beacons. -/
def Reads (m : Medium) (places : List Nat) (beacons : List Beacon) : Prop :=
  places.map (fun p => m.frames[p]?.map Beacon.ofBytes) = beacons.map fun b => some (.ok b)

/-- In a move the receiver goes past some frames. It hands on those at the new places, and loses the
    others. -/
structure Passes (l : Relay) (move : Move) (new : List Nat) : Prop where
  frames : l.medium.frames <+: (l.after move).medium.frames
  onward : l.receiver.position ≤ (l.after move).receiver.position
  within : (l.after move).receiver.position ≤ (l.after move).medium.frames.length
  ascending : new.Pairwise (· < ·)
  passed : ∀ p ∈ new, l.receiver.position ≤ p ∧ p < (l.after move).receiver.position
  handed : ∃ beacons, Reads (l.after move).medium new beacons ∧
    l.takes move ++ (l.after move).receiver.inbox.queue = l.receiver.inbox.queue ++ beacons
  lost : ∀ p, l.receiver.position ≤ p → p < (l.after move).receiver.position → p ∉ new →
    move = .listen ∧ l.receiver.state = .active ∧ l.Loses p ∨ (l.after move).FailsAt p

theorem passes_none (within : l.receiver.position ≤ l.medium.frames.length)
    (frames : l.medium.frames <+: (l.after move).medium.frames)
    (stays : (l.after move).receiver.position = l.receiver.position)
    (handed : l.takes move ++ (l.after move).receiver.inbox.queue = l.receiver.inbox.queue) :
    l.Passes move [] where
  frames := frames
  onward := Nat.le_of_eq stays.symm
  within := by
    rw [stays]
    exact Nat.le_trans within frames.length_le
  ascending := List.Pairwise.nil
  passed := nofun
  handed := ⟨[], rfl, by rw [handed, List.append_nil]⟩
  lost := by
    intro p low high
    omega

theorem passes_lost {bytes : List UInt8} (active : l.receiver.state = .active)
    (heard : l.medium.frames[l.receiver.position]? = some bytes)
    (passed : (l.receiver.step l.medium).position = l.receiver.position + 1)
    (kept : (l.receiver.step l.medium).inbox = l.receiver.inbox)
    (loses : l.Loses l.receiver.position ∨ (l.receiver.step l.medium).state = .failed) :
    l.Passes .listen [] where
  frames := List.prefix_refl _
  onward := by
    rw [after, passed]
    exact Nat.le_succ _
  within := by
    rw [after, passed]
    exact (List.getElem?_eq_some_iff.mp heard).1
  ascending := List.Pairwise.nil
  passed := nofun
  handed := ⟨[], rfl, by simp [after, takes, kept]⟩
  lost := by
    intro p low high _
    rw [after, passed] at high
    obtain rfl := Nat.le_antisymm low (Nat.le_of_lt_succ high)
    rcases loses with reason | failed
    · exact Or.inl ⟨rfl, active, reason⟩
    · exact Or.inr ⟨failed, passed.symm⟩

theorem passes_handed {bytes : List UInt8} {b : Beacon}
    (heard : l.medium.frames[l.receiver.position]? = some bytes)
    (read : Beacon.ofBytes bytes = .ok b)
    (passed : (l.receiver.step l.medium).position = l.receiver.position + 1)
    (put : (l.receiver.step l.medium).inbox.queue = l.receiver.inbox.queue ++ [b]) :
    l.Passes .listen [l.receiver.position] where
  frames := List.prefix_refl _
  onward := by
    rw [after, passed]
    exact Nat.le_succ _
  within := by
    rw [after, passed]
    exact (List.getElem?_eq_some_iff.mp heard).1
  ascending := List.pairwise_singleton _ _
  passed := by
    intro p member
    rw [List.mem_singleton.mp member, after, passed]
    exact ⟨Nat.le_refl _, Nat.lt_succ_self _⟩
  handed := ⟨[b], by simp [Reads, after, heard, read], by simp [after, takes, put]⟩
  lost := by
    intro p low high other
    rw [after, passed] at high
    exact absurd (List.mem_singleton.mpr (Nat.le_antisymm (Nat.le_of_lt_succ high) low)) other

theorem passes_skipped (active : l.receiver.state = .active)
    (behind : l.receiver.position + l.medium.capacity < l.medium.frames.length) :
    l.Passes .listen [] := by
  have skips := Receiver.step_of_behind active behind
  have place : (l.after .listen).receiver.position =
      l.medium.frames.length - l.medium.capacity := by
    rw [after, skips]
  refine ⟨List.prefix_refl _, by omega, ?_, List.Pairwise.nil, nofun, ⟨[], rfl, ?_⟩, ?_⟩
  · rw [place]
    exact Nat.sub_le _ _
  · simp [after, takes, skips]
  · intro p low high _
    exact Or.inl ⟨rfl, active, .overtaken low (by omega)⟩

theorem passes_listen (within : l.receiver.position ≤ l.medium.frames.length) :
    ∃ new, l.Passes .listen new := by
  by_cases behind : l.receiver.state = .active ∧
      l.receiver.position + l.medium.capacity < l.medium.frames.length
  · exact ⟨[], passes_skipped behind.1 behind.2⟩
  · generalize stepped : l.receiver.step l.medium = s
    have listens := Receiver.listens_step l.medium l.receiver
    rw [stepped] at listens
    have hears : ∀ bytes, l.receiver.state = .active →
        l.medium.frames[l.receiver.position]? = some bytes → l.Hears l.receiver.position bytes :=
      fun bytes active heard => ⟨rfl, Nat.not_lt.mp fun far => behind ⟨active, far⟩, heard⟩
    have same : l.medium.frames <+: (l.after .listen).medium.frames := List.prefix_refl _
    cases listens with
    | rests | waits | ends =>
        exact ⟨[], passes_none within same (by rw [after, stepped]) (by simp [after, takes, stepped])⟩
    | skips active far => exact absurd ⟨active, far⟩ behind
    | drops bytes active heard reason =>
        refine ⟨[], passes_lost active heard (by rw [stepped]) (by rw [stepped]) ?_⟩
        obtain ⟨fault, unread⟩ | ⟨⟨b, read⟩, wanted, full⟩ := reason
        · exact Or.inl (.malformed bytes fault (hears bytes active heard) unread)
        · exact Or.inl (.crowded bytes b (hears bytes active heard) read wanted full)
    | puts bytes b active heard read =>
        exact ⟨[_], passes_handed heard read (by rw [stepped]) (by rw [stepped])⟩
    | fails bytes b active heard read gone =>
        exact ⟨[], passes_lost active heard (by rw [stepped]) (by rw [stepped])
          (Or.inr (by rw [stepped]))⟩

/-- Whatever happens, the receiver goes past frames in this way only. -/
theorem passes_after (within : l.receiver.position ≤ l.medium.frames.length) (move : Move) :
    ∃ new, l.Passes move new := by
  cases move with
  | send bytes =>
      refine ⟨[], passes_none within ?_ ?_ ?_⟩
      all_goals cases closed : l.medium.isClosed <;> simp [after, takes, closed, Medium.send]
  | close => exact ⟨[], passes_none within (List.prefix_refl _) rfl rfl⟩
  | listen => exact passes_listen within
  | take =>
      refine ⟨[], passes_none within (List.prefix_refl _) rfl ?_⟩
      cases waiting : l.receiver.inbox.queue <;> simp [takes, after, waiting]
  | leave => exact ⟨[], passes_none within (List.prefix_refl _) rfl rfl⟩

theorem after_of_stopped (stopped : l.receiver.state ≠ .active) (move : Move) :
    (l.after move).receiver.state = l.receiver.state ∧
      (l.after move).receiver.position = l.receiver.position := by
  cases move with
  | send bytes =>
      simp only [after]
      split <;> exact ⟨rfl, rfl⟩
  | close | take | leave => exact ⟨rfl, rfl⟩
  | listen =>
      rw [after, Receiver.step_of_stopped stopped]
      exact ⟨rfl, rfl⟩

theorem state_after_of_stopped (stopped : l.receiver.state ≠ .active) (move : Move) :
    (l.after move).receiver.state = l.receiver.state :=
  (after_of_stopped stopped move).1

theorem FailsAt.after {p : Nat} (fails : l.FailsAt p) (move : Move) : (l.after move).FailsAt p := by
  have stopped : l.receiver.state ≠ .active := by simp [fails.1]
  obtain ⟨state, position⟩ := after_of_stopped stopped move
  exact ⟨state.trans fails.1, fails.2.trans position.symm⟩

/-- Since the start, the receiver has handed on the frames at these places. It is through with some
    others, and has lost them. -/
structure Account (start : Relay) (moves : List Move) (places : List Nat) : Prop where
  onward : start.receiver.position ≤ (start.afterAll moves).receiver.position
  within : (start.afterAll moves).receiver.position ≤
    (start.afterAll moves).medium.frames.length
  ascending : places.Pairwise (· < ·)
  passed : ∀ p ∈ places, start.receiver.position ≤ p ∧
    p < (start.afterAll moves).receiver.position
  handed : Reads (start.afterAll moves).medium places (start.handed moves)
  lost : ∀ p, start.receiver.position ≤ p → p < (start.afterAll moves).receiver.position →
    p ∉ places → (∃ mid, start.Meets moves mid ∧ mid.Loses p) ∨ (start.afterAll moves).FailsAt p

theorem Reads.mono {m later : Medium} {beacons : List Beacon} (reads : Reads m places beacons)
    (inside : ∀ p ∈ places, p < m.frames.length) (frames : m.frames <+: later.frames) :
    Reads later places beacons := by
  rw [Reads, ← reads]
  apply List.map_congr_left
  intro p member
  obtain ⟨more, appended⟩ := frames
  rw [← appended, List.getElem?_append_left (inside p member)]

theorem Reads.append {m : Medium} {new : List Nat} {beacons more : List Beacon}
    (reads : Reads m places beacons) (others : Reads m new more) :
    Reads m (places ++ new) (beacons ++ more) := by
  rw [Reads, List.map_append, List.map_append, reads, others]

theorem handed_concat {beacons : List Beacon}
    (puts : (start.afterAll moves).takes move ++
      ((start.afterAll moves).after move).receiver.inbox.queue =
        (start.afterAll moves).receiver.inbox.queue ++ beacons) :
    start.handed (moves ++ [move]) = start.handed moves ++ beacons := by
  rw [handed, taken_concat, afterAll_concat, List.append_assoc, puts, ← List.append_assoc]
  rfl

namespace Account

theorem concat (account : Account start moves places) {new : List Nat}
    (passes : (start.afterAll moves).Passes move new) :
    Account start (moves ++ [move]) (places ++ new) := by
  obtain ⟨beacons, reads, puts⟩ := passes.handed
  have inside : ∀ p ∈ places, p < (start.afterAll moves).medium.frames.length :=
    fun p old => Nat.lt_of_lt_of_le (account.passed p old).2 account.within
  constructor
  · rw [afterAll_concat]
    exact Nat.le_trans account.onward passes.onward
  · rw [afterAll_concat]
    exact passes.within
  · refine List.pairwise_append.mpr ⟨account.ascending, passes.ascending, ?_⟩
    intro p old q fresh
    exact Nat.lt_of_lt_of_le (account.passed p old).2 (passes.passed q fresh).1
  · intro p member
    rw [afterAll_concat]
    rcases List.mem_append.mp member with old | fresh
    · obtain ⟨low, high⟩ := account.passed p old
      exact ⟨low, Nat.lt_of_lt_of_le high passes.onward⟩
    · obtain ⟨low, high⟩ := passes.passed p fresh
      exact ⟨Nat.le_trans account.onward low, high⟩
  · rw [handed_concat puts, afterAll_concat]
    exact (account.handed.mono inside passes.frames).append reads
  · intro p low high missing
    rw [List.mem_append, not_or] at missing
    rw [afterAll_concat] at high
    by_cases old : p < (start.afterAll moves).receiver.position
    · obtain ⟨mid, meets, loses⟩ | fails := account.lost p low old missing.1
      · exact Or.inl ⟨mid, meets.concat move, loses⟩
      · rw [afterAll_concat]
        exact Or.inr (fails.after move)
    · obtain ⟨rfl, active, loses⟩ | fails := passes.lost p (Nat.not_lt.mp old) high missing.2
      · exact Or.inl ⟨_, meets_listen active, loses⟩
      · rw [afterAll_concat]
        exact Or.inr fails

end Account

/-- Whatever happens, there is an account of it. -/
theorem exists_account (within : start.receiver.position ≤ start.medium.frames.length)
    (empty : start.receiver.inbox.queue = []) (moves : List Move) :
    ∃ places, Account start moves places := by
  induction moves using List.reverseRecOn with
  | nil =>
      refine ⟨[], Nat.le_refl _, within, List.Pairwise.nil, by simp, ?_, ?_⟩
      · simp [Reads, handed, taken, afterAll, empty]
      · intro p low high
        exact absurd high (Nat.not_lt.mpr low)
  | append_singleton moves move ih =>
      obtain ⟨places, account⟩ := ih
      obtain ⟨new, passes⟩ := passes_after account.within move
      exact ⟨_, account.concat passes⟩

theorem state_after_of_ne_listen (other : move ≠ .listen) :
    (l.after move).receiver.state = l.receiver.state := by
  cases move with
  | send bytes =>
      simp only [after]
      split <;> rfl
  | close => rfl
  | listen => exact absurd rfl other
  | take => rfl
  | leave => rfl

/-- A receiver has stopped in some way just if it has listened in a state in which listening makes
    it stop in that way. -/
theorem state_eq_iff_meets {stop : Listening} {why : Relay → Prop} (stops : stop ≠ .active)
    (begun : start.receiver.state = .active)
    (listens : ∀ l, l.receiver.state = .active →
      ((l.after .listen).receiver.state = stop ↔ why l)) (moves : List Move) :
    (start.afterAll moves).receiver.state = stop ↔ ∃ mid, start.Meets moves mid ∧ why mid := by
  induction moves using List.reverseRecOn with
  | nil =>
      constructor
      · intro stopped
        exact absurd (stopped.symm.trans begun) stops
      · rintro ⟨mid, ⟨before, behind, split, -⟩, -⟩
        simp at split
  | append_singleton moves move ih =>
      simp only [afterAll_concat, meets_concat_iff, or_and_right, exists_or, ← ih]
      constructor
      · intro stopped
        by_cases active : (start.afterAll moves).receiver.state = .active
        · by_cases listen : move = .listen
          · subst listen
            exact Or.inr ⟨_, ⟨rfl, rfl, active⟩, (listens _ active).mp stopped⟩
          · rw [state_after_of_ne_listen listen, active] at stopped
            exact absurd stopped.symm stops
        · rw [state_after_of_stopped active] at stopped
          exact Or.inl stopped
      · rintro (stopped | ⟨mid, ⟨rfl, rfl, active⟩, reason⟩)
        · rw [state_after_of_stopped (stopped ▸ stops)]
          exact stopped
        · exact (listens _ active).mpr reason

theorem ended_iff (begun : start.receiver.state = .active) (moves : List Move) :
    (start.afterAll moves).receiver.state = .ended ↔ ∃ mid, start.Meets moves mid ∧
      mid.medium.isClosed = true ∧ mid.medium.frames.length ≤ mid.receiver.position :=
  state_eq_iff_meets (by simp) begun (fun _ => Receiver.state_step_eq_ended_iff) moves

theorem failed_iff (begun : start.receiver.state = .active) (moves : List Move) :
    (start.afterAll moves).receiver.state = .failed ↔ ∃ mid, start.Meets moves mid ∧
      ∃ p bytes b, mid.Hears p bytes ∧ Beacon.ofBytes bytes = .ok b ∧
        mid.receiver.inbox.isOpen = false := by
  refine state_eq_iff_meets (by simp) begun ?_ moves
  intro l active
  rw [after, Receiver.state_step_eq_failed_iff active]
  constructor
  · rintro ⟨near, bytes, b, heard, read, gone⟩
    exact ⟨_, bytes, b, ⟨rfl, near, heard⟩, read, gone⟩
  · rintro ⟨_, bytes, b, ⟨rfl, near, heard⟩, read, gone⟩
    exact ⟨near, bytes, b, heard, read, gone⟩

/-- A receiver that has ended has heard all that is ever sent. -/
def Settled (l : Relay) : Prop :=
  l.receiver.state = .ended →
    l.medium.isClosed = true ∧ l.medium.frames.length ≤ l.receiver.position

theorem Settled.after (settled : l.Settled) (move : Move) : (l.after move).Settled := by
  cases move with
  | send bytes =>
      simp only [Relay.after]
      split
      · exact settled
      · next going => exact fun ended => absurd (settled ended).1 going
  | close => exact fun ended => ⟨rfl, (settled ended).2⟩
  | listen =>
      intro ended
      have listens := Receiver.listens_step l.medium l.receiver
      simp only [Relay.after] at ended ⊢
      generalize l.receiver.step l.medium = s at listens ended ⊢
      cases listens with
      | rests => exact settled ended
      | waits active | skips active | drops _ active | puts _ _ active =>
          cases active.symm.trans ended
      | ends _ silent closed => exact ⟨closed, List.getElem?_eq_none_iff.mp silent⟩
      | fails => cases ended
  | take => exact settled
  | leave => exact settled

theorem Settled.afterAll (settled : l.Settled) (moves : List Move) :
    (l.afterAll moves).Settled := by
  induction moves generalizing l with
  | nil => exact settled
  | cons move rest ih => exact ih (settled.after move)

theorem medium_after_of_closed (closed : l.medium.isClosed = true) (move : Move) :
    (l.after move).medium = l.medium := by
  cases move with
  | send bytes => simp [after, closed]
  | close => simp [after, Medium.close, ← closed]
  | listen => rfl
  | take => rfl
  | leave => rfl

theorem advances (active : l.receiver.state = .active)
    (left : l.receiver.position < l.medium.frames.length) :
    (l.after .listen).receiver.state = .failed ∨
      l.receiver.position < (l.after .listen).receiver.position := by
  by_cases behind : l.receiver.position + l.medium.capacity < l.medium.frames.length
  · rw [after, Receiver.step_of_behind active behind]
    right
    simp only
    omega
  · generalize stepped : l.receiver.step l.medium = s
    have listens := Receiver.listens_step l.medium l.receiver
    rw [stepped] at listens
    rw [after, stepped]
    cases listens with
    | rests done => exact absurd active done
    | waits _ silent | ends _ silent =>
        exact absurd (List.getElem?_eq_none_iff.mp silent) (Nat.not_le.mpr left)
    | skips _ far => exact absurd far behind
    | drops | puts => exact Or.inr (Nat.lt_succ_self _)
    | fails => exact Or.inl rfl

theorem position_le_after (within : l.receiver.position ≤ l.medium.frames.length) (move : Move) :
    l.receiver.position ≤ (l.after move).receiver.position := by
  obtain ⟨new, passes⟩ := passes_after within move
  exact passes.onward

theorem position_le_length_after (within : l.receiver.position ≤ l.medium.frames.length)
    (move : Move) : (l.after move).receiver.position ≤ (l.after move).medium.frames.length := by
  obtain ⟨new, passes⟩ := passes_after within move
  exact passes.within

theorem length_le_after (within : l.receiver.position ≤ l.medium.frames.length) (move : Move) :
    l.medium.frames.length ≤ (l.after move).medium.frames.length := by
  obtain ⟨new, passes⟩ := passes_after within move
  exact passes.frames.length_le

theorem state_afterAll_of_stopped (stopped : l.receiver.state ≠ .active) (moves : List Move) :
    (l.afterAll moves).receiver.state = l.receiver.state := by
  induction moves generalizing l with
  | nil => rfl
  | cons move rest ih =>
      have same := state_after_of_stopped stopped move
      exact (ih (same ▸ stopped)).trans same

/-- Of the frames that have been sent the receiver is through with one for each time that it has
    listened since, if it has not failed. -/
theorem keeps_up (within : l.receiver.position ≤ l.medium.frames.length) (settled : l.Settled)
    (more : List Move) {n : Nat} (sent : n ≤ l.medium.frames.length)
    (enough : n ≤ l.receiver.position + more.count .listen) :
    (l.afterAll more).receiver.state = .failed ∨ n ≤ (l.afterAll more).receiver.position := by
  induction more generalizing l with
  | nil => exact Or.inr enough
  | cons move rest ih =>
      by_cases failed : (l.after move).receiver.state = .failed
      · exact Or.inl ((state_afterAll_of_stopped (by simp [failed]) rest).trans failed)
      · have onward := position_le_after within move
        refine ih (position_le_length_after within move) (settled.after move)
          (Nat.le_trans sent (length_le_after within move)) ?_
        by_cases listens : move = .listen
        · subst listens
          rw [List.count_cons_self] at enough
          by_cases left : l.receiver.position < l.medium.frames.length
          · cases state : l.receiver.state with
            | active =>
                have further := (advances state left).resolve_left failed
                omega
            | ended => exact absurd (settled state).2 (Nat.not_le.mpr left)
            | failed =>
                exact absurd ((state_after_of_stopped (by simp [state]) _).trans state) failed
          · omega
        · rw [List.count_cons_of_ne listens] at enough
          omega

/-- Once nobody sends any more the receiver stops, at the latest when it listens once more than
    there are frames left. -/
theorem stops_of_closed (within : l.receiver.position ≤ l.medium.frames.length)
    (closed : l.medium.isClosed = true) (more : List Move)
    (enough : l.medium.frames.length < l.receiver.position + more.count .listen) :
    (l.afterAll more).receiver.state ≠ .active := by
  induction more generalizing l with
  | nil => exact absurd enough (Nat.not_lt.mpr within)
  | cons move rest ih =>
      by_cases stopped : (l.after move).receiver.state ≠ .active
      · exact (state_afterAll_of_stopped stopped rest) ▸ stopped
      · have active := Classical.not_not.mp stopped
        have onward := position_le_after within move
        have same := medium_after_of_closed closed move
        refine ih (position_le_length_after within move) (same ▸ closed) ?_
        rw [same]
        by_cases listens : move = .listen
        · subst listens
          rw [List.count_cons_self] at enough
          have before : l.receiver.state = .active := by
            by_contra gone
            exact gone ((state_after_of_stopped gone _).symm.trans active)
          by_cases left : l.receiver.position < l.medium.frames.length
          · have further := (advances before left).resolve_left (by simp [active])
            omega
          · have ended := (Receiver.state_step_eq_ended_iff before).mpr ⟨closed, Nat.not_lt.mp left⟩
            cases ended.symm.trans active
        · rw [List.count_cons_of_ne listens] at enough
          omega

/-- However the frames, whatever bytes they are, come onto the medium, and however the inbox is
    emptied: what the receiver has put into it are the beacons that are read from frames sent since
    it began to listen, in their order and each once. Any other frame that it is through with is no
    beacon, was gone from the medium before it listened again, or found the inbox full; or else the
    receiver failed with that frame. It ends just if it listens when the medium is closed and all
    has been heard, and fails just if it hears a beacon when the inbox is closed. Nothing else holds
    it up: when it has listened as often as there were frames left it is through with them, and once
    more is enough for it to stop when the medium is closed. -/
theorem hands_on_in_order (m : Medium) (room : Nat) (moves : List Move) :
    let start := begin m room
    let l := start.afterAll moves
    (∃ places : List Nat, places.Pairwise (· < ·) ∧
        (∀ p ∈ places, m.frames.length ≤ p ∧ p < l.receiver.position) ∧
        Reads l.medium places (start.handed moves) ∧
        ∀ p, m.frames.length ≤ p → p < l.receiver.position → p ∉ places →
          (∃ mid, start.Meets moves mid ∧ mid.Loses p) ∨ l.FailsAt p) ∧
      (l.receiver.state = .ended ↔ ∃ mid, start.Meets moves mid ∧ mid.medium.isClosed = true ∧
        mid.medium.frames.length ≤ mid.receiver.position) ∧
      (l.receiver.state = .failed ↔ ∃ mid, start.Meets moves mid ∧ ∃ p bytes b,
        mid.Hears p bytes ∧ Beacon.ofBytes bytes = .ok b ∧ mid.receiver.inbox.isOpen = false) ∧
      ∀ more, l.medium.frames.length ≤ l.receiver.position + more.count .listen →
        ((l.afterAll more).receiver.state = .failed ∨
            l.medium.frames.length ≤ (l.afterAll more).receiver.position) ∧
          (l.medium.isClosed = true →
            (l.afterAll (more ++ [.listen])).receiver.state ≠ .active) := by
  intro start l
  have settled : l.Settled := Settled.afterAll (fun ended => by cases ended) moves
  obtain ⟨places, account⟩ : ∃ places, Account start moves places :=
    exists_account (Nat.le_refl _) rfl moves
  refine ⟨⟨places, account.ascending, account.passed, account.handed, account.lost⟩,
    ended_iff rfl moves, failed_iff rfl moves, ?_⟩
  intro more enough
  refine ⟨keeps_up account.within settled more (Nat.le_refl _) enough, ?_⟩
  intro closed
  refine stops_of_closed account.within closed (more ++ [.listen]) ?_
  rw [List.count_append, List.count_singleton_self]
  exact Nat.lt_succ_of_le enough

def fromSouth (k : UInt64) : Beacon :=
  { Beacon.idle ⟨3⟩ .serial ⟨⟨"S"⟩, ⟨"N"⟩⟩ with status := .requesting, sequence := k }

/-- The medium keeps two frames, and there is room for one beacon. First some bytes come in that are
    no beacon, then three beacons at once, one more when there is room again, and then an end. -/
def withLosses : List Move := [
  .send [0xde, 0xad],
  .listen,
  .send (fromSouth 0).toBytes,
  .send (fromSouth 1).toBytes,
  .send (fromSouth 2).toBytes,
  .listen,
  .listen,
  .listen,
  .take,
  .send (fromSouth 3).toBytes,
  .close,
  .listen]

/-- The first beacon is gone before it is heard, and the third finds no room. -/
theorem hands_on_in_order_withLosses :
    let start := begin (.ofCapacity 2) 1
    let l := start.afterAll withLosses
    start.handed withLosses = [fromSouth 1, fromSouth 3] ∧
      (∃ places : List Nat, places.Pairwise (· < ·) ∧
        Reads l.medium places [fromSouth 1, fromSouth 3]) ∧
      (l.afterAll [.listen]).receiver.state ≠ .active := by
  have handed : (begin (.ofCapacity 2) 1).handed withLosses = [fromSouth 1, fromSouth 3] := by
    decide +kernel
  obtain ⟨⟨places, ascending, -, reads, -⟩, -, -, goes⟩ :=
    hands_on_in_order (.ofCapacity 2) 1 withLosses
  rw [handed] at reads
  have heard : ((begin (.ofCapacity 2) 1).afterAll withLosses).medium.frames.length ≤
      ((begin (.ofCapacity 2) 1).afterAll withLosses).receiver.position + [].count Move.listen := by
    decide +kernel
  have closed : ((begin (.ofCapacity 2) 1).afterAll withLosses).medium.isClosed = true := by
    decide +kernel
  exact ⟨handed, ⟨places, ascending, reads⟩, (goes [] heard).2 closed⟩

end Relay

end Junction
