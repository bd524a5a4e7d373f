import Junction.Proofs.Beacon.RoundTrip
import Junction.Proofs.Neighbor.Reception
import Junction.Radio.Receiver
import Junction.Radio.Transmitter

/-! # From one vehicle to the table of another

A transmitter sends what its vehicle publishes, the medium keeps so many frames, a receiver puts
what it hears into an inbox that has so much room, and a vehicle takes beacons out of it into its
table. Much can be lost on the way. What gets through comes in the order in which it was sent, and
so it is never taken for something late.
-/

namespace Junction

namespace Receiver

/-- What can become of a receiver that listens to a medium. -/
inductive Listens (m : Medium) (r : Receiver) : Receiver → Prop where
  /-- It does not listen any more. -/
  | rests (done : r.state ≠ .active) : Listens m r r
  | waits (active : r.state = .active) (silent : m.frames[r.position]? = none)
      (going : m.isClosed = false) : Listens m r r
  | ends (active : r.state = .active) (silent : m.frames[r.position]? = none)
      (closed : m.isClosed = true) : Listens m r { r with state := .ended }
  /-- It has fallen behind. -/
  | skips (active : r.state = .active) (behind : r.position + m.capacity < m.frames.length) :
      Listens m r { r with position := m.frames.length - m.capacity }
  /-- The frame is no beacon, or there is no room for it. -/
  | drops (bytes : List UInt8) (active : r.state = .active)
      (heard : m.frames[r.position]? = some bytes)
      (reason : (∃ fault, Beacon.ofBytes bytes = .error fault) ∨
        (∃ b, Beacon.ofBytes bytes = .ok b) ∧ r.inbox.isOpen = true ∧
          r.inbox.capacity ≤ r.inbox.queue.length) :
      Listens m r { r with position := r.position + 1 }
  | puts (bytes : List UInt8) (b : Beacon) (active : r.state = .active)
      (heard : m.frames[r.position]? = some bytes) (read : Beacon.ofBytes bytes = .ok b)
      (taken : r.inbox.isOpen = true) (room : r.inbox.queue.length < r.inbox.capacity) :
      Listens m r
        { r with
          position := r.position + 1
          inbox := { r.inbox with queue := r.inbox.queue ++ [b] } }
  /-- There is nobody to hand the beacon to. -/
  | fails (bytes : List UInt8) (b : Beacon) (active : r.state = .active)
      (heard : m.frames[r.position]? = some bytes) (read : Beacon.ofBytes bytes = .ok b)
      (gone : r.inbox.isOpen = false) :
      Listens m r { r with position := r.position + 1, state := .failed }

theorem listens_accept {m : Medium} {r : Receiver} {bytes : List UInt8}
    (active : r.state = .active) (heard : m.frames[r.position]? = some bytes) :
    r.Listens m (accept { r with position := r.position + 1 } bytes) := by
  unfold accept
  cases read : Beacon.ofBytes bytes with
  | error fault => exact .drops bytes active heard (Or.inl ⟨fault, read⟩)
  | ok b =>
      simp only [Inbox.offer]
      cases taken : r.inbox.isOpen with
      | false => exact .fails bytes b active heard read taken
      | true =>
          by_cases full : r.inbox.capacity ≤ r.inbox.queue.length
          · simp only [Bool.not_true, Bool.false_eq_true, if_false, if_pos full]
            exact .drops bytes active heard (Or.inr ⟨⟨b, read⟩, taken, full⟩)
          · simp only [Bool.not_true, Bool.false_eq_true, if_false, if_neg full]
            simpa only [taken] using
              Listens.puts bytes b active heard read taken (Nat.not_le.mp full)

theorem listens_step (m : Medium) (r : Receiver) : r.Listens m (r.step m) := by
  unfold step
  cases active : r.state with
  | ended => exact .rests (by simp [active])
  | failed => exact .rests (by simp [active])
  | active =>
      simp only [Medium.receive]
      by_cases behind : r.position + m.capacity < m.frames.length
      · simp only [if_pos behind]
        have skipped := Listens.skips active behind
        rwa [active] at skipped
      · simp only [if_neg behind]
        cases heard : m.frames[r.position]? with
        | some bytes =>
            have listened := listens_accept active heard
            rwa [active] at listened
        | none =>
            cases closed : m.isClosed with
            | true => exact .ends active heard closed
            | false => exact .waits active heard closed

end Receiver

/-- What one vehicle publishes and sends, and another one hears. -/
structure Link where
  published : Beacon
  transmitter : Transmitter
  medium : Medium
  receiver : Receiver
  /-- The table of the vehicle that hears. -/
  table : NeighborTable

namespace Link

/-- What can happen on a link. -/
inductive Move where
  /-- Another beacon is published. -/
  | publish (b : Beacon)
  /-- What is published is sent. -/
  | send
  /-- The receiver listens once. -/
  | listen
  /-- The next frame does not get through to the receiver. -/
  | miss
  /-- The oldest beacon of the inbox goes into the table. -/
  | take (now : Timestamp)

def after (l : Link) : Move → Link
  | .publish b => { l with published := b }
  | .send =>
    let (frame, transmitter) := l.transmitter.stamp l.published
    { l with transmitter, medium := l.medium.send frame.toBytes }
  | .listen => { l with receiver := l.receiver.step l.medium }
  | .miss => { l with receiver := { l.receiver with position := l.receiver.position + 1 } }
  | .take now =>
    match l.receiver.inbox.queue with
    | [] => l
    | b :: rest =>
      { l with
        receiver := { l.receiver with inbox := { l.receiver.inbox with queue := rest } }
        table := (l.table.update b now).1 }

def afterAll (l : Link) (moves : List Move) : Link := moves.foldl after l

def begin (t : Transmitter) (published : Beacon) (m : Medium) (room : Nat) (table : NeighborTable) :
    Link where
  published
  transmitter := t
  medium := m
  receiver := .subscribe m (.empty room)
  table

/-- What is sent in a move, as it was published. -/
def emits (l : Link) : Move → List Beacon
  | .send => [l.published]
  | .publish _ | .listen | .miss | .take _ => []

/-- What is sent in some moves, the first one first. -/
def sends (l : Link) : List Move → List Beacon
  | [] => []
  | move :: rest => l.emits move ++ (l.after move).sends rest

/-- A beacon that carries the number of its transmission. -/
def numbered (k : Nat) (b : Beacon) : Beacon := { b with sequence := UInt64.ofNat k }

/-- A vehicle says something under its own name, and what it says fits into a frame. -/
structure Speaks (v : VehicleId) (b : Beacon) : Prop where
  sender : b.sender = v
  fits : b.Fits

/-- The frames that were on the medium at the start are followed by what was sent since, each with
    its number. -/
structure Airs (old : List (List UInt8)) (v : VehicleId) (sent : List Beacon) (l : Link) :
    Prop where
  counted : l.transmitter.sequence = UInt64.ofNat sent.length
  aired : l.medium.frames = old ++ (sent.mapIdx numbered).map Beacon.toBytes
  speaks : Speaks v l.published
  spoken : ∀ b ∈ sent, Speaks v b

/-- A beacon is the transmission whose number it carries. -/
def IsAmong (b : Beacon) (sent : List Beacon) : Prop :=
  ∃ c, sent[b.sequence.toNat]? = some c ∧ b = numbered b.sequence.toNat c

variable {old : List (List UInt8)} {v : VehicleId} {sent : List Beacon} {l : Link} {b : Beacon}

theorem IsAmong.append (among : IsAmong b sent) (more : List Beacon) :
    IsAmong b (sent ++ more) := by
  obtain ⟨c, said, same⟩ := among
  have inside := (List.getElem?_eq_some_iff.mp said).1
  exact ⟨c, (List.getElem?_append_left inside).trans said, same⟩

theorem IsAmong.sender (among : IsAmong b sent) (spoken : ∀ c ∈ sent, Speaks v c) :
    b.sender = v := by
  obtain ⟨c, said, same⟩ := among
  rw [same]
  exact (spoken c (List.mem_of_getElem? said)).sender

namespace Airs

theorem publish (airs : Airs old v sent l) (speaks : Speaks v b) :
    Airs old v sent (l.after (.publish b)) :=
  ⟨airs.counted, airs.aired, speaks, airs.spoken⟩

theorem send (airs : Airs old v sent l) :
    Airs old v (sent ++ [l.published]) (l.after .send) where
  counted := by
    simp [Link.after, Transmitter.stamp, airs.counted]
  aired := by
    simp [Link.after, Transmitter.stamp, Medium.send, airs.counted, airs.aired, numbered]
  speaks := airs.speaks
  spoken := by
    intro b member
    rcases List.mem_append.mp member with old | new
    · exact airs.spoken b old
    · rw [List.mem_singleton.mp new]
      exact airs.speaks

theorem aside (airs : Airs old v sent l) {receiver : Receiver} {table : NeighborTable} :
    Airs old v sent { l with receiver, table } :=
  ⟨airs.counted, airs.aired, airs.speaks, airs.spoken⟩

theorem frame (airs : Airs old v sent l) {k : Nat} {c : Beacon} (said : sent[k]? = some c) :
    l.medium.frames[old.length + k]? = some (numbered k c).toBytes := by
  rw [airs.aired, List.getElem?_append_right (Nat.le_add_right _ _), Nat.add_sub_cancel_left,
    List.getElem?_map, List.getElem?_mapIdx, said, Option.map_some, Option.map_some]

/-- What is read from a frame sent since the start is the transmission of its place. -/
theorem read (airs : Airs old v sent l) (few : sent.length ≤ 2 ^ 64) {p : Nat}
    (onward : old.length ≤ p) {bytes : List UInt8} (heard : l.medium.frames[p]? = some bytes)
    (read : Beacon.ofBytes bytes = .ok b) :
    old.length + b.sequence.toNat = p ∧ IsAmong b sent := by
  rw [airs.aired, List.getElem?_append_right onward, List.getElem?_map,
    List.getElem?_mapIdx] at heard
  generalize place : p - old.length = k at heard
  cases said : sent[k]? with
  | none => simp [said] at heard
  | some c =>
      simp only [said, Option.map_some, Option.some.injEq] at heard
      have fits : (numbered k c).Fits := (airs.spoken c (List.mem_of_getElem? said)).fits
      have back := Beacon.ofBytes_eq_ok.mpr ⟨fits, List.prefix_refl _⟩
      rw [heard, read] at back
      obtain rfl := Except.ok.inj back
      have small : k < sent.length := (List.getElem?_eq_some_iff.mp said).1
      have number : (numbered k c).sequence.toNat = k := by
        simp [numbered]
        omega
      refine ⟨by omega, c, ?_, ?_⟩
      · rw [number]
        exact said
      · rw [number]

end Airs

/-- What waits in the inbox was sent since the start and comes in the order of the numbers, and what
    the table says of the sender comes before that. The receiver is through with all of it. -/
structure Hears (start : Nat) (v : VehicleId) (sent : List Beacon) (r : Receiver)
    (t : NeighborTable) : Prop where
  foreign : v ≠ t.owner
  onward : start ≤ r.position
  heard : ∀ b ∈ r.inbox.queue, start + b.sequence.toNat < r.position ∧ IsAmong b sent
  ascending : r.inbox.queue.Pairwise fun a b => a.sequence.toNat < b.sequence.toNat
  known : ∀ n, t.get? v = some n → start + n.beacon.sequence.toNat < r.position ∧
    ∀ b ∈ r.inbox.queue, n.beacon.sequence.toNat < b.sequence.toNat

namespace Hears

variable {start : Nat} {r s : Receiver} {t : NeighborTable}

theorem append (hears : Hears start v sent r t) (more : List Beacon) :
    Hears start v (sent ++ more) r t := by
  refine ⟨hears.foreign, hears.onward, ?_, hears.ascending, hears.known⟩
  intro b waits
  obtain ⟨passed, among⟩ := hears.heard b waits
  exact ⟨passed, among.append more⟩

theorem further (hears : Hears start v sent r t) (inbox : s.inbox = r.inbox)
    (onward : r.position ≤ s.position) : Hears start v sent s t := by
  refine ⟨hears.foreign, Nat.le_trans hears.onward onward, ?_, ?_, ?_⟩
  · rw [inbox]
    intro b waits
    obtain ⟨passed, among⟩ := hears.heard b waits
    exact ⟨Nat.lt_of_lt_of_le passed onward, among⟩
  · rw [inbox]
    exact hears.ascending
  · rw [inbox]
    intro n found
    obtain ⟨passed, before⟩ := hears.known n found
    exact ⟨Nat.lt_of_lt_of_le passed onward, before⟩

theorem put (hears : Hears start v sent r t) (place : start + b.sequence.toNat = r.position)
    (among : IsAmong b sent) :
    Hears start v sent
      { r with
        position := r.position + 1
        inbox := { r.inbox with queue := r.inbox.queue ++ [b] } } t := by
  refine ⟨hears.foreign, Nat.le_succ_of_le hears.onward, ?_, ?_, ?_⟩
  · intro c waits
    rcases List.mem_append.mp waits with old | new
    · obtain ⟨passed, among'⟩ := hears.heard c old
      exact ⟨Nat.lt_succ_of_lt passed, among'⟩
    · obtain rfl := List.mem_singleton.mp new
      exact ⟨Nat.lt_succ_of_le (Nat.le_of_eq place), among⟩
  · refine List.pairwise_append.mpr ⟨hears.ascending, List.pairwise_singleton _ _, ?_⟩
    intro c old d new
    obtain rfl := List.mem_singleton.mp new
    have passed := (hears.heard c old).1
    omega
  · intro n found
    obtain ⟨passed, before⟩ := hears.known n found
    refine ⟨Nat.lt_succ_of_lt passed, ?_⟩
    intro c waits
    rcases List.mem_append.mp waits with old | new
    · exact before c old
    · obtain rfl := List.mem_singleton.mp new
      omega

theorem listen (hears : Hears old.length v sent l.receiver t) (airs : Airs old v sent l)
    (few : sent.length ≤ 2 ^ 64) (listens : l.receiver.Listens l.medium s) :
    Hears old.length v sent s t := by
  cases listens with
  | rests | waits => exact hears
  | ends => exact hears.further rfl (Nat.le_refl _)
  | skips _ behind => exact hears.further rfl (by simp only; omega)
  | drops | fails => exact hears.further rfl (Nat.le_succ _)
  | puts bytes b _ heard read =>
      obtain ⟨place, among⟩ := airs.read few hears.onward heard read
      exact hears.put place among

/-- The oldest beacon of the inbox is not behind what the table knows of its sender. -/
theorem recent {rest : List Beacon} (hears : Hears start v sent r t)
    (waiting : r.inbox.queue = b :: rest) :
    ∀ n, t.get? v = some n → NeighborTable.isLate n.beacon.sequence b.sequence = false := by
  intro n found
  have before := (hears.known n found).2 b (by simp [waiting])
  simp [NeighborTable.isLate]
  omega

theorem take {rest : List Beacon} (hears : Hears start v sent r t)
    (spoken : ∀ c ∈ sent, Speaks v c) (waiting : r.inbox.queue = b :: rest) (now : Timestamp) :
    Hears start v sent { r with inbox := { r.inbox with queue := rest } } (t.update b now).1 := by
  have first := hears.heard b (by simp [waiting])
  obtain rfl := first.2.sender spoken
  have sorted := hears.ascending
  rw [waiting] at sorted
  obtain ⟨before, tail⟩ := List.pairwise_cons.mp sorted
  refine ⟨?_, hears.onward, ?_, tail, ?_⟩
  · rw [NeighborTable.owner_update]
    exact hears.foreign
  · intro c waits
    exact hears.heard c (by simp [waiting, waits])
  · intro n found
    rw [NeighborTable.get?_update_sender t hears.foreign (hears.recent waiting)] at found
    obtain rfl := Option.some.inj found
    exact ⟨first.1, before⟩

end Hears

/-- What is on the medium and what is heard of it agree with what was sent. -/
structure Carries (old : List (List UInt8)) (v : VehicleId) (sent : List Beacon) (l : Link) :
    Prop where
  airs : Airs old v sent l
  hears : Hears old.length v sent l.receiver l.table

namespace Carries

theorem begin {t : Transmitter} {published : Beacon} {m : Medium} {table : NeighborTable}
    (uncounted : t.sequence = 0) (speaks : Speaks v published) (foreign : v ≠ table.owner)
    (unknown : table.get? v = none) (room : Nat) :
    Carries m.frames v [] (.begin t published m room table) where
  airs := ⟨uncounted, by simp [Link.begin], speaks, by simp⟩
  hears :=
    { foreign
      onward := Nat.le_refl _
      heard := by simp [Link.begin, Receiver.subscribe, Inbox.empty]
      ascending := List.Pairwise.nil
      known := by
        intro n found
        cases unknown.symm.trans found }

theorem after (carries : Carries old v sent l) {move : Move}
    (said : ∀ b, move = .publish b → Speaks v b) (few : (sent ++ l.emits move).length ≤ 2 ^ 64) :
    Carries old v (sent ++ l.emits move) (l.after move) := by
  obtain ⟨airs, hears⟩ := carries
  cases move with
  | send => exact ⟨airs.send, hears.append _⟩
  | publish b =>
      rw [emits, List.append_nil]
      exact ⟨airs.publish (said b rfl), hears⟩
  | listen =>
      rw [emits, List.append_nil] at few ⊢
      have heard := hears.listen airs few (Receiver.listens_step l.medium l.receiver)
      exact ⟨airs.aside, heard⟩
  | miss =>
      rw [emits, List.append_nil]
      exact ⟨airs.aside, hears.further rfl (Nat.le_succ l.receiver.position)⟩
  | take now =>
      rw [emits, List.append_nil]
      cases waiting : l.receiver.inbox.queue with
      | nil =>
          simp only [Link.after, waiting]
          exact ⟨airs, hears⟩
      | cons b rest =>
          simp only [Link.after, waiting]
          exact ⟨airs.aside, hears.take airs.spoken waiting now⟩

theorem afterAll (moves : List Move) :
    ∀ {sent : List Beacon} {l : Link}, Carries old v sent l →
      (∀ b, .publish b ∈ moves → Speaks v b) → (sent ++ l.sends moves).length ≤ 2 ^ 64 →
      Carries old v (sent ++ l.sends moves) (l.afterAll moves) := by
  induction moves with
  | nil =>
      intro sent l carries _ _
      rw [sends, List.append_nil]
      exact carries
  | cons move rest ih =>
      intro sent l carries said few
      rw [sends, ← List.append_assoc] at few ⊢
      have now : (sent ++ l.emits move).length ≤ 2 ^ 64 := by
        rw [List.length_append] at few
        omega
      have first := carries.after (fun b publishes => said b (by simp [publishes])) now
      exact ih first (fun b among => said b (List.mem_cons_of_mem _ among)) few

end Carries

/-- Whatever a vehicle publishes under its name, and whatever is lost of it on the way to another
    one that did not know it, the next beacon of the inbox is what was published when it was sent,
    with the number of that transmission. The table knows only earlier ones, so the beacon is never
    taken for a late one, and it becomes the entry of its sender. -/
theorem never_goes_back {lo hi : Duration} {random : Random.Stream} {t : Transmitter}
    {published : Beacon} {m : Medium} {room : Nat} {table : NeighborTable} {moves : List Move}
    {next : Beacon} {rest : List Beacon} (created : Transmitter.create lo hi random = .ok t)
    (foreign : published.sender ≠ table.owner) (unknown : table.get? published.sender = none)
    (speaks : Speaks published.sender published)
    (said : ∀ b, .publish b ∈ moves → Speaks published.sender b)
    (few : ((begin t published m room table).sends moves).length < 2 ^ 64)
    (waiting : ((begin t published m room table).afterAll moves).receiver.inbox.queue =
      next :: rest) (now : Timestamp) :
    let start := begin t published m room table
    let l := start.afterAll moves
    ∃ k c, (start.sends moves)[k]? = some c ∧ next = { c with sequence := UInt64.ofNat k } ∧
      l.medium.frames[m.frames.length + k]? = some next.toBytes ∧
      (∀ n, l.table.get? published.sender = some n → n.beacon.sequence.toNat < k) ∧
      (l.table.update next now).2 ≠ .refreshed ∧
      (l.table.update next now).1.get? published.sender =
        some ⟨published.sender, next, now⟩ := by
  intro start l
  have uncounted : t.sequence = 0 := by
    unfold Transmitter.create at created
    split at created
    · cases created
    · rw [← Except.ok.inj created]
  have carries := Carries.afterAll moves
    (Carries.begin uncounted speaks foreign unknown room) said (Nat.le_of_lt few)
  obtain ⟨airs, hears⟩ := carries
  obtain ⟨c, sent, same⟩ := (hears.heard next (by simp [waiting])).2
  have sender := IsAmong.sender ⟨c, sent, same⟩ airs.spoken
  have strange := hears.foreign
  have recent := hears.recent waiting
  have before := fun n found => (hears.known n found).2 next (by simp [waiting])
  rw [← sender] at strange recent before ⊢
  refine ⟨next.sequence.toNat, c, sent, same, ?_, before, ?_, ?_⟩
  · rw [airs.frame sent, ← same]
  · exact l.table.update_ne_refreshed recent now
  · exact l.table.get?_update_sender strange recent now

/-- A vehicle from the north, and another one that has room for one beacon and knows nobody yet. -/
def fromNorth : Beacon := .idle ⟨4⟩ .parallel ⟨⟨"N"⟩, ⟨"S"⟩⟩

def toStranger : Link :=
  begin ⟨.ofSeed 1, .ofMillis 100, .ofMillis 200, 0⟩ fromNorth (.ofCapacity 4) 1 (.empty ⟨9⟩)

/-- The first beacon does not get through, and the last one finds no room. -/
def withGaps : List Move := [
  .send,
  .publish { fromNorth with status := .requesting },
  .miss,
  .send,
  .listen,
  .take (.wrapping 300),
  .publish { fromNorth with status := .crossing },
  .send,
  .send,
  .listen,
  .listen]

/-- What waits then. -/
def third : Beacon := { fromNorth with status := .crossing, sequence := 2 }

theorem never_goes_back_withGaps :
    let l := toStranger.afterAll withGaps
    l.receiver.inbox.queue = [third] ∧
      (l.table.get? ⟨4⟩).map (fun n => n.beacon.sequence) = some 1 ∧
      (l.table.update third (.wrapping 900)).2 ≠ .refreshed ∧
      (l.table.update third (.wrapping 900)).1.get? ⟨4⟩ = some ⟨⟨4⟩, third, .wrapping 900⟩ := by
  have waiting : (toStranger.afterAll withGaps).receiver.inbox.queue = [third] := by
    decide +kernel
  have speaks : Speaks fromNorth.sender fromNorth := ⟨rfl, by decide⟩
  have said : ∀ b, .publish b ∈ withGaps → Speaks fromNorth.sender b := by
    intro b publishes
    obtain rfl | rfl : b = { fromNorth with status := .requesting } ∨
        b = { fromNorth with status := .crossing } := by
      simpa [withGaps] using publishes
    · exact ⟨rfl, speaks.fits⟩
    · exact ⟨rfl, speaks.fits⟩
  have few : (toStranger.sends withGaps).length < 2 ^ 64 := by decide +kernel
  have created : Transmitter.create (.ofMillis 100) (.ofMillis 200) (.ofSeed 1) =
      .ok toStranger.transmitter := rfl
  obtain ⟨_, _, -, -, -, -, fresh, entry⟩ :=
    never_goes_back created (by decide) rfl speaks said few waiting (.wrapping 900)
  exact ⟨waiting, by decide +kernel, fresh, entry⟩

end Link

end Junction
