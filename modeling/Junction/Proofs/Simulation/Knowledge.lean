import Junction.Proofs.Simulation.Turn

/-! # What a table tells of a vehicle

A table holds an entry for every vehicle that has set out. The entry may be behind by one gap
between beacons: then it shows a vehicle that seeks access while that vehicle has been let in since.
-/

namespace Junction

/-- No beacon is lost, the clock moves and its readings can be counted, and a peer is remembered
    from one of its beacons to the next. -/
structure SimulationSettings.Reliable (s : SimulationSettings) : Prop where
  lossless : s.Lossless
  periods : s.delivery ≠ .immediate → s.client.minPeriod.ms ≤ s.client.maxPeriod.ms
  moves : 0 < s.step.ms
  remembered : s.gap + s.step.ms ≤ s.client.thresholdMs
  counted : s.horizon.ms + s.step.ms < 2 ^ 63

/-- Everything that has happened to a vehicle by its turn, or including its turn, did so before this
    count of milliseconds. -/
def Timestamp.bound (now : Timestamp) (acted : Bool) : Nat := now.ms + acted.toNat

@[simp]
theorem Timestamp.bound_false (now : Timestamp) : now.bound false = now.ms := rfl

@[simp]
theorem Timestamp.bound_true (now : Timestamp) : now.bound true = now.ms + 1 := rfl

theorem Timestamp.bound_le (now : Timestamp) (acted : Bool) : now.bound acted ≤ now.ms + 1 := by
  cases acted <;> simp

/-- What the entry of a vehicle tells about it. -/
structure Neighbor.Tells (s : SimulationSettings) (now : Timestamp) (acted : Bool) (n : Neighbor)
    (q : Participant) : Prop where
  sequence : n.beacon.sequence + 1 = q.sent
  route : n.route = q.script.route
  past : n.lastReceipt.ms < now.bound acted
  fresh : now.ms ≤ n.lastReceipt.ms + s.gap + (if acted then 0 else s.step.ms)
  next : q.nextBeacon.ms ≤ n.lastReceipt.ms + s.gap
  outside : q.crossing = none → n.status = .requesting
  inside : ∀ c, q.crossing = some ⟨c, none⟩ →
    n.status = .crossing ∨ n.status = .requesting ∧ n.lastReceipt < c
  exact : s.gap = 0 → n.beacon = { q.controller.beacon with sequence := n.beacon.sequence }

/-- What a table holds of a vehicle: nothing until it has set out, and its entry from then on. -/
structure NeighborTable.Knows (s : SimulationSettings) (now : Timestamp) (acted : Bool)
    (t : NeighborTable) (q : Participant) : Prop where
  unheard : q.startedAt = none → t.get? q.id = none
  heard : q.startedAt ≠ none → ∃ n, t.get? q.id = some n ∧ n.Tells s now acted q

variable {s : SimulationSettings} {now : Timestamp} {t : NeighborTable} {p q : Participant}

theorem Neighbor.Tells.of_silent {n : Neighbor} (tells : n.Tells s now false p)
    (acts : p.Acts now q) (quiet : now < q.nextBeacon) : n.Tells s now true q := by
  have past := tells.past
  have next := tells.next
  rw [acts.nextBeacon, Timestamp.lt_iff] at quiet
  rw [Timestamp.bound_false] at past
  refine ⟨?_, ?_, ?_, ?_, ?_, ?_, ?_, ?_⟩
  · rw [acts.sent]
    exact tells.sequence
  · rw [acts.script]
    exact tells.route
  · rw [Timestamp.bound_true]
    omega
  · rw [if_pos rfl]
    omega
  · rw [acts.nextBeacon]
    exact next
  · intro outside
    exact tells.outside (acts.outside outside)
  · intro c inside
    cases acts.stay with
    | same kept => exact tells.inside c (kept.symm.trans inside)
    | closes c' _ closed => cases inside.symm.trans closed
    | opens _ _ before opened =>
        -- let in just now, and heard before
        cases inside.symm.trans opened
        exact Or.inr ⟨tells.outside before, past⟩
  · intro none
    omega

namespace NeighborTable

theorem knows_of_silent (knows : t.Knows s now false p) (acts : p.Acts now q)
    (standing : p.Standing now.ms) (quiet : q.startedAt = none ∨ now < q.nextBeacon) :
    t.Knows s now true q := by
  constructor
  · intro none
    rw [acts.id]
    apply knows.unheard
    rcases acts.started with kept | ⟨before, -⟩
    · exact kept.symm.trans none
    · exact before
  · intro started
    have ahead := quiet.resolve_left started
    have before : p.startedAt ≠ none := by
      intro none
      rw [acts.nextBeacon, standing.nextBeacon_of_waiting none] at ahead
      exact absurd ahead (Nat.not_lt_zero _)
    obtain ⟨n, found, tells⟩ := knows.heard before
    rw [acts.id]
    exact ⟨n, found, tells.of_silent acts ahead⟩

end NeighborTable

theorem Neighbor.Tells.of_sends (acts : p.Acts now q) (started : q.startedAt ≠ none)
    (route : q.controller.beacon.route = p.script.route) {nextBeacon : Timestamp}
    (soon : nextBeacon.ms ≤ now.ms + s.gap) :
    (⟨q.id, q.outgoing, now⟩ : Neighbor).Tells s now true
      { q with sent := q.sent + 1, nextBeacon } := by
  refine ⟨rfl, ?_, Nat.lt_succ_self _, Nat.le_add_right _ _, soon, ?_, ?_, fun _ => rfl⟩
  · rw [acts.script]
    exact route
  · intro outside
    exact acts.standing.status_of_seeking started outside
  · intro c inside
    exact Or.inl (acts.standing.of_inside inside).2.2.1

namespace NeighborTable

theorem get?_update_of_sends (knows : t.Knows s now false p) (acts : p.Acts now q)
    (foreign : p.id ≠ t.owner) (sender : q.controller.beacon.sender = p.id) :
    (t.update q.outgoing now).1.get? q.id = some ⟨q.id, q.outgoing, now⟩ := by
  have origin : q.outgoing.sender = p.id := sender
  have recent : ∀ n, t.get? q.outgoing.sender = some n →
      isLate n.beacon.sequence q.outgoing.sequence = false := by
    intro n found
    rw [origin] at found
    cases before : p.startedAt with
    | none =>
        rw [knows.unheard before] at found
        cases found
    | some u =>
        obtain ⟨m, there, tells⟩ := knows.heard (by simp [before])
        rw [found] at there
        cases there
        have following : q.outgoing.sequence = n.beacon.sequence + 1 :=
          acts.sent.trans tells.sequence.symm
        rw [following]
        exact isLate_succ _
  have entry := get?_update_sender (t := t) (by rwa [origin]) recent now
  rwa [origin, ← acts.id] at entry

theorem knows_of_sends (knows : t.Knows s now false p) (acts : p.Acts now q)
    (foreign : p.id ≠ t.owner) (sender : q.controller.beacon.sender = p.id)
    (route : q.controller.beacon.route = p.script.route) (started : q.startedAt ≠ none)
    {nextBeacon : Timestamp} (soon : nextBeacon.ms ≤ now.ms + s.gap) :
    (t.update q.outgoing now).1.Knows s now true { q with sent := q.sent + 1, nextBeacon } := by
  constructor
  · intro none
    exact absurd none started
  · intro _
    exact ⟨_, get?_update_of_sends knows acts foreign sender, .of_sends acts started route soon⟩

/-- A table that has learned of the turn of one vehicle, and of nothing else. -/
structure Learns (s : SimulationSettings) (now : Timestamp) (t t' : NeighborTable)
    (q : Participant) : Prop where
  owner : t'.owner = t.owner
  kept : t'.Kept
  others : ∀ v, v ≠ q.id → t'.get? v = t.get? v
  entry : t'.get? q.id = t.get? q.id ∨
    ∃ sequence, t'.get? q.id = some ⟨q.id, { q.controller.beacon with sequence }, now⟩
  knows : t'.Knows s now true q

theorem learns_of_silent (kept : t.Kept) (knows : t.Knows s now false p) (acts : p.Acts now q)
    (standing : p.Standing now.ms) (quiet : q.startedAt = none ∨ now < q.nextBeacon) :
    t.Learns s now t q :=
  ⟨rfl, kept, fun _ _ => rfl, Or.inl rfl, knows_of_silent knows acts standing quiet⟩

theorem learns_of_sends (kept : t.Kept) (knows : t.Knows s now false p) (acts : p.Acts now q)
    (foreign : p.id ≠ t.owner) (sender : q.controller.beacon.sender = p.id)
    (route : q.controller.beacon.route = p.script.route) (started : q.startedAt ≠ none)
    {nextBeacon : Timestamp} (soon : nextBeacon.ms ≤ now.ms + s.gap) :
    t.Learns s now (t.update q.outgoing now).1 { q with sent := q.sent + 1, nextBeacon } := by
  refine ⟨owner_update _ _ _, kept.update _ _, ?_, ?_, ?_⟩
  · intro v elsewhere
    refine get?_update_of_ne _ ?_ _
    intro origin
    exact elsewhere ((origin.trans sender).trans acts.id.symm)
  · exact Or.inr ⟨q.sent, get?_update_of_sends knows acts foreign sender⟩
  · exact knows_of_sends knows acts foreign sender route started soon

theorem Knows.congr {t' : NeighborTable} {acted : Bool} (knows : t.Knows s now acted q)
    (same : t'.get? q.id = t.get? q.id) (table : NeighborTable) :
    t'.Knows s now acted (q.withTable table) := by
  constructor
  · intro none
    exact same.trans (knows.unheard none)
  · intro started
    obtain ⟨n, found, tells⟩ := knows.heard started
    exact ⟨n, same.trans found, tells.sequence, tells.route, tells.past, tells.fresh, tells.next,
      tells.outside, tells.inside, tells.exact⟩

end NeighborTable

end Junction
