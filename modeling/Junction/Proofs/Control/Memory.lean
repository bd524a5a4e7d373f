import Junction.Proofs.Control.Lifecycle
import Junction.Proofs.Control.Threshold

/-! # Which peers a vehicle remembers

A peer is silent from its last beacon on, whatever number that beacon had, and a tick forgets the
peers that have been silent for too long. So what is in the table after a tick can be told from the
inputs alone. An earlier tick never forgot a peer that is still to be remembered, because time went
on since; and a peer that was forgotten and came back is a new one.
-/

namespace Junction

namespace Settings

theorem le_thresholdMs_iff {s : Settings} (valid : s.Valid) (ms : Nat) :
    ms ≤ s.thresholdMs ↔ ms * 10 ^ 6 ≤ s.maxLost.toNat * s.maxPeriod.nanos := by
  rw [thresholdMs_of_hasExactThreshold (hasExactThreshold_of_valid valid),
    Nat.le_div_iff_mul_le (by decide), Nat.mul_comm s.maxPeriod.nanos]

end Settings

namespace Controller

/-- When an input came; progress is told at no instant. -/
def Input.time? : Input → Option Timestamp
  | .event _ now | .beacon _ now | .tick now => some now
  | .progress _ => none

/-- The inputs came in order of time. -/
def InOrder (inputs : List Input) : Prop := (inputs.filterMap Input.time?).Pairwise (· ≤ ·)

/-- No input came after an instant. -/
def AllBy (inputs : List Input) (now : Timestamp) : Prop :=
  ∀ t ∈ inputs.filterMap Input.time?, t ≤ now

/-- When a vehicle was heard by an input, if it was. A beacon of another protocol is not heard. -/
def Input.heard? (protocol : Protocol) (v : VehicleId) : Input → Option Timestamp
  | .beacon b now => if b.protocol = protocol ∧ b.sender = v then some now else none
  | .event _ _ | .progress _ | .tick _ => none

/-- When a vehicle was last heard. -/
def lastHeard? (protocol : Protocol) (v : VehicleId) (inputs : List Input) : Option Timestamp :=
  (inputs.filterMap (Input.heard? protocol v)).getLast?

/-- Another vehicle was heard, and since then no more time has passed than the longest time between
    two beacons, as many times over as beacons may be lost. -/
def HeardLately (s : Settings) (protocol : Protocol) (inputs : List Input) (now : Timestamp)
    (v : VehicleId) : Prop :=
  v ≠ s.id ∧ ∃ t, lastHeard? protocol v inputs = some t ∧
    now.since t * 10 ^ 6 ≤ s.maxLost.toNat * s.maxPeriod.nanos

variable {c d : Controller} {past inputs : List Input} {input : Input} {now : Timestamp}
  {protocol : Protocol} {v : VehicleId}

theorem AllBy.of_concat (all : AllBy (past ++ [input]) now) : AllBy past now := by
  intro t earlier
  apply all
  rw [List.filterMap_append]
  exact List.mem_append_left _ earlier

theorem AllBy.last {u : Timestamp} (all : AllBy (past ++ [input]) now)
    (time : input.time? = some u) : u ≤ now := by
  apply all
  simp [List.filterMap_append, time]

theorem InOrder.allBy (order : InOrder (past ++ [.tick now])) : AllBy past now := by
  intro t earlier
  rw [InOrder, List.filterMap_append] at order
  exact (List.pairwise_append.mp order).2.2 t earlier now (List.mem_singleton_self now)

theorem lastHeard?_concat :
    lastHeard? protocol v (past ++ [input]) =
      (input.heard? protocol v).or (lastHeard? protocol v past) := by
  rw [lastHeard?, List.filterMap_append, List.getLast?_append]
  cases heard : input.heard? protocol v <;> simp [heard, lastHeard?]

/-- The table is about what was heard: an entry is as old as the last beacon of its peer, and a
    peer without an entry has been silent for too long, if it was ever heard. -/
structure Remembers (past : List Input) (c : Controller) : Prop where
  kept : c.table.Kept
  heard : ∀ v n, c.table.get? v = some n →
    lastHeard? c.beacon.protocol v past = some n.lastReceipt
  silent : ∀ v t, c.table.get? v = none → v ≠ c.table.owner →
    lastHeard? c.beacon.protocol v past = some t →
      ∀ now, AllBy past now → c.settings.thresholdMs < now.since t

namespace Remembers

theorem atRest (s : Settings) (policy : Policy) (drive : Drive) :
    Remembers [] ({ ofPolicy s policy with drive } : Controller) := by
  refine ⟨.empty s.id, ?_, ?_⟩
  · intro v n found
    cases found
  · intro v t _ _ heard
    cases heard

/-- The table stays about what was heard through an input that leaves the entries of all peers alone
    but that of a peer that is heard by it. -/
theorem of_told (remembers : Remembers past c) (kept : d.table.Kept)
    (constants : d.constants = c.constants)
    (told : ∀ v, v ≠ c.table.owner →
      d.table.get? v = c.table.get? v ∧ input.heard? c.beacon.protocol v = none ∨
        ∃ n, d.table.get? v = some n ∧ input.heard? c.beacon.protocol v = some n.lastReceipt) :
    Remembers (past ++ [input]) d := by
  have owner := owner_of_constants constants
  refine ⟨kept, ?_, ?_⟩
  · intro v n found
    have foreign := kept.foreign_of_get? found
    rw [protocol_of_constants constants, lastHeard?_concat]
    rcases told v (owner ▸ foreign) with ⟨same, unheard⟩ | ⟨m, entry, heard⟩
    · rw [unheard, Option.none_or]
      exact remembers.heard v n (same ▸ found)
    · obtain rfl := Option.some.inj (entry.symm.trans found)
      rw [heard, Option.some_or]
  · intro v t none foreign last now all
    rw [protocol_of_constants constants, lastHeard?_concat] at last
    rw [settings_of_constants constants]
    rcases told v (owner ▸ foreign) with ⟨same, unheard⟩ | ⟨m, entry, -⟩
    · rw [unheard, Option.none_or] at last
      exact remembers.silent v t (same ▸ none) (owner ▸ foreign) last now all.of_concat
    · cases none.symm.trans entry

theorem of_flush (remembers : Remembers past c) {t : Timestamp}
    (table : d.table = (c.forget t).table) (constants : d.constants = c.constants) :
    Remembers (past ++ [.tick t]) d := by
  have kept : d.table.Kept := by
    rw [table]
    exact remembers.kept.flush _ _
  have found : ∀ v, d.table.get? v = (c.table.get? v).filter fun n =>
      !NeighborTable.isStale c.settings.thresholdMs t n := by
    intro v
    rw [table]
    exact remembers.kept.get?_flush _ _ v
  have unheard : ∀ v, lastHeard? d.beacon.protocol v (past ++ [.tick t]) =
      lastHeard? c.beacon.protocol v past := by
    intro v
    rw [protocol_of_constants constants, lastHeard?_concat]
    rfl
  refine ⟨kept, ?_, ?_⟩
  · intro v n entry
    rw [found] at entry
    rw [unheard]
    exact remembers.heard v n (Option.filter_eq_some_iff.mp entry).1
  · intro v u none foreign last now all
    rw [unheard] at last
    rw [settings_of_constants constants]
    cases before : c.table.get? v with
    | none =>
        exact remembers.silent v u before (owner_of_constants constants ▸ foreign) last now
          all.of_concat
    | some n =>
        have heard := remembers.heard v n before
        obtain rfl := Option.some.inj (last.symm.trans heard)
        -- Taken out by this flush: silent for too long then, and time only went on since.
        have stale : c.settings.thresholdMs < n.age t := by
          simpa [found, before, NeighborTable.isStale] using none
        have later : t.ms ≤ now.ms := all.last rfl
        simp only [Neighbor.age, Timestamp.since] at stale ⊢
        omega

theorem after (remembers : Remembers past c) (input : Input) :
    Remembers (past ++ [input]) (c.after input) := by
  have kept := kept_after remembers.kept input
  have constants := constants_after c input
  cases input with
  | event event t =>
      have table := (keeps_onEvent c event t).table
      exact remembers.of_told kept constants fun v _ => Or.inl ⟨congrArg (·.get? v) table, rfl⟩
  | progress metres =>
      have table := (keeps_onProgress c metres).table
      exact remembers.of_told kept constants fun v _ => Or.inl ⟨congrArg (·.get? v) table, rfl⟩
  | tick t =>
      -- Only a controller that runs forgets anybody.
      cases running : c.running with
      | true => exact remembers.of_flush (table_tick running t) constants
      | false =>
          have same : (c.tick t).1 = c := congrArg Prod.fst (tick_of_stopped running t)
          refine remembers.of_told kept constants fun v _ => Or.inl ⟨?_, rfl⟩
          exact congrArg (·.table.get? v) same
  | beacon b t =>
      refine remembers.of_told kept constants fun v foreign => ?_
      change (c.onBeacon b t).1.table.get? v = _ ∧ _ ∨ ∃ n, (c.onBeacon b t).1.table.get? v = _ ∧ _
      rw [onBeacon_eq]
      by_cases own : b.protocol = c.beacon.protocol
      · by_cases sender : b.sender = v
        · subst sender
          obtain ⟨n, entry, receipt⟩ := NeighborTable.lastReceipt_update c.table foreign t
          exact Or.inr ⟨n, by simpa [own] using entry, by simp [Input.heard?, own, receipt]⟩
        · have same := NeighborTable.get?_update_of_ne c.table (Ne.symm sender) t
          exact Or.inl ⟨by simpa [own] using same, by simp [Input.heard?, sender]⟩
      · exact Or.inl ⟨by simp [own], by simp [Input.heard?, own]⟩

theorem afterAll (remembers : Remembers past c) (inputs : List Input) :
    Remembers (past ++ inputs) (c.afterAll inputs) := by
  induction inputs generalizing past c with
  | nil => simpa [Controller.afterAll] using remembers
  | cons input rest ih => simpa [Controller.afterAll] using ih (remembers.after input)

theorem reached (s : Settings) (policy : Policy) (drive : Drive) (inputs : List Input) :
    Remembers inputs (reached s policy drive inputs) :=
  (atRest s policy drive).afterAll inputs

end Remembers

theorem running_after (aligned : c.Aligned) (running : c.running = true)
    (sound : ∀ t, input ≠ .event .error t) : (c.after input).running = true := by
  have reaction := reaction_after aligned input
  generalize c.after input = d at reaction
  cases reaction with
  | stops t => exact absurd rfl (sound t)
  | _ => exact running

theorem running_afterAll (coherent : c.Coherent) (running : c.running = true)
    (sound : ∀ t, .event .error t ∉ inputs) : (c.afterAll inputs).running = true := by
  induction inputs generalizing c with
  | nil => exact running
  | cons input rest ih =>
      refine ih (coherent.after input) (running_after coherent.aligned running ?_) ?_
      · rintro t rfl
        exact sound t List.mem_cons_self
      · intro t later
        exact sound t (List.mem_cons_of_mem input later)

/-- After a tick the table holds exactly the peers that were heard lately. -/
theorem Remembers.contains_tick (remembers : Remembers past c) (running : c.running = true)
    (all : AllBy past now) (v : VehicleId) :
    (c.tick now).1.table.contains v = true ↔
      v ≠ c.table.owner ∧ ∃ t, lastHeard? c.beacon.protocol v past = some t ∧
        now.since t ≤ c.settings.thresholdMs := by
  rw [NeighborTable.contains_iff, table_tick running]
  simp only [forget, remembers.kept.get?_flush]
  cases found : c.table.get? v with
  | none =>
      refine iff_of_false (by simp) ?_
      rintro ⟨foreign, t, last, young⟩
      have silent := remembers.silent v t found foreign last now all
      omega
  | some n =>
      have foreign := remembers.kept.foreign_of_get? found
      have last := remembers.heard v n found
      have fresh : NeighborTable.isStale c.settings.thresholdMs now n = false ↔
          now.since n.lastReceipt ≤ c.settings.thresholdMs :=
        decide_eq_false_iff_not.trans Nat.not_lt
      simp [Option.filter_eq_some_iff, foreign, last, fresh]

theorem lastAnswer_tick {d : Decision} (decided : (c.tick now).2 = some d) :
    (c.tick now).1.lastAnswer =
      some (c.policy.answer
        ⟨c.settings.id, c.settings.route, (c.tick now).1.table.snapshot, now⟩) := by
  cases running : c.running with
  | false => simp [tick_of_stopped running] at decided
  | true =>
      have table := table_tick running now
      rw [table, tick_eq running]
      rw [tick_eq running] at decided
      split at decided
      · next seeks =>
        rw [if_pos seeks]
        by_cases admits : (c.forget now).Admits (c.answerAt now) now
        · obtain ⟨pacer, eq, -⟩ := act_admitted admits
          rw [eq]
          rfl
        · obtain ⟨drive, pacer, since, eq, -⟩ := act_refused admits
          rw [eq]
          rfl
      · cases decided

/-- For a vehicle under valid settings whose detector never fails, and inputs in order of time:
    after a tick the table holds exactly the vehicles that were heard lately, and what the policy
    was asked in that tick, if it was asked, is about these. -/
theorem remembers_exactly {s : Settings} (valid : s.Valid) (policy : Policy) (drive : Drive)
    {inputs : List Input} {now : Timestamp} (sound : ∀ t, .event .error t ∉ inputs)
    (order : InOrder (inputs ++ [.tick now])) :
    (∀ v, (reached s policy drive (inputs ++ [.tick now])).table.contains v = true ↔
        HeardLately s policy.protocol inputs now v) ∧
      ∀ d, ((reached s policy drive inputs).tick now).2 = some d →
        (reached s policy drive (inputs ++ [.tick now])).lastAnswer =
            some (policy.answer ⟨s.id, s.route,
              (reached s policy drive (inputs ++ [.tick now])).table.snapshot, now⟩) ∧
          ∀ v, v ∈ (reached s policy drive (inputs ++ [.tick now])).table.snapshot.neighbors.map
              Neighbor.id ↔ HeardLately s policy.protocol inputs now v := by
  have remembers := Remembers.reached s policy drive inputs
  have constants := constants_reached s policy drive inputs
  have running : (reached s policy drive inputs).running = true :=
    running_afterAll .atRest rfl sound
  rw [reached_concat]
  generalize reached s policy drive inputs = c at remembers constants running
  have settings : c.settings = s := settings_of_constants constants
  have owner : c.table.owner = s.id := owner_of_constants constants
  have protocol : c.beacon.protocol = policy.protocol :=
    (protocol_of_constants constants).trans (firstBeacon_sender s policy.protocol).2.1
  have kept : ∀ v, (c.tick now).1.table.contains v = true ↔
      HeardLately s policy.protocol inputs now v := by
    intro v
    rw [remembers.contains_tick running order.allBy, settings, owner, protocol]
    simp only [Settings.le_thresholdMs_iff valid]
    rfl
  refine ⟨kept, ?_⟩
  intro d decided
  constructor
  · have asked := lastAnswer_tick decided
    rwa [settings, policy_of_constants constants] at asked
  · intro v
    rw [← kept]
    change v ∈ (c.tick now).1.table.entries.map Neighbor.id ↔ _
    simp [NeighborTable.contains, Roster.contains]

/-- The rule of a vehicle from the north for which nothing else is set. -/
def northernRule : Policy :=
  (RightOfWay.policyFor .parallel Topology.fourWay.conflicts Settings.standard.options).toPolicy

def northern (inputs : List Input) : Controller :=
  reached .standard northernRule (.fresh 0.75) inputs

def eastern (sender : UInt8) (sequence : UInt64) : Beacon where
  sender := ⟨sender⟩
  protocol := .parallel
  status := .idle
  route := ⟨⟨"E"⟩, ⟨"W"⟩⟩
  sequence
  entryTime := none
  crossingMs := none

/-- Vehicle 2 is heard for the last time one millisecond before vehicle 3, whose last beacon is a
    late one. The vehicle's own beacon and one of another protocol come in between. -/
def hearsAround : List Input := [
  .event .approaching .zero,
  .beacon (eastern 3 9) .zero,
  .progress 0.1,
  .beacon (eastern 2 9) (.wrapping 1000),
  .beacon (eastern 1 9) (.wrapping 1000),
  .beacon { eastern 4 9 with protocol := .serial } (.wrapping 1000),
  .beacon (eastern 3 5) (.wrapping 1001),
  .tick (.wrapping 6000)]

/-- After five seconds vehicle 3 is remembered and vehicle 2 is not. -/
theorem remembers_exactly_atEdge :
    Settings.standard.Valid ∧ (∀ t, .event .error t ∉ hearsAround) ∧
      InOrder (hearsAround ++ [.tick (.wrapping 6001)]) ∧
      ((northern hearsAround).tick (.wrapping 6001)).2 =
        some (.provisional (.wrapping 6000) .unscheduled) ∧
      HeardLately .standard .parallel hearsAround (.wrapping 6001) ⟨3⟩ ∧
      ¬HeardLately .standard .parallel hearsAround (.wrapping 6001) ⟨2⟩ ∧
      (∀ v, (northern (hearsAround ++ [.tick (.wrapping 6001)])).table.contains v = true ↔
          HeardLately .standard .parallel hearsAround (.wrapping 6001) v) ∧
      ∀ d, ((northern hearsAround).tick (.wrapping 6001)).2 = some d →
        (northern (hearsAround ++ [.tick (.wrapping 6001)])).lastAnswer =
            some (northernRule.answer ⟨Settings.standard.id, Settings.standard.route,
              (northern (hearsAround ++ [.tick (.wrapping 6001)])).table.snapshot,
              .wrapping 6001⟩) ∧
          ∀ v, v ∈ (northern (hearsAround ++ [.tick (.wrapping 6001)])).table.snapshot.neighbors.map
              Neighbor.id ↔ HeardLately .standard .parallel hearsAround (.wrapping 6001) v := by
  have valid : Settings.standard.Valid := rfl
  have sound : ∀ t, .event .error t ∉ hearsAround := by simp [hearsAround]
  have order : InOrder (hearsAround ++ [.tick (.wrapping 6001)]) := by
    unfold InOrder
    decide
  have decided : ((northern hearsAround).tick (.wrapping 6001)).2 =
      some (.provisional (.wrapping 6000) .unscheduled) := by
    decide +kernel
  obtain ⟨kept, asked⟩ := remembers_exactly valid northernRule (.fresh 0.75) sound order
  refine ⟨valid, sound, order, decided, ?_, ?_, kept, asked⟩
  · refine (kept ⟨3⟩).mp ?_
    decide +kernel
  · refine fun heard => absurd ((kept ⟨2⟩).mpr heard) ?_
    decide +kernel

end Controller

end Junction
