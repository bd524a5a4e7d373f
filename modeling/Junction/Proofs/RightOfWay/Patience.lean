import Junction.Proofs.RightOfWay.Sharing

/-! # What waiting does to an answer

A vehicle that asks again and has heard nothing new is refused again, or is given the slot it had,
or the present instant where that is what its slot was counted from. So the passing of time takes
back no answer and moves no slot that lies ahead.
-/

namespace Junction

/-- What an answer at `t` promises of the answer to the same question at `u`. -/
structure Clearance.UpheldBy (before : Clearance) (t : Timestamp) (after : Clearance)
    (u : Timestamp) : Prop where
  verdict : after.isSafe = before.isSafe
  immediate : before.isImmediate t = true → after.isImmediate u = true
  /-- The instant stays while it lies ahead. -/
  ahead : t < before.safeAt → u ≤ before.safeAt → after.safeAt = before.safeAt
  /-- A vehicle that was given an instant may go once that has come. One that was refused was given
      none, and may not go at the last instant either. -/
  due : t < before.safeAt → before.safeAt ≤ u → after.isImmediate u = before.isSafe

namespace RightOfWay

variable {conflicts : ConflictTest} {slots : SlotSelection} {p : Precedence} {e : Evaluation}
  {bound slot : Option Timestamp} {t u : Timestamp}

theorem notBefore_due (due : notBefore bound (slot.getD t) ≤ u) :
    notBefore bound (slot.getD u) ≤ u := by
  cases slot with
  | some _ => exact due
  | none =>
      cases bound with
      | none => exact Timestamp.le_refl u
      | some b =>
          simp only [notBefore, Option.getD_none, Timestamp.le_iff, Timestamp.max_ms] at due ⊢
          omega

theorem notBefore_ahead (ahead : t < notBefore bound (slot.getD t))
    (pending : u ≤ notBefore bound (slot.getD t)) :
    notBefore bound (slot.getD u) = notBefore bound (slot.getD t) := by
  cases slot with
  | some _ => rfl
  | none =>
      cases bound with
      | none => exact absurd ahead (Nat.lt_irrefl t.ms)
      | some b =>
          apply Timestamp.ext
          simp only [notBefore, Option.getD_none, Timestamp.le_iff, Timestamp.lt_iff,
            Timestamp.max_ms] at ahead pending ⊢
          omega

/-- The answers to one question at all instants: they are refusals, or name one slot or else the
    present instant, and never an instant before the bound. -/
inductive Lasting (answer : Timestamp → Clearance) : Prop where
  | refused (all : ∀ t, answer t = .wait)
  | granted (bound slot : Option Timestamp)
      (all : ∀ t, answer t = .startingAt (notBefore bound (slot.getD t)))

theorem Lasting.upheld {answer : Timestamp → Clearance} (lasting : Lasting answer) (later : t ≤ u) :
    (answer t).UpheldBy t (answer u) u := by
  cases lasting with
  | refused all =>
      rw [all t, all u]
      exact ⟨rfl, nofun, fun _ _ => rfl, fun _ _ => rfl⟩
  | granted bound slot all =>
      rw [all t, all u]
      simp only [Clearance.startingAt]
      refine ⟨rfl, ?_, notBefore_ahead, ?_⟩
      · intro immediate
        have due : notBefore bound (slot.getD t) ≤ t := by
          simpa [Clearance.isImmediate] using immediate
        simpa [Clearance.isImmediate] using notBefore_due (Timestamp.le_trans due later)
      · intro _ due
        simpa [Clearance.isImmediate] using notBefore_due due

theorem lasting_serial : Lasting fun t => (serial p).answer (e.askedAt t) := by
  by_cases first : comesFirst p e = true
  · exact .granted none (some .unscheduled) fun t => if_pos first
  · exact .refused fun t => if_neg first

theorem lasting_parallel :
    Lasting fun t => (parallel conflicts (serial p)).answer (e.askedAt t) := by
  by_cases first : Unrivalled p e
  · exact .granted none (some .unscheduled) fun t =>
      parallel_of_unrivalled ⟨first.nobody, first.foremost⟩
  · have behind : ∀ t, ¬Unrivalled p (e.askedAt t) :=
      fun _ foremost => first ⟨foremost.nobody, foremost.foremost⟩
    by_cases joins : MayJoin conflicts p e
    · exact .granted none none fun t =>
        parallel_of_mayJoin ⟨joins.somebody, joins.inside, joins.ahead⟩
    · refine .refused fun t => parallel_of_neither (behind t) ?_
      exact fun joined => joins ⟨joined.somebody, joined.inside, joined.ahead⟩

theorem lasting_reservation : Lasting fun t =>
    (reservation conflicts slots (parallel conflicts (serial p))).answer (e.askedAt t) := by
  by_cases first : comesFirst p e = true
  · exact .granted none none fun t => if_pos first
  · have behind : ∀ t, (reservation conflicts slots (parallel conflicts (serial p))).answer
        (e.askedAt t) = reserve conflicts slots p (e.askedAt t) := fun _ => if_neg first
    simp only [behind]
    have shape : Shape conflicts p e fun slots t => reserve conflicts slots p (e.askedAt t) :=
      shape_reserve
    cases shape with
    | refused all => exact .refused fun t => all slots t
    | fixed bound slot all => exact .granted bound slot fun t => all slots t
    | behind bound all => exact .granted bound _ fun t => all slots t

/-- Whatever the rule, and whatever is known of the peers: where nothing else changes, a vehicle
    that asks later gets the same verdict, may still go if it could go before, and keeps the instant
    it was given until that has come, and may go from then on. -/
theorem upheld_while_time_passes (protocol : Protocol) (conflicts : ConflictTest)
    (options : Options) (e : Evaluation) {t u : Timestamp} (later : t ≤ u) :
    ((policyFor protocol conflicts options).answer (e.askedAt t)).UpheldBy t
      ((policyFor protocol conflicts options).answer (e.askedAt u)) u := by
  cases protocol with
  | serial => exact lasting_serial.upheld later
  | parallel => exact lasting_parallel.upheld later
  | reservation => exact lasting_reservation.upheld later

/-- A vehicle from the east finds a peer inside that is in its way and leaves at `5000`. -/
def behindOccupant : Evaluation where
  me := ⟨7⟩
  route := ⟨⟨"E"⟩, ⟨"W"⟩⟩
  neighbors := .ofList [
    ⟨⟨3⟩, ⟨⟨3⟩, .reservation, .crossing, ⟨⟨"N"⟩, ⟨"S"⟩⟩, 0, some (.wrapping 1000), some 4000⟩,
      .zero⟩]
  now := .wrapping 2000

def eastern : Policy :=
  (policyFor .reservation Topology.fourWay.conflicts ⟨.higherFirst, .firstFit⟩).toPolicy

/-- It keeps its slot until the peer is out, and from then on it may go whenever it asks. -/
theorem upheld_while_time_passes_behindOccupant :
    Timestamp.wrapping 2000 ≤ .wrapping 4999 ∧
      eastern.answer (behindOccupant.askedAt (.wrapping 2000)) = .startingAt (.wrapping 5000) ∧
      (eastern.answer (behindOccupant.askedAt (.wrapping 2000))).UpheldBy (.wrapping 2000)
        (eastern.answer (behindOccupant.askedAt (.wrapping 4999))) (.wrapping 4999) ∧
      (eastern.answer (behindOccupant.askedAt (.wrapping 4999))).safeAt = .wrapping 5000 ∧
      (eastern.answer (behindOccupant.askedAt (.wrapping 6000))).isImmediate (.wrapping 6000) =
        true := by
  have slot : eastern.answer (behindOccupant.askedAt (.wrapping 2000)) =
      .startingAt (.wrapping 5000) := by decide +kernel
  have pending := upheld_while_time_passes .reservation Topology.fourWay.conflicts
    ⟨.higherFirst, .firstFit⟩ behindOccupant
    (show Timestamp.wrapping 2000 ≤ .wrapping 4999 by decide)
  have due := upheld_while_time_passes .reservation Topology.fourWay.conflicts
    ⟨.higherFirst, .firstFit⟩ behindOccupant
    (show Timestamp.wrapping 2000 ≤ .wrapping 6000 by decide)
  change (eastern.answer _).UpheldBy _ (eastern.answer _) _ at pending due
  have kept := pending.ahead
  have granted := due.due
  rw [slot] at kept granted
  exact ⟨by decide, slot, pending, kept (by decide) (by decide), granted (by decide) (by decide)⟩

end RightOfWay

end Junction
