import Junction.Beacon.Wire

/-! # Reading beacons back

For every kind of field, the reader takes a value off the front of some bytes exactly if the bytes
begin with what is written of that value. So it is for whole beacons: the bytes of a beacon can be
read whatever follows them, no other bytes can be read as that beacon, and bytes that break off are
refused.
-/

namespace Junction

theorem Text.Utf8.length_encode (s : String) : (encode s).length = s.utf8ByteSize := by
  simp [encode]

theorem Protocol.all_eq_some {n : Nat} {p : Protocol} : all[n]? = some p ↔ n = p.index := by
  constructor
  · intro listed
    match n with
    | 0 | 1 | 2 => cases listed; rfl
    | _ + 3 => cases listed
  · rintro rfl
    exact p.all_index

theorem Status.all_eq_some {n : Nat} {s : Status} : all[n]? = some s ↔ n = s.index := by
  constructor
  · intro listed
    match n with
    | 0 | 1 | 2 | 3 => cases listed; rfl
    | _ + 4 => cases listed
  · rintro rfl
    exact s.all_index

namespace Wire

variable {α β : Type} {bytes rest : List UInt8}

theorem bind_eq_ok {x : Reader α} {f : α → Reader β} {b : β} :
    (x >>= f) bytes = .ok (b, rest) ↔
      ∃ a between, x bytes = .ok (a, between) ∧ f a between = .ok (b, rest) := by
  change Except.bind (x bytes) (fun read => f read.1 read.2) = _ ↔ _
  rcases x bytes with fault | ⟨a, between⟩
  · simp [Except.bind]
  · simp [Except.bind, and_assoc]

theorem pure_eq_ok {a b : α} :
    (pure a : Reader α) bytes = .ok (b, rest) ↔ b = a ∧ bytes = rest := by
  change Except.ok (a, bytes) = _ ↔ _
  simp [eq_comm]

theorem takeNat_eq_ok {width n : Nat} :
    takeNat width bytes = .ok (n, rest) ↔ n < 256 ^ width ∧ bytes = ofNat width n ++ rest := by
  simp only [takeNat]
  constructor
  · intro read
    split at read
    · cases read
    · next enough =>
      obtain ⟨rfl, rfl⟩ := Prod.mk.inj (Except.ok.inj read)
      have length : (bytes.take width).length = width := by
        rw [List.length_take]
        omega
      have small := toNat_lt (bytes.take width)
      have written := ofNat_toNat (bytes.take width)
      rw [length] at small written
      exact ⟨small, by rw [written, List.take_append_drop]⟩
  · rintro ⟨small, rfl⟩
    have length := length_ofNat width n
    have enough : ¬(ofNat width n ++ rest).length < width := by
      rw [List.length_append, length]
      omega
    rw [if_neg enough, List.take_left' length, List.drop_left' length, toNat_ofNat,
      Nat.mod_eq_of_lt small]

theorem takeVariant_eq_ok {variants : List α} {a : α} :
    takeVariant variants bytes = .ok (a, rest) ↔
      ∃ n, variants[n]? = some a ∧ n < 256 ^ 4 ∧ bytes = ofNat 4 n ++ rest := by
  simp only [takeVariant, bind_eq_ok, takeNat_eq_ok]
  constructor
  · rintro ⟨n, between, ⟨small, rfl⟩, chosen⟩
    cases found : variants[n]? with
    | none =>
        rw [found] at chosen
        cases chosen
    | some known =>
        rw [found] at chosen
        obtain ⟨rfl, rfl⟩ := pure_eq_ok.mp chosen
        exact ⟨n, found, small, rfl⟩
  · rintro ⟨n, found, small, rfl⟩
    refine ⟨n, rest, ⟨small, rfl⟩, ?_⟩
    rw [found]
    rfl

theorem takeVariant_eq_ok_of_index {variants : List α} {index : α → Nat} {a : α}
    (listed : ∀ n a, variants[n]? = some a ↔ n = index a) (small : index a < 256 ^ 4) :
    takeVariant variants bytes = .ok (a, rest) ↔ bytes = ofNat 4 (index a) ++ rest := by
  simp only [takeVariant_eq_ok, listed]
  constructor
  · rintro ⟨n, rfl, -, rfl⟩
    rfl
  · rintro rfl
    exact ⟨index a, rfl, small, rfl⟩

theorem takeProtocol_eq_ok {p : Protocol} :
    takeVariant Protocol.all bytes = .ok (p, rest) ↔ bytes = ofNat 4 p.index ++ rest :=
  takeVariant_eq_ok_of_index (fun _ _ => Protocol.all_eq_some) (by cases p <;> decide)

theorem takeStatus_eq_ok {s : Status} :
    takeVariant Status.all bytes = .ok (s, rest) ↔ bytes = ofNat 4 s.index ++ rest :=
  takeVariant_eq_ok_of_index (fun _ _ => Status.all_eq_some) (by cases s <;> decide)

theorem takeChars_eq_ok {length : Nat} {s : String} :
    takeChars length bytes = .ok (s, rest) ↔
      (Text.Utf8.encode s).length = length ∧ bytes = Text.Utf8.encode s ++ rest := by
  simp only [takeChars]
  constructor
  · intro read
    split at read
    · cases read
    · next enough =>
      split at read
      · next spelt =>
        obtain ⟨rfl, rfl⟩ := Prod.mk.inj (Except.ok.inj read)
        rw [Text.Utf8.encode_of_decode? spelt, List.length_take, List.take_append_drop]
        exact ⟨by omega, rfl⟩
      · cases read
  · rintro ⟨rfl, rfl⟩
    have enough : ¬(Text.Utf8.encode s ++ rest).length < (Text.Utf8.encode s).length := by
      rw [List.length_append]
      omega
    rw [if_neg enough, List.take_left, List.drop_left, Text.Utf8.decode?_encode]

theorem takeText_eq_ok {s : String} :
    takeText bytes = .ok (s, rest) ↔ s.utf8ByteSize < 256 ^ 8 ∧ bytes = ofText s ++ rest := by
  simp only [takeText, bind_eq_ok, takeNat_eq_ok, takeChars_eq_ok, ofText,
    ← Text.Utf8.length_encode]
  constructor
  · rintro ⟨n, between, ⟨small, rfl⟩, rfl, rfl⟩
    exact ⟨small, (List.append_assoc _ _ _).symm⟩
  · rintro ⟨small, rfl⟩
    exact ⟨_, _, ⟨small, List.append_assoc _ _ _⟩, rfl, rfl⟩

theorem takeOptional_eq_ok {o : Option Nat} :
    takeOptional bytes = .ok (o, rest) ↔ (∀ n ∈ o, n < 256 ^ 8) ∧ bytes = ofOptional o ++ rest := by
  simp only [takeOptional, bind_eq_ok, takeNat_eq_ok]
  constructor
  · rintro ⟨mark, between, ⟨small, rfl⟩, marked⟩
    split at marked
    · next absent =>
      obtain ⟨rfl, rfl⟩ := pure_eq_ok.mp marked
      subst absent
      exact ⟨nofun, rfl⟩
    · split at marked
      · next present =>
        obtain ⟨n, last, read, done⟩ := bind_eq_ok.mp marked
        obtain ⟨rfl, rfl⟩ := pure_eq_ok.mp done
        obtain ⟨fits, rfl⟩ := takeNat_eq_ok.mp read
        subst present
        refine ⟨?_, rfl⟩
        rintro m ⟨⟩
        exact fits
      · cases marked
  · rintro ⟨fits, rfl⟩
    cases o with
    | none => exact ⟨0, rest, ⟨by decide, rfl⟩, rfl⟩
    | some n =>
        refine ⟨1, ofNat 8 n ++ rest, ⟨by decide, rfl⟩, ?_⟩
        exact bind_eq_ok.mpr ⟨n, rest, takeNat_eq_ok.mpr ⟨fits n rfl, rfl⟩, rfl⟩

theorem map_map_eq_self {f : α → β} {g : β → α} {o : Option α} (back : ∀ a ∈ o, g (f a) = a) :
    (o.map f).map g = o := by
  cases o with
  | none => rfl
  | some a => exact congrArg some (back a rfl)

end Wire

namespace Beacon

open Wire

variable {b c : Beacon} {bytes rest cut : List UInt8}

/-- The lengths of the names of both lanes fit in the eight bytes that they have on the wire, as the
    length of everything that is held in memory does. -/
def Fits (b : Beacon) : Prop :=
  b.route.entry.name.utf8ByteSize < 2 ^ 64 ∧ b.route.exit.name.utf8ByteSize < 2 ^ 64

instance (b : Beacon) : Decidable b.Fits := inferInstanceAs (Decidable (_ ∧ _))

theorem toBytes_append (b : Beacon) (rest : List UInt8) :
    b.toBytes ++ rest =
      ofNat 1 b.sender.toNat ++ (ofNat 4 b.protocol.index ++ (ofNat 4 b.status.index ++
        (ofText b.route.entry.name ++ (ofText b.route.exit.name ++ (ofNat 8 b.sequence.toNat ++
          (ofOptional (b.entryTime.map Timestamp.ms) ++
            (ofOptional (b.crossingMs.map UInt64.toNat) ++ rest))))))) := by
  simp only [toBytes, List.append_assoc]

/-- A beacon is taken off the bytes exactly if they begin with its own. -/
theorem take_eq_ok : take bytes = .ok (b, rest) ↔ b.Fits ∧ bytes = b.toBytes ++ rest := by
  simp only [take, bind_eq_ok, takeNat_eq_ok, takeProtocol_eq_ok, takeStatus_eq_ok, takeText_eq_ok,
    takeOptional_eq_ok, pure_eq_ok, toBytes_append, Fits]
  constructor
  · rintro ⟨sender, _, ⟨octet, rfl⟩, protocol, _, rfl, status, _, rfl, entry, _,
      ⟨entryFits, rfl⟩, exit, _, ⟨exitFits, rfl⟩, sequence, _, ⟨word, rfl⟩, entryTime, _,
      ⟨instant, rfl⟩, crossingMs, _, ⟨span, rfl⟩, rfl, rfl⟩
    have id : (⟨UInt8.ofNat sender⟩ : VehicleId).toNat = sender := UInt8.toNat_ofNat_of_lt' octet
    have count : (UInt64.ofNat sequence).toNat = sequence := UInt64.toNat_ofNat_of_lt' word
    have time : (entryTime.map Timestamp.wrapping).map Timestamp.ms = entryTime :=
      map_map_eq_self fun n known => Nat.mod_eq_of_lt (instant n known)
    have stay : (crossingMs.map UInt64.ofNat).map UInt64.toNat = crossingMs :=
      map_map_eq_self fun n known => UInt64.toNat_ofNat_of_lt' (span n known)
    refine ⟨⟨entryFits, exitFits⟩, ?_⟩
    rw [id, count, time, stay]
  · rintro ⟨⟨entryFits, exitFits⟩, rfl⟩
    refine ⟨_, _, ⟨b.sender.toNat_lt, rfl⟩, _, _, rfl, _, _, rfl, _, _, ⟨entryFits, rfl⟩, _, _,
      ⟨exitFits, rfl⟩, _, _, ⟨b.sequence.toNat_lt, rfl⟩, _, _, ⟨?_, rfl⟩, _, _, ⟨?_, rfl⟩, ?_, rfl⟩
    · intro n known
      obtain ⟨t, -, rfl⟩ := Option.map_eq_some_iff.mp known
      exact t.bounded
    · intro n known
      obtain ⟨ms, -, rfl⟩ := Option.map_eq_some_iff.mp known
      exact ms.toNat_lt
    · have id : (⟨UInt8.ofNat b.sender.toNat⟩ : VehicleId) = b.sender :=
        congrArg VehicleId.mk UInt8.ofNat_toNat
      have time : (b.entryTime.map Timestamp.ms).map Timestamp.wrapping = b.entryTime :=
        map_map_eq_self fun t _ => Timestamp.ext (Nat.mod_eq_of_lt t.bounded)
      have stay : (b.crossingMs.map UInt64.toNat).map UInt64.ofNat = b.crossingMs :=
        map_map_eq_self fun _ _ => UInt64.ofNat_toNat
      rw [id, time, stay, UInt64.ofNat_toNat]

theorem ofBytes_eq_ok : ofBytes bytes = .ok b ↔ b.Fits ∧ b.toBytes <+: bytes := by
  have parts : ofBytes bytes = .ok b ↔ ∃ rest, take bytes = .ok (b, rest) := by
    change (take bytes).map Prod.fst = _ ↔ _
    rcases take bytes with fault | ⟨c, rest⟩
    · simp [Except.map]
    · simp [Except.map]
  simp only [parts, take_eq_ok, exists_and_left]
  exact and_congr_right fun _ => exists_congr fun _ => eq_comm

/-- No beacon's bytes begin with those of another one. -/
theorem eq_of_toBytes_begins (fits : b.Fits) (fits' : c.Fits) (front : b.toBytes <+: c.toBytes) :
    b = c := by
  have whole := ofBytes_eq_ok.mpr ⟨fits', List.prefix_refl c.toBytes⟩
  exact Except.ok.inj ((ofBytes_eq_ok.mpr ⟨fits, front⟩).symm.trans whole)

theorem ofBytes_eq_error_of_cut (fits : b.Fits) (front : cut <+: b.toBytes)
    (short : cut ≠ b.toBytes) : ∃ fault, ofBytes cut = .error fault := by
  cases read : ofBytes cut with
  | error fault => exact ⟨fault, rfl⟩
  | ok c =>
      obtain ⟨fits', inside⟩ := ofBytes_eq_ok.mp read
      obtain rfl := eq_of_toBytes_begins fits' fits (inside.trans front)
      exact absurd (front.eq_of_length_le inside.length_le) short

/-- What can be read is exactly what can be written, with anything behind it: a beacon comes back
    from its bytes, whatever follows, and bytes from which it comes begin with its own. So they are
    refused if they break off, and distinct beacons have no bytes of which one begins with the
    other. -/
theorem reads_exactly_written :
    (∀ b : Beacon, b.Fits → ∀ rest, ofBytes (b.toBytes ++ rest) = .ok b) ∧
      (∀ bytes b, ofBytes bytes = .ok b → b.Fits ∧ b.toBytes <+: bytes) ∧
      (∀ b : Beacon, b.Fits → ∀ cut, cut <+: b.toBytes → cut ≠ b.toBytes →
        ∃ fault, ofBytes cut = .error fault) ∧
      ∀ b c : Beacon, b.Fits → c.Fits → b ≠ c → ¬b.toBytes <+: c.toBytes := by
  refine ⟨?_, ?_, ?_, ?_⟩
  · intro b fits rest
    exact ofBytes_eq_ok.mpr ⟨fits, List.prefix_append _ _⟩
  · intro bytes b read
    exact ofBytes_eq_ok.mp read
  · intro b fits cut front short
    exact ofBytes_eq_error_of_cut fits front short
  · intro b c fits fits' distinct front
    exact distinct (eq_of_toBytes_begins fits fits' front)

/-- A vehicle that is inside, on lanes with names beyond the seven-bit letters. -/
def fromSouth : Beacon where
  sender := ⟨7⟩
  protocol := .reservation
  status := .crossing
  route := ⟨⟨"Süd"⟩, ⟨"北"⟩⟩
  sequence := 42
  entryTime := some (.wrapping 1000)
  crossingMs := some 4000

/-- The beacon comes back before other bytes, and is refused where it breaks off in the middle of
    the last lane's name. -/
theorem reads_exactly_written_fromSouth :
    fromSouth.Fits ∧ ofBytes (fromSouth.toBytes ++ [255, 1]) = .ok fromSouth ∧
      (∃ fault, ofBytes (fromSouth.toBytes.take 30) = .error fault) ∧
      ¬fromSouth.toBytes <+: (Beacon.idle ⟨7⟩ .reservation fromSouth.route).toBytes := by
  have fits : fromSouth.Fits := by decide
  have short : fromSouth.toBytes.take 30 ≠ fromSouth.toBytes := by decide
  exact ⟨fits, reads_exactly_written.1 _ fits _,
    reads_exactly_written.2.2.1 _ fits _ (List.take_prefix _ _) short,
    reads_exactly_written.2.2.2 _ _ fits fits (by decide)⟩

end Beacon

end Junction
