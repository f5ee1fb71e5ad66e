import FrameLink.Proofs.Record.Frames
import FrameLink.Record.InPlace

/-!
What writing and reading a record in place comes to.

Where the buffer has room, a record is written into its window and nowhere else, and is read from
there whatever the record was before; every window holds the bytes of some record, so reading and
writing undo each other. Where it has no room, the work fails before it has changed anything. Both
ways it is what the functions on whole buffers say.
-/

namespace FrameLink

open Buffer

/-- The bytes in a window of a buffer. -/
def Buffer.inside (b : Bytes) (offset need : Nat) : Bytes := (b.drop offset).take need

/-- Buffers of one length with the same bytes outside of a window. -/
structure Buffer.AgreeOutside (offset need : Nat) (b b' : Bytes) : Prop where
  length : b'.length = b.length
  outside : ∀ i, i < offset ∨ offset + need ≤ i → b'[i]? = b[i]?

/-- What an edit does when it is done by a function that has no state to leave on an error. -/
def Edit.ofPure {σ : Type} (f : σ → Except MessageError σ) : Edit σ := fun s =>
  match f s with
  | .ok s' => (.ok (), s')
  | .error e => (.error (.failed e), s)

/-- The edit fails in one case only and with one error, never panics, and changes nothing unless it
succeeds. -/
structure Edit.FailsOnly {σ : Type} (e : Edit σ) (s : σ) (bad : Prop) (err : MessageError) :
    Prop where
  fails_iff : (e s).1 = .error (.failed err) ↔ bad
  only : ∀ stop, (e s).1 = .error stop → stop = .failed err
  unchanged : ∀ stop, (e s).1 = .error stop → (e s).2 = s

namespace Buffer

variable {b : Bytes} {offset need : Nat}

/-- A buffer with room is a window and the bytes around it. -/
lemma exists_between (h : offset + need ≤ b.length) : ∃ front w back : Bytes,
    b = front ++ (w ++ back) ∧ front.length = offset ∧ w.length = need := by
  refine ⟨b.take offset, (b.drop offset).take need, (b.drop offset).drop need, ?_, ?_, ?_⟩
  · simp only [List.take_append_drop]
  · rw [List.length_take]
    omega
  · rw [List.length_take, List.length_drop]
    omega

lemma inside_between {front w back : Bytes} (ho : front.length = offset) (hw : w.length = need) :
    inside (front ++ (w ++ back)) offset need = w := by
  subst ho
  rw [inside, List.drop_left, List.take_left' hw]

lemma agreeOutside_between {front w v back : Bytes} (ho : front.length = offset)
    (hw : w.length = need) (hv : v.length = need) :
    AgreeOutside offset need (front ++ (w ++ back)) (front ++ (v ++ back)) := by
  subst ho
  constructor
  · simp only [List.length_append, hw, hv]
  · rintro i (hi | hi)
    · rw [List.getElem?_append_left hi, List.getElem?_append_left hi]
    · have h1 : front.length ≤ i := by omega
      have h2 : w.length ≤ i - front.length := by omega
      have h3 : v.length ≤ i - front.length := by omega
      rw [List.getElem?_append_right h1, List.getElem?_append_right h1,
        List.getElem?_append_right h2, List.getElem?_append_right h3, hw, hv]

end Buffer

namespace InPlace

variable {α : Type} [Record α] [InPlace α] {b : Bytes} {offset : Nat} {a old : α} {f : Frame}
  {kind : Kind}

lemma encode_of_room (hb : b.length < addresses) (h : offset + Record.size α ≤ b.length) :
    encode a offset b
      = (.ok (), b.take offset ++ Record.bytes a ++ b.drop (offset + Record.size α)) := by
  obtain ⟨front, w, back, rfl, ho, hw⟩ := exists_between h
  subst ho
  have hback : (front ++ (w ++ back)).drop (front.length + Record.size α) = back := by
    rw [← List.append_assoc]
    exact List.drop_left' (by simp [hw])
  rw [encode_between a _ front w back rfl hw hb, List.take_left, hback, List.append_assoc]

lemma encode_of_no_room (h : b.length < offset + Record.size α) :
    encode a offset b
      = (.error (.failed (.bufferTooShort (Record.size α) offset b.length)), b) := by
  simp only [encode, onWindow, window_of_no_room h]

/-- A window holds the bytes of a record, and that is the record read. -/
lemma decode_of_room (hb : b.length < addresses) (h : offset + Record.size α ≤ b.length) :
    ∃ a : α, Record.bytes a = inside b offset (Record.size α) ∧
      ∀ old, decode b offset old = (.ok (), a) := by
  obtain ⟨front, w, back, rfl, ho, hw⟩ := exists_between h
  obtain ⟨a, ha⟩ := Option.isSome_iff_exists.mp (Record.isSome_ofBytes? (α := α) w hw)
  obtain rfl : Record.bytes a = w := Record.bytes_of_ofBytes? w a ha
  exact ⟨a, (inside_between ho hw).symm, fun old => decode_between a old offset front back ho hb⟩

lemma decode_of_no_room (h : b.length < offset + Record.size α) :
    decode b offset old
      = (.error (.failed (.bufferTooShort (Record.size α) offset b.length)), old) := by
  simp only [decode, window_of_no_room h]

/-! ### The same as on whole buffers -/

/-- Writing in place leaves the buffer that `Record.writeAt` returns. -/
lemma encode_eq_writeAt (hb : b.length < addresses) :
    encode a offset b = Edit.ofPure (Record.writeAt a · offset) b := by
  by_cases h : offset + Record.size α ≤ b.length
  · rw [encode_of_room hb h]
    simp only [Edit.ofPure, Record.writeAt, Record.window?, if_pos h, Except.map]
  · rw [encode_of_no_room (Nat.lt_of_not_ge h)]
    simp only [Edit.ofPure, Record.writeAt, Record.window?, if_neg h, Except.map]

/-- Reading in place leaves the record that `Record.readAt` returns. -/
lemma decode_eq_readAt (hb : b.length < addresses) :
    decode b offset old = Edit.ofPure (fun _ => Record.readAt b offset) old := by
  by_cases h : offset + Record.size α ≤ b.length
  · obtain ⟨a, ha, hd⟩ := decode_of_room (α := α) hb h
    have hread : Record.readAt b offset = .ok a := by
      have hof : Record.ofBytes? (inside b offset (Record.size α)) = some a :=
        Record.ofBytes?_eq_some_iff.mpr ha
      simp only [inside] at hof
      simp only [Record.readAt, Record.window?, if_pos h, Except.map, Record.ofBytes, hof,
        Option.getD_some]
    rw [hd]
    simp only [Edit.ofPure, hread]
  · rw [decode_of_no_room (Nat.lt_of_not_ge h)]
    simp only [Edit.ofPure, Record.readAt, Record.window?, if_neg h, Except.map]

lemma length_payload_lt (f : Frame) : f.payload.length < addresses :=
  Nat.lt_of_le_of_lt f.length_le (by decide)

lemma readFrame_eq_ofFrame : readFrame f old = Edit.ofPure (fun _ => Record.ofFrame f) old := by
  unfold readFrame Record.ofFrame
  by_cases h : Record.size α < f.payload.length
  · simp only [if_pos h, Edit.ofPure]
  · simp only [if_neg h]
    exact decode_eq_readAt (length_payload_lt f)

lemma toFrame_eq : toFrame kind a = .ok (Record.toFrame kind a) := by
  have hlen : (List.replicate (Record.size α) (0 : UInt8)).length = Record.size α :=
    List.length_replicate
  have hlt : ([] ++ (List.replicate (Record.size α) (0 : UInt8) ++ [])).length < addresses := by
    have := Record.size_le (α := α)
    simp only [List.nil_append, List.append_nil, hlen, maxPayload, addresses, UInt64.size] at this ⊢
    omega
  have henc := encode_between a 0 [] _ [] rfl hlen hlt
  simp only [List.nil_append, List.append_nil] at henc
  simp only [toFrame, henc, Frame.make_of_le (Record.length_bytes_le a)]
  rfl

/-! ### When it fails -/

lemma failsOnly_of_cases {σ : Type} {e : Edit σ} {s : σ} {bad : Prop} {err : MessageError}
    (hno : bad → e s = (.error (.failed err), s)) (hroom : ¬ bad → (e s).1 = .ok ()) :
    Edit.FailsOnly e s bad err := by
  by_cases h : bad
  · have heq := hno h
    constructor
    · simp only [heq, h]
    · intro stop hs
      rw [heq, Except.error.injEq] at hs
      exact hs.symm
    · intro stop hs
      rw [heq]
  · have heq := hroom h
    constructor
    · simp [heq, h]
    · intro stop hs
      simp [heq] at hs
    · intro stop hs
      simp [heq] at hs

lemma encode_failsOnly (hb : b.length < addresses) :
    Edit.FailsOnly (encode a offset) b (b.length < offset + Record.size α)
      (.bufferTooShort (Record.size α) offset b.length) := by
  refine failsOnly_of_cases encode_of_no_room fun h => ?_
  rw [encode_of_room hb (Nat.le_of_not_gt h)]

lemma decode_failsOnly (hb : b.length < addresses) :
    Edit.FailsOnly (decode b offset) old (b.length < offset + Record.size α)
      (.bufferTooShort (Record.size α) offset b.length) := by
  refine failsOnly_of_cases decode_of_no_room fun h => ?_
  obtain ⟨a, -, ha⟩ := decode_of_room (α := α) hb (Nat.le_of_not_gt h)
  rw [ha]

lemma readFrame_of_length (f : Frame) (h : f.payload.length = Record.size α) :
    ∃ a : α, Record.bytes a = f.payload ∧ ∀ old, readFrame f old = (.ok (), a) := by
  obtain ⟨a, ha⟩ := Option.isSome_iff_exists.mp (Record.isSome_ofBytes? (α := α) f.payload h)
  have hbytes : Record.bytes a = f.payload := Record.bytes_of_ofBytes? f.payload a ha
  refine ⟨a, hbytes, fun old => ?_⟩
  rw [readFrame_eq_ofFrame]
  simp only [Edit.ofPure, Record.ofFrame_eq_ok_iff.mpr hbytes]

end InPlace

namespace RecordSort

open InPlace

/-- **What was written is read back, and what was read is written back.** For every sort of
record, wherever the buffer has room: every record can be written there, changes nothing around it
and is read back whatever the record was before; and the bytes that stand there are read as a record
that, written there or anywhere else, gives those bytes again. -/
theorem codec_round_trip (s : RecordSort) (b : Bytes) (offset : Nat) (hb : b.length < addresses)
    (hroom : offset + Record.size s.Carrier ≤ b.length) :
    (∀ r : s.Carrier, ∃ c, encode r offset b = (.ok (), c) ∧
      AgreeOutside offset (Record.size s.Carrier) b c ∧
      ∀ old, decode c offset old = (.ok (), r)) ∧
    ∃ r : s.Carrier, (∀ old, decode b offset old = (.ok (), r)) ∧
      encode r offset b = (.ok (), b) ∧
      ∀ (c : Bytes) (k : Nat), c.length < addresses → k + Record.size s.Carrier ≤ c.length →
        ∃ d, encode r k c = (.ok (), d) ∧
          inside d k (Record.size s.Carrier) = inside b offset (Record.size s.Carrier) := by
  obtain ⟨front, w, back, rfl, ho, hw⟩ := exists_between hroom
  constructor
  · intro r
    have hc : (front ++ (Record.bytes r ++ back)).length < addresses := by
      simp only [List.length_append, Record.length_bytes, hw] at hb ⊢
      exact hb
    refine ⟨_, encode_between r offset front w back ho hw hb, ?_, ?_⟩
    · exact agreeOutside_between ho hw (Record.length_bytes r)
    · intro old
      exact decode_between r old offset front back ho hc
  · -- the record whose bytes stand in the window
    obtain ⟨r, hr, hread⟩ := decode_of_room (α := s.Carrier) hb hroom
    rw [inside_between ho hw] at hr
    subst hr
    refine ⟨r, hread, encode_between r offset front _ back ho hw hb, ?_⟩
    intro c k hc hk
    obtain ⟨before, v, behind, rfl, hk', hv⟩ := exists_between hk
    refine ⟨_, encode_between r k before v behind hk' hv hc, ?_⟩
    rw [inside_between hk' (Record.length_bytes r), inside_between ho hw]

/-- A report, written three bytes into a buffer that held other bytes. -/
theorem codec_round_trip_report :
    ∃ c, encode (Record.zero : GroundReport) 3 (List.replicate 70 7) = (.ok (), c) ∧
      AgreeOutside 3 62 (List.replicate 70 7) c ∧
      ∀ old : GroundReport, decode c 3 old = (.ok (), Record.zero) :=
  (codec_round_trip .groundReport (List.replicate 70 7) 3 (by decide) (by decide)).1 Record.zero

/-- **Records fail in one way each, and before they change anything.** In a buffer, where there is
no room for the record, and with the error that says so; from a frame, if its payload is too short
or too long, with the error that says which. Nothing panics, and of every record a valid frame can
be made. -/
theorem fails_exactly_and_atomically (s : RecordSort) (b : Bytes) (hb : b.length < addresses) :
    (∀ (offset : Nat) (r : s.Carrier),
      Edit.FailsOnly (encode r offset) b (b.length < offset + Record.size s.Carrier)
          (.bufferTooShort (Record.size s.Carrier) offset b.length) ∧
        Edit.FailsOnly (decode b offset) r (b.length < offset + Record.size s.Carrier)
          (.bufferTooShort (Record.size s.Carrier) offset b.length)) ∧
    (∀ (f : Frame) (r : s.Carrier),
      ((readFrame f r).1 = .ok () ↔ f.payload.length = Record.size s.Carrier) ∧
        (f.payload.length < Record.size s.Carrier → readFrame f r =
          (.error (.failed (.bufferTooShort (Record.size s.Carrier) 0 f.payload.length)), r)) ∧
        (Record.size s.Carrier < f.payload.length → readFrame f r =
          (.error (.failed (.sizeMismatch f.kind (Record.size s.Carrier) f.payload.length)), r))) ∧
    ∀ (kind : Kind) (r : s.Carrier), ∃ f, toFrame kind r = .ok f ∧
      f.IsValid ∧ f.kind = kind ∧ f.payload = Record.bytes r := by
  refine ⟨?_, ?_, ?_⟩
  · intro offset r
    exact ⟨encode_failsOnly hb, decode_failsOnly hb⟩
  · intro f r
    have hshort : f.payload.length < Record.size s.Carrier → readFrame f r =
        (.error (.failed (.bufferTooShort (Record.size s.Carrier) 0 f.payload.length)), r) := by
      intro h
      rw [readFrame, if_neg (Nat.not_lt_of_gt h), decode_of_no_room (by omega)]
    have hlong : Record.size s.Carrier < f.payload.length → readFrame f r =
        (.error (.failed (.sizeMismatch f.kind (Record.size s.Carrier) f.payload.length)), r) := by
      intro h
      rw [readFrame, if_pos h]
    refine ⟨⟨fun hok => ?_, fun heq => ?_⟩, hshort, hlong⟩
    · rcases Nat.lt_trichotomy f.payload.length (Record.size s.Carrier) with h | h | h
      · rw [hshort h] at hok
        cases hok
      · exact h
      · rw [hlong h] at hok
        cases hok
    · obtain ⟨a, -, ha⟩ := readFrame_of_length (α := s.Carrier) f heq
      rw [ha]
  · intro kind r
    exact ⟨Record.toFrame kind r, toFrame_eq, Frame.sealed_isValid _, rfl, rfl⟩

/-- A report does not fit into three bytes, and none of them is changed. -/
theorem fails_exactly_and_atomically_report :
    Edit.FailsOnly (encode (Record.zero : GroundReport) 0) [1, 2, 3] (3 < 0 + 62)
      (.bufferTooShort 62 0 3) :=
  ((fails_exactly_and_atomically .groundReport [1, 2, 3] (by decide)).1 0 Record.zero).1

end RecordSort

end FrameLink
