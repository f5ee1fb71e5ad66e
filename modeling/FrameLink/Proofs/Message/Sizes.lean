import Mathlib.Tactic.IntervalCases
import FrameLink.Proofs.Message.Frames
import FrameLink.Proofs.Record.InPlace
import FrameLink.Message.InPlace

/-!
Which frames are messages.

Of every assigned kind but the byte stream the payload has one size, by the table of sizes as by the
record that is read. A frame of that size is read as a message, and of every other frame the error says
what is wrong with it.
-/

namespace FrameLink

namespace Kind

variable {k : Kind}

/-- The kinds that stand for a message; those above are reserved or unknown. -/
def IsAssigned (k : Kind) : Prop := 0x01 ≤ k ∧ k ≤ 0x13

instance (k : Kind) : Decidable k.IsAssigned := inferInstanceAs (Decidable (_ ∧ _))

lemma IsAssigned.cases (h : k.IsAssigned) :
    k = sensorData ∨ k = motorSignals ∨ k = motorOffsets ∨ k = modeState ∨ k = groundReport ∨
      k = traceData ∨ k = commandData ∨ k = rollPitchGains ∨ k = yawGains ∨ k = altitudeGains ∨
      k = xyGains ∨ k = idleLimit ∨ k = byteStream ∨ k = switchState ∨ k = switchMode ∨
      k = storeTrim ∨ k = clearTrim ∨ k = shutDown ∨ k = enableSensors := by
  have h1 : 1 ≤ k.toNat := UInt8.le_iff_toNat_le.mp h.1
  have h2 : k.toNat ≤ 19 := UInt8.le_iff_toNat_le.mp h.2
  simp only [← UInt8.toNat_inj]
  interval_cases k.toNat <;> decide

lemma payloadSize?_of_not_isAssigned (h : ¬ k.IsAssigned) : k.payloadSize? = none := by
  have hout : ¬ (1 ≤ k.toNat ∧ k.toNat ≤ 19) := fun ⟨h1, h2⟩ =>
    h ⟨UInt8.le_iff_toNat_le.mpr h1, UInt8.le_iff_toNat_le.mpr h2⟩
  unfold payloadSize?
  split <;> first | omega | rfl

/-- The requests without a payload are those that the table gives no bytes. -/
lemma isBareRequest_iff : k.isBareRequest = true ↔ k.payloadSize? = some 0 := by
  constructor
  · intro h
    simp only [isBareRequest, Bool.or_eq_true, beq_iff_eq] at h
    rcases h with ((rfl | rfl) | rfl) | rfl <;> rfl
  · intro h
    by_cases hk : k.IsAssigned
    · revert h
      rcases hk.cases with rfl | rfl | rfl | rfl | rfl | rfl | rfl | rfl | rfl | rfl | rfl | rfl |
        rfl | rfl | rfl | rfl | rfl | rfl | rfl <;> decide
    · rw [payloadSize?_of_not_isAssigned hk] at h
      cases h

end Kind

namespace Message

variable {f : Frame} {m : Message} {n : Nat} {result : Except MessageError Message}

/-- What comes of a frame that should have a payload of `n` bytes. -/
structure Sized (f : Frame) (n : Nat) (result : Except MessageError Message) : Prop where
  fits : f.payload.length = n → ∃ m, result = .ok m
  long : n < f.payload.length → result = .error (.sizeMismatch f.kind n f.payload.length)
  short : f.payload.length < n → result = .error (.bufferTooShort n 0 f.payload.length)

lemma sized_record {α : Type} [Record α] (make : α → Message) :
    Sized f (Record.size α) (make <$> Record.ofFrame f) := by
  constructor
  · intro h
    obtain ⟨a, ha⟩ := Option.isSome_iff_exists.mp (Record.isSome_ofBytes? (α := α) f.payload h)
    exact ⟨make a, map_ofFrame_of_bytes (Record.bytes_of_ofBytes? f.payload a ha)⟩
  · intro h
    rw [Record.ofFrame, if_pos h]
    rfl
  · intro h
    have hroom : ¬ 0 + Record.size α ≤ f.payload.length := by omega
    rw [Record.ofFrame, if_neg (Nat.not_lt_of_gt h), Record.readAt, Record.window?, if_neg hroom]
    rfl

lemma sized_bare (m : Message) : Sized f 0 (bare f m) := by
  constructor
  · intro h
    exact ⟨m, if_pos (List.length_eq_zero_iff.mp h)⟩
  · intro h
    exact if_neg (List.ne_nil_of_length_pos h)
  · intro h
    exact absurd h (Nat.not_lt_zero _)

/-- Of an assigned kind, a byte stream is whatever it carries, and all else has its size. -/
lemma ofFrame_of_isAssigned (h : f.kind.IsAssigned) :
    (f.kind = Kind.byteStream ∧ ofFrame f = .ok (.byteStream f.payload)) ∨
      ∃ n, f.kind.payloadSize? = some n ∧ Sized f n (ofFrame f) := by
  obtain ⟨kind, payload, checksum, hle⟩ := f
  rcases h.cases with h | h | h | h | h | h | h | h | h | h | h | h | h | h | h | h | h | h | h <;>
    simp only at h <;> subst h
  · exact Or.inr ⟨42, rfl, sized_record .sensor⟩
  · exact Or.inr ⟨10, rfl, sized_record .motorSignals⟩
  · exact Or.inr ⟨8, rfl, sized_record .motorOffsets⟩
  · exact Or.inr ⟨2, rfl, sized_record .modeState⟩
  · exact Or.inr ⟨62, rfl, sized_record .groundReport⟩
  · exact Or.inr ⟨32, rfl, sized_record .trace⟩
  · exact Or.inr ⟨8, rfl, sized_record .command⟩
  · exact Or.inr ⟨8, rfl, sized_record (.gains .rollPitch)⟩
  · exact Or.inr ⟨8, rfl, sized_record (.gains .yaw)⟩
  · exact Or.inr ⟨8, rfl, sized_record (.gains .altitude)⟩
  · exact Or.inr ⟨8, rfl, sized_record (.gains .xy)⟩
  · exact Or.inr ⟨8, rfl, sized_record .revving⟩
  · exact Or.inl ⟨rfl, rfl⟩
  · exact Or.inr ⟨1, rfl, sized_record .switchState⟩
  · exact Or.inr ⟨1, rfl, sized_record .switchMode⟩
  · exact Or.inr ⟨0, rfl, sized_bare .storeTrim⟩
  · exact Or.inr ⟨0, rfl, sized_bare .clearTrim⟩
  · exact Or.inr ⟨0, rfl, sized_bare .shutDown⟩
  · exact Or.inr ⟨0, rfl, sized_bare .enableSensors⟩

lemma ofFrame_of_not_isAssigned (h : ¬ f.kind.IsAssigned) :
    ofFrame f = .error (.unknownKind f.kind) := by
  have hne : ∀ k : Kind, k.IsAssigned → f.kind ≠ k := fun k hk he => h (he ▸ hk)
  have haxis : GainAxis.ofKind? f.kind = none := by
    rw [GainAxis.ofKind?, List.find?_eq_none]
    intro axis _
    have hk : axis.kind.IsAssigned := by cases axis <;> decide
    simpa using Ne.symm (hne axis.kind hk)
  simp (disch := decide) only [ofFrame, hne, if_false, haxis]

lemma ofFrame_sized (h : f.kind.payloadSize? = some n) : Sized f n (ofFrame f) := by
  by_cases hk : f.kind.IsAssigned
  · rcases ofFrame_of_isAssigned hk with ⟨hstream, -⟩ | ⟨n', hn, hsized⟩
    · rw [hstream] at h
      cases h
    · rw [h, Option.some.injEq] at hn
      exact hn ▸ hsized
  · rw [Kind.payloadSize?_of_not_isAssigned hk] at h
    cases h

lemma Sized.ok_iff (h : Sized f n result) : (∃ m, result = .ok m) ↔ f.payload.length = n := by
  rcases Nat.lt_trichotomy f.payload.length n with hlt | heq | hgt
  · simp [h.short hlt, Nat.ne_of_lt hlt]
  · exact iff_of_true (h.fits heq) heq
  · simp [h.long hgt, Nat.ne_of_gt hgt]

lemma Sized.error_iff {e : MessageError} (h : Sized f n result) : result = .error e ↔
    (n < f.payload.length ∧ e = .sizeMismatch f.kind n f.payload.length) ∨
      (f.payload.length < n ∧ e = .bufferTooShort n 0 f.payload.length) := by
  rcases Nat.lt_trichotomy f.payload.length n with hlt | heq | hgt
  · simp [h.short hlt, hlt, Nat.not_lt_of_gt hlt, eq_comm]
  · obtain ⟨m, hm⟩ := h.fits heq
    simp [hm, heq]
  · simp [h.long hgt, hgt, Nat.not_lt_of_gt hgt, eq_comm]

/-- A frame is a byte stream, or of another assigned kind and so of one size, or unknown. -/
lemma ofFrame_cases (f : Frame) :
    (f.kind = Kind.byteStream ∧ ofFrame f = .ok (.byteStream f.payload)) ∨
      (∃ n, f.kind.IsAssigned ∧ f.kind.payloadSize? = some n ∧ Sized f n (ofFrame f)) ∨
      ¬ f.kind.IsAssigned ∧ ofFrame f = .error (.unknownKind f.kind) := by
  by_cases hk : f.kind.IsAssigned
  · rcases ofFrame_of_isAssigned hk with hstream | ⟨n, hn, hsized⟩
    · exact Or.inl hstream
    · exact Or.inr (Or.inl ⟨n, hk, hn, hsized⟩)
  · exact Or.inr (Or.inr ⟨hk, ofFrame_of_not_isAssigned hk⟩)

lemma ofFrame_ok_iff (f : Frame) : (∃ m, ofFrame f = .ok m) ↔
    f.kind = Kind.byteStream ∨ f.kind.payloadSize? = some f.payload.length := by
  rcases ofFrame_cases f with ⟨hk, hread⟩ | ⟨n, -, hn, hsized⟩ | ⟨hk, hread⟩
  · exact iff_of_true ⟨_, hread⟩ (Or.inl hk)
  · rw [hsized.ok_iff, hn, Option.some.injEq, eq_comm (a := n), or_iff_right]
    exact fun hstream => by rw [hstream] at hn; cases hn
  · refine iff_of_false ?_ (not_or.mpr ⟨?_, ?_⟩)
    · rintro ⟨m, hm⟩
      rw [hread] at hm
      cases hm
    · exact fun hstream => hk (by rw [hstream]; decide)
    · rw [Kind.payloadSize?_of_not_isAssigned hk]
      exact nofun

lemma ofFrame_error_iff (f : Frame) (e : MessageError) : ofFrame f = .error e ↔
    (¬ f.kind.IsAssigned ∧ e = .unknownKind f.kind) ∨
      ∃ n, f.kind.payloadSize? = some n ∧
        ((n < f.payload.length ∧ e = .sizeMismatch f.kind n f.payload.length) ∨
          (f.payload.length < n ∧ e = .bufferTooShort n 0 f.payload.length)) := by
  rcases ofFrame_cases f with ⟨hk, hread⟩ | ⟨n, hk, hn, hsized⟩ | ⟨hk, hread⟩
  · have hassigned : f.kind.IsAssigned := by rw [hk]; decide
    have hnone : f.kind.payloadSize? = none := by rw [hk]; rfl
    simp [hread, hassigned, hnone]
  · simp [hsized.error_iff, hk, hn]
  · simp [hread, hk, Kind.payloadSize?_of_not_isAssigned hk, eq_comm]

/-! ### In place -/

lemma readAs_eq {α : Type} [Record α] [InPlace α] (make : α → Message) (f : Frame) :
    readAs make f = (make <$> Record.ofFrame f).mapError .failed := by
  rw [readAs, InPlace.readFrame_eq_ofFrame, Edit.ofPure]
  cases Record.ofFrame (α := α) f <;> rfl

lemma ite_mapError {c : Prop} [Decidable c] {x y : Except Stop Message}
    {x' y' : Except MessageError Message} (hx : c → x = x'.mapError .failed)
    (hy : y = y'.mapError .failed) :
    (if c then x else y) = (if c then x' else y').mapError .failed := by
  split
  · next hc => exact hx hc
  · exact hy

/-- **Reading with records in place gives what `ofFrame` gives**, and never panics. -/
lemma read_eq (f : Frame) : read f = (ofFrame f).mapError .failed := by
  by_cases h : (f.kind.isBareRequest && !f.payload.isEmpty) = true
  · rw [read, if_pos h]
    simp only [Bool.and_eq_true, Bool.not_eq_true', List.isEmpty_eq_false_iff] at h
    have hlong : 0 < f.payload.length := List.length_pos_iff.mpr h.2
    rw [(ofFrame_sized (Kind.isBareRequest_iff.mp h.1)).long hlong]
    rfl
  · rw [read, if_neg h]
    have hrecord {k : Kind} {α : Type} [Record α] [InPlace α] (make : α → Message) :
        f.kind = k → readAs make f = (make <$> Record.ofFrame f).mapError .failed :=
      fun _ => readAs_eq make f
    have hbare {k : Kind} (hk : k.isBareRequest = true) (m : Message) (he : f.kind = k) :
        Except.ok m = (bare f m).mapError Stop.failed := by
      have hp : f.payload = [] := by simpa [he, hk] using h
      rw [bare, if_pos hp]
      rfl
    refine ite_mapError (hrecord _) <| ite_mapError (hrecord _) <| ite_mapError (hrecord _) <|
      ite_mapError (hrecord _) <| ite_mapError (hrecord _) <| ite_mapError (hrecord _) <|
      ite_mapError (hrecord _) <| ite_mapError (hrecord _) <| ite_mapError (fun _ => rfl) <|
      ite_mapError (hrecord _) <| ite_mapError (hrecord _) <| ite_mapError (hbare rfl _) <|
      ite_mapError (hbare rfl _) <| ite_mapError (hbare rfl _) <| ite_mapError (hbare rfl _) ?_
    cases GainAxis.ofKind? f.kind with
    | some axis => exact readAs_eq _ f
    | none => rfl

lemma read_ok_iff (f : Frame) (m : Message) : read f = .ok m ↔ ofFrame f = .ok m := by
  rw [read_eq]
  cases ofFrame f <;> simp [Except.mapError]

lemma read_error_iff (f : Frame) (stop : Stop) :
    read f = .error stop ↔ ∃ e, ofFrame f = .error e ∧ stop = .failed e := by
  rw [read_eq]
  cases ofFrame f <;> simp [Except.mapError, eq_comm]

/--
**Which frames are messages.** A frame is read when it is a byte stream or its payload has the size of
its kind, and never else. The error of a frame that is not says its kind when that is unknown, and
otherwise which size it should have; nothing else stops the reading. What checksum the frame carries
does not matter.
-/
theorem read_by_kind_and_length (f : Frame) :
    read f = (ofFrame f).mapError .failed ∧
    ((∃ m, read f = .ok m) ↔
      f.kind = Kind.byteStream ∨ f.kind.payloadSize? = some f.payload.length) ∧
    (read f = .error (.failed (.unknownKind f.kind)) ↔ ¬ f.kind.IsAssigned) ∧
    (∀ stop, read f = .error stop ↔
      (¬ f.kind.IsAssigned ∧ stop = .failed (.unknownKind f.kind)) ∨
        ∃ n, f.kind.payloadSize? = some n ∧
          ((n < f.payload.length ∧ stop = .failed (.sizeMismatch f.kind n f.payload.length)) ∨
            (f.payload.length < n ∧ stop = .failed (.bufferTooShort n 0 f.payload.length)))) ∧
    (f.kind.isBareRequest = true ↔ f.kind.payloadSize? = some 0) ∧
    ∀ sum, read { f with checksum := sum } = read f := by
  refine ⟨read_eq f, ?ok, ?unknown, ?error, Kind.isBareRequest_iff, ?sum⟩
  case ok =>
    simp only [read_ok_iff, ofFrame_ok_iff]
  case unknown =>
    simp [read_error_iff, ofFrame_error_iff]
  case error =>
    intro stop
    simp only [read_error_iff, ofFrame_error_iff]
    constructor
    · rintro ⟨e, ⟨hk, rfl⟩ | ⟨n, hn, ⟨hlen, rfl⟩ | ⟨hlen, rfl⟩⟩, rfl⟩
      · exact Or.inl ⟨hk, rfl⟩
      · exact Or.inr ⟨n, hn, Or.inl ⟨hlen, rfl⟩⟩
      · exact Or.inr ⟨n, hn, Or.inr ⟨hlen, rfl⟩⟩
    · rintro (⟨hk, rfl⟩ | ⟨n, hn, ⟨hlen, rfl⟩ | ⟨hlen, rfl⟩⟩)
      · exact ⟨_, Or.inl ⟨hk, rfl⟩, rfl⟩
      · exact ⟨_, Or.inr ⟨n, hn, Or.inl ⟨hlen, rfl⟩⟩, rfl⟩
      · exact ⟨_, Or.inr ⟨n, hn, Or.inr ⟨hlen, rfl⟩⟩, rfl⟩
  case sum =>
    intro sum
    rw [read_eq, read_eq]
    rfl

end Message
end FrameLink
