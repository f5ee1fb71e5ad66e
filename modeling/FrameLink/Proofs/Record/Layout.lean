import FrameLink.Proofs.Record.InPlace

/-!
The layout of records: which bytes stand where.

For each sort of record the table of the specification lists its fields in order. A signed word
stands for two bytes, the digits to base 256 of its two's complement, the high one first; a byte
stands for itself. A record is written as the bytes of its fields, and a report as its four parts
back to back, so that each part can also be written and read on its own at its place.
-/

namespace FrameLink

open Buffer InPlace

inductive RecordField where
  | word (v : Int16)
  | byte (v : UInt8)
  deriving DecidableEq

/-- The two's complement of a word, as a number below `2 ^ 16`. -/
def RecordField.complement (v : Int16) : Nat := (v.toInt % 0x10000).toNat

def RecordField.bytes : RecordField → Bytes
  | .word v => [UInt8.ofNat (complement v / 256), UInt8.ofNat (complement v % 256)]
  | .byte v => [v]

/-- The bytes of fields, one after the other. -/
def RecordField.run (fields : List RecordField) : Bytes := fields.flatMap bytes

def Command.fields (r : Command) : List RecordField :=
  [.word r.roll, .word r.pitch, .word r.yaw, .word r.z]

def Sensor.fields (r : Sensor) : List RecordField :=
  [.word r.roll, .word r.pitch, .word r.yaw, .word r.rollRate, .word r.pitchRate, .word r.yawRate,
    .word r.accX, .word r.accY, .word r.accZ, .word r.x, .word r.y, .word r.z, .word r.velX,
    .word r.velY, .word r.velZ, .word r.rawAccX, .word r.rawAccY, .word r.rawAccZ,
    .word r.pressure, .word r.temperature, .word r.battery]

def MotorSignal.fields (r : MotorSignal) : List RecordField :=
  [.word r.front, .word r.rear, .word r.left, .word r.right, .word r.id]

def MotorOffset.fields (r : MotorOffset) : List RecordField :=
  [.word r.front, .word r.rear, .word r.left, .word r.right]

def Gain.fields (r : Gain) : List RecordField := [.word r.p, .word r.i, .word r.d, .word r.dd]

def Revving.fields (r : Revving) : List RecordField :=
  [.word r.idleLimit, .word r.controlSpeed, .word r.rampUpStep, .word r.rampDownStep]

def Trace.fields (r : Trace) : List RecordField := r.slots.map .word

def ModeState.fields (r : ModeState) : List RecordField := [.byte r.mode, .byte r.state]

def Switch.fields (r : Switch) : List RecordField := [.byte r.target]

def GroundReport.fields (r : GroundReport) : List RecordField :=
  r.sensor.fields ++ r.motorSignal.fields ++ r.motorOffset.fields ++ r.modeState.fields

/-- The fields of a record in the order of the specification's table. -/
def RecordSort.fields : (s : RecordSort) → s.Carrier → List RecordField
  | .command => Command.fields
  | .sensor => Sensor.fields
  | .motorSignal => MotorSignal.fields
  | .motorOffset => MotorOffset.fields
  | .gain => Gain.fields
  | .revving => Revving.fields
  | .trace => Trace.fields
  | .modeState => ModeState.fields
  | .switch => Switch.fields
  | .groundReport => GroundReport.fields

namespace RecordField

/-- The unsigned word of the same bits is the two's complement. -/
lemma toNat_toUInt16 (v : Int16) : v.toUInt16.toNat = complement v := by
  have hint : v.toInt = v.toUInt16.toBitVec.toInt := rfl
  have hlt : v.toUInt16.toNat < 2 ^ 16 := v.toUInt16.toNat_lt
  have hnat : v.toUInt16.toBitVec.toNat = v.toUInt16.toNat := rfl
  rw [complement, hint, BitVec.toInt_eq_toNat_cond, hnat]
  split <;> omega

lemma bytes_word (v : Int16) : bytes (.word v) = Word.signedBytes v := by
  simp only [bytes, Word.signedBytes, Word.bytes, toNat_toUInt16]

lemma run_words (vs : List Int16) : run (vs.map word) = Word.signedRun vs := by
  induction vs with
  | nil => rfl
  | cons v vs ih =>
    calc run ((v :: vs).map word)
        = bytes (.word v) ++ run (vs.map word) := rfl
      _ = Word.signedBytes v ++ Word.signedRun vs := by rw [bytes_word, ih]
      _ = Word.signedRun (v :: vs) := rfl

lemma run_of_words {α : Type} [WordRecord α] {a : α} {fields : List RecordField}
    (h : fields = (WordRecord.words a).map word) : run fields = Record.bytes a := by
  rw [h, run_words]
  rfl

end RecordField

open RecordField

lemma GroundReport.run_fields (r : GroundReport) : run r.fields = r.bytes := by
  have h1 : run r.sensor.fields = Record.bytes r.sensor := run_of_words rfl
  have h2 : run r.motorSignal.fields = Record.bytes r.motorSignal := run_of_words rfl
  have h3 : run r.motorOffset.fields = Record.bytes r.motorOffset := run_of_words rfl
  have h4 : run r.modeState.fields = Record.bytes r.modeState := rfl
  rw [run] at h1 h2 h3 h4
  rw [run, fields, List.flatMap_append, List.flatMap_append, List.flatMap_append, h1, h2, h3, h4,
    bytes]

namespace RecordSort

/-- The bytes of a record are those of its fields. -/
lemma run_fields (s : RecordSort) (r : s.Carrier) : run (s.fields r) = Record.bytes r := by
  cases s with
  | command => exact run_of_words (α := Command) rfl
  | sensor => exact run_of_words (α := Sensor) rfl
  | motorSignal => exact run_of_words (α := MotorSignal) rfl
  | motorOffset => exact run_of_words (α := MotorOffset) rfl
  | gain => exact run_of_words (α := Gain) rfl
  | revving => exact run_of_words (α := Revving) rfl
  | trace => exact run_words _
  | modeState => rfl
  | switch => rfl
  | groundReport => exact GroundReport.run_fields r

/-- **Records are laid out as their table says, and a report as its parts.** Where there is room,
the window of a written record holds the bytes of its fields in the order of the table. Writing a
report is writing its sensors, motor signals, motor offsets and mode at 0, 42, 52 and 60 bytes
behind the same offset, and there each of them can be read on its own. -/
theorem laid_out_by_table (b : Bytes) (offset : Nat) (hb : b.length < addresses) :
    (∀ (s : RecordSort) (r : s.Carrier), offset + Record.size s.Carrier ≤ b.length →
      (run (s.fields r)).length = Record.size s.Carrier ∧
      encode r offset b = (.ok (), b.take offset ++ run (s.fields r) ++
        b.drop (offset + Record.size s.Carrier))) ∧
    ∀ r : GroundReport, offset + Record.size GroundReport ≤ b.length →
      encode r offset b = ((encode r.sensor (offset + 0)).andThen <|
        (encode r.motorSignal (offset + 42)).andThen <|
        (encode r.motorOffset (offset + 52)).andThen (encode r.modeState (offset + 60))) b ∧
      ∃ c, encode r offset b = (.ok (), c) ∧
        (∀ old, decode c (offset + 0) old = (.ok (), r.sensor)) ∧
        (∀ old, decode c (offset + 42) old = (.ok (), r.motorSignal)) ∧
        (∀ old, decode c (offset + 52) old = (.ok (), r.motorOffset)) ∧
        ∀ old, decode c (offset + 60) old = (.ok (), r.modeState) := by
  constructor
  · intro s r hroom
    rw [run_fields]
    exact ⟨Record.length_bytes r, encode_of_room hb hroom⟩
  · intro r hroom
    obtain ⟨front, w, back, rfl, ho, hw⟩ := exists_between hroom
    have henc := encode_between r offset front w back ho hw hb
    have hparts := r.putAt_between offset front w back ho hw hb
    have hc : (front ++ (r.bytes ++ back)).length < addresses := by
      have hlen : w.length = r.bytes.length := hw.trans r.length_bytes.symm
      simp only [List.length_append, hlen] at hb ⊢
      exact hb
    exact ⟨henc.trans hparts.symm, _, henc, r.decode_parts offset front back ho hc⟩

/-- Minus two and its two bytes, in a command that is written three bytes into a buffer. -/
theorem laid_out_by_table_command :
    encode (⟨-2, 1, 256, 0⟩ : Command) 3 (List.replicate 12 7) =
      (.ok (), [7, 7, 7, 0xFF, 0xFE, 0, 1, 1, 0, 0, 0, 7]) :=
  ((laid_out_by_table (List.replicate 12 7) 3 (by decide)).1 .command ⟨-2, 1, 256, 0⟩
    (by decide)).2

end RecordSort

end FrameLink
