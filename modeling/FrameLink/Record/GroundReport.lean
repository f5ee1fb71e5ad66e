import FrameLink.Record.Catalog

/-!
The ground report: four records back to back in one payload.
-/

namespace FrameLink

/-- What the flight computer reports to the ground in one frame. -/
structure GroundReport where
  sensor : Sensor
  motorSignal : MotorSignal
  motorOffset : MotorOffset
  modeState : ModeState
  deriving DecidableEq, Repr

namespace GroundReport

def motorSignalAt : Nat := 42

def motorOffsetAt : Nat := 52

def modeStateAt : Nat := 60

def total : Nat := 62

/-- The four records, read at their places. -/
def ofBytes? (b : Bytes) : Option GroundReport :=
  if b.length = total then do
    let sensor ← Record.ofBytes? (b.take motorSignalAt)
    let motorSignal ← Record.ofBytes? ((b.drop motorSignalAt).take 10)
    let motorOffset ← Record.ofBytes? ((b.drop motorOffsetAt).take 8)
    let modeState ← Record.ofBytes? (b.drop modeStateAt)
    return ⟨sensor, motorSignal, motorOffset, modeState⟩
  else none

def bytes (r : GroundReport) : Bytes :=
  Record.bytes r.sensor ++ Record.bytes r.motorSignal ++ Record.bytes r.motorOffset ++
    Record.bytes r.modeState

theorem length_bytes (r : GroundReport) : r.bytes.length = total := by
  have h1 : (Record.bytes r.sensor).length = 42 := Record.length_bytes _
  have h2 : (Record.bytes r.motorSignal).length = 10 := Record.length_bytes _
  have h3 : (Record.bytes r.motorOffset).length = 8 := Record.length_bytes _
  have h4 : (Record.bytes r.modeState).length = 2 := Record.length_bytes _
  simp only [bytes, List.length_append, h1, h2, h3, h4, total]

theorem ofBytes?_bytes (r : GroundReport) : ofBytes? r.bytes = some r := by
  have h1 : (Record.bytes r.sensor).length = 42 := Record.length_bytes _
  have h2 : (Record.bytes r.motorSignal).length = 10 := Record.length_bytes _
  have h3 : (Record.bytes r.motorOffset).length = 8 := Record.length_bytes _
  have e1 : r.bytes.take motorSignalAt = Record.bytes r.sensor := by
    simp [bytes, motorSignalAt, h1]
  have e2 : (r.bytes.drop motorSignalAt).take 10 = Record.bytes r.motorSignal := by
    simp [bytes, motorSignalAt, h1, h2]
  have e3 : (r.bytes.drop motorOffsetAt).take 8 = Record.bytes r.motorOffset := by
    simp [bytes, motorOffsetAt, List.take_append, List.drop_append, h1, h2, h3]
  have e4 : r.bytes.drop modeStateAt = Record.bytes r.modeState :=
    List.drop_left' (by simp [h1, h2, h3, modeStateAt])
  simp [ofBytes?, length_bytes, e1, e2, e3, e4, Record.ofBytes?_bytes]

theorem bytes_of_ofBytes? {b : Bytes} {r : GroundReport} (h : ofBytes? b = some r) :
    r.bytes = b := by
  unfold ofBytes? at h
  split at h
  · rename_i hb
    simp only [Option.pure_def, Option.bind_eq_bind, Option.bind_eq_some_iff,
      Option.some.injEq] at h
    obtain ⟨s, hs, g, hg, o, ho, m, hm, rfl⟩ := h
    simp only [bytes, Record.bytes_of_ofBytes? _ _ hs, Record.bytes_of_ofBytes? _ _ hg,
      Record.bytes_of_ofBytes? _ _ ho, Record.bytes_of_ofBytes? _ _ hm]
    have hsplit : ∀ (i n : Nat), b.take i ++ (b.drop i).take n = b.take (i + n) := by
      intro i n
      rw [List.take_add]
    simp only [motorSignalAt, motorOffsetAt, modeStateAt, hsplit]
    exact List.take_append_drop 60 b
  · simp at h

theorem isSome_ofBytes? {b : Bytes} (h : b.length = total) : (ofBytes? b).isSome := by
  simp only [total] at h
  obtain ⟨s, hs⟩ := Option.isSome_iff_exists.mp
    (Record.isSome_ofBytes? (α := Sensor) (b.take 42) (by simp [h]; rfl))
  obtain ⟨g, hg⟩ := Option.isSome_iff_exists.mp
    (Record.isSome_ofBytes? (α := MotorSignal) ((b.drop 42).take 10) (by simp [h]; rfl))
  obtain ⟨o, ho⟩ := Option.isSome_iff_exists.mp
    (Record.isSome_ofBytes? (α := MotorOffset) ((b.drop 52).take 8) (by simp [h]; rfl))
  obtain ⟨m, hm⟩ := Option.isSome_iff_exists.mp
    (Record.isSome_ofBytes? (α := ModeState) (b.drop 60) (by simp [h]; rfl))
  simp [ofBytes?, total, motorSignalAt, motorOffsetAt, modeStateAt, h, hs, hg, ho, hm]

end GroundReport

instance : Record GroundReport where
  size := GroundReport.total
  size_le := by decide
  zero := ⟨Record.zero, Record.zero, Record.zero, Record.zero⟩
  bytes := GroundReport.bytes
  ofBytes? := GroundReport.ofBytes?
  length_bytes := GroundReport.length_bytes
  ofBytes?_bytes := GroundReport.ofBytes?_bytes
  bytes_of_ofBytes? _ _ := GroundReport.bytes_of_ofBytes?
  isSome_ofBytes? _ := GroundReport.isSome_ofBytes?

end FrameLink
