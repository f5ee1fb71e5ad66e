import FrameLink.Record.Words

/-!
The records that frames carry.
-/

namespace FrameLink

/-- The setpoint that the ground station sends: attitude and altitude. -/
structure Command where
  (roll pitch yaw z : Int16)
  deriving DecidableEq, Repr

instance : WordRecord Command where
  names := ["roll", "pitch", "yaw", "z"]
  short := by decide
  words r := [r.roll, r.pitch, r.yaw, r.z]
  ofWords?
    | [roll, pitch, yaw, z] =>
      some ⟨roll, pitch, yaw, z⟩
    | _ => none
  length_words _ := rfl
  ofWords?_words _ := rfl
  words_of_ofWords? ws r h := by
    split at h
    · simp only [Option.some.injEq] at h
      subst h
      rfl
    · simp at h
  isSome_ofWords? ws h := by
    match ws, h with
    | [_, _, _, _], _ => rfl

/--
A snapshot of the sensors: attitude, rates, accelerations, position, velocity, raw accelerometer,
pressure, temperature and battery voltage.
-/
structure Sensor where
  (roll pitch yaw rollRate pitchRate yawRate accX accY accZ x y z velX velY velZ rawAccX rawAccY
  rawAccZ pressure temperature battery : Int16)
  deriving DecidableEq, Repr

instance : WordRecord Sensor where
  names := ["roll", "pitch", "yaw", "roll_rate", "pitch_rate", "yaw_rate", "acc_x", "acc_y", "acc_z",
    "x", "y", "z", "vel_x", "vel_y", "vel_z", "raw_acc_x", "raw_acc_y", "raw_acc_z", "pressure",
    "temperature", "battery"]
  short := by decide
  words r := [r.roll, r.pitch, r.yaw, r.rollRate, r.pitchRate, r.yawRate, r.accX, r.accY, r.accZ,
    r.x, r.y, r.z, r.velX, r.velY, r.velZ, r.rawAccX, r.rawAccY, r.rawAccZ, r.pressure,
    r.temperature, r.battery]
  ofWords?
    | [roll, pitch, yaw, rollRate, pitchRate, yawRate, accX, accY, accZ, x, y, z, velX, velY,
      velZ, rawAccX, rawAccY, rawAccZ, pressure, temperature, battery] =>
      some ⟨roll, pitch, yaw, rollRate, pitchRate, yawRate, accX, accY, accZ, x, y, z, velX,
      velY, velZ, rawAccX, rawAccY, rawAccZ, pressure, temperature, battery⟩
    | _ => none
  length_words _ := rfl
  ofWords?_words _ := rfl
  words_of_ofWords? ws r h := by
    split at h
    · simp only [Option.some.injEq] at h
      subst h
      rfl
    · simp at h
  isSome_ofWords? ws h := by
    match ws, h with
    | [_, _, _, _, _, _, _, _, _, _, _, _, _, _, _, _, _, _, _, _, _], _ => rfl

/-- Motor outputs, and the id of the command that they answer. -/
structure MotorSignal where
  (front rear left right id : Int16)
  deriving DecidableEq, Repr

instance : WordRecord MotorSignal where
  names := ["front", "rear", "left", "right", "id"]
  short := by decide
  words r := [r.front, r.rear, r.left, r.right, r.id]
  ofWords?
    | [front, rear, left, right, id] =>
      some ⟨front, rear, left, right, id⟩
    | _ => none
  length_words _ := rfl
  ofWords?_words _ := rfl
  words_of_ofWords? ws r h := by
    split at h
    · simp only [Option.some.injEq] at h
      subst h
      rfl
    · simp at h
  isSome_ofWords? ws h := by
    match ws, h with
    | [_, _, _, _, _], _ => rfl

structure MotorOffset where
  (front rear left right : Int16)
  deriving DecidableEq, Repr

instance : WordRecord MotorOffset where
  names := ["front", "rear", "left", "right"]
  short := by decide
  words r := [r.front, r.rear, r.left, r.right]
  ofWords?
    | [front, rear, left, right] =>
      some ⟨front, rear, left, right⟩
    | _ => none
  length_words _ := rfl
  ofWords?_words _ := rfl
  words_of_ofWords? ws r h := by
    split at h
    · simp only [Option.some.injEq] at h
      subst h
      rfl
    · simp at h
  isSome_ofWords? ws h := by
    match ws, h with
    | [_, _, _, _], _ => rfl

/-- Controller gains of one axis, with a term for the second derivative. -/
structure Gain where
  (p i d dd : Int16)
  deriving DecidableEq, Repr

instance : WordRecord Gain where
  names := ["p", "i", "d", "dd"]
  short := by decide
  words r := [r.p, r.i, r.d, r.dd]
  ofWords?
    | [p, i, d, dd] =>
      some ⟨p, i, d, dd⟩
    | _ => none
  length_words _ := rfl
  ofWords?_words _ := rfl
  words_of_ofWords? ws r h := by
    split at h
    · simp only [Option.some.injEq] at h
      subst h
      rfl
    · simp at h
  isSome_ofWords? ws h := by
    match ws, h with
    | [_, _, _, _], _ => rfl

structure Revving where
  (idleLimit controlSpeed rampUpStep rampDownStep : Int16)
  deriving DecidableEq, Repr

instance : WordRecord Revving where
  names := ["idle_limit", "control_speed", "ramp_up_step", "ramp_down_step"]
  short := by decide
  words r := [r.idleLimit, r.controlSpeed, r.rampUpStep, r.rampDownStep]
  ofWords?
    | [idleLimit, controlSpeed, rampUpStep, rampDownStep] =>
      some ⟨idleLimit, controlSpeed, rampUpStep, rampDownStep⟩
    | _ => none
  length_words _ := rfl
  ofWords?_words _ := rfl
  words_of_ofWords? ws r h := by
    split at h
    · simp only [Option.some.injEq] at h
      subst h
      rfl
    · simp at h
  isSome_ofWords? ws h := by
    match ws, h with
    | [_, _, _, _], _ => rfl

def traceSlots : Nat := 16

/-- Values that the flight computer traces for diagnosis. -/
structure Trace where
  slots : List Int16
  length_slots : slots.length = traceSlots
  deriving DecidableEq

namespace Trace

def ofSlots? (ws : List Int16) : Option Trace :=
  if h : ws.length = traceSlots then some ⟨ws, h⟩ else none

instance : Record Trace where
  size := 2 * traceSlots
  size_le := by decide
  zero := ⟨List.replicate traceSlots 0, List.length_replicate⟩
  bytes t := Word.signedRun t.slots
  ofBytes? b := (Word.ofSignedRun? b).bind ofSlots?
  length_bytes t := by rw [Word.length_signedRun, t.length_slots]
  ofBytes?_bytes t := by simp [Word.ofSignedRun?_signedRun, ofSlots?, t.length_slots]
  bytes_of_ofBytes? b t h := by
    obtain ⟨ws, hw, ht⟩ := Option.bind_eq_some_iff.mp h
    unfold ofSlots? at ht
    split at ht
    · simp only [Option.some.injEq] at ht
      subst ht
      exact Word.signedRun_of_ofSignedRun? hw
    · simp at ht
  isSome_ofBytes? b h := by
    obtain ⟨ws, hw, hl⟩ := Word.ofSignedRun?_of_even h
    simp [hw, ofSlots?, hl]

end Trace

/-- Flight mode and controller state, a byte each. -/
structure ModeState where
  mode : UInt8
  state : UInt8
  deriving DecidableEq, Repr

instance : Record ModeState where
  size := 2
  size_le := by decide
  zero := ⟨0, 0⟩
  bytes m := [m.mode, m.state]
  ofBytes?
    | [mode, state] => some ⟨mode, state⟩
    | _ => none
  length_bytes _ := rfl
  ofBytes?_bytes _ := rfl
  bytes_of_ofBytes? b m h := by
    split at h
    · simp only [Option.some.injEq] at h
      subst h
      rfl
    · simp at h
  isSome_ofBytes? b h := by
    match b, h with
    | [_, _], _ => rfl

/-- What a request to switch mode or state asks for. -/
structure Switch where
  target : UInt8
  deriving DecidableEq, Repr

instance : Record Switch where
  size := 1
  size_le := by decide
  zero := ⟨0⟩
  bytes s := [s.target]
  ofBytes?
    | [target] => some ⟨target⟩
    | _ => none
  length_bytes _ := rfl
  ofBytes?_bytes _ := rfl
  bytes_of_ofBytes? b s h := by
    split at h
    · simp only [Option.some.injEq] at h
      subst h
      rfl
    · simp at h
  isSome_ofBytes? b h := by
    match b, h with
    | [_], _ => rfl

end FrameLink
