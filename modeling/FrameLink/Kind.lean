import FrameLink.Text.Blank
import FrameLink.Text.Numeral
import FrameLink.Text.Hex

/-!
The kind byte of a frame: which kinds are assigned, what they are called, what payload they carry,
and how a user writes one.
-/

namespace FrameLink

/-- What a frame is about; any byte can stand in a header. -/
abbrev Kind := UInt8

namespace Kind

def sensorData : Kind := 0x01
def motorSignals : Kind := 0x02
def motorOffsets : Kind := 0x03
def modeState : Kind := 0x04
def groundReport : Kind := 0x05
def traceData : Kind := 0x06
def commandData : Kind := 0x07
def rollPitchGains : Kind := 0x08
def yawGains : Kind := 0x09
def altitudeGains : Kind := 0x0A
def xyGains : Kind := 0x0B
def idleLimit : Kind := 0x0C
def byteStream : Kind := 0x0D
def switchState : Kind := 0x0E
def switchMode : Kind := 0x0F
def storeTrim : Kind := 0x10
def clearTrim : Kind := 0x11
def shutDown : Kind := 0x12
def enableSensors : Kind := 0x13

/-- The highest kind in use, reserved kinds included. -/
def limit : Kind := 0x16

/-- The names of the assigned kinds and of the reserved ones, from kind 1 on. -/
def names : List String :=
  ["SENSOR_DATA", "MOTOR_SIGNALS", "MOTOR_OFFSETS", "MODE_STATE", "GROUND_REPORT", "TRACE_DATA",
   "COMMAND_DATA", "ROLL_PITCH_GAINS", "YAW_GAINS", "ALTITUDE_GAINS", "XY_GAINS", "IDLE_LIMIT",
   "BYTE_STREAM", "SWITCH_STATE", "SWITCH_MODE", "STORE_TRIM", "CLEAR_TRIM", "SHUT_DOWN",
   "ENABLE_SENSORS", "RESERVED", "RESERVED", "RESERVED"]

def name (k : Kind) : String :=
  if k = 0 then "UNKNOWN" else names.getD (k.toNat - 1) "UNKNOWN"

/-- A kind is in range from 1 to the highest accepted one; the marker byte never is. -/
def inRange (k highest : Kind) : Bool := k != 0 && k != 0xFF && k ≤ highest

/-- The requests that carry no payload. -/
def isBareRequest (k : Kind) : Bool :=
  k == storeTrim || k == clearTrim || k == shutDown || k == enableSensors

/-- The payload size of a kind with a fixed layout; none for byte streams and unassigned kinds. -/
def payloadSize? (k : Kind) : Option Nat :=
  match k.toNat with
  | 0x01 => some 42
  | 0x02 => some 10
  | 0x03 => some 8
  | 0x04 => some 2
  | 0x05 => some 62
  | 0x06 => some 32
  | 0x07 | 0x08 | 0x09 | 0x0A | 0x0B | 0x0C => some 8
  | 0x0E | 0x0F => some 1
  | 0x10 | 0x11 | 0x12 | 0x13 => some 0
  | _ => none

/-- The kind as reports show it: its number and its name. -/
def label (k : Kind) : String := Hex.byte k ++ " (" ++ k.name ++ ")"

/-- A name as the table spells it: capitals, and underscores for dashes. -/
def capitalName (cs : List Char) : List Char :=
  cs.map fun c => if c = '-' then '_' else c.toUpper

/-- The lowest kind of a name, among the kinds in use. -/
def ofName? (cs : List Char) : Option Kind :=
  (names.findIdx? (·.toList = cs)).map fun i => UInt8.ofNat (i + 1)

/--
Reads a kind: after `0x` a hexadecimal number and nothing else; otherwise a decimal number, and
failing that a name, in which case and the choice of dash do not matter.
-/
def ofText? (text : String) : Option Kind :=
  let cs := Text.trim text.toList
  match cs with
  | '0' :: 'x' :: rest | '0' :: 'X' :: rest => (Numeral.unsigned? 16 255 rest).map UInt8.ofNat
  | _ =>
    match Numeral.unsigned? 10 255 cs with
    | some n => some (UInt8.ofNat n)
    | none => ofName? (capitalName cs)

end Kind

/-- The axis that a set of controller gains applies to. -/
inductive GainAxis where
  | rollPitch | yaw | altitude | xy
  deriving DecidableEq, Repr

namespace GainAxis

def all : List GainAxis := [.rollPitch, .yaw, .altitude, .xy]

/-- The kind of the frames that carry gains for this axis. -/
def kind : GainAxis → Kind
  | .rollPitch => Kind.rollPitchGains
  | .yaw => Kind.yawGains
  | .altitude => Kind.altitudeGains
  | .xy => Kind.xyGains

def ofKind? (k : Kind) : Option GainAxis := all.find? (·.kind == k)

def name : GainAxis → String
  | .rollPitch => "roll-pitch"
  | .yaw => "yaw"
  | .altitude => "altitude"
  | .xy => "xy"

def ofName? (s : String) : Option GainAxis := all.find? (·.name == s)

end GainAxis

end FrameLink
