import FrameLink.Record.GroundReport

/-!
Messages: what a frame means by its kind.

A message travels as a frame of its own kind, and reading that frame gives the message back.
-/

namespace FrameLink

inductive Message where
  | sensor (r : Sensor)
  | motorSignals (r : MotorSignal)
  | motorOffsets (r : MotorOffset)
  | modeState (r : ModeState)
  | groundReport (r : GroundReport)
  | trace (r : Trace)
  | command (r : Command)
  | gains (axis : GainAxis) (r : Gain)
  | revving (r : Revving)
  | byteStream (b : Bytes)
  | switchState (r : Switch)
  | switchMode (r : Switch)
  | storeTrim
  | clearTrim
  | shutDown
  | enableSensors
  deriving DecidableEq

namespace Message

def kind : Message → Kind
  | .sensor _ => Kind.sensorData
  | .motorSignals _ => Kind.motorSignals
  | .motorOffsets _ => Kind.motorOffsets
  | .modeState _ => Kind.modeState
  | .groundReport _ => Kind.groundReport
  | .trace _ => Kind.traceData
  | .command _ => Kind.commandData
  | .gains axis _ => axis.kind
  | .revving _ => Kind.idleLimit
  | .byteStream _ => Kind.byteStream
  | .switchState _ => Kind.switchState
  | .switchMode _ => Kind.switchMode
  | .storeTrim => Kind.storeTrim
  | .clearTrim => Kind.clearTrim
  | .shutDown => Kind.shutDown
  | .enableSensors => Kind.enableSensors

def payload : Message → Bytes
  | .sensor r => Record.bytes r
  | .motorSignals r => Record.bytes r
  | .motorOffsets r => Record.bytes r
  | .modeState r => Record.bytes r
  | .groundReport r => Record.bytes r
  | .trace r => Record.bytes r
  | .command r => Record.bytes r
  | .gains _ r => Record.bytes r
  | .revving r => Record.bytes r
  | .byteStream b => b
  | .switchState r => Record.bytes r
  | .switchMode r => Record.bytes r
  | .storeTrim | .clearTrim | .shutDown | .enableSensors => []

/-- The frame of a message; only a byte stream can be too long for one. -/
def toFrame (m : Message) : Except MessageError Frame :=
  (Frame.make m.kind m.payload).mapError .frame

def bare (f : Frame) (m : Message) : Except MessageError Message :=
  if f.payload = [] then .ok m else .error (.sizeMismatch f.kind 0 f.payload.length)

def ofFrame (f : Frame) : Except MessageError Message :=
  if f.kind = Kind.sensorData then .sensor <$> Record.ofFrame f
  else if f.kind = Kind.motorSignals then .motorSignals <$> Record.ofFrame f
  else if f.kind = Kind.motorOffsets then .motorOffsets <$> Record.ofFrame f
  else if f.kind = Kind.modeState then .modeState <$> Record.ofFrame f
  else if f.kind = Kind.groundReport then .groundReport <$> Record.ofFrame f
  else if f.kind = Kind.traceData then .trace <$> Record.ofFrame f
  else if f.kind = Kind.commandData then .command <$> Record.ofFrame f
  else if f.kind = Kind.idleLimit then .revving <$> Record.ofFrame f
  else if f.kind = Kind.byteStream then .ok (.byteStream f.payload)
  else if f.kind = Kind.switchState then .switchState <$> Record.ofFrame f
  else if f.kind = Kind.switchMode then .switchMode <$> Record.ofFrame f
  else if f.kind = Kind.storeTrim then bare f .storeTrim
  else if f.kind = Kind.clearTrim then bare f .clearTrim
  else if f.kind = Kind.shutDown then bare f .shutDown
  else if f.kind = Kind.enableSensors then bare f .enableSensors
  else match GainAxis.ofKind? f.kind with
    | some axis => .gains axis <$> Record.ofFrame f
    | none => .error (.unknownKind f.kind)

end Message

end FrameLink
