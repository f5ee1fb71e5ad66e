import FrameLink.Message.Basic
import FrameLink.Record.InPlace

/-!
Messages read with records in place.

A request that should carry nothing is looked at before any kind is: with a payload it is refused. What
is left is looked up by its kind, and a record is read over one of zeros.
-/

namespace FrameLink.Message

/-- The message that is made of the record a frame carries. -/
def readAs {α : Type} [Record α] [InPlace α] (make : α → Message) (f : Frame) :
    Except Stop Message :=
  match InPlace.readFrame f Record.zero with
  | (.ok (), r) => .ok (make r)
  | (.error stop, _) => .error stop

def read (f : Frame) : Except Stop Message :=
  if f.kind.isBareRequest && !f.payload.isEmpty then
    .error (.failed (.sizeMismatch f.kind 0 f.payload.length))
  else if f.kind = Kind.sensorData then readAs .sensor f
  else if f.kind = Kind.motorSignals then readAs .motorSignals f
  else if f.kind = Kind.motorOffsets then readAs .motorOffsets f
  else if f.kind = Kind.modeState then readAs .modeState f
  else if f.kind = Kind.groundReport then readAs .groundReport f
  else if f.kind = Kind.traceData then readAs .trace f
  else if f.kind = Kind.commandData then readAs .command f
  else if f.kind = Kind.idleLimit then readAs .revving f
  else if f.kind = Kind.byteStream then .ok (.byteStream f.payload)
  else if f.kind = Kind.switchState then readAs .switchState f
  else if f.kind = Kind.switchMode then readAs .switchMode f
  else if f.kind = Kind.storeTrim then .ok .storeTrim
  else if f.kind = Kind.clearTrim then .ok .clearTrim
  else if f.kind = Kind.shutDown then .ok .shutDown
  else if f.kind = Kind.enableSensors then .ok .enableSensors
  else match GainAxis.ofKind? f.kind with
    | some axis => readAs (.gains axis) f
    | none => .error (.failed (.unknownKind f.kind))

end FrameLink.Message
