import FrameLink.Message.Basic
import FrameLink.Record.Fields

/-!
Messages as JSON: the member `record` says which message it is, and `fields` holds its contents;
a bare request has none.
-/

namespace FrameLink

/-- An axis is written by its name, which is also read as the one member of an object that holds null. -/
instance : Viewed GainAxis where
  toJson axis := .str axis.name
  ofJson?
    | .str s | .obj [(s, .null)] => GainAxis.ofName? s
    | _ => none

namespace Message

def tag : Message → String
  | .sensor _ => "sensor"
  | .motorSignals _ => "motor_signals"
  | .motorOffsets _ => "motor_offsets"
  | .modeState _ => "mode_state"
  | .groundReport _ => "ground_report"
  | .trace _ => "trace"
  | .command _ => "command"
  | .gains _ _ => "gains"
  | .revving _ => "revving"
  | .byteStream _ => "byte_stream"
  | .switchState _ => "switch_state"
  | .switchMode _ => "switch_mode"
  | .storeTrim => "store_trim"
  | .clearTrim => "clear_trim"
  | .shutDown => "shut_down"
  | .enableSensors => "enable_sensors"

def contents? : Message → Option Json
  | .sensor r => some (Viewed.toJson r)
  | .motorSignals r => some (Viewed.toJson r)
  | .motorOffsets r => some (Viewed.toJson r)
  | .modeState r => some (Viewed.toJson r)
  | .groundReport r => some (Viewed.toJson r)
  | .trace r => some (Viewed.toJson r)
  | .command r => some (Viewed.toJson r)
  | .gains axis r => some (.obj [("axis", Viewed.toJson axis), ("gains", Viewed.toJson r)])
  | .revving r => some (Viewed.toJson r)
  | .byteStream b => some (.arr (b.map Viewed.byte))
  | .switchState r => some (Viewed.toJson r)
  | .switchMode r => some (Viewed.toJson r)
  | .storeTrim | .clearTrim | .shutDown | .enableSensors => none

def gainsOfJson? (j : Json) : Option Message :=
  match j.fields? ["axis", "gains"] with
  | some [axis, r] => return .gains (← Viewed.ofJson? axis) (← Viewed.ofJson? r)
  | _ => none

def streamOfJson? : Json → Option Message
  | .arr items => .byteStream <$> items.mapM Json.byte?
  | _ => none

/-- The message of a name and its contents; for a bare request they are missing or null. -/
def ofContents? (tag : String) (contents : Option Json) : Option Message :=
  match tag, contents with
  | "store_trim", none | "store_trim", some .null => some .storeTrim
  | "clear_trim", none | "clear_trim", some .null => some .clearTrim
  | "shut_down", none | "shut_down", some .null => some .shutDown
  | "enable_sensors", none | "enable_sensors", some .null => some .enableSensors
  | "sensor", some j => .sensor <$> Viewed.ofJson? j
  | "motor_signals", some j => .motorSignals <$> Viewed.ofJson? j
  | "motor_offsets", some j => .motorOffsets <$> Viewed.ofJson? j
  | "mode_state", some j => .modeState <$> Viewed.ofJson? j
  | "ground_report", some j => .groundReport <$> Viewed.ofJson? j
  | "trace", some j => .trace <$> Viewed.ofJson? j
  | "command", some j => .command <$> Viewed.ofJson? j
  | "gains", some j => gainsOfJson? j
  | "revving", some j => .revving <$> Viewed.ofJson? j
  | "byte_stream", some j => streamOfJson? j
  | "switch_state", some j => .switchState <$> Viewed.ofJson? j
  | "switch_mode", some j => .switchMode <$> Viewed.ofJson? j
  | _, _ => none

instance : Viewed Message where
  toJson m :=
    match m.contents? with
    | some contents => .obj [("record", .str m.tag), ("fields", contents)]
    | none => .obj [("record", .str m.tag)]
  ofJson?
    | .obj members =>
      match members.lookup "record" with
      | some (.str tag) => ofContents? tag (members.lookup "fields")
      | _ => none
    | .arr [.str tag, contents] => ofContents? tag (some contents)
    | _ => none

end Message

end FrameLink
