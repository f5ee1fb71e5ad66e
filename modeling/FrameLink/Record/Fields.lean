import FrameLink.Text.Json
import FrameLink.Record.GroundReport

/-!
Records as JSON: an object with a member for each field.

Reading asks for every field, takes integers in the range of the field only, and ignores members
that are no fields.
-/

namespace FrameLink

class Viewed (α : Type) where
  toJson : α → Json
  ofJson? : Json → Option α

namespace Viewed

def signedWord (w : Int16) : Json := .int w.toInt

def byte (b : UInt8) : Json := .int b.toNat

instance {α : Type} [WordRecord α] : Viewed α where
  toJson a := .obj ((WordRecord.names α).zip ((WordRecord.words a).map signedWord))
  ofJson? j := do
    let values ← j.fields? (WordRecord.names α)
    WordRecord.ofWords? (← values.mapM Json.signedWord?)

instance : Viewed Trace where
  toJson t := .obj [("slots", .arr (t.slots.map signedWord))]
  ofJson? j :=
    match j.fields? ["slots"] with
    | some [.arr items] => (items.mapM Json.signedWord?).bind Trace.ofSlots?
    | _ => none

instance : Viewed ModeState where
  toJson m := .obj [("mode", byte m.mode), ("state", byte m.state)]
  ofJson? j :=
    match j.fields? ["mode", "state"] with
    | some [mode, state] => return ⟨← mode.byte?, ← state.byte?⟩
    | _ => none

instance : Viewed Switch where
  toJson s := .obj [("target", byte s.target)]
  ofJson? j :=
    match j.fields? ["target"] with
    | some [target] => return ⟨← target.byte?⟩
    | _ => none

instance : Viewed GroundReport where
  toJson r :=
    .obj [("sensor", toJson r.sensor), ("motor_signal", toJson r.motorSignal),
      ("motor_offset", toJson r.motorOffset), ("mode_state", toJson r.modeState)]
  ofJson? j :=
    match j.fields? ["sensor", "motor_signal", "motor_offset", "mode_state"] with
    | some [sensor, motorSignal, motorOffset, modeState] =>
      return ⟨← ofJson? sensor, ← ofJson? motorSignal, ← ofJson? motorOffset,
        ← ofJson? modeState⟩
    | _ => none

end Viewed

end FrameLink
