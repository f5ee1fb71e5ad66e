import FrameLink.Console.Inspection
import FrameLink.Frame.InPlace
import FrameLink.Message.InPlace

/-!
Bytes that should be one frame, looked at in place.

A report starts with nothing but whether the bytes check out, and is filled in as they are looked
at place by place, up to where they stop. To reach for a byte that is not there, or for a slice that
is not all there, is a panic, and then there is no report.
-/

namespace FrameLink.Console

/-- A report on bytes, each field for itself. -/
structure Findings where
  valid : Bool
  length : Nat
  kind : Option Kind := none
  kindName : Option String := none
  size : Option UInt8 := none
  expected : Option String := none
  received : Option String := none
  record : Option Message := none
  deriving DecidableEq

namespace Findings

/-- The fields that are there, in order, in JSON. -/
def toJson (r : Findings) : Json :=
  .obj ([("valid", .bool r.valid), ("length", .int r.length)] ++
    (r.kind.map fun kind => ("kind", Json.int kind.toNat)).toList ++
    (r.kindName.map fun name => ("kind_name", Json.str name)).toList ++
    (r.size.map fun size => ("size", Json.int size.toNat)).toList ++
    (r.expected.map fun sum => ("expected_checksum", Json.str sum)).toList ++
    (r.received.map fun sum => ("received_checksum", Json.str sum)).toList ++
    (r.record.map fun m => ("record", Viewed.toJson m)).toList)

/-- The fields that are there, in order, as text; the kind is shown with its name. -/
def fields (r : Findings) : List (String × String) :=
  [("valid", toString r.valid), ("length", toString r.length)] ++
    (r.kind.map fun kind => ("kind", kind.label)).toList ++
    (r.size.map fun size => ("size", toString size.toNat)).toList ++
    (r.expected.map fun sum => ("expected_checksum", sum)).toList ++
    (r.received.map fun sum => ("received_checksum", sum)).toList ++
    (r.record.map fun m => ("record", (Viewed.toJson m).text)).toList

def report (r : Findings) : Report := ⟨r.toJson, r.fields⟩

/-- The message that a kind and a payload are read as; none in the outer sense if that panics. -/
def message? (kind : Kind) (payload : Bytes) : Option (Option Message) :=
  match Frame.make kind payload with
  | .error _ => some none
  | .ok f =>
    match Message.read f with
    | .ok m => some (some m)
    | .error (.failed _) => some none
    | .error .panicked => none

/-- Fills in a report as far as the bytes reach. -/
def look (b : Bytes) : Option Findings := do
  let found : Findings := { valid := ← Frame.verify b, length := b.length }
  if b.length < headerSize then return found
  if (← b[0]?) ≠ marker then return found
  if (← b[1]?) ≠ marker then return found
  let kind ← b[2]?
  let size ← b[3]?
  let found := { found with kind := kind, kindName := Kind.name kind, size := size }
  let stop := headerSize + size.toNat
  if b.length < stop + trailerSize then return found
  let expected ← Checksum.window kind size b headerSize
  let received := Word.ofBytes (← b[stop]?) (← b[stop + 1]?)
  let found := { found with expected := Hex.word expected, received := Hex.word received }
  if found.valid then
    let payload ← (Buffer.slice b headerSize stop).toOption
    return { found with record := ← message? kind payload }
  return found

end Findings

end FrameLink.Console
