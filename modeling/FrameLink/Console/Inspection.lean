import FrameLink.Console.Failure
import FrameLink.Console.Format
import FrameLink.Frame.Decode
import FrameLink.Message.Fields

/-!
A look at bytes that should be one frame: as much of a frame as they hold, and whether it is valid.
-/

namespace FrameLink.Console

structure Inspection where
  valid : Bool
  length : Nat
  /-- Kind and size, behind two markers. -/
  header : Option (Kind × UInt8)
  /-- The checksum called for and the one found, if the bytes reach that far. -/
  checksums : Option (UInt16 × UInt16)
  /-- The message of a valid frame. -/
  record : Option Message
  deriving DecidableEq

namespace Inspection

/-- Kind, size, and the bytes after them. -/
def open? : Bytes → Option (Kind × UInt8 × Bytes)
  | m₁ :: m₂ :: kind :: size :: body =>
    if m₁ = marker ∧ m₂ = marker then some (kind, size, body) else none
  | _ => none

def header? (b : Bytes) : Option (Kind × UInt8) := (open? b).map fun (kind, size, _) => (kind, size)

def checksums? (b : Bytes) : Option (UInt16 × UInt16) :=
  match open? b with
  | some (kind, size, body) =>
    match body.drop size.toNat with
    | hi :: lo :: _ => some (Checksum.sum kind size (body.take size.toNat), Word.ofBytes hi lo)
    | _ => none
  | none => none

/-- The message that kind and payload stand for, whatever the checksum. -/
def record? (b : Bytes) : Option Message :=
  match open? b with
  | some (kind, size, body) =>
    ((Frame.make kind (body.take size.toNat)).toOption).bind fun f => (Message.ofFrame f).toOption
  | none => none

def ofBytes (b : Bytes) : Inspection where
  valid := Frame.checksOut b
  length := b.length
  header := header? b
  checksums := checksums? b
  record := if Frame.checksOut b then record? b else none

/-- The fields that are there, in order, in JSON. -/
def toJson (i : Inspection) : Json :=
  let header := i.header.elim [] fun (kind, size) =>
    [("kind", Json.int kind.toNat), ("kind_name", .str kind.name), ("size", .int size.toNat)]
  let checksums := i.checksums.elim [] fun (expected, received) =>
    [("expected_checksum", Json.str (Hex.word expected)),
     ("received_checksum", .str (Hex.word received))]
  let record := i.record.elim [] fun m => [("record", Viewed.toJson m)]
  .obj ([("valid", .bool i.valid), ("length", .int i.length)] ++ header ++ checksums ++ record)

/-- The fields that are there, in order, as text. -/
def fields (i : Inspection) : List (String × String) :=
  let header := i.header.elim [] fun (kind, size) =>
    [("kind", kind.label), ("size", toString size.toNat)]
  let checksums := i.checksums.elim [] fun (expected, received) =>
    [("expected_checksum", Hex.word expected), ("received_checksum", Hex.word received)]
  let record := i.record.elim [] fun m => [("record", (Viewed.toJson m).text)]
  [("valid", toString i.valid), ("length", toString i.length)] ++ header ++ checksums ++ record

def report (i : Inspection) : Report := ⟨i.toJson, i.fields⟩

/-- The exit code that tells whether the frame is valid. -/
def exitCode (i : Inspection) : Nat := if i.valid then ExitCode.success else ExitCode.invalidData

end Inspection

/-- Inspects the frame that a hex dump spells: the exit code and the text shown. -/
def check (format : Format) (dump : String) : Except Failure (Nat × String) :=
  match HexDump.ofText dump with
  | .ok b => .ok ((Inspection.ofBytes b).exitCode, (Inspection.ofBytes b).report.render format)
  | .error e => .error (.ofHexDump e)

end FrameLink.Console
