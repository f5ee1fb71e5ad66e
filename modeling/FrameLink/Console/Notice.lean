import FrameLink.Console.Format
import FrameLink.Message.Fields

/-!
What is shown of a frame that was sent or received.
-/

namespace FrameLink.Console

inductive Passage where
  | sent | received
  deriving DecidableEq, Repr

def Passage.name : Passage → String
  | .sent => "sent"
  | .received => "received"

structure Notice where
  passage : Passage
  peer : String
  frame : Frame
  deriving DecidableEq

namespace Notice

/-- The message of the frame in one line, or why it has none. -/
def summary (n : Notice) : String :=
  match Message.ofFrame n.frame with
  | .ok m => (Viewed.toJson m).text
  | .error e => s!"<{e.message}>"

/-- The JSON form; `time` is when the frame went by, in seconds. -/
def toJson (time : String) (n : Notice) : Json :=
  let contents : String × Json :=
    match Message.ofFrame n.frame with
    | .ok m => ("record", Viewed.toJson m)
    | .error e => ("decode_error", .str e.message)
  .obj [("event", .str n.passage.name), ("peer", .str n.peer), ("kind", .int n.frame.kind.toNat),
    ("kind_name", .str n.frame.kind.name), ("size", .int n.frame.size.toNat),
    ("checksum", .str (Hex.word n.frame.checksum)), contents, ("wire", .str (Hex.text n.frame.wire)),
    ("timestamp", .str time)]

def render (time : String) (n : Notice) : Format → String
  | .json => (n.toJson time).text ++ "\n"
  | .table =>
    Table.text ⟨["EVENT", "KIND", "SIZE", "CHECKSUM", "RECORD"],
      [[n.passage.name, n.frame.kind.label, toString n.frame.size.toNat,
        Hex.word n.frame.checksum, n.summary]]⟩
  | .pretty =>
    s!"{n.passage.name} kind={n.frame.kind.label} size={n.frame.size.toNat} " ++
      s!"checksum={Hex.word n.frame.checksum} peer={n.peer} record={n.summary}\n"

end Notice

end FrameLink.Console
