import FrameLink.Frame.Basic
import FrameLink.Message.Error

/-!
Records: values with a fixed layout in bytes.

A record type says how many bytes it takes and how they and its values stand for each other; the
two directions undo each other. From that alone follow reading and writing inside a larger buffer,
and as the payload of a frame.
-/

namespace FrameLink

class Record (α : Type) where
  size : Nat
  size_le : size ≤ maxPayload
  zero : α
  bytes : α → Bytes
  ofBytes? : Bytes → Option α
  length_bytes (a : α) : (bytes a).length = size
  ofBytes?_bytes (a : α) : ofBytes? (bytes a) = some a
  bytes_of_ofBytes? (b : Bytes) (a : α) : ofBytes? b = some a → bytes a = b
  isSome_ofBytes? (b : Bytes) : b.length = size → (ofBytes? b).isSome

namespace Record

/-- The bytes that a record of `size` bytes takes at an offset, if the buffer holds them. -/
def window? (b : Bytes) (offset size : Nat) : Except MessageError Bytes :=
  if offset + size ≤ b.length then .ok ((b.drop offset).take size)
  else .error (.bufferTooShort size offset b.length)

variable {α : Type} [Record α]

/-- The record that bytes hold; of the wrong number of bytes, the zero record. -/
def ofBytes (b : Bytes) : α := (ofBytes? b).getD zero

def readAt (b : Bytes) (offset : Nat) : Except MessageError α :=
  (window? b offset (size α)).map ofBytes

/-- Writes a record over the bytes of a buffer at an offset. -/
def writeAt (a : α) (b : Bytes) (offset : Nat) : Except MessageError Bytes :=
  (window? b offset (size α)).map fun _ =>
    b.take offset ++ bytes a ++ b.drop (offset + size α)

def toFrame (kind : Kind) (a : α) : Frame :=
  Frame.sealed ⟨kind, bytes a, 0, by rw [length_bytes]; exact size_le⟩

/-- The record that a frame carries, its payload being exactly that long. -/
def ofFrame (f : Frame) : Except MessageError α :=
  if size α < f.payload.length then
    .error (.sizeMismatch f.kind (size α) f.payload.length)
  else readAt f.payload 0

end Record

end FrameLink
