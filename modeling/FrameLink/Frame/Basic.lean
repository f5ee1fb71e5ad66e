import FrameLink.Checksum
import FrameLink.Frame.Error

/-!
Frames and their wire form.

On the wire a frame is two marker bytes, kind, size, payload and the stored checksum, high byte
first. The stored checksum is a field of its own: replacing the payload leaves it stale until it
is computed again.
-/

namespace FrameLink

/-- The byte that opens a frame, twice. -/
def marker : UInt8 := 0xFF

def headerSize : Nat := 4

def overhead : Nat := 6

def maxPayload : Nat := 127

structure Frame where
  kind : Kind
  payload : Bytes
  checksum : UInt16
  length_le : payload.length ≤ maxPayload
  deriving DecidableEq

namespace Frame

def size (f : Frame) : UInt8 := UInt8.ofNat f.payload.length

/-- The checksum that kind, size and payload call for. -/
def expected (f : Frame) : UInt16 := Checksum.sum f.kind f.size f.payload

/-- The stored checksum is the one the contents call for. -/
def IsValid (f : Frame) : Prop := f.checksum = f.expected

instance (f : Frame) : Decidable f.IsValid := inferInstanceAs (Decidable (_ = _))

/-- A frame with a given checksum, right or wrong; too long a payload is refused. -/
def stored (kind : Kind) (payload : Bytes) (checksum : UInt16) : Except FrameError Frame :=
  if h : payload.length ≤ maxPayload then .ok ⟨kind, payload, checksum, h⟩
  else .error (.payloadTooLarge payload.length maxPayload)

/-- The frame with its stored checksum brought up to date. -/
def sealed (f : Frame) : Frame := { f with checksum := f.expected }

/-- A frame with the checksum its contents call for; too long a payload is refused. -/
def make (kind : Kind) (payload : Bytes) : Except FrameError Frame :=
  (stored kind payload 0).map sealed

def empty (kind : Kind) : Frame := sealed ⟨kind, [], 0, Nat.zero_le _⟩

/-- The frame with another payload under the old checksum. -/
def withPayload (f : Frame) (payload : Bytes) : Except FrameError Frame :=
  stored f.kind payload f.checksum

def wire (f : Frame) : Bytes :=
  marker :: marker :: f.kind :: f.size :: (f.payload ++ Word.bytes f.checksum)

def wireSize (f : Frame) : Nat := overhead + f.payload.length

theorem length_wire (f : Frame) : f.wire.length = f.wireSize := by
  simp [wire, wireSize, overhead]
  omega

theorem toNat_size (f : Frame) : f.size.toNat = f.payload.length := by
  have h := f.length_le
  simp only [maxPayload] at h
  simp [size]
  omega

theorem sealed_isValid (f : Frame) : f.sealed.IsValid := rfl

end Frame

/-- What a reader or writer admits: payloads up to a size, kinds up to a highest one. -/
structure Limits where
  maxPayloadSize : Nat := 64
  maxKind : Kind := Kind.limit
  deriving DecidableEq, Repr

namespace Limits

/-- The payload limit in force: no setting lifts it above what a frame can hold. -/
def payload (l : Limits) : Nat := min l.maxPayloadSize maxPayload

def accepts (l : Limits) (k : Kind) : Bool := k.inRange l.maxKind

/-- What a sender refuses: a payload over the limit, and failing that a stale checksum. -/
def refusal? (l : Limits) (f : Frame) : Option FrameError :=
  if l.payload < f.payload.length then some (.payloadTooLarge f.payload.length l.payload)
  else if f.IsValid then none
  else some (.staleChecksum f.kind)

variable {l : Limits} {f : Frame}

theorem refusal?_of_tooLarge (h : l.payload < f.payload.length) :
    l.refusal? f = some (.payloadTooLarge f.payload.length l.payload) := if_pos h

theorem refusal?_of_stale (h : f.payload.length ≤ l.payload) (stale : ¬ f.IsValid) :
    l.refusal? f = some (.staleChecksum f.kind) := by
  rw [refusal?, if_neg (Nat.not_lt_of_le h), if_neg stale]

theorem refusal?_of_fits (h : f.payload.length ≤ l.payload) (valid : f.IsValid) :
    l.refusal? f = none := by
  rw [refusal?, if_neg (Nat.not_lt_of_le h), if_pos valid]

end Limits

end FrameLink
