import FrameLink.Frame.Decode

/-!
A buffer that a frame is taken out of in place, and one that is looked over place by place.

The checks are made on the buffer as it stands, and what is taken is dropped from its front step by
step. To reach for a byte that is not there, or to drop more bytes than there are, is a panic, and then
there is no answer at all; otherwise there is an answer and the buffer that is left.
-/

namespace FrameLink

def trailerSize : Nat := 2

namespace Buffer

/-- Drops bytes from the front; none if there are fewer. -/
def advance (b : Bytes) (n : Nat) : Option Bytes := if n ≤ b.length then some (b.drop n) else none

/-- Bytes split off the front, and what is left; none if there are fewer. -/
def splitTo (b : Bytes) (n : Nat) : Option (Bytes × Bytes) :=
  if n ≤ b.length then some (b.take n, b.drop n) else none

end Buffer

namespace Frame

open Buffer

/-- The answer to whoever takes a frame out of a buffer, and the buffer that is left. -/
abbrev Taken := Except FrameError (Option Frame) × Bytes

/-- Takes the frame at the front out of a buffer, if the bytes so far make one. -/
def takeFrom (l : Limits) (b : Bytes) : Option Taken := do
  if b.isEmpty then return (.ok none, b)
  if (← b[0]?) ≠ marker then return (.error (.rejected .invalidMarker), b)
  if b.length < 2 then return (.ok none, b)
  if (← b[1]?) ≠ marker then return (.error (.rejected .invalidMarker), b)
  if b.length < 3 then return (.ok none, b)
  let kind ← b[2]?
  if ¬ l.accepts kind then return (.error (.rejected (.invalidKind kind)), b)
  if b.length < headerSize then return (.ok none, b)
  let size ← b[3]?
  if l.payload < size.toNat then
    return (.error (.rejected (.invalidLength size.toNat l.payload)), b)
  if b.length < overhead + size.toNat then return (.ok none, b)
  let expected ← Checksum.window kind size b headerSize
  let trailer := headerSize + size.toNat
  let received := Word.ofBytes (← b[trailer]?) (← b[trailer + 1]?)
  if expected ≠ received then
    return (.error (.rejected (.checksumMismatch kind expected received)), b)
  let rest ← advance b headerSize
  let (payload, rest) ← splitTo rest size.toNat
  let rest ← advance rest trailerSize
  -- the frame is made last, when its bytes are already gone
  return ((stored kind payload received).map some, rest)

/-- Looks over a buffer that should hold one frame at its start, of whatever kind and size. -/
def verify (b : Bytes) : Option Bool := do
  if b.length < overhead then return false
  if (← b[0]?) ≠ marker then return false
  if (← b[1]?) ≠ marker then return false
  let kind ← b[2]?
  let size ← b[3]?
  let trailer := headerSize + size.toNat
  if b.length < trailer + trailerSize then return false
  let received := Word.ofBytes (← b[trailer]?) (← b[trailer + 1]?)
  return received == (← Checksum.window kind size b headerSize)

end Frame

end FrameLink
