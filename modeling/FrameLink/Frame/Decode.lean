import FrameLink.Frame.Basic

/-!
Reading one frame off the front of a buffer.

The checks come in the order of the bytes, so a bad byte is refused as soon as it is there: first
marker, second marker, kind, length, and last the checksum of a complete frame.
-/

namespace FrameLink

inductive Verdict where
  | needMore
  | frame (f : Frame) (rest : Bytes)
  | rejected (cause : Rejection)
  deriving DecidableEq

namespace Frame

/-- The frame of a header whose payload and trailer follow in `body`. -/
def finish (l : Limits) (kind : Kind) (size : UInt8) (body : Bytes)
    (h : size.toNat ≤ l.payload) : Verdict :=
  match body.drop size.toNat with
  | hi :: lo :: rest =>
    let payload := body.take size.toNat
    let expected := Checksum.sum kind size payload
    let received := Word.ofBytes hi lo
    if expected = received then
      have hp : payload.length ≤ maxPayload :=
        Nat.le_trans (List.length_take_le _ _) (Nat.le_trans h (Nat.min_le_right _ _))
      .frame ⟨kind, payload, received, hp⟩ rest
    else .rejected (.checksumMismatch kind expected received)
  | _ => .needMore

/-- The frame at the front of a buffer, if the bytes so far decide it. -/
def decode (l : Limits) : Bytes → Verdict
  | [] => .needMore
  | first :: rest =>
    if first ≠ marker then .rejected .invalidMarker else
    match rest with
    | [] => .needMore
    | second :: rest =>
      if second ≠ marker then .rejected .invalidMarker else
      match rest with
      | [] => .needMore
      | kind :: rest =>
        if ¬ l.accepts kind then .rejected (.invalidKind kind) else
        match rest with
        | [] => .needMore
        | size :: body =>
          if h : size.toNat ≤ l.payload then finish l kind size body h
          else .rejected (.invalidLength size.toNat l.payload)

/--
The bytes begin with markers, hold the trailer that the size byte announces, and the trailer is
the checksum of what stands before it. Any kind and any size will do.
-/
def checksOut (b : Bytes) : Bool :=
  match b with
  | m₁ :: m₂ :: kind :: size :: body =>
    m₁ == marker && m₂ == marker &&
      match body.drop size.toNat with
      | hi :: lo :: _ => Word.ofBytes hi lo == Checksum.sum kind size (body.take size.toNat)
      | _ => false
  | _ => false

end Frame

end FrameLink
