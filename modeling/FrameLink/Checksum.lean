import FrameLink.Bytes

/-!
The sums that guard a frame.

The frame checksum starts from kind plus size, kept to one byte, and adds the payload bytes; a
window of 255 bytes cannot overflow it. The signed sum reads each byte as a signed number.
-/

namespace FrameLink.Checksum

/-- The sum over kind, size and payload, in 16 bits. -/
def sum (kind size : UInt8) (payload : Bytes) : UInt16 :=
  payload.foldl (fun acc b => acc + b.toUInt16) (kind + size).toUInt16

/-- The sum over the window of `size` bytes at `offset`; none if the buffer does not hold it. -/
def window (kind size : UInt8) (buffer : Bytes) (offset : Nat) : Option UInt16 :=
  if offset + size.toNat ≤ buffer.length then
    some (sum kind size ((buffer.drop offset).take size.toNat))
  else none

/-- The sum of the first `n` bytes, each read as a signed byte, modulo 2¹⁶; none if there are fewer. -/
def signed (buffer : Bytes) (n : Nat) : Option UInt16 :=
  if n ≤ buffer.length then
    some ((buffer.take n).foldl (fun acc b => acc + b.toInt8.toInt16.toUInt16) 0)
  else none

/-- What is added before the bytes can as well be added behind them. -/
theorem foldl_add (a c : UInt16) (payload : Bytes) :
    payload.foldl (fun acc b => acc + b.toUInt16) (a + c) =
      payload.foldl (fun acc b => acc + b.toUInt16) a + c := by
  induction payload generalizing a with
  | nil => rfl
  | cons b payload ih =>
    have hswap : a + c + b.toUInt16 = a + b.toUInt16 + c := by ac_rfl
    rw [List.foldl_cons, List.foldl_cons, hswap, ih]

/-- The header adds one byte to what the payload sums up to. -/
theorem sum_eq_add (kind size : UInt8) (payload : Bytes) :
    sum kind size payload = sum 0 0 payload + (kind + size).toUInt16 := by
  have h := foldl_add 0 (kind + size).toUInt16 payload
  rw [UInt16.zero_add] at h
  exact h

theorem sum_append_cons (kind size : UInt8) (front back : Bytes) (b : UInt8) :
    sum kind size (front ++ b :: back) = sum kind size (front ++ back) + b.toUInt16 := by
  simp only [sum, List.foldl_append, List.foldl_cons, foldl_add]

/-- The kind can be told from the sum and all the rest. -/
theorem sum_kind_inj {kind kind' size : UInt8} {payload : Bytes} :
    sum kind size payload = sum kind' size payload ↔ kind = kind' := by
  rw [sum_eq_add kind, sum_eq_add kind', UInt16.add_right_inj, UInt8.toUInt16_inj,
    UInt8.add_left_inj]

/-- So can any byte of the payload, however long the payload is. -/
theorem sum_byte_inj {kind size b b' : UInt8} {front back : Bytes} :
    sum kind size (front ++ b :: back) = sum kind size (front ++ b' :: back) ↔ b = b' := by
  rw [sum_append_cons, sum_append_cons, UInt16.add_right_inj, UInt8.toUInt16_inj]

end FrameLink.Checksum
