import Mathlib.Data.Int.ModEq
import Mathlib.Tactic.Ring
import FrameLink.Proofs.Frame.InPlace

/-!
What the sums of frames come to as numbers.

No window of at most 255 bytes makes the frame checksum run over, so it is the header's byte plus the
sum of the payload bytes. A frame has at most 127 of them, which leaves the high byte of its checksum
below the marker. The signed sum does run over; modulo `2 ^ 16` it is the sum of the bytes less 256 for
every byte from `0x80` on.
-/

namespace FrameLink

namespace Checksum

/-- The bytes added up. -/
def total (b : Bytes) : Nat := (b.map UInt8.toNat).sum

/-- How many of the bytes stand for a negative number. -/
def negatives (b : Bytes) : Nat := b.countP (0x80 ≤ ·)

/-- What the header brings to the sum. -/
def header (kind size : UInt8) : Nat := (kind.toNat + size.toNat) % 256

variable {kind size x : UInt8} {b payload : Bytes} {a : UInt16} {n offset : Nat}

@[simp] lemma total_nil : total [] = 0 := rfl

@[simp] lemma total_cons (x : UInt8) (b : Bytes) : total (x :: b) = x.toNat + total b := rfl

@[simp] lemma negatives_nil : negatives [] = 0 := rfl

lemma negatives_cons (x : UInt8) (b : Bytes) :
    negatives (x :: b) = negatives b + if 0x80 ≤ x then 1 else 0 := by
  simp [negatives, List.countP_cons]

lemma total_le (b : Bytes) : total b ≤ 255 * b.length := by
  induction b with
  | nil => simp
  | cons x b ih =>
    have hx := x.toNat_lt
    rw [total_cons, List.length_cons]
    omega

/-! ### The checksum of a frame -/

/-- Bytes added to a number come to their sum as long as it fits. -/
lemma toNat_foldl_add (h : a.toNat + total payload < 65536) :
    (payload.foldl (fun acc b => acc + b.toUInt16) a).toNat = a.toNat + total payload := by
  induction payload generalizing a with
  | nil => rfl
  | cons x payload ih =>
    rw [total_cons] at h
    have hstep : (a + x.toUInt16).toNat = a.toNat + x.toNat := by
      rw [UInt16.toNat_add, UInt8.toNat_toUInt16]
      apply Nat.mod_eq_of_lt
      omega
    calc ((x :: payload).foldl (fun acc b => acc + b.toUInt16) a).toNat
        = (payload.foldl (fun acc b => acc + b.toUInt16) (a + x.toUInt16)).toNat := rfl
      _ = (a + x.toUInt16).toNat + total payload := ih (by omega)
      _ = a.toNat + total (x :: payload) := by rw [hstep, total_cons, Nat.add_assoc]

lemma header_lt (kind size : UInt8) : header kind size < 256 := Nat.mod_lt _ (by decide)

/-- A sum over at most 255 bytes is exact. -/
lemma toNat_sum (h : payload.length ≤ 255) :
    (sum kind size payload).toNat = header kind size + total payload := by
  have hheader : (kind + size).toUInt16.toNat = header kind size := by
    rw [UInt8.toNat_toUInt16, UInt8.toNat_add, header]
  have hle := total_le payload
  have hlt := header_lt kind size
  rw [sum, toNat_foldl_add (by rw [hheader]; omega), hheader]

lemma toNat_sum_le (h : payload.length ≤ n) (hn : n ≤ 255) :
    (sum kind size payload).toNat ≤ 255 * (n + 1) := by
  rw [toNat_sum (Nat.le_trans h hn)]
  have hle := total_le payload
  have hlt := header_lt kind size
  omega

lemma length_window (h : offset + size.toNat ≤ b.length) :
    ((b.drop offset).take size.toNat).length = size.toNat := by
  rw [List.length_take, List.length_drop]
  omega

/-- No byte of a window carries the sum of the bytes before it over. -/
lemma no_carry {front back : Bytes} (h : (front ++ x :: back).length ≤ 255) :
    (sum kind size front).toNat + x.toNat < 65536 := by
  have hfront : front.length ≤ 254 := by
    simp only [List.length_append, List.length_cons] at h
    omega
  have hle : (sum kind size front).toNat ≤ 255 * 255 := toNat_sum_le hfront (by decide)
  have hx := x.toNat_lt
  omega

/-! ### The signed sum -/

/-- A byte widened with its sign is itself, or 256 below itself. -/
lemma widened (x : UInt8) : (x.toInt8.toInt16.toUInt16.toNat : ℤ) ≡
    x.toNat - 256 * (if 0x80 ≤ x then 1 else 0) [ZMOD 65536] := by
  have hx := x.toNat_lt
  have hbits : x.toInt8.toInt16.toUInt16.toNat = (x.toBitVec.signExtend 16).toNat := rfl
  have hmsb : x.toBitVec.msb = decide (0x80 ≤ x) := by
    rw [BitVec.msb_eq_decide]
    rfl
  have hwide : x.toBitVec.toNat = x.toNat := rfl
  rw [hbits, BitVec.toNat_signExtend, hmsb, BitVec.toNat_setWidth, hwide,
    Nat.mod_eq_of_lt (by omega)]
  by_cases h : 0x80 ≤ x
  · simp only [h, decide_true, if_true]
    exact Int.modEq_iff_dvd.mpr ⟨-1, by omega⟩
  · simp [h]

lemma signed_foldl (b : Bytes) (a : UInt16) :
    ((b.foldl (fun acc x => acc + x.toInt8.toInt16.toUInt16) a).toNat : ℤ) ≡
      a.toNat + total b - 256 * negatives b [ZMOD 65536] := by
  induction b generalizing a with
  | nil => simp
  | cons x b ih =>
    have hadd : ((a + x.toInt8.toInt16.toUInt16).toNat : ℤ) ≡
        a.toNat + x.toInt8.toInt16.toUInt16.toNat [ZMOD 65536] := by
      rw [UInt16.toNat_add]
      exact_mod_cast Int.natCast_modEq_iff.mpr (Nat.mod_modEq _ 65536)
    calc (((x :: b).foldl (fun acc x => acc + x.toInt8.toInt16.toUInt16) a).toNat : ℤ)
        ≡ (a + x.toInt8.toInt16.toUInt16).toNat + total b - 256 * negatives b [ZMOD 65536] := ih _
      _ ≡ a.toNat + (x.toNat - 256 * (if 0x80 ≤ x then 1 else 0)) + total b - 256 * negatives b
          [ZMOD 65536] :=
        ((hadd.trans ((widened x).add_left _)).add_right _).sub_right _
      _ = a.toNat + total (x :: b) - 256 * negatives (x :: b) := by
        rw [total_cons, negatives_cons]
        push_cast
        ring

lemma signed_eq (h : n ≤ b.length) : ∃ s, signed b n = some s ∧
    (s.toNat : ℤ) ≡ total (b.take n) - 256 * negatives (b.take n) [ZMOD 65536] := by
  refine ⟨_, if_pos h, ?_⟩
  have hfold := signed_foldl (b.take n) 0
  rwa [UInt16.toNat_zero, Int.natCast_zero, zero_add] at hfold

/-- Over at most 255 bytes the two sums differ by the header and by the signs. -/
lemma signed_modEq_window {s : UInt16} (hn : n ≤ 255) (hb : n ≤ b.length)
    (hs : (s.toNat : ℤ) ≡ total (b.take n) - 256 * negatives (b.take n) [ZMOD 65536])
    (kind : UInt8) : ∃ c, window kind (UInt8.ofNat n) b 0 = some c ∧ (s.toNat : ℤ) ≡
      c.toNat - ((kind.toNat + n) % 256 : ℕ) - 256 * negatives (b.take n) [ZMOD 65536] := by
  have hsize : (UInt8.ofNat n).toNat = n := by
    rw [UInt8.toNat_ofNat']
    omega
  have hlen : (b.take n).length ≤ 255 := by
    rw [List.length_take]
    omega
  refine ⟨sum kind (UInt8.ofNat n) (b.take n), ?_, ?_⟩
  · rw [window, hsize, List.drop_zero, Nat.zero_add, if_pos hb]
  · have hsum : (sum kind (UInt8.ofNat n) (b.take n)).toNat =
        (kind.toNat + n) % 256 + total (b.take n) := by
      rw [toNat_sum hlen, header, hsize]
    rwa [hsum, Int.natCast_add, add_sub_cancel_left]

end Checksum

namespace Frame

open Checksum

variable {f : Frame}

/-- The high byte of a valid frame's checksum stands behind its payload. -/
lemma trailer_of_wire (f : Frame) :
    f.wire[headerSize + f.payload.length]? = some (UInt8.ofNat (f.checksum.toNat / 256)) := by
  have hplaces := trailer_places f.kind
    ((List.append_nil f.wire).symm.trans (wire_append f [])) f.toNat_size.symm
  rw [← f.toNat_size]
  exact hplaces.1

lemma checksum_le (h : f.IsValid) : f.checksum.toNat ≤ 0x7F80 := by
  rw [h, expected]
  exact toNat_sum_le f.length_le (by decide)

/-- So a valid frame has no marker behind its payload. -/
lemma trailer_ne_marker (h : f.IsValid) : UInt8.ofNat (f.checksum.toNat / 256) ≠ marker := by
  intro heq
  have hnat := congrArg UInt8.toNat heq
  have hle := checksum_le h
  rw [UInt8.toNat_ofNat', marker] at hnat
  change f.checksum.toNat / 256 % 256 = 255 at hnat
  omega

end Frame

namespace Checksum

open FrameLink.Frame

/-- **The checksum of a frame is an exact sum, and the signed sum is one modulo `2 ^ 16`.** The sum of
a window inside the buffer is the byte that kind and size add up to plus the sum of the bytes in it, at
most 65280, and no byte on the way carries the sum of those before it over. For a size that a frame can
have it is at most `0x7F80`, so behind the payload of a valid frame there is no marker. The signed sum
of the first `n` bytes is their sum less 256 for each of them from `0x80` on, modulo `2 ^ 16`, and so
for `n` up to 255 it is the checksum over them less what the header brings and less the same. -/
theorem sums_are_exact :
    (∀ (kind size : UInt8) (b : Bytes) (offset : Nat), offset + size.toNat ≤ b.length →
      ∃ s, window kind size b offset = some s ∧
        s.toNat = (kind.toNat + size.toNat) % 256 + total ((b.drop offset).take size.toNat) ∧
        s.toNat ≤ 65280 ∧ (size.toNat ≤ 127 → s.toNat ≤ 0x7F80) ∧
        ∀ front x back, (b.drop offset).take size.toNat = front ++ x :: back →
          (sum kind size front).toNat + x.toNat < 2 ^ 16) ∧
    (∀ f : Frame, f.IsValid → f.checksum.toNat ≤ 0x7F80 ∧
      ∃ hi, f.wire[headerSize + f.payload.length]? = some hi ∧ hi ≠ marker) ∧
    ∀ (b : Bytes) (n : Nat), n ≤ b.length → ∃ s, signed b n = some s ∧
      (s.toNat : ℤ) ≡ total (b.take n) - 256 * negatives (b.take n) [ZMOD 2 ^ 16] ∧
      (n ≤ 255 → ∀ kind, ∃ c, window kind (UInt8.ofNat n) b 0 = some c ∧ (s.toNat : ℤ) ≡
        c.toNat - ((kind.toNat + n) % 256 : ℕ) - 256 * negatives (b.take n) [ZMOD 2 ^ 16]) := by
  refine ⟨?_, ?_, ?_⟩
  · intro kind size b offset hw
    have hlen := length_window hw
    have hsize : size.toNat ≤ 255 := Nat.le_of_lt_succ size.toNat_lt
    refine ⟨_, if_pos hw, toNat_sum (by omega), ?_, ?_, ?_⟩
    · exact toNat_sum_le (n := 255) (by omega) (by decide)
    · intro h
      exact toNat_sum_le (n := 127) (by omega) (by decide)
    · intro front x back heq
      have hfits : (front ++ x :: back).length ≤ 255 := by
        rw [← heq, hlen]
        exact hsize
      exact no_carry hfits
  · intro f hf
    exact ⟨checksum_le hf, _, trailer_of_wire f, trailer_ne_marker hf⟩
  · intro b n hn
    obtain ⟨s, hs, hmod⟩ := signed_eq hn
    exact ⟨s, hs, hmod, fun h kind => signed_modEq_window h hn hmod kind⟩

/-- Two bytes behind a third, of which the last stands for minus one: with the header of a mode and a
state they sum up to 262, and all three signed to `1 - 1 - 128`. -/
theorem sums_are_exact_three_bytes :
    let b : Bytes := [0x80, 0x01, 0xFF]
    let f : Frame := ⟨0x04, [0x01, 0xFF], 262, by decide⟩
    (∃ s, window 0x04 2 b 1 = some s ∧ s.toNat = 262 ∧ s.toNat ≤ 0x7F80) ∧
      (f.IsValid ∧ ∃ hi, f.wire[6]? = some hi ∧ hi ≠ marker) ∧
      ∃ s, signed b 3 = some s ∧ (s.toNat : ℤ) ≡ -128 [ZMOD 2 ^ 16] ∧
        ∃ c, window 0x04 3 b 0 = some c ∧
          (s.toNat : ℤ) ≡ c.toNat - 7 - 256 * 2 [ZMOD 2 ^ 16] := by
  intro b f
  obtain ⟨hwindow, hframe, hsigned⟩ := sums_are_exact
  have hf : f.IsValid := by decide
  obtain ⟨s, hs, hsum, -, hle, -⟩ := hwindow 0x04 2 b 1 (by decide)
  obtain ⟨u, hu, hmod, hc⟩ := hsigned b 3 (by decide)
  exact ⟨⟨s, hs, hsum, hle (by decide)⟩, ⟨hf, (hframe f hf).2⟩,
    u, hu, hmod, hc (by decide) 0x04⟩

end Checksum

end FrameLink
