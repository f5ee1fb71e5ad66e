/-!
Byte strings and the big-endian words written in them.
-/

namespace FrameLink

/-- A string of bytes: a list, which a proof can take apart. -/
abbrev Bytes := List UInt8

namespace Word

/-- The two bytes of a word, high byte first. -/
def bytes (w : UInt16) : Bytes :=
  [UInt8.ofNat (w.toNat / 256), UInt8.ofNat (w.toNat % 256)]

/-- The word that two bytes spell, high byte first. -/
def ofBytes (hi lo : UInt8) : UInt16 := UInt16.ofNat (hi.toNat * 256 + lo.toNat)

@[simp] theorem length_bytes (w : UInt16) : (bytes w).length = 2 := rfl

theorem toNat_ofBytes (hi lo : UInt8) : (ofBytes hi lo).toNat = hi.toNat * 256 + lo.toNat := by
  have h1 := hi.toNat_lt
  have h2 := lo.toNat_lt
  simp only [ofBytes, UInt16.toNat_ofNat']
  omega

theorem bytes_ofBytes (hi lo : UInt8) : bytes (ofBytes hi lo) = [hi, lo] := by
  have h1 := hi.toNat_lt
  have h2 := lo.toNat_lt
  have a : (hi.toNat * 256 + lo.toNat) / 256 = hi.toNat := by omega
  have b : (hi.toNat * 256 + lo.toNat) % 256 = lo.toNat := by omega
  simp [bytes, toNat_ofBytes, a, b]

theorem ofBytes_bytes (w : UInt16) :
    ofBytes (UInt8.ofNat (w.toNat / 256)) (UInt8.ofNat (w.toNat % 256)) = w := by
  have h := w.toNat_lt
  apply UInt16.toNat_inj.mp
  simp only [toNat_ofBytes, UInt8.toNat_ofNat']
  omega

end Word

end FrameLink
