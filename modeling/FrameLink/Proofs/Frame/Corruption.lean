import Mathlib.Tactic.ByContra
import FrameLink.Proofs.Frame.InPlace

/-!
A frame with one byte changed.

A changed marker is seen at once. With another byte changed, the length apart, the wire form is that
of a frame of the same length that is not valid: on one side of its checksum something has moved, and
on the other nothing. So valid frames of one length are at least two bytes apart.
-/

namespace FrameLink

lemma Word.exists_bytes_eq {t : Bytes} (h : t.length = 2) : ∃ w, bytes w = t := by
  match t, h with
  | [hi, lo], _ => exact ⟨ofBytes hi lo, bytes_ofBytes hi lo⟩

namespace Frame

variable {l : Limits} {f g : Frame} {i : Nat} {v : UInt8}

/-! ### Frames that were valid -/

lemma not_isValid_of_kind (hv : f.IsValid) (hne : v ≠ f.kind) :
    ¬ IsValid ⟨v, f.payload, f.checksum, f.length_le⟩ := by
  intro h
  have hsum : Checksum.sum v f.size f.payload = Checksum.sum f.kind f.size f.payload :=
    h.symm.trans hv
  exact hne (Checksum.sum_kind_inj.mp hsum)

lemma not_isValid_of_payload (hv : f.IsValid) (hi : i < f.payload.length)
    (hne : f.payload[i]? ≠ some v) :
    ¬ IsValid ⟨f.kind, f.payload.set i v, f.checksum, by
      rw [List.length_set]
      exact f.length_le⟩ := by
  obtain ⟨front, back, hf, -, hset⟩ : ∃ front back, f.payload = front ++ f.payload[i] :: back ∧
      front.length = i ∧ f.payload.set i v = front ++ v :: back := List.exists_of_set hi
  intro h
  have hsum : Checksum.sum f.kind f.size (front ++ v :: back) =
      Checksum.sum f.kind f.size (front ++ f.payload[i] :: back) := by
    rw [← hset, ← hf]
    simp only [IsValid, expected, size, List.length_set] at h hv
    rw [size, ← h, ← hv]
  have hsame : v = f.payload[i] := Checksum.sum_byte_inj.mp hsum
  exact hne (by rw [hsame, List.getElem?_eq_getElem hi])

lemma not_isValid_of_checksum {w : UInt16} (hv : f.IsValid) (hne : w ≠ f.checksum) :
    ¬ IsValid ⟨f.kind, f.payload, w, f.length_le⟩ := by
  intro h
  have hsum : w = f.expected := h
  exact hne (hsum.trans hv.symm)

/-- A valid frame with one byte behind the markers changed, the length apart, is on the wire as a
frame of the same length that is not valid. -/
lemma exists_stale (hv : f.IsValid) (h2 : 2 ≤ i) (h3 : i ≠ 3) (hi : i < f.wire.length)
    (hne : f.wire[i]? ≠ some v) :
    ∃ g : Frame, g.wire = f.wire.set i v ∧ g.payload.length = f.payload.length ∧ ¬ g.IsValid := by
  match i, h2, h3 with
  | 2, _, _ =>
    have hkind : v ≠ f.kind := fun h => hne (by rw [h]; rfl)
    exact ⟨⟨v, f.payload, f.checksum, f.length_le⟩, rfl, rfl, not_isValid_of_kind hv hkind⟩
  | j + 4, _, _ =>
    have hat : f.wire[j + 4]? = (f.payload ++ Word.bytes f.checksum)[j]? := rfl
    rw [hat] at hne
    rcases Nat.lt_or_ge j f.payload.length with hj | hj
    · rw [List.getElem?_append_left hj] at hne
      refine ⟨⟨f.kind, f.payload.set j v, f.checksum, _⟩, ?_, List.length_set,
        not_isValid_of_payload hv hj hne⟩
      simp [wire, size, hj]
    · -- the checksum is made of its two bytes, so changing one of them changes it
      rw [List.getElem?_append_right hj] at hne
      have hlt : j - f.payload.length < 2 := by
        rw [length_wire, wireSize, overhead] at hi
        omega
      obtain ⟨w, hw⟩ := Word.exists_bytes_eq
        (show ((Word.bytes f.checksum).set (j - f.payload.length) v).length = 2 by simp)
      have hsum : w ≠ f.checksum := by
        rintro rfl
        have hback := congrArg (·[j - f.payload.length]?) hw
        simp only [List.getElem?_set_self (show _ < (Word.bytes f.checksum).length from hlt)] at hback
        exact hne hback
      refine ⟨⟨f.kind, f.payload, w, f.length_le⟩, ?_, rfl, not_isValid_of_checksum hv hsum⟩
      simp [wire, size, List.set_append, Nat.not_lt_of_ge hj, hw]

/-! ### What becomes of it -/

lemma marker_changed (hi : i < 2) (hne : f.wire[i]? ≠ some v) (l : Limits) (r : Bytes) :
    checksOut (f.wire.set i v) = false ∧
      decode l (f.wire.set i v ++ r) = .rejected .invalidMarker := by
  have hmarker : v ≠ marker := by
    rintro rfl
    match i, hi with
    | 0, _ | 1, _ => exact hne rfl
  match i, hi with
  | 0, _ | 1, _ => simp [wire, checksOut, decode, hmarker]

lemma decode_of_not_isValid (hg : ¬ g.IsValid) (hp : g.payload.length ≤ l.payload) (r : Bytes) :
    ∃ cause, decode l (g.wire ++ r) = .rejected cause := by
  rw [wire_append]
  by_cases hk : l.accepts g.kind = true
  · have hsize : g.size.toNat ≤ l.payload := by rw [toNat_size]; exact hp
    have hsum : ¬ Checksum.sum g.kind g.size g.payload = g.checksum := fun h => hg h.symm
    rw [decode_header hk hsize, finish_of_trailer g.toNat_size.symm, Word.ofBytes_bytes, if_neg hsum]
    exact ⟨_, rfl⟩
  · exact ⟨.invalidKind g.kind, by simp [decode, hk]⟩

lemma byte_changed (hv : f.IsValid) (h3 : i ≠ 3) (hi : i < f.wire.length)
    (hne : f.wire[i]? ≠ some v) :
    checksOut (f.wire.set i v) = false ∧ ∀ l : Limits, f.payload.length ≤ l.payload → ∀ r,
      ∃ cause, decode l (f.wire.set i v ++ r) = .rejected cause := by
  rcases Nat.lt_or_ge i 2 with h2 | h2
  · exact ⟨(marker_changed h2 hne {} []).1, fun l _ r => ⟨_, (marker_changed h2 hne l r).2⟩⟩
  · obtain ⟨g, hg, hlen, hstale⟩ := exists_stale hv h2 h3 hi hne
    rw [← hg]
    refine ⟨?_, fun l hl r => decode_of_not_isValid hstale (hlen ▸ hl) r⟩
    rw [← List.append_nil g.wire, checksOut_wire_append, decide_eq_false hstale]

/-! ### Two valid frames -/

lemma lt_of_getElem?_ne {b b' : Bytes} (hlen : b'.length = b.length) (h : b[i]? ≠ b'[i]?) :
    i < b.length := by
  by_contra hge
  have hout := Nat.le_of_not_gt hge
  rw [List.getElem?_eq_none hout, List.getElem?_eq_none (hlen ▸ hout)] at h
  exact h rfl

/-- Strings of one length that differ in one place at most. -/
lemma eq_set_of_differ_once {b b' : Bytes} (hlen : b'.length = b.length) (hi : b'[i]? = some v)
    (h : ∀ j, j ≠ i → b[j]? = b'[j]?) : b' = b.set i v := by
  apply List.ext_getElem?
  intro j
  by_cases hj : j = i
  · subst hj
    have hlt : j < b.length := hlen ▸ (List.getElem?_eq_some_iff.mp hi).1
    rw [hi, List.getElem?_set_self hlt]
  · rw [List.getElem?_set_ne (Ne.symm hj), h j hj]

lemma length_wire_of_size (h : g.size = f.size) : g.wire.length = f.wire.length := by
  have hpayload := congrArg UInt8.toNat h
  rw [toNat_size, toNat_size] at hpayload
  rw [length_wire, length_wire, wireSize, wireSize, hpayload]

/-- Different frames of one size differ on the wire, and not only in the length. -/
lemma exists_differ (hne : g ≠ f) (hsize : g.size = f.size) :
    ∃ i, i ≠ 3 ∧ f.wire[i]? ≠ g.wire[i]? := by
  by_contra hno
  have hwire : g.wire = f.wire := List.ext_getElem? fun i => by
    by_cases h3 : i = 3
    · subst h3
      exact congrArg some hsize
    · by_contra h
      exact hno ⟨i, h3, Ne.symm h⟩
  exact hne (wire_append_inj (congrArg (· ++ []) hwire)).1

/-- **A change of one byte is noticed, unless it is the length.** Whatever the byte was changed to,
the wire form of a valid frame then does not check out, and is refused under all limits that admit the
frame, whatever follows it. So two valid frames of one size differ in at least two bytes. -/
theorem one_changed_byte_is_noticed (f : Frame) (hv : f.IsValid) :
    (∀ i v, i < f.wire.length → i ≠ 3 → f.wire[i]? ≠ some v →
      verify (f.wire.set i v) = some false ∧
      ∀ l : Limits, l.Admits f → ∀ r, ∃ e,
        takeFrom l (f.wire.set i v ++ r) = some (.error e, f.wire.set i v ++ r)) ∧
    ∀ g : Frame, g.IsValid → g.size = f.size → g ≠ f → ∃ i j, i ≠ j ∧
      i < f.wire.length ∧ f.wire[i]? ≠ g.wire[i]? ∧ j < f.wire.length ∧ f.wire[j]? ≠ g.wire[j]? := by
  constructor
  · intro i v hi h3 hne
    obtain ⟨hout, hrejected⟩ := byte_changed hv h3 hi hne
    refine ⟨by rw [verify_eq, hout], fun l hf r => ?_⟩
    obtain ⟨cause, hc⟩ := hrejected l hf.payload r
    exact ⟨.rejected cause, takeFrom_eq_error.mpr ⟨rfl, cause, rfl, hc⟩⟩
  · intro g hg hsize hne
    have hlen := length_wire_of_size hsize
    obtain ⟨i, h3, hi⟩ := exists_differ hne hsize
    have hlt := lt_of_getElem?_ne hlen hi
    by_contra hno
    have hrest : ∀ j, j ≠ i → f.wire[j]? = g.wire[j]? := fun j hj => by
      by_contra h
      exact hno ⟨i, j, Ne.symm hj, hlt, hi, lt_of_getElem?_ne hlen h, h⟩
    obtain ⟨v, hgv⟩ : ∃ v, g.wire[i]? = some v := ⟨_, List.getElem?_eq_getElem (hlen ▸ hlt)⟩
    -- changing that one byte would make one valid wire form out of the other
    have hout := (byte_changed hv h3 hlt (hgv ▸ hi)).1
    rw [← eq_set_of_differ_once hlen hgv hrest, ← List.append_nil g.wire, checksOut_wire_append,
      decide_eq_true hg] at hout
    cases hout

/-- A mode and a state with a byte of the payload changed, and with another payload of which the sum
is the same. -/
theorem one_changed_byte_is_noticed_mode_state :
    let f : Frame := ⟨0x04, [0x01, 0x02], 0x0009, by decide⟩
    let g : Frame := ⟨0x04, [0x02, 0x01], 0x0009, by decide⟩
    verify (f.wire.set 5 0x03) = some false ∧
      (∃ e, takeFrom {} (f.wire.set 5 0x03 ++ [0xAA]) =
        some (.error e, f.wire.set 5 0x03 ++ [0xAA])) ∧
      ∃ i j, i ≠ j ∧ i < f.wire.length ∧ f.wire[i]? ≠ g.wire[i]? ∧
        j < f.wire.length ∧ f.wire[j]? ≠ g.wire[j]? := by
  intro f g
  obtain ⟨hchanged, happart⟩ := one_changed_byte_is_noticed f (by decide)
  obtain ⟨hverify, htake⟩ := hchanged 5 0x03 (by decide) (by decide) (by decide)
  exact ⟨hverify, htake {} (by decide) [0xAA], happart g (by decide) (by decide) (by decide)⟩

end Frame

end FrameLink
