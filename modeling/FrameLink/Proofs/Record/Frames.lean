import FrameLink.Proofs.Frame.Decode
import FrameLink.Record.Basic

/-!
Frames that are made for a payload, and records as payloads.

A frame can be made for every payload up to the wire limit, and what was made is known by its kind and
its payload. A frame carries a record exactly when its payload is the bytes of that record.
-/

namespace FrameLink

namespace Frame

variable {f g : Frame} {kind : Kind} {payload : Bytes} {e : FrameError}

/-- Of one kind and one payload there is one frame with the right checksum. -/
lemma eq_of_valid (hf : f.IsValid) (hg : g.IsValid) (hk : f.kind = g.kind)
    (hp : f.payload = g.payload) : f = g := by
  obtain ⟨kind, payload, checksum, hle⟩ := f
  obtain ⟨kind', payload', checksum', hle'⟩ := g
  simp only at hk hp
  subst hk hp
  simp only [IsValid, expected, size] at hf hg
  simp only [mk.injEq, true_and]
  rw [hf, hg]

lemma make_of_le (h : payload.length ≤ maxPayload) :
    make kind payload = .ok (sealed ⟨kind, payload, 0, h⟩) := by
  simp [make, stored, h, Except.map]

lemma make_eq_ok_iff :
    make kind payload = .ok f ↔ f.kind = kind ∧ f.payload = payload ∧ f.IsValid := by
  constructor
  · intro h
    by_cases hle : payload.length ≤ maxPayload
    · rw [make_of_le hle, Except.ok.injEq] at h
      subst h
      exact ⟨rfl, rfl, sealed_isValid _⟩
    · simp [make, stored, hle, Except.map] at h
  · rintro ⟨rfl, rfl, hv⟩
    rw [make_of_le f.length_le]
    exact congrArg _ (eq_of_valid (sealed_isValid _) hv rfl rfl)

lemma make_eq_error_iff :
    make kind payload = .error e ↔
      maxPayload < payload.length ∧ e = .payloadTooLarge payload.length maxPayload := by
  by_cases hle : payload.length ≤ maxPayload
  · simp [make_of_le hle, Nat.not_lt_of_ge hle]
  · have hlt : maxPayload < payload.length := Nat.lt_of_not_ge hle
    simp only [make, stored, hle, dif_neg, not_false_eq_true, Except.map, Except.error.injEq, hlt,
      true_and]
    exact eq_comm

end Frame

namespace Record

variable {α : Type} [Record α] {f : Frame} {a : α}

lemma length_bytes_le (a : α) : (bytes a).length ≤ maxPayload := by
  rw [length_bytes]
  exact size_le

/-- Bytes are those of a record exactly when they can be read as that record. -/
lemma ofBytes?_eq_some_iff {b : Bytes} : ofBytes? b = some a ↔ bytes a = b :=
  ⟨bytes_of_ofBytes? b a, fun h => h ▸ ofBytes?_bytes a⟩

/-- A buffer is read at its start by its first bytes. -/
lemma readAt_zero {b : Bytes} (h : size α ≤ b.length) :
    readAt b 0 = .ok (ofBytes (α := α) (b.take (size α))) := by
  simp [readAt, window?, h, Except.map]

/-- **A frame carries a record exactly when its payload is the bytes of that record.** -/
lemma ofFrame_eq_ok_iff : ofFrame f = .ok a ↔ bytes a = f.payload := by
  unfold ofFrame
  rcases Nat.lt_trichotomy f.payload.length (size α) with hlt | heq | hgt
  · -- too short to read, and too short to be the bytes of a record
    have hne : bytes a ≠ f.payload := fun h => by
      rw [← h, length_bytes] at hlt
      exact Nat.lt_irrefl _ hlt
    have hno : ¬ size α < f.payload.length := Nat.not_lt_of_gt hlt
    have hshort : ¬ size α ≤ f.payload.length := Nat.not_le_of_gt hlt
    simp [hno, readAt, window?, hshort, Except.map, hne]
  · obtain ⟨a', ha'⟩ := Option.isSome_iff_exists.mp (isSome_ofBytes? (α := α) f.payload heq)
    have hno : ¬ size α < f.payload.length := heq ▸ Nat.lt_irrefl _
    rw [if_neg hno, readAt_zero (Nat.le_of_eq heq.symm), ← heq, List.take_length, Except.ok.injEq,
      ofBytes, ha', Option.getD_some, ← ofBytes?_eq_some_iff, ha', Option.some.injEq]
  · have hne : bytes a ≠ f.payload := fun h => by
      rw [← h, length_bytes] at hgt
      exact Nat.lt_irrefl _ hgt
    simp [hgt, hne]

end Record

end FrameLink
