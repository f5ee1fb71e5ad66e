import Mathlib.Tactic.Lemma
import FrameLink.Frame.Decode

/-!
Reading a frame is undoing its wire form.

The front of a buffer decodes to a frame exactly when the buffer begins with the wire form of that
frame and the limits admit it. A frame or a rejection found there stays what it is when more bytes
follow, so only a buffer that is too short is ever undecided.
-/

namespace FrameLink

/-- A frame that a reader under these limits takes: kind in range, payload within the limit, and
the checksum right. -/
structure Limits.Admits (l : Limits) (f : Frame) : Prop where
  kind : l.accepts f.kind = true
  payload : f.payload.length ≤ l.payload
  valid : f.IsValid

instance (l : Limits) (f : Frame) : Decidable (l.Admits f) :=
  decidable_of_iff (l.accepts f.kind = true ∧ f.payload.length ≤ l.payload ∧ f.IsValid)
    ⟨fun ⟨h1, h2, h3⟩ => ⟨h1, h2, h3⟩, fun ⟨h1, h2, h3⟩ => ⟨h1, h2, h3⟩⟩

namespace Frame

variable {l : Limits} {f g : Frame} {b r : Bytes}

lemma wireSize_pos (f : Frame) : 0 < f.wireSize := by
  simp only [wireSize, overhead]
  omega

/-! ### Behind the header -/

/-- A payload that is all there has the length its size byte announces. -/
lemma length_take_of_drop {size : UInt8} {body rest : Bytes} {hi lo : UInt8}
    (h : body.drop size.toNat = hi :: lo :: rest) : (body.take size.toNat).length = size.toNat := by
  have hlen := congrArg List.length h
  simp only [List.length_drop, List.length_cons] at hlen
  rw [List.length_take]
  omega

/-- A complete frame is taken or refused by its checksum. -/
lemma finish_of_drop {kind : Kind} {size : UInt8} {body rest : Bytes} {hi lo : UInt8}
    {h : size.toNat ≤ l.payload} (hdrop : body.drop size.toNat = hi :: lo :: rest) :
    finish l kind size body h =
      if Checksum.sum kind size (body.take size.toNat) = Word.ofBytes hi lo then
        .frame ⟨kind, body.take size.toNat, Word.ofBytes hi lo,
          Nat.le_trans (List.length_take_le _ _) (Nat.le_trans h (Nat.min_le_right _ _))⟩ rest
      else .rejected (.checksumMismatch kind (Checksum.sum kind size (body.take size.toNat))
        (Word.ofBytes hi lo)) := by
  unfold finish
  rw [hdrop]

lemma finish_wire (h : f.size.toNat ≤ l.payload) (hv : f.IsValid) (r : Bytes) :
    finish l f.kind f.size (f.payload ++ Word.bytes f.checksum ++ r) h = .frame f r := by
  have hdrop : (f.payload ++ Word.bytes f.checksum ++ r).drop f.size.toNat =
      UInt8.ofNat (f.checksum.toNat / 256) :: UInt8.ofNat (f.checksum.toNat % 256) :: r := by
    rw [toNat_size, List.append_assoc, List.drop_left]
    rfl
  have htake : (f.payload ++ Word.bytes f.checksum ++ r).take f.size.toNat = f.payload := by
    rw [toNat_size, List.append_assoc, List.take_left]
  have hsum : Checksum.sum f.kind f.size f.payload = f.checksum := hv.symm
  rw [finish_of_drop hdrop]
  simp only [htake, hsum, Word.ofBytes_bytes, if_true]

lemma wire_of_finish {kind : Kind} {size : UInt8} {body : Bytes} {h : size.toNat ≤ l.payload}
    (hf : finish l kind size body h = .frame f r) :
    f.kind = kind ∧ f.size = size ∧ f.IsValid ∧
      body = f.payload ++ Word.bytes f.checksum ++ r := by
  match hdrop : body.drop size.toNat with
  | hi :: lo :: rest =>
    rw [finish_of_drop hdrop] at hf
    split at hf
    · next hsum =>
      simp only [Verdict.frame.injEq] at hf
      obtain ⟨rfl, rfl⟩ := hf
      have hsize : UInt8.ofNat (body.take size.toNat).length = size := by
        rw [length_take_of_drop hdrop, UInt8.ofNat_toNat]
      refine ⟨rfl, hsize, ?_, ?_⟩
      · simp only [IsValid, expected, Frame.size, hsize]
        exact hsum.symm
      · rw [Word.bytes_ofBytes, List.append_assoc, List.cons_append, List.cons_append,
          List.nil_append, ← hdrop, List.take_append_drop]
    · simp at hf
  | [] | [_] => simp [finish, hdrop] at hf

lemma finish_append_of_rejected {kind : Kind} {size : UInt8} {body : Bytes}
    {h : size.toNat ≤ l.payload} {cause : Rejection} (hf : finish l kind size body h = .rejected cause)
    (c : Bytes) : finish l kind size (body ++ c) h = .rejected cause := by
  match hdrop : body.drop size.toNat with
  | hi :: lo :: rest =>
    have hlen := length_take_of_drop hdrop
    rw [List.length_take] at hlen
    have hle : size.toNat ≤ body.length := by omega
    have hdrop' : (body ++ c).drop size.toNat = hi :: lo :: (rest ++ c) := by
      rw [List.drop_append_of_le_length hle, hdrop]
      rfl
    have htake : (body ++ c).take size.toNat = body.take size.toNat :=
      List.take_append_of_le_length hle
    rw [finish_of_drop hdrop] at hf
    split at hf
    · simp at hf
    · next hsum => rw [finish_of_drop hdrop', if_neg (by rw [htake]; exact hsum), htake, hf]
  | [] | [_] => simp [finish, hdrop] at hf

/-! ### From the first byte -/

lemma decode_header {kind : Kind} {size : UInt8} {body : Bytes} (hk : l.accepts kind = true)
    (hs : size.toNat ≤ l.payload) :
    decode l (marker :: marker :: kind :: size :: body) = finish l kind size body hs := by
  simp [decode, hk, hs]

/-- A buffer begins with an acceptable header, or is too short to tell, or is refused for a byte of
the header whatever follows. -/
lemma decode_cases (l : Limits) (b : Bytes) :
    (∃ kind size body, b = marker :: marker :: kind :: size :: body ∧ l.accepts kind = true ∧
      size.toNat ≤ l.payload) ∨
    decode l b = .needMore ∨ ∃ cause, ∀ c, decode l (b ++ c) = .rejected cause := by
  match b with
  | [] => exact Or.inr (Or.inl rfl)
  | first :: rest =>
    by_cases h1 : first ≠ marker
    · exact Or.inr (Or.inr ⟨.invalidMarker, fun c => by simp [decode, h1]⟩)
    match rest with
    | [] => exact Or.inr (Or.inl (by simp [decode, h1]))
    | second :: rest =>
      by_cases h2 : second ≠ marker
      · exact Or.inr (Or.inr ⟨.invalidMarker, fun c => by simp [decode, h1, h2]⟩)
      match rest with
      | [] => exact Or.inr (Or.inl (by simp [decode, h1, h2]))
      | kind :: rest =>
        by_cases h3 : ¬ l.accepts kind = true
        · exact Or.inr (Or.inr ⟨.invalidKind kind, fun c => by simp [decode, h1, h2, h3]⟩)
        match rest with
        | [] => exact Or.inr (Or.inl (by simp [decode, h1, h2, h3]))
        | size :: body =>
          by_cases h4 : ¬ size.toNat ≤ l.payload
          · exact Or.inr (Or.inr ⟨.invalidLength size.toNat l.payload,
              fun c => by simp [decode, h1, h2, h3, h4]⟩)
          · simp only [ne_eq, Classical.not_not] at h1 h2 h3 h4
            exact Or.inl ⟨kind, size, body, by rw [h1, h2], h3, h4⟩

lemma decode_wire_append (h : l.Admits f) (r : Bytes) : decode l (f.wire ++ r) = .frame f r := by
  have hs : f.size.toNat ≤ l.payload := by rw [toNat_size]; exact h.payload
  simp only [wire, List.cons_append]
  rw [decode_header h.kind hs, finish_wire hs h.valid]

lemma wire_of_decode (h : decode l b = .frame f r) : b = f.wire ++ r ∧ l.Admits f := by
  rcases decode_cases l b with ⟨kind, size, body, rfl, hk, hs⟩ | hn | ⟨cause, hc⟩
  · rw [decode_header hk hs] at h
    obtain ⟨rfl, rfl, hv, rfl⟩ := wire_of_finish h
    rw [toNat_size] at hs
    exact ⟨by simp [wire], hk, hs, hv⟩
  · rw [hn] at h
    simp at h
  · have := hc []
    rw [List.append_nil, h] at this
    simp at this

/-- **The front of a buffer is a frame exactly when it is the wire form of an admitted one.** -/
lemma decode_eq_frame : decode l b = .frame f r ↔ b = f.wire ++ r ∧ l.Admits f :=
  ⟨wire_of_decode, fun ⟨hb, h⟩ => by rw [hb, decode_wire_append h]⟩

/-- The kinds that a reader takes run from 1 to the highest one it is set to, without the marker. -/
lemma accepts_iff {k : Kind} : l.accepts k = true ↔ 1 ≤ k ∧ k ≤ l.maxKind ∧ k ≠ 0xFF := by
  have hpos : k ≠ 0 ↔ 1 ≤ k := by
    rw [Ne, ← UInt8.toNat_inj, UInt8.le_iff_toNat_le]
    exact Nat.pos_iff_ne_zero.symm
  simp only [Limits.accepts, Kind.inRange, Bool.and_eq_true, bne_iff_ne, decide_eq_true_eq, hpos]
  constructor
  · rintro ⟨⟨h1, h2⟩, h3⟩
    exact ⟨h1, h3, h2⟩
  · rintro ⟨h1, h2, h3⟩
    exact ⟨⟨h1, h3⟩, h2⟩

/-- **Reading a frame is undoing its wire form.** The front of a buffer is read as a frame, with
the rest of the buffer left, exactly when the buffer is the wire form of that frame followed by the
rest, the kind is in range, the payload is within the limit in force, and the stored checksum is the
one that kind, size and payload call for. -/
theorem decode_frame_iff (l : Limits) (b : Bytes) (f : Frame) (r : Bytes) :
    decode l b = .frame f r ↔
      b = f.wire ++ r ∧ (1 ≤ f.kind ∧ f.kind ≤ l.maxKind ∧ f.kind ≠ 0xFF) ∧
        f.payload.length ≤ min l.maxPayloadSize 127 ∧
        f.checksum = Checksum.sum f.kind f.size f.payload := by
  rw [decode_eq_frame, ← accepts_iff]
  constructor
  · rintro ⟨hb, hkind, hpayload, hvalid⟩
    exact ⟨hb, hkind, hpayload, hvalid⟩
  · rintro ⟨hb, hkind, hpayload, hvalid⟩
    exact ⟨hb, hkind, hpayload, hvalid⟩

/-! ### More bytes behind -/

lemma decode_append_of_frame (h : decode l b = .frame f r) (c : Bytes) :
    decode l (b ++ c) = .frame f (r ++ c) := by
  obtain ⟨rfl, ha⟩ := wire_of_decode h
  rw [List.append_assoc, decode_wire_append ha]

lemma decode_append_of_rejected {cause : Rejection} (h : decode l b = .rejected cause) (c : Bytes) :
    decode l (b ++ c) = .rejected cause := by
  rcases decode_cases l b with ⟨kind, size, body, rfl, hk, hs⟩ | hn | ⟨cause', hc⟩
  · rw [decode_header hk hs] at h
    simp only [List.cons_append]
    rw [decode_header hk hs, finish_append_of_rejected h]
  · rw [hn] at h
    simp at h
  · have h' := hc []
    rw [List.append_nil, h] at h'
    rw [hc c, h']

/-! ### A wire form at the front -/

/-- A wire form says which frame it is of, and where it ends. -/
lemma wire_append_inj {s : Bytes} (h : f.wire ++ r = g.wire ++ s) : f = g ∧ r = s := by
  obtain ⟨kind, payload, checksum, hle⟩ := f
  obtain ⟨kind', payload', checksum', hle'⟩ := g
  simp only [wire, List.cons_append, List.cons.injEq, true_and, List.append_assoc] at h
  obtain ⟨rfl, hsize, hbody⟩ := h
  have hlen : payload.length = payload'.length := by
    have hnat := congrArg UInt8.toNat hsize
    rwa [toNat_size, toNat_size] at hnat
  obtain ⟨rfl, htrailer⟩ := List.append_inj hbody hlen
  obtain ⟨hsum, rfl⟩ := List.append_inj htrailer rfl
  have hword : checksum = checksum' := by
    simp only [Word.bytes, List.cons.injEq, and_true] at hsum
    rw [← Word.ofBytes_bytes checksum, ← Word.ofBytes_bytes checksum', hsum.1, hsum.2]
  exact ⟨by rw [hword], rfl⟩

/-- At most one admitted frame has its wire form at the front of a buffer. -/
lemma eq_of_wire_fronts (hf : l.Admits f) (hg : l.Admits g) (h : f.wire <+: b) (h' : g.wire <+: b) :
    f = g := by
  obtain ⟨r, rfl⟩ := h
  obtain ⟨r', hr⟩ := h'
  have hd := decode_wire_append hg r'
  rw [hr, decode_wire_append hf r] at hd
  simp only [Verdict.frame.injEq] at hd
  exact hd.1

lemma not_wire_front_of_rejected {cause : Rejection} (h : decode l b = .rejected cause)
    (hf : l.Admits f) : ¬ f.wire <+: b := by
  rintro ⟨r, rfl⟩
  simp [decode_wire_append hf] at h

lemma not_wire_front_of_needMore (h : decode l b = .needMore) (hf : l.Admits f) :
    ¬ f.wire <+: b := by
  rintro ⟨r, rfl⟩
  simp [decode_wire_append hf] at h

/-- A wire form opens with the marker. -/
lemma head_of_wire_front {x : UInt8} (h : f.wire <+: x :: b) : x = marker := by
  obtain ⟨r, hr⟩ := h
  simp only [wire, List.cons_append, List.cons.injEq] at hr
  exact hr.1.symm

end Frame

end FrameLink
