import Mathlib.Logic.Basic
import FrameLink.Proofs.Frame.Decode
import FrameLink.Frame.InPlace

/-!
Taking a frame out of a buffer in place, and looking a buffer over.

Taking comes to the verdict that decoding the same bytes gives, so it inherits what is known of
verdicts: nothing is lost when there is no frame, and what was decided is not decided otherwise when
more bytes come. The check of a whole buffer agrees with it on every frame that the limits admit.
-/

namespace FrameLink

/-- What a verdict on a buffer comes to for whoever takes a frame out of it. -/
def Verdict.taken (b : Bytes) : Verdict → Frame.Taken
  | .needMore => (.ok none, b)
  | .frame f rest => (.ok (some f), rest)
  | .rejected cause => (.error (.rejected cause), b)

namespace Frame

open Buffer

variable {l : Limits} {f : Frame} {b r body payload rest : Bytes} {kind size hi lo : UInt8}

/-! ### Behind the header -/

lemma drop_of_short {n : Nat} (h : body.length < n + 2) : body.drop n ≠ hi :: lo :: rest := by
  intro hdrop
  have hlen := congrArg List.length hdrop
  simp only [List.length_drop, List.length_cons] at hlen
  omega

/-- Behind a header there are a payload and a trailer of the announced size, or too few bytes. -/
lemma short_or_trailer (n : Nat) (body : Bytes) : body.length < n + 2 ∨
    ∃ payload hi lo rest, body = payload ++ hi :: lo :: rest ∧ payload.length = n := by
  by_cases h : body.length < n + 2
  · exact Or.inl h
  match hdrop : body.drop n with
  | hi :: lo :: rest =>
    refine Or.inr ⟨body.take n, hi, lo, rest, ?_, ?_⟩
    · rw [← hdrop, List.take_append_drop]
    · rw [List.length_take]
      omega
  | [] | [_] =>
    have hlen := congrArg List.length hdrop
    simp only [List.length_drop, List.length_nil, List.length_cons] at hlen
    omega

lemma finish_of_short {h : size.toNat ≤ l.payload} (hb : body.length < size.toNat + 2) :
    finish l kind size body h = .needMore := by
  unfold finish
  split
  · next hdrop => exact absurd hdrop (drop_of_short hb)
  · rfl

lemma finish_of_trailer {h : size.toNat ≤ l.payload} (hp : payload.length = size.toNat) :
    finish l kind size (payload ++ hi :: lo :: rest) h =
      if Checksum.sum kind size payload = Word.ofBytes hi lo then
        .frame ⟨kind, payload, Word.ofBytes hi lo, hp ▸ Nat.le_trans h (Nat.min_le_right _ _)⟩ rest
      else .rejected (.checksumMismatch kind (Checksum.sum kind size payload)
        (Word.ofBytes hi lo)) := by
  have hdrop : (payload ++ hi :: lo :: rest).drop size.toNat = hi :: lo :: rest :=
    List.drop_left' hp
  have htake : (payload ++ hi :: lo :: rest).take size.toNat = payload := List.take_left' hp
  rw [finish_of_drop hdrop]
  simp only [htake]

lemma checksOut_of_short (hb : body.length < size.toNat + 2) :
    checksOut (marker :: marker :: kind :: size :: body) = false := by
  simp only [checksOut, beq_self_eq_true, Bool.true_and]
  split
  · next hdrop => exact absurd hdrop (drop_of_short hb)
  · rfl

lemma checksOut_of_trailer (hp : payload.length = size.toNat) :
    checksOut (marker :: marker :: kind :: size :: (payload ++ hi :: lo :: rest)) =
      (Word.ofBytes hi lo == Checksum.sum kind size payload) := by
  simp [checksOut, List.drop_left' hp, List.take_left' hp]

/-- What checks out is two markers, a header of whatever kind and size, a payload of that size with
its checksum behind it, and whatever follows. -/
lemma checksOut_iff : checksOut b = true ↔ ∃ kind size payload hi lo rest,
    b = marker :: marker :: kind :: size :: (payload ++ hi :: lo :: rest) ∧
      payload.length = size.toNat ∧ Word.ofBytes hi lo = Checksum.sum kind size payload := by
  constructor
  · intro h
    match b with
    | [] | [_] | [_, _] | [_, _, _] => simp [checksOut] at h
    | first :: second :: kind :: size :: body =>
      obtain ⟨rfl, rfl⟩ : first = marker ∧ second = marker := by
        simp only [checksOut, Bool.and_eq_true, beq_iff_eq] at h
        exact h.1
      rcases short_or_trailer size.toNat body with hb | ⟨payload, hi, lo, rest, rfl, hp⟩
      · rw [checksOut_of_short hb] at h
        cases h
      · rw [checksOut_of_trailer hp, beq_iff_eq] at h
        exact ⟨kind, size, payload, hi, lo, rest, rfl, hp, h⟩
  · rintro ⟨kind, size, payload, hi, lo, rest, rfl, hp, hsum⟩
    rw [checksOut_of_trailer hp, hsum, beq_self_eq_true]

lemma header_places {w x y z : UInt8} (hb : b = w :: x :: y :: z :: body) :
    b[0]? = some w ∧ b[1]? = some x ∧ b[2]? = some y ∧ b[3]? = some z ∧
      b.length = body.length + headerSize := by
  subst hb
  exact ⟨rfl, rfl, rfl, rfl, rfl⟩

/-- Where the trailer of the announced size stands in a buffer, and the sum over the payload. -/
lemma trailer_places {w x y z : UInt8} (kind : UInt8)
    (hb : b = w :: x :: y :: z :: (payload ++ hi :: lo :: rest))
    (hp : payload.length = size.toNat) :
    b[headerSize + size.toNat]? = some hi ∧ b[headerSize + size.toNat + 1]? = some lo ∧
      Checksum.window kind size b headerSize = some (Checksum.sum kind size payload) := by
  have hbehind (i : Nat) : b[headerSize + i]? = (payload ++ hi :: lo :: rest)[i]? := by
    rw [hb, headerSize, Nat.add_comm]
    rfl
  have hdrop : b.drop headerSize = payload ++ hi :: lo :: rest := by rw [hb]; rfl
  have hin : headerSize + size.toNat ≤ b.length := by
    simp only [hb, headerSize, List.length_cons, List.length_append, hp]
    omega
  refine ⟨?_, ?_, ?_⟩
  · rw [hbehind, ← hp]
    simp
  · rw [Nat.add_assoc, hbehind, ← hp]
    simp
  · rw [Checksum.window, if_pos hin, hdrop, List.take_left' hp]

/-! ### The same as on whole buffers -/

lemma takeFrom_header (hk : l.accepts kind = true) (hs : size.toNat ≤ l.payload)
    (hb : b = marker :: marker :: kind :: size :: body) :
    takeFrom l b = some ((finish l kind size body hs).taken b) := by
  obtain ⟨h0, h1, h2, h3, hlen⟩ := header_places hb
  have hne : ¬ b.isEmpty = true := by rw [hb]; simp
  have hlong : ¬ b.length < headerSize ∧ ¬ b.length < 3 ∧ ¬ b.length < 2 := by
    simp only [hlen, headerSize]
    omega
  have hno : ¬ l.payload < size.toNat := Nat.not_lt_of_ge hs
  rcases short_or_trailer size.toNat body with hshort | ⟨payload, hi, lo, rest, rfl, hp⟩
  · have hmore : b.length < overhead + size.toNat := by
      simp only [hlen, overhead, headerSize]
      omega
    simp [takeFrom, h0, h1, h2, h3, hne, hlong, hk, hno, hmore, finish_of_short hshort,
      Verdict.taken]
  · have hall : ¬ b.length < overhead + size.toNat := by
      simp only [hlen, overhead, headerSize, List.length_append, List.length_cons, hp]
      omega
    obtain ⟨hhi, hlo, hsum⟩ := trailer_places kind hb hp
    rw [finish_of_trailer hp]
    by_cases heq : Checksum.sum kind size payload = Word.ofBytes hi lo
    · have hle : payload.length ≤ maxPayload := hp ▸ Nat.le_trans hs (Nat.min_le_right _ _)
      have hmade : stored kind payload (Word.ofBytes hi lo) =
          .ok ⟨kind, payload, Word.ofBytes hi lo, hle⟩ := dif_pos hle
      have hdrop : advance b headerSize = some (payload ++ hi :: lo :: rest) := by
        simp [hb, advance, headerSize]
      have hsplit : splitTo (payload ++ hi :: lo :: rest) size.toNat =
          some (payload, hi :: lo :: rest) := by
        simp [splitTo, ← hp]
      have hrest : advance (hi :: lo :: rest) trailerSize = some rest := by
        simp [advance, trailerSize]
      simp [takeFrom, h0, h1, h2, h3, hne, hlong, hk, hno, hall, hhi, hlo, hsum, heq, hdrop, hsplit,
        hrest, hmade, Except.map, Verdict.taken]
    · simp [takeFrom, h0, h1, h2, h3, hne, hlong, hk, hno, hall, hhi, hlo, hsum, heq, Verdict.taken]

/-- **Taking a frame out of a buffer never panics, and comes to the verdict on the buffer.** -/
lemma takeFrom_eq (l : Limits) (b : Bytes) : takeFrom l b = some ((decode l b).taken b) := by
  rcases b with _ | ⟨first, rest⟩
  · rfl
  rcases ne_or_eq first marker with h1 | rfl
  · simp [takeFrom, decode, h1, Verdict.taken]
  rcases rest with _ | ⟨second, rest⟩
  · simp [takeFrom, decode, Verdict.taken]
  rcases ne_or_eq second marker with h2 | rfl
  · simp +arith [takeFrom, decode, h2, Verdict.taken]
  rcases rest with _ | ⟨kind, rest⟩
  · simp [takeFrom, decode, Verdict.taken]
  rcases Bool.eq_false_or_eq_true (l.accepts kind) with hk | hk
  · rcases rest with _ | ⟨size, body⟩
    · simp [takeFrom, decode, hk, Verdict.taken, headerSize]
    · by_cases hs : size.toNat ≤ l.payload
      · rw [decode_header hk hs, takeFrom_header hk hs rfl]
      · simp +arith [takeFrom, decode, hk, hs, Verdict.taken, headerSize]
  · simp +arith [takeFrom, decode, hk, Verdict.taken]

lemma verify_header (hb : b = marker :: marker :: kind :: size :: body) :
    verify b = some (checksOut b) := by
  obtain ⟨h0, h1, h2, h3, hlen⟩ := header_places hb
  rcases short_or_trailer size.toNat body with hshort | ⟨payload, hi, lo, rest, rfl, hp⟩
  · have hout : checksOut b = false := hb ▸ checksOut_of_short hshort
    have hmore : b.length < headerSize + size.toNat + trailerSize := by
      simp only [hlen, headerSize, trailerSize]
      omega
    by_cases hb6 : b.length < overhead <;> simp [verify, hout, hb6, h0, h1, h2, h3, hmore]
  · have hall : ¬ b.length < headerSize + size.toNat + trailerSize ∧ ¬ b.length < overhead := by
      simp only [hlen, headerSize, trailerSize, overhead, List.length_append, List.length_cons, hp]
      omega
    obtain ⟨hhi, hlo, hsum⟩ := trailer_places kind hb hp
    have hout : checksOut b = (Word.ofBytes hi lo == Checksum.sum kind size payload) :=
      hb ▸ checksOut_of_trailer hp
    simp [verify, hall, h0, h1, h2, h3, hhi, hlo, hsum, hout]

/-- **The offline check is never out of range, and finds what checks out.** -/
lemma verify_eq (b : Bytes) : verify b = some (checksOut b) := by
  match b with
  | [] | [_] | [_, _] | [_, _, _] => simp [verify, checksOut, overhead]
  | first :: second :: kind :: size :: body =>
    rcases ne_or_eq first marker with h1 | rfl
    · simp +arith [verify, checksOut, overhead, h1]
    rcases ne_or_eq second marker with h2 | rfl
    · simp +arith [verify, checksOut, overhead, h2]
    exact verify_header rfl

/-- Whoever takes a frame gets the verdict on the buffer, and finds the buffer as it was unless a
frame was taken. -/
lemma takeFrom_cases (l : Limits) (b : Bytes) :
    (decode l b = .needMore ∧ takeFrom l b = some (.ok none, b)) ∨
      (∃ f r, decode l b = .frame f r ∧ takeFrom l b = some (.ok (some f), r)) ∨
      ∃ cause, decode l b = .rejected cause ∧ takeFrom l b = some (.error (.rejected cause), b) := by
  rw [takeFrom_eq]
  cases decode l b with
  | needMore => exact Or.inl ⟨rfl, rfl⟩
  | frame f r => exact Or.inr (Or.inl ⟨f, r, rfl, rfl⟩)
  | rejected cause => exact Or.inr (Or.inr ⟨cause, rfl, rfl⟩)

lemma takeFrom_eq_frame : takeFrom l b = some (.ok (some f), r) ↔ decode l b = .frame f r := by
  rw [takeFrom_eq]
  cases decode l b <;> simp [Verdict.taken]

lemma takeFrom_eq_error {e : FrameError} : takeFrom l b = some (.error e, r) ↔
    r = b ∧ ∃ cause, e = .rejected cause ∧ decode l b = .rejected cause := by
  rw [takeFrom_eq]
  cases decode l b <;> simp [Verdict.taken, eq_comm, and_comm]

/-! ### Nothing is decided too early or too late -/

/-- The front of a wire form that is not all of it is undecided, also if its checksum is wrong: that
is not looked at before the last byte is there. -/
lemma decode_of_proper_front {p : Bytes} (hk : l.accepts f.kind = true)
    (hs : f.payload.length ≤ l.payload) (hp : p <+: f.wire) (hne : p ≠ f.wire) :
    decode l p = .needMore := by
  have hlen : p.length < overhead + f.size.toNat := by
    rw [toNat_size, ← wireSize, ← length_wire]
    exact Nat.lt_of_le_of_ne hp.length_le fun h => hne (hp.eq_of_length h)
  obtain ⟨c, hc⟩ := hp
  rcases p with _ | ⟨_, _ | ⟨_, _ | ⟨_, _ | ⟨_, body⟩⟩⟩⟩
  · rfl
  case cons.cons.cons.cons =>
    simp only [wire, List.cons_append, List.cons.injEq] at hc
    obtain ⟨rfl, rfl, rfl, rfl, -⟩ := hc
    have hshort : body.length < f.size.toNat + 2 := by
      simp only [List.length_cons, overhead] at hlen
      omega
    rw [decode_header hk (f.toNat_size ▸ hs), finish_of_short hshort]
  all_goals
    simp only [wire, List.cons_append, List.cons.injEq] at hc
    simp [decode, hc, hk]

/-- **Taking a frame is all or nothing, and what was decided stays.** There always is an answer, the
verdict on the buffer. Without a frame the buffer is left as it was, and an error is one that a reader
goes on after. More bytes behind the buffer change neither the error nor the frame, and stay behind it;
and as long as the buffer is the front of a frame of which the kind and the size are within the limits,
and not yet all of it, there is neither. -/
theorem takeFrom_atomic_and_final (l : Limits) (b : Bytes) :
    takeFrom l b = some ((decode l b).taken b) ∧
    (∃ answer left, takeFrom l b = some (answer, left) ∧
      (answer = .ok none → left = b) ∧
      ∀ e, answer = .error e → left = b ∧ e.isRecoverable = true) ∧
    (∀ e left, takeFrom l b = some (.error e, left) →
      ∀ x, takeFrom l (b ++ x) = some (.error e, b ++ x)) ∧
    (∀ f r, takeFrom l b = some (.ok (some f), r) →
      ∀ x, takeFrom l (b ++ x) = some (.ok (some f), r ++ x)) ∧
    ∀ (f : Frame) p, l.accepts f.kind = true → f.payload.length ≤ l.payload →
      p <+: f.wire → p ≠ f.wire → takeFrom l p = some (.ok none, p) := by
  refine ⟨takeFrom_eq l b, ?_, ?_, ?_, ?_⟩
  · rcases takeFrom_cases l b with ⟨-, h⟩ | ⟨f, r, -, h⟩ | ⟨cause, -, h⟩
    · exact ⟨_, _, h, fun _ => rfl, by simp⟩
    · exact ⟨_, _, h, by simp, by simp⟩
    · refine ⟨_, _, h, by simp, ?_⟩
      rintro e ⟨⟩
      exact ⟨rfl, rfl⟩
  · intro e left h x
    obtain ⟨-, cause, rfl, hd⟩ := takeFrom_eq_error.mp h
    exact takeFrom_eq_error.mpr ⟨rfl, cause, rfl, decode_append_of_rejected hd x⟩
  · intro f r h x
    exact takeFrom_eq_frame.mpr (decode_append_of_frame (takeFrom_eq_frame.mp h) x)
  · intro f p hk hs hp hne
    rw [takeFrom_eq, decode_of_proper_front hk hs hp hne]
    rfl

/-- A length over the limit is refused before the payload is there, a request to shut down is taken
from in front of a marker, and without its last byte it is waited for. -/
theorem takeFrom_atomic_and_final_shut_down :
    takeFrom {} ([0xFF, 0xFF, 0x12, 0x80] ++ [0x00]) =
      some (.error (.rejected (.invalidLength 128 64)), [0xFF, 0xFF, 0x12, 0x80, 0x00]) ∧
    takeFrom {} ([0xFF, 0xFF, 0x12, 0x00, 0x00, 0x12] ++ [0xFF]) =
      some (.ok (some (empty 0x12)), [0xFF]) ∧
    takeFrom {} [0xFF, 0xFF, 0x12, 0x00, 0x00] =
      some (.ok none, [0xFF, 0xFF, 0x12, 0x00, 0x00]) :=
  ⟨(takeFrom_atomic_and_final {} [0xFF, 0xFF, 0x12, 0x80]).2.2.1 _ [0xFF, 0xFF, 0x12, 0x80]
      rfl [0x00],
    (takeFrom_atomic_and_final {} [0xFF, 0xFF, 0x12, 0x00, 0x00, 0x12]).2.2.2.1 _ [] rfl [0xFF],
    (takeFrom_atomic_and_final {} []).2.2.2.2 (empty 0x12) _ (by decide) (by decide) (by decide)
      (by decide)⟩

/-! ### The check and the taking of a frame -/

lemma wire_append (f : Frame) (r : Bytes) : f.wire ++ r = marker :: marker :: f.kind :: f.size ::
    (f.payload ++ UInt8.ofNat (f.checksum.toNat / 256) :: UInt8.ofNat (f.checksum.toNat % 256) ::
      r) := by
  simp [wire, Word.bytes]

/-- The wire form of a frame, in range or not, checks out exactly if its checksum is right. -/
lemma checksOut_wire_append (f : Frame) (r : Bytes) : checksOut (f.wire ++ r) = decide f.IsValid := by
  rw [wire_append, checksOut_of_trailer f.toNat_size.symm, Word.ofBytes_bytes, beq_eq_decide]
  rfl

/-- **Taking a frame agrees with the check.** The check is never out of range, and finds what checks
out. A frame is taken
exactly if the buffer checks out and the kind and the size that stand in it are within the limits; then
it has that kind, the payload and the checksum that stand behind them, and no more is gone. -/
theorem takeFrom_agrees_with_verify (l : Limits) (b : Bytes) :
    verify b = some (checksOut b) ∧
    ((∃ f r, takeFrom l b = some (.ok (some f), r)) ↔
      verify b = some true ∧ ∃ kind size, b[2]? = some kind ∧ b[3]? = some size ∧
        l.accepts kind = true ∧ size.toNat ≤ l.payload) ∧
    ∀ f r, takeFrom l b = some (.ok (some f), r) →
      ∃ size hi lo, b[2]? = some f.kind ∧ b[3]? = some size ∧
        f.payload = (b.drop 4).take size.toNat ∧ f.payload.length = size.toNat ∧
        b[4 + size.toNat]? = some hi ∧ b[4 + size.toNat + 1]? = some lo ∧
        f.checksum = Word.ofBytes hi lo ∧ r = b.drop (6 + size.toNat) := by
  refine ⟨verify_eq b, ⟨?_, ?_⟩, ?_⟩
  · rintro ⟨f, r, h⟩
    obtain ⟨rfl, hf⟩ := wire_of_decode (takeFrom_eq_frame.mp h)
    refine ⟨?_, f.kind, f.size, rfl, rfl, hf.kind, f.toNat_size ▸ hf.payload⟩
    rw [verify_eq, checksOut_wire_append, decide_eq_true hf.valid]
  · rintro ⟨hv, kind, size, hkind, hsize, hk, hs⟩
    rw [verify_eq, Option.some.injEq, checksOut_iff] at hv
    obtain ⟨kind', size', payload, hi, lo, rest, rfl, hp, hsum⟩ := hv
    obtain rfl : kind' = kind := Option.some.inj hkind
    obtain rfl : size' = size := Option.some.inj hsize
    refine ⟨⟨kind', payload, Word.ofBytes hi lo, ?_⟩, rest, takeFrom_eq_frame.mpr ?_⟩
    · exact hp ▸ Nat.le_trans hs (Nat.min_le_right _ _)
    · rw [decode_header hk hs, finish_of_trailer hp, if_pos hsum.symm]
  · intro f r h
    obtain ⟨rfl, -⟩ := wire_of_decode (takeFrom_eq_frame.mp h)
    have hp : f.payload.length = f.size.toNat := f.toNat_size.symm
    obtain ⟨hhi, hlo, -⟩ := trailer_places f.kind (wire_append f r) hp
    refine ⟨f.size, _, _, rfl, rfl, ?_, hp, hhi, hlo, (Word.ofBytes_bytes _).symm, ?_⟩
    · rw [wire_append]
      exact (List.take_left' hp).symm
    · have hlen : f.wire.length = 6 + f.size.toNat := by rw [length_wire, wireSize, overhead, hp]
      exact (List.drop_left' hlen).symm

/-- A mode and a state, in front of one byte more. -/
theorem takeFrom_agrees_with_verify_mode_state :
    let b : Bytes := [0xFF, 0xFF, 0x04, 0x02, 0x01, 0x02, 0x00, 0x09, 0xAA]
    let f : Frame := ⟨0x04, [0x01, 0x02], 0x0009, by decide⟩
    takeFrom {} b = some (.ok (some f), [0xAA]) ∧
      ∃ size hi lo, b[2]? = some f.kind ∧ b[3]? = some size ∧
        f.payload = (b.drop 4).take size.toNat ∧ f.payload.length = size.toNat ∧
        b[4 + size.toNat]? = some hi ∧ b[4 + size.toNat + 1]? = some lo ∧
        f.checksum = Word.ofBytes hi lo ∧ [0xAA] = b.drop (6 + size.toNat) := by
  intro b f
  have h : takeFrom {} b = some (.ok (some f), [0xAA]) := rfl
  exact ⟨h, (takeFrom_agrees_with_verify {} b).2.2 f [0xAA] h⟩

end Frame

end FrameLink
