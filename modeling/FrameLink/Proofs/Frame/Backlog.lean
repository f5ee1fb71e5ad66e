import Mathlib.Tactic.ByContra
import FrameLink.Proofs.Frame.Decided
import FrameLink.Proofs.Frame.InPlace
import FrameLink.Frame.Resync

/-!
Looking for frames ends, and leaves little behind.

In place a scanner comes to the answer of one scan over the buffer, so neither loop goes on for ever or
drops bytes that are not there. A scanner that has to wait holds the beginning of one frame, less than
all of it; at the end of a stream it holds nothing.
-/

namespace FrameLink

namespace Frame

variable {l : Limits} {b body : Bytes} {first second kind size : UInt8}

lemma marker_of_needMore (h : decode l (first :: b) = .needMore) : first = marker := by
  by_contra hne
  simp [decode, hne] at h

/-- A whole header that is undecided is an acceptable one, and what it announces is not all there. -/
lemma short_of_header (h : decode l (first :: second :: kind :: size :: body) = .needMore) :
    size.toNat ≤ l.payload ∧ body.length < size.toNat + 2 := by
  obtain rfl := marker_of_needMore h
  have hsecond : second = marker := by
    by_contra hne
    simp [decode, hne] at h
  subst hsecond
  have hkind : l.accepts kind = true := by
    by_contra hne
    simp [decode, hne] at h
  have hsize : size.toNat ≤ l.payload := by
    by_contra hne
    simp [decode, hkind, hne] at h
  refine ⟨hsize, ?_⟩
  rcases short_or_trailer size.toNat body with hshort | ⟨payload, hi, lo, rest, rfl, hp⟩
  · exact hshort
  · rw [decode_header hkind hsize, finish_of_trailer hp] at h
    split at h <;> cases h

/-- A buffer that is undecided is empty or begins with a marker, and lacks at least the last byte of the
longest frame that is admitted. -/
lemma short_of_needMore (h : decode l b = .needMore) :
    (b = [] ∨ b.head? = some marker) ∧ b.length ≤ l.payload + 5 := by
  rcases b with _ | ⟨first, rest⟩
  · exact ⟨Or.inl rfl, Nat.zero_le _⟩
  refine ⟨Or.inr (congrArg some (marker_of_needMore h)), ?_⟩
  rcases rest with _ | ⟨second, _ | ⟨kind, _ | ⟨size, body⟩⟩⟩
  case cons.cons.cons =>
    obtain ⟨hsize, hbody⟩ := short_of_header h
    simp only [List.length_cons]
    omega
  all_goals
    simp only [List.length_cons, List.length_nil]
    omega

end Frame

namespace Scanner

open FrameLink.Frame

variable {s s' : Scanner} {f : Frame} {f? : Option Frame} {x : UInt8} {b : Bytes} {n : Nat} {e : Bool}

/-! ### What a scanner holds that has to wait -/

lemma limits_of_next (h : s.next = (f?, s')) : s'.limits = s.limits := (advance_eq_iff.mp h).1

lemma needMore_of_next (h : s.next = (none, s')) : decode s'.limits s'.buffer = .needMore := by
  rw [limits_of_next h]
  exact (scan_front_none (advance_eq_iff.mp h).2).1

lemma length_of_next_none (h : s.next = (none, s')) : s'.buffer.length ≤ s.buffer.length := by
  obtain ⟨-, i, hi, -⟩ := scan_front_none (advance_eq_iff.mp h).2
  rw [← hi, List.length_drop]
  exact Nat.sub_le _ _

/-! ### One pass -/

/-- Some bytes of the buffer gone, and counted. -/
def skipped (s : Scanner) (n : Nat) : Scanner :=
  { s with
    buffer := s.buffer.drop n
    tally := { s.tally with discarded := s.tally.discarded + n } }

/-- As long as there are that many bytes, they can be dropped. -/
lemma discard_of_le (h : n ≤ s.buffer.length) : s.discard n = some (s.skipped n) := by
  simp [discard, Buffer.advance, h, skipped]

/-- A scan goes over the bytes before the first marker one by one. -/
lemma scan_front (l : Limits) (e : Bool) (b : Bytes) (t : ScanTally) :
    let skip := b.findIdx (· == marker)
    scan l e b t = scan l e (b.drop skip) { t with discarded := t.discarded + skip } := by
  induction b generalizing t with
  | nil => rfl
  | cons x b ih =>
    by_cases hx : x = marker
    · subst hx
      rfl
    · have hskip : (x :: b).findIdx (· == marker) = b.findIdx (· == marker) + 1 := by
        rw [List.findIdx_cons, beq_false_of_ne hx, cond_false]
      have htally (k : Nat) : { t.discard with discarded := t.discard.discarded + k } =
          { t with discarded := t.discarded + (k + 1) } := by
        simp only [ScanTally.discard, ScanTally.mk.injEq, and_true, true_and]
        omega
      calc scan l e (x :: b) t
          = scan l e b t.discard := scan_junk hx
        _ = scan l e (b.drop (b.findIdx (· == marker)))
              { t.discard with discarded := t.discard.discarded + b.findIdx (· == marker) } := ih _
        _ = _ := by
          rw [htally, hskip, List.drop_succ_cons]

lemma head_of_skip (b : Bytes) : ∀ x ∈ (b.drop (b.findIdx (· == marker))).head?, x = marker := by
  intro x hx
  rw [List.head?_drop] at hx
  obtain ⟨hlt, rfl⟩ := List.getElem?_eq_some_iff.mp hx
  exact eq_of_beq (List.findIdx_getElem (p := (· == marker)) (w := hlt))

/-- A scanner with a marker at the front, or with nothing in the buffer. -/
def IsAligned (s : Scanner) : Prop := ∀ x ∈ s.buffer.head?, x = marker

/-- The first marker is brought to the front, and that changes nothing in what is found. -/
lemma skipToMarker_spec (s : Scanner) : ∃ s', s.skipToMarker = some s' ∧ s'.IsAligned ∧
    s'.buffer.length ≤ s.buffer.length ∧ ∀ e, s.advance e = s'.advance e := by
  have hlen : s.buffer.findIdx (· == marker) ≤ s.buffer.length := List.findIdx_le_length
  refine ⟨s.skipped (s.buffer.findIdx (· == marker)), ?_, head_of_skip s.buffer, ?_, ?_⟩
  · rw [skipToMarker]
    rcases Nat.eq_zero_or_pos (s.buffer.findIdx (· == marker)) with hzero | hpos
    · simp [hzero, skipped]
    · simp only [hpos, if_true, discard_of_le hlen]
  · simp only [skipped, List.length_drop]
    omega
  · intro e
    simp only [advance, skipped, scan_front s.limits e s.buffer s.tally]

/-! ### What stands at the front decides -/

lemma exists_marker (h : s.IsAligned) (hb : s.buffer ≠ []) : ∃ b, s.buffer = marker :: b := by
  obtain ⟨x, b, hxb⟩ := List.exists_cons_of_ne_nil hb
  have hx : x = marker := h x (by rw [hxb]; rfl)
  exact ⟨b, hx ▸ hxb⟩

lemma ne_nil_of_decode {v : Verdict} (hd : decode s.limits s.buffer = v) (hv : v ≠ .needMore) :
    s.buffer ≠ [] := by
  intro hb
  rw [hb] at hd
  exact hv hd.symm

lemma advance_of_frame (h : s.IsAligned) (hd : decode s.limits s.buffer = .frame f b) :
    s.advance e = (some f, { s with buffer := b, tally := s.tally.found }) := by
  obtain ⟨rest, hb⟩ := exists_marker h (ne_nil_of_decode hd nofun)
  rw [hb] at hd
  simp only [advance, hb, scan_of_frame hd]

lemma advance_of_rejected {cause : Rejection} (h : s.IsAligned)
    (hd : decode s.limits s.buffer = .rejected cause) :
    s.advance e = ({ s with tally := s.tally.refuse cause }.skipped 1).advance e := by
  obtain ⟨rest, hb⟩ := exists_marker h (ne_nil_of_decode hd nofun)
  rw [hb] at hd
  simp only [advance, hb, scan_of_rejected hd]
  simp only [skipped, ScanTally.discard, List.drop_succ_cons, List.drop_zero]

lemma next_of_needMore (h : s.IsAligned) (hd : decode s.limits s.buffer = .needMore) :
    s.next = (none, s) := by
  by_cases hb : s.buffer = []
  · simp only [next, advance, hb, scan_nil]
    rw [← hb]
  · obtain ⟨rest, hb⟩ := exists_marker h hb
    rw [hb] at hd
    simp only [next, advance, hb, scan_of_needMore hd, Bool.false_eq_true, if_false]
    rw [← hb]

/-- At the end of a stream what is undecided is given up byte by byte. -/
lemma finish_of_needMore (h : s.IsAligned) (hb : s.buffer ≠ [])
    (hd : decode s.limits s.buffer = .needMore) : s.finish = (s.skipped 1).finish := by
  obtain ⟨rest, hb⟩ := exists_marker h hb
  rw [hb] at hd
  simp only [finish, advance, hb, scan_of_needMore hd, if_true]
  simp only [skipped, hb, ScanTally.discard, List.drop_succ_cons, List.drop_zero]

lemma isAligned_of_next (h : s.next = (none, s')) : s'.IsAligned := by
  intro x hx
  rcases (short_of_needMore (needMore_of_next h)).1 with hb | hb
  · rw [hb] at hx
    cases hx
  · rw [hb] at hx
    exact (Option.some.inj hx).symm

/-! ### The loops -/

/-- A pass has come to what is to be found, or to a scanner in which the same is to be found among fewer
bytes. -/
def Pass.Approaches (value : Scanner → Option Frame × Scanner) (s : Scanner) : Pass → Prop
  | .answer f? s' => value s = (f?, s')
  | .again s' => value s = value s' ∧ s'.buffer.length < s.buffer.length

/-- A loop of which each pass comes to one thing, and nearer to what is to be found, ends with that and
with nothing else. -/
lemma ends_iff {pass : Scanner → Pass → Prop} {value : Scanner → Option Frame × Scanner}
    (hone : ∀ s p q, pass s p → pass s q → q = p)
    (h : ∀ s, ∃ p, pass s p ∧ p.Approaches value s) {a : Option Frame × Scanner} :
    Ends pass s a ↔ a = value s := by
  constructor
  · intro hends
    induction hends with
    | @answer s s' f? hp =>
      obtain ⟨p, hp', hvalue⟩ := h s
      obtain rfl := hone s p _ hp' hp
      exact hvalue.symm
    | @again s s' a hp rest ih =>
      obtain ⟨p, hp', hvalue⟩ := h s
      obtain rfl := hone s p _ hp' hp
      exact ih.trans hvalue.1.symm
  · rintro rfl
    -- the bytes in the buffer get fewer with each pass after which the loop goes on
    induction hn : s.buffer.length using Nat.strongRecOn generalizing s with
    | ind n ih =>
      obtain ⟨p, hp, hvalue⟩ := h s
      cases p with
      | answer f? s' =>
        rw [show value s = (f?, s') from hvalue]
        exact .answer hp
      | again s' =>
        rw [hvalue.1]
        exact .again hp (ih _ (hn ▸ hvalue.2) rfl)

lemma seekPass_of_skip (h : s.skipToMarker = some s') : s.seekPass =
    match decode s'.limits s'.buffer with
    | .frame f rest => some (.answer (some f) { s' with buffer := rest, tally := s'.tally.found })
    | .needMore => some (.answer none s')
    | .rejected cause => (s'.reject (.rejected cause)).map .again := by
  simp only [seekPass, h, Option.bind_eq_bind, Option.bind_some, takeFrom_eq]
  cases decode s'.limits s'.buffer with
  | frame f rest => rfl
  | needMore => rfl
  | rejected cause => exact (Option.map_eq_bind ..).symm

/-- A pass drops no bytes that are not there, and comes nearer to what a scan finds. -/
lemma seekPass_spec (s : Scanner) : ∃ p, s.seekPass = some p ∧ p.Approaches next s := by
  obtain ⟨s', hskip, hfront, hlen, hadvance⟩ := skipToMarker_spec s
  have hnext : s.next = s'.next := hadvance false
  rw [seekPass_of_skip hskip]
  cases hd : decode s'.limits s'.buffer with
  | frame f rest => exact ⟨_, rfl, hnext.trans (advance_of_frame hfront hd)⟩
  | needMore => exact ⟨_, rfl, hnext.trans (next_of_needMore hfront hd)⟩
  | rejected cause =>
    have hpos : 0 < s'.buffer.length := List.length_pos_iff.mpr (ne_nil_of_decode hd nofun)
    have hreject : s'.reject (.rejected cause) =
        some ({ s' with tally := s'.tally.refuse cause }.skipped 1) := discard_of_le hpos
    refine ⟨_, congrArg (Option.map Pass.again) hreject,
      hnext.trans (advance_of_rejected hfront hd), ?_⟩
    simp only [skipped, List.length_drop]
    omega

/-- **Looking for a frame in place ends with what a scan finds.** -/
lemma seeks_iff {a : Option Frame × Scanner} : s.Seeks a ↔ a = s.next := by
  apply ends_iff _ seekPass_spec
  intro s p q hp hq
  exact Option.some.inj (hq.symm.trans hp)

/-- At the end of the stream a pass comes to one thing only. -/
lemma EndPass.unique {p q : Pass} (hp : EndPass s p) (hq : EndPass s q) : q = p := by
  have hsame {a a' : Option Frame × Scanner} (h : s.Seeks a) (h' : s.Seeks a') : a = a' :=
    (seeks_iff.mp h).trans (seeks_iff.mp h').symm
  cases hp with
  | found h =>
    cases hq with
    | found h' => cases hsame h h'; rfl
    | emptied h' => cases hsame h h'
    | givenUp h' => cases hsame h h'
  | emptied h hb =>
    cases hq with
    | found h' => cases hsame h h'
    | emptied h' => cases hsame h h'; rfl
    | givenUp h' hb' => cases hsame h h'; exact absurd hb hb'
  | givenUp h hb hd =>
    cases hq with
    | found h' => cases hsame h h'
    | emptied h' hb' => cases hsame h h'; exact absurd hb' hb
    | givenUp h' hb' hd' =>
      cases hsame h h'
      rw [Option.some.inj (hd.symm.trans hd')]

/-- At the end of the stream a pass comes nearer to what a scan to the end finds. -/
lemma endPass_spec (s : Scanner) : ∃ p, EndPass s p ∧ p.Approaches finish s := by
  cases hn : s.next with
  | mk f? s' =>
    have hseeks : s.Seeks (f?, s') := seeks_iff.mpr hn.symm
    cases f? with
    | some f => exact ⟨_, .found hseeks, finish_of_next_some hn⟩
    | none =>
      have hfinish : s.finish = s'.finish := finish_of_next_none hn
      by_cases hb : s'.buffer = []
      · refine ⟨_, .emptied hseeks (List.isEmpty_iff.mpr hb), hfinish.trans ?_⟩
        simp only [finish, advance, hb, scan_nil]
        rw [← hb]
      · have hpos : 0 < s'.buffer.length := List.length_pos_iff.mpr hb
        have hlen := length_of_next_none hn
        have hgiven : s'.finish = (s'.skipped 1).finish :=
          finish_of_needMore (isAligned_of_next hn) hb (needMore_of_next hn)
        refine ⟨_, .givenUp hseeks (by rwa [List.isEmpty_iff]) (discard_of_le hpos),
          hfinish.trans hgiven, ?_⟩
        simp only [skipped, List.length_drop]
        omega

/-- **So does looking for one at the end of the stream.** -/
lemma seeksToEnd_iff {a : Option Frame × Scanner} : s.SeeksToEnd a ↔ a = s.finish := by
  apply ends_iff _ endPass_spec
  intro s p q hp hq
  exact hp.unique hq

/-- **Looking for frames ends, and leaves little behind.** Whatever the limits and whatever is in the
buffer, however much was pushed, both loops come to an end, and at no time is a byte dropped that is
not there. When there is no frame yet, the buffer is empty or begins with a marker, and holds at most
five bytes more than the payload limit; until bytes are pushed there still is none, and neither the
buffer nor the tally changes. When there is none at the end of the stream, the buffer is empty. -/
theorem ends_with_little_left (s : Scanner) :
    (∀ a, s.Seeks a ↔ a = s.next) ∧ (∀ a, s.SeeksToEnd a ↔ a = s.finish) ∧
    (∀ s', s.next = (none, s') →
      (s'.buffer = [] ∨ s'.buffer.head? = some 0xFF ∧
        s'.buffer.length ≤ min s.limits.maxPayloadSize 127 + 5) ∧
      s'.next = (none, s')) ∧
    ∀ s', s.finish = (none, s') → s'.buffer = [] := by
  refine ⟨fun _ => seeks_iff, fun _ => seeksToEnd_iff, ?_, ?_⟩
  · intro s' h
    obtain ⟨hfront, hlen⟩ := short_of_needMore (needMore_of_next h)
    rw [limits_of_next h] at hlen
    exact ⟨hfront.imp_right fun hhead => ⟨hhead, hlen⟩, next_of_next_none h⟩
  · intro s' h
    exact rest_of_scan_end (advance_eq_iff.mp h).2

/-- A frame without its last byte, behind a byte that begins none: with a payload limit of one byte it is
six bytes that are waited with, and none that are left when the stream ends. -/
theorem ends_with_little_left_cut_off :
    let s : Scanner := { limits := { maxPayloadSize := 1 }, buffer := [0x00, 0xFF, 0xFF, 0x0E, 1, 2, 0] }
    let s' := s.next.2
    s.next = (none, s') ∧ s'.buffer.length = 1 + 5 ∧ s'.next = (none, s') ∧
      s'.finish = (none, s'.finish.2) ∧ s'.finish.2.buffer = [] := by
  intro s s'
  have hnext : s.next = (none, s') := by decide
  have hfinish : s'.finish = (none, s'.finish.2) := by decide
  obtain ⟨-, -, hwaits, -⟩ := ends_with_little_left s
  obtain ⟨-, -, -, hends⟩ := ends_with_little_left s'
  exact ⟨hnext, by decide, (hwaits s' hnext).2, hfinish, hends _ hfinish⟩

end Scanner

end FrameLink
