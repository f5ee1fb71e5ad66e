import FrameLink.Console.InPlace
import FrameLink.Proofs.Frame.InPlace
import FrameLink.Proofs.Message.Frames
import FrameLink.Proofs.Message.Sizes

/-!
The report on bytes that should be one frame.

A look at bytes stops at one of three places: in front of a header, behind it, or behind the
trailer that the header announces. What the report holds is told from that place alone. It is the
report that is shown, and it agrees with the check of the bytes and with the reading of messages.
-/

namespace FrameLink

/-! ### Sums as they are shown -/

namespace Hex

lemma capital_inj : ∀ m n : Fin 16, capital m = capital n → m = n := by decide

lemma capital_mod (n : Nat) : capital (n % 16) = capital n := by
  simp only [capital, small, Nat.mod_mod]

lemma lastDigits_inj {width m n : Nat} (h : lastDigits width m = lastDigits width n) :
    m % 16 ^ width = n % 16 ^ width := by
  induction width generalizing m n with
  | zero => rw [Nat.pow_zero, Nat.mod_one, Nat.mod_one]
  | succ width ih =>
    rw [lastDigits, lastDigits] at h
    obtain ⟨hfront, hlast⟩ := List.append_inj' h rfl
    have hdigit : capital (m % 16) = capital (n % 16) := by
      rw [capital_mod, capital_mod]
      exact (List.cons.inj hlast).1
    have hmod : m % 16 = n % 16 := congrArg Fin.val <|
      capital_inj ⟨m % 16, Nat.mod_lt _ (by decide)⟩ ⟨n % 16, Nat.mod_lt _ (by decide)⟩ hdigit
    rw [Nat.pow_succ', Nat.mod_mul, Nat.mod_mul, ih hfront, hmod]

/-- Two words are shown alike only if they are the same. -/
lemma word_inj {v w : UInt16} : word v = word w ↔ v = w := by
  refine ⟨fun h => ?_, congrArg word⟩
  have hdigits : lastDigits 4 v.toNat = lastDigits 4 w.toNat := by
    have hchars := congrArg String.toList h
    simpa [word, padded] using hchars
  have hmod := lastDigits_inj hdigits
  have hv : v.toNat < 16 ^ 4 := v.toNat_lt
  have hw : w.toNat < 16 ^ 4 := w.toNat_lt
  rw [Nat.mod_eq_of_lt hv, Nat.mod_eq_of_lt hw] at hmod
  exact UInt16.toNat_inj.mp hmod

end Hex

namespace Console

/-- The fields of a report, each for itself, that an inspection has in pairs. -/
def Inspection.findings (i : Inspection) : Findings where
  valid := i.valid
  length := i.length
  kind := i.header.map fun (kind, _) => kind
  kindName := i.header.map fun (kind, _) => Kind.name kind
  size := i.header.map fun (_, size) => size
  expected := i.checksums.map fun (expected, _) => Hex.word expected
  received := i.checksums.map fun (_, received) => Hex.word received
  record := i.record

lemma Inspection.report_findings (i : Inspection) : i.findings.report = i.report := by
  obtain ⟨valid, length, header, checksums, record⟩ := i
  rcases header with _ | ⟨kind, size⟩ <;> rcases checksums with _ | ⟨expected, received⟩ <;>
    rcases record with _ | m <;> rfl

namespace Findings

variable {b body payload rest : Bytes} {kind : Kind} {size hi lo : UInt8}

/-- The message of the frame that a kind and a payload make. -/
def decoded? (kind : Kind) (payload : Bytes) : Option Message :=
  (Frame.make kind payload).toOption.bind fun f => (Message.ofFrame f).toOption

lemma message?_eq (kind : Kind) (payload : Bytes) :
    message? kind payload = some (decoded? kind payload) := by
  unfold message? decoded?
  cases Frame.make kind payload with
  | error e => rfl
  | ok f =>
    simp only [Message.read_eq]
    cases hm : Message.ofFrame f <;> simp [Except.mapError, Except.toOption, hm]

lemma decoded?_eq_some {m : Message} : decoded? kind payload = some m ↔
    ∃ f, Frame.make kind payload = .ok f ∧ Message.read f = .ok m := by
  unfold decoded?
  cases Frame.make kind payload with
  | error e => simp [Except.toOption]
  | ok f =>
    simp only [Message.read_ok_iff, Except.ok.injEq, exists_eq_left']
    cases hm : Message.ofFrame f <;> simp [Except.toOption, hm]

/-! ### Where a look stops -/

/-- The bytes are long enough for a header, and begin with two markers. -/
def Opens (b : Bytes) : Prop := headerSize ≤ b.length ∧ b[0]? = some marker ∧ b[1]? = some marker

instance : Decidable (Opens b) := inferInstanceAs (Decidable (_ ∧ _))

/-- Behind the header the trailer that the size byte announces lies inside the bytes. -/
def Reaches (b : Bytes) : Prop :=
  Opens b ∧ ∃ size, b[3]? = some size ∧ headerSize + size.toNat + trailerSize ≤ b.length

lemma opens_iff : Opens b ↔ ∃ kind size body, b = marker :: marker :: kind :: size :: body := by
  constructor
  · rintro ⟨hlen, h0, h1⟩
    match b with
    | [] | [_] | [_, _] | [_, _, _] => simp [headerSize] at hlen
    | first :: second :: kind :: size :: body =>
      simp only [List.getElem?_cons_zero, List.getElem?_cons_succ, Option.some.injEq] at h0 h1
      exact ⟨kind, size, body, by rw [h0, h1]⟩
  · rintro ⟨kind, size, body, rfl⟩
    exact ⟨by simp [headerSize], rfl, rfl⟩

/-- The report on bytes without a header. -/
def bare (b : Bytes) : Findings := { valid := false, length := b.length }

/-- The report on bytes that end before the trailer. -/
def headed (b : Bytes) (kind : Kind) (size : UInt8) : Findings :=
  { bare b with kind := kind, kindName := Kind.name kind, size := size }

/-- The report on bytes that reach as far as the trailer. -/
def summed (b : Bytes) (kind : Kind) (size : UInt8) (payload : Bytes) (received : UInt16) :
    Findings :=
  let expected := Checksum.sum kind size payload
  { headed b kind size with
    valid := received == expected
    expected := Hex.word expected
    received := Hex.word received
    record := if received = expected then decoded? kind payload else none }

lemma checksOut_of_not_opens (h : ¬ Opens b) : Frame.checksOut b = false := by
  rw [Bool.eq_false_iff]
  intro hv
  obtain ⟨_, _, payload, hi, lo, rest, hb, -⟩ := Frame.checksOut_iff.mp hv
  exact h (opens_iff.mpr ⟨_, _, _, hb⟩)

lemma look_of_not_opens (h : ¬ Opens b) : look b = some (bare b) := by
  match b with
  | [] | [_] | [_, _] | [_, _, _] => simp [look, Frame.verify, overhead, headerSize, bare]
  | first :: second :: kind :: size :: body =>
    have hout := checksOut_of_not_opens h
    rcases ne_or_eq first marker with h1 | rfl
    · simp +arith [look, Frame.verify_eq, hout, h1, headerSize, bare]
    rcases ne_or_eq second marker with h2 | rfl
    · simp +arith [look, Frame.verify_eq, hout, h2, headerSize, bare]
    exact absurd (opens_iff.mpr ⟨kind, size, body, rfl⟩) h

lemma look_of_short (hb : b = marker :: marker :: kind :: size :: body)
    (h : body.length < size.toNat + 2) : look b = some (headed b kind size) := by
  obtain ⟨h0, h1, h2, h3, hlen⟩ := Frame.header_places hb
  have hout : Frame.checksOut b = false := hb ▸ Frame.checksOut_of_short h
  have hopen : ¬ b.length < headerSize := by
    rw [hlen]
    omega
  have hmore : b.length < headerSize + size.toNat + trailerSize := by
    simp only [hlen, trailerSize]
    omega
  simp [look, Frame.verify_eq, hout, hopen, h0, h1, h2, h3, hmore, headed, bare]

lemma look_of_trailer
    (hb : b = marker :: marker :: kind :: size :: (payload ++ hi :: lo :: rest))
    (hp : payload.length = size.toNat) :
    look b = some (summed b kind size payload (Word.ofBytes hi lo)) := by
  obtain ⟨h0, h1, h2, h3, hlen⟩ := Frame.header_places hb
  obtain ⟨hhi, hlo, hsum⟩ := Frame.trailer_places kind hb hp
  have hall : ¬ b.length < headerSize ∧ ¬ b.length < headerSize + size.toNat + trailerSize := by
    simp only [hlen, headerSize, trailerSize, List.length_append, List.length_cons, hp]
    omega
  have hslice : Buffer.slice b headerSize (headerSize + size.toNat) = .ok payload := by
    have hin : headerSize + size.toNat ≤ b.length := by
      have := hall.2
      omega
    rw [Buffer.slice, if_pos ⟨Nat.le_add_right _ _, hin⟩, List.drop_take, hb]
    simp [headerSize, List.take_left' hp]
  have hout : Frame.checksOut b = (Word.ofBytes hi lo == Checksum.sum kind size payload) :=
    hb ▸ Frame.checksOut_of_trailer hp
  by_cases heq : Word.ofBytes hi lo = Checksum.sum kind size payload
  · rw [heq, beq_self_eq_true] at hout
    simp [look, Frame.verify_eq, hout, hall, h0, h1, h2, h3, hhi, hlo, hsum, heq, hslice,
      message?_eq, Except.toOption, summed, headed, bare]
  · rw [beq_eq_false_iff_ne.mpr heq] at hout
    simp [look, Frame.verify_eq, hout, hall, h0, h1, h2, h3, hhi, hlo, hsum, heq, summed, headed,
      bare]

/-- The three reports that there are. -/
lemma look_cases (b : Bytes) :
    (¬ Opens b ∧ look b = some (bare b)) ∨
    (∃ kind size body, b = marker :: marker :: kind :: size :: body ∧
      body.length < size.toNat + 2 ∧ look b = some (headed b kind size)) ∨
    ∃ kind size payload hi lo rest,
      b = marker :: marker :: kind :: size :: (payload ++ hi :: lo :: rest) ∧
        payload.length = size.toNat ∧
        look b = some (summed b kind size payload (Word.ofBytes hi lo)) := by
  by_cases h : Opens b
  · obtain ⟨kind, size, body, hb⟩ := opens_iff.mp h
    rcases Frame.short_or_trailer size.toNat body with hshort | ⟨payload, hi, lo, rest, rfl, hp⟩
    · exact Or.inr (Or.inl ⟨kind, size, body, hb, hshort, look_of_short hb hshort⟩)
    · exact Or.inr (Or.inr ⟨kind, size, payload, hi, lo, rest, hb, hp, look_of_trailer hb hp⟩)
  · exact Or.inl ⟨h, look_of_not_opens h⟩

/-! ### The report that is shown -/

lemma open?_eq_none (h : ¬ Opens b) : Inspection.open? b = none := by
  match b with
  | [] | [_] | [_, _] | [_, _, _] => rfl
  | first :: second :: kind :: size :: body =>
    refine if_neg ?_
    rintro ⟨rfl, rfl⟩
    exact h (opens_iff.mpr ⟨kind, size, body, rfl⟩)

lemma open?_of_header (hb : b = marker :: marker :: kind :: size :: body) :
    Inspection.open? b = some (kind, size, body) := hb ▸ rfl

/-- **The report filled in place is the one that is shown.** -/
lemma look_eq (b : Bytes) : look b = some (Inspection.ofBytes b).findings := by
  rcases look_cases b with ⟨h, hr⟩ | ⟨kind, size, body, hb, hshort, hr⟩ |
    ⟨kind, size, payload, hi, lo, rest, hb, hp, hr⟩
  · simp [hr, bare, Inspection.ofBytes, Inspection.findings, checksOut_of_not_opens h,
      Inspection.checksums?, Inspection.header?, open?_eq_none h]
  · have hout : Frame.checksOut b = false := hb ▸ Frame.checksOut_of_short hshort
    have hsums : Inspection.checksums? b = none := by
      simp only [Inspection.checksums?, open?_of_header hb]
      split
      · next hdrop => exact absurd hdrop (Frame.drop_of_short hshort)
      · rfl
    simp [hr, headed, bare, Inspection.ofBytes, Inspection.findings, hout, hsums,
      Inspection.header?, open?_of_header hb]
  · have hout : Frame.checksOut b = (Word.ofBytes hi lo == Checksum.sum kind size payload) :=
      hb ▸ Frame.checksOut_of_trailer hp
    simp [hr, summed, headed, bare, decoded?, Inspection.ofBytes, Inspection.findings, hout,
      Inspection.checksums?, Inspection.header?, Inspection.record?, open?_of_header hb,
      List.take_left' hp, List.drop_left' hp]

variable {r : Findings}

lemma check_of_look {dump : String} (format : Format) (hr : look b = some r)
    (hb : HexDump.ofText dump = .ok b) :
    check format dump = .ok (if r.valid then 0 else 60, r.report.render format) := by
  rw [look_eq, Option.some.injEq] at hr
  subst hr
  rw [check, hb, Inspection.report_findings]
  rfl

lemma verify_of_look (hr : look b = some r) : Frame.verify b = some r.valid := by
  rw [look_eq, Option.some.injEq] at hr
  rw [Frame.verify_eq, ← hr]
  rfl

/-! ### The report and the bytes -/

lemma not_reaches_of_short (hb : b = marker :: marker :: kind :: size :: body)
    (h : body.length < size.toNat + 2) : ¬ Reaches b := by
  rintro ⟨-, size', hsize, hlen⟩
  obtain ⟨-, -, -, h3, hbody⟩ := Frame.header_places hb
  obtain rfl : size = size' := Option.some.inj (h3.symm.trans hsize)
  simp only [hbody, headerSize, trailerSize] at hlen
  omega

lemma reaches_of_trailer
    (hb : b = marker :: marker :: kind :: size :: (payload ++ hi :: lo :: rest))
    (hp : payload.length = size.toNat) : Reaches b := by
  obtain ⟨-, -, -, h3, hbody⟩ := Frame.header_places hb
  refine ⟨opens_iff.mpr ⟨_, _, _, hb⟩, size, h3, ?_⟩
  simp only [hbody, headerSize, trailerSize, List.length_append, List.length_cons, hp]
  omega

/-- What is decoded from a payload whose checksum stands behind it makes the bytes again. -/
lemma wire_of_decoded? {m : Message}
    (hb : b = marker :: marker :: kind :: size :: (payload ++ hi :: lo :: rest))
    (hp : payload.length = size.toNat) (hsum : Word.ofBytes hi lo = Checksum.sum kind size payload)
    (hm : decoded? kind payload = some m) :
    ∃ f, m.toFrame = .ok f ∧ f.wire = b.take (6 + size.toNat) := by
  obtain ⟨f, hf, hread⟩ := decoded?_eq_some.mp hm
  obtain ⟨hkind, hpayload, hvalid⟩ := Frame.make_eq_ok_iff.mp hf
  obtain ⟨hk, hb'⟩ := Message.ofFrame_eq_ok_iff.mp ((Message.read_ok_iff f m).mp hread)
  have hsize : f.size = size := UInt8.toNat_inj.mp (by rw [f.toNat_size, hpayload, hp])
  have hstored : f.checksum = Word.ofBytes hi lo := by
    rw [hvalid, Frame.expected, hkind, hpayload, hsize, hsum]
  refine ⟨f, Message.toFrame_eq_ok_iff.mpr ⟨hk.symm, hb'.symm, hvalid⟩, ?_⟩
  have hwire : b = f.wire ++ rest := by
    rw [hb, Frame.wire, hkind, hsize, hpayload, hstored, Word.bytes_ofBytes]
    simp
  rw [hwire, List.take_left']
  rw [Frame.length_wire, Frame.wireSize, overhead, hpayload, hp]

/-- The kind and the size stand in a report exactly if there is a header, and are those in it. -/
lemma header_of_look (hr : look b = some r) :
    (r.kind.isSome ↔ Opens b) ∧ (r.kindName.isSome ↔ Opens b) ∧ (r.size.isSome ↔ Opens b) ∧
      (Opens b → r.kind = b[2]? ∧ r.kindName = b[2]?.map Kind.name ∧ r.size = b[3]?) := by
  rcases look_cases b with ⟨h, hr'⟩ | ⟨kind, size, body, hb, -, hr'⟩ |
    ⟨kind, size, payload, hi, lo, rest, hb, -, hr'⟩
  · obtain rfl : bare b = r := Option.some.inj (hr'.symm.trans hr)
    simp [bare, h]
  · obtain rfl : headed b kind size = r := Option.some.inj (hr'.symm.trans hr)
    have h : Opens b := opens_iff.mpr ⟨_, _, _, hb⟩
    obtain ⟨-, -, h2, h3, -⟩ := Frame.header_places hb
    simp [headed, h, h2, h3]
  · obtain rfl := Option.some.inj (hr'.symm.trans hr)
    have h : Opens b := opens_iff.mpr ⟨_, _, _, hb⟩
    obtain ⟨-, -, h2, h3, -⟩ := Frame.header_places hb
    simp [summed, headed, h, h2, h3]

/-- The sums stand in a report exactly if there is a trailer, and they are the same exactly if it is
right. -/
lemma sums_of_look (hr : look b = some r) :
    (r.expected.isSome ↔ Reaches b) ∧ (r.received.isSome ↔ Reaches b) ∧
      (r.valid = true ↔ ∃ sum, r.expected = some sum ∧ r.received = some sum) := by
  rcases look_cases b with ⟨h, hr'⟩ | ⟨kind, size, body, hb, hshort, hr'⟩ |
    ⟨kind, size, payload, hi, lo, rest, hb, hp, hr'⟩
  · obtain rfl : bare b = r := Option.some.inj (hr'.symm.trans hr)
    have hno : ¬ Reaches b := fun hb => h hb.1
    simp [bare, hno]
  · obtain rfl : headed b kind size = r := Option.some.inj (hr'.symm.trans hr)
    simp [headed, bare, not_reaches_of_short hb hshort]
  · obtain rfl := Option.some.inj (hr'.symm.trans hr)
    simp [summed, reaches_of_trailer hb hp, Hex.word_inj]

/-- The record of a report is the message of the frame that valid bytes begin with, and makes that
frame again. -/
lemma record_of_look (hr : look b = some r) (m : Message) :
    (r.record = some m ↔ r.valid = true ∧ ∃ kind size f, b[2]? = some kind ∧ b[3]? = some size ∧
      size.toNat ≤ 127 ∧ Frame.make kind ((b.drop 4).take size.toNat) = .ok f ∧
        Message.read f = .ok m) ∧
    (r.record = some m → ∃ size f, b[3]? = some size ∧ m.toFrame = .ok f ∧
      f.wire = b.take (6 + size.toNat)) := by
  rcases look_cases b with ⟨-, hr'⟩ | ⟨kind, size, body, -, -, hr'⟩ |
    ⟨kind, size, payload, hi, lo, rest, hb, hp, hr'⟩
  · obtain rfl : bare b = r := Option.some.inj (hr'.symm.trans hr)
    simp [bare]
  · obtain rfl : headed b kind size = r := Option.some.inj (hr'.symm.trans hr)
    simp [headed, bare]
  · obtain rfl := Option.some.inj (hr'.symm.trans hr)
    obtain ⟨-, -, h2, h3, -⟩ := Frame.header_places hb
    have hpayload : (b.drop 4).take size.toNat = payload := by
      rw [hb]
      exact List.take_left' hp
    by_cases hsum : Word.ofBytes hi lo = Checksum.sum kind size payload
    · have hle (f : Frame) (hf : Frame.make kind payload = .ok f) : size.toNat ≤ 127 := by
        rw [← hp, ← (Frame.make_eq_ok_iff.mp hf).2.1]
        exact f.length_le
      simp only [summed, hsum, if_pos, beq_self_eq_true, true_and, h2, h3, Option.some.injEq,
        exists_and_left, exists_eq_left', hpayload]
      refine ⟨?_, wire_of_decoded? hb hp hsum⟩
      rw [decoded?_eq_some]
      exact ⟨fun ⟨f, hf, hm⟩ => ⟨hle f hf, f, hf, hm⟩, fun ⟨_, f, hf, hm⟩ => ⟨f, hf, hm⟩⟩
    · simp [summed, hsum]

/-- **The report on bytes says what they are.** There is a report on every byte string, and it is
the one that is shown. Kind, name and size are in it exactly if there are four bytes or more and two
markers come first, and the sums exactly if the trailer that the size announces lies inside as well.
It calls the bytes valid exactly if both sums are there and are the same, which is what the check of
the bytes finds, and the exit code says the same. It has a record exactly if the bytes are valid, the
size is one that a frame can have, and kind and payload are those of a message; that is the record
then, and written again it gives the bytes as far as the end of the frame. -/
theorem report_agrees_with_bytes (b : Bytes) : ∃ r, look b = some r ∧ r.length = b.length ∧
    ((r.kind.isSome ↔ Opens b) ∧ (r.kindName.isSome ↔ Opens b) ∧ (r.size.isSome ↔ Opens b) ∧
      (Opens b → r.kind = b[2]? ∧ r.kindName = b[2]?.map Kind.name ∧ r.size = b[3]?)) ∧
    ((r.expected.isSome ↔ Reaches b) ∧ (r.received.isSome ↔ Reaches b) ∧
      (r.valid = true ↔ ∃ sum, r.expected = some sum ∧ r.received = some sum)) ∧
    Frame.verify b = some r.valid ∧
    (∀ format dump, HexDump.ofText dump = .ok b →
      check format dump = .ok (if r.valid then 0 else 60, r.report.render format)) ∧
    ∀ m,
      (r.record = some m ↔ r.valid = true ∧ ∃ kind size f, b[2]? = some kind ∧ b[3]? = some size ∧
        size.toNat ≤ 127 ∧ Frame.make kind ((b.drop 4).take size.toNat) = .ok f ∧
          Message.read f = .ok m) ∧
      (r.record = some m → ∃ size f, b[3]? = some size ∧ m.toFrame = .ok f ∧
        f.wire = b.take (6 + size.toNat)) := by
  have hr := look_eq b
  exact ⟨_, hr, rfl, header_of_look hr, sums_of_look hr, verify_of_look hr,
    fun format _ hdump => check_of_look format hr hdump, record_of_look hr⟩

/-- A request to shut down is read from in front of a byte that is not part of it. -/
theorem report_agrees_with_bytes_shut_down :
    let b : Bytes := [0xFF, 0xFF, 0x12, 0x00, 0x00, 0x12, 0xAA]
    Opens b ∧ HexDump.ofText "ffff12000012 aa" = .ok b ∧ ∃ r, look b = some r ∧
      r.kindName = some "SHUT_DOWN" ∧
      check .json "ffff12000012 aa" = .ok (0, r.report.render .json) ∧
      r.record = some .shutDown ∧ ∃ f, Message.shutDown.toFrame = .ok f ∧ f.wire = b.take 6 := by
  intro b
  have hb : Opens b := by decide
  have hdump : HexDump.ofText "ffff12000012 aa" = .ok b := by decide +kernel
  have hlook : look b = some (summed b 0x12 0 [] 0x12) := rfl
  obtain ⟨r, hr, -, ⟨-, -, -, hheader⟩, -, -, hcheck, hrecord⟩ := report_agrees_with_bytes b
  obtain rfl := Option.some.inj (hlook.symm.trans hr)
  obtain ⟨size, f, hsize, hf, hwire⟩ := (hrecord .shutDown).2 rfl
  obtain rfl : 0 = size := Option.some.inj hsize
  exact ⟨hb, hdump, _, hlook, (hheader hb).2.1, hcheck .json _ hdump, rfl, f, hf, hwire⟩

end Findings

end Console

end FrameLink
