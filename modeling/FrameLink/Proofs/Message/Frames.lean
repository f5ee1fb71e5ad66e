import FrameLink.Proofs.Record.Frames
import FrameLink.Message.Basic

/-!
Messages and the frames that carry them.

A frame is read as a message exactly when it has the kind and the payload of that message, so the kind
table of messages and the one of reading are inverse to each other. From that alone follow the
round trips in both directions, and that no two messages look alike on the wire.
-/

namespace FrameLink.Message

variable {f g : Frame} {m n : Message} {e : MessageError}

/-! ### Reading a frame -/

/-- Whatever is read has the kind and the payload of the frame. -/
def ReadsFrom (f : Frame) (result : Except MessageError Message) : Prop :=
  ∀ m, result = .ok m → m.kind = f.kind ∧ m.payload = f.payload

section Arms

variable {k : Kind} {rest : Except MessageError Message}

lemma readsFrom_record {α : Type} [Record α] {make : α → Message} (hk : ∀ a, (make a).kind = f.kind)
    (hp : ∀ a, (make a).payload = Record.bytes a) : ReadsFrom f (make <$> Record.ofFrame f) := by
  intro m h
  cases ha : Record.ofFrame (α := α) f with
  | error e => simp [ha, Functor.map, Except.map] at h
  | ok a =>
    simp only [ha, Functor.map, Except.map, Except.ok.injEq] at h
    subst h
    exact ⟨hk a, (hp a).trans (Record.ofFrame_eq_ok_iff.mp ha)⟩

lemma readsFrom_bare (hk : n.kind = f.kind) (hp : n.payload = []) : ReadsFrom f (bare f n) := by
  intro m h
  unfold bare at h
  split at h
  · next hf =>
    rw [Except.ok.injEq] at h
    subst h
    exact ⟨hk, hp.trans hf.symm⟩
  · simp at h

/-- The arm of a kind that carries a record. -/
lemma ReadsFrom.orRecord {α : Type} [Record α] (hrest : ReadsFrom f rest) (make : α → Message)
    (hk : ∀ a, (make a).kind = k) (hp : ∀ a, (make a).payload = Record.bytes a) :
    ReadsFrom f (if f.kind = k then make <$> Record.ofFrame f else rest) := by
  split
  · next hf => exact readsFrom_record (fun a => (hk a).trans hf.symm) hp
  · exact hrest

/-- The arm of a request without a payload. -/
lemma ReadsFrom.orBare (hrest : ReadsFrom f rest) (hk : n.kind = k) (hp : n.payload = []) :
    ReadsFrom f (if f.kind = k then bare f n else rest) := by
  split
  · next hf => exact readsFrom_bare (hk.trans hf.symm) hp
  · exact hrest

/-- The arm of the byte stream, which carries whatever it is given. -/
lemma ReadsFrom.orStream (hrest : ReadsFrom f rest) :
    ReadsFrom f (if f.kind = Kind.byteStream then .ok (.byteStream f.payload) else rest) := by
  split
  · next hf =>
    rintro m ⟨⟩
    exact ⟨hf.symm, rfl⟩
  · exact hrest

/-- The arm of the gains, whose kinds are those of the axes. -/
lemma readsFrom_gains : ReadsFrom f (match GainAxis.ofKind? f.kind with
    | some axis => .gains axis <$> Record.ofFrame f
    | none => .error (.unknownKind f.kind)) := by
  split
  · next axis h =>
    have hk : axis.kind = f.kind := by simpa using List.find?_some h
    exact readsFrom_record (fun _ => hk) fun _ => rfl
  · rintro m ⟨⟩

end Arms

lemma kind_payload_of_ofFrame (h : ofFrame f = .ok m) : m.kind = f.kind ∧ m.payload = f.payload := by
  have hreads : ReadsFrom f (ofFrame f) :=
    readsFrom_gains
    |>.orBare (n := .enableSensors) rfl rfl |>.orBare (n := .shutDown) rfl rfl
    |>.orBare (n := .clearTrim) rfl rfl |>.orBare (n := .storeTrim) rfl rfl
    |>.orRecord .switchMode (fun _ => rfl) (fun _ => rfl)
    |>.orRecord .switchState (fun _ => rfl) (fun _ => rfl)
    |>.orStream
    |>.orRecord .revving (fun _ => rfl) (fun _ => rfl)
    |>.orRecord .command (fun _ => rfl) (fun _ => rfl)
    |>.orRecord .trace (fun _ => rfl) (fun _ => rfl)
    |>.orRecord .groundReport (fun _ => rfl) (fun _ => rfl)
    |>.orRecord .modeState (fun _ => rfl) (fun _ => rfl)
    |>.orRecord .motorOffsets (fun _ => rfl) (fun _ => rfl)
    |>.orRecord .motorSignals (fun _ => rfl) (fun _ => rfl)
    |>.orRecord .sensor (fun _ => rfl) (fun _ => rfl)
  exact hreads m h

lemma map_ofFrame_of_bytes {α : Type} [Record α] {make : α → Message} {a : α}
    (h : Record.bytes a = f.payload) : make <$> Record.ofFrame f = .ok (make a) := by
  rw [Record.ofFrame_eq_ok_iff.mpr h]
  rfl

lemma ofFrame_of_kind_payload (hk : m.kind = f.kind) (hp : m.payload = f.payload) :
    ofFrame f = .ok m := by
  have hbare : f.payload = [] → ∀ n, bare f n = .ok n := fun h n => by simp [bare, h]
  obtain ⟨kind, payload, checksum, hle⟩ := f
  simp only at hk hp
  subst hk hp
  cases m with
  | gains axis r =>
    cases axis <;> exact map_ofFrame_of_bytes rfl
  | byteStream b => rfl
  | storeTrim | clearTrim | shutDown | enableSensors => exact hbare rfl _
  | sensor r | motorSignals r | motorOffsets r | modeState r | groundReport r | trace r | command r
  | revving r | switchState r | switchMode r => exact map_ofFrame_of_bytes rfl

/-- **A frame is read as a message exactly when it has the kind and the payload of the message.** -/
lemma ofFrame_eq_ok_iff : ofFrame f = .ok m ↔ m.kind = f.kind ∧ m.payload = f.payload :=
  ⟨kind_payload_of_ofFrame, fun ⟨hk, hp⟩ => ofFrame_of_kind_payload hk hp⟩

/-! ### Making a frame -/

/-- Only a byte stream can be too long for a frame. -/
lemma stream_of_too_long (h : maxPayload < m.payload.length) : ∃ b, m = .byteStream b := by
  have hfits {α : Type} [Record α] (a : α) (h : maxPayload < (Record.bytes a).length) : False :=
    Nat.not_lt_of_ge (Record.length_bytes_le a) h
  cases m with
  | byteStream b => exact ⟨b, rfl⟩
  | storeTrim | clearTrim | shutDown | enableSensors => simp [payload] at h
  | gains axis r => exact (hfits r h).elim
  | sensor r | motorSignals r | motorOffsets r | modeState r | groundReport r | trace r | command r
  | revving r | switchState r | switchMode r => exact (hfits r h).elim

lemma toFrame_eq_ok_iff :
    m.toFrame = .ok f ↔ f.kind = m.kind ∧ f.payload = m.payload ∧ f.IsValid := by
  rw [← Frame.make_eq_ok_iff, toFrame]
  cases Frame.make m.kind m.payload with
  | error x =>
    change Except.error (MessageError.frame x) = .ok f ↔ _
    simp
  | ok g =>
    change Except.ok g = .ok f ↔ _
    simp

lemma toFrame_eq_error_iff :
    m.toFrame = .error e ↔
      ∃ b, m = .byteStream b ∧ 127 < b.length ∧ e = .frame (.payloadTooLarge b.length 127) := by
  have hmake : m.toFrame = .error e ↔ ∃ x, Frame.make m.kind m.payload = .error x ∧ .frame x = e := by
    rw [toFrame]
    cases Frame.make m.kind m.payload with
    | error x =>
      change Except.error (MessageError.frame x) = .error e ↔ _
      simp
    | ok g =>
      change Except.ok g = .error e ↔ _
      simp
  simp only [hmake, Frame.make_eq_error_iff]
  constructor
  · rintro ⟨x, ⟨hlt, rfl⟩, rfl⟩
    obtain ⟨b, rfl⟩ := stream_of_too_long hlt
    exact ⟨b, rfl, hlt, rfl⟩
  · rintro ⟨b, rfl, hlt, rfl⟩
    exact ⟨_, ⟨hlt, rfl⟩, rfl⟩

/-- **Messages and frames are inverse to each other.** Every message makes a frame, unless it is a
byte stream longer than a frame can hold; the frame has the kind of the message and the right checksum,
and is read as that message. A message read from a frame, whatever checksum is stored in it, has the
kind of the frame and makes the frame of that kind and payload. So what is read tells kind and payload,
and two messages never have the same bytes on the wire. -/
theorem toFrame_ofFrame_inverse :
    (∀ (m : Message) (e : MessageError), m.toFrame = .error e ↔
      ∃ b, m = .byteStream b ∧ 127 < b.length ∧ e = .frame (.payloadTooLarge b.length 127)) ∧
    (∀ (m : Message) (f : Frame), m.toFrame = .ok f →
      f.kind = m.kind ∧ f.IsValid ∧ ofFrame f = .ok m) ∧
    (∀ (f : Frame) (m : Message), ofFrame f = .ok m →
      m.kind = f.kind ∧ ∃ g, Frame.make f.kind f.payload = .ok g ∧ m.toFrame = .ok g) ∧
    (∀ (f g : Frame) (m : Message), ofFrame f = .ok m → ofFrame g = .ok m →
      f.kind = g.kind ∧ f.payload = g.payload) ∧
    (∀ (m n : Message) (f g : Frame), m.toFrame = .ok f → n.toFrame = .ok g → f.wire = g.wire →
      m = n) := by
  have hround (m : Message) (f : Frame) (h : m.toFrame = .ok f) : ofFrame f = .ok m := by
    obtain ⟨hk, hp, -⟩ := toFrame_eq_ok_iff.mp h
    exact ofFrame_eq_ok_iff.mpr ⟨hk.symm, hp.symm⟩
  refine ⟨fun m e => toFrame_eq_error_iff, fun m f h => ?_, fun f m h => ?_, fun f g m hf hg => ?_,
    fun m n f g hm hn hw => ?_⟩
  · obtain ⟨hk, -, hv⟩ := toFrame_eq_ok_iff.mp h
    exact ⟨hk, hv, hround m f h⟩
  · obtain ⟨hk, hp⟩ := ofFrame_eq_ok_iff.mp h
    have hmake : Frame.make f.kind f.payload = _ := Frame.make_of_le f.length_le
    refine ⟨hk, _, hmake, ?_⟩
    rw [toFrame, hk, hp, hmake]
    rfl
  · obtain ⟨hkf, hpf⟩ := ofFrame_eq_ok_iff.mp hf
    obtain ⟨hkg, hpg⟩ := ofFrame_eq_ok_iff.mp hg
    exact ⟨hkf.symm.trans hkg, hpf.symm.trans hpg⟩
  · have hfg : f = g := (Frame.wire_append_inj (r := []) (s := []) (by rw [hw])).1
    have hm' := hround m f hm
    rw [hfg, hround n g hn, Except.ok.injEq] at hm'
    exact hm'.symm

/-- The gains of one axis and those of another have the same payload, and are told apart. -/
theorem toFrame_ofFrame_inverse_of_gains :
    let m : Message := .gains .yaw ⟨1, -2, 3, -4⟩
    let f : Frame := ⟨0x09, [0, 1, 0xFF, 0xFE, 0, 3, 0xFF, 0xFC], 0, by decide⟩
    ofFrame f = .ok m ∧ ¬ f.IsValid ∧ m.toFrame = .ok f.sealed ∧ ofFrame f.sealed = .ok m ∧
      m.kind = f.kind := by
  intro m f
  have hread : ofFrame f = .ok m := ofFrame_of_kind_payload rfl (by decide)
  obtain ⟨-, hwrite, hback, -⟩ := toFrame_ofFrame_inverse
  obtain ⟨hk, g, hg, hm⟩ := hback f m hread
  have hfg : f.sealed = g := Except.ok.inj ((Frame.make_of_le f.length_le).symm.trans hg)
  rw [← hfg] at hm
  exact ⟨hread, by decide, hm, (hwrite m f.sealed hm).2.2, hk⟩

end FrameLink.Message
