import FrameLink.Record.Sort

/-!
Records written and read in place.

A record is written field by field over a part of a buffer, and read field by field over the record
that was there before. Such work can end early with some of it done, so it leaves a buffer, or a
record, however it ends. A record type says how its fields are put over bytes and got from them, and
that on as many bytes as the record takes both do the whole of it.
-/

namespace FrameLink

/-- Why work in place ended early. -/
inductive Stop where
  | failed (e : MessageError)
  | panicked
  deriving DecidableEq, Repr

/-- Work on a state in place: how it ended, and the state that it left. -/
abbrev Edit (σ : Type) := σ → Except Stop Unit × σ

namespace Edit

variable {σ τ : Type}

/-- One edit and then another, which is not begun if the first ended early. -/
def andThen (e e' : Edit σ) : Edit σ := fun s =>
  match e s with
  | (.ok (), s') => e' s'
  | (.error stop, s') => (.error stop, s')

/-- An edit of a part of the state. -/
def onPart (get : σ → τ) (set : τ → σ → σ) (e : Edit τ) : Edit σ := fun s =>
  ((e (get s)).1, set (e (get s)).2 s)

theorem andThen_of_ok {e e' : Edit σ} {s s' : σ} (h : e s = (.ok (), s')) :
    e.andThen e' s = e' s' := by
  simp only [andThen, h]

end Edit

namespace Buffer

/-- Places and lengths in memory lie below this. -/
def addresses : Nat := UInt64.size

/-- Where the bytes of a window end; nothing if that is no place. -/
def end? (offset need : Nat) : Option Nat :=
  if offset + need < addresses then some (offset + need) else none

/-- The bytes from one place to another. -/
def slice (b : Bytes) (start stop : Nat) : Except Stop Bytes :=
  if start ≤ stop ∧ stop ≤ b.length then .ok ((b.take stop).drop start) else .error .panicked

/-- The window of `need` bytes at an offset, if the buffer holds them. -/
def window (b : Bytes) (offset need : Nat) : Except Stop Bytes :=
  match end? offset need with
  | some stop =>
    if stop ≤ b.length then slice b offset stop
    else .error (.failed (.bufferTooShort need offset b.length))
  | none => .error (.failed (.bufferTooShort need offset b.length))

/-- Works on a window of the buffer; what stands around it stays. -/
def onWindow (offset need : Nat) (e : Edit Bytes) : Edit Bytes := fun b =>
  match window b offset need with
  | .ok w => ((e w).1, b.take offset ++ (e w).2 ++ b.drop (offset + need))
  | .error stop => (.error stop, b)

/-- Writes words at the front of a buffer, one after the other. -/
def putWords : List Int16 → Edit Bytes
  | [], b => (.ok (), b)
  | v :: vs, _ :: _ :: rest => ((putWords vs rest).1, Word.signedBytes v ++ (putWords vs rest).2)
  | _ :: _, b => (.error .panicked, b)

/-- Overwrites words, one after the other, by those at the front of a buffer. -/
def getWords : Bytes → Edit (List Int16)
  | _, [] => (.ok (), [])
  | hi :: lo :: rest, _ :: vs =>
    ((getWords rest vs).1, Word.ofSignedBytes hi lo :: (getWords rest vs).2)
  | _, vs => (.error .panicked, vs)

def putByte (i : Nat) (v : UInt8) : Edit Bytes := fun b =>
  if i < b.length then (.ok (), b.set i v) else (.error .panicked, b)

def getByte {σ : Type} (b : Bytes) (i : Nat) (set : UInt8 → σ → σ) : Edit σ := fun s =>
  match b[i]? with
  | some v => (.ok (), set v s)
  | none => (.error .panicked, s)

theorem window_of_room {b : Bytes} {offset need : Nat} (hb : b.length < addresses)
    (h : offset + need ≤ b.length) : window b offset need = .ok ((b.drop offset).take need) := by
  have hend : end? offset need = some (offset + need) := if_pos (by omega)
  have hin : offset ≤ offset + need ∧ offset + need ≤ b.length := ⟨Nat.le_add_right _ _, h⟩
  simp only [window, hend, if_pos h, slice, if_pos hin, List.drop_take, Nat.add_sub_cancel_left]

theorem window_of_no_room {b : Bytes} {offset need : Nat} (h : b.length < offset + need) :
    window b offset need = .error (.failed (.bufferTooShort need offset b.length)) := by
  unfold window end?
  split
  · rename_i stop hstop
    split at hstop
    · cases hstop
      rw [if_neg (Nat.not_le_of_gt h)]
    · cases hstop
  · rfl

theorem putWords_of_length (vs : List Int16) (b : Bytes) (h : b.length = 2 * vs.length) :
    putWords vs b = (.ok (), Word.signedRun vs) := by
  induction vs generalizing b with
  | nil =>
    have : b = [] := List.length_eq_zero_iff.mp (by simpa using h)
    subst this
    rfl
  | cons v vs ih =>
    match b, h with
    | _ :: _ :: rest, h =>
      have hrest : rest.length = 2 * vs.length := by
        simp only [List.length_cons] at h
        omega
      simp only [putWords, ih rest hrest, Word.signedRun, List.flatMap_cons]

theorem getWords_signedRun (vs old : List Int16) (h : old.length = vs.length) :
    getWords (Word.signedRun vs) old = (.ok (), vs) := by
  induction vs generalizing old with
  | nil =>
    have : old = [] := List.length_eq_zero_iff.mp h
    subst this
    rfl
  | cons v vs ih =>
    match old, h with
    | _ :: old, h =>
      have hold : old.length = vs.length := by simpa using h
      have hb : Word.signedRun (v :: vs) = UInt8.ofNat (v.toUInt16.toNat / 256) ::
          UInt8.ofNat (v.toUInt16.toNat % 256) :: Word.signedRun vs := rfl
      simp only [hb, getWords, ih old hold, Word.ofSignedBytes_signedBytes]

end Buffer

open Buffer Edit

/-- A record type with a way to put its fields over bytes, and to get them from bytes over a record
that is there. -/
class InPlace (α : Type) [Record α] where
  put : α → Edit Bytes
  get : Bytes → Edit α
  put_of_length (a : α) (w : Bytes) :
    w.length = Record.size α → put a w = (.ok (), Record.bytes a)
  get_bytes (a old : α) : get (Record.bytes a) old = (.ok (), a)

namespace InPlace

variable {α : Type} [Record α] [InPlace α]

/-- Writes a record over the bytes of a buffer at an offset. -/
def encode (a : α) (offset : Nat) : Edit Bytes := onWindow offset (Record.size α) (put a)

/-- Overwrites a record by the one that a buffer holds at an offset. -/
def decode (b : Bytes) (offset : Nat) : Edit α := fun old =>
  match window b offset (Record.size α) with
  | .ok w => get w old
  | .error stop => (.error stop, old)

/-- A frame with the record as its payload. -/
def toFrame (kind : Kind) (a : α) : Except Stop Frame :=
  match encode a 0 (List.replicate (Record.size α) 0) with
  | (.ok (), payload) => (Frame.make kind payload).mapError fun e => .failed (.frame e)
  | (.error stop, _) => .error stop

/-- Overwrites a record by the one that a frame carries, its payload being exactly that long. -/
def readFrame (f : Frame) : Edit α := fun old =>
  if Record.size α < f.payload.length then
    (.error (.failed (.sizeMismatch f.kind (Record.size α) f.payload.length)), old)
  else decode f.payload 0 old

/-- A record is written over as many bytes as it takes, between the bytes around them. -/
theorem encode_between (a : α) (offset : Nat) (front w back : Bytes) (ho : front.length = offset)
    (hw : w.length = Record.size α) (hb : (front ++ (w ++ back)).length < addresses) :
    encode a offset (front ++ (w ++ back)) = (.ok (), front ++ (Record.bytes a ++ back)) := by
  subst ho
  have hroom : front.length + Record.size α ≤ (front ++ (w ++ back)).length := by
    simp only [List.length_append]
    omega
  have hwin : window (front ++ (w ++ back)) front.length (Record.size α) = .ok w := by
    rw [window_of_room hb hroom, List.drop_left, List.take_left' hw]
  have hback : (front ++ (w ++ back)).drop (front.length + Record.size α) = back := by
    rw [← List.append_assoc]
    exact List.drop_left' (by simp [hw])
  simp only [encode, onWindow, hwin, put_of_length a w hw, hback, List.take_left,
    List.append_assoc]

/-- The bytes of a record are read wherever they stand, whatever the record was before. -/
theorem decode_between (a old : α) (offset : Nat) (front back : Bytes)
    (ho : front.length = offset)
    (hb : (front ++ (Record.bytes a ++ back)).length < addresses) :
    decode (front ++ (Record.bytes a ++ back)) offset old = (.ok (), a) := by
  subst ho
  have hroom : front.length + Record.size α ≤ (front ++ (Record.bytes a ++ back)).length := by
    simp only [List.length_append, Record.length_bytes]
    omega
  have hwin : window (front ++ (Record.bytes a ++ back)) front.length (Record.size α)
      = .ok (Record.bytes a) := by
    rw [window_of_room hb hroom, List.drop_left, List.take_left' (Record.length_bytes a)]
  simp only [decode, hwin, get_bytes a old]

end InPlace

open InPlace

instance {α : Type} [WordRecord α] : InPlace α where
  put a := putWords (WordRecord.words a)
  get w old :=
    let (r, ws) := getWords w (WordRecord.words old)
    (r, (WordRecord.ofWords? ws).getD old)
  put_of_length a w h := by
    have hw : w.length = 2 * (WordRecord.words a).length := by
      rw [WordRecord.length_words]
      exact h
    exact putWords_of_length _ w hw
  get_bytes a old := by
    have hold : (WordRecord.words old).length = (WordRecord.words a).length := by
      rw [WordRecord.length_words, WordRecord.length_words]
    have hget : getWords (Record.bytes a) (WordRecord.words old) = (.ok (), WordRecord.words a) :=
      getWords_signedRun _ _ hold
    simp only [hget, WordRecord.ofWords?_words, Option.getD_some]

instance : InPlace Trace where
  put t := putWords t.slots
  get w old :=
    let (r, ws) := getWords w old.slots
    (r, (Trace.ofSlots? ws).getD old)
  put_of_length t w h := putWords_of_length _ w (by rw [t.length_slots]; exact h)
  get_bytes t old := by
    have hold : old.slots.length = t.slots.length := by rw [old.length_slots, t.length_slots]
    have hget : getWords (Record.bytes t) old.slots = (.ok (), t.slots) :=
      getWords_signedRun _ _ hold
    simp only [hget, Trace.ofSlots?, dif_pos t.length_slots, Option.getD_some]

instance : InPlace ModeState where
  put m := (putByte 0 m.mode).andThen (putByte 1 m.state)
  get w := (getByte w 0 fun v m => { m with mode := v }).andThen
    (getByte w 1 fun v m => { m with state := v })
  put_of_length m w h := by
    match w, h with
    | [_, _], _ => rfl
  get_bytes _ _ := rfl

instance : InPlace Switch where
  put s := putByte 0 s.target
  get w := getByte w 0 fun v s => { s with target := v }
  put_of_length s w h := by
    match w, h with
    | [_], _ => rfl
  get_bytes _ _ := rfl

namespace GroundReport

/-- Writes the four records at their places behind an offset, one after the other. -/
def putAt (r : GroundReport) (offset : Nat) : Edit Bytes :=
  (encode r.sensor offset).andThen <| (encode r.motorSignal (offset + motorSignalAt)).andThen <|
    (encode r.motorOffset (offset + motorOffsetAt)).andThen
    (encode r.modeState (offset + modeStateAt))

/-- Overwrites the four records, one after the other, by those at their places. -/
def get (w : Bytes) : Edit GroundReport :=
  (onPart sensor (fun x r => { r with sensor := x }) (decode w 0)).andThen <|
    (onPart motorSignal (fun x r => { r with motorSignal := x })
      (decode w motorSignalAt)).andThen <|
    (onPart motorOffset (fun x r => { r with motorOffset := x })
      (decode w motorOffsetAt)).andThen
    (onPart modeState (fun x r => { r with modeState := x }) (decode w modeStateAt))

theorem length_parts (r : GroundReport) :
    (Record.bytes r.sensor).length = 42 ∧ (Record.bytes r.motorSignal).length = 10 ∧
      (Record.bytes r.motorOffset).length = 8 ∧ (Record.bytes r.modeState).length = 2 :=
  ⟨Record.length_bytes _, Record.length_bytes _, Record.length_bytes _, Record.length_bytes _⟩

/-- Bytes for a whole report, cut where its parts begin. -/
theorem exists_parts {w : Bytes} (h : w.length = total) : ∃ u v x y : Bytes,
    w = u ++ (v ++ (x ++ y)) ∧ u.length = 42 ∧ v.length = 10 ∧ x.length = 8 ∧ y.length = 2 := by
  refine ⟨w.take 42, (w.drop 42).take 10, ((w.drop 42).drop 10).take 8,
    ((w.drop 42).drop 10).drop 8, by simp only [List.take_append_drop], ?_, ?_, ?_, ?_⟩ <;>
    simp [h, total]

/-- The four records, written one after the other, make up the report. -/
theorem putAt_between (r : GroundReport) (offset : Nat) (front w back : Bytes)
    (ho : front.length = offset) (hw : w.length = total)
    (hb : (front ++ (w ++ back)).length < addresses) :
    r.putAt offset (front ++ (w ++ back)) = (.ok (), front ++ (r.bytes ++ back)) := by
  subst ho
  obtain ⟨h1, h2, h3, h4⟩ := length_parts r
  obtain ⟨u, v, x, y, rfl, hu, hv, hx, hy⟩ := exists_parts hw
  have hlt : front.length + (62 + back.length) < addresses := by
    simp only [List.length_append, hu, hv, hx, hy] at hb
    omega
  -- each part is written behind the parts that were written before
  have e1 := encode_between r.sensor front.length front u (v ++ (x ++ (y ++ back))) rfl hu
    (by simp only [List.length_append]; omega)
  have e2 := encode_between r.motorSignal (front.length + motorSignalAt)
    (front ++ Record.bytes r.sensor) v (x ++ (y ++ back)) (by simp [h1, motorSignalAt]) hv
    (by simp only [List.length_append]; omega)
  have e3 := encode_between r.motorOffset (front.length + motorOffsetAt)
    (front ++ Record.bytes r.sensor ++ Record.bytes r.motorSignal) x (y ++ back)
    (by simp [h1, h2, motorOffsetAt]) hx (by simp only [List.length_append]; omega)
  have e4 := encode_between r.modeState (front.length + modeStateAt)
    (front ++ Record.bytes r.sensor ++ Record.bytes r.motorSignal ++ Record.bytes r.motorOffset) y
    back (by simp [h1, h2, h3, modeStateAt]) hy (by simp only [List.length_append]; omega)
  simp only [List.append_assoc] at e1 e2 e3 e4 ⊢
  rw [putAt, andThen_of_ok e1, andThen_of_ok e2, andThen_of_ok e3, e4, bytes]
  simp only [List.append_assoc]

/-- Each of the four records is read on its own at its place in the report. -/
theorem decode_parts (r : GroundReport) (offset : Nat) (front back : Bytes)
    (ho : front.length = offset) (hb : (front ++ (r.bytes ++ back)).length < addresses) :
    (∀ old, decode (front ++ (r.bytes ++ back)) offset old = (.ok (), r.sensor)) ∧
      (∀ old, decode (front ++ (r.bytes ++ back)) (offset + motorSignalAt) old
        = (.ok (), r.motorSignal)) ∧
      (∀ old, decode (front ++ (r.bytes ++ back)) (offset + motorOffsetAt) old
        = (.ok (), r.motorOffset)) ∧
      ∀ old, decode (front ++ (r.bytes ++ back)) (offset + modeStateAt) old
        = (.ok (), r.modeState) := by
  subst ho
  obtain ⟨h1, h2, h3, h4⟩ := length_parts r
  have hlt : front.length + (62 + back.length) < addresses := by
    simpa [length_bytes, total] using hb
  refine ⟨fun old => ?_, fun old => ?_, fun old => ?_, fun old => ?_⟩
  · have d := decode_between r.sensor old front.length front (Record.bytes r.motorSignal ++
      (Record.bytes r.motorOffset ++ (Record.bytes r.modeState ++ back))) rfl
      (by simp only [List.length_append]; omega)
    simpa only [bytes, List.append_assoc] using d
  · have d := decode_between r.motorSignal old (front.length + motorSignalAt)
      (front ++ Record.bytes r.sensor)
      (Record.bytes r.motorOffset ++ (Record.bytes r.modeState ++ back))
      (by simp [h1, motorSignalAt]) (by simp only [List.length_append]; omega)
    simpa only [bytes, List.append_assoc] using d
  · have d := decode_between r.motorOffset old (front.length + motorOffsetAt)
      (front ++ Record.bytes r.sensor ++ Record.bytes r.motorSignal)
      (Record.bytes r.modeState ++ back) (by simp [h1, h2, motorOffsetAt])
      (by simp only [List.length_append]; omega)
    simpa only [bytes, List.append_assoc] using d
  · have d := decode_between r.modeState old (front.length + modeStateAt)
      (front ++ Record.bytes r.sensor ++ Record.bytes r.motorSignal ++ Record.bytes r.motorOffset)
      back (by simp [h1, h2, h3, modeStateAt]) (by simp only [List.length_append]; omega)
    simpa only [bytes, List.append_assoc] using d

theorem put_of_length (r : GroundReport) (w : Bytes) (h : w.length = total) :
    r.putAt 0 w = (.ok (), r.bytes) := by
  have hlt : ([] ++ (w ++ [])).length < addresses := by simp [h, total, addresses, UInt64.size]
  simpa using putAt_between r 0 [] w [] rfl h hlt

theorem get_bytes (r old : GroundReport) : get r.bytes old = (.ok (), r) := by
  have hlt : ([] ++ (r.bytes ++ [])).length < addresses := by
    simp [length_bytes, total, addresses, UInt64.size]
  have hparts := decode_parts r 0 [] [] rfl hlt
  simp only [List.nil_append, List.append_nil, Nat.zero_add] at hparts
  obtain ⟨d1, d2, d3, d4⟩ := hparts
  simp only [get, andThen, onPart, d1, d2, d3, d4]

end GroundReport

instance : InPlace GroundReport where
  put r := r.putAt 0
  get := GroundReport.get
  put_of_length := GroundReport.put_of_length
  get_bytes := GroundReport.get_bytes

instance : (s : RecordSort) → InPlace s.Carrier
  | .command => inferInstanceAs (InPlace Command)
  | .sensor => inferInstanceAs (InPlace Sensor)
  | .motorSignal => inferInstanceAs (InPlace MotorSignal)
  | .motorOffset => inferInstanceAs (InPlace MotorOffset)
  | .gain => inferInstanceAs (InPlace Gain)
  | .revving => inferInstanceAs (InPlace Revving)
  | .trace => inferInstanceAs (InPlace Trace)
  | .modeState => inferInstanceAs (InPlace ModeState)
  | .switch => inferInstanceAs (InPlace Switch)
  | .groundReport => inferInstanceAs (InPlace GroundReport)

end FrameLink
