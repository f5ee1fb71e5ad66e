import FrameLink.Proofs.Text.Json
import FrameLink.Record.Sort

/-!
Which JSON is read as which record.

For each sort of record the table lists its members: words and bytes, the slots of a trace, and the
records in a ground report. An object is read as a record just if all of these members stand in it, each
with a value that the table admits; the others are passed over, and their order does not matter. An array
is read as a record just if it has the values of these members and no more, in their order. A record
within a record is read in the same two ways.
-/

namespace FrameLink

/-- What can stand as a member of a record. -/
inductive MemberSort where
  | word
  | byte
  | slots
  | part (s : RecordSort)
  deriving DecidableEq

/-- What stands as a member of a record. -/
inductive MemberValue where
  | word (w : Int16)
  | byte (b : UInt8)
  | slots (t : Trace)
  | part (s : RecordSort) (r : s.Carrier)

/-- The JSON values that are taken for a member: an integer in range, sixteen of them, or what is read
as the record. -/
def MemberSort.Admits : MemberSort → Json → Prop
  | .word, j => ∃ n : Int, j = .int n ∧ -32768 ≤ n ∧ n ≤ 32767
  | .byte, j => ∃ n : Int, j = .int n ∧ 0 ≤ n ∧ n ≤ 255
  | .slots, j => ∃ ns : List Int, j = .arr (ns.map .int) ∧ ns.length = 16 ∧
      ∀ n ∈ ns, -32768 ≤ n ∧ n ≤ 32767
  | .part s, j => ∃ r : s.Carrier, Viewed.ofJson? j = some r

namespace MemberValue

def sort : MemberValue → MemberSort
  | .word _ => .word
  | .byte _ => .byte
  | .slots _ => .slots
  | .part s _ => .part s

/-- The JSON values that say just this. -/
def SaidBy : MemberValue → Json → Prop
  | .word w, j => j = .int w.toInt
  | .byte b, j => j = .int b.toNat
  | .slots t, j => j = .arr (t.slots.map fun w => .int w.toInt)
  | .part _ r, j => Viewed.ofJson? j = some r

def json : MemberValue → Json
  | .word w => .int w.toInt
  | .byte b => .int b.toNat
  | .slots t => .arr (t.slots.map fun w => .int w.toInt)
  | .part _ r => Viewed.toJson r

end MemberValue

/-! ### The tables -/

def Command.entries (r : Command) : List (String × MemberValue) :=
  [("roll", .word r.roll), ("pitch", .word r.pitch), ("yaw", .word r.yaw), ("z", .word r.z)]

def Sensor.entries (r : Sensor) : List (String × MemberValue) :=
  [("roll", .word r.roll), ("pitch", .word r.pitch), ("yaw", .word r.yaw),
    ("roll_rate", .word r.rollRate), ("pitch_rate", .word r.pitchRate), ("yaw_rate", .word r.yawRate),
    ("acc_x", .word r.accX), ("acc_y", .word r.accY), ("acc_z", .word r.accZ),
    ("x", .word r.x), ("y", .word r.y), ("z", .word r.z),
    ("vel_x", .word r.velX), ("vel_y", .word r.velY), ("vel_z", .word r.velZ),
    ("raw_acc_x", .word r.rawAccX), ("raw_acc_y", .word r.rawAccY), ("raw_acc_z", .word r.rawAccZ),
    ("pressure", .word r.pressure), ("temperature", .word r.temperature), ("battery", .word r.battery)]

def MotorSignal.entries (r : MotorSignal) : List (String × MemberValue) :=
  [("front", .word r.front), ("rear", .word r.rear), ("left", .word r.left), ("right", .word r.right),
    ("id", .word r.id)]

def MotorOffset.entries (r : MotorOffset) : List (String × MemberValue) :=
  [("front", .word r.front), ("rear", .word r.rear), ("left", .word r.left), ("right", .word r.right)]

def Gain.entries (r : Gain) : List (String × MemberValue) :=
  [("p", .word r.p), ("i", .word r.i), ("d", .word r.d), ("dd", .word r.dd)]

def Revving.entries (r : Revving) : List (String × MemberValue) :=
  [("idle_limit", .word r.idleLimit), ("control_speed", .word r.controlSpeed),
    ("ramp_up_step", .word r.rampUpStep), ("ramp_down_step", .word r.rampDownStep)]

def Trace.entries (r : Trace) : List (String × MemberValue) := [("slots", .slots r)]

def ModeState.entries (r : ModeState) : List (String × MemberValue) :=
  [("mode", .byte r.mode), ("state", .byte r.state)]

def Switch.entries (r : Switch) : List (String × MemberValue) := [("target", .byte r.target)]

def GroundReport.entries (r : GroundReport) : List (String × MemberValue) :=
  [("sensor", .part .sensor r.sensor), ("motor_signal", .part .motorSignal r.motorSignal),
    ("motor_offset", .part .motorOffset r.motorOffset), ("mode_state", .part .modeState r.modeState)]

namespace RecordSort

/-- The members of a record by name, with their values. -/
def entries : (s : RecordSort) → s.Carrier → List (String × MemberValue)
  | .command => Command.entries
  | .sensor => Sensor.entries
  | .motorSignal => MotorSignal.entries
  | .motorOffset => MotorOffset.entries
  | .gain => Gain.entries
  | .revving => Revving.entries
  | .trace => Trace.entries
  | .modeState => ModeState.entries
  | .switch => Switch.entries
  | .groundReport => GroundReport.entries

/-- The members of a record by name, with what can stand there. -/
def members : RecordSort → List (String × MemberSort)
  | .command => (WordRecord.names Command).map fun name => (name, .word)
  | .sensor => (WordRecord.names Sensor).map fun name => (name, .word)
  | .motorSignal => (WordRecord.names MotorSignal).map fun name => (name, .word)
  | .motorOffset => (WordRecord.names MotorOffset).map fun name => (name, .word)
  | .gain => (WordRecord.names Gain).map fun name => (name, .word)
  | .revving => (WordRecord.names Revving).map fun name => (name, .word)
  | .trace => [("slots", .slots)]
  | .modeState => [("mode", .byte), ("state", .byte)]
  | .switch => [("target", .byte)]
  | .groundReport => [("sensor", .part .sensor), ("motor_signal", .part .motorSignal),
      ("motor_offset", .part .motorOffset), ("mode_state", .part .modeState)]

end RecordSort

namespace MemberValue

variable {v : MemberValue} {k : MemberSort} {j : Json}

lemma exists_word {n : Int} (hlow : -32768 ≤ n) (hhigh : n ≤ 32767) : ∃ w : Int16, w.toInt = n :=
  ⟨Int16.ofInt n, Int16.toInt_ofInt_of_le hlow (Int.lt_add_one_of_le hhigh)⟩

lemma exists_words {ns : List Int} (h : ∀ n ∈ ns, -32768 ≤ n ∧ n ≤ 32767) :
    ∃ ws : List Int16, ws.map Int16.toInt = ns := by
  induction ns with
  | nil => exact ⟨[], rfl⟩
  | cons n ns ih =>
    rw [List.forall_mem_cons] at h
    obtain ⟨w, rfl⟩ := exists_word h.1.1 h.1.2
    obtain ⟨ws, rfl⟩ := ih h.2
    exact ⟨w :: ws, rfl⟩

lemma word_range (w : Int16) : -32768 ≤ w.toInt ∧ w.toInt ≤ 32767 :=
  ⟨w.le_toInt, Int.le_of_lt_add_one w.toInt_lt⟩

/-- What is said is admitted. -/
lemma admits_of_saidBy (h : v.SaidBy j) : v.sort.Admits j := by
  cases v with
  | word w => exact ⟨w.toInt, h, word_range w⟩
  | byte b =>
    have hlt : b.toNat < 256 := b.toNat_lt
    exact ⟨b.toNat, h, by omega, by omega⟩
  | slots t =>
    refine ⟨t.slots.map Int16.toInt, ?_, ?_, ?_⟩
    · rw [List.map_map]
      exact h
    · rw [List.length_map]
      exact t.length_slots
    · simp only [List.mem_map]
      rintro _ ⟨w, -, rfl⟩
      exact word_range w
  | part s r => exact ⟨r, h⟩

/-- What is admitted says something of that sort. -/
lemma exists_saidBy (h : k.Admits j) : ∃ v : MemberValue, v.sort = k ∧ v.SaidBy j := by
  cases k with
  | word =>
    obtain ⟨n, rfl, hlow, hhigh⟩ := h
    obtain ⟨w, rfl⟩ := exists_word hlow hhigh
    exact ⟨.word w, rfl, rfl⟩
  | byte =>
    obtain ⟨n, rfl, hlow, hhigh⟩ := h
    refine ⟨.byte (UInt8.ofNat n.toNat), rfl, ?_⟩
    have hsmall : n.toNat < 256 := by omega
    rw [SaidBy, UInt8.toNat_ofNat_of_lt' hsmall, Int.toNat_of_nonneg hlow]
  | slots =>
    obtain ⟨ns, rfl, hlen, hrange⟩ := h
    obtain ⟨ws, rfl⟩ := exists_words hrange
    rw [List.length_map] at hlen
    refine ⟨.slots ⟨ws, hlen⟩, rfl, ?_⟩
    rw [SaidBy, List.map_map]
    rfl
  | part s =>
    obtain ⟨r, hr⟩ := h
    exact ⟨.part s r, rfl, hr⟩

end MemberValue

/-- A view of records as their entries: written as one member for each, and read from the values that
stand for these names. -/
structure Tabled {α : Type} [Viewed α] (members : List (String × MemberSort))
    (entries : α → List (String × MemberValue)) : Prop where
  nodup : (members.map Prod.fst).Nodup
  entries_eq (r : α) : (entries r).map (fun e => (e.1, e.2.sort)) = members
  toJson_eq (r : α) : Viewed.toJson r = .obj ((entries r).map fun e => (e.1, e.2.json))
  ofJson?_eq_some_iff (j : Json) (r : α) : Viewed.ofJson? j = some r ↔
    ∃ vs, j.fields? (members.map Prod.fst) = some vs ∧
      List.Forall₂ MemberValue.SaidBy ((entries r).map Prod.snd) vs
  exists_values (vs : List MemberValue) (h : vs.map MemberValue.sort = members.map Prod.snd) :
    ∃ r, (entries r).map Prod.snd = vs

namespace Tabled

section Words

variable {α : Type} [WordRecord α] {r : α}

lemma ofWords?_eq_some_iff {ws : List Int16} :
    WordRecord.ofWords? ws = some r ↔ ws = WordRecord.words r := by
  constructor
  · intro h
    exact (WordRecord.words_of_ofWords? ws r h).symm
  · rintro rfl
    exact WordRecord.ofWords?_words r

/-- A record of words is read from its words, in the order of their names. -/
lemma ofJson?_words {j : Json} : Viewed.ofJson? j = some r ↔
    ∃ vs, j.fields? (WordRecord.names α) = some vs ∧
      vs = (WordRecord.words r).map Viewed.signedWord := by
  calc Viewed.ofJson? j = some r
      ↔ ∃ vs, j.fields? (WordRecord.names α) = some vs ∧
          ∃ ws, vs.mapM Json.signedWord? = some ws ∧ WordRecord.ofWords? ws = some r := by
        simp only [Viewed.ofJson?, Option.bind_eq_bind, Option.bind_eq_some_iff]
    _ ↔ _ := by
        simp only [ofWords?_eq_some_iff, exists_eq_right,
          Json.mapM_eq_some_iff_map fun _ _ => Json.signedWord?_eq_some_iff]

lemma words_of_sort {vs : List MemberValue} (h : ∀ v ∈ vs, v.sort = .word) :
    ∃ ws : List Int16, vs = ws.map .word := by
  induction vs with
  | nil => exact ⟨[], rfl⟩
  | cons v vs ih =>
    rw [List.forall_mem_cons] at h
    obtain ⟨ws, rfl⟩ := ih h.2
    cases v with
    | word w => exact ⟨w :: ws, rfl⟩
    | _ => exact absurd h.1 nofun

/-- Any words, as many as there are names, are those of a record. -/
lemma exists_words {vs : List MemberValue}
    (h : vs.map MemberValue.sort = (WordRecord.names α).map fun _ => .word) :
    ∃ r : α, (WordRecord.words r).map .word = vs := by
  have hsort : ∀ v ∈ vs, v.sort = .word := by
    intro v hv
    have hmem : v.sort ∈ vs.map MemberValue.sort := List.mem_map_of_mem hv
    rw [h, List.mem_map] at hmem
    obtain ⟨name, -, hword⟩ := hmem
    exact hword.symm
  obtain ⟨ws, rfl⟩ := words_of_sort hsort
  have hlen : ws.length = (WordRecord.names α).length := by
    simpa using congrArg List.length h
  obtain ⟨r, hr⟩ := Option.isSome_iff_exists.mp (WordRecord.isSome_ofWords? ws hlen)
  exact ⟨r, by rw [ofWords?_eq_some_iff.mp hr]⟩

/-- A record of words is viewed as its words by their names. -/
lemma words (hnodup : (WordRecord.names α).Nodup) {entries : α → List (String × MemberValue)}
    (h : ∀ r, entries r =
      ((WordRecord.names α).zip (WordRecord.words r)).map fun p => (p.1, .word p.2)) :
    Tabled ((WordRecord.names α).map fun name => (name, .word)) entries := by
  have hlen (r : α) : (WordRecord.names α).length = (WordRecord.words r).length :=
    (WordRecord.length_words r).symm
  have hnames : ((WordRecord.names α).map fun name => (name, MemberSort.word)).map Prod.fst =
      WordRecord.names α := by
    simp only [List.map_map, Function.comp_def, List.map_id']
  have hvalues (r : α) : (entries r).map Prod.snd = (WordRecord.words r).map .word := by
    calc (entries r).map Prod.snd
        = (((WordRecord.names α).zip (WordRecord.words r)).map Prod.snd).map .word := by
          rw [h, List.map_map, List.map_map]
          rfl
      _ = (WordRecord.words r).map .word := by
          rw [List.map_snd_zip (Nat.le_of_eq (hlen r).symm)]
  refine ⟨hnames.symm ▸ hnodup, ?_, ?_, ?_, ?_⟩
  · intro r
    calc (entries r).map (fun e => (e.1, e.2.sort))
        = (((WordRecord.names α).zip (WordRecord.words r)).map Prod.fst).map
            fun name => (name, .word) := by
          rw [h, List.map_map, List.map_map]
          rfl
      _ = (WordRecord.names α).map fun name => (name, .word) := by
          rw [List.map_fst_zip (Nat.le_of_eq (hlen r))]
  · intro r
    rw [h, List.map_map]
    exact congrArg Json.obj List.zip_map_right
  · intro j r
    simp only [hnames, hvalues, List.forall₂_map_left_iff, ofJson?_words]
    exact exists_congr fun vs => and_congr_right fun _ => Json.forall₂_eq_map_iff.symm
  · intro vs hvs
    rw [List.map_map] at hvs
    simp only [hvalues]
    exact exists_words hvs

end Words

lemma ofSlots?_eq_some_iff {ws : List Int16} {t : Trace} :
    Trace.ofSlots? ws = some t ↔ ws = t.slots := by
  constructor
  · intro h
    rw [Trace.ofSlots?] at h
    split at h
    · cases h
      rfl
    · cases h
  · rintro rfl
    rw [Trace.ofSlots?, dif_pos t.length_slots]

lemma trace : Tabled RecordSort.trace.members Trace.entries where
  nodup := by decide
  entries_eq _ := rfl
  toJson_eq _ := rfl
  ofJson?_eq_some_iff j r := by
    have hslots (items : List Json) : (items.mapM Json.signedWord?).bind Trace.ofSlots? = some r ↔
        items = r.slots.map fun w => .int w.toInt := by
      simp only [Option.bind_eq_some_iff, ofSlots?_eq_some_iff, exists_eq_right]
      exact Json.mapM_eq_some_iff_map fun _ _ => Json.signedWord?_eq_some_iff
    constructor
    · intro h
      simp only [Viewed.ofJson?] at h
      split at h
      case h_1 items hvs =>
        exact ⟨_, hvs, .cons (congrArg Json.arr ((hslots items).mp h)) .nil⟩
      case h_2 => cases h
    · rintro ⟨vs, hvs, _ | ⟨rfl, _ | _⟩⟩
      have hvs : j.fields? ["slots"] = some _ := hvs
      simp only [Viewed.ofJson?, hvs]
      exact (hslots _).mpr rfl
  exists_values vs h := by
    match vs, h with
    | [.slots t], _ => exact ⟨t, rfl⟩

lemma modeState : Tabled RecordSort.modeState.members ModeState.entries where
  nodup := by decide
  entries_eq _ := rfl
  toJson_eq _ := rfl
  ofJson?_eq_some_iff j r := by
    constructor
    · intro h
      simp only [Viewed.ofJson?] at h
      split at h
      case h_1 mode state hvs =>
        obtain ⟨m, hm, h⟩ := Option.bind_eq_some_iff.mp h
        obtain ⟨s, hs, h⟩ := Option.bind_eq_some_iff.mp h
        cases h
        rw [Json.byte?_eq_some_iff] at hm hs
        exact ⟨_, hvs, .cons hm (.cons hs .nil)⟩
      case h_2 => cases h
    · rintro ⟨vs, hvs, _ | ⟨hmode, _ | ⟨hstate, _ | _⟩⟩⟩
      have hvs : j.fields? ["mode", "state"] = some _ := hvs
      simp only [Viewed.ofJson?, hvs, Json.byte?_eq_some_iff.mpr hmode,
        Json.byte?_eq_some_iff.mpr hstate]
      rfl
  exists_values vs h := by
    match vs, h with
    | [.byte mode, .byte state], _ => exact ⟨⟨mode, state⟩, rfl⟩

lemma switch : Tabled RecordSort.switch.members Switch.entries where
  nodup := by decide
  entries_eq _ := rfl
  toJson_eq _ := rfl
  ofJson?_eq_some_iff j r := by
    constructor
    · intro h
      simp only [Viewed.ofJson?] at h
      split at h
      case h_1 target hvs =>
        obtain ⟨b, hb, h⟩ := Option.bind_eq_some_iff.mp h
        cases h
        rw [Json.byte?_eq_some_iff] at hb
        exact ⟨_, hvs, .cons hb .nil⟩
      case h_2 => cases h
    · rintro ⟨vs, hvs, _ | ⟨htarget, _ | _⟩⟩
      have hvs : j.fields? ["target"] = some _ := hvs
      simp only [Viewed.ofJson?, hvs, Json.byte?_eq_some_iff.mpr htarget]
      rfl
  exists_values vs h := by
    match vs, h with
    | [.byte target], _ => exact ⟨⟨target⟩, rfl⟩

lemma ofJson?_groundReport (j : Json) : (Viewed.ofJson? j : Option GroundReport) =
    match j.fields? ["sensor", "motor_signal", "motor_offset", "mode_state"] with
    | some [sensor, motorSignal, motorOffset, modeState] =>
      return ⟨← Viewed.ofJson? sensor, ← Viewed.ofJson? motorSignal, ← Viewed.ofJson? motorOffset,
        ← Viewed.ofJson? modeState⟩
    | _ => none := rfl

lemma groundReport : Tabled RecordSort.groundReport.members GroundReport.entries where
  nodup := by decide
  entries_eq _ := rfl
  toJson_eq _ := rfl
  ofJson?_eq_some_iff j r := by
    constructor
    · intro h
      rw [ofJson?_groundReport] at h
      split at h
      case h_1 hvs =>
        obtain ⟨a, ha, h⟩ := Option.bind_eq_some_iff.mp h
        obtain ⟨b, hb, h⟩ := Option.bind_eq_some_iff.mp h
        obtain ⟨c, hc, h⟩ := Option.bind_eq_some_iff.mp h
        obtain ⟨d, hd, h⟩ := Option.bind_eq_some_iff.mp h
        cases h
        exact ⟨_, hvs, .cons ha (.cons hb (.cons hc (.cons hd .nil)))⟩
      case h_2 => cases h
    · rintro ⟨vs, hvs, _ | ⟨ha, _ | ⟨hb, _ | ⟨hc, _ | ⟨hd, _ | _⟩⟩⟩⟩⟩
      have hvs : j.fields? ["sensor", "motor_signal", "motor_offset", "mode_state"] = some _ := hvs
      rw [ofJson?_groundReport, hvs]
      have ha : Viewed.ofJson? _ = some r.sensor := ha
      have hb : Viewed.ofJson? _ = some r.motorSignal := hb
      have hc : Viewed.ofJson? _ = some r.motorOffset := hc
      have hd : Viewed.ofJson? _ = some r.modeState := hd
      simp only [ha, hb, hc, hd]
      rfl
  exists_values vs h := by
    match vs, h with
    | [.part .sensor a, .part .motorSignal b, .part .motorOffset c, .part .modeState d], _ =>
      exact ⟨⟨a, b, c, d⟩, rfl⟩

end Tabled

lemma RecordSort.tabled : (s : RecordSort) → Tabled s.members s.entries
  | .command => .words (α := Command) (by decide) fun _ => rfl
  | .sensor => .words (α := Sensor) (by decide) fun _ => rfl
  | .motorSignal => .words (α := MotorSignal) (by decide) fun _ => rfl
  | .motorOffset => .words (α := MotorOffset) (by decide) fun _ => rfl
  | .gain => .words (α := Gain) (by decide) fun _ => rfl
  | .revving => .words (α := Revving) (by decide) fun _ => rfl
  | .trace => .trace
  | .modeState => .modeState
  | .switch => .switch
  | .groundReport => .groundReport

namespace Tabled

variable {α : Type} [Viewed α] {sorts : List (String × MemberSort)}
  {entries : α → List (String × MemberValue)} {members : List (String × Json)} {r : α}

lemma names_eq (h : Tabled sorts entries) (r : α) :
    (entries r).map Prod.fst = sorts.map Prod.fst := by
  rw [← h.entries_eq r, List.map_map]
  rfl

/-- An object is read as the record whose members are looked up in it, each with its value. -/
lemma ofJson?_obj (h : Tabled sorts entries) : Viewed.ofJson? (.obj members) = some r ↔
    ∀ e ∈ entries r, ∃ v, members.lookup e.1 = some v ∧ e.2.SaidBy v := by
  calc Viewed.ofJson? (.obj members) = some r
      ↔ ∃ vs, (Json.obj members).fields? (sorts.map Prod.fst) = some vs ∧
          List.Forall₂ MemberValue.SaidBy ((entries r).map Prod.snd) vs :=
        h.ofJson?_eq_some_iff _ r
    _ ↔ ∃ vs, List.Forall₂ (fun e v => members.lookup e.1 = some v ∧ e.2.SaidBy v)
          (entries r) vs := by
        simp only [← h.names_eq r, Json.fields?_obj, List.forall₂_map_left_iff, Json.forall₂_and_iff]
    _ ↔ _ := Json.exists_forall₂_iff

/-- **An object with distinct names is read as the record whose members stand in it**, each with its
value. -/
lemma ofJson?_obj_iff_mem (h : Tabled sorts entries) (hnodup : (members.map Prod.fst).Nodup) :
    Viewed.ofJson? (.obj members) = some r ↔
      ∀ e ∈ entries r, ∃ v, (e.1, v) ∈ members ∧ e.2.SaidBy v := by
  simp only [h.ofJson?_obj, Json.lookup_eq_some_iff_mem hnodup]

/-- **It is read as some record just if there is each member of the table**, with a value that is
admitted there. -/
lemma exists_ofJson?_obj (h : Tabled sorts entries) (hnodup : (members.map Prod.fst).Nodup) :
    (∃ r : α, Viewed.ofJson? (.obj members) = some r) ↔
      ∀ k ∈ sorts, ∃ v, (k.1, v) ∈ members ∧ k.2.Admits v := by
  constructor
  · rintro ⟨r, hr⟩ k hk
    rw [h.ofJson?_obj_iff_mem hnodup] at hr
    rw [← h.entries_eq r, List.mem_map] at hk
    obtain ⟨e, he, rfl⟩ := hk
    obtain ⟨v, hv, hsaid⟩ := hr e he
    exact ⟨v, hv, MemberValue.admits_of_saidBy hsaid⟩
  · intro hall
    -- What is admitted for each name says a value, and these values make up one record.
    have hvalue : ∀ k ∈ sorts, ∃ w : MemberValue,
        w.sort = k.2 ∧ ∃ v, (k.1, v) ∈ members ∧ w.SaidBy v := by
      intro k hk
      obtain ⟨v, hv, hadmits⟩ := hall k hk
      obtain ⟨w, hw, hsaid⟩ := MemberValue.exists_saidBy hadmits
      exact ⟨w, hw, v, hv, hsaid⟩
    obtain ⟨ws, hws⟩ := Json.exists_forall₂_iff.mpr hvalue
    have hsorts : ws.map MemberValue.sort = sorts.map Prod.snd := by
      rw [← List.forall₂_eq_eq_eq, List.forall₂_map_left_iff, List.forall₂_map_right_iff]
      exact (hws.imp fun _ _ hw => hw.1).flip
    obtain ⟨r, rfl⟩ := h.exists_values ws hsorts
    rw [← h.entries_eq r, List.forall₂_map_left_iff, List.forall₂_map_right_iff,
      List.forall₂_same] at hws
    exact ⟨r, (h.ofJson?_obj_iff_mem hnodup).mpr fun e he => (hws e he).2⟩

/-- An array is read as the record that has just these values, in their order. -/
lemma ofJson?_arr (h : Tabled sorts entries) {items : List Json} :
    Viewed.ofJson? (.arr items) = some r ↔
      List.Forall₂ (fun e v => e.2.SaidBy v) (entries r) items := by
  rw [h.ofJson?_eq_some_iff]
  constructor
  · rintro ⟨vs, hvs, hsaid⟩
    rw [Json.fields?] at hvs
    split at hvs
    · cases hvs
      rwa [List.forall₂_map_left_iff] at hsaid
    · cases hvs
  · intro hsaid
    refine ⟨items, if_pos ?_, List.forall₂_map_left_iff.mpr hsaid⟩
    rw [← h.names_eq r, List.length_map]
    exact hsaid.length_eq.symm

end Tabled

/-! ### What is written is read back -/

namespace MemberValue

/-- Its JSON is read as this and nothing else, in whatever order the members of objects stand. -/
def IsFaithful (v : MemberValue) : Prop := v.json.Same v.json ∧ ∀ j, v.json.Same j → v.SaidBy j

variable {v : MemberValue} {s : RecordSort} {j : Json}

/-- A record is read back if its members are. -/
lemma isFaithful_part {r : s.Carrier} (h : ∀ e ∈ s.entries r, e.2.IsFaithful) :
    (part s r).IsFaithful := by
  have hjson : (part s r).json = .obj ((s.entries r).map fun e => (e.1, e.2.json)) :=
    s.tabled.toJson_eq r
  have hnodup : (((s.entries r).map fun e => (e.1, e.2.json)).map Prod.fst).Nodup := by
    rw [List.map_map]
    exact (s.tabled.names_eq r).symm ▸ s.tabled.nodup
  rw [IsFaithful, hjson]
  constructor
  · refine .of_perm hnodup ?_ (List.Perm.refl _)
    simp only [List.mem_map]
    rintro _ ⟨e, he, rfl⟩
    exact (h e he).1
  · intro j hj
    obtain ⟨others, rfl, hlookup, -⟩ := hj.exists_obj
    rw [SaidBy, s.tabled.ofJson?_obj]
    intro e he
    have hmem : (e.1, e.2.json) ∈ (s.entries r).map fun e => (e.1, e.2.json) :=
      List.mem_map_of_mem he
    obtain ⟨w, hw, hsame⟩ := hlookup e.1 e.2.json ((Json.lookup_eq_some_iff_mem hnodup).mpr hmem)
    exact ⟨w, hw, (h e he).2 w hsame⟩

lemma isFaithful_of_sort (h : ∀ s, v.sort ≠ .part s) : v.IsFaithful := by
  cases v with
  | word w => exact ⟨Json.Same.int_iff.mpr rfl, fun _ => Json.Same.int_iff.mp⟩
  | byte b => exact ⟨Json.Same.int_iff.mpr rfl, fun _ => Json.Same.int_iff.mp⟩
  | slots t => exact ⟨Json.Same.ints_iff.mpr rfl, fun _ => Json.Same.ints_iff.mp⟩
  | part s r => exact absurd rfl (h s)

/-- No records but ground reports have records in them, so here the members say it all. -/
lemma isFaithful_flat (hs : s ≠ .groundReport) (r : s.Carrier) : (part s r).IsFaithful := by
  have hflat : ∀ k ∈ s.members, ∀ s', k.2 ≠ .part s' := by
    cases s <;> simp [RecordSort.members] at hs ⊢
  apply isFaithful_part
  intro e he
  apply isFaithful_of_sort
  apply hflat (e.1, e.2.sort)
  rw [← s.tabled.entries_eq r]
  exact List.mem_map_of_mem he

lemma isFaithful_record (s : RecordSort) (r : s.Carrier) : (part s r).IsFaithful := by
  by_cases hs : s = .groundReport
  · subst hs
    apply isFaithful_part
    simp only [RecordSort.entries, GroundReport.entries, List.forall_mem_cons]
    exact ⟨isFaithful_flat (by decide) _, isFaithful_flat (by decide) _,
      isFaithful_flat (by decide) _, isFaithful_flat (by decide) _, nofun⟩
  · exact isFaithful_flat hs r

end MemberValue

end FrameLink
