import FrameLink.Message.Fields
import FrameLink.Proofs.Record.Members

/-!
Messages as JSON and back.

The JSON of a message is an object: `record` names the variant, and `fields` has the contents of all but
the bare requests. It is read back as that message, so no two messages have the same JSON.
-/

namespace FrameLink

/-- A name made of capitalised words, with the words in small letters and a separator between them. -/
def separated (sep : Char) (name : String) : String :=
  match name.toList with
  | [] => ""
  | first :: rest => String.ofList <|
    first.toLower :: rest.flatMap fun c => if c.isUpper then [sep, c.toLower] else [c]

def GainAxis.variant : GainAxis → String
  | .rollPitch => "RollPitch"
  | .yaw => "Yaw"
  | .altitude => "Altitude"
  | .xy => "Xy"

namespace Message

def variant : Message → String
  | .sensor _ => "Sensor"
  | .motorSignals _ => "MotorSignals"
  | .motorOffsets _ => "MotorOffsets"
  | .modeState _ => "ModeState"
  | .groundReport _ => "GroundReport"
  | .trace _ => "Trace"
  | .command _ => "Command"
  | .gains _ _ => "Gains"
  | .revving _ => "Revving"
  | .byteStream _ => "ByteStream"
  | .switchState _ => "SwitchState"
  | .switchMode _ => "SwitchMode"
  | .storeTrim => "StoreTrim"
  | .clearTrim => "ClearTrim"
  | .shutDown => "ShutDown"
  | .enableSensors => "EnableSensors"

variable {m n : Message} {c j : Json}

/-! ### What is written -/

lemma tag_eq (m : Message) : m.tag = separated '_' m.variant := by
  cases m <;> simp only [tag, variant] <;> rfl

lemma name_eq (axis : GainAxis) : axis.name = separated '-' axis.variant := by
  cases axis <;> rfl

/-- Only the bare requests have no contents. -/
lemma contents?_eq_none_iff : m.contents? = none ↔
    m = storeTrim ∨ m = clearTrim ∨ m = shutDown ∨ m = enableSensors := by
  cases m <;> simp [contents?]

/-- The members of the JSON of a message. -/
def jsonMembers (m : Message) : List (String × Json) :=
  ("record", .str (separated '_' m.variant)) :: (m.contents?.map fun c => ("fields", c)).toList

lemma toJson_eq (m : Message) : Viewed.toJson m = .obj m.jsonMembers := by
  rw [jsonMembers, ← tag_eq]
  simp only [Viewed.toJson]
  cases m.contents? <;> rfl

/-! ### What is read -/

lemma axis_of_same {axis : GainAxis} (h : (Viewed.toJson axis).Same j) :
    Viewed.ofJson? j = some axis := by
  obtain rfl := Json.Same.str_iff.mp h
  cases axis <;> rfl

lemma stream_of_same {b : Bytes} (h : (Json.arr (b.map Viewed.byte)).Same j) :
    streamOfJson? j = some (.byteStream b) := by
  obtain rfl := Json.Same.ints_iff.mp h
  have hread : (b.map Viewed.byte).mapM Json.byte? = some b :=
    (Json.mapM_eq_some_iff_map fun _ _ => Json.byte?_eq_some_iff).mpr rfl
  exact congrArg (Option.map byteStream) hread

lemma gains_of_same {axis : GainAxis} {r : Gain}
    (h : (Json.obj [("axis", Viewed.toJson axis), ("gains", Viewed.toJson r)]).Same j) :
    gainsOfJson? j = some (.gains axis r) := by
  obtain ⟨others, rfl, hlookup, -⟩ := h.exists_obj
  obtain ⟨x, hx, haxis⟩ := hlookup "axis" _ rfl
  obtain ⟨y, hy, hgains⟩ := hlookup "gains" _ rfl
  have hfields : (Json.obj others).fields? ["axis", "gains"] = some [x, y] :=
    Json.fields?_obj.mpr (.cons hx (.cons hy .nil))
  have hr : Viewed.ofJson? y = some r := (MemberValue.isFaithful_record .gain r).2 y hgains
  simp only [gainsOfJson?, hfields, axis_of_same haxis, hr]
  rfl

/-- The contents of a message are read as that message, by the name of its variant. -/
def IsFaithful (m : Message) (c : Json) : Prop :=
  c.Same c ∧ ∀ j, c.Same j → ofContents? m.tag (some j) = some m

lemma isFaithful_of_record (s : RecordSort) {r : s.Carrier} {build : s.Carrier → Message}
    (h : ∀ j, ofContents? (build r).tag (some j) = (Viewed.ofJson? j).map build) :
    (build r).IsFaithful (Viewed.toJson r) := by
  obtain ⟨hself, hread⟩ := MemberValue.isFaithful_record s r
  refine ⟨hself, ?_⟩
  intro j hj
  have hr : Viewed.ofJson? j = some r := hread j hj
  rw [h, hr, Option.map_some]

lemma isFaithful_contents (h : m.contents? = some c) : m.IsFaithful c := by
  -- Variants with a record of the same sort are told apart by the name alone.
  cases m with
  | sensor r => cases h; exact isFaithful_of_record .sensor fun _ => rfl
  | motorSignals r => cases h; exact isFaithful_of_record .motorSignal fun _ => rfl
  | motorOffsets r => cases h; exact isFaithful_of_record .motorOffset fun _ => rfl
  | modeState r => cases h; exact isFaithful_of_record .modeState fun _ => rfl
  | groundReport r => cases h; exact isFaithful_of_record .groundReport fun _ => rfl
  | trace r => cases h; exact isFaithful_of_record .trace fun _ => rfl
  | command r => cases h; exact isFaithful_of_record .command fun _ => rfl
  | gains axis r =>
    cases h
    refine ⟨.of_perm (by simp) ?_ (List.Perm.refl _), fun j => gains_of_same⟩
    simp only [List.forall_mem_cons]
    exact ⟨.str _, (MemberValue.isFaithful_record .gain r).1, nofun⟩
  | revving r => cases h; exact isFaithful_of_record .revving fun _ => rfl
  | byteStream b =>
    cases h
    exact ⟨Json.Same.ints_iff.mpr rfl, fun j => stream_of_same⟩
  | switchState r => cases h; exact isFaithful_of_record .switch fun _ => rfl
  | switchMode r => cases h; exact isFaithful_of_record .switch fun _ => rfl
  | storeTrim | clearTrim | shutDown | enableSensors => cases h

lemma ofContents?_of_bare (h : m.contents? = none) : ofContents? m.tag none = some m := by
  cases m with
  | storeTrim | clearTrim | shutDown | enableSensors => rfl
  | _ => cases h

/-! ### Whole messages -/

lemma nodup_jsonMembers (m : Message) : (m.jsonMembers.map Prod.fst).Nodup := by
  rw [jsonMembers]
  cases m.contents? <;> simp

/-- The members of the JSON of a message can be put in any order. -/
lemma same_of_perm {others : List (String × Json)} (h : m.jsonMembers.Perm others) :
    (Viewed.toJson m).Same (.obj others) := by
  rw [toJson_eq]
  refine .of_perm m.nodup_jsonMembers ?_ h
  rw [jsonMembers, List.forall_mem_cons]
  refine ⟨.str _, ?_⟩
  cases hc : m.contents? with
  | none => exact nofun
  | some c =>
    simp only [Option.map_some, Option.toList_some, List.forall_mem_singleton]
    exact (isFaithful_contents hc).1

lemma same_toJson (m : Message) : (Viewed.toJson m).Same (Viewed.toJson m) := by
  conv => rhs; rw [toJson_eq]
  exact same_of_perm (List.Perm.refl _)

/-- **A message is read from its JSON**, in whatever order the members of objects stand. -/
lemma ofJson?_of_same (h : (Viewed.toJson m).Same j) : Viewed.ofJson? j = some m := by
  rw [toJson_eq] at h
  obtain ⟨others, rfl, hlookup, hnone⟩ := h.exists_obj
  obtain ⟨tag, htag, hsame⟩ := hlookup "record" _ rfl
  obtain rfl := Json.Same.str_iff.mp hsame
  rw [← tag_eq] at htag
  simp only [Viewed.ofJson?, htag]
  cases hc : m.contents? with
  | none =>
    have hfields : m.jsonMembers.lookup "fields" = none := by
      rw [jsonMembers, hc]
      rfl
    rw [hnone "fields" hfields]
    exact ofContents?_of_bare hc
  | some c =>
    have hfields : m.jsonMembers.lookup "fields" = some c := by
      rw [jsonMembers, hc]
      rfl
    obtain ⟨w, hw, hsame⟩ := hlookup "fields" c hfields
    rw [hw]
    exact (isFaithful_contents hc).2 w hsame

lemma eq_of_same (h : (Viewed.toJson m).Same (Viewed.toJson n)) : m = n := by
  have hm : Viewed.ofJson? (Viewed.toJson n) = some m := ofJson?_of_same h
  have hn : Viewed.ofJson? (Viewed.toJson n) = some n := ofJson?_of_same n.same_toJson
  exact Option.some.inj (hm.symm.trans hn)

/-- **The JSON view is exact.** A message is written as an object with the name of its variant as
`record`, in small letters with underscores, and its contents as `fields`, which the four bare requests
lack; an axis is written by its name with dashes. From this JSON, in whatever order the members of
objects stand, that message is read, so the JSON of different messages differs. An object with distinct
names is read as a record of a sort just if each member in the table of that sort stands in it with an
integer in range, or with sixteen, or with what is read as the record that belongs there; other members
are passed over, and the record has just these values. -/
theorem json_is_exact (m n : Message) (s : RecordSort) (members : List (String × Json))
    (hnodup : (members.map Prod.fst).Nodup) :
    Viewed.toJson m = .obj (("record", .str (separated '_' m.variant)) ::
      (m.contents?.map fun c => ("fields", c)).toList) ∧
    (m.contents? = none ↔ m = storeTrim ∨ m = clearTrim ∨ m = shutDown ∨ m = enableSensors) ∧
    (∀ axis r, m = gains axis r → m.contents? =
      some (.obj [("axis", .str (separated '-' axis.variant)), ("gains", Viewed.toJson r)])) ∧
    Viewed.ofJson? (Viewed.toJson m) = some m ∧
    (∀ j, (Viewed.toJson m).Same j → Viewed.ofJson? j = some m) ∧
    (Viewed.toJson m = Viewed.toJson n → m = n) ∧
    ((Viewed.toJson m).Same (Viewed.toJson n) → m = n) ∧
    ((∃ r : s.Carrier, Viewed.ofJson? (.obj members) = some r) ↔
      ∀ k ∈ s.members, ∃ v, (k.1, v) ∈ members ∧ k.2.Admits v) ∧
    ∀ r : s.Carrier, Viewed.ofJson? (.obj members) = some r ↔
      ∀ e ∈ s.entries r, ∃ v, (e.1, v) ∈ members ∧ e.2.SaidBy v := by
  refine ⟨m.toJson_eq, contents?_eq_none_iff, ?_, ofJson?_of_same m.same_toJson, ?_, ?_, eq_of_same,
    s.tabled.exists_ofJson?_obj hnodup, ?_⟩
  · rintro axis r rfl
    rw [← name_eq]
    rfl
  · exact fun j => ofJson?_of_same
  · intro h
    exact eq_of_same (h ▸ m.same_toJson)
  · exact fun r => s.tabled.ofJson?_obj_iff_mem hnodup

/-- The JSON of gains with its members turned round, and requests to switch with one member too many
and with a target that is out of range. -/
theorem json_is_exact_turned_round :
    let m := gains .rollPitch ⟨1, -2, 3, 4⟩
    let fields := Json.obj [("axis", .str "roll-pitch"),
      ("gains", .obj [("p", .int 1), ("i", .int (-2)), ("d", .int 3), ("dd", .int 4)])]
    let turned := Json.obj [("fields", fields), ("record", .str "gains")]
    let spare := [("spare", Json.null), ("target", .int 7)]
    let wide := [("target", Json.int 256)]
    ((Viewed.toJson m).Same turned ∧ Viewed.ofJson? turned = some m) ∧
    ((spare.map Prod.fst).Nodup ∧ (Viewed.ofJson? (.obj spare) : Option Switch) = some ⟨7⟩) ∧
    (wide.map Prod.fst).Nodup ∧ ¬ ∃ r : Switch, Viewed.ofJson? (.obj wide) = some r := by
  intro m fields turned spare wide
  have hjson : m.jsonMembers = [("record", .str "gains"), ("fields", fields)] := by
    rw [jsonMembers, ← tag_eq]
    rfl
  have hsame : (Viewed.toJson m).Same turned := same_of_perm (hjson ▸ List.Perm.swap _ _ _)
  have hspare : (spare.map Prod.fst).Nodup := by decide
  have hwide : (wide.map Prod.fst).Nodup := by decide
  obtain ⟨-, -, -, -, hread, -, -, -, hmembers⟩ := json_is_exact m m .switch spare hspare
  obtain ⟨-, -, -, -, -, -, -, hexists, -⟩ := json_is_exact m m .switch wide hwide
  refine ⟨⟨hsame, hread turned hsame⟩, ⟨hspare, (hmembers ⟨7⟩).mpr ?_⟩, hwide, ?_⟩
  · simp only [RecordSort.entries, Switch.entries, List.forall_mem_singleton]
    exact ⟨.int 7, by simp [spare], rfl⟩
  · intro h
    obtain ⟨v, hv, n, rfl, -, hle⟩ := hexists.mp h ("target", .byte) (List.mem_singleton_self _)
    simp only [wide, List.mem_singleton, Prod.mk.injEq, Json.int.injEq, true_and] at hv
    omega

end Message

end FrameLink
