import FrameLink.Console.Inspection
import FrameLink.Proofs.Text.Blank
import FrameLink.Proofs.Text.Numeral
import FrameLink.Text.InPlace

/-!
Hex dumps as a language.

A dump is read two characters by two, once white space, marks and separators are gone from it. Two
digits spell a byte; so do a plus sign and one digit, as a byte is read as any other numeral is.
Reading is the same whether the characters are counted or their bytes are.
-/

namespace FrameLink.HexDump

open Numeral Text

variable {a b : Char} {x : UInt8} {cs ds front : List Char} {bs : Bytes} {v offset : Nat}

/-- Two digits for each byte, each of them small or capital. -/
inductive Plain : List Char → Bytes → Prop
  | nil : Plain [] []
  | digits {a b : Char} {x : UInt8} {cs : List Char} {bs : Bytes} (hi : IsDigit 16 a (x.toNat / 16))
      (lo : IsDigit 16 b (x.toNat % 16)) (rest : Plain cs bs) : Plain (a :: b :: cs) (x :: bs)

/-- Two characters for each byte: two digits, or a plus sign and one digit. -/
inductive Pairs : List Char → Bytes → Prop
  | nil : Pairs [] []
  | digits {a b : Char} {x : UInt8} {cs : List Char} {bs : Bytes} (hi : IsDigit 16 a (x.toNat / 16))
      (lo : IsDigit 16 b (x.toNat % 16)) (rest : Pairs cs bs) : Pairs (a :: b :: cs) (x :: bs)
  | signed {b : Char} {x : UInt8} {cs : List Char} {bs : Bytes} (lo : IsDigit 16 b x.toNat)
      (rest : Pairs cs bs) : Pairs ('+' :: b :: cs) (x :: bs)

/-- The same characters, with separators anywhere between and around them. -/
inductive Spaced : List Char → List Char → Prop
  | nil : Spaced [] []
  | keep {ds cs : List Char} (c : Char) (h : Spaced ds cs) : Spaced (c :: ds) (c :: cs)
  | gap {ds cs : List Char} {c : Char} (hc : isSeparator c = true) (h : Spaced ds cs) :
      Spaced ds (c :: cs)

/-- A dump of bytes: their digits with separators, perhaps a mark, and white space around it all. -/
def Dump (bs : Bytes) (text : String) : Prop :=
  ∃ front mark digits spaced back, text.toList = front ++ mark ++ spaced ++ back ∧
    Blank front ∧ Blank back ∧ (mark = [] ∨ mark = ['0', 'x']) ∧ Plain digits bs ∧
    Spaced digits spaced

/-! ### Pairs of characters -/

lemma spells_pair : Spells 16 [a, b] v ↔
    IsDigit 16 a (v / 16) ∧ IsDigit 16 b (v % 16) ∨ a = '+' ∧ IsDigit 16 b v := by
  constructor
  · rintro ⟨sign, digits, hcs, rfl | rfl, -, ds, hds, rfl⟩
    · obtain rfl : [a, b] = digits := hcs
      obtain ⟨hi, _, hhi, htail, rfl⟩ := List.forall₂_cons_left_iff.mp hds
      obtain ⟨lo, _, hlo, hnil, rfl⟩ := List.forall₂_cons_left_iff.mp htail
      obtain rfl := List.forall₂_nil_left_iff.mp hnil
      have hlt := hlo.1
      have hv : Nat.ofDigits 16 [hi, lo].reverse = hi * 16 + lo := by simp [Nat.ofDigits]; ring
      have hdiv : (hi * 16 + lo) / 16 = hi := by omega
      have hmod : (hi * 16 + lo) % 16 = lo := by omega
      rw [hv, hdiv, hmod]
      exact Or.inl ⟨hhi, hlo⟩
    · obtain ⟨rfl, rfl⟩ : a = '+' ∧ [b] = digits := by simpa using hcs
      obtain ⟨lo, _, hlo, hnil, rfl⟩ := List.forall₂_cons_left_iff.mp hds
      obtain rfl := List.forall₂_nil_left_iff.mp hnil
      exact Or.inr ⟨rfl, by simpa using hlo⟩
  · rintro (⟨hhi, hlo⟩ | ⟨rfl, hlo⟩)
    · refine ⟨[], [a, b], rfl, Or.inl rfl, by simp, [v / 16, v % 16], by simp [hhi, hlo], ?_⟩
      simp [Nat.ofDigits]
      omega
    · exact ⟨['+'], [b], rfl, Or.inr rfl, by simp, [v], by simp [hlo], by simp⟩

lemma pair?_eq_some_iff : pair? a b = some x ↔
    IsDigit 16 a (x.toNat / 16) ∧ IsDigit 16 b (x.toNat % 16) ∨ a = '+' ∧ IsDigit 16 b x.toNat := by
  rw [pair?, byte?_eq_some_iff (Nat.le_refl 16), spells_pair]

lemma pairs_eq_ok_iff : pairs offset cs = .ok bs ↔ Pairs cs bs := by
  constructor
  · fun_induction pairs offset cs generalizing bs with
    | case1 =>
      rintro ⟨⟩
      exact .nil
    | case2 offset a b rest x hx ih =>
      intro h
      cases hrest : pairs (offset + 2) rest with
      | error e => simp [hrest, Except.map] at h
      | ok bs' =>
        obtain rfl : x :: bs' = bs := by simpa [hrest, Except.map] using h
        rcases pair?_eq_some_iff.mp hx with ⟨hhi, hlo⟩ | ⟨rfl, hlo⟩
        · exact .digits hhi hlo (ih hrest)
        · exact .signed hlo (ih hrest)
    | case3 => simp
    | case4 => simp
  · intro h
    induction h generalizing offset with
    | nil => rfl
    | digits hhi hlo _ ih => simp [pairs, pair?_eq_some_iff.mpr (Or.inl ⟨hhi, hlo⟩), ih, Except.map]
    | signed hlo _ ih => simp [pairs, pair?_eq_some_iff.mpr (Or.inr ⟨rfl, hlo⟩), ih, Except.map]

/-! ### Characters and their bytes -/

lemma utf8Size_of_mem : ∀ c ∈ '+' :: digitChars 16, c.utf8Size = 1 :=
  List.all_iff_forall_prop.mp (by decide)

/-- A numeral takes as many bytes as it has characters. -/
lemma encodedSize_of_spells (h : Spells 16 cs v) : encodedSize cs = cs.length := by
  have hall (c : Char) (hc : c ∈ cs) : c.utf8Size = 1 := utf8Size_of_mem c (h.mem c hc)
  clear h
  induction cs with
  | nil => rfl
  | cons c cs ih =>
    rw [encodedSize_cons, hall c List.mem_cons_self,
      ih fun d hd => hall d (List.mem_cons_of_mem c hd), List.length_cons, Nat.add_comm]

/-- The two bytes at an offset spell a number exactly if two characters stand there that do. -/
lemma spelled_at_iff {limit : Nat} :
    (cut? (encodedSize front) 2 (front ++ cs)).bind (unsigned? 16 limit) = some v ↔
      ∃ a b rest, cs = a :: b :: rest ∧ unsigned? 16 limit [a, b] = some v := by
  simp only [Option.bind_eq_some_iff, cut?_eq_some_iff]
  constructor
  · rintro ⟨piece, ⟨front', back, htext, hfront, hsize⟩, hv⟩
    -- the text can be split after so many bytes in one way only
    have hsplit := splitBytes?_append front' (piece ++ back)
    rw [← htext, hfront, splitBytes?_append] at hsplit
    obtain ⟨rfl, rfl⟩ := Prod.mk.inj (Option.some.inj hsplit)
    have hlength := encodedSize_of_spells ((unsigned?_eq_some_iff (Nat.le_refl 16)).mp hv).1
    obtain ⟨a, b, rfl⟩ := List.length_eq_two.mp (hlength.symm.trans hsize)
    exact ⟨a, b, back, rfl, hv⟩
  · rintro ⟨a, b, rest, rfl, hv⟩
    have hlength := encodedSize_of_spells ((unsigned?_eq_some_iff (Nat.le_refl 16)).mp hv).1
    exact ⟨[a, b], ⟨front, rest, rfl, rfl, hlength⟩, hv⟩

lemma byteAt_pair (a b : Char) (front rest : List Char) :
    byteAt (front ++ a :: b :: rest) (encodedSize front) =
      match pair? a b with
      | some x => .ok x
      | none => .error (.invalidAt (encodedSize front)) := by
  have hspelled : (cut? (encodedSize front) 2 (front ++ a :: b :: rest)).bind (unsigned? 16 255) =
      unsigned? 16 255 [a, b] := by
    ext v
    rw [spelled_at_iff]
    grind
  rw [byteAt, hspelled, pair?]
  cases unsigned? 16 255 [a, b] <;> rfl

lemma byteAt_single (a : Char) (front : List Char) :
    byteAt (front ++ [a]) (encodedSize front) = .error (.invalidAt (encodedSize front)) := by
  have hspelled : (cut? (encodedSize front) 2 (front ++ [a])).bind (unsigned? 16 255) = none := by
    rw [Option.eq_none_iff_forall_ne_some]
    intro v
    rw [ne_eq, spelled_at_iff]
    simp
  rw [byteAt, hspelled]

/-- Byte for byte from an offset on, or character for character from where it lies. -/
lemma mapM_byteAt (front : List Char) {n : Nat} (h : encodedSize cs = 2 * n) :
    (List.range' (encodedSize front) n 2).mapM (byteAt (front ++ cs)) =
      pairs (encodedSize front) cs := by
  induction n generalizing front cs with
  | zero =>
    cases cs with
    | nil => rfl
    | cons c cs =>
      have := c.utf8Size_pos
      simp only [encodedSize_cons] at h
      omega
  | succ n ih =>
    rw [List.range'_succ, List.mapM_cons]
    match cs with
    | [] => simp at h
    | [a] => simp [byteAt_single, pairs, bind, Except.bind]
    | a :: b :: rest =>
      rw [byteAt_pair, pairs]
      cases hx : pair? a b with
      | none => rfl
      | some x =>
        have hsize : encodedSize [a, b] = 2 := by
          rw [pair?, byte?_eq_some_iff (Nat.le_refl 16)] at hx
          exact encodedSize_of_spells hx
        have hrest : encodedSize rest = 2 * n := by
          simp only [encodedSize_cons, encodedSize_nil] at h hsize
          omega
        have hnext := ih (front ++ [a, b]) hrest
        rw [encodedSize_append, hsize, List.append_assoc] at hnext
        simp only [List.cons_append, List.nil_append] at hnext
        simp only [bind, Except.bind, hnext, pure, Except.pure]
        cases pairs (encodedSize front + 2) rest <;> rfl

/-- **Reading at offsets is reading by characters.** -/
lemma read_eq (text : String) : read text = ofText text := by
  simp only [read, ofText]
  split_ifs with hnil hodd hodd' hodd'
  · rfl
  · rfl
  · omega
  · omega
  · have hsize : encodedSize (digits text) = 2 * (encodedSize (digits text) / 2) := by omega
    simpa using mapM_byteAt [] hsize

example : read "aéb" = .error (.invalidAt 0) := by decide +kernel

/-! ### Dumps -/

lemma isSeparator_of_isBlank (c : Char) (h : isBlank c = true) : (!isSeparator c) = false := by
  simp [isSeparator, h]

lemma not_separator_of_mem : ∀ c ∈ digitChars 16, isSeparator c = false :=
  List.all_iff_forall_prop.mp (by decide)

lemma Plain.isDigit (h : Plain cs bs) : ∀ c ∈ cs, ∃ d, IsDigit 16 c d := by
  induction h with
  | nil => simp
  | digits hhi hlo _ ih =>
    intro c hc
    rcases List.mem_cons.mp hc with rfl | hc
    · exact ⟨_, hhi⟩
    rcases List.mem_cons.mp hc with rfl | hc
    · exact ⟨_, hlo⟩
    · exact ih c hc

lemma Plain.length_eq (h : Plain cs bs) : cs.length = 2 * bs.length := by
  induction h with
  | nil => rfl
  | digits _ _ _ ih => simp only [List.length_cons, ih]; omega

lemma Plain.pairs (h : Plain cs bs) : Pairs cs bs := by
  induction h with
  | nil => exact .nil
  | digits hhi hlo _ ih => exact .digits hhi hlo ih

lemma Spaced.mem (h : Spaced ds cs) (ha : a ∈ cs) : a ∈ ds ∨ isSeparator a = true := by
  induction h with
  | nil => simp at ha
  | keep c _ ih =>
    rcases List.mem_cons.mp ha with rfl | ha
    · exact Or.inl List.mem_cons_self
    · exact (ih ha).imp_left (List.mem_cons_of_mem c)
  | gap hc _ ih =>
    rcases List.mem_cons.mp ha with rfl | ha
    · exact Or.inr hc
    · exact ih ha

/-- Without its separators a spaced text is as it was. -/
lemma Spaced.filter (h : Spaced ds cs) (hds : ∀ c ∈ ds, isSeparator c = false) :
    cs.filter (!isSeparator ·) = ds := by
  induction h with
  | nil => rfl
  | keep c _ ih =>
    rw [List.filter_cons_of_pos (by simp [hds c List.mem_cons_self]),
      ih fun d hd => hds d (List.mem_cons_of_mem c hd)]
  | gap hc _ ih => rw [List.filter_cons_of_neg (by simp [hc]), ih hds]

/-- No mark is left in a text without the letter of the mark. -/
lemma dropStarts_of_no_mark (h : 'x' ∉ cs) : dropStarts ['0', 'x'] cs = cs :=
  dropStarts_of_not fun hmark => h (hmark.mem (by simp))

/-- What is left of a dump are its digits. -/
lemma digits_of_dump {text : String} {mark spaced back : List Char}
    (htext : text.toList = front ++ mark ++ spaced ++ back) (hfront : Blank front)
    (hback : Blank back) (hmark : mark = [] ∨ mark = ['0', 'x']) (hds : Plain ds bs)
    (hspaced : Spaced ds spaced) : HexDump.digits text = ds := by
  have hsep (c : Char) (hc : c ∈ ds) : isSeparator c = false := by
    obtain ⟨d, hd⟩ := hds.isDigit c hc
    exact not_separator_of_mem c hd.mem
  have hx : 'x' ∉ spaced := by
    intro hmem
    rcases hspaced.mem hmem with hmem | hmem
    · obtain ⟨d, hd⟩ := hds.isDigit 'x' hmem
      exact absurd hd.mem (by decide)
    · exact absurd hmem (by decide)
  have htrim : trim text.toList = trim (mark ++ spaced) := by
    rw [htext, trim_append_right hback, List.append_assoc, trim_append_left hfront]
  rw [HexDump.digits, htrim]
  rcases hmark with rfl | rfl
  · rw [List.nil_append, dropStarts_of_no_mark (fun h => hx (mem_of_mem_trim h)),
      filter_trim isSeparator_of_isBlank, hspaced.filter hsep]
  · obtain ⟨rest, tail, hrest, rfl, htail⟩ :=
      trim_mark '0' 'x' (by decide) (by decide) spaced
    have hmark : trim (['0', 'x'] ++ (rest ++ tail)) = ['0', 'x'] ++ rest := hrest
    rw [hmark, dropStarts_append (by simp),
      dropStarts_of_no_mark (fun h => hx (List.mem_append_left tail h)), ← hspaced.filter hsep,
      List.filter_append, htail.filter isSeparator_of_isBlank, List.append_nil]

lemma Pairs.encodedSize_eq (h : Pairs cs bs) : encodedSize cs = 2 * bs.length := by
  have hdigit {c : Char} {d : Nat} (hc : IsDigit 16 c d) : c.utf8Size = 1 :=
    utf8Size_of_mem c (List.mem_cons_of_mem _ hc.mem)
  induction h with
  | nil => rfl
  | digits hhi hlo _ ih =>
    simp only [encodedSize_cons, hdigit hhi, hdigit hlo, ih, List.length_cons]
    omega
  | signed hlo _ ih =>
    simp only [encodedSize_cons, utf8Size_of_mem '+' List.mem_cons_self, hdigit hlo, ih,
      List.length_cons]
    omega

/-- **What is read are pairs.** -/
lemma ofText_eq_ok_iff {text : String} :
    ofText text = .ok bs ↔ digits text ≠ [] ∧ Pairs (digits text) bs := by
  unfold ofText
  split_ifs with hnil hodd
  · simp [hnil]
  · have hno : ¬ Pairs (digits text) bs := by
      intro h
      have := h.encodedSize_eq
      omega
    simp [hno]
  · rw [pairs_eq_ok_iff]
    exact (and_iff_right hnil).symm

/-- Without a plus sign two characters that are read are two digits. -/
lemma Pairs.plain (h : Pairs cs bs) (hplus : '+' ∉ cs) : Plain cs bs := by
  induction h with
  | nil => exact .nil
  | digits hhi hlo _ ih => exact .digits hhi hlo (ih (by simp_all))
  | signed => simp at hplus

/-- Bytes as they are shown are two plain digits each. -/
lemma plain_chars (bs : Bytes) : Plain (Hex.chars bs) bs := by
  induction bs with
  | nil => exact .nil
  | cons x bs ih =>
    have hx := x.toNat_lt
    have hhi : IsDigit 16 (Hex.small (x.toNat / 16)) (x.toNat / 16) := by
      refine ⟨by omega, Or.inl ?_⟩
      rw [Hex.small, Nat.mod_eq_of_lt (by omega)]
    have hlo : IsDigit 16 (Hex.small x.toNat) (x.toNat % 16) :=
      ⟨Nat.mod_lt _ (by omega), Or.inl rfl⟩
    exact .digits hhi hlo ih

lemma Spaced.refl (cs : List Char) : Spaced cs cs := by
  induction cs with
  | nil => exact .nil
  | cons c cs ih => exact .keep c ih

lemma dump_text (bs : Bytes) : Dump bs (Hex.text bs) :=
  ⟨[], [], Hex.chars bs, Hex.chars bs, [], by simp [Hex.text], by simp [Blank], by simp [Blank],
    Or.inl rfl, plain_chars bs, Spaced.refl _⟩

/-- **Every dump of bytes is read as these bytes.** It makes no difference in which case the digits
are, where white space, colons and dashes stand among them, whether a mark comes first, and what
white space is around it all. Bytes as they are shown are such a dump. -/
theorem reads_every_dump (bs : Bytes) (hbs : bs ≠ []) :
    (∀ text, Dump bs text → ofText text = .ok bs ∧ read text = .ok bs) ∧ Dump bs (Hex.text bs) := by
  refine ⟨fun text hdump => ?_, dump_text bs⟩
  obtain ⟨front, mark, ds, spaced, back, htext, hfront, hback, hmark, hds, hspaced⟩ := hdump
  have hleft : digits text = ds := digits_of_dump htext hfront hback hmark hds hspaced
  have hne : ds ≠ [] := by
    rintro rfl
    have := hds.length_eq
    exact hbs (List.length_eq_zero_iff.mp (by simpa using this.symm))
  have hok : ofText text = .ok bs := ofText_eq_ok_iff.mpr (by rw [hleft]; exact ⟨hne, hds.pairs⟩)
  exact ⟨hok, (read_eq text).trans hok⟩

/-- The separators may split the two digits of a byte. -/
theorem reads_every_dump_split :
    let bs : Bytes := [0xFF, 0x07, 0xA8]
    let text := " 0xF f:-0\t7 a8 -\n"
    bs ≠ [] ∧ Dump bs text ∧ ofText text = .ok bs ∧ read text = .ok bs := by
  intro bs text
  have hdump : Dump bs text := by
    refine ⟨[' '], ['0', 'x'], "Ff07a8".toList, "F f:-0\t7 a8 -".toList, ['\n'],
      by decide +kernel, by decide, by decide, Or.inr rfl, ?_, ?_⟩
    · exact .digits (by decide) (by decide) (.digits (by decide) (by decide)
        (.digits (by decide) (by decide) .nil))
    · exact .keep _ (.gap rfl (.keep _ (.gap rfl (.gap rfl (.keep _ (.gap rfl (.keep _ (.gap rfl
        (.keep _ (.keep _ (.gap rfl (.gap rfl .nil))))))))))))
  exact ⟨by decide, hdump, (reads_every_dump bs (by decide)).1 text hdump⟩

/-- **What is read as bytes, and what is refused.** Once trimmed and without marks and separators a
text is read, at offsets or by characters, exactly if pairs of characters are left, each of them
two digits or a plus sign and one digit, and then as the bytes that these spell. So where no plus
sign is left there are digits only, two for each byte. Whatever else is left is a usage error, be it
nothing, an odd number of digits, other letters, or characters that take several bytes. -/
theorem reads_only_pairs (text : String) :
    read text = ofText text ∧
    (∀ bs, ofText text = .ok bs ↔ digits text ≠ [] ∧ Pairs (digits text) bs) ∧
    (∀ bs, ofText text = .ok bs → '+' ∉ digits text →
      (∀ c ∈ digits text, ∃ d, IsDigit 16 c d) ∧ (digits text).length = 2 * bs.length) ∧
    ((¬ ∃ bs, digits text ≠ [] ∧ Pairs (digits text) bs) →
      ∀ format, ∃ failure, Console.check format text = .error failure ∧ failure.code = 64) := by
  refine ⟨read_eq text, fun bs => ofText_eq_ok_iff, fun bs hok hplus => ?_, fun hno format => ?_⟩
  · have hplain : Plain (digits text) bs := (ofText_eq_ok_iff.mp hok).2.plain hplus
    exact ⟨hplain.isDigit, hplain.length_eq⟩
  · cases h : ofText text with
    | ok bs => exact absurd ⟨bs, ofText_eq_ok_iff.mp h⟩ hno
    | error e => exact ⟨.ofHexDump e, by rw [Console.check, h], rfl⟩

/-- A plus sign is read as if it were a digit. -/
theorem not_only_digits :
    ¬ ∀ text bs, ofText text = .ok bs →
      (∀ c ∈ digits text, ∃ d, IsDigit 16 c d) ∧ (digits text).length = 2 * bs.length := by
  intro h
  have hread : ofText "+f" = .ok [0x0F] := by decide +kernel
  have hplus : '+' ∈ digits "+f" := by decide +kernel
  obtain ⟨d, hd⟩ := (h _ _ hread).1 '+' hplus
  exact not_isDigit_plus (Nat.le_refl 16) hd

end FrameLink.HexDump
