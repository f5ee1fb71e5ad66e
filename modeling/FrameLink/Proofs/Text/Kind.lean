import FrameLink.Kind
import FrameLink.Proofs.Text.Blank
import FrameLink.Proofs.Text.Numeral

/-!
The kinds that a text can mean.

A trimmed text is a hexadecimal number behind a mark, or a decimal number, or a name, and these are
tried in turn. Behind a mark nothing but a number will do; a text that is no decimal number of a
byte may still be a name, but no name looks like a number.
-/

namespace FrameLink.Kind

open Numeral Text

variable {text : String} {cs rest : List Char} {c : Char} {k : Kind} {v : Nat}

/-- The text begins as a hexadecimal number does, and goes on with `rest`. -/
def Marked (cs rest : List Char) : Prop := cs = '0' :: 'x' :: rest ∨ cs = '0' :: 'X' :: rest

lemma Marked.mem (h : Marked cs rest) (hc : c ∈ cs) : c ∈ ['0', 'x', 'X'] ∨ c ∈ rest := by
  rcases h with rfl | rfl <;> simp only [List.mem_cons] at hc ⊢ <;> tauto

/-! ### Names -/

lemma name_eq_getElem {i : Nat} (hi : i < names.length) :
    name (UInt8.ofNat (i + 1)) = names[i] := by
  have hlt : i + 1 < UInt8.size := Nat.lt_of_le_of_lt hi (by decide)
  have hne : UInt8.ofNat (i + 1) ≠ 0 := by
    intro h
    have := congrArg UInt8.toNat h
    rw [UInt8.toNat_ofNat_of_lt' hlt] at this
    simp at this
  rw [name, if_neg hne, UInt8.toNat_ofNat_of_lt' hlt, Nat.add_sub_cancel]
  simp [hi]

/-- Of the kinds with one name the lowest is an assigned one or the first reserved one. -/
lemma lowest_iff : ∀ i : Fin names.length, (∀ j : Fin names.length, j < i → names[j] ≠ names[i]) ↔
    (i : Nat) < 20 := by
  decide

/-- A name means the lowest kind that has it, which is an assigned one or the first reserved one. -/
lemma ofName?_eq_some_iff :
    ofName? cs = some k ↔ 1 ≤ k.toNat ∧ k.toNat ≤ 0x14 ∧ cs = k.name.toList := by
  simp only [ofName?, Option.map_eq_some_iff, List.findIdx?_eq_some_iff_getElem, decide_eq_true_eq]
  constructor
  · rintro ⟨i, ⟨hi, rfl, hfirst⟩, rfl⟩
    have hlow : i < 20 :=
      (lowest_iff ⟨i, hi⟩).mp fun j hj h => hfirst j hj (congrArg String.toList h)
    have hlt : i + 1 < UInt8.size := Nat.lt_of_le_of_lt hi (by decide)
    rw [name_eq_getElem hi, UInt8.toNat_ofNat_of_lt' hlt]
    exact ⟨by omega, by omega, rfl⟩
  · rintro ⟨hone, hhigh, rfl⟩
    obtain ⟨i, hi⟩ : ∃ i, k.toNat = i + 1 := ⟨k.toNat - 1, by omega⟩
    obtain rfl : UInt8.ofNat (i + 1) = k := by rw [← hi, UInt8.ofNat_toNat]
    have hlow : i < 20 := by omega
    have hlt : i < names.length := Nat.lt_of_lt_of_le hlow (by decide)
    rw [name_eq_getElem hlt]
    refine ⟨i, ⟨hlt, rfl, fun j hj h => ?_⟩, rfl⟩
    exact (lowest_iff ⟨i, hlt⟩).mpr hlow ⟨j, hj.trans hlt⟩ hj (String.toList_inj.mp h)

/-- Names are spelled in capitals, with underscores only between them. -/
lemma name_chars (hone : 1 ≤ k.toNat) (hhigh : k.toNat ≤ 0x14) :
    k.name.toList.head? ≠ some '_' ∧ k.name ≠ "UNKNOWN" ∧
      ∀ c ∈ k.name.toList, 'A' ≤ c ∧ c.toNat < 0x80 := by
  have hall : ∀ n < 0x15, 1 ≤ n → (name (UInt8.ofNat n)).toList.head? ≠ some '_' ∧
      name (UInt8.ofNat n) ≠ "UNKNOWN" ∧
      (name (UInt8.ofNat n)).toList.all fun c => 'A' ≤ c ∧ c.toNat < 0x80 := by
    decide
  have hk := hall k.toNat (by omega) hone
  rwa [UInt8.ofNat_toNat, List.all_iff_forall_prop] at hk

/-- The first reserved kind is the only one of a name that is not assigned. -/
lemma name_iff_assigned : (1 ≤ k.toNat ∧ k.toNat ≤ 0x14 ∧ cs = k.name.toList) ↔
    (1 ≤ k.toNat ∧ k.toNat ≤ 0x13 ∧ cs = k.name.toList) ∨ k = 0x14 ∧ cs = "RESERVED".toList := by
  constructor
  · rintro ⟨hone, hhigh, hname⟩
    by_cases hassigned : k.toNat ≤ 0x13
    · exact Or.inl ⟨hone, hassigned, hname⟩
    · obtain rfl : k = 0x14 :=
        UInt8.toNat_inj.mp (Nat.le_antisymm hhigh (Nat.lt_of_not_le hassigned))
      exact Or.inr ⟨rfl, hname⟩
  · rintro (⟨hone, hassigned, hname⟩ | ⟨rfl, hname⟩)
    · exact ⟨hone, by omega, hname⟩
    · exact ⟨by decide, by decide, hname⟩

/-! ### The three readings -/

lemma ofText?_of_not_marked (h : ∀ rest, ¬ Marked (trim text.toList) rest) :
    ofText? text = match unsigned? 10 255 (trim text.toList) with
      | some n => some (UInt8.ofNat n)
      | none => ofName? (capitalName (trim text.toList)) := by
  unfold ofText?
  dsimp only
  split
  · next rest ht => exact absurd (Or.inl ht) (h rest)
  · next rest ht => exact absurd (Or.inr ht) (h rest)
  · rfl

lemma marked_iff (h : Marked (trim text.toList) rest) :
    ofText? text = some k ↔ Spells 16 rest k.toNat := by
  rw [← byte?_eq_some_iff (Nat.le_refl 16)]
  rcases h with h | h <;> simp only [ofText?, h]

lemma decimal_of_spells (h : ∀ rest, ¬ Marked (trim text.toList) rest)
    (hk : Spells 10 (trim text.toList) k.toNat) : ofText? text = some k := by
  have hread : unsigned? 10 255 (trim text.toList) = some k.toNat :=
    (unsigned?_eq_some_iff (by decide)).mpr ⟨hk, Nat.le_of_lt_succ k.toNat_lt⟩
  simp [ofText?_of_not_marked h, hread]

lemma name_iff (h : ∀ rest, ¬ Marked (trim text.toList) rest)
    (hno : ∀ k : Kind, ¬ Spells 10 (trim text.toList) k.toNat) : ofText? text = some k ↔
      1 ≤ k.toNat ∧ k.toNat ≤ 0x14 ∧ capitalName (trim text.toList) = k.name.toList := by
  have hread : unsigned? 10 255 (trim text.toList) = none := by
    rw [Option.eq_none_iff_forall_ne_some]
    intro n hn
    obtain ⟨hspells, hle⟩ := (unsigned?_eq_some_iff (by decide)).mp hn
    refine hno (UInt8.ofNat n) ?_
    rwa [UInt8.toNat_ofNat_of_lt' (Nat.lt_succ_of_le hle)]
  simp only [ofText?_of_not_marked h, hread, ofName?_eq_some_iff]

/-- A text that is neither a numeral of a byte nor a name means no kind. -/
lemma ofText?_eq_none
    (hmarked : ∀ rest, Marked (trim text.toList) rest → ∀ k : Kind, ¬ Spells 16 rest k.toNat)
    (hdecimal : ∀ k : Kind, ¬ Spells 10 (trim text.toList) k.toNat)
    (hname : ∀ k : Kind, 1 ≤ k.toNat → k.toNat ≤ 0x14 →
      capitalName (trim text.toList) ≠ k.name.toList) : ofText? text = none := by
  rw [Option.eq_none_iff_forall_ne_some]
  intro k hk
  by_cases hm : ∃ rest, Marked (trim text.toList) rest
  · obtain ⟨rest, hrest⟩ := hm
    exact hmarked rest hrest k ((marked_iff hrest).mp hk)
  · obtain ⟨hone, hhigh, hk⟩ := (name_iff (not_exists.mp hm) hdecimal).mp hk
    exact hname k hone hhigh hk

/-! ### What means no kind -/

lemma toUpper_of_not_ascii (h : 0x80 ≤ c.toNat) : c.toUpper = c := by
  refine dif_neg fun hletter => ?_
  have hle : c.toNat ≤ 122 := UInt32.le_iff_toNat_le.mp hletter.2
  omega

/-- What is not in ASCII stays as it is in capitals. -/
lemma mem_capitalName_of_not_ascii (hc : c ∈ cs) (h : 0x80 ≤ c.toNat) : c ∈ capitalName cs := by
  have hdash : c ≠ '-' := by
    rintro rfl
    exact absurd h (by decide)
  have hmem : (if c = '-' then '_' else c.toUpper) ∈ capitalName cs := List.mem_map_of_mem hc
  rwa [if_neg hdash, toUpper_of_not_ascii h] at hmem

/-- No decimal numeral is spelled in capitals. -/
lemma not_spells_of_capitals (h : ∀ c ∈ capitalName cs, 'A' ≤ c) : ¬ Spells 10 cs v := by
  intro hv
  obtain ⟨c, tail, rfl⟩ := List.exists_cons_of_ne_nil hv.ne_nil
  have hnone : ∀ c ∈ '+' :: digitChars 10, ¬ 'A' ≤ (if c = '-' then '_' else c.toUpper) :=
    List.all_iff_forall_prop.mp (by decide)
  exact hnone c (hv.mem c List.mem_cons_self) (h _ (List.mem_map_of_mem List.mem_cons_self))

lemma ofText?_of_not_ascii (hc : c ∈ trim text.toList) (h : 0x80 ≤ c.toNat) :
    ofText? text = none := by
  refine ofText?_eq_none ?marked ?decimal ?name
  case marked =>
    intro rest hmark k hrest
    have hascii : ∀ c ∈ ['0', 'x', 'X'], c.toNat < 0x80 := List.all_iff_forall_prop.mp (by decide)
    rcases hmark.mem hc with hc | hc
    · exact absurd (hascii c hc) (Nat.not_lt.mpr h)
    · exact absurd (hrest.ascii (Nat.le_refl 16) hc) (Nat.not_lt.mpr h)
  case decimal => exact fun k hk => absurd (hk.ascii (by decide) hc) (Nat.not_lt.mpr h)
  case name =>
    intro k hone hhigh hk
    have hmem : c ∈ k.name.toList := hk ▸ mem_capitalName_of_not_ascii hc h
    exact absurd ((name_chars hone hhigh).2.2 c hmem).2 (Nat.not_lt.mpr h)

lemma ofText?_of_minus (h : trim text.toList = '-' :: rest) : ofText? text = none := by
  refine ofText?_eq_none ?marked ?decimal ?name
  case marked => rintro rest (hmark | hmark) <;> simp [h] at hmark
  case decimal => exact fun k hk => absurd (hk.mem '-' (by simp [h])) (by decide)
  case name =>
    intro k hone hhigh hk
    refine (name_chars hone hhigh).1 ?_
    rw [← hk, h]
    rfl

lemma ofText?_of_unknown (h : capitalName (trim text.toList) = "UNKNOWN".toList) :
    ofText? text = none := by
  refine ofText?_eq_none ?marked ?decimal ?name
  case marked => rintro rest (hmark | hmark) <;> simp [hmark, capitalName] at h
  case decimal =>
    refine fun k => not_spells_of_capitals ?_
    rw [h]
    exact List.all_iff_forall_prop.mp (by decide)
  case name =>
    exact fun k hone hhigh hk =>
      (name_chars hone hhigh).2.1 (String.toList_inj.mp (hk.symm.trans h))

lemma ofText?_of_large (hv : 255 < v) (h : Spells 10 (trim text.toList) v) :
    ofText? text = none := by
  refine ofText?_eq_none ?marked ?decimal ?name
  case marked =>
    -- the letter of the mark is no decimal digit
    rintro rest (hmark | hmark)
    · exact absurd (h.mem 'x' (by simp [hmark])) (by decide)
    · exact absurd (h.mem 'X' (by simp [hmark])) (by decide)
  case decimal =>
    intro k hk
    have := k.toNat_lt
    have := hk.unique (by decide) h
    omega
  case name =>
    exact fun k hone hhigh hk =>
      not_spells_of_capitals (fun c hc => ((name_chars hone hhigh).2.2 c (hk ▸ hc)).1) h

lemma ofText?_of_large_marked (hv : 255 < v) (h : Spells 16 rest v)
    (hmark : Marked (trim text.toList) rest) : ofText? text = none := by
  rw [Option.eq_none_iff_forall_ne_some]
  intro k hk
  have := k.toNat_lt
  have := ((marked_iff hmark).mp hk).unique (Nat.le_refl 16) h
  omega

/-- **Which texts mean a kind, and which one.** Once trimmed, a text behind the mark `0x` or `0X`
means the kind that it spells as a hexadecimal numeral, and otherwise nothing. A decimal numeral of
a byte means that kind. What is neither means the assigned kind of that name, with dashes for
underscores and in any case, or the lowest reserved one. So nothing is meant by the name of the
unknown kinds, by numbers with a minus sign or above a byte, or by letters and digits that are not
those of ASCII. -/
theorem reads_exactly_kinds (text : String) :
    let t := trim text.toList
    (∀ rest, Marked t rest → ∀ k, ofText? text = some k ↔ Spells 16 rest k.toNat) ∧
    ((∀ rest, ¬ Marked t rest) → ∀ k : Kind, Spells 10 t k.toNat → ofText? text = some k) ∧
    ((∀ rest, ¬ Marked t rest) → (∀ k : Kind, ¬ Spells 10 t k.toNat) → ∀ k,
      ofText? text = some k ↔ (1 ≤ k.toNat ∧ k.toNat ≤ 0x13 ∧ capitalName t = k.name.toList) ∨
        k = 0x14 ∧ capitalName t = "RESERVED".toList) ∧
    (capitalName t = "UNKNOWN".toList → ofText? text = none) ∧
    (∀ rest, t = '-' :: rest → ofText? text = none) ∧
    (∀ v > 255, Spells 10 t v → ofText? text = none) ∧
    (∀ v > 255, ∀ rest, Marked t rest → Spells 16 rest v → ofText? text = none) ∧
    (∀ c ∈ t, 0x80 ≤ c.toNat → ofText? text = none) := by
  intro t
  exact ⟨fun rest hmark k => marked_iff hmark, fun hm k hk => decimal_of_spells hm hk,
    fun hm hno k => (name_iff hm hno).trans name_iff_assigned, ofText?_of_unknown,
    fun rest h => ofText?_of_minus h, fun v hv h => ofText?_of_large hv h,
    fun v hv rest hmark h => ofText?_of_large_marked hv h hmark,
    fun c hc h => ofText?_of_not_ascii hc h⟩

end FrameLink.Kind
