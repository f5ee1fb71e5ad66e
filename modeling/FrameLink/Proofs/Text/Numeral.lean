import Mathlib.Data.Bool.AllAny
import Mathlib.Data.List.Forall2
import Mathlib.Data.Nat.Digits.Defs
import Mathlib.Tactic.IntervalCases
import Mathlib.Tactic.Ring
import FrameLink.Text.Numeral

/-!
Numerals as a language.

A digit is one of the characters of its radix, and a letter may be small or capital. One digit or
more spell the number that they are to the base of the radix, and a plus sign may stand in front
of them. A numeral is read as a number exactly if it spells that number and the limit admits it;
leading zeros change nothing.
-/

namespace FrameLink.Numeral

/-- The character stands for `d` among the digits of a radix, which is sixteen at most. -/
def IsDigit (radix : Nat) (c : Char) (d : Nat) : Prop :=
  d < radix ∧ (c = d.digitChar ∨ c = d.digitChar.toUpper)

instance (radix : Nat) (c : Char) (d : Nat) : Decidable (IsDigit radix c d) :=
  inferInstanceAs (Decidable (_ ∧ _))

/-- The characters that are digits of a radix. -/
def digitChars (radix : Nat) : List Char :=
  (List.range radix).flatMap fun d => [d.digitChar, d.digitChar.toUpper]

/-- The characters are digits, and `v` is their number to the base of the radix. -/
def Digits (radix : Nat) (cs : List Char) (v : Nat) : Prop :=
  ∃ ds, List.Forall₂ (IsDigit radix) cs ds ∧ Nat.ofDigits radix ds.reverse = v

/-- One digit or more that spell `v`, with or without a plus sign in front. -/
def Spells (radix : Nat) (cs : List Char) (v : Nat) : Prop :=
  ∃ sign digits, cs = sign ++ digits ∧ (sign = [] ∨ sign = ['+']) ∧ digits ≠ [] ∧
    Digits radix digits v

variable {radix limit d v w : Nat} {c : Char} {cs : List Char}

/-! ### Digits -/

lemma char_le_iff {a b : Char} : a ≤ b ↔ a.toNat ≤ b.toNat := by
  rw [Char.le_def, UInt32.le_iff_toNat_le]
  rfl

lemma eq_ofNat {n : Nat} (h : c.toNat = n) : c = Char.ofNat n := by
  rw [← h, Char.ofNat_toNat]

/-- The three ranges of digits begin at these code points. -/
lemma ofNat_digit : (∀ d < 10, Char.ofNat (48 + d) = d.digitChar) ∧
    (∀ d < 16, 10 ≤ d → Char.ofNat (87 + d) = d.digitChar) ∧
    ∀ d < 16, 10 ≤ d → Char.ofNat (55 + d) = d.digitChar.toUpper := by
  decide

/-- The three ranges of digits, as long as no letter behind `f` is one. -/
lemma digit_in_range (hd : d < 16) :
    (if '0' ≤ c ∧ c ≤ '9' then some (c.toNat - '0'.toNat)
      else if 'a' ≤ c ∧ c ≤ 'z' then some (c.toNat - 'a'.toNat + 10)
      else if 'A' ≤ c ∧ c ≤ 'Z' then some (c.toNat - 'A'.toNat + 10)
      else none) = some d ↔ c = d.digitChar ∨ c = d.digitChar.toUpper := by
  constructor
  · intro h
    simp only [char_le_iff, Char.reduceToNat] at h
    split_ifs at h with h09 haz hAZ
    · have hc : c.toNat = 48 + d := by grind
      exact Or.inl ((eq_ofNat hc).trans (ofNat_digit.1 d (by omega)))
    · have hc : c.toNat = 87 + d := by grind
      exact Or.inl ((eq_ofNat hc).trans (ofNat_digit.2.1 d hd (by omega)))
    · have hc : c.toNat = 55 + d := by grind
      exact Or.inr ((eq_ofNat hc).trans (ofNat_digit.2.2 d hd (by omega)))
  · intro h
    interval_cases d <;> rcases h with rfl | rfl <;> rfl

lemma digit?_eq_some_iff (hr : radix ≤ 16) : digit? radix c = some d ↔ IsDigit radix c d := by
  simp only [digit?, Option.filter_eq_some_iff, decide_eq_true_eq, IsDigit,
    and_comm (b := d < radix)]
  exact and_congr_right fun hd => digit_in_range (by omega)

lemma IsDigit.unique {e : Nat} (hr : radix ≤ 16) (hd : IsDigit radix c d) (he : IsDigit radix c e) :
    d = e :=
  Option.some.inj (((digit?_eq_some_iff hr).mpr hd).symm.trans ((digit?_eq_some_iff hr).mpr he))

lemma IsDigit.mem (h : IsDigit radix c d) : c ∈ digitChars radix :=
  List.mem_flatMap.mpr ⟨d, List.mem_range.mpr h.1, by simpa using h.2⟩

/-! ### Numbers -/

lemma continue?_eq_some_iff (hr : radix ≤ 16) {acc : Nat} : continue? radix acc cs = some v ↔
    ∃ ds, List.Forall₂ (IsDigit radix) cs ds ∧
      acc * radix ^ cs.length + Nat.ofDigits radix ds.reverse = v := by
  induction cs generalizing acc with
  | nil => simp [continue?]
  | cons c cs ih =>
    simp only [continue?, List.forall₂_cons_left_iff, List.length_cons]
    cases hc : digit? radix c with
    | none =>
      have hno (d : Nat) : ¬ IsDigit radix c d := by
        rw [← digit?_eq_some_iff hr, hc]
        simp
      simp [hno]
    | some d =>
      have hd : IsDigit radix c d := (digit?_eq_some_iff hr).mp hc
      have hvalue (ds : List Nat) (h : cs.length = ds.length) :
          acc * radix ^ (cs.length + 1) + Nat.ofDigits radix (d :: ds).reverse =
            (acc * radix + d) * radix ^ cs.length + Nat.ofDigits radix ds.reverse := by
        rw [List.reverse_cons, Nat.ofDigits_append, Nat.ofDigits_singleton, List.length_reverse,
          ← h]
        ring
      simp only [ih]
      constructor
      · rintro ⟨ds, hds, hv⟩
        exact ⟨d :: ds, ⟨d, ds, hd, hds, rfl⟩, (hvalue ds hds.length_eq).trans hv⟩
      · rintro ⟨_, ⟨e, ds, he, hds, rfl⟩, hv⟩
        obtain rfl := hd.unique hr he
        exact ⟨ds, hds, (hvalue ds hds.length_eq).symm.trans hv⟩

lemma digits?_eq_some_iff (hr : radix ≤ 16) :
    digits? radix cs = some v ↔ cs ≠ [] ∧ Digits radix cs v := by
  cases cs with
  | nil => simp [digits?]
  | cons c cs => simp [digits?, continue?_eq_some_iff hr, Digits]

/-- A plus sign is no digit. -/
lemma not_isDigit_plus (hr : radix ≤ 16) : ¬ IsDigit radix '+' d := by
  rw [← digit?_eq_some_iff hr]
  simp [digit?]

/-- **A numeral is read as the number that it spells**, if the limit admits that. -/
lemma unsigned?_eq_some_iff (hr : radix ≤ 16) :
    unsigned? radix limit cs = some v ↔ Spells radix cs v ∧ v ≤ limit := by
  simp only [unsigned?, Option.filter_eq_some_iff, decide_eq_true_eq, digits?_eq_some_iff hr]
  refine and_congr_left fun _ => ?_
  split
  · next rest =>
    constructor
    · rintro ⟨hne, hds⟩
      exact ⟨['+'], rest, rfl, Or.inr rfl, hne, hds⟩
    · rintro ⟨sign, digits, hcs, rfl | rfl, hne, hds⟩
      · obtain ⟨ds, hall, -⟩ := hds
        rw [List.nil_append] at hcs
        subst hcs
        obtain ⟨d, -, hd, -, -⟩ := List.forall₂_cons_left_iff.mp hall
        exact absurd hd (not_isDigit_plus hr)
      · obtain rfl : rest = digits := List.cons.inj hcs |>.2
        exact ⟨hne, hds⟩
  · next hplus =>
    constructor
    · rintro ⟨hne, hds⟩
      exact ⟨[], cs, rfl, Or.inl rfl, hne, hds⟩
    · rintro ⟨sign, digits, rfl, rfl | rfl, hne, hds⟩
      · exact ⟨hne, hds⟩
      · exact absurd rfl (hplus digits)

/-- A numeral that is read as a byte. -/
lemma byte?_eq_some_iff (hr : radix ≤ 16) {x : UInt8} :
    (unsigned? radix 255 cs).map UInt8.ofNat = some x ↔ Spells radix cs x.toNat := by
  simp only [Option.map_eq_some_iff, unsigned?_eq_some_iff hr]
  constructor
  · rintro ⟨v, ⟨hv, hle⟩, rfl⟩
    rwa [UInt8.toNat_ofNat_of_lt' (Nat.lt_succ_of_le hle)]
  · intro h
    exact ⟨x.toNat, ⟨h, Nat.le_of_lt_succ x.toNat_lt⟩, UInt8.ofNat_toNat⟩

lemma Spells.unique (hr : radix ≤ 16) (hv : Spells radix cs v) (hw : Spells radix cs w) :
    v = w := by
  have read (u : Nat) (hu : Spells radix cs u) (hle : u ≤ v + w) :
      unsigned? radix (v + w) cs = some u := (unsigned?_eq_some_iff hr).mpr ⟨hu, hle⟩
  exact Option.some.inj ((read v hv (by omega)).symm.trans (read w hw (by omega)))

/-- The characters of a numeral. -/
lemma Spells.mem (h : Spells radix cs v) : ∀ c ∈ cs, c ∈ '+' :: digitChars radix := by
  obtain ⟨sign, digits, rfl, hsign, -, ds, hall, -⟩ := h
  intro c hc
  rcases List.mem_append.mp hc with hc | hc
  · rcases hsign with rfl | rfl
    · simp at hc
    · exact List.mem_cons.mpr (Or.inl (List.mem_singleton.mp hc))
  · obtain ⟨i, hi, rfl⟩ := List.getElem_of_mem hc
    exact List.mem_cons_of_mem _ (hall.get hi (hall.length_eq ▸ hi)).mem

/-- A numeral is in ASCII. -/
lemma Spells.ascii (hr : radix ≤ 16) (h : Spells radix cs v) (hc : c ∈ cs) : c.toNat < 0x80 := by
  have hall : ∀ c ∈ '+' :: digitChars 16, c.toNat < 0x80 :=
    List.all_iff_forall_prop.mp (by decide)
  have hsub : digitChars radix ⊆ digitChars 16 := by
    intro c hc
    obtain ⟨d, hd, hc⟩ := List.mem_flatMap.mp hc
    exact List.mem_flatMap.mpr ⟨d, List.range_subset.mpr hr hd, hc⟩
  exact hall c (List.cons_subset_cons '+' hsub (h.mem c hc))

lemma Spells.ne_nil (h : Spells radix cs v) : cs ≠ [] := by
  obtain ⟨sign, digits, rfl, -, hne, -⟩ := h
  simp [hne]

end FrameLink.Numeral
