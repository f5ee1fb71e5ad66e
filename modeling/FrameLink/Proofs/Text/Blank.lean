import Mathlib.Data.List.DropRight
import FrameLink.Text.Blank

/-!
What is taken off the two ends of a text.

Trimming takes white space off both ends and nothing else, so a text is its trimmed part between two
runs of white space. An ending and a beginning are taken off exactly where they stand.
-/

namespace FrameLink.Text

variable {front back cs start ending number : List Char} {c : Char}

/-- Nothing but white space. -/
def Blank (cs : List Char) : Prop := ∀ c ∈ cs, isBlank c = true

instance : Decidable (Blank cs) := decidable_of_iff (cs.all isBlank = true) List.all_eq_true

lemma trim_eq (cs : List Char) : trim cs = (cs.dropWhile isBlank).rdropWhile isBlank := rfl

/-- A text is its trimmed part between white space. -/
lemma exists_around (cs : List Char) :
    ∃ front back, Blank front ∧ Blank back ∧ cs = front ++ trim cs ++ back := by
  refine ⟨cs.takeWhile isBlank, (cs.dropWhile isBlank).rtakeWhile isBlank,
    fun c hc => List.mem_takeWhile_imp hc, fun c hc => List.mem_rtakeWhile_imp hc, ?_⟩
  rw [trim_eq, List.append_assoc, List.rdropWhile_append_rtakeWhile,
    List.takeWhile_append_dropWhile]

lemma trim_append_left (h : Blank front) : trim (front ++ cs) = trim cs := by
  rw [trim_eq, trim_eq, List.dropWhile_append_of_pos h]

lemma trim_append_right (h : Blank back) : trim (cs ++ back) = trim cs := by
  have hback : back.dropWhile isBlank = [] := List.dropWhile_eq_nil_iff.mpr h
  rw [trim_eq, trim_eq, List.dropWhile_append]
  split
  · next hnil => rw [hback, List.isEmpty_iff.mp hnil]
  · simp only [List.rdropWhile, List.reverse_append]
    rw [List.dropWhile_append_of_pos fun c hc => h c (List.mem_reverse.mp hc)]

/-- What begins with a mark of two characters keeps it. -/
lemma trim_mark (c₁ c₂ : Char) (h₁ : isBlank c₁ = false) (h₂ : isBlank c₂ = false)
    (cs : List Char) : ∃ rest back, trim (c₁ :: c₂ :: cs) = c₁ :: c₂ :: rest ∧
      cs = rest ++ back ∧ Blank back := by
  obtain ⟨front, back, hfront, hback, h⟩ := exists_around (c₁ :: c₂ :: cs)
  cases front with
  | cons c front =>
    obtain rfl := (List.cons.inj h).1
    simp [hfront c₁] at h₁
  | nil =>
    match ht : trim (c₁ :: c₂ :: cs) with
    | [] =>
      have hback' : c₁ :: c₂ :: cs = back := by simpa [ht] using h
      have hblank := hback c₁ (hback' ▸ List.mem_cons_self)
      simp [hblank] at h₁
    | [_] =>
      rw [ht] at h
      obtain rfl : c₂ :: cs = back := (List.cons.inj h).2
      simp [hback c₂] at h₂
    | _ :: _ :: rest =>
      rw [ht] at h
      simp only [List.nil_append, List.cons_append, List.cons.injEq] at h
      obtain ⟨rfl, rfl, rfl⟩ := h
      exact ⟨rest, back, rfl, rfl, hback⟩

lemma Blank.filter {p : Char → Bool} (hp : ∀ c, isBlank c = true → p c = false) (h : Blank cs) :
    cs.filter p = [] :=
  List.filter_eq_nil_iff.mpr fun c hc => by simp [hp c (h c hc)]

/-- A filter that lets no white space pass does not see that a text is trimmed. -/
lemma filter_trim {p : Char → Bool} (hp : ∀ c, isBlank c = true → p c = false) (cs : List Char) :
    (trim cs).filter p = cs.filter p := by
  obtain ⟨front, back, hfront, hback, hcs⟩ := exists_around cs
  conv_rhs => rw [hcs, List.filter_append, List.filter_append, hfront.filter hp, hback.filter hp]
  simp

lemma mem_of_mem_trim (h : c ∈ trim cs) : c ∈ cs := by
  obtain ⟨front, back, -, -, hcs⟩ := exists_around cs
  rw [hcs]
  simp [h]

lemma beforeEnd?_eq_some_iff : beforeEnd? ending cs = some number ↔ cs = number ++ ending := by
  simp only [beforeEnd?]
  constructor
  · intro h
    split_ifs at h with hend
    obtain rfl := Option.some.inj h
    conv_lhs => rw [← List.take_append_drop (cs.length - ending.length) cs, hend]
  · rintro rfl
    simp

lemma startsWith_iff : StartsWith start cs ↔ start <+: cs := by
  rw [StartsWith, List.prefix_iff_eq_take, eq_comm]

lemma dropStarts_of_not (h : ¬ start <+: cs) : dropStarts start cs = cs := by
  rw [dropStarts, dif_neg]
  exact fun hs => h (startsWith_iff.mp hs.1)

lemma dropStarts_append (h : start ≠ []) :
    dropStarts start (start ++ cs) = dropStarts start cs := by
  rw [dropStarts, dif_pos ⟨startsWith_iff.mpr (List.prefix_append _ _), h⟩, List.drop_left]

end FrameLink.Text
