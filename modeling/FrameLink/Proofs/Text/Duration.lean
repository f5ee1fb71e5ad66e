import FrameLink.Console.Failure
import FrameLink.Proofs.Text.Blank
import FrameLink.Proofs.Text.Numeral
import FrameLink.Text.InPlace

/-!
Spans of time as a language.

A span is written as a decimal numeral and perhaps a unit, and lasts so many of the unit. The unit
is taken off the end first, the longer one before the shorter; as no numeral ends in a letter, the
text can be split in one way only. In machine words a span is worked out exactly, however large its
number is.
-/

namespace FrameLink

open Numeral Text

/-- What is written behind a number of the unit; seconds are meant where nothing is. -/
def TimeUnit.Ending : TimeUnit → List Char → Prop
  | .seconds, ending => ending = [] ∨ ending = ['s']
  | .millis, ending => ending = ['m', 's']

/-- The span lasts `v` of the unit, seconds and nanoseconds taken together. -/
def Span.Lasts (s : Span) (v : Nat) : TimeUnit → Prop
  | .seconds => s.seconds.toNat = v ∧ s.nanos.toNat = 0
  | .millis => s.seconds.toNat = v / 1000 ∧ s.nanos.toNat = v % 1000 * 1000000

namespace Duration

variable {cs number ending : List Char} {unit : TimeUnit} {v : Nat} {d : Duration} {s : Span}

/-- A number `v` and what stands for the unit behind it. -/
def Spelled (cs : List Char) (v : Nat) (unit : TimeUnit) : Prop :=
  ∃ number ending, cs = number ++ ending ∧ Spells 10 number v ∧ unit.Ending ending

/-- The same span in machine words. -/
def span (d : Duration) : Span := ⟨UInt64.ofNat d.seconds, UInt32.ofNat d.nanos⟩

/-! ### The unit -/

lemma not_mem_of_spells (h : Spells 10 number v) : 'm' ∉ number ∧ 's' ∉ number :=
  ⟨fun hm => absurd (h.mem 'm' hm) (by decide), fun hs => absurd (h.mem 's' hs) (by decide)⟩

lemma exists_ending (cs : List Char) :
    ∃ ending, cs = (splitUnit cs).1 ++ ending ∧ (splitUnit cs).2.Ending ending := by
  unfold splitUnit
  cases hms : beforeEnd? ['m', 's'] cs with
  | some number => exact ⟨_, beforeEnd?_eq_some_iff.mp hms, rfl⟩
  | none =>
    cases hs : beforeEnd? ['s'] cs with
    | some number => exact ⟨_, beforeEnd?_eq_some_iff.mp hs, Or.inr rfl⟩
    | none => exact ⟨[], (List.append_nil cs).symm, Or.inl rfl⟩

lemma splitUnit_of_spells (h : Spells 10 number v) (hunit : unit.Ending ending) :
    splitUnit (number ++ ending) = (number, unit) := by
  obtain ⟨hm, hs⟩ := not_mem_of_spells h
  have hnone (ending' : List Char) (hne : ∀ n, number ++ ending ≠ n ++ ending') :
      beforeEnd? ending' (number ++ ending) = none :=
    Option.eq_none_iff_forall_ne_some.mpr fun n hn => hne n (beforeEnd?_eq_some_iff.mp hn)
  cases unit with
  | millis =>
    obtain rfl : ending = ['m', 's'] := hunit
    simp [splitUnit, beforeEnd?_eq_some_iff.mpr (rfl : number ++ ['m', 's'] = _)]
  | seconds =>
    rcases hunit with rfl | rfl
    · have hlong := hnone ['m', 's'] fun n hn => hs (by simp_all)
      have hshort := hnone ['s'] fun n hn => hs (by simp_all)
      simp_all [splitUnit]
    · have hlong := hnone ['m', 's'] fun n hn => by
        have hnumber : number = n ++ ['m'] :=
          List.append_cancel_right (show number ++ ['s'] = n ++ ['m'] ++ ['s'] by simpa using hn)
        exact hm (by simp [hnumber])
      simp [splitUnit, hlong, beforeEnd?_eq_some_iff.mpr (rfl : number ++ ['s'] = _)]

/-- The number of a text and its unit. -/
lemma spelled_iff : Spelled cs v unit ↔ Spells 10 (splitUnit cs).1 v ∧ (splitUnit cs).2 = unit := by
  constructor
  · rintro ⟨number, ending, rfl, hnumber, hunit⟩
    simp [splitUnit_of_spells hnumber hunit, hnumber]
  · rintro ⟨hnumber, rfl⟩
    obtain ⟨ending, hcs, hunit⟩ := exists_ending cs
    exact ⟨_, ending, hcs, hnumber, hunit⟩

lemma Spelled.ne_nil (h : Spelled cs v unit) : cs ≠ [] := by
  obtain ⟨number, ending, rfl, hnumber, -⟩ := h
  simp [hnumber.ne_nil]

/-! ### Reading -/

/-- The text is a span that has a length, and whose number fits a word. -/
def Writes (text : String) (v : Nat) (unit : TimeUnit) : Prop :=
  Spelled (trim text.toList) v unit ∧ 1 ≤ v ∧ v ≤ 2 ^ 64 - 1

lemma number_of_writes {text : String} (h : Writes text v unit) :
    unsigned? 10 maxNumber (splitUnit (trim text.toList)).1 = some v ∧
      (splitUnit (trim text.toList)).2 = unit := by
  obtain ⟨hnumber, hunit⟩ := spelled_iff.mp h.1
  exact ⟨(unsigned?_eq_some_iff (by decide)).mpr ⟨hnumber, h.2.2⟩, hunit⟩

lemma toNat_word (hv : v ≤ maxNumber) : (UInt64.ofNat v).toNat = v :=
  UInt64.toNat_ofNat_of_lt' (Nat.lt_succ_of_le hv)

lemma read_of_writes {text : String} (h : Writes text v unit) :
    ofText text = .ok (of v unit) ∧ Span.ofText text = .ok (Span.of (UInt64.ofNat v) unit) := by
  obtain ⟨hnumber, hunit⟩ := number_of_writes h
  obtain ⟨hspelled, hone, hv⟩ := h
  obtain ⟨n, rfl⟩ : ∃ n, v = n + 1 := ⟨v - 1, by omega⟩
  have hne : UInt64.ofNat (n + 1) ≠ 0 := by
    intro hzero
    have := congrArg UInt64.toNat hzero
    rw [toNat_word hv] at this
    simp at this
  constructor
  · simp [ofText, ofTrimmed, hspelled.ne_nil, hnumber, hunit]
  · simp only [Span.ofText, if_neg hspelled.ne_nil, hnumber, hunit, if_neg hne]

lemma refused_of_not_writes {text : String} (h : ∀ v unit, ¬ Writes text v unit) :
    ∃ e, ofText text = .error e ∧ Span.ofText text = .error e := by
  by_cases hnil : trim text.toList = []
  · exact ⟨.empty, by simp [ofText, ofTrimmed, hnil], by simp [Span.ofText, hnil]⟩
  match hn : unsigned? 10 maxNumber (splitUnit (trim text.toList)).1 with
  | none =>
    exact ⟨.invalid (String.ofList (trim text.toList)), by simp [ofText, ofTrimmed, hnil, hn],
      by simp [Span.ofText, hnil, hn]⟩
  | some 0 =>
    exact ⟨.zero, by simp [ofText, ofTrimmed, hnil, hn], by simp [Span.ofText, hnil, hn]⟩
  | some (n + 1) =>
    obtain ⟨hnumber, hv⟩ := (unsigned?_eq_some_iff (by decide)).mp hn
    exact absurd ⟨spelled_iff.mpr ⟨hnumber, rfl⟩, by omega, hv⟩ (h (n + 1) _)

/-! ### Machine words -/

lemma lasts_of (hv : v ≤ maxNumber) (unit : TimeUnit) :
    (Span.of (UInt64.ofNat v) unit).Lasts v unit := by
  cases unit with
  | seconds => exact ⟨toNat_word hv, rfl⟩
  | millis =>
    have hrest : v % 1000 < 1000 := Nat.mod_lt _ (by decide)
    have hthousand : (1000 : UInt64).toNat = 1000 := rfl
    have hmillion : (1000000 : UInt32).toNat = 1000000 := rfl
    constructor
    · simp only [Span.of, UInt64.toNat_div, toNat_word hv, hthousand]
    · simp only [Span.of, UInt32.toNat_mul, UInt64.toNat_toUInt32, UInt64.toNat_mod, toNat_word hv,
        hthousand, hmillion]
      omega

lemma lasts_span (hv : v ≤ maxNumber) (unit : TimeUnit) : (of v unit).span.Lasts v unit := by
  have hword : v < 2 ^ 64 := Nat.lt_succ_of_le hv
  cases unit with
  | seconds =>
    constructor
    · simp only [span, of, seconds, UInt64.toNat_ofNat']
      omega
    · simp [span, of, nanos]
  | millis =>
    constructor
    · simp only [span, of, seconds, UInt64.toNat_ofNat']
      omega
    · simp only [span, of, nanos, UInt32.toNat_ofNat']
      omega

/-- What a span lasts leaves no choice of its words. -/
lemma lasts_unique {s s' : Span} (h : s.Lasts v unit) (h' : s'.Lasts v unit) : s = s' := by
  obtain ⟨seconds, nanos⟩ := s
  obtain ⟨seconds', nanos'⟩ := s'
  cases unit <;> obtain ⟨hs, hn⟩ := h <;> obtain ⟨hs', hn'⟩ := h' <;>
    simp_all [← UInt64.toNat_inj, ← UInt32.toNat_inj]

lemma span_ofText (text : String) : Span.ofText text = (ofText text).map span := by
  by_cases h : ∃ v unit, Writes text v unit
  · obtain ⟨v, unit, h⟩ := h
    obtain ⟨hspan, hwords⟩ := read_of_writes h
    rw [hspan, hwords, lasts_unique (lasts_of h.2.2 unit) (lasts_span h.2.2 unit)]
    rfl
  · obtain ⟨e, hspan, hwords⟩ := refused_of_not_writes (by simpa using h)
    rw [hspan, hwords]
    rfl

lemma ofText_eq_ok_iff {text : String} :
    ofText text = .ok d ↔ ∃ v unit, Writes text v unit ∧ d = of v unit := by
  constructor
  · intro hok
    by_cases h : ∃ v unit, Writes text v unit
    · obtain ⟨v, unit, h⟩ := h
      exact ⟨v, unit, h, Except.ok.inj (hok.symm.trans (read_of_writes h).1)⟩
    · obtain ⟨e, he, -⟩ := refused_of_not_writes (by simpa using h)
      simp [he] at hok
  · rintro ⟨v, unit, h, rfl⟩
    exact (read_of_writes h).1

lemma span_ofText_eq_ok_iff {text : String} {s : Span} :
    Span.ofText text = .ok s ↔ ∃ v unit, Writes text v unit ∧ s.Lasts v unit := by
  constructor
  · intro hok
    by_cases h : ∃ v unit, Writes text v unit
    · obtain ⟨v, unit, h⟩ := h
      obtain rfl := Except.ok.inj (hok.symm.trans (read_of_writes h).2)
      exact ⟨v, unit, h, lasts_of h.2.2 unit⟩
    · obtain ⟨e, -, he⟩ := refused_of_not_writes (by simpa using h)
      simp [he] at hok
  · rintro ⟨v, unit, h, hs⟩
    rw [(read_of_writes h).2, lasts_unique (lasts_of h.2.2 unit) hs]

/-- **Every span that is read is what it is written as.** A text is read, as a span or into machine
words, exactly if it is, between white space, one decimal digit or more, perhaps with a plus sign in
front, and perhaps a unit behind; and if the number is positive and fits a word. The span lasts
that number of seconds, or of milliseconds, and no word of it overflows. Whatever else there is is a
usage error. -/
theorem reads_exactly_spans (text : String) :
    (∀ d, ofText text = .ok d ↔ ∃ v unit, Writes text v unit ∧ d = of v unit) ∧
    (∀ s, Span.ofText text = .ok s ↔ ∃ v unit, Writes text v unit ∧ s.Lasts v unit) ∧
    Span.ofText text = (ofText text).map span ∧
    ((¬ ∃ v unit, Writes text v unit) → ∃ e, ofText text = .error e ∧ Span.ofText text = .error e ∧
      (Console.Failure.ofDuration e).code = 64) := by
  refine ⟨fun d => ofText_eq_ok_iff, fun s => span_ofText_eq_ok_iff, span_ofText text, fun h => ?_⟩
  obtain ⟨e, hspan, hwords⟩ := refused_of_not_writes (by simpa using h)
  exact ⟨e, hspan, hwords, rfl⟩

end Duration

end FrameLink
