import FrameLink.Text.Duration
import FrameLink.Text.HexDump

/-!
Texts read in place.

A text is cut at offsets that count its bytes; where a cut would go through a character, or beyond
the end, there is no piece. A span of time is worked out in the machine words that hold it.
-/

namespace FrameLink

namespace Text

open HexDump

/-- The characters that fill the first `n` bytes, and those behind them. -/
def splitBytes? : Nat → List Char → Option (List Char × List Char)
  | 0, cs => some ([], cs)
  | _ + 1, [] => none
  | n + 1, c :: cs =>
    if c.utf8Size ≤ n + 1 then
      (splitBytes? (n + 1 - c.utf8Size) cs).map fun (front, rest) => (c :: front, rest)
    else none

/-- The characters that fill `size` bytes from an offset on. -/
def cut? (offset size : Nat) (cs : List Char) : Option (List Char) := do
  let (_, rest) ← splitBytes? offset cs
  let (piece, _) ← splitBytes? size rest
  return piece

@[simp] theorem encodedSize_nil : encodedSize [] = 0 := rfl

@[simp] theorem encodedSize_cons (c : Char) (cs : List Char) :
    encodedSize (c :: cs) = c.utf8Size + encodedSize cs := rfl

@[simp] theorem encodedSize_append (cs ds : List Char) :
    encodedSize (cs ++ ds) = encodedSize cs + encodedSize ds := by
  induction cs with
  | nil => simp
  | cons c cs ih => simp [ih, Nat.add_assoc]

theorem splitBytes?_append (front rest : List Char) :
    splitBytes? (encodedSize front) (front ++ rest) = some (front, rest) := by
  induction front with
  | nil => simp [splitBytes?]
  | cons c front ih =>
    obtain ⟨n, hn⟩ := Nat.exists_eq_add_one_of_ne_zero (n := encodedSize (c :: front))
      (by have := c.utf8Size_pos; simp only [encodedSize_cons]; omega)
    have hle : c.utf8Size ≤ n + 1 := by simp only [← hn, encodedSize_cons]; omega
    have hrest : n + 1 - c.utf8Size = encodedSize front := by
      simp only [← hn, encodedSize_cons]; omega
    rw [hn, List.cons_append, splitBytes?, if_pos hle, hrest, ih]
    rfl

theorem splitBytes?_eq_some_iff {n : Nat} {cs front rest : List Char} :
    splitBytes? n cs = some (front, rest) ↔ cs = front ++ rest ∧ encodedSize front = n := by
  constructor
  · fun_induction splitBytes? n cs generalizing front with
    | case1 cs =>
      rintro ⟨⟩
      exact ⟨rfl, rfl⟩
    | case2 => simp
    | case3 n c cs hle ih =>
      intro h
      obtain ⟨⟨front', rest'⟩, hsplit, heq⟩ := Option.map_eq_some_iff.mp h
      cases heq
      obtain ⟨rfl, hsize⟩ := ih hsplit
      exact ⟨rfl, by simp only [encodedSize_cons]; omega⟩
    | case4 => simp
  · rintro ⟨rfl, rfl⟩
    exact splitBytes?_append front rest

/-- A piece is cut out if characters begin and end where it does. -/
theorem cut?_eq_some_iff {offset size : Nat} {cs piece : List Char} :
    cut? offset size cs = some piece ↔
      ∃ front back, cs = front ++ (piece ++ back) ∧ encodedSize front = offset ∧
        encodedSize piece = size := by
  simp only [cut?, Option.bind_eq_bind, Option.bind_eq_some_iff, Prod.exists,
    splitBytes?_eq_some_iff, Option.pure_def, Option.some.injEq]
  constructor
  · rintro ⟨front, _, ⟨rfl, hoffset⟩, _, back, ⟨rfl, hsize⟩, rfl⟩
    exact ⟨front, back, rfl, hoffset, hsize⟩
  · rintro ⟨front, back, rfl, hoffset, hsize⟩
    exact ⟨front, _, ⟨rfl, hoffset⟩, piece, back, ⟨rfl, hsize⟩, rfl⟩

end Text

namespace HexDump

/-- The byte that the two bytes of text at an offset spell. -/
def byteAt (cs : List Char) (offset : Nat) : Except HexDumpError UInt8 :=
  match (Text.cut? offset 2 cs).bind (Numeral.unsigned? 16 255) with
  | some n => .ok (UInt8.ofNat n)
  | none => .error (.invalidAt offset)

/-- Reads a hex dump at every second offset. -/
def read (text : String) : Except HexDumpError Bytes :=
  let cs := digits text
  if cs = [] then .error .empty
  else if encodedSize cs % 2 ≠ 0 then .error .oddLength
  else (List.range' 0 (encodedSize cs / 2) 2).mapM (byteAt cs)

end HexDump

/-- A span of time as a clock holds it: whole seconds, and the nanoseconds on top of them. -/
structure Span where
  seconds : UInt64
  nanos : UInt32
  deriving DecidableEq, Repr

namespace Span

def of (n : UInt64) : TimeUnit → Span
  | .seconds => ⟨n, 0⟩
  | .millis => ⟨n / 1000, (n % 1000).toUInt32 * 1000000⟩

/-- Reads a span of time. -/
def ofText (text : String) : Except DurationError Span :=
  let input := Text.trim text.toList
  if input = [] then .error .empty else
  match Numeral.unsigned? 10 Duration.maxNumber (Duration.splitUnit input).1 with
  | none => .error (.invalid (String.ofList input))
  | some n =>
    if UInt64.ofNat n = 0 then .error .zero
    else .ok (of (UInt64.ofNat n) (Duration.splitUnit input).2)

end Span

end FrameLink
