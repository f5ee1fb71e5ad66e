/-!
White space, as the Unicode property of that name lists it.
-/

namespace FrameLink.Text

/-- The code points of the property White_Space, as closed ranges. -/
def blankRanges : List (Nat × Nat) :=
  [(0x09, 0x0D), (0x20, 0x20), (0x85, 0x85), (0xA0, 0xA0), (0x1680, 0x1680), (0x2000, 0x200A),
   (0x2028, 0x2029), (0x202F, 0x202F), (0x205F, 0x205F), (0x3000, 0x3000)]

def isBlank (c : Char) : Bool :=
  blankRanges.any fun (lo, hi) => lo ≤ c.toNat && c.toNat ≤ hi

/-- The text without the white space at its two ends. -/
def trim (cs : List Char) : List Char :=
  ((cs.dropWhile isBlank).reverse.dropWhile isBlank).reverse

/-- The text begins with `start`. -/
def StartsWith (start cs : List Char) : Prop := cs.take start.length = start

instance (start cs : List Char) : Decidable (StartsWith start cs) :=
  inferInstanceAs (Decidable (_ = _))

/-- The text before `ending`, if it ends so. -/
def beforeEnd? (ending cs : List Char) : Option (List Char) :=
  let n := cs.length - ending.length
  if cs.drop n = ending then some (cs.take n) else none

/-- The text without any repetition of `start` in front of it. -/
def dropStarts (start cs : List Char) : List Char :=
  if _h : StartsWith start cs ∧ start ≠ [] then dropStarts start (cs.drop start.length) else cs
termination_by cs.length
decreasing_by
  have hl := congrArg List.length _h.1
  have hp := List.length_pos_iff.mpr _h.2
  simp only [List.length_take] at hl
  simp only [List.length_drop]
  omega

end FrameLink.Text
