/-!
Numerals: an optional sign and at least one digit of the radix, with any number of leading zeros.
-/

namespace FrameLink.Numeral

/-- The value of a digit, small or capital letters standing for ten and above. -/
def digit? (radix : Nat) (c : Char) : Option Nat :=
  let v? :=
    if '0' ≤ c ∧ c ≤ '9' then some (c.toNat - '0'.toNat)
    else if 'a' ≤ c ∧ c ≤ 'z' then some (c.toNat - 'a'.toNat + 10)
    else if 'A' ≤ c ∧ c ≤ 'Z' then some (c.toNat - 'A'.toNat + 10)
    else none
  v?.filter (· < radix)

/-- The number that digits spell, continuing from the value of the digits before them. -/
def continue? (radix : Nat) : Nat → List Char → Option Nat
  | acc, [] => some acc
  | acc, c :: cs =>
    match digit? radix c with
    | some d => continue? radix (acc * radix + d) cs
    | none => none

/-- The number that one or more digits spell. -/
def digits? (radix : Nat) : List Char → Option Nat
  | [] => none
  | cs => continue? radix 0 cs

/-- An unsigned numeral no greater than `limit`; a plus sign may stand in front. -/
def unsigned? (radix limit : Nat) (cs : List Char) : Option Nat :=
  let body := match cs with
    | '+' :: rest => rest
    | _ => cs
  (digits? radix body).filter (· ≤ limit)

/-- A signed decimal numeral between `low` and `high`. -/
def signed? (low high : Int) (cs : List Char) : Option Int :=
  let value? := match cs with
    | '-' :: rest => (digits? 10 rest).map fun n => -(n : Int)
    | '+' :: rest => (digits? 10 rest).map Int.ofNat
    | _ => (digits? 10 cs).map Int.ofNat
  value?.filter fun v => low ≤ v ∧ v ≤ high

end FrameLink.Numeral
