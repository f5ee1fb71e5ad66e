import FrameLink.Text.Blank
import FrameLink.Text.Numeral

/-!
Spans of time: how a user writes one, and how a message shows it.
-/

namespace FrameLink

/-- A span of time in milliseconds, the finest unit one can be written in. -/
structure Duration where
  millis : Nat
  deriving DecidableEq, Repr

inductive DurationError where
  | empty
  | invalid (text : String)
  | zero
  deriving DecidableEq, Repr

def DurationError.message : DurationError → String
  | .empty => "duration must not be empty"
  | .invalid text => s!"invalid duration value: {text}"
  | .zero => "duration must be greater than zero"

inductive TimeUnit where
  | seconds | millis
  deriving DecidableEq, Repr

namespace Duration

def of (n : Nat) : TimeUnit → Duration
  | .seconds => ⟨n * 1000⟩
  | .millis => ⟨n⟩

def seconds (d : Duration) : Nat := d.millis / 1000

def nanos (d : Duration) : Nat := d.millis % 1000 * 1000000

/-- The number of a text and its unit: `ms`, failing that `s`, failing that seconds are meant. -/
def splitUnit (cs : List Char) : List Char × TimeUnit :=
  match Text.beforeEnd? ['m', 's'] cs, Text.beforeEnd? ['s'] cs with
  | some number, _ => (number, .millis)
  | none, some number => (number, .seconds)
  | none, none => (cs, .seconds)

def maxNumber : Nat := 18446744073709551615

/-- The span that a trimmed text spells. -/
def ofTrimmed (cs : List Char) : Except DurationError Duration :=
  if cs = [] then .error .empty else
  match Numeral.unsigned? 10 maxNumber (splitUnit cs).1 with
  | none => .error (.invalid (String.ofList cs))
  | some 0 => .error .zero
  | some n => .ok (of n (splitUnit cs).2)

/-- Reads a span of time: a positive number and perhaps a unit, between any white space. -/
def ofText (text : String) : Except DurationError Duration :=
  ofTrimmed (Text.trim text.toList)

/-- A number of thousandths after a point, without zeros at the end. -/
def fractionChars (n : Nat) : List Char :=
  let digits := [n / 100, n / 10 % 10, n % 10].map Nat.digitChar
  match (digits.reverse.dropWhile (· = '0')).reverse with
  | [] => []
  | kept => '.' :: kept

/-- The span in seconds, or in milliseconds if it is less than one second. -/
def text (d : Duration) : String :=
  if 1000 ≤ d.millis then
    toString d.seconds ++ String.ofList (fractionChars (d.millis % 1000)) ++ "s"
  else toString d.millis ++ "ms"

end Duration

end FrameLink
