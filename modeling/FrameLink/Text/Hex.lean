import FrameLink.Bytes

/-!
Hexadecimal text: byte strings in small letters, and padded numbers in capitals.
-/

namespace FrameLink.Hex

def small (n : Nat) : Char := Nat.digitChar (n % 16)

def capital (n : Nat) : Char := (small n).toUpper

/-- Two digits for each byte. -/
def chars (b : Bytes) : List Char :=
  b.flatMap fun x => [small (x.toNat / 16), small x.toNat]

def text (b : Bytes) : String := String.ofList (chars b)

/-- The last digits of a number in capitals. -/
def lastDigits : Nat → Nat → List Char
  | 0, _ => []
  | width + 1, n => lastDigits width (n / 16) ++ [capital n]

/-- The last `width` digits of a number, after the sign of the notation. -/
def padded (width n : Nat) : String := "0x" ++ String.ofList (lastDigits width n)

def byte (b : UInt8) : String := padded 2 b.toNat

def word (w : UInt16) : String := padded 4 w.toNat

end FrameLink.Hex
