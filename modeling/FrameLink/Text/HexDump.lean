import FrameLink.Bytes
import FrameLink.Text.Blank
import FrameLink.Text.Numeral

/-!
Hex dumps as users write them: two digits for each byte, with white space, colons and dashes
anywhere between.
-/

namespace FrameLink

inductive HexDumpError where
  | empty
  | oddLength
  | invalidAt (offset : Nat)
  deriving DecidableEq, Repr

def HexDumpError.message : HexDumpError → String
  | .empty => "no frame bytes given"
  | .oddLength => "hex input has an odd number of digits"
  | .invalidAt offset => s!"invalid hex near offset {offset}"

namespace HexDump

def isSeparator (c : Char) : Bool := Text.isBlank c || c = ':' || c = '-'

/-- What is left of a text without white space around it, leading `0x` and separators. -/
def digits (text : String) : List Char :=
  (Text.dropStarts ['0', 'x'] (Text.trim text.toList)).filter (!isSeparator ·)

/-- The space that characters take up in UTF-8; offsets are counted in it. -/
def encodedSize (cs : List Char) : Nat := cs.foldr (fun c n => c.utf8Size + n) 0

/-- The byte that two characters spell. -/
def pair? (a b : Char) : Option UInt8 := (Numeral.unsigned? 16 255 [a, b]).map UInt8.ofNat

/-- Reads characters two by two; `offset` is where the first of them stands. -/
def pairs (offset : Nat) : List Char → Except HexDumpError Bytes
  | [] => .ok []
  | a :: b :: rest =>
    match pair? a b with
    | some x => (pairs (offset + 2) rest).map (x :: ·)
    | none => .error (.invalidAt offset)
  | [_] => .error (.invalidAt offset)

/-- Reads a hex dump; an odd number of digits is found before a bad one. -/
def ofText (text : String) : Except HexDumpError Bytes :=
  if digits text = [] then .error .empty
  else if encodedSize (digits text) % 2 = 1 then .error .oddLength
  else pairs 0 (digits text)

end HexDump

end FrameLink
