/-!
JSON values and their compact text.

Members of an object keep their order. A number is an integer or has a fraction; only integers are
ever written by this library, and only they are read as field values.
-/

namespace FrameLink

inductive Json where
  | null
  | bool (b : Bool)
  | int (n : Int)
  | real (mantissa : Int) (decimals : Nat)
  | str (s : String)
  | arr (items : List Json)
  | obj (members : List (String × Json))
  deriving Inhabited

namespace Json

/-- A control character as four hexadecimal digits. -/
def escapeCode (c : Char) : List Char :=
  let n := c.toNat
  ['\\', 'u', '0', '0', Nat.digitChar (n / 16), Nat.digitChar (n % 16)]

def quoteChar (c : Char) : List Char :=
  match c with
  | '"' => ['\\', '"']
  | '\\' => ['\\', '\\']
  | '\n' => ['\\', 'n']
  | '\r' => ['\\', 'r']
  | '\t' => ['\\', 't']
  | '\x08' => ['\\', 'b']
  | '\x0c' => ['\\', 'f']
  | _ => if c.toNat < 0x20 then escapeCode c else [c]

def quote (s : String) : List Char := '"' :: s.toList.flatMap quoteChar ++ ['"']

def intChars (n : Int) : List Char :=
  if n < 0 then '-' :: Nat.toDigits 10 n.natAbs else Nat.toDigits 10 n.natAbs

def commaSeparated : List (List Char) → List Char
  | [] => []
  | [x] => x
  | x :: y :: rest => x ++ ',' :: commaSeparated (y :: rest)

mutual

/-- The text of a value, without blanks. -/
def chars : Json → List Char
  | .null => ['n', 'u', 'l', 'l']
  | .bool true => ['t', 'r', 'u', 'e']
  | .bool false => ['f', 'a', 'l', 's', 'e']
  | .int n => intChars n
  | .real m d => intChars m ++ 'e' :: '-' :: Nat.toDigits 10 d
  | .str s => quote s
  | .arr items => '[' :: commaSeparated (itemChars items) ++ [']']
  | .obj members => '\x7b' :: commaSeparated (memberChars members) ++ ['\x7d']

def itemChars : List Json → List (List Char)
  | [] => []
  | x :: rest => chars x :: itemChars rest

def memberChars : List (String × Json) → List (List Char)
  | [] => []
  | (key, x) :: rest => (quote key ++ ':' :: chars x) :: memberChars rest

end

/-- The text of a value, without blanks. -/
def text (j : Json) : String := String.ofList j.chars

/--
The values of the named fields of a structure: an object holds them by name, and may hold others;
an array holds just them, in their order.
-/
def fields? (names : List String) : Json → Option (List Json)
  | .obj members => names.mapM fun name => members.lookup name
  | .arr items => if items.length = names.length then some items else none
  | _ => none

def intIn? (low high : Int) : Json → Option Int
  | .int n => if low ≤ n ∧ n ≤ high then some n else none
  | _ => none

def byte? (j : Json) : Option UInt8 := (j.intIn? 0 255).map fun n => UInt8.ofNat n.toNat

def signedWord? (j : Json) : Option Int16 := (j.intIn? (-32768) 32767).map Int16.ofInt

end Json

end FrameLink
