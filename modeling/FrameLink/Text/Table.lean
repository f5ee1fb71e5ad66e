/-!
Tables drawn with box characters.

Every column is as wide as its widest cell and a blank on either side. A double line divides the
header from the rows, and dashed lines divide the rows.
-/

namespace FrameLink

structure Table where
  header : List String
  rows : List (List String)

namespace Table

/-- Texts with another one between each two of them. -/
def join (between : List Char) : List (List Char) → List Char
  | [] => []
  | [x] => x
  | x :: y :: rest => x ++ between ++ join between (y :: rest)

/-- The width of each column without the blanks. -/
def widths (t : Table) : List Nat :=
  t.rows.foldl (fun ws row => List.zipWith max ws (row.map String.length))
    (t.header.map String.length)

def rule (left fill cross right : Char) (ws : List Nat) : List Char :=
  left :: join [cross] (ws.map fun w => List.replicate (w + 2) fill) ++ [right, '\n']

def cell (width : Nat) (text : String) : List Char :=
  ' ' :: text.toList ++ List.replicate (width - text.length + 1) ' '

def line (ws : List Nat) (row : List String) : List Char :=
  '│' :: join ['┆'] (List.zipWith cell ws row) ++ ['│', '\n']

/-- The lines of the table, each with its end of line. -/
def chars (t : Table) : List Char :=
  let ws := t.widths
  rule '┌' '─' '┬' '┐' ws ++ line ws t.header ++ rule '╞' '═' '╪' '╡' ws ++
    join (rule '├' '╌' '┼' '┤' ws) (t.rows.map (line ws)) ++ rule '└' '─' '┴' '┘' ws

def text (t : Table) : String := String.ofList t.chars

end Table

end FrameLink
