import FrameLink.Text.Json
import FrameLink.Text.Table

/-!
The three forms in which results are shown: a JSON object on a line, a table, and a line of text.
-/

namespace FrameLink.Console

inductive Format where
  | json | table | pretty
  deriving DecidableEq, Repr

namespace Format

def all : List Format := [.json, .table, .pretty]

def name : Format → String
  | .json => "json"
  | .table => "table"
  | .pretty => "pretty"

def ofName? (s : String) : Option Format := all.find? (·.name == s)

end Format

/-- A flat report: its JSON form, and the name and text of each field. -/
structure Report where
  json : Json
  fields : List (String × String)

def Report.render (r : Report) : Format → String
  | .json => r.json.text ++ "\n"
  | .table => Table.text ⟨["FIELD", "VALUE"], r.fields.map fun (name, text) => [name, text]⟩
  | .pretty => " ".intercalate (r.fields.map fun (name, text) => name ++ "=" ++ text) ++ "\n"

end FrameLink.Console
