import FrameLink.Console.Options

/-!
Reading the words of a command line.

Words are read from left to right. Options may stand anywhere after the command that takes them, the
shared ones after any command; among shared options the one given deepest counts. A value follows its
option as the next word or after an equals sign. What looks like an option is never taken for a
value, numbers with a minus sign apart where the option admits them. After two dashes only words
follow.
-/

namespace FrameLink.Console

inductive Halt where
  | usage
  | help
  | version
  deriving DecidableEq, Repr

/-- An option as it was given, and how many commands were named before it. -/
structure Given where
  depth : Nat
  flag : Flag
  value : String
  deriving DecidableEq, Repr

inductive Expecting where
  | anything
  | value (f : Flag)
  | wordsOnly
  | helpTopic
  deriving DecidableEq, Repr

structure Arguments where
  scope : Scope := .top
  depth : Nat := 0
  given : List Given := []
  /-- The words that are no options, over all commands. -/
  words : List String := []
  /-- How many words the command named last still takes. -/
  room : Nat := 0
  expecting : Expecting := .anything
  deriving DecidableEq, Repr

namespace Arguments

/-- Something other than a lone dash that starts with a dash. -/
def isDashed : List Char → Bool
  | '-' :: _ :: _ => true
  | _ => false

/-- A minus sign and digits. -/
def isNegative : List Char → Bool
  | '-' :: digits => (Numeral.digits? 10 digits).isSome
  | _ => false

def give (a : Arguments) (f : Flag) (value : String) : Except Halt Arguments :=
  if !f.addsUp && a.given.any fun g => g.flag = f ∧ g.depth = a.depth then .error .usage
  else .ok { a with given := a.given ++ [⟨a.depth, f, value⟩], expecting := .anything }

/-- Takes note of an option with a value, if the option takes such values. -/
def giveValue (a : Arguments) (f : Flag) (value : String) : Except Halt Arguments :=
  if f.takes.accepts value then a.give f value else .error .usage

def takeWord (a : Arguments) (word : String) : Except Halt Arguments :=
  if a.room = 0 || (a.scope.takesTarget && !Takes.accepts word (.signed 0 255)) then .error .usage
  else .ok { a with words := a.words ++ [word], room := a.room - 1 }

/-- Goes down to a command; the one above must have its words by then. -/
def enter (a : Arguments) (scope : Scope) : Except Halt Arguments :=
  if a.room = 0 then .ok { a with scope, depth := a.depth + 1, room := scope.words }
  else .error .usage

/-- An option by its full name, with what follows an equals sign. -/
def takeNamed (a : Arguments) (name : String) (attached : Option String) : Except Halt Arguments :=
  match Flag.ofName? a.scope name, attached with
  | some f, some value => a.giveValue f value
  | some f, none =>
    match f.takes with
    | .nothing => a.give f ""
    | _ => .ok { a with expecting := .value f }
  | none, none =>
    if name = "help" then .error .help
    else if name = "version" ∧ a.scope = .top then .error .version
    else .error .usage
  | none, some _ => .error .usage

/-- An option by a single letter; several may follow one dash, and the first decides. -/
def takeLetter (a : Arguments) (letter : Char) : Except Halt Arguments :=
  if letter = 'h' then .error .help
  else if letter = 'V' ∧ a.scope = .top then .error .version
  else .error .usage

/-- A word where anything may stand. -/
def takeAny (a : Arguments) (word : String) : Except Halt Arguments :=
  match a.scope.children.lookup word with
  | some scope => a.enter scope
  | none =>
    if word = "help" ∧ a.scope.children ≠ [] then .ok { a with expecting := .helpTopic } else
    match word.toList with
    | ['-', '-'] => .ok { a with expecting := .wordsOnly }
    | '-' :: '-' :: long =>
      let name := long.takeWhile (· ≠ '=')
      let attached := match long.dropWhile (· ≠ '=') with
        | _ :: value => some (String.ofList value)
        | [] => none
      a.takeNamed (String.ofList name) attached
    | '-' :: letter :: _ => a.takeLetter letter
    | _ => a.takeWord word

def take (a : Arguments) (word : String) : Except Halt Arguments :=
  match a.expecting with
  | .anything => a.takeAny word
  | .value f =>
    if isDashed word.toList && !(f.takes.admitsMinus && isNegative word.toList) then .error .usage
    else a.giveValue f word
  | .wordsOnly => a.takeWord word
  | .helpTopic =>
    match a.scope.children.lookup word with
    | some scope => .ok { a with scope }
    | none => .error .usage

/-- The end of the command line: nothing may be missing. -/
def finish (a : Arguments) : Except Halt Arguments :=
  match a.expecting with
  | .value _ => .error .usage
  | .helpTopic => .error .help
  | _ => if a.room = 0 ∧ a.scope.children = [] then .ok a else .error .usage

def read (words : List String) : Except Halt Arguments :=
  (words.foldlM take {}).bind finish

/-- The values given for an option, the deepest last. -/
def valuesOf (a : Arguments) (f : Flag) : List String :=
  (a.given.filter (·.flag = f)).map Given.value

/-- The value that counts. -/
def value? (a : Arguments) (f : Flag) : Option String := (a.valuesOf f).getLast?

/-- An option is given after every command, and before the first. -/
def isGivenThroughout (a : Arguments) (f : Flag) : Bool :=
  (List.range (a.depth + 1)).all fun depth => a.given.any fun g => g.flag = f ∧ g.depth = depth

end Arguments

end FrameLink.Console
