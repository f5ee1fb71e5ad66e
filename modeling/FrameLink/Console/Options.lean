import FrameLink.Console.Format
import FrameLink.Console.Errand

/-!
The commands of the program and the options each of them takes.
-/

namespace FrameLink.Console

/-- The words for requests, whose targets follow as further words. -/
inductive Action where
  | switchState | switchMode | storeTrim | clearTrim | shutDown | enableSensors
  deriving DecidableEq, Repr

inductive Scope where
  | top
  | command | gains | request | listen | check | version
  | action (a : Action)
  deriving DecidableEq, Repr

namespace Scope

/-- The commands that may come next, by name. -/
def children : Scope → List (String × Scope)
  | .top =>
    [("command", .command), ("gains", .gains), ("request", .request), ("listen", .listen),
     ("check", .check), ("version", .version)]
  | .request =>
    [("switch-state", .action .switchState), ("switch-mode", .action .switchMode),
     ("store-trim", .action .storeTrim), ("clear-trim", .action .clearTrim),
     ("shutdown", .action .shutDown), ("enable-sensors", .action .enableSensors)]
  | _ => []

/-- How many words a command takes, all of them required. -/
def words : Scope → Nat
  | .top | .version => 0
  | .action .switchState | .action .switchMode => 1
  | .action _ => 0
  | _ => 1

/-- The one word that the command takes is the number of a target. -/
def takesTarget : Scope → Bool
  | .action .switchState | .action .switchMode => true
  | _ => false

end Scope

inductive Flag where
  | format | logFormat | logLevel | transport | connectTimeout
  | roll | pitch | yaw | z | repeats | interval
  | axis | p | i | d | dd
  | count | kinds | idleTimeout | reconnectDelay | maxReconnects
  | extended
  deriving DecidableEq, Repr

inductive Takes where
  | nothing
  | text
  | choice (names : List String)
  | signed (low high : Int)
  /-- A number up to a limit, without a minus sign. -/
  | unsigned (limit : Nat)
  | kinds

/-- The kinds of a list with commas. -/
def kindList? (text : String) : Option (List Kind) := (text.splitOn ",").mapM Kind.ofText?

namespace Takes

/-- A record field. -/
def field : Takes := .signed (-32768) 32767

/-- A number of 32 bits. -/
def word : Takes := .signed 0 4294967295

def accepts (text : String) : Takes → Bool
  | .nothing => false
  | .text => true
  | .choice names => names.contains text
  | .signed low high => (Numeral.signed? low high text.toList).isSome
  | .unsigned limit => (Numeral.unsigned? 10 limit text.toList).isSome
  | .kinds => (kindList? text).isSome

/-- The option admits values with a minus sign in front, as a word of their own. -/
def admitsMinus : Takes → Bool
  | .signed low _ => low < 0
  | _ => false

end Takes

namespace Flag

def shared : List Flag := [.format, .logFormat, .logLevel, .transport, .connectTimeout]

/-- The options of a command besides the shared ones. -/
def own : Scope → List Flag
  | .command => [.roll, .pitch, .yaw, .z, .repeats, .interval]
  | .gains => [.axis, .p, .i, .d, .dd]
  | .listen => [.count, .kinds, .idleTimeout, .reconnectDelay, .maxReconnects]
  | .version => [.extended]
  | _ => []

def name : Flag → String
  | .format => "format"
  | .logFormat => "log-format"
  | .logLevel => "log-level"
  | .transport => "transport"
  | .connectTimeout => "connect-timeout"
  | .roll => "roll"
  | .pitch => "pitch"
  | .yaw => "yaw"
  | .z => "z"
  | .repeats => "repeat"
  | .interval => "interval"
  | .axis => "axis"
  | .p => "p"
  | .i => "i"
  | .d => "d"
  | .dd => "dd"
  | .count => "count"
  | .kinds => "kinds"
  | .idleTimeout => "idle-timeout"
  | .reconnectDelay => "reconnect-delay"
  | .maxReconnects => "max-reconnects"
  | .extended => "extended"

def takes : Flag → Takes
  | .format => .choice (Format.all.map Format.name)
  | .logFormat => .choice ["text", "json"]
  | .logLevel => .choice ["error", "warn", "info", "debug", "trace"]
  | .transport => .choice ["tcp", "udp"]
  | .axis => .choice (GainAxis.all.map GainAxis.name)
  | .connectTimeout | .interval | .idleTimeout | .reconnectDelay => .text
  | .roll | .pitch | .yaw | .z | .p | .i | .d | .dd => .field
  | .repeats | .maxReconnects => .word
  | .count => .unsigned 18446744073709551615
  | .kinds => .kinds
  | .extended => .nothing

/-- An option may be given again only if its values add up. -/
def addsUp : Flag → Bool
  | .kinds => true
  | _ => false

/-- The variable of the environment that stands in for a shared option. -/
def environmentName? (f : Flag) : Option String :=
  if f ∈ shared then some ("FLIGHTLINK_" ++ (f.name.map fun c => if c = '-' then '_' else c.toUpper))
  else none

/-- The option of a name among those that a command takes. -/
def ofName? (scope : Scope) (name : String) : Option Flag :=
  (shared ++ own scope).find? (·.name == name)

end Flag

end FrameLink.Console
