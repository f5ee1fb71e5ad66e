import FrameLink.Console.Arguments
import FrameLink.Console.Listening
import FrameLink.Transport.Datagram

/-!
What a command line asks for: the settings and the task.

A shared option that is not given takes its value from the environment, and failing that its default.
A variable of the environment is checked wherever it stands in for an option, even if another place
gives the option.
-/

namespace FrameLink.Console

/-- The environment: the value of a variable. -/
abbrev Environment := String → Option String

inductive Carrier where
  | tcp | udp
  deriving DecidableEq, Repr

def Carrier.name : Carrier → String
  | .tcp => "tcp"
  | .udp => "udp"

/-- The address to bind at the near end: datagrams need one, of which the system fills in the rest. -/
def Carrier.near : Carrier → Option String
  | .tcp => none
  | .udp => some "0.0.0.0:0"

/--
What a link still gives once it is closed at the near end: a stream what has come in, datagrams the
rest of the one at hand.
-/
def Carrier.leaves : Carrier → Source → Source
  | .tcp, s => { s with isLive := false }
  | .udp, s => { script := [.failure DatagramSource.closedError], held := s.held }

/-- What holds for every command; how to log is not part of it, as nothing is logged. -/
structure Settings where
  format : Format
  carrier : Carrier
  /-- As the user wrote it. -/
  connectTimeout : String
  deriving DecidableEq, Repr

inductive Task where
  | errand (addr : String) (e : Errand)
  /-- The two spans of time as the user wrote them. -/
  | listen (addr : String) (l : Listening) (reconnectDelay : String) (idleTimeout : Option String)
  | check (dump : String)
  | version (extended : Bool)
  deriving DecidableEq

namespace Arguments

def setting? (a : Arguments) (env : Environment) (f : Flag) : Option String :=
  (a.value? f).or (f.environmentName?.bind env)

/-- The variable that stands in for an option, where it does, holds a value that the option takes. -/
def admits (a : Arguments) (env : Environment) (f : Flag) : Bool :=
  a.isGivenThroughout f || (f.environmentName?.bind env).all (f.takes.accepts ·)

/-- The settings; `format` is the one to use where none is asked for. -/
def settings (a : Arguments) (env : Environment) (format : Format) : Settings where
  format := ((a.setting? env .format).bind Format.ofName?).getD format
  carrier := if a.setting? env .transport = some Carrier.udp.name then .udp else .tcp
  connectTimeout := (a.setting? env .connectTimeout).getD "5s"

def int? (a : Arguments) (f : Flag) : Option Int :=
  match f.takes with
  | .signed low high => (a.value? f).bind fun s => Numeral.signed? low high s.toList
  | .unsigned limit => (a.value? f).bind fun s => (Numeral.unsigned? 10 limit s.toList).map (↑·)
  | _ => none

def field (a : Arguments) (f : Flag) : Int16 := Int16.ofInt ((a.int? f).getD 0)

def request (action : Action) (target : Option String) : Request :=
  let n := UInt8.ofNat (((target.bind fun s => Numeral.signed? 0 255 s.toList).getD 0).toNat)
  match action with
  | .switchState => .switchState n
  | .switchMode => .switchMode n
  | .storeTrim => .storeTrim
  | .clearTrim => .clearTrim
  | .shutDown => .shutDown
  | .enableSensors => .enableSensors

/-- What is to be listened for, the idle timeout apart. -/
def listening (a : Arguments) : Listening where
  count := (a.int? .count).map Int.toNat
  kinds :=
    if a.valuesOf .kinds = [] then none
    else some ((a.valuesOf .kinds).flatMap fun s => (kindList? s).getD [])
  maxReconnects := (a.int? .maxReconnects).map Int.toNat

/-- The task of a complete command line; gains are for an axis that has to be named. -/
def task? (a : Arguments) : Option Task :=
  let addr := a.words.headD ""
  match a.scope with
  | .top | .request => none
  | .command =>
    let setpoint : Command := ⟨a.field .roll, a.field .pitch, a.field .yaw, a.field .z⟩
    some (.errand addr (.command setpoint ((a.int? .repeats).getD 1).toNat
      ((a.value? .interval).getD "100ms")))
  | .gains =>
    ((a.value? .axis).bind GainAxis.ofName?).map fun axis =>
      .errand addr (.gains axis ⟨a.field .p, a.field .i, a.field .d, a.field .dd⟩)
  | .action action => some (.errand addr (.request (request action a.words.tail.head?)))
  | .listen =>
    some (.listen addr a.listening ((a.value? .reconnectDelay).getD "1s") (a.value? .idleTimeout))
  | .check => some (.check addr)
  | .version => some (.version (a.valuesOf .extended ≠ []))

end Arguments

/-- Reads a command line in an environment. -/
def interpret (env : Environment) (format : Format) (words : List String) :
    Except Halt (Settings × Task) :=
  match Arguments.read words with
  | .error halt => .error halt
  | .ok a =>
    match Flag.shared.all (a.admits env), a.task? with
    | true, some task => .ok (a.settings env format, task)
    | _, _ => .error .usage

end FrameLink.Console
