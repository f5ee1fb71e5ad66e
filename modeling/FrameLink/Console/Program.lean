import FrameLink.Console.About
import FrameLink.Console.Inspection
import FrameLink.Console.Task
import FrameLink.Transport.Address

/-!
The program from its command line to what it prints.

A plan is either all that there is to say, or work over a link that is still to be opened. So the
whole program up to the network is a function.
-/

namespace FrameLink.Console

/-- What a run of the program leaves: its exit code, and the text on its two outputs. -/
structure Exit where
  code : Nat
  output : String := ""
  errors : String := ""
  deriving DecidableEq, Repr

namespace Exit

def ofFailure (f : Failure) (output : String) : Exit := ⟨f.code, output, s!"error: {f.message}\n"⟩

end Exit

/-- What is to be done over a link. -/
inductive Work where
  | errand (e : Errand)
  | listen (l : Listening) (idleTimeout : Option String)
  deriving DecidableEq

/-- What is left to do once the command line was read. -/
inductive Plan where
  | finished (e : Exit)
  | online (s : Settings) (connectTimeout : Duration) (addr : String) (config : ChannelConfig)
    (w : Work)

namespace Plan

def usageText : String := s!"usage: {About.name} [options] <command> [arguments]\n"

def ofHalt : Halt → Plan
  | .usage => .finished ⟨2, "", usageText⟩
  | .help => .finished ⟨ExitCode.success, usageText, ""⟩
  | .version => .finished ⟨ExitCode.success, About.line, ""⟩

/-- The plan of a task, once the time for connecting was read. -/
def ofTask (s : Settings) (timeout : Duration) : Task → Except Failure Plan
  | .errand addr e => .ok (.online s timeout addr Errand.config (.errand e))
  | .listen addr l reconnectDelay idleTimeout =>
    match Duration.ofText reconnectDelay with
    | .ok delay =>
      let config := { reconnectDelay := delay.millis, maxAttempts := l.maxReconnects }
      .ok (.online s timeout addr config (.listen l idleTimeout))
    | .error e => .error (.ofDuration e)
  | .check dump =>
    (Console.check s.format dump).map fun (code, output) => .finished ⟨code, output, ""⟩
  | .version extended =>
    .ok (.finished ⟨ExitCode.success, if extended then About.extended else About.line, ""⟩)

/-- The plan of settings and a task; the time for connecting is read for every task. -/
def ofSettings (s : Settings) (task : Task) : Except Failure Plan :=
  ((Duration.ofText s.connectTimeout).mapError .ofDuration).bind (ofTask s · task)

def make (env : Environment) (format : Format) (words : List String) : Plan :=
  match interpret env format words with
  | .error halt => ofHalt halt
  | .ok (s, task) =>
    match ofSettings s task with
    | .ok plan => plan
    | .error failure => .finished (.ofFailure failure "")

/-- How a plan ends where the network refuses every link for a reason. -/
def unreachable (reason : IoError) : Plan → Exit
  | .finished e => e
  | .online s _ addr _ _ =>
    let cause := TransportError.ofRefusal s.carrier.near addr reason
    .ofFailure (.ofChannel "connect failed" (.transport cause)) ""

end Plan

end FrameLink.Console
