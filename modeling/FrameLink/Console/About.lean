import FrameLink.Frame.Basic

/-!
What the program says about itself.
-/

namespace FrameLink.Console.About

def name : String := "flightlink"

def version : String := "0.1.0"

def line : String := s!"{name} {version}\n"

/-- The limits on the wire that hold if nothing else is set. -/
def wire : String :=
  let l : Limits := {}
  s!"wire: max_payload={l.maxPayloadSize}, kind_limit={Hex.byte l.maxKind}\n"

def extended : String :=
  s!"name: {name}\n" ++ s!"version: {version}\n" ++ "features: async=true, cli=true\n" ++ wire

end FrameLink.Console.About
