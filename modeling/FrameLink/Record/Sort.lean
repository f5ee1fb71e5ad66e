import FrameLink.Record.Fields

/-!
The ten sorts of records, for whoever picks one at run time.
-/

namespace FrameLink

inductive RecordSort where
  | command | sensor | motorSignal | motorOffset | gain | revving | trace | modeState | switch
  | groundReport
  deriving DecidableEq, Repr

namespace RecordSort

def Carrier : RecordSort → Type
  | .command => Command
  | .sensor => Sensor
  | .motorSignal => MotorSignal
  | .motorOffset => MotorOffset
  | .gain => Gain
  | .revving => Revving
  | .trace => Trace
  | .modeState => ModeState
  | .switch => Switch
  | .groundReport => GroundReport

instance : (s : RecordSort) → Record s.Carrier
  | .command => inferInstanceAs (Record Command)
  | .sensor => inferInstanceAs (Record Sensor)
  | .motorSignal => inferInstanceAs (Record MotorSignal)
  | .motorOffset => inferInstanceAs (Record MotorOffset)
  | .gain => inferInstanceAs (Record Gain)
  | .revving => inferInstanceAs (Record Revving)
  | .trace => inferInstanceAs (Record Trace)
  | .modeState => inferInstanceAs (Record ModeState)
  | .switch => inferInstanceAs (Record Switch)
  | .groundReport => inferInstanceAs (Record GroundReport)

instance : (s : RecordSort) → Viewed s.Carrier
  | .command => inferInstanceAs (Viewed Command)
  | .sensor => inferInstanceAs (Viewed Sensor)
  | .motorSignal => inferInstanceAs (Viewed MotorSignal)
  | .motorOffset => inferInstanceAs (Viewed MotorOffset)
  | .gain => inferInstanceAs (Viewed Gain)
  | .revving => inferInstanceAs (Viewed Revving)
  | .trace => inferInstanceAs (Viewed Trace)
  | .modeState => inferInstanceAs (Viewed ModeState)
  | .switch => inferInstanceAs (Viewed Switch)
  | .groundReport => inferInstanceAs (Viewed GroundReport)

instance : (s : RecordSort) → DecidableEq s.Carrier
  | .command => inferInstanceAs (DecidableEq Command)
  | .sensor => inferInstanceAs (DecidableEq Sensor)
  | .motorSignal => inferInstanceAs (DecidableEq MotorSignal)
  | .motorOffset => inferInstanceAs (DecidableEq MotorOffset)
  | .gain => inferInstanceAs (DecidableEq Gain)
  | .revving => inferInstanceAs (DecidableEq Revving)
  | .trace => inferInstanceAs (DecidableEq Trace)
  | .modeState => inferInstanceAs (DecidableEq ModeState)
  | .switch => inferInstanceAs (DecidableEq Switch)
  | .groundReport => inferInstanceAs (DecidableEq GroundReport)

def names : List (RecordSort × String) :=
  [(.command, "command"), (.sensor, "sensor"), (.motorSignal, "motor_signal"),
   (.motorOffset, "motor_offset"), (.gain, "gain"), (.revving, "revving"), (.trace, "trace"),
   (.modeState, "mode_state"), (.switch, "switch"), (.groundReport, "ground_report")]

def ofName? (s : String) : Option RecordSort := (names.find? (·.2 == s)).map (·.1)

end RecordSort

end FrameLink
