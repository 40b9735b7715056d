import Sluice.Program
import Std.Time

/-!
The command line of the relay: prints what a run comes to and ends with its status.
-/

open Sluice

def main (arguments : List String) : IO UInt32 := do
  let setting ← IO.getEnv Log.settingName
  let transcript := Program.run arguments setting {}
  let now ← Std.Time.PlainDateTime.now
  let time := now.format "uuuu-MMM-dd HH:mm:ss.SSSSSS"
  IO.print (transcript.output ++ transcript.logText time)
  IO.eprint transcript.errors
  return (transcript.status.getD 0).toUInt32
