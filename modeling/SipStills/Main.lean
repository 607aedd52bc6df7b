/-
# The program

The program takes at most one argument, the path of its settings; without it all settings
have their default values.  It performs one run and writes the stills into the directory that
the settings name.  It fails with exit code 1 and a line of text.
-/
import SipStills.Run
import SipStills.Settings.Format

namespace SipStills

/-- The bytes of a file, if it can be read. -/
def fileBytes? (path : String) : IO (Option Bytes) := do
  try
    return some (← IO.FS.readBinFile path).toList
  catch _ =>
    return none

/-- The settings that the arguments name. -/
def settingsOf (args : List String) : IO (Except LoadFault Settings) := do
  match args with
  | [] => return .ok {}
  | path :: _ => return Settings.load (← fileBytes? path)

/-- The recording that the settings name. -/
def recordingOf (s : Settings) : IO (Option Bytes) := do
  match s.replay with
  | none => return none
  | some replay => fileBytes? replay.path

/-- Tells why the program fails. -/
def complain (message : String) : IO UInt32 := do
  IO.eprintln ("error: " ++ message)
  return 1

/-- Performs the run that the settings describe. -/
def runWith (s : Settings) : IO UInt32 := do
  IO.FS.createDirAll s.outputDir
  let start := Run.initial s (Run.plainRegistry s) []
  let (result, world) := (Run.perform s (← recordingOf s)).run start
  for (name, data) in Run.files world do
    IO.FS.writeBinFile (s.outputDir ++ "/" ++ name) ⟨data.toArray⟩
  match result with
  | .ok () => return 0
  | .error fault => complain fault.message

end SipStills

/-- The program. -/
def main (args : List String) : IO UInt32 := do
  match ← SipStills.settingsOf args with
  | .ok settings => SipStills.runWith settings
  | .error fault => SipStills.complain fault.message
