/-
Module: TrafficMeter.Main
Purpose: The program as it is called: read the settings file that is named, and say where reports
  would be sent, or why the settings cannot be used.
Main exports: main
-/
import TrafficMeter.CommandLine
import TrafficMeter.Settings.Reader

namespace TrafficMeter

/-- Say something at a level. -/
def CommandLine.say (call : CommandLine) (level : Verbosity) (text : String) : IO Unit := do
  if call.verbosity.shows level then IO.eprintln text

/-- The bytes of a file, or why it cannot be read. -/
def contentOf (path : String) : IO (Except String Bytes) := do
  try
    let bytes ← IO.FS.readBinFile path
    return .ok bytes.toList
  catch error =>
    return .error (toString error)

/-- Carry out a call. -/
def CommandLine.run (call : CommandLine) : IO UInt32 := do
  call.say .info "Importing configuration"
  let content ← contentOf call.settingsFile
  match Settings.ofFile (← IO.getEnv "BWR_SPOOL_PATH") content with
  | .error error =>
      call.say .error s!"Unable to import configuration from file: {error.message}"
      return 1
  | .ok settings =>
      match settings.collectorAddress with
      | .error fault =>
          call.say .error (SettingsError.invalidValue fault.message).message
          return 1
      | .ok address =>
          call.say .info s!"Reporting to {address.text}"
          return 0

end TrafficMeter

/-- The entry point: one settings file, and perhaps a level. -/
def main (arguments : List String) : IO UInt32 := do
  match TrafficMeter.CommandLine.read? (← IO.getEnv "BWR_LOG_LEVEL") arguments with
  | none =>
      IO.eprintln TrafficMeter.CommandLine.usage
      return 2
  | some call => call.run
