import StudioMigration.Analysis.FileDevice
import StudioMigration.Analysis.Function
import StudioMigration.Analysis.Hardware
import StudioMigration.Analysis.MappPackage
import StudioMigration.Analysis.OpcUa
import StudioMigration.Analysis.Safety
import StudioMigration.Analysis.SavedVersion
import StudioMigration.Analysis.View
import StudioMigration.Analysis.WidgetLibrary
import StudioMigration.Command.Request
import StudioMigration.Project
import StudioMigration.Release.Update

/-!
# The analysis

All checks on a project in a row, with their notes on the terminal and, if wanted, in a result file. The
result file is written note by note, so that a check can come across it.
-/

namespace StudioMigration

open Script

/-! ## The command line -/

structure AnalysisRequest where
  project : String
  verbose : Bool
  noFile : Bool
  output : Option String
  deriving DecidableEq, Repr

def analysisCommand : Command where
  program := "as4_to_as6_analyzer.py"
  usage := "usage: python as4_to_as6_analyzer.py project_path [options]"
  details :=
    ["", "Scans Automation Studio project for transition from AS4 to AS6", "",
     "positional arguments:",
     "  project_path     Automation Studio 4.x path containing *.apj file", "", "options:",
     "  -h, --help       show this help message and exit",
     "  -v, --verbose    Outputs verbose information",
     "  --no-file        Do not write a result file; log only to console/UI.",
     "  --output OUTPUT  Custom output file path. If not provided, defaults to",
     "                   'as4_to_as6_analyzer_result.txt' in the project folder.", "",
     "Ensure the path is correct and the project folder exists.",
     "A valid AS 4 project folder must contain an *.apj file.",
     "If the path contains spaces, make sure to wrap it in quotes (e.g. like this: " ++
       "\"C:\\My documents\\project\")",
     "If you enter a  '.' as project_path the current directory will be used."]
  options := [helpOption, verboseOption, ⟨["--no-file"], false⟩, ⟨["--output"], true⟩]
  operand := "project_path"
  needsOperand := true

/-- What a command line asks for. Without any argument the current directory is analysed, with details
and without a result file. -/
def AnalysisRequest.ofLine (line : List String) : Script AnalysisRequest := do
  let line := if line.isEmpty then [".", "-v", "--no-file"] else line
  let arguments ← analysisCommand.require line
  return {
    project := arguments.operand.getD ""
    verbose := arguments.has "-v"
    noFile := arguments.has "--no-file"
    output := arguments.value? "--output" }

/-! ## The result file -/

def resultName : String := "as4_to_as6_analyzer_result.txt"

/-- Opens the result file: it is emptied, or a warning says why there is none. Gives its name. -/
def openResult (project : String) (noFile : Bool) (output : Option String) :
    Script (Option String) := do
  if noFile then return none
  let name :=
    match output with
    | some given => if given == "" then (Path.ofString project |>.child resultName).render else given
    | none => (Path.ofString project |>.child resultName).render
  try
    change fun ws => ws.truncate name
    pure (some name)
  catch fault =>
    say
      ⟨s!"Failed to open result file '{name}' for writing: {fault.message}. " ++
        "Continuing without file output.", "WARNING", ""⟩
    pure none

def keepNote (result : Option String) (note : Note) : Script Unit := do
  say note
  match result with
  | some name => change fun ws => ws.append name (Text.Utf8.encodeString (note.fileText ++ "\n"))
  | none => pure ()

/-! ## The checks -/

/-- A time in hundredths of a second, in seconds. -/
def secondsText (hundredths : Nat) : String :=
  toString (hundredths / 100) ++ "." ++ toString (hundredths / 10 % 10) ++ toString (hundredths % 10)

/-- All checks in a row on the project file `file` in a directory; they take `scanTime`. -/
def inspectProject (project file : String) (verbose : Bool) (scanTime : Nat) : Inspection Unit := do
  let folder := Path.ofString project
  let apj := folder.join file
  let logical := folder.child "Logical"
  let physical := folder.child "Physical"
  Inspection.say
    ⟨"Scanning started... Please wait while the script analyzes your project files.", "", ""⟩
  inspectNaming project file
  inspectSavedVersions folder [".apj", ".hw"] verbose
  inspectOpcUa physical verbose
  inspectHardware physical verbose
  inspectFileDevices physical verbose
  inspectLibraries logical verbose
  inspectFunctions logical verbose
  inspectSafety apj
  inspectVision apj verbose
  inspectView apj verbose
  inspectWidgets logical verbose
  inspectMappPackages apj
  Inspection.say (.heading s!"Scanning completed successfully in {secondsText scanTime} seconds.")

def reportFault (result : Option String) (fault : Fault) : Script Unit := do
  let text := "An unexpected error occurred: " ++ fault.message
  say ⟨text, "ERROR", ""⟩
  match result with
  | some name =>
    try
      change fun ws => ws.append name (Text.Utf8.encodeString s!"\n[ERROR] {text}\n")
    catch fault =>
      say ⟨s!"Failed to write error to log file: {fault.message}", "ERROR", ""⟩
  | none => pure ()

def analyse (request : AnalysisRequest) (file : String) : Script Unit := do
  say ⟨s!"Project path validated: {request.project}", "", ""⟩
  say ⟨s!"Using project file: {file}", "", ""⟩
  let result ← openResult request.project request.noFile request.output
  let scanTime := (← get).scanTime
  try
    conduct (keepNote result) (inspectProject request.project file request.verbose scanTime)
  catch fault => reportFault result fault
  match result with
  | some name => say ⟨s!"Results have been saved to {name}\n", "", ""⟩
  | none => pure ()

/-- The analysis as a command; `caller` is the name of the running program. -/
def runAnalysis (caller : String) (line : List String) : Script Unit := do
  let session ← get
  let version := toolVersion session.workspace session.installation
  say ⟨s!"Script version: {version}", "", ""⟩
  let request ← AnalysisRequest.ofLine line
  let file ← requireProject caller request.project
  analyse request file

end StudioMigration
