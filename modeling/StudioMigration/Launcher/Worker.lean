import StudioMigration.Launcher.Window

/-!
# Running a tool from the launcher

The chosen tool runs on the chosen folder, and what it writes goes to the log. A folder that is no
project is told in the log; so is a tool that fails.
-/

namespace StudioMigration

def launcherName : String := "analyzer"

/-- Where a tool stands below the directory of a bundle. -/
def Tool.place : Tool → List String
  | .analysis => [Tool.analysis.file]
  | tool => ["helpers", tool.file]

/-- The path of a tool in a bundle; outside of bundles tools are built in. -/
def Tool.bundlePath? (tool : Tool) (session : Session) : Option Path :=
  session.installation.bundleFolder.map fun folder =>
    (session.workspace.resolve folder).descend tool.place

inductive LaunchObstacle where
  | noFolder (folder : String)
  | noProject (folder : String)
  | noTool (path : String)
  deriving DecidableEq, Repr

def LaunchObstacle.describe : LaunchObstacle → String
  | .noFolder folder => s!"Folder does not exist: {folder}"
  | .noProject folder => s!"Folder is not a valid AS4 project: {folder}"
  | .noTool path => s!"Script not found: {path}"

/-- The first obstacle: the folder, then the project in it, then the tool. -/
def launchObstacle? (session : Session) (folder : String) (tool : Option Tool) :
    Except Fault (Option LaunchObstacle) := do
  if session.workspace.holdsNamed folder then
    if ← isMigrationProject session.workspace folder then
      match tool with
      | none => throw .noScript
      | some chosen =>
        match chosen.bundlePath? session with
        | none => return none
        | some path =>
          if session.workspace.holdsNamed path.render then return none
          else return some (.noTool path.render)
    else return some (.noProject folder)
  else return some (.noFolder folder)

/-- The command line of a tool. Only the analysis can do without a result file. -/
def Tool.commandLine (tool : Tool) (folder : String) (verbose : Bool) : List String :=
  folder :: (if tool = .analysis then ["--no-file"] else []) ++ (if verbose then ["--verbose"] else [])

/-- Runs a tool. What stands in a bundle in the place of a tool is read, but has nothing to run. -/
def Tool.launch (tool : Tool) (folder : String) (verbose : Bool) : Script Unit := do
  match tool.bundlePath? (← get) with
  | some path =>
    let _ ← Script.look fun ws => ws.readBytes path
    throw .noEntryPoint
  | none => tool.run launcherName (tool.commandLine folder verbose)

/-- What stands in a log for the place where a failure came up. -/
def failurePlace : String := "<TRACEBACK>"

def sayFailure (fault : Fault) : Script Unit := do
  Script.say ⟨"Execution failed: " ++ fault.message, "ERROR", ""⟩
  Script.say ⟨"Traceback:\n" ++ failurePlace, "ERROR", ""⟩

/-- Whether a fault is an early end that the tool wanted. -/
def Fault.isExit : Fault → Bool
  | .exit _ => true
  | _ => false

namespace Launch

/-- Lets both streams lead to the log. -/
def redirect : Launch Unit :=
  alter fun w => { w with output := .log w.output, errors := .log w.errors }

/-- The end of a run: the streams lead where they led before. -/
def release (before : Window) : Launch Unit :=
  alter fun w => { w with output := before.output, errors := before.errors, spinning := false }

/-- Tells an obstacle; the run ends with it. -/
def refuse (obstacle : LaunchObstacle) : Launch Unit := do
  let _ ← capture (Script.say ⟨obstacle.describe, "ERROR", ""⟩)
  alter fun w => { w with spinning := false }

/-- Runs a tool with everything it writes going to the window. Whatever becomes of it, the streams are given back;
only an early end that the tool wanted gets through. -/
def runCaptured (before : Window) (script : Script Unit) : Launch Unit := do
  match ← capture script with
  | .error fault =>
    if fault.isExit then
      release before
      throw fault
    else
      let _ ← capture (sayFailure fault)
      release before
  | .ok () => release before
  alter fun w => { w with status := "Script finished successfully", hasRun := true }

/-- Goes on once the obstacle is known; `script` is what running a tool does. -/
def proceed (before : Window) (script : Tool → Script Unit) : Option LaunchObstacle → Option Tool → Launch Unit
  | some obstacle, _ => refuse obstacle
  | none, none => pure ()
  | none, some chosen => runCaptured before (script chosen)

/-- Runs the chosen tool on the chosen folder; `launch` says what running a tool does. -/
def runWith (launch : Tool → String → Bool → Script Unit) : Launch Unit := do
  alter fun w => { w with log := {} }
  let folder ← folder
  let shown ← window
  let tool := Tool.ofLabel? shown.choice
  redirect
  let obstacle ← expect (launchObstacle? (← get).session folder tool)
  proceed shown (fun chosen => launch chosen folder shown.verbose) obstacle tool

def runChosen : Launch Unit := runWith Tool.launch

/-- Starts the chosen tool: the status line shows the first frame, and the tool runs. -/
def start : Launch Unit := do
  alter fun w => { w with spinning := true, frame := 0 }.animate
  runChosen

end Launch

end StudioMigration
