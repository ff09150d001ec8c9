import StudioMigration.Report.Document
import StudioMigration.Tool

/-!
# The window of the launcher

The launcher has one window: a folder, a choice of tools, a status line and a log. This module has the
state of the window and what can be done to it without running a tool. `Launch` is an action of the
launcher; one that fails keeps what it did before.
-/

namespace StudioMigration

/-! ## Parts of the window -/

def Tool.label : Tool → String
  | .analysis => "Evaluate AS4 project"
  | .math => "AsMathToAsBrMath"
  | .strings => "AsStringToAsBrStr"
  | .opcUa => "OpcUa Update"
  | .folders => "Create mapp folders"
  | .motion => "MappMotion Update"

def Tool.ofLabel? (label : String) : Option Tool := Tool.all.find? fun tool => tool.label == label

/-- The folder of the window. -/
inductive FolderEntry where
  /-- In a field that can be read and filled. -/
  | field (text : String)
  /-- Given as it is. -/
  | given (text : String)
  deriving DecidableEq, Repr

namespace FolderEntry

/-- The folder, however it is kept. -/
def text : FolderEntry → String
  | .field text => text
  | .given text => text

/-- Reads the field; a given folder has none. -/
def read : FolderEntry → Except Fault String
  | .field text => .ok text
  | .given _ => .error (.noAttribute "str" "get")

end FolderEntry

structure Theme where
  mode : String
  menuBackground : String
  textColour : String
  deriving DecidableEq, Repr

/-- The colours of a mode; every mode but the light one is dark. -/
def Theme.ofMode (mode : String) : Theme :=
  if mode == "Light" then ⟨mode, "#ffffff", "black"⟩ else ⟨mode, "#000000", "white"⟩

/-- What the status line shows, one after the other, while a tool runs. -/
def spinnerFrames : List String := ["⠋", "⠙", "⠹", "⠸", "⠼", "⠴", "⠦", "⠧", "⠇", "⠏"]

/-- What an output stream leads to. -/
inductive StreamTarget where
  /-- Where it led when the program was started. -/
  | own
  /-- The log of a window, in the place of what it led to before. -/
  | log (replaced : StreamTarget)
  deriving DecidableEq, Repr

structure Window where
  folder : FolderEntry := .field ""
  choice : String := Tool.analysis.label
  verbose : Bool := false
  canRun : Bool := false
  hasRun : Bool := false
  status : String := ""
  log : Log := {}
  spinning : Bool := false
  frame : Nat := 0
  theme : Theme := Theme.ofMode "Dark"
  topics : TopicTable := helpTopics
  output : StreamTarget := .own
  errors : StreamTarget := .own

namespace Window

variable (window : Window)

/-- Takes a written piece: one with a carriage return is for the status line, any other for the log. -/
def receive (piece : String) : Window :=
  if piece.toList.contains '\r' then { window with status := Text.trimString piece }
  else { window with log := window.log.add piece }

def receiveAll (pieces : List String) : Window := pieces.foldl receive window

def animate : Window :=
  if window.spinning then
    let shown := spinnerFrames.getD (window.frame % spinnerFrames.length) ""
    { window with status := shown ++ " Running", frame := window.frame + 1 }
  else window

def animateTimes (window : Window) : Nat → Window
  | 0 => window
  | times + 1 => window.animate.animateTimes times

end Window

/-- The shape of the pointer over the log: a hand over links. -/
def pointerShape (overLink : Bool) : String := if overLink then "hand2" else ""

/-! ## The launcher -/

/-- The launcher: its window and its surroundings. -/
structure Launcher where
  window : Window := {}
  session : Session
  now : Moment
  scratch : Path

abbrev Launch := ExceptT Fault (StateM Launcher)

namespace Launch

/-- Runs an action and gives its result and the launcher after it. -/
def exec {α : Type} (action : Launch α) (launcher : Launcher) : Except Fault α × Launcher :=
  action.run launcher

def alter (edit : Window → Window) : Launch Unit :=
  modify fun launcher => { launcher with window := edit launcher.window }

def window : Launch Window := do return (← get).window

/-- Makes a result known or fails. -/
def expect {α : Type} : Except Fault α → Launch α
  | .ok value => pure value
  | .error fault => throw fault

/-- Runs a script in the session and gives its outcome. -/
def attempt {α : Type} (script : Script α) : Launch (Except Fault α) := do
  let launcher ← get
  let (outcome, session) := script.exec launcher.session
  set { launcher with session := session }
  pure outcome

def perform {α : Type} (script : Script α) : Launch α := do
  let outcome ← attempt script
  expect outcome

/-- Runs a script in the session with everything it writes going to the window. -/
def capture {α : Type} (script : Script α) : Launch (Except Fault α) := do
  let launcher ← get
  let (outcome, session) := script.exec { launcher.session with written := [] }
  let pieces := session.written.map Prod.snd
  set { launcher with
    window := launcher.window.receiveAll pieces
    session := { session with written := launcher.session.written } }
  pure outcome

/-! ## Folder and links -/

def folder : Launch String := do expect (← window).folder.read

/-- Fills the field of the folder. A tool can be run once there is a folder. -/
def chooseFolder (text : String) : Launch Unit := do
  match (← window).folder with
  | .field _ => alter fun w => { w with folder := .field text, canRun := text != "" }
  | .given _ => throw (.noAttribute "str" "set")

def browse : Launch Unit := do
  let answer ← perform Script.nextAnswer
  if answer == "" then pure () else chooseFolder answer

/-- Opens the page that the coloured text at an offset leads to. -/
def click (offset : Nat) : Launch Unit := do
  let shown ← window
  match shown.log.colouredTextAt? offset with
  | some text =>
    let address ← expect (webAddress shown.topics (String.ofList text))
    perform (Script.record (.page (.string address)))
  | none => pure ()

/-! ## The program itself -/

def version : Launch String := do
  let launcher ← get
  return toolVersion launcher.session.workspace launcher.session.installation

def openProgramPage : Launch Unit := perform (Script.record (.page (.string programPage)))

def openMainWindow : Launch Unit := do
  perform (Script.record (.opened s!"AS4 to AS6 Migration Tool (Build {← version})"))

end Launch

end StudioMigration
