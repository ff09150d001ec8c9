import StudioMigration.Inspection

/-!
# Sessions and scripts

A session is what a running tool deals with: the workspace, what it has written to its output streams,
and whoever answers its questions, be it a terminal or a window with message boxes. A script is a run in
a session; a script that fails keeps what it did before.
-/

namespace StudioMigration

/-- What a tool does on the desktop. -/
inductive DesktopEvent where
  /-- A message box with a title and a text. -/
  | box (title text : String)
  /-- A page opened in the browser; its address is a text unless it comes from outside. -/
  | page (address : Json)
  | notice (title text : String)
  | failure (title text : String)
  | warning (title text : String)
  | mailCall (name : String)
  | mailShown
  /-- A mail with its subject, its body and a file attached to it. -/
  | mailFilled (subject body attachment : String)
  /-- Another program started with arguments and, if they are set, variables. -/
  | started (arguments : List String) (environment : Option (List String))
  | popupTitle (text : String)
  | popupBackground (colour : String)
  | popupGeometry (text : String)
  | label (text background foreground : String)
  | opened (title : String)

/-- Who answers questions. -/
inductive Respondent where
  | nobody
  /-- A terminal with some input waiting. -/
  | terminal (input : List Char)
  | window
  deriving DecidableEq, Repr

structure WebRequest where
  address : String
  agent : String
  /-- How long to wait, in seconds. -/
  patience : Nat
  deriving DecidableEq, Repr

/-- Where the running program was installed. -/
structure Installation where
  /-- The version given from outside. -/
  releaseVariable : Option String := none
  bundled : Bool := false
  /-- The directory of the program file, if it is known. -/
  programFolder : Option Path := none
  bundleFolder : Option Path := none

/-- The surroundings of a running tool. -/
structure Session where
  workspace : Workspace
  respondent : Respondent := .nobody
  /-- Answers waiting for message boxes and dialogs. -/
  answers : List String := []
  installation : Installation := {}
  /-- What servers answer, if they can be reached. -/
  response : Option Text.Utf8.Bytes := none
  /-- What was written, piece by piece. -/
  written : List (Stream × String) := []
  events : List DesktopEvent := []
  requests : List WebRequest := []
  /-- How many pieces had been written when a question first found a terminal without input. -/
  unanswered : Option Nat := none
  /-- How long the checks of a project take, in hundredths of a second. -/
  scanTime : Nat := 0

abbrev Script := ExceptT Fault (StateM Session)

namespace Script

def look {α : Type} (question : Workspace → Except Fault α) : Script α := do
  let session ← get
  match question session.workspace with
  | .ok value => pure value
  | .error fault => throw fault

def change (edit : Workspace → Except Fault Workspace) : Script Unit := do
  let session ← get
  match edit session.workspace with
  | .ok ws => set { session with workspace := ws }
  | .error fault => throw fault

/-- Makes the directory at a path; one that is there already is left alone. -/
def makeDirectory (path : Path) : Script Unit := do
  try change fun ws => ws.makeDirectory path
  catch
    | .file obstacle shown =>
      if ← look fun ws => ws.isDirectory path then pure () else throw (.file obstacle shown)
    | fault => throw fault

/-- Makes the directory at a path given by its anchor and its parts, the last one first, and whatever is
missing above it. What was made stays, even if something further down cannot be made. -/
def makeUpwards (anchor : Anchor) : List String → Script Unit
  | [] => makeDirectory ⟨anchor, []⟩
  | last :: above => do
    let path : Path := ⟨anchor, (last :: above).reverse⟩
    try makeDirectory path
    catch
      | .file .missing _ =>
        makeUpwards anchor above
        makeDirectory path
      | fault => throw fault

/-- Makes the directory at a path and whatever is missing above it. -/
def makeDirectories (path : Path) : Script Unit := makeUpwards path.anchor path.parts.reverse

def write (stream : Stream) (text : String) : Script Unit :=
  modify fun session => { session with written := session.written ++ [(stream, text)] }

def print (stream : Stream) (text : String) : Script Unit := do
  write stream text
  write stream "\n"

/-- Shows a note, with an empty line in front. -/
def say (note : Note) : Script Unit := print note.stream ("\n" ++ note.consoleText)

def record (event : DesktopEvent) : Script Unit :=
  modify fun session => { session with events := session.events ++ [event] }

/-- The next answer of a message box or dialog; nothing if none is waiting. -/
def nextAnswer : Script String := do
  let session ← get
  match session.answers with
  | [] => pure ""
  | answer :: rest =>
    set { session with answers := rest }
    pure answer

def fetch (request : WebRequest) : Script Text.Utf8.Bytes := do
  modify fun session => { session with requests := session.requests ++ [request] }
  let session ← get
  match session.response with
  | some body => pure body
  | none => throw .networkDown

/-- Conducts an inspection; `keep` says what becomes of its notes. -/
def conduct {α : Type} (keep : Note → Script Unit) : Inspection α → Script α
  | .done value => pure value
  | .failed fault => throw fault
  | .note entry next => do
    keep entry
    conduct keep next
  | .look next => do
    let session ← get
    conduct keep (next session.workspace)

/-- Runs a script and gives its result and the session after it. -/
def exec {α : Type} (script : Script α) (session : Session) : Except Fault α × Session :=
  script.run session

/-! ## Questions -/

/-- The text of a question for a message box: without the marks that a terminal user needs. -/
def boxQuestion (question : String) : String :=
  let plain :=
    Text.replaceString "[n]" "" (Text.replaceString "[y]" "" (Text.replaceString "(y/n)" "" question))
  Text.trimString (String.ofList (Text.trimWhere (fun c => c == ':' || c == ' ') plain.toList))

/-- Takes a line from waiting terminal input: the line and what remains. -/
def takeLine? (input : List Char) : Option (List Char × List Char) :=
  if input.isEmpty then none
  else some (input.takeWhile (· != '\n'), (input.dropWhile (· != '\n')).drop 1)

def useFallback (question fallback : String) : Script String := do
  say ⟨s!"{question} (Automatically using default: '{fallback}')", "INFO", ""⟩
  pure fallback

/-- Asks the user. A window shows a message box with `remark` above the question, and only the button
`Yes` is a yes. A terminal reads a line. Without either, or without input, `fallback` is the answer. -/
def askUser (question : String) (fallback : String) (remark : String) : Script String := do
  let session ← get
  match session.respondent with
  | .window =>
    let shown := (if remark == "" then "" else remark ++ "\n\n") ++ boxQuestion question
    record (.box "Question" shown)
    let answer ← nextAnswer
    let choice := if answer == "Yes" then "y" else "n"
    say ⟨s!"{question} (User selected: '{choice}')", "INFO", ""⟩
    pure choice
  | .terminal input =>
    write .out question
    match takeLine? input with
    | some (line, rest) =>
      modify fun session => { session with respondent := .terminal rest }
      pure (Text.lowerString (Text.trimString (String.ofList line)))
    | none =>
      modify fun session =>
        { session with unanswered := session.unanswered <|> some session.written.length }
      say ⟨"ask_user fallback triggered due to: " ++ Fault.endOfInput.message, "DEBUG", ""⟩
      useFallback question fallback
  | .nobody => useFallback question fallback

end Script

end StudioMigration
