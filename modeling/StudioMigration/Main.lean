import StudioMigration.Tool

/-!
# The command line

`main` runs a tool on the files of this computer. The tool itself works on a workspace in memory: the
directories that the command line mentions are loaded before it runs, and what it changed is written
back after it. A tool that asks a question runs again from the start once there is an answer, and only
what is new is printed.
-/

namespace StudioMigration.CommandLine

def pathText (location : Location) : String := (Path.mk .top location).render

/-- Adds what stands at a location on disk, and the directories above it, to a tree. -/
partial def load (tree : Tree) (location : Location) : IO Tree := do
  let path := (← IO.currentDir) / pathText location
  if ← path.isDir then
    let mut loaded := tree.insertDirectories location
    for entry in ← path.readDir do
      loaded ← load loaded (location ++ [entry.fileName])
    return loaded
  else if ← path.pathExists then
    let content ← IO.FS.readBinFile path
    return (tree.insertDirectories location.dropLast).insert location (.file content.toList)
  else
    match location with
    | [] => return tree
    | _ =>
      let above := (← IO.currentDir) / pathText location.dropLast
      if ← above.isDir then return tree.insertDirectories location.dropLast
      else return tree

/-- Writes back what differs between two trees. -/
def store (before after : Tree) : IO Unit := do
  for (location, entry) in after.below [] do
    if before.get? location != some entry then
      match entry with
      | .directory => IO.FS.createDirAll (pathText location)
      | .file bytes => IO.FS.writeBinFile (pathText location) ⟨bytes.toArray⟩
      | .fullDevice => pure ()

/-- The paths that a command line mentions: its words, without the names of options. -/
def mentioned (line : List String) : List String :=
  line.filterMap fun word =>
    if word.toList.head? == some '-' then
      match word.toList.dropWhile (· != '=') with
      | [] => none
      | _ :: value => some (String.ofList value)
    else some word

def printPieces (pieces : List (Stream × String)) : IO Unit := do
  for (stream, text) in pieces do
    match stream with
    | .out => IO.print text
    | .err => IO.eprint text
  (← IO.getStdout).flush

/-- Ends a run: prints the rest, writes the changes and gives the exit code. -/
def conclude (before : Session) (outcome : Except Fault Unit) (after : Session) (printed : Nat) :
    IO UInt32 := do
  printPieces (after.written.drop printed)
  store before.workspace.tree after.workspace.tree
  match outcome with
  | .ok () => return 0
  | .error (.exit code) => return code.toUInt32
  | .error fault =>
    IO.eprintln s!"error: {fault.message}"
    return 1

/-- Runs a tool with the input read so far, and again whenever there is more. -/
partial def converse (script : Script Unit) (session : Session) (input : List Char) (printed : Nat) :
    IO UInt32 := do
  let start ← IO.monoMsNow
  let (outcome, after) := script.exec { session with respondent := .terminal input }
  match after.unanswered with
  | some count =>
    printPieces ((after.written.take count).drop printed)
    let answer ← (← IO.getStdin).getLine
    if answer.isEmpty then conclude session outcome after count
    else converse script session (input ++ answer.toList) count
  | none =>
    let stop ← IO.monoMsNow
    let timed := { session with respondent := .terminal input, scanTime := (stop - start) / 10 }
    let (outcome, after) := script.exec timed
    conclude session outcome after printed

def runTool (tool : Tool) (line : List String) : IO UInt32 := do
  let here := (Path.ofString (toString (← IO.currentDir))).parts
  let bare : Workspace := ⟨Tree.empty.insertDirectories here, here⟩
  let paths := mentioned line
  let mut tree := bare.tree
  for path in if paths.isEmpty then ["."] else paths do
    tree ← load tree (bare.resolve (Path.ofString path)).parts
  let release ← IO.getEnv "RELEASE_VERSION"
  let session : Session :=
    { workspace := ⟨tree, here⟩, installation := { releaseVariable := release } }
  converse (tool.run tool.file line) session [] 0

end StudioMigration.CommandLine

def main (line : List String) : IO UInt32 := do
  match line with
  | word :: rest =>
    match StudioMigration.Tool.ofWord? word with
    | some tool => StudioMigration.CommandLine.runTool tool rest
    | none =>
      IO.eprintln s!"unknown tool: {word}"
      return 2
  | [] =>
    let words := StudioMigration.Tool.all.map StudioMigration.Tool.word
    IO.eprintln ("usage: TOOL [ARGUMENT ...]\ntools: " ++ String.intercalate ", " words)
    return 2
