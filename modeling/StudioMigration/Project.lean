import StudioMigration.Session

/-!
# Projects

A project is a directory with a project file in it. Every tool starts by looking for that file.
-/

namespace StudioMigration

def isProjectName (name : String) : Bool := ".apj".toList.isSuffixOf name.toList

def projectFile? (ws : Workspace) (folder : Path) : Except Fault (Option String) := do
  let isDirectory ← ws.isDirectory folder
  if isDirectory then
    let found ← ws.list folder
    return (found.map (·.1)).find? isProjectName
  else return none

/-- The note on a path that leads nowhere. `caller` is the name of the running program. -/
def noPathNote (caller : String) (project : Path) : Note :=
  ⟨s!"The provided project path does not exist: '{project.render}'" ++
    "\nEnsure the path is correct and the project folder exists." ++
    "\nIf the path contains spaces, make sure to wrap it in quotes, like this:" ++
    s!"\n   python {caller} \"C:\\path\\to\\your\\project\"", "ERROR", ""⟩

def noProjectNote (project : Path) : Note :=
  ⟨s!"No .apj file found in the provided path: {project.render}" ++
    "\nPlease specify a valid Automation Studio project path.", "ERROR", ""⟩

/-- The name of the project file; without one the run ends. -/
def requireProject (caller : String) (folder : String) : Script String := do
  let project := Path.ofString folder
  let there ← Script.look fun ws => ws.holds project
  if there then
    match ← Script.look fun ws => projectFile? ws project with
    | some name => pure name
    | none =>
      Script.say (noProjectNote project)
      throw (.exit 1)
  else
    Script.say (noPathNote caller project)
    throw (.exit 1)

/-- Whether a directory has a project that can be migrated: a project file, and the directories of its
hardware and its sources. -/
def isMigrationProject (ws : Workspace) (folder : String) : Except Fault Bool := do
  let found ← ws.listNamed folder
  return (found.any fun (name, _) => isProjectName name) &&
    ws.isDirectoryNamed (folder ++ "/Physical") && ws.isDirectoryNamed (folder ++ "/Logical")

end StudioMigration
