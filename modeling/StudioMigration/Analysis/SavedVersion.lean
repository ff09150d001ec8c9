import StudioMigration.Analysis.Scan

/-!
# Saved versions

Project and hardware files tell which version of Automation Studio saved them. Files that were last
saved by a version other than 4.12 cannot be migrated.
-/

namespace StudioMigration

/-- The place where a file tells its version; the group is the version. -/
def savedVersionPattern : Pattern :=
  .all [.literal "AutomationStudio ", .optional (.literal "Working"), .literal "Version=",
    .optional (.literal "\""), .group 1 (.many1 fun c => Text.isDecimal c || c == '.')]

def requiredVersion : String := "4.12"

/-- What is wrong with the saved version of a text, if anything. -/
def versionIssue? (text : List Char) : Option String :=
  match (savedVersionPattern.search text).map (·.group 1) with
  | some version =>
    if requiredVersion.toList.isPrefixOf version then none
    else some ("Version " ++ String.ofList version)
  | none => some "Version Unknown"

/-- Looks at some files and gives those with an issue. A file that cannot be read is noted at once. -/
def savedVersionIssues : List Path → Inspection (List (String × String))
  | [] => pure []
  | file :: rest => do
    let issue ←
      try
        let text ← Inspection.ask fun ws => ws.readText file
        pure (versionIssue? text)
      catch fault =>
        Inspection.say ⟨s!"Error reading file {file.render}: {fault.message}", "ERROR", ""⟩
        pure none
    let others ← savedVersionIssues rest
    return (issue.map fun text => (file.render, text)).toList ++ others

def savedVersionNotes (verbose : Bool) (issues : List (String × String)) : List Note :=
  if issues.isEmpty then
    if verbose then [⟨"All project and hardware files are valid.", "VERBOSE", ""⟩] else []
  else
    ⟨"The following files are incompatible with the required version:", "MANDATORY", ""⟩ ::
      issues.map (fun (file, issue) => ⟨s!"- {file}: {issue}", "", ""⟩) ++
      [⟨"Please ensure these files are saved at least once with Automation Studio 4.12",
        "MANDATORY", ""⟩]

def savedVersionIssuesFor (start : Path) : List String → Inspection (List (String × String))
  | [] => pure []
  | ending :: rest => do
    let files ← filesEnding start ending
    let issues ← savedVersionIssues files
    let others ← savedVersionIssuesFor start rest
    return issues ++ others

def inspectSavedVersions (start : Path) (endings : List String) (verbose : Bool) :
    Inspection Unit := do
  Inspection.say (.heading "Checking project and hardware files for compatibility...")
  let issues ← savedVersionIssuesFor start endings
  Inspection.sayAll (savedVersionNotes verbose issues)

end StudioMigration
