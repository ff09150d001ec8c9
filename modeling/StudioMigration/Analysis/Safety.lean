import StudioMigration.Analysis.Scan

/-!
# Safety

Finds out which safety system a project uses: mapp Safety, an older safety release, or none that is
known.
-/

namespace StudioMigration

open Inspection

/-- The setting of a safety release; the groups are its two numbers. -/
def safetyReleasePattern : Pattern :=
  .all [.literal "SafetyRelease=\"", .group 1 (.many1 Text.isDecimal), .literal ".",
    .group 2 (.many1 Text.isDecimal), .literal "\""]

def setsSafetyRelease (text : List Char) : Bool :=
  match safetyReleasePattern.search text with
  | some found => found.group 1 != ['0'] || found.group 2 != ['0']
  | none => false

def mappSafetyNote : Note :=
  ⟨"Migrating from mapp Safety 5.x to mapp Safety 6.x - " ++
    "All conversion steps are carried out automatically by the system; no action by the user is " ++
    "necessary.", "INFO", ""⟩

def safetyReleaseNote : Note :=
  ⟨"Legacy safety is no longer supported with AS 6.x." ++
    "\n - When upgrading from a Safety Release to mapp Safety 6.x, all conversion steps from the " ++
    "Safety Release to mapp Safety 5.x must be performed in AS 4.x first." ++
    "\n - More info: Safety/Conversion", "MANDATORY", "AS4"⟩

/-- Whether the project file lists mapp Safety. A file that cannot be read is noted. -/
def findMappSafety (project : Path) : Inspection Bool := do
  try
    let document ← readDocument project
    if document.descendants.any (·.base == "mappSafety") then
      say mappSafetyNote
      pure true
    else pure false
  catch fault =>
    say ⟨s!"Failed to parse .apj file: {fault.message}", "ERROR", ""⟩
    pure false

/-- Whether one of the package files sets a safety release; looks no further than the first. Files that
cannot be read are noted. -/
def findSafetyRelease : List Path → Inspection Bool
  | [] => pure false
  | file :: rest => do
    let found ←
      try
        let text ← ask fun ws => ws.readLenient file
        pure (setsSafetyRelease text)
      catch fault =>
        say ⟨s!"Failed to read {file.render}: {fault.message}", "ERROR", ""⟩
        pure false
    if found then
      say safetyReleaseNote
      pure true
    else findSafetyRelease rest

def inspectSafetySystem (project : Path) : Inspection Bool := do
  if ← findMappSafety project then pure true
  else
    let packages ← entriesEnding (project.parent.child "Physical") ".pkg"
    if ← findSafetyRelease (packages.map (·.1)) then pure true
    else
      let programs ← entriesEnding project.parent ".swt"
      sayAll (programs.map fun (path, _) =>
        ⟨"Safety .swt file found but no SafetyRelease or MappSafety version found: " ++ path.render,
          "WARNING", ""⟩)
      pure false

def inspectSafety (project : Path) : Inspection Unit := do
  say (.heading "Checking for safety...")
  let found ← inspectSafetySystem project
  sayIf (!found) ⟨"No safety system detected", "INFO", ""⟩

end StudioMigration
