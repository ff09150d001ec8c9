import StudioMigration.Analysis.ProjectFile
import StudioMigration.Analysis.Scan

/-!
# mapp packages

Tells what has to be done about the versions of mapp Services and mapp Motion, and which package
directories the hardware configurations of a project still lack.
-/

namespace StudioMigration

open Inspection

/-! ## Versions -/

def servicesNotes (version : PackageVersion) : List Note :=
  ⟨s!"Detected Mapp Services version: {version.render}", "INFO", ""⟩ ::
    if version.major == 5 && version.minor < 20 then
      [⟨"It is recommended to use a mapp Services version 5.20 or later for the conversion." ++
        "\n - If a mapp Services version older than 5.20 is used, the correct conversion of all " ++
        "configuration parameters is not guaranteed." ++
        "\n - Please update the mapp Services version in AS4 to 5.20 or later before migrating to " ++
        "AS6.", "MANDATORY", "AS4"⟩]
    else
      [⟨"The automatic mapp Services configuration upgrade is only available with mapp Services " ++
        "6.0." ++
        "\n - Please ensure the project is converted using AS6 and mapp Services 6.0 before " ++
        "upgrading to newer mapp versions.", "MANDATORY", "AS6"⟩]

def motionNotes (version : PackageVersion) : List Note :=
  [⟨s!"Detected Mapp Motion version: {version.render}", "INFO", ""⟩,
   ⟨"\nYou must first upgrade mappMotion to version 6.0 using 'Change runtime versions' in AS6." ++
    "\nOnce mappMotion 6.0 is set, a dialog will assist with converting all project " ++
    "configurations.", "MANDATORY", "AS6"⟩]

def inspectMappLine (line : List Char) : Inspection Unit := do
  if declares "<mapp " line || declares "<mappServices" line then
    match ← versionOf line with
    | some version => sayAll (servicesNotes version)
    | none => pure ()
  if Text.hasInfix "<mappMotion ".toList line && Text.hasInfix "Version=\"5.".toList line then
    match ← versionOf line with
    | some version => sayAll (motionNotes version)
    | none => pure ()

/-! ## Motion -/

inductive MotionChoice where
  | mappMotion
  | acp10
  | none
  deriving DecidableEq, Repr

def MotionChoice.name : MotionChoice → String
  | .mappMotion => "mappMotion"
  | .acp10 => "acp10"
  | .none => "none"

/-- Letters, digits and the underscore, and the letters that are ASCII letters up to case. -/
def isLooseWord (c : Char) : Bool :=
  Text.isAsciiWord c || c.toNat == 0x130 || c.toNat == 0x131 || c.toNat == 0x17F ||
    c.toNat == 0x212A

def acp10Pattern : Pattern :=
  .all [.literal "<", .spaces, .anyCase "Acp10", .many isLooseWord, .boundary]

def mappMotionPattern : Pattern :=
  .all [.literal "<", .spaces, .anyCase "mappMotion", .boundary]

/-- The motion software that a project file lists; mapp Motion wins. -/
def motionListed (text : List Char) : MotionChoice :=
  if mappMotionPattern.occursIn text then .mappMotion
  else if acp10Pattern.occursIn text then .acp10
  else .none

/-! ## Package directories -/

def requiredPackages : MotionChoice → List String
  | .mappMotion => ["mappServices", "mappView", "mappMotion", "mappCockpit"]
  | _ => ["mappServices", "mappView"]

def referencePattern (name : String) : Pattern :=
  .all [.anyCase "Reference", .spaces, .literal "=", .spaces, .anyCase "\"true\"",
    .fewest (fun _ => true), .anyCase name, .many1 (fun c => c == '\\' || c == '/'),
    .anyCase "Package.pkg"]

def packageListNames : List String := ["cpu.pkg", "Cpu.pkg", "CPU.pkg"]

def firstThere : List Path → Inspection (Option Path)
  | [] => pure none
  | path :: rest => do
    let there ← ask fun ws => ws.holds path
    if there then pure (some path) else firstThere rest

/-- The package list of a hardware configuration: in the first of its directories that has one. -/
def packageList? (configuration : Path) : Inspection (Option Path) := do
  let found ← ask fun ws => ws.list configuration
  let folders := (found.filter (·.2.isDirectory)).map fun (name, _) => configuration.child name
  firstThere (folders.flatMap fun folder => packageListNames.map folder.child)

/-- The needed packages without a package file below a hardware configuration. -/
def absentPackages (configuration : Path) (needed : List String) : Inspection (List String) := do
  let files ← ask fun ws => ws.find configuration (· == "Package.pkg")
  let present := files.map fun (path, _) => path.parent.name
  return needed.filter fun name => !present.contains name

/-- The absent packages that a package list does not refer to either. -/
def unreferenced (list : Path) (absent : List String) : Inspection (List String) := do
  try
    let text ← ask fun ws => ws.readLenient list
    return absent.filter fun name => !(referencePattern name).occursIn text
  catch fault =>
    say ⟨s!"Could not read {list.render}: {fault.message}", "WARNING", ""⟩
    return absent

def lackingPackages (configuration : Path) (needed : List String) : Inspection (List String) := do
  let absent ← absentPackages configuration needed
  if absent.isEmpty then return []
  match ← packageList? configuration with
  | some list => unreferenced list absent
  | none => return absent

def lackingConfigurations (needed : List String) :
    List Path → Inspection (List (String × List String))
  | [] => pure []
  | configuration :: rest => do
    let lacking ← lackingPackages configuration needed
    let others ← lackingConfigurations needed rest
    return if lacking.isEmpty then others else (configuration.name, lacking) :: others

def lackingNote (lacking : List (String × List String)) : Note :=
  let lines := lacking.map fun (name, packages) =>
    s!"\n  - '{name}': " ++ Text.joinStrings ", " (sortedNames packages)
  ⟨"\nSome configurations are missing one or more of the required mapp folders" ++
    String.join lines ++
    "\n\nYou can use the script 'helpers/create_mapp_folders.py' to create the mapp folder " ++
    "structure in the Physical directory.", "MANDATORY", "AS4"⟩

def inspectMappPackages (project : Path) : Inspection Unit := do
  say (.heading "Checking mapp version in project file...")
  let text ← ask fun ws => ws.readLenient project
  (Text.lines text).forM inspectMappLine
  let needed := requiredPackages (motionListed text)
  let physical := project.parent.child "Physical"
  let isDirectory ← ask fun ws => ws.isDirectory physical
  if isDirectory then
    let found ← ask fun ws => ws.list physical
    let configurations := (found.filter (·.2.isDirectory)).map fun (name, _) => physical.child name
    let lacking ← lackingConfigurations needed configurations
    sayIf (!lacking.isEmpty) (lackingNote lacking)
  else
    say ⟨s!"Could not find Physical in {project.parent.render}", "ERROR", ""⟩

end StudioMigration
