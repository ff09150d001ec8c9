import StudioMigration.Inspection

/-!
# Project files

A project file lists the technology packages in use with their versions, as a rule one to a line. The
checks on packages look at its lines.
-/

namespace StudioMigration

open Inspection

structure PackageVersion where
  major : Nat
  minor : Nat
  deriving DecidableEq, Repr

def PackageVersion.render (version : PackageVersion) : String := s!"{version.major}.{version.minor}"

/-- The start of a version setting; the groups are the two numbers. -/
def packageVersionPattern : Pattern :=
  .all [.literal "Version=\"", .group 1 (.many1 Text.isDecimal), .literal ".",
    .group 2 (.many1 Text.isDecimal)]

def versionIn (line : List Char) : Except Fault (Option PackageVersion) :=
  match packageVersionPattern.search line with
  | some found =>
    match Text.readNat (found.group 1) with
    | .error flaw => .error (.numeral flaw)
    | .ok m =>
      match Text.readNat (found.group 2) with
      | .error flaw => .error (.numeral flaw)
      | .ok n => .ok (some ⟨m, n⟩)
  | none => .ok none

def declares (piece : String) (line : List Char) : Bool :=
  Text.hasInfix piece.toList line && Text.hasInfix "Version=".toList line

/-- The first version in a line, as part of an inspection. -/
def versionOf (line : List Char) : Inspection (Option PackageVersion) :=
  match versionIn line with
  | .ok version => pure version
  | .error fault => throw fault

def projectLines (project : Path) : Inspection (List (List Char)) := do
  let text ← ask fun ws => ws.readLenient project
  return Text.lines text

/-- Notes on the directories of a given name below the hardware directory of a project. -/
def noteFolders (project : Path) (name : String) : Inspection Unit := do
  let found ← ask fun ws => ws.find (project.parent.child "Physical") (· == name)
  sayAll ((found.filter (·.2.isDirectory)).map fun (path, _) =>
    ⟨s!"{name} folders found at: {path.render}", "INFO", ""⟩)

/-! ## mapp Vision -/

def inspectVisionLine (line : List Char) : Inspection Unit := do
  if declares "<mappVision " line then
    match ← versionOf line with
    | some version =>
      sayAll
        [⟨s!"Found usage of mapp Vision (Version: {version.render})", "INFO", ""⟩,
         ⟨"After migrating to AS6 make sure that IP forwarding is activated under the Powerlink " ++
          "interface! (AR/Features_and_changes)", "MANDATORY", "AS6"⟩]
    | none => pure ()

def inspectVision (project : Path) (verbose : Bool) : Inspection Unit := do
  say (.heading "Checking mappVision version in project file...")
  let lines ← projectLines project
  lines.forM inspectVisionLine
  if verbose then noteFolders project "mappVision"

/-! ## Path and name -/

def isPathChar (c : Char) : Bool := Text.isAsciiWord c || " :\\/!()\x7b\x7d+-@.^=".toList.contains c

def isValidPath (path : String) : Bool := !path.isEmpty && path.toList.all isPathChar

def projectEnding : String := ".apj"

/-- Whether the name of a project file can be kept: at least one word character, then the ending. -/
def isValidProjectName (name : String) : Bool :=
  let stem := name.toList.take (name.length - projectEnding.length)
  projectEnding.toList.isSuffixOf name.toList && !stem.isEmpty && stem.all Text.isAsciiWord

def inspectNaming (path name : String) : Inspection Unit := do
  say (.heading "Checking path and project for invalid characters...")
  sayIf (!isValidPath path || !isValidProjectName name)
    ⟨"Invalid path or project name, see AS4/Migration", "ERROR", ""⟩

end StudioMigration
