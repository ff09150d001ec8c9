import StudioMigration.Files.Glob
import StudioMigration.Inspection
import StudioMigration.Xml.Reader

/-!
# Scanning files

A scan reads texts and yields what it finds in each. Files are visited ending by ending, and for each
ending in walking order; what is found is put together in that order.
-/

namespace StudioMigration

/-- What a scan makes of a file, given its name and its text. -/
abbrev FileScan (α : Type) := String → List Char → List α

def hasEnding (ending name : String) : Bool := ending.toList.isSuffixOf name.toList

/-- Whether an ending is more than a piece of a name: it has wildcards, or leads on into directories. -/
def isPatternEnding (ending : String) : Bool := ending.toList.any fun c => isWildcard c || c == '/'

def Workspace.entriesFitting (ws : Workspace) (start : Path) (pattern : String) :
    Except Fault (List (Path × Entry)) := do
  let glob ← Glob.read pattern
  let paths ← ws.findFitting start glob
  paths.filterMapM fun path => do return (← ws.status path).map fun entry => (path, entry)

def entriesEnding (start : Path) (ending : String) : Inspection (List (Path × Entry)) :=
  Inspection.ask fun ws =>
    if isPatternEnding ending then ws.entriesFitting start ("*" ++ ending)
    else ws.find start (hasEnding ending)

def filesEnding (start : Path) (ending : String) : Inspection (List Path) := do
  let found ← entriesEnding start ending
  return (found.filter (·.2.isFile)).map (·.1)

def filesEndingAny (start : Path) : List String → Inspection (List Path)
  | [] => pure []
  | ending :: rest => do
    let files ← filesEnding start ending
    let others ← filesEndingAny start rest
    return files ++ others

def scanFile {α : Type} (scan : FileScan α) (file : String) : Inspection (List α) := do
  let text ← Inspection.ask fun ws => ws.readLenient (Path.ofString file)
  return scan file text

def scanEach {α : Type} (scan : FileScan α) : List Path → Inspection (List α)
  | [] => pure []
  | file :: rest => do
    let found ← scanFile scan file.render
    let others ← scanEach scan rest
    return found ++ others

def scanFiles {α : Type} (start : Path) (endings : List String) (scan : FileScan α) :
    Inspection (List α) := do
  let files ← filesEndingAny start endings
  scanEach scan files

/-- How what is found in files is brought together, given the endings of the files and what to make of each
of them. -/
abbrev Scanner := (α : Type) → List String → FileScan α → Inspection (List α)

/-- The scanner that takes the files below a directory one after the other. -/
def inTurn (start : Path) : Scanner := fun _ endings scan => scanFiles start endings scan

/-! ## Documents -/

def readDocument (path : Path) : Inspection XmlDocument := do
  let bytes ← Inspection.ask fun ws => ws.readBytes path
  match Xml.read .inspecting bytes with
  | .ok document => pure document
  | .error refusal => throw (.xml .inspecting refusal)

/-! ## Groups -/

def pairLe (a b : String × String) : Bool := a.1 < b.1 || (a.1 == b.1 && a.2 ≤ b.2)

/-- Findings gathered under their group names. The groups come in the order in which they first
occur. -/
def gather {α : Type} (findings : List (String × α)) : List (String × List α) :=
  (findings.map (·.1)).eraseDups.map fun group =>
    (group, (findings.filter (·.1 == group)).map (·.2))

/-- Findings gathered under their group names, with what is in a group put in order. -/
def blocksOf {α : Type} (arrange : List α → List α) (findings : List (String × α)) : List (String × List α) :=
  (gather findings).map fun (group, found) => (group, arrange found)

def sortedPairs (pairs : List (String × String)) : List (String × String) :=
  pairs.eraseDups.mergeSort pairLe

def sortedNames (names : List String) : List String := names.eraseDups.mergeSort fun a b => a ≤ b

end StudioMigration
