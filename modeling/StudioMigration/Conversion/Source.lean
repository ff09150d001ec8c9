import StudioMigration.Conversion.Renaming
import StudioMigration.Files.Digest
import StudioMigration.Session

/-!
# Source files

Conversions read sources in Latin-1 and write them back if their text has changed. A text that does not
fit the encoding leaves an empty file behind.
-/

namespace StudioMigration

open Script
open StudioMigration.Text.Utf8 (Bytes)

def sourceText (bytes : Bytes) : List Char := Text.unifyNewlines (Text.Latin1.decode bytes)

def readSource (file : Path) : Script Bytes := look fun ws => ws.readBytes file

def writeSource (file : Path) (text : List Char) : Script Unit :=
  match Text.Latin1.encode text with
  | .ok bytes => change fun ws => ws.writeBytes file bytes
  | .error run => do
    change fun ws => ws.writeBytes file []
    throw (.unencodable run)

/-- A count in a message: right-aligned in four columns. -/
def countText (count : Nat) : String := String.ofList (Text.padLeft 4 (toString count).toList)

/-- Writes a changed text back. The result tells whether the digest of the file differs from that of
`before`. -/
def storeChanged (file : Path) (before : Bytes) (text : List Char) : Script Bool := do
  if text == sourceText before then return false
  writeSource file text
  let after ← readSource file
  return Digest.digest after != Digest.digest before

def writtenNote (count : Nat) (noun : String) (file : Path) : Note :=
  ⟨s!"{countText count} {noun} written to: {file.render}", "INFO", ""⟩

/-- What was replaced in a file by two renamings in a row. -/
structure PairOutcome where
  first : Nat
  second : Nat
  changed : Bool
  deriving DecidableEq, Repr

/-- What was replaced in a file by one renaming. -/
structure SingleOutcome where
  count : Nat
  changed : Bool
  deriving DecidableEq, Repr

def renameCode (functions constants : Renaming) (text : List Char) :
    Except Fault (List Char × Nat × Nat) := do
  let (renamed, calls) ← renameAll .call functions text
  let (final, words) ← renameAll .word constants renamed
  return (final, calls, words)

def convertCode (functions constants : Renaming) (file : Path) : Script PairOutcome := do
  let before ← readSource file
  let (text, calls, words) ← liftExcept (renameCode functions constants (sourceText before))
  let changed ← storeChanged file before text
  if changed then say (writtenNote (calls + words) "changes" file)
  return ⟨calls, words, changed⟩
where
  liftExcept {α : Type} : Except Fault α → Script α
    | .ok value => pure value
    | .error fault => throw fault

/-! ## Whole trees -/

/-- Everything below the sources of a project with one of the given extensions, in walking order. -/
def sourcesWith (logical : Path) (extensions : List String) : Script (List Path) := do
  let found ← look fun ws => ws.find logical fun _ => true
  return (found.map (·.1)).filter fun path => extensions.contains path.extension

/-! ## Asking first -/

def libraryList (project : Path) : Path :=
  ((project.child "Logical").child "Libraries").child "Package.pkg"

def libraryListText? (project : Path) : Script (Option (List Char)) := do
  let file := libraryList project
  let there ← look fun ws => ws.isFile file
  if there then some <$> look fun ws => ws.readLatin file else pure none

/-- The libraries among `names` that the library list of a project mentions. Without a list, a note says
so. -/
def librariesIn (project : Path) (names : List String) (complaint : String) :
    Script (List String) := do
  match ← libraryListText? project with
  | some text => return names.filter fun name => Text.hasInfix name.toList text
  | none =>
    say ⟨complaint ++ (libraryList project).render, "ERROR", ""⟩
    return []

/-- Asks whether to go on. If the answer is not among `yes`, a note says that nothing was done. -/
def confirm (question remark : String) (yes : List String) : Script Bool := do
  let answer ← askUser question "y" remark
  if yes.contains answer then return true
  say ⟨"Operation cancelled. No changes were made.", "WARNING", ""⟩
  return false

def anywayQuestion : String :=
  "Do you want to proceed with replacing functions and constants anyway? (y/n) [y]: "

def continueQuestion : String := "Do you want to continue? (y/n) [y]: "

def noWayBackRemark : String :=
  "After conversion, the project will no longer compile in Automation Studio 4."

def backupNote : Note :=
  ⟨"Before proceeding, make sure you have a backup or are using version control (e.g., Git).",
    "WARNING", ""⟩

def announceProject (project file : String) : Script Unit := do
  say ⟨s!"Project path validated: {project}", "", ""⟩
  say ⟨s!"Using project file: {file}\n", "", ""⟩

/-- The project named on a command line: its first argument, or the current directory. -/
def projectArgument (line : List String) : Script String := do
  match line with
  | project :: _ => pure project
  | [] => return (← get).workspace.current.render

def closingNote (nothing : String) (total : Nat) : Note :=
  if total == 0 then ⟨nothing, "INFO", ""⟩ else ⟨"Replacement completed successfully.", "INFO", ""⟩

end StudioMigration
