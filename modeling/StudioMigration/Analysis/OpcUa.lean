import StudioMigration.Analysis.Scan

/-!
# OPC UA configuration

Default view files belong in a directory `Connectivity/OpcUA` and need file version 9.
-/

namespace StudioMigration

def defaultViewFolder : String := "Connectivity/OpcUA"

/-- Whether a file, seen from `start`, stands in the right directory. -/
def isWellPlaced (start file : Path) : Bool :=
  let folder : Path := .relative (file.parts.dropLast.drop start.parts.length)
  hasEnding defaultViewFolder folder.render

def leastViewVersion : Int := 9

/-- Whether a document tells too old a file version. One without a version is old; one whose version is
no number is not. -/
def hasOldViewVersion (document : XmlDocument) : Bool :=
  match document.rootElement.attribute? "" "FileVersion" with
  | none => true
  | some value =>
    match Text.readInt value with
    | .ok version => version < leastViewVersion
    | .error _ => false

/-- The files that tell too old a file version. Files that cannot be read are passed over. -/
def oldViewFiles : List Path → Inspection (List Path)
  | [] => pure []
  | file :: rest => do
    let isOld ←
      try hasOldViewVersion <$> readDocument file
      catch _ => pure false
    let others ← oldViewFiles rest
    return if isOld then file :: others else others

def defaultViewNotes (verbose : Bool) (misplaced old : List Path) : List Note :=
  (if misplaced.isEmpty then
    if verbose then [⟨"- All .uad files are in the correct location.", "INFO", ""⟩] else []
  else
    ⟨"The following .uad files are not located in the required Connectivity/OpcUA directory:",
        "MANDATORY", "AS4"⟩ ::
      misplaced.map (fun file => ⟨s!"- {file.render}", "MANDATORY", ""⟩) ++
      [⟨"\nPlease create (via AS 4.12) and move these files to the required directory: " ++
        "Connectivity/OpcUA.", "MANDATORY", ""⟩]) ++
  (if old.isEmpty then
    if verbose then [⟨"- All .uad files have the correct minimum version.", "INFO", ""⟩] else []
  else
    ⟨"The following .uad files do not have the minimum file version 9:", "MANDATORY", "AS4"⟩ ::
      old.map (fun file => ⟨s!"- {file.render}", "", ""⟩) ++
      [⟨"Please edit the uad file, make a small change and save the file to trigger the file update.",
        "MANDATORY", "AS4"⟩])

/-- Looks at the default view files below a directory. -/
def inspectOpcUa (start : Path) (verbose : Bool) : Inspection Unit := do
  Inspection.say (.heading "Checking OPC configuration...")
  let found ← entriesEnding start ".uad"
  let files := found.map (·.1)
  let old ← oldViewFiles files
  Inspection.sayAll (defaultViewNotes verbose (files.filter fun f => !isWellPlaced start f) old)

end StudioMigration
