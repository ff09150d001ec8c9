import StudioMigration.Analysis.Scan
import StudioMigration.Catalogue.Hardware

/-!
# Hardware modules

Finds hardware modules that are no longer supported, and reports them by hardware configuration: each
configuration once, with each module and reason once, in order.
-/

namespace StudioMigration

structure HardwareFinding where
  type : String
  reason : String
  file : String
  deriving DecidableEq, Repr

/-- A module tag with a type; the group is the type. -/
def modulePattern : Pattern :=
  .all [.literal "<Module ", .many (· != '>'), .literal "Type=\"", .group 1 (.many1 (· != '"')),
    .literal "\""]

def moduleTypes (text : List Char) : List String :=
  (modulePattern.findGroups text).map String.ofList

def TypeRange.holds (range : TypeRange) (type : String) : Bool :=
  match range with
  | .listed types => types.contains type
  | .named text => Text.occursIn type text

def scanHardware (catalogue : HardwareCatalogue) : FileScan HardwareFinding := fun file text =>
  ((moduleTypes text).flatMap fun type =>
    (catalogue.filter fun (_, range) => range.holds type).map fun (reason, _) =>
      (⟨type, reason, file⟩ : HardwareFinding)).eraseDups

def HardwareFinding.item (finding : HardwareFinding) : String × String := (finding.type, finding.reason)

def hardwareBlockNotes (block : String × List (String × String)) : List Note :=
  ⟨s!"\nHardware configuration: {block.1}", "", ""⟩ ::
    block.2.map fun (type, reason) => ⟨s!"- {type}: {reason}", "", ""⟩

def hardwareReport (verbose : Bool) (blocks : List (String × List (String × String))) : List Note :=
  if blocks.isEmpty then
    if verbose then [⟨"No unsupported hardware found in the project.", "INFO", ""⟩] else []
  else
    ⟨"The following unsupported hardware were found:", "WARNING", "AS4"⟩ ::
      blocks.flatMap hardwareBlockNotes

def hardwareNotes (verbose : Bool) (findings : List HardwareFinding) : List Note :=
  hardwareReport verbose (blocksOf sortedPairs (findings.map fun f => (folderOf f.file, f.item)))

def inspectHardwareWith (scanner : Scanner) (verbose : Bool) : Inspection Unit := do
  Inspection.say (.heading "Checking for invalid hardware...")
  let findings ← scanner _ [".hw"] (scanHardware Catalogue.unsupportedHardware)
  Inspection.sayAll (hardwareNotes verbose findings)

/-- Looks for unsupported modules below a directory. -/
def inspectHardware (physical : Path) (verbose : Bool) : Inspection Unit :=
  inspectHardwareWith (inTurn physical) verbose

end StudioMigration
