import StudioMigration.Analysis.Scan

/-!
# File devices and FTP partitions

Finds file devices that lead to a drive letter, and FTP configurations that give access to the system
partition.
-/

namespace StudioMigration

/-! ## File devices -/

/-- A file device that leads to a drive letter. -/
structure DeviceFinding where
  name : String
  path : String
  file : String
  deriving DecidableEq, Repr

def inLine (c : Char) : Bool := c != '\n'

/-- The declaration of a file device; the groups are its name and its path. -/
def devicePattern : Pattern :=
  .all [.literal "<Group ID=\"FileDevice", .many1 Text.isDecimal, .literal "\" />", .spaces,
    .literal "<Parameter ID=\"FileDeviceName", .many1 Text.isDecimal, .literal "\" Value=\"",
    .group 1 (.fewest inLine), .literal "\" />", .spaces,
    .literal "<Parameter ID=\"FileDevicePath", .many1 Text.isDecimal, .literal "\" Value=\"",
    .group 2 (.fewest inLine), .literal "\" />"]

def fileDevices (text : List Char) : List (List Char × List Char) :=
  (devicePattern.findAll text).map fun found => (found.group 1, found.group 2)

/-- The drives that no file device should lead to. -/
def systemDrives : List String := ["c:\\", "d:\\", "e:\\", "f:\\"]

/-- Whether a path starts with one of those drives, in either case. -/
def onSystemDrive (path : List Char) : Bool :=
  systemDrives.any fun drive => drive.toList.isPrefixOf (Text.lower path)

/-- The file devices in a text that lead to a drive letter, each once. -/
def scanFileDevices : FileScan DeviceFinding := fun file text =>
  (((fileDevices text).filter fun (_, path) => onSystemDrive path).map fun (name, path) =>
    (⟨String.ofList name, String.ofList path, file⟩ : DeviceFinding)).eraseDups

/-! ## FTP partitions -/

/-- An FTP configuration that gives access to a partition. -/
structure PartitionFinding where
  partition : String
  file : String
  deriving DecidableEq, Repr

def ftpServerPattern : Pattern :=
  .all [.literal "<Parameter ID=\"ActivateFtpServer\"", .many1 Text.isSpace, .literal "Value=\"",
    .char Text.isDecimal, .literal "\" />"]

/-- The setting of a partition; the group is its name. -/
def partitionPattern : Pattern :=
  .all [.literal "<Parameter ID=\"FTPMSPartition", .many1 Text.isDecimal, .literal "\"",
    .many1 Text.isSpace, .literal "Value=\"", .group 1 (.fewest inLine), .literal "\" />"]

/-- The partition that FTP should not reach. -/
def systemPartition : String := "SYSTEM"

/-- The FTP configurations in a text that give access to the system partition. They are looked for only
where the server has no explicit setting. -/
def scanFtp : FileScan PartitionFinding := fun file text =>
  if ftpServerPattern.occursIn text then []
  else
    (((partitionPattern.findGroups text).filter (· == systemPartition.toList)).map fun name =>
      (⟨String.ofList name, file⟩ : PartitionFinding)).eraseDups

/-! ## The report -/

def DeviceFinding.item (finding : DeviceFinding) : String × String := (finding.name, finding.path)

def deviceBlockNote (block : String × List (String × String)) : Note :=
  let devices := block.2.map fun (name, path) => s!"{name} ({path})"
  ⟨s!" - Hardware configuration '{block.1}': " ++ Text.joinStrings ", " devices, "", ""⟩

variable (verbose : Bool)

def deviceReport (blocks : List (String × List (String × String))) : List Note :=
  if blocks.isEmpty then
    if verbose then [⟨"No invalid file device usages were found", "INFO", ""⟩] else []
  else
    ⟨"The following invalid file devices were found: (accessing system partitions / using drive " ++
        "letters)", "MANDATORY", "AS6"⟩ ::
      blocks.map deviceBlockNote ++
      [⟨"Write operations on a system partition (C:, D:, E:) are not allowed on real targets." ++
        "\n - In the event of error a write operation could destroy the system partition so that " ++
        "the target system can no longer be booted." ++
        "\n - The User partition USER_PATH should be used instead! (AR/Features_and_changes)" ++
        "\n - In ARsim, the directory corresponding to USER_PATH is found at " ++
        "\\<Project>\\Temp\\Simulation\\<Configuration>\\<CPU>\\USER\\.", "MANDATORY", "AS6"⟩]

def deviceNotes (findings : List DeviceFinding) : List Note :=
  deviceReport verbose (blocksOf sortedPairs (findings.map fun f => (folderOf f.file, f.item)))

def partitionBlockNotes (block : String × List String) : List Note :=
  ⟨s!"Hardware configuration: {block.1}", "", ""⟩ ::
    block.2.map fun name => ⟨s!"- Accessing '{name}'", "", ""⟩

def partitionReport (blocks : List (String × List String)) : List Note :=
  if blocks.isEmpty then
    if verbose then [⟨"No potentially invalid ftp configurations found", "INFO", ""⟩] else []
  else
    ⟨"The following potentially invalid ftp configurations were found: (accessing system instead " ++
        "of user partition)", "WARNING", "AS6"⟩ ::
      blocks.flatMap partitionBlockNotes

def partitionNotes (findings : List PartitionFinding) : List Note :=
  partitionReport verbose (blocksOf sortedNames (findings.map fun f => (folderOf f.file, f.partition)))

/-- Looks for such file devices and FTP configurations. -/
def inspectFileDevicesWith (scanner : Scanner) (verbose : Bool) : Inspection Unit := do
  Inspection.say (.heading "Checking for invalid file devices and ftp configurations...")
  let devices ← scanner _ [".hw"] scanFileDevices
  let partitions ← scanner _ [".hw"] scanFtp
  Inspection.sayAll (deviceNotes verbose devices)
  Inspection.sayAll (partitionNotes verbose partitions)

/-- Looks for such file devices and FTP configurations below a directory. -/
def inspectFileDevices (physical : Path) (verbose : Bool) : Inspection Unit :=
  inspectFileDevicesWith (inTurn physical) verbose

end StudioMigration
