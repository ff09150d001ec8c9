import StudioMigration.Conversion.Source
import StudioMigration.Project

/-!
# Conversion of OPC UA names

Renames enumerators of the OPC UA client library in sources. Function blocks and types in declarations
are looked for as well, but a file that has one cannot be written.
-/

namespace StudioMigration

/-! ## Names -/

def opcUaBlocks : Renaming :=
  [("UA_EventItemOperate", "UA_EventItemOperateList"),
   ("UA_EventItemRemove", "UA_EventItemRemoveList"),
   ("UA_GetNamespaceIndex", "UA_NamespaceGetIndex"),
   ("UA_MonitoredItemAdd", "UA_MonitoredItemAddList"),
   ("UA_MonitoredItemRemove", "UA_MonitoredItemRemoveList"),
   ("UA_MonitoredItemOperate", "UA_MonitoredItemOperateList"),
   ("UaClt_ReadBulk", "BrUa_ReadBulk"),
   ("UaClt_WriteBulk", "BrUa_WriteBulk")]

def opcUaTypes : Renaming :=
  [("UAArrayLength", "BrUaArrayLength"),
   ("UAByteString", "BrUaByteString"),
   ("UADataValue", "BrUaDataValue"),
   ("UAEUInformation", "BrUaEUInformation"),
   ("UAMethodArgument", "BrUaMethodArgument"),
   ("UAMonitoringParameters", "UAMonitoringParameter"),
   ("UAMonitoringSettings", "UAMonitoringParameter"),
   ("UANoOfElements", "BrUaNoOfElements"),
   ("UARange", "BrUaRange"),
   ("UATimeZoneData", "BrUaTimeZoneDataType"),
   ("UAVariantType", "BrUaVariantType")]

def opcUaEnumerators : Renaming :=
  [("UAAttributeId", "UAAttributeID"),
   ("UAIdentifierType_String", "UAIT_String"),
   ("UAIdentifierType_Numeric", "UAIT_Numeric"),
   ("UAIdentifierType_GUID", "UAIT_GUID"),
   ("UAIdentifierType_Opaque", "UAIT_Opaque"),
   ("UASecurityMsgMode_", "UASMM_"),
   ("UASecurityPolicy_", "UASP_"),
   ("UAVariantType_", "BrUaVariantType_"),
   ("UADeadbandType_None", "UADT_None"),
   ("UADeadbandType_Absolute", "UADT_Absolute"),
   ("UADeadbandType_Percentt", "UADT_Percentt")]

/-! ## Files -/

def opcUaLibraries : List String := ["AsOpcUac", "AsOpcUas"]

/-- Whether a file belongs to one of the libraries themselves and is left alone. -/
def inOpcUaLibrary (file : Path) : Bool := file.parts.any opcUaLibraries.contains

def convertOpcUaSource (enumerators : Renaming) (file : Path) : Script SingleOutcome := do
  if inOpcUaLibrary file then return ⟨0, false⟩
  let before ← readSource file
  match renameAll .piece enumerators (sourceText before) with
  | .error fault => throw fault
  | .ok (text, count) =>
    let changed ← storeChanged file before text
    if changed then Script.say (writtenNote count "changes" file)
    return ⟨count, changed⟩

def renameDeclarations (blocks types : Renaming) (text : List Char) :
    Except Fault (List Char × Nat × Nat) := do
  let (renamed, first) ← renameAll .word blocks text
  let (final, second) ← renameAll .word types renamed
  return (final, first, second)

/-- Looks for function blocks and types in declarations. A file that would change is refused, because
the new text is not handed over to be written. -/
def convertOpcUaDeclarations (blocks types : Renaming) (file : Path) : Script PairOutcome := do
  if inOpcUaLibrary file then return ⟨0, 0, false⟩
  let before ← readSource file
  match renameDeclarations blocks types (sourceText before) with
  | .error fault => throw fault
  | .ok (text, first, second) =>
    if text != sourceText before then throw .missingData
    return ⟨first, second, false⟩

/-! ## The tool -/

structure OpcUaTally where
  blocks : Nat := 0
  enumerators : Nat := 0
  types : Nat := 0
  files : Nat := 0
  deriving DecidableEq, Repr

def convertOpcUaFiles : OpcUaTally → List Path → Script OpcUaTally
  | tally, [] => pure tally
  | tally, file :: rest => do
    if [".st", ".c", ".cpp", ".ab"].contains file.extension then
      let outcome ← convertOpcUaSource opcUaEnumerators file
      let tally :=
        if outcome.changed then
          { tally with
            enumerators := tally.enumerators + outcome.count, files := tally.files + 1 }
        else tally
      convertOpcUaFiles tally rest
    else
      let outcome ← convertOpcUaDeclarations opcUaBlocks opcUaTypes file
      let tally :=
        if outcome.changed then
          { tally with
            blocks := tally.blocks + outcome.first, types := tally.types + outcome.second,
            files := tally.files + 1 }
        else tally
      convertOpcUaFiles tally rest

def OpcUaTally.notes (tally : OpcUaTally) : List Note :=
  [.heading "Summary:",
   ⟨s!"Total function blocks replaced: {tally.blocks}", "", ""⟩,
   ⟨s!"Total enumerators replaced: {tally.enumerators}", "", ""⟩,
   ⟨s!"Total types replaced: {tally.types}", "", ""⟩,
   ⟨s!"Total files changed: {tally.files}", "", ""⟩,
   closingNote "No functions or constants needed to be replaced."
    (tally.blocks + tally.enumerators + tally.types)]

def runOpcUaConversion (caller : String) (line : List String) : Script Unit := do
  let folder ← projectArgument line
  let file ← requireProject caller folder
  announceProject folder file
  let project := Path.ofString folder
  let found ← librariesIn project opcUaLibraries "Could not find Package.pkg file in: "
  Script.say
    ⟨"This script will search for usages of AsOpcUac and AsOpcUas function blocks, types and " ++
      "enumerators and update the naming.", "INFO", ""⟩
  Script.say backupNote
  let proceed ←
    if found.isEmpty then do
      Script.say ⟨"Neither AsOpcUac nor AsOpcUas libraries found.", "INFO", ""⟩
      confirm anywayQuestion noWayBackRemark ["y"]
    else do
      Script.say ⟨"Libraries found: " ++ Text.joinStrings ", " found ++ ".", "INFO", ""⟩
      confirm continueQuestion noWayBackRemark ["y"]
  if proceed then
    let files ← sourcesWith (project.child "Logical")
      [".st", ".c", ".cpp", ".ab", ".typ", ".var", ".fun"]
    let tally ← convertOpcUaFiles {} files
    tally.notes.forM Script.say

end StudioMigration
