import StudioMigration.Command.Request
import StudioMigration.Conversion.Source
import StudioMigration.Project

/-!
# Conversion of motion names

Renames enumerators and members of function blocks in sources, and function blocks and types in
declarations, from earlier versions of mapp Motion to version 6. Names whose meaning has changed are only
reported. Libraries are left alone.
-/

namespace StudioMigration

open Script

/-! ## Names -/

def motionMembers : Renaming :=
  [("Parameter.AxesGroup", "Parameter.Component"),
   ("StandBy", "Standby"),
   ("DataAdress", "DataAddress"),
   ("Info.AutoTuneDone", "AutoTuneDone"),
   ("Info.MechDeviationCompState", "Info.AxisAdditionalInfo.MechDeviationCompState"),
   ("Info.AutoTuneState", "Info.AxisAdditionalInfo.AutoTuneState"),
   ("Info.CommunicationState", "Info.AxisAdditionalInfo.CommunicationState"),
   ("Info.StartupCount", "Info.AxisAdditionalInfo.StartupCount"),
   ("Info.DigitalInputStatus", "Info.AxisAdditionalInfo.DigitalInputStatus"),
   ("Info.PLCopenState", "Info.AxisAdditionalInfo.PLCopenState"),
   ("Info.ActualOffsetShift", "Info.Offset.ActualShift"),
   ("Info.OffsetValid", "Info.Offset.Valid"),
   ("Info.ActualPhaseShift", "Info.Phasing.ActualShift"),
   ("Info.PhasingValid", "Info.Phasing.Valid"),
   ("Common.AdvancedParameters.StartStateParam.StartState", "Common.StartStateParam.StartState"),
   ("Common.AdvancedParameters.StartStateParam.MasterStartRelPos",
    "Common.StartStateParam.MasterStartPositionInCam"),
   ("CompensationParameters.MasterCamLeadIn", "AdvancedParameters.MasterCamLeadIn"),
   ("AdvancedParameters.ShuttleIndex", "AdvancedParameters.ShuttleID"),
   ("AssemblyInfo.ShuttlesCount", "AssemblyInfo.ShuttleCount.Count"),
   ("AssemblyInfo.ShuttlesInStandstillCount", "AssemblyInfo.ShuttleCount.InStandstill"),
   ("AssemblyInfo.ShuttlesInDisabledCount", "AssemblyInfo.ShuttleCount.InDisabled"),
   ("AssemblyInfo.ShuttlesInStoppingCount", "AssemblyInfo.ShuttleCount.InStopping"),
   ("AssemblyInfo.ShuttlesInErrorStopCount", "AssemblyInfo.ShuttleCount.InErrorStop"),
   ("AssemblyInfo.VirtualShuttlesCount", "AssemblyInfo.ShuttleCount.VirtualShuttles"),
   ("AssemblyInfo.ConvoysCount", "AssemblyInfo.ShuttleCount.Convoys"),
   ("AssemblyInfo.SegmentsInDisabledCount", "AssemblyInfo.SegmentCount.SegmentsInDisabled"),
   ("AssemblyInfo.SegmentsInStoppingCount", "AssemblyInfo.SegmentCount.SegmentsInStopping"),
   ("AssemblyInfo.SegmentsInErrorStopCount", "AssemblyInfo.SegmentCount.SegmentsInErrorStop"),
   ("Distance.Junction", "Distance.Diverter")]

def motionWarnings : Renaming := [("StopMode", "AdvancedParameters.StopMode")]

def motionTypes : Renaming :=
  [("MpAxisCouplingRecoveryParType", "MpAxisRecoveryParType"),
   ("MpAxisSequencerRecoveryParType", "MpAxisRecoveryParType"),
   ("McAcpAxCamAutDefineType", "McCamAutDefineType"),
   ("McAcpTrakAdvSecAddShWithMovType", "McAcpTrakAdvSecAddShuttleType")]

def motionBlocks : Renaming :=
  [("MC_BR_CamAutomatSetPar_AcpAx", "MC_BR_CamAutomatSetPar"),
   ("MC_BR_CamAutomatGetPar_AcpAx", "MC_BR_CamAutomatGetPar"),
   ("MC_BR_ShSetUserId_AcpTrak", "MC_BR_ShSetUserID_AcpTrak"),
   ("MC_BR_TrgPointGetInfo_AcpTrak", "MC_BR_TrgPointReadInfo_AcpTrak"),
   ("MC_BR_SecAddShWithMov_AcpTrak", "MC_BR_SecAddShuttle_AcpTrak"),
   ("MC_BR_AsmGetShuttleSel_AcpTrak", "MC_BR_AsmGetShuttle_AcpTrak"),
   ("MC_BR_SecGetShuttleSel_AcpTrak", "MC_BR_SecGetShuttle_AcpTrak")]

/-- Function blocks that are gone, with what takes their place. -/
def motionRemovals : Renaming :=
  [("MC_BR_AsmSegGrpPowerOn_AcpTrak", "MC_BR_AsmPowerOn_AcpTrak.SegmentGroup"),
   ("MC_BR_AsmSegGrpPowerOff_AcpTrak", "MC_BR_AsmPowerOff_AcpTrak.SegmentGroup")]

def motionEnumerators : Renaming :=
  [("mcAFDCSACOPOSMULTIDO_SS1X111", "mcAFDCSACOPOSMULTIDO_SS2X111"),
   ("mcAFDCSACOPOSMULTIDO_SS1X113", "mcAFDCSACOPOSMULTIDO_SS2X113"),
   ("mcAFDCSACOPOSMULTIDO_SS1X115", "mcAFDCSACOPOSMULTIDO_SS2X115"),
   ("mcAFDCSACOPOSMULTIDO_SS1X116", "mcAFDCSACOPOSMULTIDO_SS2X116")]

/-! ## Files -/

/-- Applies a renaming and tells about every entry that was used, if `verbose`. -/
def renameTelling (role : NameRole) (verbose : Bool) (tell : Nat → String × String → String) :
    Renaming → List Char → Script (List Char × Nat)
  | [], text => pure (text, 0)
  | entry :: rest, text =>
    match rename role entry text with
    | .error fault => throw fault
    | .ok (renamed, count) => do
      if verbose && 0 < count then say ⟨tell count entry, "INFO", ""⟩
      let (final, others) ← renameTelling role verbose tell rest renamed
      return (final, count + others)

/-- Reports the names in a source that have to be replaced by hand. -/
def warnSource (warnings : Renaming) (file : Path) : Script Unit := do
  let text ← look fun ws => ws.readLatin file
  warnings.forM fun (old, new) =>
    if Text.hasInfix old.toList text then
      say
        ⟨s!"Found usages of '{old}', needs replacing with '{new}' " ++
          "- skipping auto-replacement due to possible functionality change", "WARNING", "AS6"⟩
    else pure ()

def convertEnumerators (enumerators : Renaming) (verbose : Bool) (file : Path) :
    Script SingleOutcome := do
  let before ← readSource file
  let (text, count) ← renameTelling .piece verbose
    (fun n (old, new) => s!"Replaced {n} occurance(s) of '{old}' with '{new}'") enumerators
    (sourceText before)
  let changed ← storeChanged file before text
  if changed then say (writtenNote count "changes" file)
  return ⟨count, changed⟩

/-- Renames members in a source. A changed file is written, but it cannot be reported: the run stops. -/
def convertMembers (members : Renaming) (verbose : Bool) (file : Path) : Script SingleOutcome := do
  let before ← readSource file
  let (text, count) ← renameTelling .member verbose
    (fun n (old, _) => s!"Replaced {n} occurance(s) of '.{old}' with '.{old}'") members
    (sourceText before)
  let changed ← storeChanged file before text
  if changed then throw .unknownRecorder
  return ⟨count, changed⟩

/-- The function block and the member that a replacement with a dot names. -/
def splitMember (new : String) : String × String :=
  match Text.splitWhere (· == '.') new.toList with
  | block :: member :: _ => (String.ofList block, String.ofList member)
  | _ => (new, "")

def removalNote (old new : String) : Note :=
  if new.toList.contains '.' then
    let (block, member) := splitMember new
    ⟨s!"Found usage(s) of '{old}', the functionality is now covered by the " ++
      s!"element '{member}' of the FB '{block}' " ++
      "- skipping auto-replacement due to expected functionality change", "MANDATORY", "AS6"⟩
  else
    ⟨s!"Found usage(s) of '{old}', the functionality is now covered by the FB '{new}'" ++
      "- skipping auto-replacement due to expected functionality change", "MANDATORY", "AS6"⟩

/-- Renames function blocks and types in declarations, and reports function blocks that are gone. -/
def convertDeclarations (blocks types removals : Renaming) (verbose : Bool) (file : Path) :
    Script PairOutcome := do
  let before ← readSource file
  let (renamed, first) ← renameTelling .word verbose
    (fun n (old, new) => s!"Replaced {n} instance(s) of FB '{old}' with '{new}'") blocks
    (sourceText before)
  removals.forM fun (old, new) =>
    if (NameRole.word.pattern old).occursIn renamed then say (removalNote old new)
    else pure ()
  let (text, second) ← renameTelling .word verbose
    (fun n (old, new) => s!"Replaced {n} instance(s) of type '{old}' with '{new}'") types renamed
  let changed ← storeChanged file before text
  if changed then say (writtenNote (first + second) "change(s)" file)
  return ⟨first, second, changed⟩

/-! ## The tool -/

structure MotionTally where
  blocks : Nat := 0
  members : Nat := 0
  enumerators : Nat := 0
  types : Nat := 0
  files : Nat := 0
  deriving DecidableEq, Repr

def convertMotionFiles (verbose : Bool) : MotionTally → List Path → Script MotionTally
  | tally, [] => pure tally
  | tally, file :: rest => do
    if [".st", ".c", ".cpp", ".ab"].contains file.extension then
      warnSource motionWarnings file
      let outcome ← convertEnumerators motionEnumerators verbose file
      let tally :=
        if outcome.changed then
          { tally with
            enumerators := tally.enumerators + outcome.count, files := tally.files + 1 }
        else tally
      let outcome ← convertMembers motionMembers verbose file
      let tally :=
        if outcome.changed then
          { tally with members := tally.members + outcome.count, files := tally.files + 1 }
        else tally
      convertMotionFiles verbose tally rest
    else
      let outcome ← convertDeclarations motionBlocks motionTypes motionRemovals verbose file
      let tally :=
        if outcome.changed then
          { tally with
            blocks := tally.blocks + outcome.first, types := tally.types + outcome.second,
            files := tally.files + 1 }
        else tally
      convertMotionFiles verbose tally rest

def MotionTally.notes (tally : MotionTally) : List Note :=
  [.heading "Summary:",
   ⟨s!"Total function blocks replaced: {tally.blocks}", "", ""⟩,
   ⟨s!"Total function block inputs replaced: {tally.members}", "", ""⟩,
   ⟨s!"Total enumerators replaced: {tally.enumerators}", "", ""⟩,
   ⟨s!"Total types replaced: {tally.types}", "", ""⟩,
   ⟨s!"Total files changed: {tally.files}", "", ""⟩,
   closingNote "No functions, inputs or constants needed to be replaced."
    (tally.blocks + tally.enumerators + tally.types + tally.members)]

def motionLibraries : List String :=
  ["McAxis", "MpAxis", "McBase", "McAcpAx", "McAcpTrak", "McAcpAx"]

def runMotionConversion (caller : String) (line : List String) : Script Unit := do
  let (folder, verbose) ←
    projectRequest caller "Updates mappMotion in regards to FBs, Enums, Types, ..." line
  let file ← requireProject caller folder
  announceProject folder file
  let project := Path.ofString folder
  let found ← librariesIn project motionLibraries "Error: Could not find Package.pkg file in: "
  say
    ⟨"This script will search for usages of mappMotion function blocks, types and enumerators and " ++
      "update the naming.", "INFO", ""⟩
  say backupNote
  let proceed ←
    if found.isEmpty then do
      say ⟨"None of the libraries supported by the script were found.", "INFO", ""⟩
      confirm anywayQuestion noWayBackRemark ["", "y"]
    else do
      say ⟨"Libraries found: " ++ Text.joinStrings ", " found ++ ".\n", "INFO", ""⟩
      confirm continueQuestion noWayBackRemark ["", "y"]
  if proceed then
    let files ← sourcesWith (project.child "Logical")
      [".st", ".c", ".cpp", ".ab", ".typ", ".var", ".fun"]
    let tally ← convertMotionFiles verbose {}
      (files.filter fun file => !file.parts.contains "Libraries")
    tally.notes.forM say

end StudioMigration
