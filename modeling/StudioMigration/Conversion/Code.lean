import StudioMigration.Conversion.Source
import StudioMigration.Project

/-!
# Conversion of calls and constants

Renames the functions and constants of the libraries AsMath, AsString and AsWStr to those of their
successors, in all structured text and Automation Basic sources of a project.
-/

namespace StudioMigration

open Script

/-! ## Names -/

def mathFunctions : Renaming :=
  [("atan2", "brmatan2"), ("ceil", "brmceil"), ("cosh", "brmcosh"), ("floor", "brmfloor"),
   ("fmod", "brmfmod"), ("frexp", "brmfrexp"), ("ldexp", "brmldexp"), ("modf", "brmmodf"),
   ("pow", "brmpow"), ("sinh", "brmsinh"), ("tanh", "brmtanh")]

def mathConstants : Renaming :=
  [("am2_SQRTPI", "brm2_SQRTPI"), ("amSQRT1_2", "brmSQRT1_2"), ("amSQRTPI", "brmSQRTPI"),
   ("amLOG2_E", "brmLOG2_E"), ("amLOG10E", "brmLOG10E"), ("amIVLN10", "brmINVLN10"),
   ("amINVLN2", "brmINVLN2"), ("amTWOPI", "brmTWOPI"), ("amSQRT3", "brmSQRT3"),
   ("amSQRT2", "brmSQRT2"), ("amLOG2E", "brmLOG2E"), ("amLN2LO", "brmLN2LO"),
   ("amLN2HI", "brmLN2HI"), ("am3PI_4", "brm3PI_4"), ("amPI_4", "brmPI_4"),
   ("amPI_2", "brmPI_2"), ("amLN10", "brmLN10"), ("am2_PI", "brm2_PI"), ("am1_PI", "brm1_PI"),
   ("amLN2", "brmLN2"), ("amPI", "brmPI"), ("amE", "brmE")]

def stringFunctions : Renaming :=
  [("ftoa", "brsftoa"), ("atof", "brsatof"), ("itoa", "brsitoa"), ("atoi", "brsatoi"),
   ("memset", "brsmemset"), ("memcpy", "brsmemcpy"), ("memmove", "brsmemmove"),
   ("memcmp", "brsmemcmp"), ("strcat", "brsstrcat"), ("strlen", "brsstrlen"),
   ("strcpy", "brsstrcpy"), ("strcmp", "brsstrcmp"), ("wcscat", "brwcscat"),
   ("wcschr", "brwcschr"), ("wcscmp", "brwcscmp"), ("wcsconv", "brwcsconv"),
   ("wcscpy", "brwcscpy"), ("wcslen", "brwcslen"), ("wcsncat", "brwcsncat"),
   ("wcsncmp", "brwcsncmp"), ("wcsncpy", "brwcsncpy"), ("wcsrchr", "brwcsrchr"),
   ("wcsset", "brwcsset")]

def stringConstants : Renaming := [("U8toUC", "brwU8toUC"), ("UCtoU8", "brwUCtoU8")]

/-! ## Converting a project -/

structure CodeTally where
  functions : Nat := 0
  constants : Nat := 0
  files : Nat := 0
  deriving DecidableEq, Repr

def CodeTally.add (tally : CodeTally) (outcome : PairOutcome) : CodeTally :=
  if outcome.changed then
    ⟨tally.functions + outcome.first, tally.constants + outcome.second, tally.files + 1⟩
  else tally

def convertFiles (functions constants : Renaming) : CodeTally → List Path → Script CodeTally
  | tally, [] => pure tally
  | tally, file :: rest => do
    let outcome ← convertCode functions constants file
    convertFiles functions constants (tally.add outcome) rest

def CodeTally.notes (tally : CodeTally) : List Note :=
  [.heading "Summary:",
   ⟨s!"Total functions replaced: {tally.functions}", "", ""⟩,
   ⟨s!"Total constants replaced: {tally.constants}", "", ""⟩,
   ⟨s!"Total files changed: {tally.files}", "", ""⟩,
   closingNote "No functions or constants needed to be replaced."
    (tally.functions + tally.constants)]

def convertProject (functions constants : Renaming) (project : Path) : Script Unit := do
  let files ← sourcesWith (project.child "Logical") [".st", ".ab"]
  let tally ← convertFiles functions constants {} files
  tally.notes.forM say

/-! ## The tools -/

def usesMathLibrary (project : Path) : Script Bool := do
  let text ← libraryListText? project
  return text.any (Text.hasInfix "AsMath".toList)

def runMathConversion (caller : String) (line : List String) : Script Unit := do
  let folder ← projectArgument line
  let file ← requireProject caller folder
  announceProject folder file
  let project := Path.ofString folder
  say ⟨"Checking for AsMath library in the project...", "", ""⟩
  let found ← usesMathLibrary project
  say
    ⟨"This script will search for usages of AsMath functions and constants and replace them with " ++
      "the AsBrMath equivalents.", "INFO", ""⟩
  say backupNote
  let proceed ←
    if found then do
      say ⟨"AsMath library found in Package.pkg!", "INFO", ""⟩
      confirm continueQuestion
        ("Note: After replacing the code, remember to swap the library from 'AsMath' to 'AsBrMath' " ++
          "manually.") ["y"]
    else do
      say ⟨"AsMath library not found.", "INFO", ""⟩
      confirm anywayQuestion
        ("Note: This script only updates code. You must manually remove 'AsMath' and add 'AsBrMath' " ++
          "in the library manager. Compatible with both AS4 and AS6 after that.") ["y"]
  if proceed then convertProject mathFunctions mathConstants project

def runStringConversion (caller : String) (line : List String) : Script Unit := do
  let folder ← projectArgument line
  let file ← requireProject caller folder
  announceProject folder file
  let project := Path.ofString folder
  let found ←
    librariesIn project ["AsString", "AsWStr"] "Could not find Package.pkg file in: "
  say
    ⟨"This script will search for usages of AsString and AsWStr functions and constants and " ++
      "replace them with the AsBr equivalents.", "INFO", ""⟩
  say backupNote
  let proceed ←
    if found.isEmpty then do
      say ⟨"Neither AsString nor AsWStr libraries found.", "INFO", ""⟩
      confirm anywayQuestion
        ("Note: This script updates code to use AsBrStr. You must manually remove AsString/AsWStr " ++
          "and add AsBrStr/AsBrWStr in the library manager. Compatible with AS4 and AS6 after " ++
          "that.") ["y"]
    else do
      say ⟨"Libraries found: " ++ Text.joinStrings ", " found ++ ".", "INFO", ""⟩
      confirm continueQuestion
        ("Note: After conversion, manually remove AsString/AsWStr and add AsBrStr/AsBrWStr in the " ++
          "library manager.") ["y"]
  if proceed then convertProject stringFunctions stringConstants project

end StudioMigration
