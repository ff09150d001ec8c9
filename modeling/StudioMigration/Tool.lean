import StudioMigration.Analysis.Run
import StudioMigration.Conversion.Code
import StudioMigration.Conversion.Motion
import StudioMigration.Conversion.OpcUa
import StudioMigration.Package.Folder

/-!
# Tools

The tools of the library, each of which is run with a command line.
-/

namespace StudioMigration

inductive Tool where
  /-- Tells what has to be done before and after a migration. -/
  | analysis
  /-- Converts the functions of AsMath. -/
  | math
  /-- Converts the functions of AsString and AsWStr. -/
  | strings
  /-- Converts OPC UA names. -/
  | opcUa
  | folders
  /-- Converts mapp Motion names. -/
  | motion
  deriving DecidableEq, Repr

def Tool.file : Tool → String
  | .analysis => "as4_to_as6_analyzer.py"
  | .math => "asmath_to_asbrmath.py"
  | .strings => "asstring_to_asbrstr.py"
  | .opcUa => "asopcua_update.py"
  | .folders => "create_mapp_folders.py"
  | .motion => "mappmotion_update.py"

def Tool.all : List Tool := [.analysis, .math, .strings, .opcUa, .folders, .motion]

def Tool.word : Tool → String
  | .analysis => "analyse"
  | .math => "math"
  | .strings => "strings"
  | .opcUa => "opcua"
  | .folders => "folders"
  | .motion => "motion"

def Tool.ofWord? (word : String) : Option Tool := Tool.all.find? fun tool => tool.word == word

def Tool.run (tool : Tool) (caller : String) (line : List String) : Script Unit :=
  match tool with
  | .analysis => runAnalysis caller line
  | .math => runMathConversion caller line
  | .strings => runStringConversion caller line
  | .opcUa => runOpcUaConversion caller line
  | .folders => runPackageFolders caller line
  | .motion => runMotionConversion caller line

end StudioMigration
