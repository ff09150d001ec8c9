import StudioMigration.Files.Tree
import StudioMigration.Json.Reader
import StudioMigration.Pattern.Reader
import StudioMigration.Pattern.Template
import StudioMigration.Text.Wide
import StudioMigration.Xml.Tree

/-!
# Faults

Everything that can stop a check or a tool, as causes. The wording is in `Fault.message` alone.
-/

namespace StudioMigration

/-- Why a file operation fails at a path. -/
inductive FileObstacle where
  | missing
  | occupied
  /-- A part of the path that should be a directory is none. -/
  | notDirectory
  | isDirectory
  /-- A part of the path is longer than names may be. -/
  | nameTooLong
  deriving DecidableEq, Repr

def FileObstacle.number : FileObstacle → Nat
  | .missing => 2
  | .occupied => 17
  | .notDirectory => 20
  | .isDirectory => 21
  | .nameTooLong => 36

def FileObstacle.describe : FileObstacle → String
  | .missing => "No such file or directory"
  | .occupied => "File exists"
  | .notDirectory => "Not a directory"
  | .isDirectory => "Is a directory"
  | .nameTooLong => "File name too long"

/-- Why a check or a tool stops. -/
inductive Fault where
  | file (obstacle : FileObstacle) (path : String)
  /-- A file name has a null character in it. -/
  | nullByte
  /-- A pattern of file names has doubled stars beside something else. -/
  | doubledStar
  /-- A device took no more data. -/
  | deviceFull
  /-- Bytes are no text in their encoding. -/
  | undecodable (place : Text.Undecodable)
  /-- A text has characters that the encoding of its file lacks. -/
  | unencodable (run : Text.Latin1.Unencodable)
  | numeral (flaw : Text.NumeralFlaw)
  | pattern (flaw : PatternFlaw)
  | template (flaw : TemplateFlaw)
  | json (flaw : Json.Flaw)
  | xml (reader : XmlReader) (refusal : XmlRefusal)
  | unloadable (path : String)
  /-- A comment or an instruction stands where an element is needed. -/
  | notAnElement
  /-- The name of an element has a colon that separates no qualifier. -/
  | improperName (name : String)
  /-- A text has characters that no document may have. -/
  | unfitText
  /-- The package list of a document is missing. -/
  | noPackageList
  /-- A link has no address. -/
  | missingKey (key : String)
  /-- A value of a wrong kind was asked for something it has not. -/
  | noAttribute (kind member : String)
  /-- A value of a wrong kind was walked through. -/
  | notIterable (kind : String)
  /-- A value of a wrong kind was taken for a key. -/
  | unhashable (kind : String)
  /-- A value of a wrong kind was put behind a text. -/
  | notText (kind : String)
  /-- The text to be written was not handed over. -/
  | missingData
  /-- A message could not be sent, its recorder being unknown. -/
  | unknownRecorder
  | noScript
  | endOfInput
  /-- The network cannot be reached. -/
  | networkDown
  /-- A tool has nothing that could be run. -/
  | noEntryPoint
  /-- No mail program was found. -/
  | noMailProgram
  | programFailed (arguments : List String)
  /-- The run ends with an exit code. -/
  | exit (code : Nat)
  deriving Repr

def Fault.message : Fault → String
  | .file obstacle path =>
    s!"[Errno {obstacle.number}] {obstacle.describe}: " ++ Text.quotedString path
  | .nullByte => "embedded null byte"
  | .doubledStar => "Invalid pattern: '**' can only be an entire path component"
  | .deviceFull => "[Errno 28] No space left on device"
  | .undecodable place => place.describe
  | .unencodable run =>
    if run.length == 1 then
      "'latin-1' codec can't encode character '" ++ String.ofList (Text.escapeCode run.char) ++
        s!"' in position {run.start}: ordinal not in range(256)"
    else
      s!"'latin-1' codec can't encode characters in position {run.start}-" ++
        s!"{run.start + run.length - 1}: ordinal not in range(256)"
  | .numeral flaw => flaw.describe
  | .pattern flaw => flaw.describe
  | .template flaw => flaw.describe
  | .json flaw => flaw.describe
  | .xml _ refusal => refusal.describe
  | .unloadable path =>
    s!"Error reading file '{path}': failed to load external entity \"{path}\""
  | .notAnElement => "Invalid input tag of type <TYPE>"
  | .improperName name => "Invalid tag name " ++ Text.quotedString name
  | .unfitText =>
    "All strings must be XML compatible: Unicode or ASCII, no NULL bytes or control characters"
  | .noPackageList => "Objects node not found in cpu.pkg"
  | .missingKey key => Text.quotedString key
  | .noAttribute kind member => s!"'{kind}' object has no attribute '{member}'"
  | .notIterable kind => s!"'{kind}' object is not iterable"
  | .unhashable kind => s!"unhashable type: '{kind}'"
  | .notText kind => s!"can only concatenate str (not \"{kind}\") to str"
  | .missingData => "Path.write_text() missing 1 required positional argument: 'data'"
  | .unknownRecorder => "name 'log' is not defined"
  | .noScript => "stat: path should be string, bytes, os.PathLike or integer, not NoneType"
  | .endOfInput => "EOF when reading a line"
  | .networkDown => "network unreachable"
  | .noEntryPoint => "module 'selected_script' has no attribute 'main'"
  | .noMailProgram => "outlook.exe not found on PATH"
  | .programFailed arguments =>
    "Command '[" ++ Text.joinStrings ", " (arguments.map Text.quotedString) ++
      "]' returned non-zero exit status 1."
  | .exit code => s!"{code}"

end StudioMigration
