import StudioMigration.Analysis.Scan
import StudioMigration.Catalogue.Libraries

/-!
# Libraries

Finds libraries in package files and dependencies in library files that are no longer usable or need
attention. Names are compared without regard to case.
-/

namespace StudioMigration

/-- A catalogued name in a file. -/
structure Finding where
  name : String
  reason : String
  file : String
  deriving DecidableEq, Repr

/-- A dependency of a library on a catalogued one. -/
structure DependencyFinding where
  library : String
  dependency : String
  reason : String
  file : String
  deriving DecidableEq, Repr

variable (catalogue : Catalogue)

def Catalogue.matching (name : List Char) : Catalogue :=
  catalogue.filter fun (entry, _) => Text.lower name == Text.lower entry.toList

def findingsFor (file : String) (names : List (List Char)) : List Finding :=
  names.flatMap fun name =>
    (Catalogue.matching catalogue name).map fun (entry, reason) => ⟨entry, reason, file⟩

/-! ## Package files -/

/-- Text between tags; the group is the text. -/
def contentPattern : Pattern :=
  .all [.literal ">", .group 1 (.many1 (· != '<')), .literal "<"]

def scanPackage : FileScan Finding := fun file text =>
  findingsFor catalogue file (contentPattern.findGroups text)

/-! ## Library files -/

def dependencyPattern : Pattern :=
  .all [.anyCase "<Dependency ObjectName=\"", .group 1 (.many1 (· != '"')), .literal "\""]

/-- The catalogued dependencies in a library file. The library is named by its directory. -/
def scanDependencies : FileScan DependencyFinding := fun file text =>
  (dependencyPattern.findGroups text).flatMap fun name =>
    (Catalogue.matching catalogue name).map fun (_, reason) =>
      ⟨folderOf file, String.ofList name, reason, file⟩

/-! ## Include directives -/

/-- An include directive; the group is the header. -/
def includePattern : Pattern :=
  .all [.literal "#include", .many1 Text.isSpace, .char (fun c => c == '<' || c == '"'),
    .group 1 (.many1 fun c => c != '"' && c != '>'), .char (fun c => c == '"' || c == '>')]

def includesIn (file : String) (piece : List Char) : List Finding :=
  match (includePattern.search piece).map (·.group 1) with
  | some header =>
    (catalogue.filter fun (entry, _) =>
      Text.lower header == Text.lower entry.toList ++ ".h".toList).map fun (entry, reason) =>
        ⟨entry, reason, file⟩
  | none => []

/-- The include directives within single characters of a source: none fits into one. -/
def scanIncludes : FileScan Finding := fun file text =>
  text.flatMap fun c => includesIn catalogue file [c]

/-! ## The report -/

def Finding.note (finding : Finding) : Note :=
  ⟨s!"- {finding.name}: {finding.reason} (Found in: {finding.file})", "", ""⟩

/-- Some lines under a heading, or a remark that there are none. -/
def headed (verbose : Bool) (heading remark : Note) (lines : List Note) : List Note :=
  if lines.isEmpty then if verbose then [remark] else [] else heading :: lines

/-- Several such lists, given their headings and remarks. -/
def headedLists (verbose : Bool) : List (Note × Note) → List (List Note) → List Note
  | (heading, remark) :: heads, lines :: lists =>
    headed verbose heading remark lines ++ headedLists verbose heads lists
  | _, _ => []

def DependencyFinding.toFinding (finding : DependencyFinding) : Finding :=
  ⟨finding.library, s!"Dependency on {finding.dependency}: {finding.reason}", finding.file⟩

def libraryHeads : List (Note × Note) :=
  [(⟨"The following invalid libraries were found in .pkg files:", "MANDATORY", "AS6"⟩,
    ⟨"No invalid libraries found in .pkg files.", "INFO", ""⟩),
   (⟨"The following libraries might require manual action after migrating the project to " ++
      "Automation Studio 6:", "WARNING", "AS6"⟩,
    ⟨"No libraries requiring manual action found in .pkg files.", "INFO", ""⟩),
   (⟨"The following obsolete dependencies were found in .lby, .c, .cpp, and .hpp files:",
      "MANDATORY", "AS6"⟩,
    ⟨"No obsolete dependencies found in .lby, .c, .cpp, or .hpp files.", "INFO", ""⟩)]

def libraryNotes (verbose : Bool) (obsolete manual dependencies : List Finding) : List Note :=
  headedLists verbose libraryHeads
    [obsolete.map Finding.note, manual.map Finding.note, dependencies.map Finding.note]

def inspectLibrariesWith (scanner : Scanner) (verbose : Bool) : Inspection Unit := do
  Inspection.say (.heading "Checking for invalid libraries and dependencies...")
  let manual ← scanner _ [".pkg"] (scanPackage Catalogue.manualLibraries)
  let obsolete ← scanner _ [".pkg"] (scanPackage Catalogue.obsoleteLibraries)
  let dependencies ← scanner _ [".lby"] (scanDependencies Catalogue.obsoleteLibraries)
  let includes ← scanner _ [".c", ".cpp", ".hpp"] (scanIncludes Catalogue.obsoleteLibraries)
  Inspection.sayAll
    (libraryNotes verbose obsolete manual
      (dependencies.map DependencyFinding.toFinding ++ includes))

/-- Looks for libraries and dependencies below a directory. -/
def inspectLibraries (logical : Path) (verbose : Bool) : Inspection Unit :=
  inspectLibrariesWith (inTurn logical) verbose

end StudioMigration
