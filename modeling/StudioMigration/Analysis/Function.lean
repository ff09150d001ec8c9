import StudioMigration.Analysis.Library
import StudioMigration.Catalogue.Functions

/-!
# Functions and function blocks

Finds declarations of function blocks and uses of functions that are gone, and files that use functions
with successors under other names.
-/

namespace StudioMigration

/-! ## Functions that are gone -/

/-- The declaration of a variable or member; the group is its type. -/
def declarationPattern : Pattern :=
  .all [.literal ":", .spaces, .group 1 (.many1 Text.isAsciiWord), .spaces, .literal ";"]

def scanDeclarations (catalogue : Catalogue) : FileScan Finding := fun file text =>
  findingsFor catalogue file (declarationPattern.findGroups text)

/-- The first entry of a catalogue that occurs in a source as a whole word. -/
def scanUses (catalogue : Catalogue) : FileScan Finding := fun file text =>
  ((catalogue.find? fun (name, _) => (Pattern.word name.toList).occursIn text).map
    fun (name, reason) => (⟨name, reason, file⟩ : Finding)).toList

def obsoleteHeads : List (Note × Note) :=
  [(⟨"The following invalid function blocks were found in .var and .typ files:", "WARNING", ""⟩,
    ⟨"", "", ""⟩),
   (⟨"The following invalid functions were found in .st, .c and .cpp files:", "WARNING", ""⟩,
    ⟨"", "", ""⟩)]

/-- Lists of function blocks and functions that are gone, or one remark that there are none. -/
def obsoleteLists (verbose : Bool) (lists : List (List Note)) : List Note :=
  headedLists false obsoleteHeads lists ++
  (if verbose && lists.all List.isEmpty then
    [⟨"No invalid function blocks or functions found in the project.", "INFO", ""⟩]
  else [])

def obsoleteNotes (verbose : Bool) (blocks functions : List Finding) : List Note :=
  obsoleteLists verbose [blocks.map Finding.note, functions.map Finding.note]

/-! ## Functions with successors -/

/-- Whether one of the names, each a written pattern, occurs in a text as a word. The names are tried in
order, up to the first that occurs. -/
def usesAny (text : List Char) : List String → Except PatternFlaw Bool
  | [] => .ok false
  | name :: rest => do
    let pattern ← Pattern.read ("\\b".toList ++ name.toList ++ "\\b".toList)
    if pattern.occursIn text then return true else usesAny text rest

/-- The texts among some files that satisfy a test. A file that cannot be read or tested does not
count. -/
def filesWhere (test : List Char → Except PatternFlaw Bool) : List Path → Inspection (List Path)
  | [] => pure []
  | file :: rest => do
    let counts ←
      try
        let text ← Inspection.ask fun ws => ws.readLenient file
        pure (match test text with
          | .ok result => result
          | .error _ => false)
      catch _ => pure false
    let others ← filesWhere test rest
    return if counts then file :: others else others

def filesUsing (start : Path) (endings names : List String) : Inspection (List Path) := do
  let files ← filesEndingAny start endings
  filesWhere (fun text => usesAny text names) files

/-- A call of one of the names, each a written pattern: white space may stand before the parenthesis. -/
def callPattern (names : List String) : Except PatternFlaw Pattern :=
  Pattern.read ("\\b(" ++ Text.joinStrings "|" names ++ ")\\s*\\(").toList

def filesCalling (start : Path) (extensions names : List String) : Inspection (List Path) := do
  match callPattern names with
  | .error flaw => throw (.pattern flaw)
  | .ok pattern =>
    let found ← Inspection.ask fun ws => ws.find start fun _ => true
    let files := found.filter fun (path, entry) =>
      extensions.contains path.extension && entry.isFile
    filesWhere (fun text => .ok (pattern.occursIn text)) (files.map (·.1))

/-- The notes on files that use functions with successors, `family` being the library of the functions
and `tool` the file name of the tool that helps. -/
def successorNotes (verbose : Bool) (family tool : String) (files : List Path) : List Note :=
  if files.isEmpty then []
  else
    ⟨s!"- Deprecated {family} functions detected in the project: " ++
        s!"Consider using the helper {tool} to replace them.", "WARNING", "AS6"⟩ ::
      if verbose then
        ⟨s!"Deprecated {family} functions detected in the following files:", "INFO", ""⟩ ::
          files.map fun file => ⟨s!"- {file.render}", "", ""⟩
      else []

def inspectSuccessors (logical : Path) (verbose : Bool) (stringNames mathNames : List String) :
    Inspection Unit := do
  let stringFiles ← filesUsing logical [".st"] stringNames
  let mathFiles ← filesCalling logical [".st"] mathNames
  Inspection.sayAll (successorNotes verbose "AsString" "asstring_to_asbrstr.py" stringFiles)
  Inspection.sayAll (successorNotes verbose "AsMath" "asmath_to_asbrmath.py" mathFiles)

/-- Looks for functions and function blocks that are gone, and below a directory for functions with
successors. -/
def inspectFunctionsWith (scanner : Scanner) (logical : Path) (verbose : Bool) : Inspection Unit := do
  Inspection.say (.heading "Checking for obsolete and deprecated FUBs and functions...")
  let blocks ← scanner _ [".var", ".typ"] (scanDeclarations Catalogue.obsoleteBlocks)
  let functions ← scanner _ [".st", ".c", ".cpp"] (scanUses Catalogue.obsoleteFunctions)
  Inspection.sayAll (obsoleteNotes verbose blocks functions)
  inspectSuccessors logical verbose Catalogue.deprecatedStringFunctions
    Catalogue.deprecatedMathFunctions

/-- Looks for functions and function blocks below a directory. -/
def inspectFunctions (logical : Path) (verbose : Bool) : Inspection Unit :=
  inspectFunctionsWith (inTurn logical) logical verbose

end StudioMigration
