import StudioMigration.Catalogue.Functions
import StudioMigration.Catalogue.Hardware
import StudioMigration.Catalogue.Libraries
import StudioMigration.Json.Writer
import StudioMigration.Session

/-!
# Data files

Catalogues and help topics as JSON files below the directory of the program, where they can be had by
folder and file name.
-/

namespace StudioMigration

open Catalogue

def Catalogue.toJson (catalogue : Catalogue) : Json :=
  .object (catalogue.map fun (name, reason) => (name, .string reason))

def Json.ofStrings (items : List String) : Json := .array (items.map .string)

/-- The data files that come with the program, by their place below its directory. -/
def installedData : List (List String × Json) :=
  [(["discontinuations", "obsolete_libs.json"], toJson obsoleteLibraries),
   (["discontinuations", "manual_process_libs.json"], toJson manualLibraries),
   (["discontinuations", "obsolete_fbks.json"], toJson obsoleteBlocks),
   (["discontinuations", "obsolete_funcs.json"], toJson obsoleteFunctions),
   (["discontinuations", "deprecated_string_functions.json"],
    Json.ofStrings deprecatedStringFunctions),
   (["discontinuations", "deprecated_math_functions.json"],
    Json.ofStrings deprecatedMathFunctions),
   (["discontinuations", "unsupported_hw.json"],
    .object (unsupportedTypes.map fun (reason, types) => (reason, Json.ofStrings types))),
   (["links", "links.json"], .object helpTopics)]

def installedData? (place : List String) : Option Json := installedData.lookup place

/-- A tree with the data files of a program that stands in a directory. -/
def Tree.install (tree : Tree) (folder : Location) : Tree :=
  installedData.foldl (fun tree (place, value) =>
    (tree.insertDirectories (folder ++ place.dropLast)).insert (folder ++ place)
      (.file (Text.Utf8.encodeString value.write))) tree

def readData (ws : Workspace) (path : Path) : Except Fault Json := do
  let text ← ws.readText path
  match Json.read text with
  | .ok value => return value
  | .error flaw => throw (.json flaw)

/-- Loads a data file from below the directory `root` of a program, which is resolved by name. A file that
cannot be read is noted, and an empty object stands in for it. -/
def loadData (root : Path) (folder name : String) : Script Json := do
  try
    Script.look fun ws => do
      if hasNull root.render then throw .nullByte
      readData ws (((ws.resolve root).join folder).join (name ++ ".json"))
  catch fault =>
    Script.say ⟨s!"Error loading JSON file '{name}': {fault.message}", "ERROR", ""⟩
    pure (.object [])

end StudioMigration
