import StudioMigration.Analysis.Scan

/-!
# Widget libraries

Finds the widget libraries of a project and tells their kind.
-/

namespace StudioMigration

open Inspection

inductive WidgetKind where
  /-- Made with the Widget Development Kit. -/
  | kit
  /-- Made with the Widget Development Tool Chain. -/
  | toolChain
  | user4
  | user6
  deriving DecidableEq, Repr

def WidgetKind.name : WidgetKind → String
  | .kit => "WDK"
  | .toolChain => "WDTC"
  | .user4 => "User Widget Library 4"
  | .user6 => "User Widget Library 6"

def keepWhere (question : Path → Workspace → Except Fault Bool) : List Path → Inspection (List Path)
  | [] => pure []
  | path :: rest => do
    let kept ← ask (question path)
    let others ← keepWhere question rest
    return if kept then path :: others else others

/-- The `Widgets` directories in the `mappView` directories below a directory. -/
def widgetRoots (logical : Path) : Inspection (List Path) := do
  let there ← ask fun ws => ws.holds logical
  if there then
    let views ← ask fun ws => ws.find logical (· == "mappView")
    keepWhere (fun path ws => ws.isDirectory path) (views.map fun (path, _) => path.child "Widgets")
  else pure []

/-- Whether a directory directly contains something whose name has an ending. -/
def containsEnding (ending : String) (folder : Path) (ws : Workspace) : Except Fault Bool := do
  let found ← ws.list folder
  return found.any fun (name, _) => hasEnding ending name

/-- The first of some directories that contains a page; directories in `passed` are not looked at
again. -/
def firstWithPage (passed : List Path) : List Path → Inspection (Option Path)
  | [] => pure none
  | folder :: rest =>
    if passed.contains folder then firstWithPage passed rest
    else do
      let hasPage ← ask (containsEnding ".html" folder)
      if hasPage then pure (some folder) else firstWithPage (folder :: passed) rest

/-- The first directory at or below `root` that contains both a script and a page. -/
def firstKitFolder (root : Path) : Inspection (Option Path) := do
  let scripts ← entriesEnding root ".js"
  firstWithPage [] (scripts.map fun (path, _) => path.parent)

def kindOfMapping (document : XmlDocument) : Option WidgetKind :=
  (document.childElements.find? fun element => element.uri == "" && element.base == "Mapping").map
    fun mapping => if (mapping.attribute? "" "oType").isSome then .toolChain else .kit

def kindOfDescription (text : List Char) : Option WidgetKind :=
  if Text.hasInfix "version=\"5.".toList text then some .user4
  else if Text.hasInfix "version=\"6.".toList text then some .user6
  else none

/-- The kind of the widget library in a directory. A mapping file decides if it has a mapping, else a
description. -/
def widgetKind? (folder : Path) : Inspection (Option WidgetKind) := do
  let isDirectory ← ask fun ws => ws.isDirectory folder
  if isDirectory then
    let mapping := folder.child "WidgetLibrary.mapping"
    let hasMapping ← ask fun ws => ws.holds mapping
    let mapped ← if hasMapping then kindOfMapping <$> readDocument mapping else pure none
    match mapped with
    | some kind => pure (some kind)
    | none =>
      let description := folder.child "Description.widgetlibrary"
      let hasDescription ← ask fun ws => ws.holds description
      if hasDescription then
        kindOfDescription <$> ask fun ws => ws.readText description
      else pure none
  else pure none

def widgetNotes (verbose : Bool) (name place : String) : Option WidgetKind → List Note
  | some .kit =>
    (if verbose then [⟨s!"Found WDK library: {name} ({place})", "", ""⟩] else []) ++
      [⟨s!"Widget library {name} ({place}) appears to be a WDK (Widget Development Kit) library, " ++
        "which is deprecated and no longer supported in AS6." ++
        "\nFor more information, visit the B&R Community: " ++
        "https://community.br-automation.com/c/wdtc/10", "MANDATORY", "AS6"⟩]
  | some .toolChain => if verbose then [⟨s!"Found WDTC library: {name} ({place})", "", ""⟩] else []
  | some .user4 =>
    if verbose then [⟨s!"Found User Widget Library 4: {name} ({place})", "", ""⟩] else []
  | some .user6 =>
    if verbose then [⟨s!"Found User Widget Library 6: {name} ({place})", "", ""⟩] else []
  | none => []

/-- Whether a library of a kind can stay as it is. -/
def WidgetKind.isCurrent : Option WidgetKind → Bool
  | some .toolChain => true
  | some .user6 => true
  | _ => false

/-- Looks at some libraries and tells whether all can stay as they are. -/
def inspectWidgetFolders (logical : Path) (verbose : Bool) : List Path → Inspection Bool
  | [] => pure true
  | folder :: rest => do
    let place : Path := .relative (folder.parts.drop logical.parts.length)
    let kind ← widgetKind? folder
    sayAll (widgetNotes verbose folder.name place.render kind)
    let others ← inspectWidgetFolders logical verbose rest
    return WidgetKind.isCurrent kind && others

def inspectWidgetRoots (logical : Path) (verbose : Bool) : List Path → Inspection Bool
  | [] => pure true
  | root :: rest => do
    let found ← ask fun ws => ws.list root
    let folders := (found.filter (·.2.isDirectory)).map fun (name, _) => root.child name
    let current ← inspectWidgetFolders logical verbose folders
    let others ← inspectWidgetRoots logical verbose rest
    return current && others

def inspectWidgets (logical : Path) (verbose : Bool) : Inspection Unit := do
  sayIf verbose
    ⟨"Checking for legacy mappView WDK and User widget library usage...", "", ""⟩
  let roots ← widgetRoots logical
  if roots.isEmpty then
    sayIf verbose ⟨"No 'mappView/Widgets' folders found under Logical.", "INFO", ""⟩
  else
    let current ← inspectWidgetRoots logical verbose roots
    sayIf (current && verbose)
      ⟨"No WDK usage or User Widget Library detected in mappView/Widgets.", "INFO", ""⟩

end StudioMigration
