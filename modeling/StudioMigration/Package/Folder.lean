import StudioMigration.Analysis.MappPackage
import StudioMigration.Command.Request
import StudioMigration.Package.List
import StudioMigration.Project
import StudioMigration.Xml.Salvage

/-!
# Package folders

Adds the mapp packages that a project needs to its hardware configurations: an entry in the package list
and a folder with a package file. Packages that are referred to are left alone.
-/

namespace StudioMigration

open Script

/-! ## One package -/

/-- The package list of a hardware configuration: in the first of its directories that has one. -/
def ownPackageList? (ws : Workspace) (configuration : Path) : Except Fault (Option Path) := do
  let isDirectory ← ws.isDirectory configuration
  if isDirectory then
    let found ← ws.list configuration
    let lists := (found.filter (·.2.isDirectory)).map fun (name, _) =>
      (configuration.child name).child "cpu.pkg"
    lists.findM? ws.holds
  else return none

def openPackageList (ws : Workspace) (list : Path) : Except Fault XmlDocument := do
  match ws.readBytes list with
  | .ok bytes => readPackageList bytes
  | .error _ => throw (.unloadable list.render)

def packageFileText (type : String) : String :=
  "<?xml version=\"1.0\" encoding=\"utf-8\"?><?AutomationStudio FileVersion=\"4.9\"?>" ++
    s!"<Package SubType=\"{type}\" PackageType=\"{type}\" " ++
    "xmlns=\"http://br-automation.co.at/AS/Package\"><Objects /></Package>"

structure Creation where
  object : Bool
  folder : Bool
  deriving DecidableEq, Repr

/-- Makes the folder of a package with a package file in it, unless something stands there already. Tells
whether it was made. -/
def ensurePackageFolder (folder : Path) (type : String) : Script Bool := do
  let there ← look fun ws => ws.holds folder
  if there then return false
  else
    makeDirectories folder
    change fun ws =>
      ws.writeBytes (folder.child "Package.pkg") (Text.Utf8.encodeString (packageFileText type))
    return true

def ensurePackage (list : Path) (package type : String) : Script Creation := do
  let document ← look fun ws => openPackageList ws list
  let added ← look fun _ => PackageList.add document package
  match added with
  | some edited =>
    change fun ws => ws.writeBytes list (Text.Utf8.encode (Xml.write edited))
  | none => pure ()
  let made ← ensurePackageFolder (list.parent.join package) type
  return ⟨added.isSome, made⟩

def creationNotes (package : String) (folder : Path) (isOwn : Bool) (made : Creation)
    (folderThere : Bool) : List Note :=
  [if made.object then ⟨s!"- Object in cpu.pkg: created for {package}", "INFO", ""⟩
   else if isOwn then ⟨s!"- Object in cpu.pkg: exists for {package}", "INFO", ""⟩
   else ⟨"- Object in cpu.pkg: not found and not created (unexpected)", "INFO", ""⟩] ++
  if made.folder then
    [⟨s!"- Folder: created -> {folder.render}", "INFO", ""⟩,
     ⟨"- File: created -> " ++ (folder.child "Package.pkg").render, "INFO", ""⟩]
  else if folderThere then [⟨s!"- Folder: exists -> {folder.render}", "INFO", ""⟩]
  else [⟨s!"- Folder: missing (unexpected) -> {folder.render}", "INFO", ""⟩]

/-- Adds a package according to the package list. Tells whether the package is there in the end. -/
def addListedPackage (list : Path) (configuration package type : String) : Script Bool := do
  let presence ← look fun ws => do
    PackageList.presence (← openPackageList ws list) package
  match presence.reference with
  | some path =>
    say ⟨s!"- Skipping {package} in {configuration}: referenced from {path}", "INFO", ""⟩
    return true
  | none =>
    let folder := list.parent.join package
    let thereBefore ← look fun ws => ws.holds folder
    let made ← ensurePackage list package type
    let there ← look fun ws => ws.holds folder
    (creationNotes package folder presence.isOwn made there).forM say
    return there || thereBefore

def packageFaultNote (configuration : String) (fault : Fault) : Note :=
  match fault with
  | .xml _ _ =>
    ⟨s!"- Error parsing cpu.pkg XML in {configuration}: {fault.message}", "ERROR", ""⟩
  | _ => ⟨s!"- Error handling cpu.pkg in {configuration}: {fault.message}", "ERROR", ""⟩

def addPackage (folder : Path) (configuration package type : String) : Script Bool := do
  say ⟨s!"Checking {package} folder:", "INFO", ""⟩
  match ← look fun ws => ownPackageList? ws folder with
  | none =>
    say ⟨s!"- Skipping {package} in {configuration}: cpu.pkg not found", "INFO", ""⟩
    return false
  | some list =>
    try addListedPackage list configuration package type
    catch fault =>
      say (packageFaultNote configuration fault)
      pure false

/-! ## The motion software of a project -/

def MotionChoice.ofFound (mappMotion acp10 : Bool) : MotionChoice :=
  if mappMotion then .mappMotion else if acp10 then .acp10 else .none

def motionAmong (elements : List XmlElement) : MotionChoice :=
  MotionChoice.ofFound (elements.any (·.base == "mappMotion"))
    (elements.any fun element => "Acp10".toList.isPrefixOf element.base.toList)

mutual

/-- The first element `TechnologyPackages` at or below a node: the elements directly in it. -/
def technologyPackages? (scope : XmlScope) : XmlNode → Option (List XmlElement)
  | .element tag children =>
    if tag.name.base == "TechnologyPackages" then
      some (children.filterMap fun
        | .element inner _ =>
          some (inner.resolve ((scope.inside tag).inside inner))
        | _ => none)
    else firstTechnologyPackages? (scope.inside tag) children
  | _ => none

def firstTechnologyPackages? (scope : XmlScope) : List XmlNode → Option (List XmlElement)
  | [] => none
  | node :: rest =>
    match technologyPackages? scope node with
    | some found => some found
    | none => firstTechnologyPackages? scope rest

end

/-- The motion software that a document lists: among its technology packages or, if it has no list of
them, anywhere. -/
def motionInDocument (document : XmlDocument) : MotionChoice :=
  motionAmong ((technologyPackages? [] document.root).getD
    (document.rootElement :: document.descendants))

def motionInText (text : List Char) : MotionChoice :=
  MotionChoice.ofFound (Text.hasInfix "<mappMotion".toList text)
    (Text.hasInfix "Acp10".toList text)

/-- The motion software of a project: what the document lists, else what the text mentions. -/
def motionChoice (ws : Workspace) (project : Path) : MotionChoice :=
  match ws.readBytes project with
  | .error _ => .none
  | .ok bytes =>
    let listed := ((Xml.salvage? bytes).map motionInDocument).getD .none
    if listed == .none then motionInText (Text.unifyNewlines (Text.Utf8.decodeLenient bytes))
    else listed

/-! ## The tool -/

def neededPackages (choice : MotionChoice) : List (String × String) :=
  [("mappServices", "mappServices"), ("mappView", "mappViewControl")] ++
    if choice == .mappMotion then [("mappMotion", "mappMotion"), ("mappCockpit", "mappCockpit")] else []

def addPackages (choice : MotionChoice) (folder : Path) : Script Unit := do
  let configuration := folder.name
  say ⟨ruler, "", ""⟩
  say ⟨s!"Found configuration folder: {configuration}", "INFO", ""⟩
  let found ← look fun ws => ws.list folder
  if found.any (·.2.isDirectory) then
    (neededPackages choice).forM fun (package, type) => do
      let _ ← addPackage folder configuration package type
      return ()
    if choice != .mappMotion then
      say
        ⟨s!"Skipping mappMotion in {configuration}: project uses '{choice.name}'", "INFO", ""⟩

/-- Adds all needed packages to the hardware configurations in a directory. -/
def addAllPackages (choice : MotionChoice) (physical : Path) : Script Unit := do
  let isDirectory ← look fun ws => ws.isDirectory physical
  if isDirectory then
    let found ← look fun ws => ws.list physical
    (found.filter (·.2.isDirectory)).forM fun (name, _) => addPackages choice (physical.child name)
    say ⟨ruler, "", ""⟩
    say
      ⟨"Please close and reopen the project in Automation Studio to see the changes.", "INFO", ""⟩
  else say ⟨"Could not find Physical folder", "ERROR", ""⟩

def packageFoldersPurpose : String := "Creates non-existing mapp folders (reference-aware)"

/-- Adds the needed packages to all hardware configurations of a project. -/
def runPackageFolders (caller : String) (line : List String) : Script Unit := do
  let (folder, _) ← projectRequest caller packageFoldersPurpose line
  let file ← requireProject caller folder
  say ⟨s!"Project path validated: {folder}", "", ""⟩
  let project := (Path.ofString folder).child file
  say ⟨s!"Using project file: {project.render}", "", ""⟩
  let session ← get
  let choice := motionChoice session.workspace project
  say ⟨s!"Detected motion technology: {choice.name}", "INFO", ""⟩
  addAllPackages choice ((Path.ofString folder).child "Physical")

end StudioMigration
