import StudioMigration.Session

/-!
# Versions and updates of the tool itself

Which version is running, what the newest release is, and the question whether to get it.
-/

namespace StudioMigration

/-! ## Calendar versions -/

abbrev CalendarVersion := List Nat

namespace CalendarVersion

/-- The parts of a version text between dots: white space around it, a leading `v` and whatever follows
a plus sign do not count. -/
def parts (text : List Char) : List (List Char) :=
  let trimmed := Text.trim text
  let bare := if trimmed.head? == some 'v' then trimmed.drop 1 else trimmed
  Text.splitWhere (· == '.') (bare.takeWhile (· != '+'))

/-- Whether a part of a version text counts: it has digits only. -/
def counts (part : List Char) : Bool := !part.isEmpty && part.all Text.isDigit

/-- Reads a version. Parts with anything but digits are passed over. -/
def read (text : List Char) : Except Text.NumeralFlaw CalendarVersion :=
  ((parts text).filter counts).mapM Text.readNat

/-- Whether the first version is older: it has the smaller number at the first difference, or ends
there. -/
def isOlder : CalendarVersion → CalendarVersion → Bool
  | _, [] => false
  | [], _ :: _ => true
  | m :: ms, n :: ns => m < n || (m == n && isOlder ms ns)

end CalendarVersion

/-- Whether the remote version text names a newer version than the local one. Texts that cannot be read
are never newer nor older. -/
def isNewer (remote localVersion : List Char) : Bool :=
  match CalendarVersion.read remote, CalendarVersion.read localVersion with
  | .ok theirs, .ok ours => CalendarVersion.isOlder ours theirs
  | _, _ => false

/-! ## The running version -/

/-- The trimmed text of a version file, if it is there, can be read and is not empty. -/
def versionFromFile (ws : Workspace) (folder : Path) : Option String :=
  let file := folder.child "version.txt"
  match ws.isFile file with
  | .ok true =>
    match ws.readText file with
    | .ok text =>
      let trimmed := String.ofList (Text.trim text)
      if trimmed == "" then none else some trimmed
    | .error _ => none
  | _ => none

/-- The version of the running tool: the one given from outside, else the one in a version file of a
bundle, else `dev`. A bundle that does not know its own place has no version file. -/
def toolVersion (ws : Workspace) (installation : Installation) : String :=
  match installation.releaseVariable with
  | some given => if given == "" then fromFiles else Text.trimString given
  | none => fromFiles
where
  fromFiles : String :=
    if installation.bundled then
      match installation.programFolder with
      | some folder =>
        let folders := folder :: installation.bundleFolder.toList
        (folders.findSome? (versionFromFile ws)).getD "dev"
      | none => "dev"
    else "dev"

/-! ## The newest release -/

def releaseRepository : String := "kjaerhusm/as6-migration-tools"

def userAgent : String := "as6-migration-tools"

/-- A release: its tag, its page, and the file to download, if there is one. -/
structure Release where
  tag : Json
  page : Json
  asset : Option Json

def assetNames : List String := ["as6-migration-tools.exe", "as6-migration-tools.zip"]

/-- The first download among the assets of a release. -/
def findAsset (page : Json) : List Json → Except Fault (Option Json)
  | [] => .ok none
  | asset :: rest => do
    let member ← asset.expectObject
    match (member "name").getD (.string "") with
    | .string name =>
      if assetNames.contains (Text.lowerString name) then
        return some (Json.orElse (member "browser_download_url") page)
      else findAsset page rest
    | other => throw (.noAttribute other.kindName "lower")

def Release.ofJson (answer : Json) : Except Fault Release := do
  let member ← answer.expectObject
  let tag := Json.orElse (member "tag_name") (.string "")
  let page := Json.orElse (member "html_url")
    (.string ("https://github.com/" ++ releaseRepository ++ "/releases/latest"))
  let assets ← ((member "assets").getD (.array [])).walk
  let asset ← findAsset page assets
  return ⟨tag, page, asset⟩

def latestRelease : Script Release := do
  let address := "https://api.github.com/repos/" ++ releaseRepository ++ "/releases/latest"
  let body ← Script.fetch ⟨address, userAgent, 5⟩
  match Json.ofBytes body >>= Release.ofJson with
  | .ok release => pure release
  | .error fault => throw fault

def Release.isNewerThan (release : Release) (running : String) : Bool :=
  match release.tag with
  | .string tag => tag != "" && isNewer tag.toList running.toList
  | _ => false

def Release.download (release : Release) : Json := Json.orElse release.asset release.page

/-! ## The update question -/

/-- Compares with the newest release and offers a newer one. -/
def offerUpdate (tellIfCurrent : Bool) : Script Unit := do
  let session ← get
  let running := toolVersion session.workspace session.installation
  let release ← latestRelease
  if release.isNewerThan running then
    let question :=
      s!"A newer version is available:\nCurrent: {running}\n" ++
        "Latest : " ++ release.tag.display ++ "\n\nOpen download page?"
    if session.respondent == .window then
      Script.record (.box "Update available" question)
      let answer ← Script.nextAnswer
      if answer == "Download" then Script.record (.page release.download)
    else
      Script.print .out (question ++ " (opening browser)")
      Script.record (.page release.download)
  else if tellIfCurrent then
    let shown := if release.tag.isPresent then release.tag.display else "unknown"
    let text := s!"You are up to date.\nCurrent: {running}\nLatest : {shown}"
    if session.respondent == .window then Script.record (.box "No updates" text)
    else Script.print .out text

/-- The update question; whatever goes wrong is told on the terminal only. -/
def checkForUpdates (tellIfCurrent : Bool) : Script Unit := do
  let session ← get
  try offerUpdate tellIfCurrent
  catch fault =>
    if session.respondent != .window then
      Script.print .out ("[update-check] failed: " ++ fault.message)

end StudioMigration
