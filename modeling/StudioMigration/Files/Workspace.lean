import StudioMigration.Fault

/-!
# Workspaces

A workspace is a file tree seen from a current directory. Its operations take paths, find the location
they lead to, and answer or change the tree; each tells precisely why it fails. Some take names instead,
strings that are followed as they stand: a name may be empty, its dots count as steps, and a slash at its
end asks for a directory.
-/

namespace StudioMigration

open StudioMigration.Text.Utf8 (Bytes)

/-- A file tree and the directory that relative paths start from. -/
structure Workspace where
  tree : Tree
  here : Location

def maxPartLength : Nat := 255

def maxPathLength : Nat := 4095

/-- Follows steps from a location: a component goes down, two dots go up, and one dot stays. The location
reached need not exist, but everything on the way must be a directory. -/
def Tree.follow (tree : Tree) : Location → List String → Except FileObstacle Location
  | location, [] => .ok location
  | location, step :: steps =>
    match tree.get? location with
    | none => .error .missing
    | some .directory =>
      if step == "." then tree.follow location steps
      else if step == ".." then tree.follow location.dropLast steps
      else if maxPartLength < Text.Utf8.byteLength step then .error .nameTooLong
      else tree.follow (location ++ [step]) steps
    | some _ => .error .notDirectory

/-- The steps of a name: its components, and a last one that stays if a slash ends it. -/
def nameSteps (name : String) : List String :=
  (Path.components name).filter (· != "") ++ (if name.toList.getLast? == some '/' then ["."] else [])

namespace Workspace

/-! ## Locations -/

variable (ws : Workspace) (path : Path) (name : String) (shown : String) (location : Location)

def start (anchor : Anchor) : Location := if anchor = .here then ws.here else []

/-- The location that steps lead to; in faults the path is `shown`. -/
def reach (anchor : Anchor) (steps : List String) : Except Fault Location :=
  if hasNull shown then .error .nullByte
  else if maxPathLength < Text.Utf8.byteLength shown then .error (.file .nameTooLong shown)
  else
    match ws.tree.follow (ws.start anchor) steps with
    | .ok location => .ok location
    | .error obstacle => .error (.file obstacle shown)

def locate : Except Fault Location :=
  ws.reach path.render path.anchor path.parts

/-- The location that a name leads to. The empty name leads nowhere. -/
def locateNamed : Except Fault Location :=
  if name == "" then .error (.file .missing "") else ws.reach name (Path.anchorOf name) (nameSteps name)

/-- An absolute path to the same place as `path`, double dots resolved by name. -/
def resolve : Path :=
  ⟨.top, (path.parts.foldl (fun parts part =>
    if part == ".." then parts.dropLast else parts ++ [part]) (ws.start path.anchor))⟩

def current : Path := ⟨.top, ws.here⟩

/-! ## Looking -/

/-- What stands at a path, if anything. Only a name that is too long is a fault. -/
def status : Except Fault (Option Entry) :=
  match ws.locate path with
  | .ok location => .ok (ws.tree.get? location)
  | .error (.file .nameTooLong shown) => .error (.file .nameTooLong shown)
  | .error _ => .ok none

def holds : Except Fault Bool :=
  Option.isSome <$> ws.status path

def isFile : Except Fault Bool :=
  (fun entry => entry.any Entry.isFile) <$> ws.status path

def isDirectory : Except Fault Bool :=
  (fun entry => entry.any Entry.isDirectory) <$> ws.status path

def entryNamed? : Option Entry :=
  match ws.locateNamed name with
  | .ok location => ws.tree.get? location
  | .error _ => none

def holdsNamed : Bool := (ws.entryNamed? name).isSome

def isDirectoryNamed : Bool :=
  (ws.entryNamed? name).any Entry.isDirectory

/-- The bytes of the file at a location; in faults its path is `shown`. -/
def bytesAt : Except Fault Bytes :=
  match ws.tree.get? location with
  | none => .error (.file .missing shown)
  | some .directory => .error (.file .isDirectory shown)
  | some (.file bytes) => .ok bytes
  | some .fullDevice => .ok []

def readBytes : Except Fault Bytes := do
  ws.bytesAt path.render (← ws.locate path)

def readNamed : Except Fault Bytes := do
  ws.bytesAt name (← ws.locateNamed name)

/-- The names and entries in the directory at a location; in faults its path is `shown`. -/
def listAt : Except Fault (List (String × Entry)) :=
  match ws.tree.get? location with
  | none => .error (.file .missing shown)
  | some .directory => .ok (ws.tree.children location)
  | some _ => .error (.file .notDirectory shown)

def list : Except Fault (List (String × Entry)) := do
  ws.listAt path.render (← ws.locate path)

def listNamed : Except Fault (List (String × Entry)) := do
  ws.listAt name (← ws.locateNamed name)

/-- The entries below the directory at a path whose names are accepted, as paths, in walking order. A
path that is no directory has none. -/
def find (start : Path) (accepts : String → Bool) : Except Fault (List (Path × Entry)) :=
  match ws.locate start with
  | .error (.file .nameTooLong shown) => .error (.file .nameTooLong shown)
  | .error _ => .ok []
  | .ok location =>
    if ws.tree.isDirectory location then
      .ok ((ws.tree.below location).filterMap fun (below, entry) =>
        if below.getLast?.any accepts then some (start.descend below, entry) else none)
    else .ok []

/-! ## Reading text -/

/-- The text of a file in UTF-8, line ends unified. -/
def readText : Except Fault (List Char) := do
  let bytes ← ws.readBytes path
  match Text.Utf8.decode bytes with
  | .ok text => return Text.unifyNewlines text
  | .error place => throw (.undecodable place.undecodable)

/-- The text of a file in UTF-8 without its malformed runs, line ends unified. -/
def readLenient : Except Fault (List Char) := do
  let bytes ← ws.readBytes path
  return Text.unifyNewlines (Text.Utf8.decodeLenient bytes)

/-- The text of a file in Latin-1, line ends unified. -/
def readLatin : Except Fault (List Char) := do
  let bytes ← ws.readBytes path
  return Text.unifyNewlines (Text.Latin1.decode bytes)

/-! ## Changing -/

def put (entry : Entry) : Workspace :=
  { ws with tree := ws.tree.insert location entry }

/-- Whether the file at a location, which may be written, is a full device; in faults its path is
`shown`. -/
def writableAt : Except Fault Bool :=
  match ws.tree.get? location with
  | some .directory => .error (.file .isDirectory shown)
  | some .fullDevice => .ok true
  | some (.file _) => .ok false
  | none => .ok false

def writeBytes (bytes : Bytes) : Except Fault Workspace := do
  let location ← ws.locate path
  if ← ws.writableAt path.render location then
    if bytes.isEmpty then return ws else throw .deviceFull
  else return ws.put location (.file bytes)

/-- The location of a file that a name leads to, which may be written, and whether it is a full device.
A name that ends in a slash is taken for that of a directory, whatever stands there. -/
def writableNamed : Except Fault (Location × Bool) := do
  if name.toList.getLast? == some '/' then
    let above := ((Path.components name).filter (· != "")).dropLast
    let _ ← ws.reach name (Path.anchorOf name) (above ++ ["."])
    throw (.file .isDirectory name)
  else
    let location ← ws.locateNamed name
    return (location, ← ws.writableAt name location)

/-- Makes an empty file, or empties the one that is there. -/
def truncate : Except Fault Workspace := do
  let (location, isFull) ← ws.writableNamed name
  return if isFull then ws else ws.put location (.file [])

def append (ws : Workspace) (name : String) (bytes : Bytes) : Except Fault Workspace := do
  let (location, isFull) ← ws.writableNamed name
  if isFull then
    if bytes.isEmpty then return ws else throw .deviceFull
  else
    match ws.tree.get? location with
    | some (.file old) => return ws.put location (.file (old ++ bytes))
    | _ => return ws.put location (.file bytes)

/-- Makes the directory at a path, where nothing may stand. -/
def makeDirectory : Except Fault Workspace := do
  let location ← ws.locate path
  if (ws.tree.get? location).isSome then throw (.file .occupied path.render)
  else return ws.put location .directory

end Workspace

end StudioMigration
