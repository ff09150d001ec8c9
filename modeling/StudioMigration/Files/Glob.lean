import StudioMigration.Files.Workspace

/-!
# Patterns of file names

A pattern of file names has components between slashes. In a component a star stands for any characters,
a question mark for one character, and brackets for one character out of a set; a component of two stars
stands for any number of directories.

* `NamePattern.accepts` says which names fit a component.
* `Glob.select` finds the paths that fit a pattern.
-/

namespace StudioMigration

/-! ## Names -/

/-- What a part of a component stands for. -/
inductive NameItem where
  | run
  /-- A character that is in one of the ranges or, if `negated`, in none. -/
  | oneOf (negated : Bool) (ranges : List (Char × Char))
  deriving DecidableEq, Repr

def NameItem.any : NameItem := .oneOf true []

def NameItem.just (c : Char) : NameItem := .oneOf false [(c, c)]

abbrev NamePattern := List NameItem

def inRanges (negated : Bool) (ranges : List (Char × Char)) (c : Char) : Bool :=
  (ranges.any fun (low, high) => low ≤ c && c ≤ high) != negated

/-- A text and what is left of it after each of its characters. -/
def suffixes : List Char → List (List Char)
  | [] => [[]]
  | c :: rest => (c :: rest) :: suffixes rest

def NamePattern.accepts : NamePattern → List Char → Bool
  | [], name => name.isEmpty
  | .run :: items, name => (suffixes name).any fun rest => accepts items rest
  | .oneOf negated ranges :: items, name =>
    match name with
    | [] => false
    | c :: rest => inRanges negated ranges c && accepts items rest

/-! ## Sets -/

/-- Cuts what stands between brackets at the hyphens that form ranges: not at one in front, nor at the
two characters after such a hyphen. `skip` characters still are no cut; the piece so far is kept last
character first. -/
def rangePieces : Nat → List Char → List Char → List (List Char)
  | _, piece, [] => [piece.reverse]
  | skip + 1, piece, c :: rest => rangePieces skip (c :: piece) rest
  | 0, piece, c :: rest =>
    if c == '-' then piece.reverse :: rangePieces 2 [] rest
    else rangePieces 0 (c :: piece) rest

/-- A hyphen at the end forms no range. -/
def mendPieces : List (List Char) → List (List Char)
  | [] => []
  | [piece, []] => [piece ++ ['-']]
  | piece :: pieces => piece :: mendPieces pieces

/-- Leaves out the ranges that have nothing in them, from the last one on. -/
def dropEmptyRanges : List (List Char) → List (List Char)
  | [] => []
  | piece :: pieces =>
    match dropEmptyRanges pieces with
    | [] => [piece]
    | next :: rest =>
      if (piece.getLast?.any fun low => next.head?.any fun high => high < low) then
        (piece.dropLast ++ next.drop 1) :: rest
      else piece :: next :: rest

/-- The ranges that some pieces make up: between neighbours a range, and all else single characters. The
first character of the first piece is left out if it ends a range. -/
def pieceRanges : Bool → List (List Char) → List (Char × Char)
  | _, [] => []
  | endsRange, piece :: pieces =>
    let own := if endsRange then piece.drop 1 else piece
    match pieces with
    | [] => own.map fun c => (c, c)
    | next :: _ =>
      (own.dropLast.map fun c => (c, c)) ++
        (match piece.getLast?, next.head? with
         | some low, some high => [(low, high)]
         | _, _ => []) ++
        pieceRanges true pieces

/-- The set between brackets. An exclamation mark in front negates it. -/
def setItem (inner : List Char) : NameItem :=
  let pieces :=
    if inner.contains '-' then
      dropEmptyRanges (mendPieces (rangePieces (if inner.head? == some '!' then 2 else 1) [] inner))
    else [inner]
  match pieces with
  | ('!' :: piece) :: rest => .oneOf true (pieceRanges false (piece :: rest))
  | _ => .oneOf false (pieceRanges false pieces)

/-- The length of the set behind an opening bracket, if it is closed. A bracket right at its start, also
behind an exclamation mark, does not close it. -/
def setLength? (text : List Char) : Option Nat :=
  let front := if text.head? == some '!' then 1 else 0
  let front := if (text.drop front).head? == some ']' then front + 1 else front
  let inner := (text.drop front).takeWhile (· != ']')
  if front + inner.length < text.length then some (front + inner.length) else none

/-- Reads a component, with `skip` characters of a set still to be passed over. -/
def readNamePattern : Nat → List Char → NamePattern
  | _, [] => []
  | skip + 1, _ :: rest => readNamePattern skip rest
  | 0, c :: rest =>
    if c == '*' then .run :: readNamePattern 0 rest
    else if c == '?' then .any :: readNamePattern 0 rest
    else if c == '[' then
      match setLength? rest with
      | some size => setItem (rest.take size) :: readNamePattern (size + 1) rest
      | none => .just c :: readNamePattern 0 rest
    else .just c :: readNamePattern 0 rest

/-! ## Components -/

/-- A component of a pattern. -/
inductive GlobStep where
  | anyDepth
  /-- A name that fits. -/
  | fitting (pattern : NamePattern)
  | named (name : String)
  deriving DecidableEq, Repr

/-- Whether a character has a meaning of its own in a component. -/
def isWildcard (c : Char) : Bool := c == '*' || c == '?' || c == '['

/-- Reads a component. Two stars beside something else are refused. -/
def GlobStep.read (component : String) : Except Fault GlobStep :=
  if component == "**" then .ok .anyDepth
  else if Text.occursIn "**" component then .error .doubledStar
  else if component.toList.any isWildcard then .ok (.fitting (readNamePattern 0 component.toList))
  else .ok (.named component)

/-- A pattern of file names: its components, and whether a slash at the end asks for directories. -/
structure Glob where
  steps : List GlobStep
  directoriesOnly : Bool
  deriving DecidableEq, Repr

def Glob.read (text : String) : Except Fault Glob := do
  let steps ← (Path.ofString text).parts.mapM GlobStep.read
  return ⟨steps, text.toList.getLast? == some '/'⟩

/-! ## Finding paths -/

/-- Whether a location comes before another one, or is the same, when every directory is followed by
what stands in it. -/
def locationLe : Location → Location → Bool
  | [], _ => true
  | _ :: _, [] => false
  | a :: p, b :: q => a < b || (a == b && locationLe p q)

namespace Workspace

/-- The directory at a path and all directories below it, each one before those in it. -/
def directoriesFrom (ws : Workspace) (path : Path) : Except Fault (List Path) := do
  let below ← ws.find path fun _ => true
  let folders := below.filterMap fun (found, entry) =>
    if entry.isDirectory then some (found.parts.drop path.parts.length) else none
  return path :: (folders.mergeSort locationLe).map path.descend

/-- The paths that components lead to from a path. Whatever is followed by another component, and the
last one if `directoriesOnly`, must be a directory. -/
def select (ws : Workspace) (directoriesOnly : Bool) :
    List GlobStep → Path → Except Fault (List Path)
  | [], path => .ok [path]
  | .anyDepth :: steps, path => do
    let starts ← ws.directoriesFrom path
    let found ← starts.mapM fun start => ws.select directoriesOnly steps start
    return found.flatten.eraseDups
  | .fitting pattern :: steps, path => do
    let entries ← ws.list path
    let fitting := entries.filter fun (name, entry) =>
      (entry.isDirectory || (steps.isEmpty && !directoriesOnly)) && pattern.accepts name.toList
    let found ← fitting.mapM fun (name, _) => ws.select directoriesOnly steps (path.child name)
    return found.flatten
  | .named name :: steps, path => do
    let next := path.child name
    let isThere ← if steps.isEmpty && !directoriesOnly then ws.holds next else ws.isDirectory next
    if isThere then ws.select directoriesOnly steps next else return []

/-- The paths below the directory at a path, in any depth, that fit a pattern. A path that is no directory
has none. -/
def findFitting (ws : Workspace) (start : Path) (glob : Glob) : Except Fault (List Path) := do
  if ← ws.isDirectory start then ws.select glob.directoriesOnly (.anyDepth :: glob.steps) start
  else return []

end Workspace

end StudioMigration
