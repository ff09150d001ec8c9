import StudioMigration.Text.Basic

/-!
# Paths

A path starts somewhere and has components; empty components and single dots are dropped when a path is
read from a string, so that two spellings of one path become equal. Double dots are kept.
-/

namespace StudioMigration

/-- Where a path starts. -/
inductive Anchor where
  | here
  | top
  /-- At the top, written with two slashes, which are kept as a spelling of their own. -/
  | doubledTop
  deriving DecidableEq, Repr

def Anchor.render : Anchor → String
  | .here => ""
  | .top => "/"
  | .doubledTop => "//"

structure Path where
  anchor : Anchor
  parts : List String
  deriving DecidableEq, Repr

namespace Path

def components (s : String) : List String :=
  (Text.splitWhere (· == '/') s.toList).map String.ofList

/-- Where a string starts: any number of slashes leads to the top, and just two of them are kept. -/
def anchorOf (s : String) : Anchor :=
  match (s.toList.takeWhile (· == '/')).length with
  | 0 => .here
  | 2 => .doubledTop
  | _ => .top

def ofString (s : String) : Path :=
  ⟨anchorOf s, (components s).filter fun part => part != "" && part != "."⟩

variable (p : Path)

/-- Writes a path. The empty path from here is a dot. -/
def render : String :=
  let joined := p.anchor.render ++ Text.joinStrings "/" p.parts
  if joined == "" then "." else joined

def relative (names : List String) : Path := ⟨.here, names⟩

def child (name : String) : Path := { p with parts := p.parts ++ [name] }

def descend (names : List String) : Path := { p with parts := p.parts ++ names }

/-- A path given as a string, seen from `p`: an absolute one stands for itself. -/
def join (s : String) : Path :=
  let q := ofString s
  if q.anchor = .here then p.descend q.parts else q

def name : String := p.parts.getLast?.getD ""

def parent : Path := { p with parts := p.parts.dropLast }

/-- The file name extension with its dot. A name that only starts or ends with a dot has none. -/
def extension : String :=
  let reversed := p.name.toList.reverse
  let tail := reversed.takeWhile (· != '.')
  match reversed.drop tail.length with
  | [] => ""
  | [_] => ""
  | dot :: _ => if tail.isEmpty then "" else String.ofList (dot :: tail.reverse)

end Path

/-! ## Strings that name files -/

/-- Whether a string has a null character, which no file name may have. -/
def hasNull (s : String) : Bool := s.toList.contains (Char.ofNat 0)

def baseName (s : String) : String :=
  String.ofList ((s.toList.reverse.takeWhile (· != '/')).reverse)

/-- What precedes the last slash, without further slashes at its end unless it has nothing else. -/
def directoryName (s : String) : String :=
  let head := (s.toList.reverse.dropWhile (· != '/')).reverse
  if head.all (· == '/') then String.ofList head
  else String.ofList (Text.trimEndWhere (· == '/') head)

def folderOf (file : String) : String := baseName (directoryName file)

end StudioMigration
