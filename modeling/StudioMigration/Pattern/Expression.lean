import StudioMigration.Pattern.Basic
import StudioMigration.Pattern.Escape

/-!
# Pattern expressions

What a written pattern says, before it is known how letter case, lines and scripts are to be taken:
`Expression` has a constructor for everything that can be written, and `Expression.pattern` gives the
pattern under some settings. Only what looks back can fail to be a pattern, since it needs a fixed width.
-/

namespace StudioMigration

/-! ## Settings -/

/-- The settings that can be written into a pattern. -/
inductive Flag where
  | ignoreCase
  /-- Classes follow the surroundings of the program. -/
  | regional
  /-- Lines have starts and ends of their own. -/
  | multiline
  /-- The dot stands for line ends, too. -/
  | dotAll
  /-- Blanks and comments may be written between the parts. -/
  | spaced
  | ascii
  /-- Nothing may be repeated. -/
  | rigid
  /-- Classes hold characters of all scripts. -/
  | allScripts
  deriving DecidableEq, Repr

/-- Whether a setting says what classes hold. -/
def Flag.isScope (flag : Flag) : Bool := flag == .ascii || flag == .regional || flag == .allScripts

/-- Settings that are turned on and off for a part of a pattern. -/
structure FlagChange where
  on : List Flag
  off : List Flag
  deriving DecidableEq, Repr

/-- How a part of a pattern is to be taken. -/
structure Settings where
  ignoreCase : Bool
  multiline : Bool
  dotAll : Bool
  ascii : Bool
  deriving DecidableEq, Repr

/-- Letter case matters, the text is one line, and classes hold characters of all scripts. -/
def Settings.plain : Settings := ⟨false, false, false, false⟩

def Settings.change (settings : Settings) (change : FlagChange) : Settings :=
  let now (before : Bool) (flag : Flag) : Bool :=
    (before || change.on.contains flag) && !change.off.contains flag
  ⟨now settings.ignoreCase .ignoreCase, now settings.multiline .multiline, now settings.dotAll .dotAll,
    (settings.ascii || change.on.contains .ascii) && !change.on.contains .allScripts⟩

/-! ## Widths -/

/-- The least and the greatest number of characters that something matches. -/
structure Width where
  least : Nat
  most : Nat
  deriving DecidableEq, Repr

namespace Width

/-- The number that stands for any greater one. -/
def unbounded : Nat := 18446744073709551616

def bounded (least most : Nat) : Width := ⟨min least unbounded, min most unbounded⟩

def add (a b : Width) : Width := bounded (a.least + b.least) (a.most + b.most)

def union (a b : Width) : Width := ⟨min a.least b.least, max a.most b.most⟩

def times (a : Width) (least : Nat) (most : Option Nat) : Width :=
  match most with
  | some n => bounded (a.least * least) (a.most * n)
  | none => bounded (a.least * least) (if a.most == 0 then 0 else unbounded)

end Width

/-! ## Expressions -/

/-- The classes of characters with a letter. -/
inductive CharKind where
  | digit
  | space
  | word
  deriving DecidableEq, Repr

/-- What belongs to a set. -/
inductive SetMember where
  | code (n : Nat)
  | range (low high : Nat)
  /-- The characters of a class, or those outside of it. -/
  | kind (kind : CharKind) (outside : Bool)
  deriving DecidableEq, Repr

/-- Places that a pattern can ask for. -/
inductive Place where
  | textStart
  | textEnd
  | lineStart
  /-- The end of the text or of its last line, or of any line. -/
  | lineEnd
  | boundary
  /-- Any other place. -/
  | offBoundary
  deriving DecidableEq, Repr

/-- Which of several numbers of repetitions are tried. -/
inductive Manner where
  | greedy
  | sparing
  /-- The greatest only. -/
  | settled
  deriving DecidableEq, Repr

/-- What a written pattern says. -/
inductive Expression where
  | empty
  | code (n : Nat)
  | dot
  /-- A character of a set, or one outside of it. -/
  | set (outside : Bool) (members : List SetMember)
  | place (here : Place)
  | seq (first second : Expression)
  | either (first second : Expression)
  /-- A part that is remembered under a number. -/
  | group (number : Nat) (body : Expression)
  /-- A part with settings of its own. -/
  | part (change : FlagChange) (body : Expression)
  | firstWay (body : Expression)
  | times (least : Nat) (most : Option Nat) (manner : Manner) (body : Expression)
  /-- The text of a group once more; the width is that of the group. -/
  | again (number : Nat) (width : Width)
  /-- A look ahead or back at what is wanted, or at what is not. -/
  | look (back wanted : Bool) (body : Expression)
  /-- One thing if a group has matched, and another if not. -/
  | ifGroup (number : Nat) (yes no : Expression)
  deriving DecidableEq, Repr

namespace Expression

/-- The expressions one after the other. -/
def all (parts : List Expression) : Expression := parts.foldr seq empty

def oneOf : List Expression → Expression
  | [] => empty
  | [e] => e
  | e :: rest => either e (oneOf rest)

def width : Expression → Width
  | .empty => ⟨0, 0⟩
  | .code _ => ⟨1, 1⟩
  | .dot => ⟨1, 1⟩
  | .set _ _ => ⟨1, 1⟩
  | .place _ => ⟨0, 0⟩
  | .seq first second => first.width.add second.width
  | .either first second => first.width.union second.width
  | .group _ body => body.width
  | .part _ body => body.width
  | .firstWay body => body.width
  | .times least most _ body => body.width.times least most
  | .again _ width => width
  | .look _ _ _ => ⟨0, 0⟩
  | .ifGroup _ yes no => yes.width.union no.width

end Expression

/-! ## Characters under settings -/

namespace Settings

variable (settings : Settings)

def fold (c : Char) : Char :=
  if settings.ascii then (if 'A' ≤ c && c ≤ 'Z' then Char.ofNat (c.toNat + 32) else c)
  else Text.foldChar c

/-- The lower-case forms that are the same letter as a lower-case form. -/
def kin (n : Nat) : List Nat := if settings.ascii then [n] else Text.kin n

def isCode (n : Nat) (c : Char) : Bool :=
  if settings.ignoreCase && Nat.isValidChar n then
    (settings.kin (settings.fold (Char.ofNat n)).toNat).contains (settings.fold c).toNat
  else c.toNat == n

def inRange (low high : Nat) (c : Char) : Bool :=
  let within (n : Nat) : Bool := low ≤ n && n ≤ high
  if settings.ignoreCase then
    if settings.ascii then
      let n := (settings.fold c).toNat
      if 0x61 ≤ n && n ≤ 0x7A then within n || within (n - 32) else within n
    else (Text.kin (Text.foldChar c).toNat).any fun n => Text.someFoldsTo low high n
  else within c.toNat

def inKind (kind : CharKind) (c : Char) : Bool :=
  match kind, settings.ascii with
  | .digit, false => Text.isDecimal c
  | .digit, true => Text.isAsciiDigit c
  | .space, false => Text.isSpace c
  | .space, true => c == ' ' || (9 ≤ c.toNat && c.toNat ≤ 13)
  | .word, false => Text.isWord c
  | .word, true => Text.isAsciiWord c

def inMember (c : Char) : SetMember → Bool
  | .code n => settings.isCode n c
  | .range low high => settings.inRange low high c
  | .kind kind outside => settings.inKind kind c != outside

/-- Whether two characters are the same when a group is matched once more. -/
def same (d c : Char) : Bool :=
  if settings.ignoreCase then settings.fold d == settings.fold c else d == c

/-- Whether a cursor is at a place. No place of an empty text is off the boundary of words. -/
def isAt : Place → Cursor → Bool
  | .textStart, cursor => cursor.atStart
  | .textEnd, cursor => cursor.atEnd
  | .lineStart, cursor =>
    cursor.atStart || (settings.multiline && cursor.before.head? == some '\n')
  | .lineEnd, cursor =>
    cursor.atLastLineEnd || (settings.multiline && cursor.rest.head? == some '\n')
  | .boundary, cursor => cursor.parts (settings.inKind .word)
  | .offBoundary, cursor =>
    !cursor.parts (settings.inKind .word) && !(cursor.before.isEmpty && cursor.rest.isEmpty)

end Settings

/-! ## Patterns of expressions -/

/-- Why an expression is no pattern. -/
inductive BackFlaw where
  | varying
  | tooWide
  deriving DecidableEq, Repr

def BackFlaw.describe : BackFlaw → String
  | .varying => "look-behind requires fixed-width pattern"
  | .tooWide => "looks too much behind"

namespace Expression

/-- The greatest width that can be looked back at. -/
def maxBack : Nat := 4294967295

/-- The class of characters that an expression for a single character stands for. -/
def class? (settings : Settings) : Expression → Option (Char → Bool)
  | .code n => some (settings.isCode n)
  | .dot => some fun c => settings.dotAll || c != '\n'
  | .set outside members => some fun c => (members.any (settings.inMember c)) != outside
  | _ => none

def repeatedClass (accepts : Char → Bool) (least : Nat) (most : Option Nat) (sparing : Bool) : Pattern :=
  match least, most with
  | 0, none => if sparing then .fewest accepts else .many accepts
  | 1, none => .seq (.char accepts) (if sparing then .fewest accepts else .many accepts)
  | _, _ => .times least most sparing (.char accepts)

def pattern (settings : Settings) : Expression → Except BackFlaw Pattern
  | .empty => .ok .empty
  | .code n => .ok (.char (settings.isCode n))
  | .dot => .ok (.char fun c => settings.dotAll || c != '\n')
  | .set outside members => .ok (.char fun c => (members.any (settings.inMember c)) != outside)
  | .place here => .ok (.place (settings.isAt here))
  | .seq first second => do
    let p ← first.pattern settings
    let q ← second.pattern settings
    return .seq p q
  | .either first second => do
    let p ← first.pattern settings
    let q ← second.pattern settings
    return .either p q
  | .group number body => do
    let p ← body.pattern settings
    return .group number p
  | .part change body => body.pattern (settings.change change)
  | .firstWay body => do
    let p ← body.pattern settings
    return .firstWay p
  | .times least most manner body => do
    let p ←
      match body.class? settings with
      | some accepts => pure (repeatedClass accepts least most (manner == .sparing))
      | none => do
        let q ← body.pattern settings
        pure (.times least most (manner == .sparing) q)
    return if manner == .settled then .firstWay p else p
  | .again number _ => .ok (.again settings.same number)
  | .look back wanted body => do
    let width := body.width
    if back && maxBack < width.least then throw .tooWide
    if back && width.least != width.most then throw .varying
    let p ← body.pattern settings
    let distance := if back then width.least else 0
    return if wanted then .look distance p else .avoid distance p
  | .ifGroup number yes no => do
    let p ← yes.pattern settings
    let q ← no.pattern settings
    return .ifGroup number p q

end Expression

end StudioMigration
