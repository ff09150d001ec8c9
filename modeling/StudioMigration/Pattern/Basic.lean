import StudioMigration.Text.Case

/-!
# Patterns

A small language of text patterns with a backtracking reading: alternatives are tried in order, and
repetitions either as long as possible first or as short as possible first. Repetitions of a character
class have constructors of their own, since nearly all patterns need no others. A pattern is run from a
cursor, which knows the characters before it, so that word boundaries can be recognised and a pattern can
look back.

* `Pattern.matchAt` tries a pattern at one place.
* `Pattern.search` finds the first place where it matches.
* `Pattern.pieces` cuts a text into matches and the characters between them; `findAll` and
  `replaceWith` are read off the pieces.
-/

namespace StudioMigration

/-! ## Cursors and patterns -/

/-- A place in a text: the characters before it, the nearest first, what follows it, and how many
characters precede it. -/
structure Cursor where
  before : List Char
  rest : List Char
  position : Nat
  deriving DecidableEq, Repr

def Cursor.start (text : List Char) : Cursor := ⟨[], text, 0⟩

/-- The place `n` characters before a place, if there is one. -/
def Cursor.back? : Cursor → Nat → Option Cursor
  | cursor, 0 => some cursor
  | ⟨c :: before, rest, position⟩, n + 1 => Cursor.back? ⟨before, c :: rest, position - 1⟩ n
  | ⟨[], _, _⟩, _ + 1 => none

/-- Whether a word starts or ends here, `inWord` saying which characters words consist of. -/
def Cursor.parts (inWord : Char → Bool) (cursor : Cursor) : Bool :=
  cursor.before.head?.any inWord != cursor.rest.head?.any inWord

/-- Whether a word starts or ends here. -/
def Cursor.atBoundary (cursor : Cursor) : Bool := cursor.parts Text.isWord

def Cursor.atStart (cursor : Cursor) : Bool := cursor.position == 0

def Cursor.atEnd (cursor : Cursor) : Bool := cursor.rest.isEmpty

/-- Whether this is the end of the text, or of its last line. -/
def Cursor.atLastLineEnd (cursor : Cursor) : Bool := cursor.atEnd || cursor.rest == ['\n']

/-- What a group has matched: where it was entered last, and where it was left last. -/
structure Capture where
  number : Nat
  entered : Cursor
  left : Option Nat
  deriving DecidableEq, Repr

/-- The text a group has matched. A group that was entered behind the place where it was left last has
matched nothing. -/
def Capture.text? (capture : Capture) : Option (List Char) :=
  match capture.left with
  | some stop =>
    if capture.entered.position ≤ stop then
      some (capture.entered.rest.take (stop - capture.entered.position))
    else none
  | none => none

/-- What groups have matched, the latest first. -/
abbrev Captures := List Capture

namespace Captures

variable (captures : Captures) (number : Nat)

/-- The latest entry for a group. -/
def latest? : Option Capture :=
  captures.find? (·.number == number)

def text? : Option (List Char) :=
  (captures.latest? number).bind Capture.text?

def enter (cursor : Cursor) : Captures :=
  ⟨number, cursor, (captures.latest? number).bind (·.left)⟩ :: captures

def leave (cursor : Cursor) : Captures :=
  match captures.latest? number with
  | some capture => { capture with left := some cursor.position } :: captures
  | none => captures

end Captures

inductive Pattern where
  | empty
  /-- Matches one character of a class. -/
  | char (accepts : Char → Bool)
  /-- Matches any number of characters of a class, as many as possible first. -/
  | many (accepts : Char → Bool)
  /-- Matches any number of characters of a class, as few as possible first. -/
  | fewest (accepts : Char → Bool)
  /-- Matches the empty text at a place with a property. -/
  | place (holds : Cursor → Bool)
  | group (number : Nat) (body : Pattern)
  | seq (first second : Pattern)
  | either (first second : Pattern)
  /-- Matches `body` at least `least` and at most `most` times, as often as possible first, or with
  `sparing` as rarely as possible first. -/
  | times (least : Nat) (most : Option Nat) (sparing : Bool) (body : Pattern)
  /-- Matches `body` in the first possible way only. -/
  | firstWay (body : Pattern)
  /-- Matches the text of a group once more, up to `same`. -/
  | again (same : Char → Char → Bool) (number : Nat)
  /-- Matches the empty text where `body` matches when tried `back` characters before. -/
  | look (back : Nat) (body : Pattern)
  /-- Matches the empty text where `body` does not match when tried `back` characters before. -/
  | avoid (back : Nat) (body : Pattern)
  /-- Matches `yes` if a group has matched, and `no` if it has not. -/
  | ifGroup (number : Nat) (yes no : Pattern)

namespace Pattern

/-! ## Running a pattern -/

/-- Continues with the longest run of accepted characters that lets `next` succeed. -/
def runMany {β : Type} (accepts : Char → Bool) (next : Cursor → Option β) :
    List Char → Nat → List Char → Option β
  | before, n, [] => next ⟨before, [], n⟩
  | before, n, c :: rest =>
    if accepts c then
      match runMany accepts next (c :: before) (n + 1) rest with
      | some result => some result
      | none => next ⟨before, c :: rest, n⟩
    else next ⟨before, c :: rest, n⟩

/-- Continues with the shortest run of accepted characters that lets `next` succeed. -/
def runFewest {β : Type} (accepts : Char → Bool) (next : Cursor → Option β) :
    List Char → Nat → List Char → Option β
  | before, n, [] => next ⟨before, [], n⟩
  | before, n, c :: rest =>
    match next ⟨before, c :: rest, n⟩ with
    | some result => some result
    | none => if accepts c then runFewest accepts next (c :: before) (n + 1) rest else none

/-- Continues with a number of steps that lets `next` succeed: at least `least` and at most `most`. A
step that consumes nothing is not followed by another, unless `least` asks for it; so `fuel` need only
exceed `least` plus the length of the rest. -/
def runTimes {β γ : Type} (step : Cursor → γ → (Cursor → γ → Option β) → Option β) (sparing : Bool)
    (next : Cursor → γ → Option β) : Nat → Nat → Option Nat → Cursor → γ → Option β
  | 0, _, _, _, _ => none
  | fuel + 1, least + 1, most, cursor, state =>
    step cursor state fun stop state' =>
      runTimes step sparing next fuel least (most.map (· - 1)) stop state'
  | fuel + 1, 0, most, cursor, state =>
    let again : Unit → Option β := fun _ =>
      if most == some 0 then none
      else
        step cursor state fun stop state' =>
          if stop.position == cursor.position then none
          else runTimes step sparing next fuel 0 (most.map (· - 1)) stop state'
    if sparing then
      match next cursor state with
      | some result => some result
      | none => again ()
    else
      match again () with
      | some result => some result
      | none => next cursor state

/-- The place after a text that stands here, up to `same`. -/
def passOver (same : Char → Char → Bool) : List Char → Cursor → Option Cursor
  | [], cursor => some cursor
  | d :: text, ⟨before, c :: rest, position⟩ =>
    if same d c then passOver same text ⟨c :: before, rest, position + 1⟩ else none
  | _ :: _, ⟨_, [], _⟩ => none

/-- Runs a pattern from a cursor. `captures` tell what groups have matched so far, and `next` says how
to go on after the match; if `next` fails, the next way to match is tried. -/
def run : {β : Type} → Pattern → Cursor → Captures → (Cursor → Captures → Option β) → Option β
  | _, .empty, cursor, captures, next => next cursor captures
  | _, .char accepts, cursor, captures, next =>
    match cursor.rest with
    | [] => none
    | c :: rest =>
      if accepts c then next ⟨c :: cursor.before, rest, cursor.position + 1⟩ captures else none
  | _, .many accepts, cursor, captures, next =>
    runMany accepts (fun stop => next stop captures) cursor.before cursor.position cursor.rest
  | _, .fewest accepts, cursor, captures, next =>
    runFewest accepts (fun stop => next stop captures) cursor.before cursor.position cursor.rest
  | _, .place holds, cursor, captures, next => if holds cursor then next cursor captures else none
  | _, .group number body, cursor, captures, next =>
    body.run cursor (captures.enter number cursor) fun stop captures' =>
      next stop (captures'.leave number stop)
  | _, .seq first second, cursor, captures, next =>
    first.run cursor captures fun stop captures' => second.run stop captures' next
  | _, .either first second, cursor, captures, next =>
    match first.run cursor captures next with
    | some result => some result
    | none => second.run cursor captures next
  | _, .times least most sparing body, cursor, captures, next =>
    runTimes (fun start captures' next' => body.run start captures' next') sparing next
      (least + cursor.rest.length + 1) least most cursor captures
  | _, .firstWay body, cursor, captures, next =>
    match body.run cursor captures fun stop captures' => some (stop, captures') with
    | some (stop, captures') => next stop captures'
    | none => none
  | _, .again same number, cursor, captures, next =>
    match captures.text? number with
    | some text => (passOver same text cursor).bind fun stop => next stop captures
    | none => none
  | _, .look back body, cursor, captures, next =>
    match (cursor.back? back).bind fun start => body.run start captures fun _ found => some found with
    | some captures' => next cursor captures'
    | none => none
  | _, .avoid back body, cursor, captures, next =>
    match (cursor.back? back).bind fun start => body.run start captures fun _ _ => some () with
    | some () => none
    | none => next cursor captures
  | _, .ifGroup number yes no, cursor, captures, next =>
    if (captures.text? number).isSome then yes.run cursor captures next
    else no.run cursor captures next

structure Match where
  text : List Char
  captures : Captures
  deriving DecidableEq, Repr

/-- The text a group has matched, which is empty if it has matched nothing. -/
def Match.group (found : Match) (number : Nat) : List Char := (found.captures.text? number).getD []

variable (p : Pattern) (text : List Char)

def matchAt (cursor : Cursor) : Option Match :=
  p.run cursor [] fun stop captures =>
    some ⟨cursor.rest.take (stop.position - cursor.position), captures⟩

/-! ## Searching -/

def searchFrom (p : Pattern) : List Char → Nat → List Char → Option Match
  | before, n, [] => p.matchAt ⟨before, [], n⟩
  | before, n, c :: rest =>
    match p.matchAt ⟨before, c :: rest, n⟩ with
    | some found => some found
    | none => searchFrom p (c :: before) (n + 1) rest

def search : Option Match := p.searchFrom [] 0 text

def occursIn : Bool := (p.search text).isSome

/-- A piece of a text: a character outside all matches, or a match. -/
inductive Piece where
  | kept (c : Char)
  | hit (found : Match)
  deriving DecidableEq, Repr

/-- The pieces of the rest of a text, with `skip` characters of a match still to be passed over.
Matches are taken from left to right. After an empty match the next character is kept. -/
def piecesFrom (p : Pattern) : Nat → List Char → Nat → List Char → List Piece
  | _, before, n, [] =>
    match p.matchAt ⟨before, [], n⟩ with
    | some found => [.hit found]
    | none => []
  | skip + 1, before, n, c :: rest => piecesFrom p skip (c :: before) (n + 1) rest
  | 0, before, n, c :: rest =>
    match p.matchAt ⟨before, c :: rest, n⟩ with
    | some found =>
      if found.text.isEmpty then .hit found :: .kept c :: piecesFrom p 0 (c :: before) (n + 1) rest
      else .hit found :: piecesFrom p (found.text.length - 1) (c :: before) (n + 1) rest
    | none => .kept c :: piecesFrom p 0 (c :: before) (n + 1) rest

/-- A text cut into matches and the characters between them. -/
def pieces : List Piece := p.piecesFrom 0 [] 0 text

/-- The matches in a text, from left to right and without overlaps. -/
def findAll : List Match :=
  (p.pieces text).filterMap fun
    | .kept _ => none
    | .hit found => some found

def findGroups : List (List Char) :=
  (p.findAll text).map fun found => found.group 1

def replaceWith (replacement : Match → List Char) (text : List Char) : List Char :=
  (p.pieces text).flatMap fun
    | .kept c => [c]
    | .hit found => replacement found

/-! ## Building patterns -/

def boundary : Pattern := place Cursor.atBoundary

def all (parts : List Pattern) : Pattern := parts.foldr seq empty

/-- Matches one of the alternatives, tried in order; without alternatives, nothing. -/
def oneOf : List Pattern → Pattern
  | [] => char fun _ => false
  | [p] => p
  | p :: rest => either p (oneOf rest)

def optional : Pattern := either p empty

def many1 (accepts : Char → Bool) : Pattern := seq (char accepts) (many accepts)

def chars : Pattern := all (text.map fun c => char (· == c))

def literal (s : String) : Pattern := chars s.toList

def anyCase (s : String) : Pattern := all (s.toList.map fun c => char (Text.sameLetter c))

/-- Matches the given characters as a whole word. -/
def word (text : List Char) : Pattern := seq boundary (seq (chars text) boundary)

/-- Matches the given characters as the name of a call: from a word boundary, with optional white
space before an opening parenthesis. -/
def call (name : List Char) : Pattern :=
  all [boundary, chars name, many Text.isSpace, char (· == '(')]

def spaces : Pattern := many Text.isSpace

end Pattern

end StudioMigration
