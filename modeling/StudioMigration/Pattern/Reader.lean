import StudioMigration.Pattern.Group
import StudioMigration.Text.CharName

/-!
# Written patterns

Reads a pattern from a text. A dot stands for any character of a line, square brackets for a set of
characters, a backslash for a class of characters, a place, a group or a character by its code or name, a
bar separates alternatives, parentheses group, and a star, a plus sign, a question mark or a number in
braces repeats what precedes it; a caret and a dollar sign stand for the ends of the text, and everything
else stands for itself.

The text is read token by token. `Written.Reading` is what has been read so far, and `Written.step`
takes one token.
-/

namespace StudioMigration

/-- Why a written pattern cannot be used. -/
inductive PatternFlaw where
  | written (flaw : WrittenFlaw)
  | back (flaw : BackFlaw)
  | tooOften
  | numeral (flaw : Text.NumeralFlaw)
  deriving DecidableEq, Repr

def PatternFlaw.describe : PatternFlaw → String
  | .written flaw => flaw.describe
  | .back flaw => flaw.describe
  | .tooOften => "the repetition number is too large"
  | .numeral flaw => flaw.describe

namespace Written

open Escape

/-! ## What has been read -/

/-- What a pair of parentheses is for. -/
inductive LevelKind where
  /-- There are none: this is the whole pattern. -/
  | whole
  | group (number : Nat)
  | part (change : FlagChange)
  | firstWay
  | look (back wanted : Bool)
  | condition (number : Nat)
  deriving DecidableEq, Repr

/-- What has been read within one pair of parentheses: finished alternatives, the items of the current
one, the last item first, the place of the opening parenthesis, whether blanks and comments are passed
over, and, within what looks back, the first group that cannot be referred to. -/
structure Level where
  kind : LevelKind
  alternatives : List Expression
  items : List Expression
  opened : Nat
  spaced : Bool
  barrier : Option Nat

def Level.current (level : Level) : Expression := .all level.items.reverse

def Level.choices (level : Level) : List Expression := level.alternatives ++ [level.current]

/-- What a closed pair of parentheses says. -/
def Level.expression (level : Level) : Expression :=
  let body := Expression.oneOf level.choices
  match level.kind with
  | .whole => body
  | .group number => .group number body
  | .part change => .part change body
  | .firstWay => .firstWay body
  | .look back wanted => .look back wanted body
  | .condition number =>
    .ifGroup number (level.choices.head?.getD .empty) ((level.choices.drop 1).head?.getD .empty)

def Level.add (level : Level) (item : Expression) : Level := { level with items := item :: level.items }

/-- A set that is being read: the place of its opening bracket, whether it is the complement that is
meant, what belongs to it, the last member as long as a range may start with it, with the token it
started with, and whether a hyphen followed that member. -/
structure OpenSet where
  opened : Nat
  outside : Bool
  members : List SetMember
  last : Option (SetMember × List Char)
  ranging : Bool

/-- What belongs to the set, with its last member. -/
def OpenSet.allMembers (set : OpenSet) : List SetMember :=
  match set.last with
  | some (member, _) => member :: set.members
  | none => set.members

/-- What has been read: the current level, the levels around it, how many groups were opened, their names,
the widths of those that are closed, the groups that conditions ask for, with the places where they do,
the settings for the whole pattern, and the set that is being read, if there is one. -/
structure Reading where
  level : Level
  outer : List Level
  groups : Nat
  names : List (List Char × Nat)
  widths : List (Nat × Width)
  conditions : List (Nat × Nat)
  settings : List Flag
  set : Option OpenSet

def Reading.start : Reading := ⟨⟨.whole, [], [], 0, false, none⟩, [], 0, [], [], [], [], none⟩

def Reading.add (reading : Reading) (item : Expression) : Reading :=
  { reading with level := reading.level.add item }

def Reading.closedWidth? (reading : Reading) (number : Nat) : Option Width := reading.widths.lookup number

/-- What is wrong with a reference to a group within what looks back, if anything. -/
def Reading.barred? (reading : Reading) (number : Nat) : Option String :=
  match reading.level.barrier with
  | some first =>
    if (reading.closedWidth? number).isNone then some "cannot refer to an open group"
    else if first ≤ number then
      some "cannot refer to group defined in the same lookbehind subpattern"
    else none
  | none => none

/-! ## Escapes -/

/-- The class of characters that a letter after a backslash stands for. -/
def kind? (c : Char) : Option SetMember :=
  match c with
  | 'd' => some (.kind .digit false)
  | 'D' => some (.kind .digit true)
  | 's' => some (.kind .space false)
  | 'S' => some (.kind .space true)
  | 'w' => some (.kind .word false)
  | 'W' => some (.kind .word true)
  | _ => none

/-- The place that a letter after a backslash stands for. -/
def place? (c : Char) : Option Place :=
  match c with
  | 'A' => some .textStart
  | 'b' => some .boundary
  | 'B' => some .offBoundary
  | 'Z' => some .textEnd
  | _ => none

variable (text : List Char)

/-- The code of the character whose name follows in braces, and how many tokens the braces take. -/
def namedCode (position : Nat) (rest : List (List Char)) : Except WrittenFlaw (Nat × Nat) :=
  match rest with
  | ['\x7b'] :: after => do
    let (name, length) ← nameBefore text '\x7d' "character name" (position + 3) after
    match Text.CharName.code? name with
    | some code => return (code, 1 + length)
    | none =>
      throw ⟨"undefined character name " ++ String.ofList (Text.quoted name), text, position⟩
  | _ => .error ⟨"missing \x7b", text, position + 2⟩

/-- The character that the escape with `c` stands for, when it is neither a class nor a place nor starts
with a digit: its code, and how many further tokens belong to it. -/
def escapedCode (position : Nat) (c : Char) (rest : List (List Char)) : Except WrittenFlaw (Nat × Nat) :=
  match control? c, hexWidth? c with
  | some control, _ => .ok (control.toNat, 0)
  | none, some width =>
    let digits := leading (fun d => (Text.hexValue? d).isSome) width rest
    let code := (Text.hexCode? digits).getD 0
    if digits.length < width then
      .error ⟨"incomplete escape " ++ String.ofList ('\\' :: c :: digits), text, position⟩
    else if 0x10FFFF < code then
      .error ⟨"bad escape " ++ String.ofList ('\\' :: c :: digits), text, position⟩
    else .ok (code, width)
  | none, none =>
    if c == 'N' then namedCode text position rest
    else if Text.isAsciiLetter c then
      .error ⟨"bad escape " ++ String.ofList ['\\', c], text, position⟩
    else .ok (c.toNat, 0)

def octalEscape (position : Nat) (digits : List Char) : Except WrittenFlaw Nat :=
  let code := octalCode digits
  if 255 < code then .error ⟨octalReason digits, text, position⟩ else .ok code

/-- The member of a set that starts with a token, and how many further tokens belong to it. Within a set
a digit after a backslash starts an octal code. -/
def readMember (position : Nat) (token : List Char) (rest : List (List Char)) :
    Except WrittenFlaw (SetMember × Nat) :=
  match token with
  | ['\\', c] =>
    match kind? c with
    | some member => .ok (member, 0)
    | none =>
      if isOctal c then do
        let digits := leadingOctal 2 rest
        let code ← octalEscape text position (c :: digits)
        return (.code code, digits.length)
      else if Text.isAsciiDigit c then
        .error ⟨"bad escape " ++ String.ofList token, text, position⟩
      else do
        let (code, further) ← escapedCode text position c rest
        return (.code code, further)
  | [c] => .ok (.code c.toNat, 0)
  | _ => .ok (.code 0, 0)

variable (reading : Reading) (position : Nat) (token : List Char) (rest : List (List Char))

/-- The item that the escape with the digit `c` stands for, and how many further tokens belong to it:
a character by its octal code, or a group. -/
def readDigitEscape (c : Char) (rest : List (List Char)) : Except WrittenFlaw (Expression × Nat) :=
  let digits := leadingOctal 2 rest
  if c == '0' then .ok (.code (octalCode digits), digits.length)
  else if isOctal c && digits.length == 2 then do
    let code ← octalEscape text position (c :: digits)
    return (.code code, 2)
  else
    let number := groupNumber c rest
    let further := digitTokens c rest
    if reading.groups < number then
      .error ⟨s!"invalid group reference {number}", text, position + 1⟩
    else
      match reading.closedWidth? number, reading.barred? number with
      | none, _ => .error ⟨"cannot refer to an open group", text, position⟩
      | some _, some reason => .error ⟨reason, text, position + 2 + further⟩
      | some width, none => .ok (.again number width, further)

/-- The item that the escape with `c` stands for, and how many further tokens belong to it. -/
def readEscape (c : Char) (rest : List (List Char)) : Except WrittenFlaw (Expression × Nat) :=
  match place? c, kind? c with
  | some place, _ => .ok (.place place, 0)
  | none, some member => .ok (.set false [member], 0)
  | none, none =>
    if Text.isAsciiDigit c then readDigitEscape text reading position c rest
    else do
      let (code, further) ← escapedCode text position c rest
      return (.code code, further)

/-! ## Repetitions -/

/-- How often something is to be repeated, as it is written: the digits of the least and of the greatest
number. Without digits there is no bound on that side. -/
structure Bounds where
  low : List Char
  high : List Char

/-- The bounds between braces, and how many tokens they take, the closing brace included. Braces with
anything but numbers between them, or with nothing, are no repetition. -/
def braces? : Option (Bounds × Nat) :=
  let low := leading Text.isAsciiDigit rest.length rest
  match rest.drop low.length with
  | [','] :: after =>
    let high := leading Text.isAsciiDigit after.length after
    match after.drop high.length with
    | ['\x7d'] :: _ => some (⟨low, high⟩, low.length + high.length + 2)
    | _ => none
  | ['\x7d'] :: _ => if low.isEmpty then none else some (⟨low, low⟩, low.length + 1)
  | _ => none

/-- The bounds that a token asks for, and how many further tokens they take. -/
def bounds? : Option (Bounds × Nat) :=
  match token with
  | ['*'] => some (⟨[], []⟩, 0)
  | ['+'] => some (⟨['1'], []⟩, 0)
  | ['?'] => some (⟨[], ['1']⟩, 0)
  | ['\x7b'] => braces? rest
  | _ => none

/-- The least number that nothing can be repeated with. -/
def maxTimes : Nat := 4294967295

def readTimes (digits : List Char) : Except PatternFlaw (Option Nat) :=
  if digits.isEmpty then .ok none
  else
    match Text.readNat digits with
    | .error flaw => .error (.numeral flaw)
    | .ok n => if maxTimes ≤ n then .error .tooOften else .ok (some n)

/-- Repeats the last item. A question mark after the bounds asks for as few repetitions as possible, a
plus sign for as many as possible and no other number. -/
def repeatLast (level : Level) (position : Nat) (bounds : Bounds)
    (after : List (List Char)) : Except PatternFlaw (Level × Nat) := do
  let least := (← readTimes bounds.low).getD 0
  let most ← readTimes bounds.high
  if most.any fun n => n < least then
    throw (.written ⟨"min repeat greater than max repeat", text, position + 1⟩)
  let manner : Manner :=
    match after.head? with
    | some ['?'] => .sparing
    | some ['+'] => .settled
    | _ => .greedy
  let further := if manner == .greedy then 0 else 1
  match level.items with
  | [] => throw (.written ⟨"nothing to repeat", text, position⟩)
  | .place _ :: _ => throw (.written ⟨"nothing to repeat", text, position⟩)
  | .times _ _ _ _ :: _ => throw (.written ⟨"multiple repeat", text, position⟩)
  | item :: rest => return ({ level with items := .times least most manner item :: rest }, further)

/-! ## Parentheses -/

/-- Opens a level. Within what looks back no group can be referred to that is opened there. -/
def openLevel (kind : LevelKind) : Reading :=
  let level := reading.level
  let spaced :=
    match kind with
    | .part change => (level.spaced || change.on.contains .spaced) && !change.off.contains .spaced
    | _ => level.spaced
  let barrier :=
    match kind with
    | .look true _ => some (level.barrier.getD (reading.groups + 1))
    | _ => level.barrier
  { reading with level := ⟨kind, [], [], position, spaced, barrier⟩, outer := level :: reading.outer }

/-- Opens a group with a number, and perhaps a name that no other group has. -/
def openGroup (name : Option (List Char × Nat)) : Except WrittenFlaw Reading :=
  let number := reading.groups + 1
  let named (names : List (List Char × Nat)) : Reading :=
    { openLevel reading position (.group number) with groups := number, names := names }
  match name with
  | none => .ok (named reading.names)
  | some (name, place) =>
    match reading.names.lookup name with
    | some other =>
      .error ⟨"redefinition of group name " ++ String.ofList (Text.quoted name) ++
        s!" as group {number}; was group {other}", text, place⟩
    | none => .ok (named ((name, number) :: reading.names))

def groupNamed (name : List Char) (place : Nat) : Except WrittenFlaw Nat :=
  match reading.names.lookup name with
  | some number => .ok number
  | none => .error ⟨"unknown group name " ++ String.ofList (Text.quoted name), text, place⟩

/-- Opens a condition on a group, `place` being the one after the call of the group. -/
def openCondition (position number place : Nat) : Except WrittenFlaw Reading :=
  match reading.barred? number with
  | some reason => .error ⟨reason, text, place⟩
  | none => .ok (openLevel reading position (.condition number))

/-- Takes an opening parenthesis and the signs after it, `behind` being the place after them. -/
def openStep (position behind : Nat) :
    Opening → Except WrittenFlaw Reading
  | .group name => openGroup text reading position name
  | .part change => .ok (openLevel reading position (.part change))
  | .firstWay => .ok (openLevel reading position .firstWay)
  | .look back wanted => .ok (openLevel reading position (.look back wanted))
  | .ifNamed name place => do
    let number ← groupNamed text reading name place
    openCondition text reading position number behind
  | .ifNumbered number place =>
    let known := reading.conditions.any fun (other, _) => other == number
    let conditions := if known then reading.conditions else reading.conditions ++ [(number, place)]
    openCondition text { reading with conditions := conditions } position number behind
  | .again name place => do
    let number ← groupNamed text reading name place
    match reading.closedWidth? number, reading.barred? number with
    | none, _ => throw ⟨"cannot refer to an open group", text, place⟩
    | some _, some reason => throw ⟨reason, text, behind⟩
    | some width, none => return reading.add (.again number width)
  | .settings on =>
    let level := reading.level
    if level.kind == .whole && level.alternatives.isEmpty && level.items.isEmpty then
      let settings := reading.settings ++ on
      .ok { reading with
        settings := settings, level := { level with spaced := settings.contains .spaced } }
    else .error ⟨"global flags not at the start of the expression", text, position⟩
  | .comment => .ok reading

def closeStep : Except WrittenFlaw Reading :=
  match reading.outer with
  | [] => .error ⟨"unbalanced parenthesis", text, position⟩
  | enclosing :: others =>
    let expression := reading.level.expression
    let widths :=
      match reading.level.kind with
      | .group number => (number, expression.width) :: reading.widths
      | _ => reading.widths
    .ok { reading with level := enclosing.add expression, outer := others, widths := widths }

/-- Starts the next alternative. A condition has two at most. -/
def nextAlternative (text : List Char) (reading : Reading) (position : Nat) : Except WrittenFlaw Reading :=
  let level := reading.level
  match level.kind, level.alternatives with
  | .condition _, _ :: _ =>
    .error ⟨"conditional backref with more than two branches", text, position⟩
  | _, _ => .ok { reading with level := { level with alternatives := level.choices, items := [] } }

/-! ## Steps -/

/-- Whether a token is passed over where blanks may be written between the parts. -/
def isBlank : Bool :=
  match token with
  | [c] => c == ' ' || (9 ≤ c.toNat && c.toNat ≤ 13)
  | _ => false

/-- Takes a token outside of sets. The number is that of the tokens after it that are taken, too. -/
def plainStep
    : Except PatternFlaw (Reading × Nat) :=
  let only (result : Except WrittenFlaw Reading) : Except PatternFlaw (Reading × Nat) :=
    match result with
    | .ok reading' => .ok (reading', 0)
    | .error flaw => .error (.written flaw)
  if reading.level.spaced && isBlank token then .ok (reading, 0)
  else if reading.level.spaced && token == ['#'] then
    .ok (reading, (rest.takeWhile (· != ['\n'])).length)
  else
    match bounds? token rest with
    | some (bounds, further) => do
      let (level, more) ← repeatLast text reading.level position bounds (rest.drop further)
      return ({ reading with level := level }, further + more)
    | none =>
      match token with
      | ['\\', c] =>
        match readEscape text reading position c rest with
        | .ok (item, further) => .ok (reading.add item, further)
        | .error flaw => .error (.written flaw)
      | ['.'] => .ok (reading.add .dot, 0)
      | ['^'] => .ok (reading.add (.place .lineStart), 0)
      | ['$'] => .ok (reading.add (.place .lineEnd), 0)
      | ['['] =>
        let outside := rest.head? == some ['^']
        .ok ({ reading with set := some ⟨position, outside, [], none, false⟩ },
          if outside then 1 else 0)
      | ['|'] => only (nextAlternative text reading position)
      | ['('] =>
        match Opening.read text position rest with
        | .error flaw => .error (.written flaw)
        | .ok (opening, further) =>
          let behind := position + 1 + (rest.take further).flatten.length
          match openStep text reading position behind opening with
          | .ok reading' => .ok (reading', further)
          | .error flaw => .error (.written flaw)
      | [')'] => only (closeStep text reading position)
      | [c] => .ok (reading.add (.code c.toNat), 0)
      | _ => .ok (reading, 0)

def closeSet (set : OpenSet) : Reading :=
  { reading.add (.set set.outside set.allMembers) with set := none }

/-- Takes a token within a set. A closing bracket at the very start is a member, and so is a hyphen that
is no sign of a range. -/
def setStep (set : OpenSet) (position : Nat) (token : List Char)
    (rest : List (List Char)) : Except WrittenFlaw (Reading × Nat) :=
  if token == [']'] && !set.allMembers.isEmpty then
    let members := if set.ranging then .code '-'.toNat :: set.members else set.members
    .ok (closeSet reading { set with members := members }, 0)
  else
    match set.last, set.ranging with
    | some (low, spelt), true => do
      let (high, further) ← readMember text position token rest
      let behind := position + token.length + (rest.take further).flatten.length
      let bad : WrittenFlaw :=
        ⟨"bad character range " ++ String.ofList spelt ++ "-" ++ String.ofList token, text,
          behind - (spelt.length + 1 + token.length)⟩
      match low, high with
      | .code a, .code b =>
        if b < a then .error bad
        else
          .ok ({ reading with
            set := some { set with members := .range a b :: set.members, last := none, ranging := false } },
            further)
      | _, _ => .error bad
    | last, _ =>
      if last.isSome && token == ['-'] then
        .ok ({ reading with set := some { set with ranging := true } }, 0)
      else do
        let (member, further) ← readMember text position token rest
        return ({ reading with
          set := some { set with members := set.allMembers, last := some (member, token) } }, further)

def step
    : Except PatternFlaw (Reading × Nat) :=
  match reading.set with
  | some set =>
    match setStep text reading set position token rest with
    | .ok result => .ok result
    | .error flaw => .error (.written flaw)
  | none => plainStep text reading position token rest

def Reading.finish : Except WrittenFlaw Expression :=
  match reading.set, reading.outer with
  | some set, _ => .error ⟨"unterminated character set", text, set.opened⟩
  | none, _ :: _ => .error ⟨"missing ), unterminated subpattern", text, reading.level.opened⟩
  | none, [] =>
    match reading.conditions.find? fun (number, _) => reading.groups < number with
    | some (number, place) => .error ⟨s!"invalid group reference {number}", text, place⟩
    | none => .ok reading.level.expression

/-- Reads the tokens from `position` on, with `skip` tokens that are taken already to be passed over. A
backslash at the very end is found when the token before it is taken. -/
def readFrom (text : List Char) :
    Nat → Reading → Nat → List (List Char) → Except PatternFlaw (Settings × Expression)
  | _, reading, _, [] =>
    match reading.finish text with
    | .ok expression => .ok (Settings.plain.change ⟨reading.settings, []⟩, expression)
    | .error flaw => .error (.written flaw)
  | skip, reading, position, token :: rest =>
    match loneBackslash? text rest, skip with
    | some flaw, _ => .error (.written flaw)
    | none, skip + 1 => readFrom text skip reading (position + token.length) rest
    | none, 0 =>
      match step text reading position token rest with
      | .ok (reading', skip) => readFrom text skip reading' (position + token.length) rest
      | .error flaw => .error flaw

end Written

def Pattern.read (text : List Char) : Except PatternFlaw Pattern :=
  match Escape.loneBackslash? text (Escape.tokens text) with
  | some flaw => .error (.written flaw)
  | none => do
    let (settings, expression) ← Written.readFrom text 0 Written.Reading.start 0 (Escape.tokens text)
    match expression.pattern settings with
    | .ok pattern => return pattern
    | .error flaw => throw (.back flaw)

end StudioMigration
