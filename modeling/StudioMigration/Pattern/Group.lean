import StudioMigration.Pattern.Expression
import StudioMigration.Text.NameTable

/-!
# What an opening parenthesis starts

An opening parenthesis starts a group with a number, unless a question mark follows. Then the signs after
it tell what is meant: a group with a name, a group without a number, settings, a look ahead or back, a
condition, a reference to a group by its name, or a comment. `Opening.read` reads those signs.
-/

namespace StudioMigration

/-- What an opening parenthesis starts. -/
inductive Opening where
  /-- A group with a number, and perhaps a name, whose place is given. -/
  | group (name : Option (List Char × Nat))
  | part (change : FlagChange)
  | firstWay
  | look (back wanted : Bool)
  /-- A condition on the group with a name. -/
  | ifNamed (name : List Char) (position : Nat)
  /-- A condition on the group with a number. -/
  | ifNumbered (number : Nat) (position : Nat)
  | again (name : List Char) (position : Nat)
  | settings (on : List Flag)
  | comment
  deriving Repr

/-- Whether what is started goes on to a closing parenthesis that is still to come. -/
def Opening.isOpen : Opening → Bool
  | .again _ _ => false
  | .settings _ => false
  | .comment => false
  | _ => true

namespace Opening

open Escape

/-! ## Settings -/

def flag? (token : List Char) : Option Flag :=
  match token with
  | ['i'] => some .ignoreCase
  | ['L'] => some .regional
  | ['m'] => some .multiline
  | ['s'] => some .dotAll
  | ['x'] => some .spaced
  | ['a'] => some .ascii
  | ['t'] => some .rigid
  | ['u'] => some .allScripts
  | _ => none

/-- What is wrong with a token that is no setting: a letter is an unknown setting, and anything else
stands where something is missing. -/
def flagReason (missing : String) (token : List Char) : String :=
  if !token.isEmpty && token.all Text.isLetter then "unknown flag" else "missing " ++ missing

/-- Reads settings that are turned on, and the token behind them, with its place and what follows.
`position` is the place of the first token. -/
def readOn (text : List Char) :
    List Flag → Nat → List (List Char) → Except WrittenFlaw (List Flag × List Char × Nat × List (List Char))
  | _, position, [] => .error ⟨"missing -, : or )", text, position⟩
  | on, position, token :: rest =>
    match flag? token with
    | some flag =>
      let on' := on ++ [flag]
      if flag == .regional then
        .error ⟨"bad inline flags: cannot use 'L' flag with a str pattern", text, position + 1⟩
      else if flag.isScope && on'.any fun other => other.isScope && other != flag then
        .error ⟨"bad inline flags: flags 'a', 'u' and 'L' are incompatible", text, position + 1⟩
      else readOn text on' (position + 1) rest
    | none =>
      if token == [')'] || token == ['-'] || token == [':'] then .ok (on, token, position, rest)
      else .error ⟨flagReason "-, : or )" token, text, position⟩

/-- Reads settings that are turned off, up to the colon behind them, whose place is given back. -/
def readOff (text : List Char) (missing : String) :
    List Flag → Nat → List (List Char) → Except WrittenFlaw (List Flag × Nat)
  | _, position, [] => .error ⟨"missing " ++ missing, text, position⟩
  | off, position, token :: rest =>
    match flag? token with
    | some flag =>
      if flag.isScope then
        .error ⟨"bad inline flags: cannot turn off flags 'a', 'u' and 'L'", text, position + 1⟩
      else readOff text ":" (off ++ [flag]) (position + 1) rest
    | none =>
      if token == [':'] && !off.isEmpty then .ok (off, position)
      else .error ⟨flagReason missing token, text, position⟩

/-- Reads settings, and how many tokens they take. `position` is the place of the first token. -/
def readFlags (text : List Char) (position : Nat) (rest : List (List Char)) :
    Except WrittenFlaw (Opening × Nat) := do
  let (on, stop, place, after) ←
    if rest.head? == some ['-'] then pure ([], ['-'], position, rest.drop 1)
    else readOn text [] position rest
  if stop == [')'] then return (.settings on, place + 1 - position)
  if on.contains .rigid then throw ⟨"bad inline flags: cannot turn on global flag", text, place⟩
  if stop == [':'] then return (.part ⟨on, []⟩, place + 1 - position)
  let (off, colon) ← readOff text "flag" [] (place + 1) after
  if off.contains .rigid then throw ⟨"bad inline flags: cannot turn off global flag", text, colon⟩
  if on.any off.contains then throw ⟨"bad inline flags: flag turned on and off", text, colon⟩
  return (.part ⟨on, off⟩, colon + 1 - position)

/-! ## Names -/

/-- The greatest number that a group can have. -/
def maxGroups : Nat := 1073741823

def checkName (text name : List Char) (position : Nat) : Except WrittenFlaw Unit :=
  if Text.isName name then .ok ()
  else .error ⟨"bad character in group name " ++ String.ofList (Text.quoted name), text, position⟩

def condition (text name : List Char) (position : Nat) : Except WrittenFlaw Opening :=
  if Text.isName name then .ok (.ifNamed name position)
  else
    match Text.readInt name with
    | .ok (.ofNat 0) => .error ⟨"bad group number", text, position⟩
    | .ok (.ofNat n) =>
      if maxGroups ≤ n then .error ⟨s!"invalid group reference {n}", text, position⟩
      else .ok (.ifNumbered n position)
    | _ => .error ⟨"bad character in group name " ++ String.ofList (Text.quoted name), text, position⟩

/-! ## All signs -/

/-- Reads what follows an opening parenthesis, and how many tokens it takes. `position` is the place of
the parenthesis. -/
def read (text : List Char) (position : Nat) (rest : List (List Char)) : Except WrittenFlaw (Opening × Nat) :=
  match rest with
  | ['?'] :: sign :: after =>
    match sign, after with
    | [':'], _ => .ok (.part ⟨[], []⟩, 2)
    | ['>'], _ => .ok (.firstWay, 2)
    | ['='], _ => .ok (.look false true, 2)
    | ['!'], _ => .ok (.look false false, 2)
    | ['<'], ['='] :: _ => .ok (.look true true, 3)
    | ['<'], ['!'] :: _ => .ok (.look true false, 3)
    | ['<'], [] => .error ⟨"unexpected end of pattern", text, position + 3⟩
    | ['<'], other :: _ => .error ⟨"unknown extension ?<" ++ String.ofList other, text, position + 1⟩
    | ['P'], ['<'] :: named => do
      let (name, length) ← nameBefore text '>' "group name" (position + 4) named
      checkName text name (position + 4)
      return (.group (some (name, position + 4)), 3 + length)
    | ['P'], ['='] :: named => do
      let (name, length) ← nameBefore text ')' "group name" (position + 4) named
      checkName text name (position + 4)
      return (.again name (position + 4), 3 + length)
    | ['P'], [] => .error ⟨"unexpected end of pattern", text, position + 3⟩
    | ['P'], other :: _ => .error ⟨"unknown extension ?P" ++ String.ofList other, text, position + 1⟩
    | ['#'], words =>
      match words.findIdx? (· == [')']) with
      | some length => .ok (.comment, 3 + length)
      | none => .error ⟨"missing ), unterminated comment", text, position⟩
    | ['('], named => do
      let (name, length) ← nameBefore text ')' "group name" (position + 3) named
      let opening ← condition text name (position + 3)
      return (opening, 2 + length)
    | other, _ =>
      if (flag? other).isSome || other == ['-'] then do
        let (opening, length) ← readFlags text (position + 2) (sign :: after)
        return (opening, 1 + length)
      else .error ⟨"unknown extension ?" ++ String.ofList other, text, position + 1⟩
  | [['?']] => .error ⟨"unexpected end of pattern", text, position + 2⟩
  | _ => .ok (.group none, 0)

end Opening

end StudioMigration
