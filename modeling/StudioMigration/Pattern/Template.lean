import StudioMigration.Pattern.Basic
import StudioMigration.Pattern.Escape
import StudioMigration.Text.NameTable

/-!
# Replacement templates

The text that replaces a match is a template: a backslash starts an escape for a control character,
for a character by its octal code, or for the whole match. The patterns that templates are used with
have no numbered groups, so that a reference to any group but the whole match is a flaw. A template is
read before anything is matched.
-/

namespace StudioMigration

/-- A part of a template. -/
inductive TemplatePart where
  | char (c : Char)
  | whole
  deriving DecidableEq, Repr

/-- Why a template cannot be read. -/
inductive TemplateFlaw where
  | written (flaw : WrittenFlaw)
  /-- A group is called by a name that no group has. -/
  | unknownGroup (name : String)
  deriving DecidableEq, Repr

def TemplateFlaw.describe : TemplateFlaw → String
  | .written flaw => flaw.describe
  | .unknownGroup name => "unknown group name " ++ Text.quotedString name

namespace Template

open Escape

def octalChar (digits : List Char) : Char := Char.ofNat (octalCode digits)

/-- What the reader of a template is in the middle of. -/
inductive Mode where
  | plain
  /-- A group reference whose opening bracket must follow. -/
  | groupOpen
  /-- The name of a group reference, as far as it is read. -/
  | groupName (name : List Char)
  deriving Repr

/-- The part that a group reference stands for, `position` being the place after it. -/
def groupPart (template name : List Char) (position : Nat) : Except TemplateFlaw TemplatePart :=
  if Text.isName name then .error (.unknownGroup (String.ofList name))
  else
    match Text.readInt name with
    | .ok 0 => .ok .whole
    | .ok n =>
      if n < 0 then
        .error (.written ⟨badName, template, place⟩)
      else .error (.written ⟨s!"invalid group reference {n}", template, place⟩)
    | .error _ => .error (.written ⟨badName, template, place⟩)
where
  badName : String := "bad character in group name " ++ String.ofList (Text.quoted name)
  place : Nat := position - (name.length + 1)

/-- Whether a token cannot follow: the opening bracket of a group reference is missing. -/
def Mode.refuses (mode : Mode) (token : List Char) : Bool :=
  match mode with
  | .groupOpen => token != ['<']
  | _ => false

/-- Reads the tokens from `position` on, with `skip` tokens that are read already to be passed over. A
backslash at the very end is found when the token before it is taken. -/
def readFrom (template : List Char) :
    Nat → Mode → Nat → List (List Char) → Except TemplateFlaw (List TemplatePart)
  | _, .plain, _, [] => .ok []
  | _, .groupOpen, position, [] => .error (.written ⟨"missing <", template, position⟩)
  | _, .groupName [], position, [] => .error (.written ⟨"missing group name", template, position⟩)
  | _, .groupName name, position, [] =>
    .error (.written ⟨"missing >, unterminated name", template, position - name.length⟩)
  | skip + 1, mode, position, _ :: rest => readFrom template skip mode position rest
  | 0, mode, position, token :: rest =>
    let position' := position + token.length
    if mode.refuses token then .error (.written ⟨"missing <", template, position⟩)
    else match loneBackslash? template rest <|> loneBackslash? template (token :: rest) with
    | some flaw => .error (.written flaw)
    | none =>
      match mode with
      | .groupOpen => readFrom template 0 (.groupName []) position' rest
      | .groupName name =>
        if token == ['>'] then
          if name.isEmpty then .error (.written ⟨"missing group name", template, position' - 1⟩)
          else do
            let part ← groupPart template name position'
            let parts ← readFrom template 0 .plain position' rest
            return part :: parts
        else readFrom template 0 (.groupName (name ++ token)) position' rest
      | .plain =>
        match token with
        | ['\\', 'g'] => readFrom template 0 .groupOpen position' rest
        | ['\\', '0'] => do
          let digits := leadingOctal 2 rest
          let parts ← readFrom template digits.length .plain (position' + digits.length) rest
          return .char (octalChar digits) :: parts
        | ['\\', c] =>
          if Text.isAsciiDigit c then
            let digits := leadingOctal 2 rest
            match loneBackslash? template (rest.drop (digitTokens c rest)) with
            | some flaw => .error (.written flaw)
            | none =>
              if isOctal c && digits.length == 2 then
                if 255 < octalCode (c :: digits) then
                  .error (.written ⟨octalReason (c :: digits), template, position⟩)
                else do
                  let parts ← readFrom template 2 .plain (position' + 2) rest
                  return .char (octalChar (c :: digits)) :: parts
              else
                .error (.written
                  ⟨s!"invalid group reference {groupNumber c rest}", template, position + 1⟩)
          else
            match control? c with
            | some control => do
              let parts ← readFrom template 0 .plain position' rest
              return .char control :: parts
            | none =>
              if Text.isAsciiLetter c then
                .error (.written ⟨"bad escape " ++ String.ofList token, template, position⟩)
              else do
                let parts ← readFrom template 0 .plain position' rest
                return .char '\\' :: .char c :: parts
        | _ => do
          let parts ← readFrom template 0 .plain position' rest
          return token.map TemplatePart.char ++ parts

def read (template : List Char) : Except TemplateFlaw (List TemplatePart) :=
  match loneBackslash? template (tokens template) with
  | some flaw => .error (.written flaw)
  | none => readFrom template 0 .plain 0 (tokens template)

/-- The text that a template stands for at a match. -/
def expand (parts : List TemplatePart) (found : Pattern.Match) : List Char :=
  parts.flatMap fun
    | .char c => [c]
    | .whole => found.text

end Template

/-- Replaces every match by what the template stands for, and counts the matches. -/
def Pattern.substitute (p : Pattern) (template : List Char) (text : List Char) :
    Except TemplateFlaw (List Char × Nat) := do
  let parts ← Template.read template
  return (p.replaceWith (Template.expand parts) text, (p.findAll text).length)

end StudioMigration
