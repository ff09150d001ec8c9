import StudioMigration.Journal.Link

/-!
# Notes

A note is what a check or a tool has to say: a text, a severity word, and the release in which
something has to be done. This module has its two forms, with colours for the terminal and without for
a file.
-/

namespace StudioMigration

/-- A note. Severity and release may be empty. -/
structure Note where
  text : String
  severity : String := ""
  release : String := ""
  deriving DecidableEq, Repr

inductive Stream where
  | out
  | err
  deriving DecidableEq, Repr

/-- What a severity word means, in whatever case it is written. -/
inductive Level where
  | error
  | mandatory
  | warning
  | info
  | other
  deriving DecidableEq, Repr

def Level.ofWord (word : String) : Level :=
  if Text.upperIs "MANDATORY" word then .mandatory
  else if Text.upperIs "ERROR" word then .error
  else if Text.upperIs "WARNING" word then .warning
  else if Text.upperIs "INFO" word then .info
  else .other

def Level.style? : Level → Option String
  | .error => some Style.alert
  | .mandatory => some Style.alert
  | .warning => some Style.caution
  | .info => some Style.info
  | .other => none

namespace Note

variable (note : Note)

def level : Level := Level.ofWord note.severity

def stream : Stream := if note.level == .error then .err else .out

/-- The text with its links marked and the release in front. -/
def body : String :=
  let marked := markLinksString note.text
  if note.release == "" then marked else s!"[{note.release}] {marked}"

/-- The severity in brackets, in the style of its level. -/
def badge : String :=
  match note.level.style? with
  | some style => style ++ s!"[{note.severity}]" ++ Style.reset
  | none => s!"[{note.severity}]"

def consoleText : String :=
  if note.severity == "" then note.body else note.badge ++ " " ++ note.body

/-- The note as a file keeps it: without the colour of the severity. -/
def fileText : String :=
  if note.severity == "" then note.body else s!"[{note.severity}] " ++ note.body

end Note

/-- The line that sets off the parts of a report. -/
def ruler : String := Text.repeated 80 "─"

def Note.heading (text : String) : Note := ⟨ruler ++ "\n" ++ text, "", ""⟩

end StudioMigration
