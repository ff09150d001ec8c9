import StudioMigration.Journal.Segment

/-!
# Logs and how a window shows them

A log is the list of texts that were added to it. A window shows it in colours: `Log.runs` gives the
pieces of one colour each, and the text and the coloured spans of the window follow from them.
-/

namespace StudioMigration

/-- The colours of shown text. -/
inductive LogColour where
  | normal
  | red
  | orange
  | green
  | blue
  deriving DecidableEq, Repr

def LogColour.name : LogColour → String
  | .normal => "normal"
  | .red => "red"
  | .orange => "orange"
  | .green => "green"
  | .blue => "blue"

/-- The colour of a severity style, by the parameters of its control sequence. -/
def severityColour? (parameters : List Char) : Option LogColour :=
  if controlSequence parameters = Style.alert.toList then some .red
  else if controlSequence parameters = Style.caution.toList then some .orange
  else if controlSequence parameters = Style.info.toList then some .green
  else none

/-- The colour that a window changes to at a control sequence; it knows the severity styles, the link
style and the reset only. -/
def shownColour? (parameters : List Char) : Option LogColour :=
  match severityColour? parameters with
  | some colour => some colour
  | none =>
    if controlSequence parameters = Style.link.toList then some .blue
    else if controlSequence parameters = Style.reset.toList then some .normal
    else none

/-- Characters of one colour. -/
structure ColourRun where
  colour : LogColour
  text : List Char
  deriving DecidableEq, Repr

/-- The runs of segments that follow a change to `colour`. A control sequence that the window does not
know is shown as it stands. -/
def colourRuns : LogColour → List Segment → List ColourRun
  | _, [] => []
  | colour, .plain text :: rest => ⟨colour, text⟩ :: colourRuns colour rest
  | colour, .control parameters :: rest =>
    match shownColour? parameters with
    | some next => colourRuns next rest
    | none => ⟨colour, controlSequence parameters⟩ :: colourRuns colour rest

/-- The texts that were added to a log. -/
structure Log where
  entries : List String := []
  deriving DecidableEq, Repr

/-- A coloured part of the shown text, from `start` to before `stop`. -/
structure ColourSpan where
  colour : LogColour
  start : Nat
  stop : Nat
  deriving DecidableEq, Repr

def colourSpans : Nat → List ColourRun → List ColourSpan
  | _, [] => []
  | offset, run :: rest =>
    let stop := offset + run.text.length
    let later := colourSpans stop rest
    if run.colour = .normal then later else ⟨run.colour, offset, stop⟩ :: later

/-- The run at an offset, the first run starting at zero. -/
def runAt? : Nat → List ColourRun → Option ColourRun
  | _, [] => none
  | offset, run :: rest =>
    if offset < run.text.length then some run else runAt? (offset - run.text.length) rest

namespace Log

variable (log : Log)

def add (text : String) : Log := ⟨log.entries ++ [text]⟩

def rawText : List Char := log.entries.flatMap String.toList

/-- The runs that a window shows; every text starts in the normal colour. -/
def runs : List ColourRun :=
  log.entries.flatMap fun entry => colourRuns .normal (segments entry.toList)

def shownText : List Char := log.runs.flatMap ColourRun.text

def spans : List ColourSpan := colourSpans 0 log.runs

/-- The text of the coloured run at an offset of the shown text. -/
def colouredTextAt? (offset : Nat) : Option (List Char) :=
  match runAt? offset log.runs with
  | some run => if run.colour = .normal then none else some run.text
  | none => none

end Log

end StudioMigration
