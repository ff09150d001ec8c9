import StudioMigration.Journal.Link
import StudioMigration.Journal.Log

/-!
# The body of a report

A report shows a log as a document. Its body is a list of pieces: plain text, coloured text and links.
The reader here knows more of control sequences than a window does. A link is text that is underlined
and blue, however that came about; it ends with its line, and its ends are trimmed.

Text in it is written by `escapeMarkup`, so that it cannot open or close anything; `withoutTags` takes the tags
out of a document again.
-/

namespace StudioMigration

/-- A character as text of a document or of an attribute in either kind of quotes. -/
def markupChar (c : Char) : List Char :=
  if c == '&' then "&amp;".toList
  else if c == '<' then "&lt;".toList
  else if c == '>' then "&gt;".toList
  else if c == '"' then "&quot;".toList
  else if c == Text.apostrophe then "&#x27;".toList
  else [c]

def escapeMarkup (text : List Char) : List Char := text.flatMap markupChar

def escapeString (s : String) : String := String.ofList (escapeMarkup s.toList)

/-- Taking tags out with `skip` characters of a tag still to be passed over. -/
def withoutTagsFrom : Nat → List Char → List Char
  | _, [] => []
  | skip + 1, _ :: rest => withoutTagsFrom skip rest
  | 0, c :: rest =>
    let inner := (rest.takeWhile (· != '>')).length
    if c == '<' && inner != 0 && inner < rest.length then withoutTagsFrom (inner + 1) rest
    else c :: withoutTagsFrom 0 rest

/-- A document without its tags. A tag has at least one character between its angle brackets. -/
def withoutTags (document : List Char) : List Char := withoutTagsFrom 0 document

/-! ## Small laws -/

theorem markupChar_eq (c : Char) : markupChar c = [c] ∨ ∃ rest, markupChar c = '&' :: rest := by
  unfold markupChar
  split
  · exact .inr ⟨"amp;".toList, by decide⟩
  split
  · exact .inr ⟨"lt;".toList, by decide⟩
  split
  · exact .inr ⟨"gt;".toList, by decide⟩
  split
  · exact .inr ⟨"quot;".toList, by decide⟩
  split
  · exact .inr ⟨"#x27;".toList, by decide⟩
  · exact .inl rfl

/-! ## Pieces -/

inductive ReportPiece where
  | text (chars : List Char)
  | coloured (colour : LogColour) (chars : List Char)
  | link (address : String) (chars : List Char)
  deriving DecidableEq, Repr

/-- A piece as part of a document. -/
def ReportPiece.render : ReportPiece → List Char
  | .text chars => escapeMarkup chars
  | .coloured colour chars =>
    "<span class=\"".toList ++ colour.name.toList ++ "\">".toList ++ escapeMarkup chars ++
      "</span>".toList
  | .link address chars =>
    "<a href=\"".toList ++ escapeMarkup address.toList ++ "\">".toList ++ escapeMarkup chars ++
      "</a>".toList

/-- Where the reader of a log stands. -/
structure ReportReading where
  colour : LogColour := .normal
  underlined : Bool := false
  blue : Bool := false
  pending : List Char := []
  deriving DecidableEq, Repr

namespace ReportReading

variable (topics : TopicTable) (reading : ReportReading)

/-- The pieces for a finished link: one, or none if the link is blank. A link that leads nowhere known
leads to its own text. -/
def linkPieces (pending : List Char) : List ReportPiece :=
  let shown := Text.trim pending
  if shown.isEmpty then []
  else
    let address :=
      match webAddress topics (String.ofList shown) with
      | .ok found => found
      | .error _ => String.ofList shown
    [.link address shown]

def finish : ReportReading × List ReportPiece :=
  if reading.colour = .blue then
    ({ reading with colour := .normal, pending := [] }, linkPieces topics reading.pending)
  else (reading, [])

/-- The flags after a control sequence with the given numbers. -/
def withFlags (numbers : List Nat) : ReportReading :=
  { reading with
    underlined := if numbers.contains 24 then false else reading.underlined || numbers.contains 4
    blue := if numbers.contains 39 then false else reading.blue || numbers.contains 94 }

/-- Reads a control sequence. A zero ends every style. Otherwise the flags say whether a link starts or
ends, and a severity style that does not start a link changes the colour. -/
def control (parameters : List Char) : ReportReading × List ReportPiece :=
  let numbers := Segment.numbers parameters
  if numbers.contains 0 then
    ({}, (reading.finish topics).2)
  else
    let flagged := reading.withFlags numbers
    let isLink := flagged.underlined && flagged.blue
    if isLink && flagged.colour ≠ .blue then ({ flagged with colour := .blue }, [])
    else
      match severityColour? parameters with
      | some colour =>
        let (finished, pieces) := flagged.finish topics
        ({ finished with colour := colour }, pieces)
      | none => if isLink then (flagged, []) else flagged.finish topics

/-- The pieces of finished lines of a link, each with its line end. -/
def linkLines (lines : List (List Char)) : List ReportPiece :=
  lines.flatMap fun line => linkPieces topics line ++ [.text ['\n']]

/-- Reads plain text of a link: all lines but the last are finished. -/
def linkText (text : List Char) : ReportReading × List ReportPiece :=
  match Text.splitWhere (· == '\n') (Text.joinReturnFeed text) with
  | [] => (reading, [])
  | first :: rest =>
    let lines := (reading.pending ++ first) :: rest
    ({ reading with pending := lines.getLast?.getD [] }, linkLines topics lines.dropLast)

def plain (text : List Char) : ReportReading × List ReportPiece :=
  match reading.colour with
  | .blue => reading.linkText topics text
  | .normal => (reading, [.text text])
  | colour => (reading, [.coloured colour text])

def step (segment : Segment) : ReportReading × List ReportPiece :=
  match segment with
  | .control parameters => reading.control topics parameters
  | .plain text => reading.plain topics text

/-- Reads segments to the end and finishes a link that is left open. -/
def pieces (topics : TopicTable) : ReportReading → List Segment → List ReportPiece
  | reading, [] => (reading.finish topics).2
  | reading, segment :: rest =>
    let (next, found) := reading.step topics segment
    found ++ pieces topics next rest

end ReportReading

/-- The pieces of the report of a log. Unlike in a window, styles go on from one text to the next. -/
def reportPieces (topics : TopicTable) (log : Log) : List ReportPiece :=
  ReportReading.pieces topics {} (log.entries.flatMap fun entry => segments entry.toList)

/-! ## Severity icons -/

def severityIcons : List (String × String) :=
  [("[ERROR]",
    "<span class=\"sev sev-error\" role=\"img\" aria-label=\"Error\">❗</span>" ++
      "<span class=\"sr-only\">Error: </span>[ERROR]"),
   ("[MANDATORY]",
    "<span class=\"sev sev-error\" role=\"img\" aria-label=\"Mandatory\">❗</span>" ++
      "<span class=\"sr-only\">Mandatory: </span>[MANDATORY]"),
   ("[WARNING]",
    "<span class=\"sev sev-warning\" role=\"img\" aria-label=\"Warning\">⚠️</span>" ++
      "<span class=\"sr-only\">Warning: </span>[WARNING]"),
   ("[INFO]",
    "<span class=\"sev sev-info\" role=\"img\" aria-label=\"Info\">ℹ️</span>" ++
      "<span class=\"sr-only\">Info: </span>[INFO]")]

def addSeverityIcons (document : List Char) : List Char :=
  severityIcons.foldl (fun text (word, icon) => Text.replaceAll word.toList icon.toList text) document

def plainReportBody (topics : TopicTable) (log : Log) : List Char :=
  (reportPieces topics log).flatMap ReportPiece.render

def reportBody (topics : TopicTable) (log : Log) : List Char :=
  addSeverityIcons (plainReportBody topics log)

end StudioMigration
