import StudioMigration.Report.Body

/-!
# Report documents

A report document has a header with counts, the project and the time, and the log below it. It stands
for itself: its style sheet is part of it.
-/

namespace StudioMigration

/-! ## Time -/

structure Moment where
  year : Nat
  month : Nat
  day : Nat
  hour : Nat
  minute : Nat
  second : Nat
  deriving DecidableEq, Repr

namespace Moment

/-- A number in at least the given number of digits. -/
def digits (width n : Nat) : String :=
  let shown := Nat.toDigits 10 n
  String.ofList (List.replicate (width - shown.length) '0' ++ shown)

def date (moment : Moment) : String :=
  digits 4 moment.year ++ "-" ++ digits 2 moment.month ++ "-" ++ digits 2 moment.day

def shown (moment : Moment) : String :=
  moment.date ++ " " ++ digits 2 moment.hour ++ ":" ++ digits 2 moment.minute ++ ":" ++
    digits 2 moment.second

def stamp (moment : Moment) : String :=
  moment.date ++ "_" ++ digits 2 moment.hour ++ digits 2 moment.minute ++ digits 2 moment.second

end Moment

/-! ## Counts -/

structure SeverityCounts where
  errors : Nat
  warnings : Nat
  infos : Nat
  deriving DecidableEq, Repr

/-- Counts the severity words of a log, control sequences and all; mandatory steps count as errors. -/
def Log.counts (log : Log) : SeverityCounts :=
  let count (word : String) := Text.countOf word.toList log.rawText
  ⟨count "[ERROR]" + count "[MANDATORY]", count "[WARNING]", count "[INFO]"⟩

/-! ## The header -/

def programPage : String := "https://github.com/br-automation-community/as6-migration-tools"

def programTitle : String := "as6-migration-tools"

def badge (colour label icon text : String) (count : Nat) : String :=
  "<span class=\"badge " ++ colour ++ "\"><span class=\"ico\" role=\"img\" aria-label=\"" ++ label ++
    "\">" ++ icon ++ "</span>" ++ text ++ s!": {count}</span>"

def orDash (s : String) : String := if s == "" then "-" else s

def programLink (version : String) : String :=
  let known := Text.trimString version
  let label := programTitle ++ (if known == "" then "" else " " ++ escapeString known)
  "<a href=\"" ++ programPage ++ "\">" ++ label ++ "</a>"

def reportHeader (counts : SeverityCounts) (moment : Moment) (project version : String) : String :=
  "<header><h1>AS4 to AS6 Migration Log</h1>" ++
    badge "red" "Errors" "❗" "Errors" counts.errors ++
    badge "orange" "Warnings" "⚠️" "Warnings" counts.warnings ++
    badge "green" "Info items" "ℹ️" "Info" counts.infos ++
    "\n    <div class=\"meta\">\n      <div><strong>Project:</strong> " ++
    escapeString (orDash project) ++
    "</div>\n      <div><strong>Generated:</strong> " ++ escapeString moment.shown ++
    "</div>\n      <div>" ++ programLink version ++
    "</div>  <!-- replaces 'Tool version:' line -->\n    </div>\n    <hr></header>"

/-! ## The document -/

/-- The style sheet: dark on the screen, light on paper. -/
def styleSheet : String :=
  "
    :root \x7b
      --bg: #0f172a;       /* slate-900 */
      --fg: #e5e7eb;       /* gray-200 */
      --muted: #94a3b8;    /* slate-400 */
      --hr: rgba(148, 163, 184, 0.25);
      --badge-bg: #1f2937; /* gray-800 */
      --link: #60a5fa;     /* blue-400 */
      --red: #ef4444;      /* red-500 */
      --orange: #f59e0b;   /* amber-500 */
      --green: #22c55e;    /* green-500 */
    \x7d
    @media print \x7b
      :root \x7b
        --bg: #ffffff;
        --fg: #111827;
        --muted: #374151;
        --hr: #e5e7eb;
        --badge-bg: #f3f4f6;
        --link: #1d4ed8;
      \x7d
      body \x7b -webkit-print-color-adjust: exact; print-color-adjust: exact; \x7d
    \x7d
    html, body \x7b height: 100%; \x7d
    body \x7b
      background: var(--bg);
      color: var(--fg);
      font-family: ui-monospace, SFMono-Regular, Menlo, Consolas, \"Liberation Mono\", monospace;
      margin: 20px;
      line-height: 1.35;
    \x7d
    header h1 \x7b margin: 0 0 6px 0; font-size: 20px; font-weight: 700; color: var(--fg); \x7d

    /* Badges */
    .badge \x7b
      display: inline-block; padding: 2px 8px; border-radius: 9999px; margin-right: 8px;
      font-size: 12px; font-weight: 700; background: var(--badge-bg);
      font-variant-numeric: tabular-nums;   /* stable widths for counts */
    \x7d
    .badge.red    \x7b color: var(--red); \x7d
    .badge.orange \x7b color: var(--orange); \x7d
    .badge.green  \x7b color: var(--green); \x7d
    .badge .ico \x7b margin-right: 6px; display: inline-block; \x7d

    /* Meta */
    .meta \x7b margin-top: 8px; font-size: 12px; color: var(--muted); \x7d

    /* Log body */
    .log \x7b
      white-space: pre-wrap;
      font-size: 13px;
      margin: 0;           /* avoid extra spacing around the log */
      tab-size: 4;         /* nicer alignment for indented/log-style text */
    \x7d
    .log a \x7b word-break: break-word; overflow-wrap: anywhere; \x7d

    /* Severity color spans (already emitted by generator) */
    .red    \x7b color: var(--red);   font-weight: 700; \x7d
    .orange \x7b color: var(--orange);font-weight: 700; \x7d
    .green  \x7b color: var(--green); \x7d

    /* Anchors, rule */
    a \x7b color: var(--link); text-decoration: underline; \x7d
    hr \x7b border: 0; height: 1px; background: var(--hr); margin: 12px 0 16px 0; \x7d

    /* Screen-reader only label (for accessibility) */
    .sr-only \x7b
      position: absolute; width: 1px; height: 1px; padding: 0; margin: -1px;
      overflow: hidden; clip: rect(0, 0, 0, 0); white-space: nowrap; border: 0;
    \x7d

    /* Inline severity icon used in lines */
    .sev \x7b
      display: inline-block; width: 1.25em; text-align: center; margin-right: .25em;
      vertical-align: -0.08em; /* icon baseline alignment */
    \x7d
    .sev-error   \x7b color: var(--red);   font-weight: 700; \x7d
    .sev-warning \x7b color: var(--orange);font-weight: 700; \x7d
    .sev-info    \x7b color: var(--green); \x7d
    "

/-- A log body in a frame that keeps its white space. -/
def logFrame (inner : String) : String := "<pre class=\"log\">" ++ inner ++ "</pre>"

def reportDocument (content : String) : String :=
  "<!DOCTYPE html>\n    <html lang=\"en\">\n    <head>\n    <meta charset=\"utf-8\" />\n" ++
    "    <meta name=\"viewport\" content=\"width=device-width, initial-scale=1\" />\n" ++
    "    <title>AS4 to AS6 Migration Log</title>\n    <style>" ++ styleSheet ++
    "</style>\n    </head>\n    <body>\n    " ++ content ++ "\n    </body>\n    </html>"

/-- The report of a log. An empty log has no header. -/
def report (topics : TopicTable) (log : Log) (moment : Moment) (project version : String) : String :=
  if log.entries.isEmpty then reportDocument (logFrame "")
  else
    reportDocument (reportHeader log.counts moment project version ++
      logFrame (String.ofList (reportBody topics log)))

end StudioMigration
