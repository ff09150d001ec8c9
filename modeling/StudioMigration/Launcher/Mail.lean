import StudioMigration.Launcher.Window

/-!
# Reports as files and by mail

The report of the log, saved where the user wants it or written for another program.
A mail with the report is drafted by the first way that works: the mail program itself, a script that
drives it, or its command line.
-/

namespace StudioMigration

open Script

/-- The name of a project: the last part of its folder, whichever slashes that ends in. -/
def projectName (folder : String) : String :=
  baseName (String.ofList (Text.trimEndWhere (fun c => c == '\\' || c == '/') folder.toList))

def reportFileName (folder : String) (now : Moment) : String :=
  let name := projectName folder
  (if name == "" then "project" else name) ++ "_AS4_To_AS6_Migration_Report_" ++ now.stamp ++ ".html"

def fileAddress (ws : Workspace) (path : Path) : String :=
  "file://" ++ Text.percentEncoded (ws.resolve path).render

namespace Launch

def reportText : Launch String := do
  let launcher ← get
  let shown := launcher.window
  return report shown.topics shown.log launcher.now shown.folder.text (← version)

def writeReport (path : Path) : Launch Unit := do
  let text ← reportText
  perform (change fun ws => ws.writeBytes path (Text.Utf8.encodeString text))

/-- Saves the report under a name that the user gives, and opens it; no name saves nothing. -/
def saveReport : Launch Unit := do
  let file ← perform nextAnswer
  if file == "" then pure ()
  else
    try
      let path := Path.ofString file
      writeReport path
      let address := fileAddress (← get).session.workspace path
      perform do
        record (.page (.string address))
        record (.notice "Success" s!"HTML log saved to:\n{file}")
    catch fault =>
      perform (record (.failure "Error" s!"Failed to save file:\n{fault.message}"))

/-- Writes the report for another program and tells where it is. -/
def exportReport : Launch Path := do
  let folder ← folder
  let launcher ← get
  let path := launcher.scratch.child (reportFileName folder launcher.now)
  writeReport path
  return path

end Launch

/-! ## Drafts -/

structure MailDraft where
  subject : String
  body : String
  attachment : Path

def mailSubject (folder : String) : String :=
  let name := projectName folder
  (if name == "" then "" else name ++ " - ") ++ "AS4 to AS6 Migration Report"

/-- The body of a mail about a folder: the counts only, as the report itself is attached. -/
def mailBody (folder : String) (now : Moment) (counts : SeverityCounts) : String :=
  "\n        <div style=\"font-family: Segoe UI, Arial, sans-serif; font-size: 12pt;\">\n" ++
    "          <p><strong>AS4 to AS6 Migration Report</strong></p>\n" ++
    "          <p><strong>Project:</strong> " ++ escapeString (orDash folder) ++ "<br>\n" ++
    "             <strong>Generated:</strong> " ++ escapeString now.shown ++ "<br>\n" ++
    s!"             <strong>Summary:</strong> Errors: {counts.errors}, " ++
    s!"Warnings: {counts.warnings}, Info: {counts.infos}</p>\n" ++
    "          <p>Full HTML report is attached.<br>\n" ++
    "             Tool: <a href=\"" ++ programPage ++ "\">" ++ programTitle ++ "</a></p>\n" ++
    "        </div>\n        "

/-! ## The programs that can draft a mail -/

/-- How the start of another program ends. -/
inductive StartOutcome where
  | done
  | missing
  | failed
  deriving DecidableEq, Repr

/-- Whether the mail program can be driven directly. -/
inductive MailAutomation where
  /-- There is nothing to drive it with. -/
  | absent
  /-- The mail program does not answer. -/
  | broken
  /-- A new mail has this signature. -/
  | working (signature : String)
  deriving DecidableEq, Repr

/-- The programs of a computer that can draft a mail. -/
structure MailPrograms where
  automation : MailAutomation := .absent
  shell : StartOutcome := .missing
  newShell : StartOutcome := .missing
  mailer : Option String := none
  mailerStart : StartOutcome := .missing

def Script.start (arguments : List String) (environment : Option (List String))
    (outcome : StartOutcome) : Script Unit := do
  record (.started arguments environment)
  match outcome with
  | .done => pure ()
  | .missing => throw (.file .missing (arguments.headD ""))
  | .failed => throw (.programFailed arguments)

def MailDraft.automate (draft : MailDraft) (automation : MailAutomation) : Script Unit :=
  match automation with
  | .absent => throw .noMailProgram
  | .broken => do
    record (.mailCall "Outlook.Application")
    throw .noMailProgram
  | .working signature => do
    record (.mailCall "Outlook.Application")
    record .mailShown
    record (.mailFilled draft.subject (draft.body ++ signature) draft.attachment.render)

def mailScript : String :=
  "\n    $ErrorActionPreference = 'Stop'\n" ++
    "    $ol = New-Object -ComObject Outlook.Application\n" ++
    "    $mail = $ol.CreateItem(0)\n" ++
    "    $mail.Display()\n" ++
    "    $signature = $mail.HTMLBody\n" ++
    "    $mail.Subject  = $env:SUBJECT\n" ++
    "    $mail.HTMLBody = $env:BODY + $signature\n" ++
    "    $mail.Attachments.Add($env:ATTACH)\n    "

def scriptFileName (number : Nat) : String := s!"tmp{number}.ps1"

/-- The name for a new script file: the first that is not in use. -/
def freeScriptFileName (used : List String) : String :=
  let names := (List.range (used.length + 1)).map scriptFileName
  (names.find? fun name => !used.contains name).getD (scriptFileName used.length)

def shellArguments (program : String) (file : Path) : List String :=
  [program, "-NoProfile", "-ExecutionPolicy", "Bypass", "-File", file.render]

/-- Drives the mail program by a script. The script file is left behind. -/
def MailDraft.runScript (draft : MailDraft) (scratch : Path) (programs : MailPrograms) :
    Script Unit := do
  let used ← look fun ws => ws.list scratch
  let file := scratch.child (freeScriptFileName (used.map (·.1)))
  let content := String.ofList [Char.ofNat 0xFEFF] ++ mailScript
  change fun ws => ws.writeBytes file (Text.Utf8.encodeString content)
  let environment := some [draft.subject, draft.body, draft.attachment.render]
  try start (shellArguments "powershell" file) environment programs.shell
  catch _ => start (shellArguments "pwsh" file) environment programs.newShell

/-- The address that stands for a draft: its body without tags. -/
def MailDraft.address (draft : MailDraft) : String :=
  "mailto:?subject=" ++ Text.percentEncoded draft.subject ++ "&body=" ++
    Text.percentEncoded (String.ofList (withoutTags draft.body.toList))

def MailDraft.callMailer (draft : MailDraft) (programs : MailPrograms) : Script Unit :=
  match programs.mailer with
  | none => throw .noMailProgram
  | some mailer =>
    start [mailer, "/c", "ipm.note", "/m", draft.address, "/a", draft.attachment.render] none
      programs.mailerStart

/-! ## Sending -/

namespace Launch

def mailSubject : Launch String := do return StudioMigration.mailSubject (← folder)

def mailBody : Launch String := do
  let launcher ← get
  return StudioMigration.mailBody (← folder) launcher.now launcher.window.log.counts

/-- Tells in the status line how a draft was made. -/
def draftOpened (way : String) (attachment : Path) : Launch Unit :=
  alter fun w => { w with status := s!"Outlook draft ({way}) opened: {attachment.name}" }

def openDraft (programs : MailPrograms) (draft : MailDraft) : Launch Unit := do
  match ← attempt (draft.automate programs.automation) with
  | .ok () => draftOpened "pywin32" draft.attachment
  | .error _ =>
    match ← attempt (draft.runScript (← get).scratch programs) with
    | .ok () => draftOpened "PowerShell" draft.attachment
    | .error shellFault =>
      match ← attempt (draft.callMailer programs) with
      | .ok () => draftOpened "CLI" draft.attachment
      | .error mailerFault =>
        perform (record (.failure "Outlook not available"
          ("Could not open an Outlook draft via pywin32, PowerShell, or Outlook CLI.\n\n" ++
            s!"- PowerShell error: {shellFault.message}\n" ++
            s!"- CLI error: {mailerFault.message}\n" ++
            "Ensure classic Outlook (Win32) is installed. If you use the new Store 'Outlook', " ++
            "COM/CLI may not work.")))

def sendReport (programs : MailPrograms) : Launch Unit := do
  if (← window).log.entries.isEmpty then
    perform (record (.warning "No content" "Run a script before sending a report."))
  else
    let exported ← try some <$> exportReport
      catch fault =>
        perform (record
          (.failure "Export failed" s!"Could not export report:\n{fault.message}"))
        pure none
    match exported with
    | none => pure ()
    | some path => openDraft programs ⟨← mailSubject, ← mailBody, path⟩

end Launch

end StudioMigration
