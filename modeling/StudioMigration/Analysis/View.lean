import StudioMigration.Analysis.ProjectFile
import StudioMigration.Analysis.Scan

/-!
# mapp View

Tells what has to be done for projects with mapp View, and looks for widgets that need a certain user
role.
-/

namespace StudioMigration

/-- What a migrated project with mapp View has to be set up for. -/
def viewAdvice : String :=
  "Several security settings will be enforced after the migration:

- To allow access without a certificate
  Change the following settings in the OPC Client/Server configuration (Configuration View/Connectivity/OpcUaCs/UaCsConfig.uacfg):
  ClientServerConfiguration->Security->MessageSecurity->SecurityPolicies->None: Enabled

- User login will be enabled by default. To allow anonymous access
  Change the following settings in mappView configuration (Configuration View/mappView/Config.mappviewcfg):
  MappViewConfiguration->Server Configuration->Startup User: anonymous token

- Change the following settings in the OPC Client/Server configuration (Configuration View/Connectivity/OpcUaCs/UaCsConfig.uacfg):
  ClientServerConfiguration->Security->Authentication->Authentication Methods->Anonymous: Enabled

- Change the following settings in the User role system (Configuration View/AccessAndSecurity/UserRoleSystem/User.user):
  Assign the role \"BR_Engineer\" to the user \"Anonymous\". Create that user if it doesn't already exist, assign no password.

- To allow access to a File device from a running mappView application, it is now required to explicitly whitelist it for reading:
  Open the mappView server configuration file (Configuration View/mappView/Config.mappviewcfg)
  Check \"Change Advanced Parameter Visibility\" button in the editor toolbar
  Enter your accessed File device \"Name\" under \"MappViewConfiguration->Server configuration->File device whitelist\""

/-! ## Widgets -/

def contentNamespace : String := "http://www.br-automation.com/iat2015/contentDefinition/v2"

def schemaNamespace : String := "http://www.w3.org/2001/XMLSchema-instance"

def engineerWidgets : List String :=
  ["widgets.brease.AuditList", "widgets.brease.TextPad", "widgets.brease.UserList",
   "widgets.brease.MotionPad"]

def isEngineerWidget (element : XmlElement) : Bool :=
  element.uri == contentNamespace && element.base == "Widget" &&
    (element.attribute? schemaNamespace "type").any fun value =>
      engineerWidgets.contains (String.ofList value)

def engineerNote : Note :=
  ⟨"Found use of AuditList, UserList, TextPad or MotionPad widgets that requires the role of " ++
    "BR_Engineer" ++
    "\n - Check in the following (Configuration View/AccessAndSecurity/UserRoleSystem/User.user) " ++
    "that a user with role BR_Engineer is present", "INFO", ""⟩

def contentFaultNote (file : Path) (fault : Fault) : Note :=
  match fault with
  | .xml _ .malformed => ⟨s!"XML parsing error in {file.render}: {fault.message}", "ERROR", ""⟩
  | _ => ⟨s!"Unexpected error while processing {file.render}: {fault.message}", "ERROR", ""⟩

/-- Looks at content files one after the other, up to the first that cannot be read. -/
def inspectContents : List Path → Inspection Unit
  | [] => pure ()
  | file :: rest => do
    let document ←
      try some <$> readDocument file
      catch fault =>
        Inspection.say (contentFaultNote file fault)
        pure none
    match document with
    | some document =>
      Inspection.sayAll ((document.descendants.filter isEngineerWidget).map fun _ => engineerNote)
      inspectContents rest
    | none => pure ()

/-! ## The check -/

def inspectViewLine (project : Path) (line : List Char) : Inspection Unit := do
  if declares "<mappView " line then
    match ← versionOf line with
    | some version =>
      Inspection.sayAll
        [⟨s!"Found usage of mappView (Version: {version.render})", "INFO", ""⟩,
         ⟨viewAdvice, "WARNING", "AS6"⟩]
    | none => pure ()
    let contents ← entriesEnding (project.parent.child "Logical") ".content"
    inspectContents (contents.map (·.1))

def inspectView (project : Path) (verbose : Bool) : Inspection Unit := do
  Inspection.say (.heading "Checking mappView version in project file...")
  let lines ← projectLines project
  lines.forM (inspectViewLine project)
  if verbose then noteFolders project "mappView"

end StudioMigration
