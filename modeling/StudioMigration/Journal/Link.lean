import StudioMigration.Json.Access
import StudioMigration.Journal.Segment

/-!
# Links in messages

Messages mention help topics by name and pages by address. `markLinks` puts both in link style;
`webAddress` says where a link leads.
-/

namespace StudioMigration

/-! ## Help topics -/

/-- Help topics by name, in the order in which they are looked for. A topic is an object with the group of
pages it belongs to and its address within the group. -/
abbrev TopicTable := List (String × Json)

def helpTopic (group address : String) : Json :=
  .object [("prefix", .string group), ("url", .string address)]

def helpTopics : TopicTable :=
  [("Configuration View/Connectivity/OpcUaCs/UaCsConfig.uacfg",
    helpTopic "opc_ua_help" "configuration/runtime/opcua_runtimeconfiguration.html"),
   ("Configuration View/mappView/Config.mappviewcfg",
    helpTopic "mapp_view_help"
      "engineering/organization/mappviewconfiguration/mappviewconfiguration.html"),
   ("Configuration View/AccessAndSecurity/UserRoleSystem/User.user",
    helpTopic "mapp_view_help"
      "engineering/organization/mappviewconfiguration/authentication/authentication.html"),
   ("AR/Features_and_changes",
    helpTopic "" "revinfos/version-info/new_functions/features_and_changes.html"),
   ("AS4/Migration",
    helpTopic "as4_migration" "notwendige_anpassungen_im_automation_studio_4_projekt.html"),
   ("Safety/Conversion",
    helpTopic "safety_help"
      "mapp_safety/getting-started/proj-conversion/umstieg_auf_mapp_safety_5.x.html")]

/-! ## Where links lead -/

def webSite : String := "https://www.br-automation.com/en"

def helpSite : String := "https://help.br-automation.com/#/en/6"

/-- The address of a group of help pages. -/
def groupAddress (group : String) : String :=
  match group with
  | "mapp_view_license" =>
    webSite ++ "/products/software/mapp-technology/mapp-view/mapp-view-licensing/"
  | "mapp_view_widget" => helpSite ++ "/visualization/mappview/widgets/"
  | "mapp_view_help" => helpSite ++ "/visualization/mappview/"
  | "mapp_connect_help" => helpSite ++ "/visualization/mappconnect/"
  | "safety_help" => helpSite ++ "/safety/"
  | "opc_ua_help" => helpSite ++ "/communication/opcua/"
  | "as4_migration" =>
    helpSite ++
      "/revinfos/version-info/projekt_aus_automation_studio_4_ubernehmen/automation_studio/"
  | "" => helpSite ++ "/"
  | _ => ""

/-- The address of a help topic. A topic without a group is in the group without a name, and a group that
is no text has no address. -/
def topicAddress (topic : Json) : Except Fault String := do
  let member ← topic.expectObject
  let base ← Json.lookUp (fun group => some (groupAddress group)) ((member "prefix").getD (.string ""))
  match member "url" with
  | some address => Json.appendTo (base.getD "") address
  | none => throw (.missingKey "url")

/-- Where a link leads: a text with `http` in it is an address already, a help topic has its page, and
anything else is taken for the name of a product. -/
def webAddress (topics : TopicTable) (text : String) : Except Fault String :=
  if Text.occursIn "http" text then .ok text
  else
    match topics.lookup text with
    | some topic => topicAddress topic
    | none => .ok (webSite ++ "/product/" ++ text)

/-! ## Finding and marking links -/

def isHostChar (c : Char) : Bool :=
  Text.isAsciiLetter c || Text.isAsciiDigit c || c == '-' || c == '.' || c == '_' || c == '~' ||
    c == '%'

/-- Web addresses: a scheme, a host that ends in a dot and at least two letters, and an optional path
without white space. An address starts and ends at a word boundary. -/
def addressPattern : Pattern :=
  .all [.boundary, .literal "http", .optional (.literal "s"), .literal "://",
    .optional (.literal "www."), .many1 isHostChar,
    .literal ".", .char Text.isAsciiLetter, .many1 Text.isAsciiLetter,
    .optional (.seq (.literal "/") (.many fun c => !Text.isSpace c)), .boundary]

def findAddresses (text : List Char) : List (List Char) :=
  (addressPattern.findAll text).map (·.text)

def linkMark (text : List Char) : List Char := Style.link.toList ++ text ++ Style.reset.toList

/-- Puts every occurrence of `piece` in link style. -/
def markPiece (text piece : List Char) : List Char := Text.replaceAll piece (linkMark piece) text

/-- Puts help topics in link style, then every web address that is found after that. An address that is
found several times is marked as often. -/
def markLinks (text : List Char) : List Char :=
  let withTopics := helpTopics.foldl (fun t topic => markPiece t topic.1.toList) text
  (findAddresses withTopics).foldl markPiece withTopics

def markLinksString (s : String) : String := String.ofList (markLinks s.toList)

end StudioMigration
