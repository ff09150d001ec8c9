import StudioMigration.Release.Update
import StudioMigration.Text.Uri

/-!
# Run counter

Signals a run to a counting service. Failures are ignored.
-/

namespace StudioMigration

/-- Where runs are counted. -/
inductive RunCounter where
  /-- The counting service, under a name of our own. -/
  | service (space : String)
  | address (target : String)
  | off
  deriving DecidableEq, Repr

def RunCounter.standard : RunCounter := .service "as6-migration-tools-6f2a48c7"

/-- An address without white space and brackets around it. -/
def unwrapAddress (target : String) : List Char :=
  let trimmed := Text.trim target.toList
  let bare :=
    if trimmed.head? == some '<' && trimmed.getLast? == some '>' then
      Text.trim (trimmed.drop 1).dropLast
    else trimmed
  if "URL:".toList.isPrefixOf bare then Text.trim (bare.drop 4) else bare

/-- An address and its fragment, which follows the last number sign. -/
def splitFragment (address : List Char) : List Char × List Char :=
  if address.contains '#' then
    let fragment := (address.reverse.takeWhile (· != '#')).reverse
    (address.take (address.length - fragment.length - 1), fragment)
  else (address, [])

/-- Whether an address has a scheme: some characters up to the first colon, no slash among them. -/
def hasScheme (address : List Char) : Bool :=
  let scheme := address.takeWhile fun c => c != '/' && c != ':'
  !scheme.isEmpty && (address.drop scheme.length).head? == some ':'

/-- Characters that stand for one of the signs that divide addresses, or for several characters with such
a sign among them. -/
def isDisguisedSign (c : Char) : Bool :=
  [0x2047, 0x2048, 0x2049, 0x2100, 0x2101, 0x2105, 0x2106, 0x2A74, 0xFE13, 0xFE16, 0xFE55, 0xFE56, 0xFE5F,
   0xFE6B, 0xFF03, 0xFF0F, 0xFF1A, 0xFF1F, 0xFF20].contains c.toNat

/-- The host that an address names, with its user and its service number: what stands between two slashes
and the next slash, question mark or number sign. Tabs and line ends do not count, nor do control
characters and blanks in front. -/
def hostOf (address : List Char) : List Char :=
  let plain := (address.dropWhile fun c => c.toNat ≤ 0x20).filter fun c =>
    c != '\t' && c != '\r' && c != '\n'
  let scheme := plain.takeWhile (· != ':')
  let rest :=
    if scheme.head?.any Text.isAsciiLetter && scheme.all Uri.isSchemeChar && plain.contains ':' then
      plain.drop (scheme.length + 1)
    else plain
  match rest with
  | '/' :: '/' :: tail => tail.takeWhile fun c => c != '/' && c != '?' && c != '#'
  | _ => []

/-- Whether a host can be asked: brackets come in pairs, and no sign is disguised. -/
def isHost (host : List Char) : Bool :=
  host.contains '[' == host.contains ']' && !host.any isDisguisedSign

/-- An address as it is requested: it needs a scheme, its host must be fit, and an empty fragment is left
out. -/
def requestAddress? (target : String) : Option String :=
  let (address, fragment) := splitFragment (unwrapAddress target)
  let whole := if fragment.isEmpty then address else address ++ '#' :: fragment
  if hasScheme address && isHost (hostOf whole) then some (String.ofList whole) else none

def RunCounter.bump (counter : RunCounter) (metric : String) : Script Unit := do
  let target :=
    match counter with
    | .service space => some s!"https://abacus.jasoncameron.dev/hit/{space}/{metric}"
    | .address target => some target
    | .off => none
  match target.bind requestAddress? with
  | some asked =>
    try
      let _ ← Script.fetch ⟨asked, userAgent, 3⟩
    catch _ => pure ()
  | none => pure ()

end StudioMigration
