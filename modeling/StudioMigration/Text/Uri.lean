import StudioMigration.Text.Utf8

/-!
# Resource identifiers

The grammar of resource identifiers: a scheme, an authority with a host and a service number, a path, a
query and a fragment, of which all but the path may be left out. Only ASCII characters occur; any other
is written as an escaped octet, a percent sign with two hexadecimal digits.

* `Uri.isAbsolute` says whether a text is an identifier with a scheme.
* `Uri.isReference` says whether it is one with or without.
-/

namespace StudioMigration.Uri

variable (c : Char)

def isHexDigit : Bool :=
  Text.isAsciiDigit c || ('a' ≤ c && c ≤ 'f') || ('A' ≤ c && c ≤ 'F')

def isPlain : Bool :=
  Text.isAsciiLetter c || Text.isAsciiDigit c || "-._~!$&()*+,;=".toList.contains c ||
    c.toNat == 0x27

def isSegmentChar : Bool := isPlain c || c == ':' || c == '@'

/-- Characters that stand for themselves in a path. -/
def isPathChar : Bool := isSegmentChar c || c == '/'

def isQueryChar : Bool := isPathChar c || c == '?'

def isFragmentChar : Bool := isQueryChar c || c == '[' || c == ']'

/-- The rest of a text behind a run of given characters and escaped octets. -/
def pass (accepts : Char → Bool) : List Char → List Char
  | [] => []
  | '%' :: a :: b :: rest =>
    if isHexDigit a && isHexDigit b then pass accepts rest else '%' :: a :: b :: rest
  | c :: rest => if accepts c then pass accepts rest else c :: rest

variable (text : List Char)

/-- The rest behind a service number, which fits in 31 bits. -/
def passService? : Option (List Char) :=
  let digits := text.takeWhile Text.isAsciiDigit
  let value := digits.foldl (fun n c => 10 * n + (c.toNat - 48)) 0
  if digits.isEmpty || 0x7FFFFFFF < value then none else some (text.dropWhile Text.isAsciiDigit)

/-- The rest behind a host. A host in brackets may have any characters. -/
def passHost? : List Char → Option (List Char)
  | '[' :: rest =>
    match rest.dropWhile (· != ']') with
    | _ :: after => some after
    | [] => none
  | text => some (pass isPlain text)

/-- The rest behind an authority: a user with an at sign, a host, and a service number behind a
colon. -/
def passAuthority? : Option (List Char) := do
  let host :=
    match pass (fun c => isPlain c || c == ':') text with
    | '@' :: rest => rest
    | _ => text
  match ← passHost? host with
  | ':' :: rest => passService? rest
  | rest => some rest

/-- The rest behind an authority and the path that follows it. -/
def passPlace? : Option (List Char) := do
  match ← passAuthority? text with
  | '/' :: rest => some (pass isPathChar rest)
  | rest => some rest

/-- Whether a text is a query and a fragment, both of which may be left out. -/
def isTail : Bool :=
  let rest :=
    match text with
    | '?' :: rest => pass isQueryChar rest
    | _ => text
  match rest with
  | '#' :: rest => (pass isFragmentChar rest).isEmpty
  | _ => rest.isEmpty

/-- Whether a text is an identifier without a scheme. The first segment of its path has no colon, which
would end a scheme. -/
def isRelative : Bool :=
  match text with
  | '/' :: '/' :: rest => (passPlace? rest).any isTail
  | '/' :: rest => isTail (pass isPathChar rest)
  | _ =>
    match pass (fun c => isSegmentChar c && c != ':') text with
    | '/' :: rest => isTail (pass isPathChar rest)
    | rest => isTail rest

def isSchemeChar (c : Char) : Bool :=
  Text.isAsciiLetter c || Text.isAsciiDigit c || c == '+' || c == '-' || c == '.'

def isAbsolute : Bool :=
  text.head?.any Text.isAsciiLetter &&
    match text.dropWhile isSchemeChar with
    | ':' :: '/' :: '/' :: rest => (passPlace? rest).any isTail
    | ':' :: rest => isTail (pass isPathChar rest)
    | _ => false

def isReference : Bool := isAbsolute text || isRelative text

end StudioMigration.Uri

/-! ## Percent-encoding -/

namespace StudioMigration.Text

def isAddressByte (byte : UInt8) : Bool :=
  let c := Char.ofNat byte.toNat
  isAsciiLetter c || isAsciiDigit c || c == '_' || c == '.' || c == '-' || c == '~' || c == '/'

def percentByte (byte : UInt8) : List Char :=
  if isAddressByte byte then [Char.ofNat byte.toNat]
  else '%' :: (hexPadded 2 byte.toNat).map Char.toUpper

def percentEncoded (s : String) : String :=
  String.ofList ((Utf8.encodeString s).flatMap percentByte)

end StudioMigration.Text
