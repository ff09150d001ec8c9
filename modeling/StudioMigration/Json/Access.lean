import StudioMigration.Fault

/-!
# Looking into JSON values

A value from outside need not have the kind that is expected. Here are the ways to look into it, each with
the fault that arises when the kind is wrong.
-/

namespace StudioMigration.Json

/-- The text of a JSON document. It starts with two characters of ASCII, so that its first bytes tell its encoding: where they
are zero tells how wide the units are and which byte comes first. A byte order mark in UTF-8 is passed over. -/
def textOf (bytes : Text.Utf8.Bytes) : Except Text.Undecodable (List Char) :=
  match bytes with
  | 0xEF :: 0xBB :: 0xBF :: rest => utf8 rest
  | a :: b :: c :: d :: _ =>
    if a == 0 then (if b == 0 then Text.Wide.decode32 .highFirst bytes else Text.Wide.decode16 .highFirst bytes)
    else if b == 0 then
      (if c == 0 && d == 0 then Text.Wide.decode32 .lowFirst bytes else Text.Wide.decode16 .lowFirst bytes)
    else utf8 bytes
  | [a, b] =>
    if a == 0 then Text.Wide.decode16 .highFirst bytes
    else if b == 0 then Text.Wide.decode16 .lowFirst bytes
    else utf8 bytes
  | _ => utf8 bytes
where
  utf8 (bytes : Text.Utf8.Bytes) : Except Text.Undecodable (List Char) :=
    match Text.Utf8.decode bytes with
    | .ok text => .ok text
    | .error place => .error place.undecodable

def ofBytes (bytes : Text.Utf8.Bytes) : Except Fault Json :=
  match textOf bytes with
  | .error place => .error (.undecodable place)
  | .ok text =>
    match readText text with
    | .ok value => .ok value
    | .error flaw => .error (.json flaw)

/-- A value, or another one if it is not there or empty. -/
def orElse (value : Option Json) (fallback : Json) : Json :=
  match value with
  | some found => if found.isPresent then found else fallback
  | none => fallback

def expectObject (value : Json) : Except Fault (String → Option Json) :=
  match value with
  | .object _ => .ok fun name => value.member? name
  | _ => .error (.noAttribute value.kindName "get")

/-- What a value yields when it is walked through. -/
def walk (value : Json) : Except Fault (List Json) :=
  match value with
  | .array items => .ok items
  | .object members => .ok (members.map fun m => .string m.1)
  | .string s => .ok (s.toList.map fun c => .string (String.ofList [c]))
  | _ => .error (.notIterable value.kindName)

/-- The value of a table under a key. Arrays and objects are no keys, and other values but texts are keys
that no table has. -/
def lookUp {α : Type} (table : String → Option α) (key : Json) : Except Fault (Option α) :=
  match key with
  | .string name => .ok (table name)
  | .array _ => .error (.unhashable key.kindName)
  | .object _ => .error (.unhashable key.kindName)
  | _ => .ok none

/-- A text with a value behind it, which has to be a text, too. -/
def appendTo (text : String) (value : Json) : Except Fault String :=
  match value with
  | .string s => .ok (text ++ s)
  | _ => .error (.notText value.kindName)

end StudioMigration.Json
