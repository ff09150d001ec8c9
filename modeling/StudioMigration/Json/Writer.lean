import StudioMigration.Json.Value

/-!
# Writing JSON

The text of a JSON value, on one line. What can be written as itself is, except quotes, backslashes and
control characters.
-/

namespace StudioMigration.Json

def writeChar (c : Char) : List Char :=
  if c == '"' || c == '\\' then ['\\', c]
  else if c == '\n' then ['\\', 'n']
  else if c == '\r' then ['\\', 'r']
  else if c == '\t' then ['\\', 't']
  else if c.toNat < 0x20 then '\\' :: 'u' :: Text.hexPadded 4 c.toNat
  else [c]

def writeString (s : String) : String :=
  String.ofList ('"' :: s.toList.flatMap writeChar ++ ['"'])

def writeDouble : Double → String
  | .infinite negative => if negative then "-Infinity" else "Infinity"
  | .undefined => "NaN"
  | value => value.text

mutual

def write : Json → String
  | .null => "null"
  | .bool value => if value then "true" else "false"
  | .integer value => toString value
  | .double value => writeDouble value
  | .string value => writeString value
  | .array items => "[" ++ Text.joinStrings "," (writeItems items) ++ "]"
  | .object members => "\x7b" ++ Text.joinStrings "," (writeMembers members) ++ "\x7d"

def writeItems : List Json → List String
  | [] => []
  | item :: rest => item.write :: writeItems rest

def writeMembers : List (String × Json) → List String
  | [] => []
  | (name, value) :: rest => (writeString name ++ ":" ++ value.write) :: writeMembers rest

end

end StudioMigration.Json
