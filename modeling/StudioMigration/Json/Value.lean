import StudioMigration.Json.Double
import StudioMigration.Text.Quoted

/-!
# JSON values

Values of data files and of answers from the release server. The members of an object keep their
order; whole numbers are kept exactly.
-/

namespace StudioMigration

inductive Json where
  | null
  | bool (value : Bool)
  | integer (value : Int)
  | double (value : Double)
  | string (value : String)
  | array (items : List Json)
  | object (members : List (String × Json))
  deriving Inhabited

namespace Json

/-- Puts a member into an object: an earlier one of the same name is overwritten in its place. -/
def putMember (name : String) (value : Json) : List (String × Json) → List (String × Json)
  | [] => [(name, value)]
  | (other, old) :: rest =>
    if other == name then (name, value) :: rest else (other, old) :: putMember name value rest

def member? (name : String) : Json → Option Json
  | .object members => (members.find? (·.1 == name)).map (·.2)
  | _ => none

/-- Whether a value counts as present: neither null, nor false, nor zero, nor empty. -/
def isPresent : Json → Bool
  | .null => false
  | .bool value => value
  | .integer value => value != 0
  | .double (.finite _ significand _) => significand != 0
  | .double _ => true
  | .string value => value != ""
  | .array items => !items.isEmpty
  | .object members => !members.isEmpty

/-- The word for the kind of a value in messages about values of a wrong kind. -/
def kindName : Json → String
  | .null => "NoneType"
  | .bool _ => "bool"
  | .integer _ => "int"
  | .double _ => "float"
  | .string _ => "str"
  | .array _ => "list"
  | .object _ => "dict"

mutual

/-- A value as messages show it inside another value. -/
def inner : Json → String
  | .null => "None"
  | .bool true => "True"
  | .bool false => "False"
  | .integer value => toString value
  | .double value => value.text
  | .string value => Text.quotedString value
  | .array items => "[" ++ Text.joinStrings ", " (innerItems items) ++ "]"
  | .object members => "\x7b" ++ Text.joinStrings ", " (innerMembers members) ++ "\x7d"

def innerItems : List Json → List String
  | [] => []
  | item :: rest => item.inner :: innerItems rest

def innerMembers : List (String × Json) → List String
  | [] => []
  | (name, value) :: rest => (Text.quotedString name ++ ": " ++ value.inner) :: innerMembers rest

end

/-- A value as messages show it: a string stands for itself. -/
def display : Json → String
  | .string value => value
  | value => value.inner

end Json

end StudioMigration
