import StudioMigration.Xml.Tree
import StudioMigration.Text.Utf8

/-!
# Writing XML

Writes a document with two blanks of indentation per level. Nothing is added inside an element that
has text, nor anywhere below it, so that no text changes.
-/

namespace StudioMigration.Xml

def escapeTextChar (c : Char) : List Char :=
  match c with
  | '&' => "&amp;".toList
  | '<' => "&lt;".toList
  | '>' => "&gt;".toList
  | '\r' => "&#13;".toList
  | _ => [c]

def escapeValueChar (c : Char) : List Char :=
  match c with
  | '&' => "&amp;".toList
  | '<' => "&lt;".toList
  | '>' => "&gt;".toList
  | '"' => "&quot;".toList
  | '\t' => "&#9;".toList
  | '\n' => "&#10;".toList
  | '\r' => "&#13;".toList
  | _ => [c]

def writeAttribute (name : String) (value : List Char) : List Char :=
  ' ' :: name.toList ++ ['=', '"'] ++ value.flatMap escapeValueChar ++ ['"']

def declarationName (qualifier : String) : String :=
  if qualifier == "" then "xmlns" else "xmlns:" ++ qualifier

/-- A tag without its brackets: the name, then declarations, then attributes. -/
def writeTag (tag : XmlTag) : List Char :=
  tag.name.render.toList ++
    tag.declarations.flatMap (fun (qualifier, uri) =>
      writeAttribute (declarationName qualifier) uri.toList) ++
    tag.attributes.flatMap fun (name, value) => writeAttribute name.render value

/-- The indentation of a level, which stops growing at sixty blanks. -/
def indent (level : Nat) : List Char := List.replicate (min (2 * level) 60) ' '

mutual

/-- Writes a node. `pretty` says whether line ends and indentation may be added inside it. -/
def writeNode (pretty : Bool) (level : Nat) : XmlNode → List Char
  | .text content => content.flatMap escapeTextChar
  | .comment content => "<!--".toList ++ content ++ "-->".toList
  | .instruction target content =>
    "<?".toList ++ target.toList ++ (content.map (' ' :: ·)).getD [] ++ "?>".toList
  | .element tag children =>
    if children.isEmpty then '<' :: writeTag tag ++ ['/', '>']
    else
      let inner := pretty && !children.any XmlNode.isText
      '<' :: writeTag tag ++ ['>'] ++ (if inner then ['\n'] else []) ++
        writeNodes inner (level + 1) children ++
        (if inner then indent level else []) ++ ['<', '/'] ++ tag.name.render.toList ++ ['>']

def writeNodes (pretty : Bool) (level : Nat) : List XmlNode → List Char
  | [] => []
  | node :: rest =>
    (if pretty then indent level else []) ++ writeNode pretty level node ++
      (if pretty then ['\n'] else []) ++ writeNodes pretty level rest

end

def write (document : XmlDocument) : List Char :=
  "<?xml version='1.0' encoding='UTF-8'?>\n".toList ++
    (document.before ++ [document.root] ++ document.after).flatMap fun node =>
      writeNode true 0 node ++ ['\n']

end StudioMigration.Xml
