import StudioMigration.Fault

/-!
# Renamings

A renaming is a table of old and new names. What counts as an occurrence of a name depends on its role in
the source: the name of a call, a word, any piece of text, or a member after a dot. The entries of a table
are applied one after the other, each to the result of the one before.
-/

namespace StudioMigration

/-- Old names with the templates of their new names, in the order in which they are applied. -/
abbrev Renaming := List (String × String)

/-- The role of a name in a source. -/
inductive NameRole where
  /-- The name of a call, up to the opening parenthesis. -/
  | call
  | word
  | piece
  /-- A member, with the dot before it. -/
  | member
  deriving DecidableEq, Repr

namespace NameRole

def pattern (role : NameRole) (old : String) : Pattern :=
  match role with
  | .call => .call old.toList
  | .word => .word old.toList
  | .piece => .chars old.toList
  | .member => .word ('.' :: old.toList)

def template (role : NameRole) (new : String) : List Char :=
  match role with
  | .call => new.toList ++ ['(']
  | .word => new.toList
  | .piece => new.toList
  | .member => '.' :: new.toList

end NameRole

/-- Applies one entry of a renaming: the new text and the number of replacements. -/
def rename (role : NameRole) (entry : String × String) (text : List Char) : Except Fault (List Char × Nat) :=
  match (role.pattern entry.1).substitute (role.template entry.2) text with
  | .ok result => .ok result
  | .error flaw => .error (.template flaw)

/-- Applies a whole renaming: the new text and the number of replacements. -/
def renameAll (role : NameRole) : Renaming → List Char → Except Fault (List Char × Nat)
  | [], text => .ok (text, 0)
  | entry :: rest, text => do
    let (renamed, count) ← rename role entry text
    let (final, others) ← renameAll role rest renamed
    return (final, count + others)

end StudioMigration
