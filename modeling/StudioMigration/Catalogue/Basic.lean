import StudioMigration.Text.Basic

/-!
# Catalogues

A catalogue lists names with the reason why they are no longer usable. Its order is the order in which
findings are reported.
-/

namespace StudioMigration

/-- Names with reasons, in reporting order. -/
abbrev Catalogue := List (String × String)

/-- The catalogue with the given rows, each of which has the names that share a reason. -/
@[irreducible] def Catalogue.ofRows (rows : List (String × String)) : Catalogue :=
  rows.flatMap fun row => (Text.variants row.1).map (·, row.2)

/-- Enters a value under a name; a name that is there already keeps its place. -/
def enter {α : Type} (name : String) (value : α) : List (String × α) → List (String × α)
  | [] => [(name, value)]
  | (other, old) :: rest =>
    if other == name then (name, value) :: rest else (other, old) :: enter name value rest

/-- The table with the given rows, of which the last one for each name counts. -/
def tableOf {α : Type} (rows : List (String × α)) : List (String × α) :=
  rows.foldl (fun table row => enter row.1 row.2 table) []

/-- The module types that a reason against hardware applies to. -/
inductive TypeRange where
  | listed (types : List String)
  | named (text : String)
  deriving DecidableEq, Repr

abbrev HardwareCatalogue := List (String × TypeRange)

end StudioMigration
