import StudioMigration.Launcher.Mail
import StudioMigration.Launcher.Worker

/-!
# Buttons

The buttons of the launcher, by the texts on them, and what pressing one does.
-/

namespace StudioMigration

inductive Button where
  | programPage
  | browse
  | run
  | save
  deriving DecidableEq, Repr

def Button.label : Button → String
  | .programPage => "Open GitHub"
  | .browse => "Browse"
  | .run => "Run"
  | .save => "Save as HTML"

def Button.ofLabel? (label : String) : Option Button :=
  [Button.programPage, .browse, .run, .save].find? fun button => button.label == label

def Launch.press : Button → Launch Unit
  | .programPage => Launch.openProgramPage
  | .browse => Launch.browse
  | .run => Launch.start
  | .save => Launch.saveReport

end StudioMigration
