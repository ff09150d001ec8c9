import StudioMigration.Launcher.Window

/-!
# The small window about the program

It tells the version and what the program is, and opens in the middle of the main window.
-/

namespace StudioMigration

structure WindowPlace where
  x : Int
  y : Int
  width : Int
  height : Int
  deriving DecidableEq, Repr

def WindowPlace.initial : WindowPlace := ⟨0, 0, 1500, 900⟩

def aboutWidth : Nat := 720

def aboutHeight : Nat := 360

/-- The corner of the small window, which has the middle of the main window as its own. -/
def WindowPlace.aboutCorner (place : WindowPlace) : Int × Int :=
  (place.x + place.width.fdiv 2 - (aboutWidth / 2 : Nat),
    place.y + place.height.fdiv 2 - (aboutHeight / 2 : Nat))

def aboutText : String :=
  "Open-source tools for analyzing and migrating B&R Automation Studio 4 (AS4) projects to " ++
    "Automation Studio 6 (AS6).\n\n" ++
    "Detects obsolete libraries, unsupported hardware, deprecated functions – and includes helper " ++
    "scripts for automatic code conversion.\n\n" ++
    "🔶 Disclaimer: This project is unofficial and not provided or endorsed by B&R Industrial " ++
    "Automation.\n" ++
    "It is offered as an open-source tool, with no warranty or guarantees.\n" ++
    "Use at your own risk — contributions and improvements are very welcome!"

def Launch.showAbout (place : WindowPlace) : Launch Unit := do
  let isLight := (← Launch.window).theme.mode == "Light"
  let background := if isLight then "#f0f0f0" else "#2a2d2e"
  let foreground := if isLight then "#000000" else "#ffffff"
  let (x, y) := place.aboutCorner
  let version ← Launch.version
  Launch.perform do
    Script.record (.popupTitle "About")
    Script.record (.popupBackground background)
    Script.record (.popupGeometry s!"{aboutWidth}x{aboutHeight}")
    Script.record (.popupGeometry s!"+{x}+{y}")
    Script.record (.label s!"Version: {version}" background foreground)
    Script.record (.label aboutText background foreground)

end StudioMigration
