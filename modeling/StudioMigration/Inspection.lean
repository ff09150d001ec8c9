import StudioMigration.Files.Workspace
import StudioMigration.Journal.Note

/-!
# Inspections

An inspection is a check as a piece of data: it makes notes and looks at the workspace, in turns, and
ends with a value or a fault. It cannot change anything. What becomes of the notes is up to whoever
conducts it; since notes may be written to a file that a later look can see, a look gives the workspace
of that moment.

* `Inspection.report` conducts an inspection of a workspace that stays as it is.
-/

namespace StudioMigration

/-- A check as a piece of data. -/
inductive Inspection (α : Type) : Type where
  | done (value : α)
  | failed (fault : Fault)
  /-- Makes a note and goes on. -/
  | note (entry : Note) (next : Inspection α)
  /-- Looks at the workspace and goes on. -/
  | look (next : Workspace → Inspection α)

namespace Inspection

def bind {α β : Type} : Inspection α → (α → Inspection β) → Inspection β
  | .done value, rest => rest value
  | .failed fault, _ => .failed fault
  | .note entry next, rest => .note entry (next.bind rest)
  | .look next, rest => .look fun ws => (next ws).bind rest

def recover {α : Type} : Inspection α → (Fault → Inspection α) → Inspection α
  | .done value, _ => .done value
  | .failed fault, handler => handler fault
  | .note entry next, handler => .note entry (next.recover handler)
  | .look next, handler => .look fun ws => (next ws).recover handler

instance : Monad Inspection where
  pure := .done
  bind := bind

instance : MonadExceptOf Fault Inspection where
  throw := .failed
  tryCatch := recover

def say (entry : Note) : Inspection Unit := .note entry (.done ())

def ask {α : Type} (question : Workspace → Except Fault α) : Inspection α :=
  .look fun ws =>
    match question ws with
    | .ok value => .done value
    | .error fault => .failed fault

def sayAll (entries : List Note) : Inspection Unit := entries.forM say

def sayIf (condition : Bool) (entry : Note) : Inspection Unit :=
  if condition then say entry else pure ()

/-- The notes and the end of an inspection of a workspace that stays as it is. -/
def report {α : Type} (ws : Workspace) : Inspection α → List Note × Except Fault α
  | .done value => ([], .ok value)
  | .failed fault => ([], .error fault)
  | .note entry next =>
    let (entries, result) := next.report ws
    (entry :: entries, result)
  | .look next => (next ws).report ws

/-! ## Laws -/

@[simp] theorem report_done {α : Type} (ws : Workspace) (value : α) :
    (done value).report ws = ([], .ok value) := rfl

@[simp] theorem report_failed {α : Type} (ws : Workspace) (fault : Fault) :
    (failed fault : Inspection α).report ws = ([], .error fault) := rfl

@[simp] theorem report_look {α : Type} (ws : Workspace) (next : Workspace → Inspection α) :
    (look next).report ws = (next ws).report ws := rfl

/-- The report of two inspections in a row: the notes of the second follow those of the first. -/
theorem report_bind {α β : Type} (ws : Workspace) (first : Inspection α) (rest : α → Inspection β) :
    (first.bind rest).report ws =
      match (first.report ws).2 with
      | .ok value =>
        ((first.report ws).1 ++ ((rest value).report ws).1, ((rest value).report ws).2)
      | .error fault => ((first.report ws).1, .error fault) := by
  induction first with
  | done value => simp [bind]
  | failed fault => simp [bind]
  | note entry next ih =>
    simp only [bind, report, ih]
    cases (next.report ws).2 <;> simp
  | look next ih => simp only [bind, report, ih]

end Inspection

end StudioMigration
