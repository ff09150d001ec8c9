import StudioMigration.Command.Request
import StudioMigration.Project
import StudioMigration.Proofs.Files.Workspace

/-!
# Running scripts

What the parts of a script do to a session. The first lemmas of this module are equations for `Script.exec`, one
for each way to make a script, so that a run is taken apart from its first step on. The search for a project is the
first script that is taken apart so: the folder comes from the command line or is the current directory, and the
project file from the names in the folder.

* `projectFile?_of_isFolder` and `exists_of_projectFile?` say when there is a project file.
* `exists_runs_projectRequest` and `runs_requireProject` say how the search runs.
-/

namespace StudioMigration

open Session

def Note.printed (note : Note) : List (Stream × String) :=
  [(note.stream, "\n" ++ note.consoleText), (note.stream, "\n")]

/-- The session after some notes were shown. -/
def Session.tell (session : Session) (notes : List Note) : Session :=
  { session with written := session.written ++ notes.flatMap Note.printed }

@[simp] theorem Session.tell_nil (session : Session) : session.tell [] = session := by
  simp [tell]

theorem Session.tell_tell (session : Session) (notes more : List Note) :
    (session.tell notes).tell more = session.tell (notes ++ more) := by
  simp [tell]

@[simp] theorem Session.workspace_tell (session : Session) (notes : List Note) :
    (session.tell notes).workspace = session.workspace := rfl

namespace Script

variable {fault : Fault} {edit : Workspace → Except Fault Workspace}

variable {α β : Type} (session : Session) {script : Script α} {after : Session} {value : α} {items : List α}

/-! ## Putting scripts together -/

@[simp] theorem exec_pure (value : α) : (pure value : Script α).exec session = (.ok value, session) := rfl

@[simp] theorem exec_throw (fault : Fault) :
    (throw fault : Script α).exec session = (.error fault, session) := rfl

theorem exec_bind (script : Script α) (next : α → Script β) :
    (script >>= next).exec session =
      match script.exec session with
      | (.ok value, after) => (next value).exec after
      | (.error fault, after) => (.error fault, after) := by
  simp only [exec, ExceptT.run, bind, ExceptT.bind, ExceptT.mk, StateT.bind]
  rcases script session with ⟨fault | value, after⟩ <;> rfl

theorem exec_bind_ok {session : Session} (h : script.exec session = (.ok value, after)) (next : α → Script β) :
    (script >>= next).exec session = (next value).exec after := by
  rw [exec_bind, h]

theorem exec_bind_error {session : Session} (h : script.exec session = (.error fault, after)) (next : α → Script β) :
    (script >>= next).exec session = (.error fault, after) := by
  rw [exec_bind, h]

/-- A run that succeeds has succeeded in both its parts. -/
theorem exec_bind_eq_ok {session : Session} {next : α → Script β} {value : β}
    (h : (script >>= next).exec session = (.ok value, after)) :
    ∃ first middle, script.exec session = (.ok first, middle) ∧ (next first).exec middle = (.ok value, after) := by
  rw [exec_bind] at h
  split at h
  · rename_i first middle hrun
    exact ⟨first, middle, hrun, h⟩
  · simp at h

theorem exec_tryCatch (script : Script α) (handler : Fault → Script α) :
    (tryCatch script handler).exec session =
      match script.exec session with
      | (.ok value, after) => (.ok value, after)
      | (.error fault, after) => (handler fault).exec after := by
  simp only [exec, ExceptT.run, tryCatch, tryCatchThe, MonadExceptOf.tryCatch, ExceptT.tryCatch,
    ExceptT.mk, bind, StateT.bind]
  rcases script session with ⟨fault | value, after⟩ <;> rfl

theorem exec_tryCatch_ok {session : Session} (h : script.exec session = (.ok value, after))
    (handler : Fault → Script α) : (tryCatch script handler).exec session = (.ok value, after) := by
  rw [exec_tryCatch, h]

theorem exec_tryCatch_error {session : Session} (h : script.exec session = (.error fault, after))
    (handler : Fault → Script α) : (tryCatch script handler).exec session = (handler fault).exec after := by
  rw [exec_tryCatch, h]

/-! ## Single steps -/

@[simp] theorem exec_get : (get : Script Session).exec session = (.ok session, session) := rfl

@[simp] theorem exec_modify (update : Session → Session) :
    (modify update : Script Unit).exec session = (.ok (), update session) := rfl

theorem exec_look (question : Workspace → Except Fault α) :
    (look question).exec session = (question session.workspace, session) := by
  unfold look
  rw [exec_bind_ok (exec_get session)]
  rcases question session.workspace with fault | value <;> rfl

theorem exec_look_bind_eq_ok {session : Session} {question : Workspace → Except Fault α} {next : α → Script β}
    {value : β} (h : (look question >>= next).exec session = (.ok value, after)) :
    ∃ answer, question session.workspace = .ok answer ∧ (next answer).exec session = (.ok value, after) := by
  obtain ⟨answer, middle, hlook, hrest⟩ := exec_bind_eq_ok h
  rw [exec_look, Prod.mk.injEq] at hlook
  obtain ⟨hanswer, rfl⟩ := hlook
  exact ⟨answer, hanswer, hrest⟩

theorem exec_change (edit : Workspace → Except Fault Workspace) :
    (change edit).exec session =
      match edit session.workspace with
      | .ok ws => (.ok (), { session with workspace := ws })
      | .error fault => (.error fault, session) := by
  unfold change
  rw [exec_bind_ok (exec_get session)]
  rcases edit session.workspace with fault | ws <;> rfl

theorem exec_change_eq_ok {session : Session} {done : Unit}
    (h : (change edit).exec session = (.ok done, after)) : edit session.workspace = .ok after.workspace := by
  rw [exec_change] at h
  split at h
  · rename_i ws hedit
    obtain ⟨-, rfl⟩ := Prod.mk.inj h
    exact hedit
  · simp at h

theorem exec_write (stream : Stream) (text : String) :
    (write stream text).exec session = (.ok (), { session with written := session.written ++ [(stream, text)] }) := rfl

@[simp] theorem exec_say (note : Note) : (say note).exec session = (.ok (), session.tell [note]) := by
  simp only [say, print, exec_bind_ok (exec_write session _ _), exec_write]
  simp [Session.tell, Note.printed]

@[simp] theorem exec_forM_say (notes : List Note) : (notes.forM say).exec session = (.ok (), session.tell notes) := by
  induction notes generalizing session with
  | nil => simp [List.forM]
  | cons note notes ih =>
    rw [List.forM, exec_bind_ok (exec_say session note), ih, tell_tell]
    rfl

/-! ## What a run may do to the workspace -/

/-- A relation that can be followed along a run. -/
structure Progress (R : Workspace → Workspace → Prop) : Prop where
  refl : ∀ ws, R ws ws
  trans : ∀ {ws ws' ws''}, R ws ws' → R ws' ws'' → R ws ws''

/-- Whatever becomes of a run, the workspace before it and the workspace after it are related. -/
def Within (R : Workspace → Workspace → Prop) (script : Script α) : Prop :=
  ∀ session, R session.workspace (script.exec session).2.workspace

/-- A property that goes over from the parts of a script to the script. -/
structure Closed (P : ∀ {α : Type}, Script α → Prop) : Prop where
  pure : ∀ {α : Type} (value : α), P (pure value : Script α)
  throw : ∀ {α : Type} (fault : Fault), P (throw fault : Script α)
  say : ∀ note, P (say note)
  bind : ∀ {α β : Type} {script : Script α} {next : α → Script β}, P script → (∀ value, P (next value)) →
    P (script >>= next)
  tryCatch : ∀ {α : Type} {script : Script α} {handler : Fault → Script α}, P script → (∀ fault, P (handler fault)) →
    P (tryCatch script handler)
  /-- The session may be asked for anything but its output. -/
  get_bind : ∀ {α : Type} {next : Session → Script α}, (∀ session, P (next session)) →
    (∀ session written, next { session with written := written } = next session) → P (get >>= next)

namespace Closed

variable {P : ∀ {α : Type}, Script α → Prop} (hP : Closed P)

include hP

theorem look (question : Workspace → Except Fault α) : P (look question) := by
  refine hP.get_bind (fun session => ?_) fun _ _ => rfl
  split
  · exact hP.pure _
  · exact hP.throw _

theorem forM {script : α → Script Unit} (h : ∀ item, P (script item)) : P (items.forM script) := by
  induction items with
  | nil => exact hP.pure ()
  | cons item items ih => exact hP.bind (h item) fun _ => ih

theorem makeDirectories (hmake : ∀ path : Path, P (change (·.makeDirectory path))) (path : Path) :
    P (makeDirectories path) := by
  have hone (path : Path) : P (makeDirectory path) := by
    refine hP.tryCatch (hmake path) fun fault => ?_
    -- what is done about a fault only looks at the workspace
    split
    · refine hP.bind (hP.look _) fun isDirectory => ?_
      split
      · exact hP.pure ()
      · exact hP.throw _
    · exact hP.throw _
  unfold Script.makeDirectories
  induction path.parts.reverse with
  | nil => exact hone _
  | cons last above ih =>
    refine hP.tryCatch (hone _) fun fault => ?_
    split
    · exact hP.bind ih fun _ => hone _
    · exact hP.throw _

end Closed

section Within

variable {R : Workspace → Workspace → Prop} (hR : Progress R)

include hR

theorem within_change (h : ∀ ws ws', edit ws = .ok ws' → R ws ws') : (change edit).Within R := by
  intro session
  rw [exec_change]
  split
  · rename_i ws hedit
    exact h _ _ hedit
  · exact hR.refl _

theorem Progress.closed : Closed (Within R) where
  pure _ _ := hR.refl _
  throw _ _ := hR.refl _
  say note session := by
    rw [exec_say]
    exact hR.refl _
  bind {_ _ script _} h hnext session := by
    have hfirst := h session
    rw [exec_bind]
    split
    · rename_i value after hexec
      rw [hexec] at hfirst
      exact hR.trans hfirst (hnext value after)
    · rename_i fault after hexec
      rw [hexec] at hfirst
      exact hfirst
  tryCatch {_ script _} h hhandler session := by
    have hfirst := h session
    rw [exec_tryCatch]
    split
    · rename_i value after hexec
      rw [hexec] at hfirst
      exact hfirst
    · rename_i fault after hexec
      rw [hexec] at hfirst
      exact hR.trans hfirst (hhandler fault after)
  get_bind h _ session := by
    rw [exec_bind_ok (exec_get session)]
    exact h session session

end Within

/-! ## Making directories -/

theorem progress_keeps : Progress Workspace.Keeps := ⟨Workspace.Keeps.refl, Workspace.Keeps.trans⟩

/-- Making directories takes nothing away. -/
theorem keeps_makeDirectories (path : Path) : (makeDirectories path).Within Workspace.Keeps :=
  progress_keeps.closed.makeDirectories
    (fun _ => within_change progress_keeps fun _ _ => Workspace.keeps_makeDirectory) path

/-! ## Runs that only depend on the workspace -/

/-- In every session with the first workspace the script ends in the given way and leaves the second. -/
def Runs (script : Script α) (ws : Workspace) (outcome : Except Fault α) (ws' : Workspace) : Prop :=
  ∀ session, session.workspace = ws → (script.exec session).1 = outcome ∧ (script.exec session).2.workspace = ws'

/-- In every session with the workspace the script ends in one way and leaves the workspace as it is. -/
def Quiet (script : Script α) (ws : Workspace) : Prop := ∃ outcome, script.Runs ws outcome ws

section Runs

variable {ws ws' ws'' : Workspace} {outcome : Except Fault α}

theorem Runs.workspace_eq {session : Session} {result : Except Fault α} (h : script.Runs session.workspace outcome ws')
    (hexec : script.exec session = (result, after)) : after.workspace = ws' := by
  have hafter := (h session rfl).2
  rwa [hexec] at hafter

theorem runs_pure (value : α) (ws : Workspace) : (pure value : Script α).Runs ws (.ok value) ws :=
  fun _ hws => ⟨rfl, hws⟩

theorem runs_throw (fault : Fault) (ws : Workspace) : (throw fault : Script α).Runs ws (.error fault) ws :=
  fun _ hws => ⟨rfl, hws⟩

theorem runs_look {question : Workspace → Except Fault α} (h : question ws = outcome) :
    (look question).Runs ws outcome ws := by
  intro session hws
  rw [exec_look]
  exact ⟨(congrArg question hws).trans h, hws⟩

theorem runs_change (h : edit ws = .ok ws') : (change edit).Runs ws (.ok ()) ws' := by
  intro session hws
  rw [exec_change, hws, h]
  exact ⟨rfl, rfl⟩

theorem runs_change_error (h : edit ws = .error fault) : (change edit).Runs ws (.error fault) ws := by
  intro session hws
  rw [exec_change, hws, h]
  exact ⟨rfl, hws⟩

theorem runs_write (stream : Stream) (text : String) (ws : Workspace) : (write stream text).Runs ws (.ok ()) ws :=
  fun _ hws => ⟨rfl, hws⟩

theorem runs_say (note : Note) (ws : Workspace) : (say note).Runs ws (.ok ()) ws := by
  intro session hws
  rw [exec_say]
  exact ⟨rfl, hws⟩

theorem runs_forM_say (notes : List Note) (ws : Workspace) : (notes.forM say).Runs ws (.ok ()) ws := by
  intro session hws
  rw [exec_forM_say]
  exact ⟨rfl, hws⟩

theorem Runs.exec_eq (h : script.Runs ws outcome ws') {session : Session} (hws : session.workspace = ws) :
    ∃ after, script.exec session = (outcome, after) ∧ after.workspace = ws' :=
  ⟨_, Prod.ext (h session hws).1 rfl, (h session hws).2⟩

theorem Runs.bind {next : α → Script β} {outcome : Except Fault β} (h : script.Runs ws (.ok value) ws')
    (hnext : (next value).Runs ws' outcome ws'') : (script >>= next).Runs ws outcome ws'' := by
  intro session hws
  obtain ⟨after, hexec, hafter⟩ := h.exec_eq hws
  rw [exec_bind_ok hexec]
  exact hnext after hafter

theorem Runs.bind_error (h : script.Runs ws (.error fault) ws') (next : α → Script β) :
    (script >>= next).Runs ws (.error fault) ws' := by
  intro session hws
  obtain ⟨after, hexec, hafter⟩ := h.exec_eq hws
  rw [exec_bind_error hexec]
  exact ⟨rfl, hafter⟩

theorem runs_look_bind {question : Workspace → Except Fault α} {next : α → Script β} {outcome : Except Fault β}
    (h : question ws = .ok value) (hnext : (next value).Runs ws outcome ws') :
    (look question >>= next).Runs ws outcome ws' := (runs_look h).bind hnext

theorem runs_look_bind_error {question : Workspace → Except Fault α} (h : question ws = .error fault)
    (next : α → Script β) : (look question >>= next).Runs ws (.error fault) ws := (runs_look h).bind_error next

theorem runs_get_bind {next : Session → Script β} {outcome : Except Fault β}
    (h : ∀ session, session.workspace = ws → (next session).Runs ws outcome ws') :
    (get >>= next : Script β).Runs ws outcome ws' := by
  intro session hws
  rw [exec_bind_ok (exec_get session)]
  exact h session hws session hws

theorem Runs.tryCatch (h : script.Runs ws (.ok value) ws') (handler : Fault → Script α) :
    (MonadExcept.tryCatch script handler).Runs ws (.ok value) ws' := by
  intro session hws
  obtain ⟨after, hexec, hafter⟩ := h.exec_eq hws
  rw [exec_tryCatch, hexec]
  exact ⟨rfl, hafter⟩

theorem Runs.tryCatch_error {handler : Fault → Script α} (h : script.Runs ws (.error fault) ws')
    (hhandler : (handler fault).Runs ws' outcome ws'') :
    (MonadExcept.tryCatch script handler).Runs ws outcome ws'' := by
  intro session hws
  obtain ⟨after, hexec, hafter⟩ := h.exec_eq hws
  rw [exec_tryCatch, hexec]
  exact hhandler after hafter

theorem Runs.exists_bind {next : α → Script β} (h : script.Runs ws outcome ws')
    (hnext : ∀ value, (next value).Quiet ws') : ∃ outcome', (script >>= next).Runs ws outcome' ws' := by
  cases outcome with
  | ok value =>
    obtain ⟨outcome', hlast⟩ := hnext value
    exact ⟨outcome', h.bind hlast⟩
  | error fault => exact ⟨.error fault, h.bind_error next⟩

theorem Quiet.bind {next : α → Script β} (h : script.Quiet ws) (hnext : ∀ value, (next value).Quiet ws) :
    (script >>= next).Quiet ws := by
  obtain ⟨outcome, hfirst⟩ := h
  exact hfirst.exists_bind hnext

theorem quiet_forM {script : α → Script Unit} (h : ∀ item ∈ items, (script item).Quiet ws) :
    (items.forM script).Quiet ws := by
  induction items with
  | nil => exact ⟨_, runs_pure () ws⟩
  | cons item items ih =>
    rw [List.forall_mem_cons] at h
    exact h.1.bind fun _ => ih h.2

theorem quiet_pure (value : α) (ws : Workspace) : (pure value : Script α).Quiet ws := ⟨_, runs_pure value ws⟩

theorem quiet_look (question : Workspace → Except Fault α) (ws : Workspace) : (look question).Quiet ws :=
  ⟨_, runs_look rfl⟩

theorem quiet_say (note : Note) (ws : Workspace) : (say note).Quiet ws := ⟨_, runs_say note ws⟩

end Runs

end Script

/-! ## Sessions with another workspace and more output -/

/-- The session with the workspace and the output that a run has left. -/
def Session.after (session : Session) (ws : Workspace) (written : List (Stream × String)) : Session :=
  { session with workspace := ws, written := written }

namespace Session

variable (session : Session) (ws ws' : Workspace) (written written' : List (Stream × String))

@[simp] theorem workspace_after : (session.after ws written).workspace = ws := rfl

@[simp] theorem written_after : (session.after ws written).written = written := rfl

@[simp] theorem installation_after : (session.after ws written).installation = session.installation := rfl

@[simp] theorem after_after : (session.after ws written).after ws' written' = session.after ws' written' := rfl

@[simp] theorem after_self : session.after session.workspace session.written = session := rfl

theorem tell_eq_after (notes : List Note) :
    session.tell notes = session.after session.workspace (session.written ++ notes.flatMap Note.printed) := rfl

theorem tell_after (notes : List Note) :
    (session.after ws session.written).tell notes = (session.tell notes).after ws (session.tell notes).written := rfl

end Session

/-! ## Runs without complaints -/

theorem Note.stream_info (text release : String) : (⟨text, "INFO", release⟩ : Note).stream = .out := by
  have hlevel : Level.ofWord "INFO" = .info := by decide
  simp [Note.stream, Note.level, hlevel]

theorem Note.stream_plain (text release : String) : (⟨text, "", release⟩ : Note).stream = .out := by
  have hlevel : Level.ofWord "" = .other := by decide
  simp [Note.stream, Note.level, hlevel]

theorem Note.stream_error (text release : String) : (⟨text, "ERROR", release⟩ : Note).stream = .err := by
  have hlevel : Level.ofWord "ERROR" = .error := by decide
  simp [Note.stream, Note.level, hlevel]

def Session.complaints (session : Session) : List (Stream × String) := session.written.filter (·.1 == .err)

theorem Session.complaints_tell (session : Session) (note : Note) :
    (session.tell [note]).complaints = session.complaints ++ if note.stream = .err then note.printed else [] := by
  cases hstream : note.stream <;> simp [complaints, tell, Note.printed, hstream]

namespace Script

variable {α β : Type}

/-- A script only changes the workspace and adds to the output, and what was written before makes no
difference to it. -/
def Steady (script : Script α) : Prop :=
  ∀ session : Session, ∃ outcome ws text, ∀ earlier,
    script.exec (session.after session.workspace earlier) = (outcome, session.after ws (earlier ++ text))

theorem steady_change (edit : Workspace → Except Fault Workspace) : (change edit).Steady := by
  intro session
  cases hedit : edit session.workspace with
  | ok ws => exact ⟨.ok (), ws, [], fun earlier => by simp [exec_change, hedit, after]⟩
  | error fault => exact ⟨.error fault, session.workspace, [], fun earlier => by simp [exec_change, hedit]⟩

theorem steady_write (stream : Stream) (text : String) : (write stream text).Steady :=
  fun session => ⟨.ok (), session.workspace, [(stream, text)], fun _ => rfl⟩

theorem steady : Closed Steady where
  pure value session := ⟨.ok value, session.workspace, [], fun earlier => by simp⟩
  throw fault session := ⟨.error fault, session.workspace, [], fun earlier => by simp⟩
  say note session := ⟨.ok (), session.workspace, note.printed, fun earlier => by simp [tell_eq_after]⟩
  bind {_ _ script next} h hnext session := by
    obtain ⟨outcome, ws, text, hfirst⟩ := h session
    cases outcome with
    | error fault => exact ⟨.error fault, ws, text, fun earlier => exec_bind_error (hfirst earlier) next⟩
    | ok value =>
      obtain ⟨outcome, ws', more, hrest⟩ := hnext value (session.after ws session.written)
      refine ⟨outcome, ws', text ++ more, fun earlier => ?_⟩
      rw [exec_bind_ok (hfirst earlier), ← List.append_assoc]
      exact hrest (earlier ++ text)
  tryCatch {_ script handler} h hhandler session := by
    obtain ⟨outcome, ws, text, hfirst⟩ := h session
    cases outcome with
    | ok value => exact ⟨.ok value, ws, text, fun earlier => by rw [exec_tryCatch, hfirst]⟩
    | error fault =>
      obtain ⟨outcome, ws', more, hrest⟩ := hhandler fault (session.after ws session.written)
      refine ⟨outcome, ws', text ++ more, fun earlier => ?_⟩
      rw [exec_tryCatch, hfirst, ← List.append_assoc]
      exact hrest (earlier ++ text)
  get_bind {_ next} h hblind session := by
    obtain ⟨outcome, ws, text, hrest⟩ := h session session
    refine ⟨outcome, ws, text, fun earlier => ?_⟩
    rw [exec_bind_ok (exec_get _), after, hblind]
    exact hrest earlier

/-- Whatever becomes of such a run, it takes no complaint back. -/
theorem Steady.complaints_grow {script : Script α} (h : script.Steady) (session : Session) :
    session.complaints <+: (script.exec session).2.complaints := by
  obtain ⟨outcome, ws, text, hexec⟩ := h session
  have hrun := hexec session.written
  rw [after_self] at hrun
  rw [hrun]
  exact (List.prefix_append session.written text).filter _

/-- A run that succeeds and does not complain. -/
structure Calm (script : Script α) (session : Session) (value : α) (after : Session) : Prop where
  exec_eq : script.exec session = (.ok value, after)
  complaints_eq : after.complaints = session.complaints

section Calm

variable {session after : Session} {value : β}

theorem calm_of_exec {script : Script α} {value : α} (hvalue : (script.exec session).1 = .ok value)
    (hcomplaints : (script.exec session).2.complaints = session.complaints) :
    script.Calm session value (script.exec session).2 :=
  ⟨Prod.ext hvalue rfl, hcomplaints⟩

/-- The parts of a run that does not complain do not complain either. -/
theorem Calm.exists_of_bind {script : Script α} {next : α → Script β} (h : (script >>= next).Calm session value after)
    (hscript : script.Steady) (hnext : ∀ first, (next first).Steady) :
    ∃ first middle, script.Calm session first middle ∧ (next first).Calm middle value after := by
  obtain ⟨first, middle, hrun, hrest⟩ := exec_bind_eq_ok h.exec_eq
  have hfirst := hscript.complaints_grow session
  have hlast := (hnext first).complaints_grow middle
  rw [hrun] at hfirst
  rw [hrest] at hlast
  -- no complaint can have been added and taken back
  have hmiddle : middle.complaints = session.complaints := by
    refine (hfirst.eq_of_length_le ?_).symm
    rw [← h.complaints_eq]
    exact hlast.length_le
  exact ⟨first, middle, ⟨hrun, hmiddle⟩, ⟨hrest, h.complaints_eq.trans hmiddle.symm⟩⟩

/-- A look comes before what is done with its answer. -/
theorem Calm.of_look_bind {question : Workspace → Except Fault α} {next : α → Script β}
    (h : (look question >>= next).Calm session value after) :
    ∃ answer, question session.workspace = .ok answer ∧ (next answer).Calm session value after := by
  obtain ⟨answer, hanswer, hrest⟩ := exec_look_bind_eq_ok h.exec_eq
  exact ⟨answer, hanswer, hrest, h.complaints_eq⟩

theorem Calm.of_get_bind {next : Session → Script β} (h : (get >>= next : Script β).Calm session value after) :
    (next session).Calm session value after := by
  have hexec := h.exec_eq
  rw [exec_bind_ok (exec_get session)] at hexec
  exact ⟨hexec, h.complaints_eq⟩

/-- A note that is no complaint comes before what is done next. -/
theorem Calm.of_say_bind {note : Note} {next : Unit → Script β} (hnote : note.stream = .out)
    (h : (say note >>= next).Calm session value after) :
    ∃ middle, middle.workspace = session.workspace ∧ (next ()).Calm middle value after := by
  have hexec := h.exec_eq
  rw [exec_bind_ok (exec_say session note)] at hexec
  refine ⟨session.tell [note], rfl, hexec, ?_⟩
  rw [h.complaints_eq, complaints_tell, hnote, if_neg (by decide), List.append_nil]

theorem not_calm_say {note : Note} (hnote : note.stream = .err) : ¬(say note).Calm session () after := by
  intro h
  have hexec := h.exec_eq
  rw [exec_say, Prod.mk.injEq] at hexec
  have hcomplaints := h.complaints_eq
  rw [← hexec.2, complaints_tell, if_pos hnote] at hcomplaints
  exact absurd (congrArg List.length hcomplaints) (by simp [Note.printed])

/-- Where a fault would be told of, there was none. -/
theorem Calm.of_tryCatch_say {script : Script α} {note : Fault → Note} {fallback : α} {value : α}
    (h : (MonadExcept.tryCatch script fun fault => do say (note fault); pure fallback).Calm session value after)
    (hscript : script.Steady) (hnote : ∀ fault, (note fault).stream = .err) : script.Calm session value after := by
  have hexec := h.exec_eq
  rw [exec_tryCatch] at hexec
  have hfirst := hscript.complaints_grow session
  split at hexec
  · rename_i first middle hrun
    rw [hexec] at hrun
    exact ⟨hrun, h.complaints_eq⟩
  · rename_i fault middle hrun
    rw [exec_bind_ok (exec_say middle (note fault)), exec_pure, Prod.mk.injEq] at hexec
    rw [hrun] at hfirst
    have hcomplaints := h.complaints_eq
    rw [← hexec.2, complaints_tell, if_pos (hnote fault)] at hcomplaints
    have hlength := hfirst.length_le
    rw [← hcomplaints] at hlength
    exact absurd hlength (by simp [Note.printed])

end Calm

end Script

section Project

open Script

variable {file caller folder : String} {session after : Session} {loc : Location} {line : List String}

/-! ## The project file -/

section ProjectFile

variable {ws : Workspace} {folder : Path}

theorem projectFile?_of_isFolder (h : ws.IsFolder folder loc) :
    projectFile? ws folder = .ok (((ws.tree.children loc).map (·.1)).find? isProjectName) := by
  simp [projectFile?, h.isDirectory_eq, h.list]

theorem exists_of_projectFile? (h : projectFile? ws folder = .ok (some file)) :
    ∃ loc, ws.IsFolder folder loc ∧
      ((ws.tree.children loc).map (·.1)).find? isProjectName = some file := by
  rcases hdir : ws.isDirectory folder with fault | (_ | _)
  · simp [projectFile?, hdir] at h
  · simp [projectFile?, hdir] at h
  · obtain ⟨loc, hfolder⟩ := Workspace.exists_isFolder_of_isDirectory hdir
    rw [projectFile?_of_isFolder hfolder] at h
    exact ⟨loc, hfolder, Except.ok.inj h⟩

theorem exists_get?_of_find? (h : ((ws.tree.children loc).map (·.1)).find? isProjectName = some file) :
    ∃ entry, ws.tree.get? (loc ++ [file]) = some entry := by
  obtain ⟨⟨name, entry⟩, hmem, rfl⟩ := List.mem_map.1 (List.mem_of_find?_eq_some h)
  exact ⟨entry, (Tree.mem_children_iff _ _).1 hmem⟩

end ProjectFile

/-! ## The search -/

/-- What becomes of a command line does not depend on the workspace. -/
theorem Command.exists_runs_require (command : Command) (line : List String) :
    ∃ outcome, ∀ ws, (command.require line).Runs ws outcome ws := by
  unfold Command.require
  cases command.read line with
  | error flaw =>
    refine ⟨.error (.exit 2), fun ws => ?_⟩
    exact (runs_write _ _ ws).bind ((runs_write _ _ ws).bind (runs_throw _ ws))
  | ok arguments =>
    simp only []
    split
    · refine ⟨.error (.exit 0), fun ws => ?_⟩
      exact (runs_write _ _ ws).bind (runs_throw _ ws)
    · exact ⟨.ok arguments, runs_pure arguments⟩

/-- The answer to a command line only depends on the current directory. -/
theorem exists_runs_projectRequest (caller purpose : String) (line : List String) (here : Location) :
    ∃ outcome, ∀ ws : Workspace, ws.here = here → (projectRequest caller purpose line).Runs ws outcome ws := by
  obtain ⟨outcome, hrequire⟩ := (projectCommand caller purpose).exists_runs_require line
  cases outcome with
  | error fault => exact ⟨.error fault, fun ws _ => (hrequire ws).bind_error _⟩
  | ok arguments =>
    cases hoperand : arguments.operand with
    | some project =>
      refine ⟨.ok (project, arguments.has "-v"), fun ws _ => (hrequire ws).bind ?_⟩
      rw [hoperand]
      exact runs_pure _ ws
    | none =>
      refine ⟨.ok ((⟨.top, here⟩ : Path).render, arguments.has "-v"), fun ws hws => (hrequire ws).bind ?_⟩
      rw [hoperand]
      refine runs_get_bind fun session hsession => ?_
      have hcurrent : session.workspace.current = ⟨.top, here⟩ := by
        rw [hsession, Workspace.current, hws]
      rw [hcurrent]
      exact runs_pure _ ws

theorem runs_requireProject {ws : Workspace} (hfolder : ws.IsFolder (Path.ofString folder) loc)
    (hfile : ((ws.tree.children loc).map (·.1)).find? isProjectName = some file) (caller : String) :
    (requireProject caller folder).Runs ws (.ok file) ws := by
  have hholds : ws.holds (Path.ofString folder) = .ok true := by
    simp [Workspace.holds, Workspace.status_of_locate hfolder.located, hfolder.isDirectory]
  unfold requireProject
  refine runs_look_bind hholds ?_
  simp only [if_true]
  refine runs_look_bind ((projectFile?_of_isFolder hfolder).trans (congrArg _ hfile)) ?_
  exact runs_pure file ws

/-- The search for a project file fails if there is none. -/
theorem requireProject_cases (ws : Workspace) (caller folder : String) :
    (∃ fault, (requireProject caller folder).Runs ws (.error fault) ws) ∨
      ∃ loc file, ws.IsFolder (Path.ofString folder) loc ∧
        ((ws.tree.children loc).map (·.1)).find? isProjectName = some file := by
  rcases hholds : ws.holds (Path.ofString folder) with fault | (_ | _)
  · refine .inl ⟨fault, runs_look_bind_error ?_ _⟩
    exact hholds
  · refine .inl ⟨.exit 1, ?_⟩
    refine runs_look_bind hholds ?_
    exact (runs_say _ ws).bind (runs_throw _ ws)
  · rcases hfile : projectFile? ws (Path.ofString folder) with fault | (_ | file)
    · refine .inl ⟨fault, ?_⟩
      refine runs_look_bind hholds ?_
      refine runs_look_bind_error ?_ _
      exact hfile
    · refine .inl ⟨.exit 1, ?_⟩
      refine runs_look_bind hholds ?_
      refine runs_look_bind hfile ?_
      exact (runs_say _ ws).bind (runs_throw _ ws)
    · obtain ⟨loc, hfound⟩ := exists_of_projectFile? hfile
      exact .inr ⟨loc, file, hfound⟩

/-! ## Searches that succeed -/

theorem exists_of_requireProject (h : ((requireProject caller folder).exec session).1 = .ok file) :
    ∃ loc, session.workspace.IsFolder (Path.ofString folder) loc ∧
      ((session.workspace.tree.children loc).map (·.1)).find? isProjectName = some file := by
  rcases requireProject_cases session.workspace caller folder with ⟨fault, hrun⟩ | ⟨loc, other, hfolder, hother⟩
  · rw [(hrun session rfl).1] at h
    simp at h
  · rw [(runs_requireProject hfolder hother caller session rfl).1] at h
    obtain rfl := Except.ok.inj h
    exact ⟨loc, hfolder, hother⟩

theorem Command.eq_of_require {command : Command} {arguments : Arguments}
    (h : (command.require line).exec session = (.ok arguments, after)) : after = session := by
  unfold Command.require at h
  split at h
  · -- a flawed line ends the run
    obtain ⟨done, first, -, h⟩ := exec_bind_eq_ok h
    obtain ⟨done, second, -, h⟩ := exec_bind_eq_ok h
    simp at h
  · split at h
    · obtain ⟨done, first, -, h⟩ := exec_bind_eq_ok h
      simp at h
    · exact (Prod.mk.inj h).2.symm

/-- A command line that is accepted leaves the session as it is. -/
theorem eq_of_projectRequest {purpose : String} {req : String × Bool}
    (h : (projectRequest caller purpose line).exec session = (.ok req, after)) : after = session := by
  obtain ⟨arguments, middle, hrequire, hrest⟩ := exec_bind_eq_ok h
  obtain rfl := Command.eq_of_require hrequire
  split at hrest
  · exact (Prod.mk.inj hrest).2.symm
  · exact (Prod.mk.inj hrest).2.symm

theorem eq_of_requireProject (h : (requireProject caller folder).exec session = (.ok file, after)) :
    after = session := by
  unfold requireProject at h
  obtain ⟨isThere, -, h⟩ := exec_look_bind_eq_ok h
  split at h
  · obtain ⟨found, -, h⟩ := exec_look_bind_eq_ok h
    split at h
    · exact (Prod.mk.inj h).2.symm
    · obtain ⟨done, middle, -, h⟩ := exec_bind_eq_ok h
      simp at h
  · obtain ⟨done, middle, -, h⟩ := exec_bind_eq_ok h
    simp at h

/-- The search finds the file again in every session with the workspace. -/
theorem exec_requireProject_found {ws : Workspace} (hfolder : ws.IsFolder (Path.ofString folder) loc)
    (hfile : ((ws.tree.children loc).map (·.1)).find? isProjectName = some file) (hws : session.workspace = ws) :
    (requireProject caller folder).exec session = (.ok file, session) := by
  have hvalue := (runs_requireProject hfolder hfile caller session hws).1
  rcases hexec : (requireProject caller folder).exec session with ⟨outcome, after⟩
  rw [hexec] at hvalue
  obtain rfl : outcome = .ok file := hvalue
  rw [eq_of_requireProject hexec]

end Project

end StudioMigration
