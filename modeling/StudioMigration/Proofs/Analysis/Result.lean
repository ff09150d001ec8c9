import StudioMigration.Analysis.Run
import StudioMigration.Proofs.Files.Name
import StudioMigration.Proofs.Inspection
import StudioMigration.Proofs.Session

/-!
# The result file of an analysis

An analysis writes each of its notes to the terminal and to the result file before the next check looks at the
workspace. Conducting the checks is therefore not the same as reporting on a workspace that stays as it is.

* `Workspace.Rewrites` relates two workspaces that differ at most in the content of one named file; emptying
  that file leads from both to the same workspace (`Workspace.Rewrites.truncate_eq`).
* `Script.exec_conduct` says that conducting an inspection amounts to its report along the way.
* `exec_conduct_keepNote` is the case of a result file that can be written.
* `exec_runAnalysis` and `exec_analyse` take a run apart up to the checks.
-/

namespace StudioMigration

open Script
open Text.Utf8 (Bytes encodeString)

variable {name file : String} {loc : Location} {req : AnalysisRequest} {session : Session} {ws : Workspace}

/-! ## Putting an entry twice -/

theorem putEntry_putEntry (loc : Location) (entry other : Entry) (entries : List (Location × Entry)) :
    putEntry loc other (putEntry loc entry entries) = putEntry loc other entries := by
  induction entries with
  | nil => simp [putEntry]
  | cons x rest ih =>
    by_cases hsame : x.1 = loc
    · simp [putEntry, hsame]
    · by_cases hbefore : walkBefore loc x.1
      · simp [putEntry, hsame, hbefore]
      · simp [putEntry, hsame, hbefore, ih]

/-- Only the last of two entries put at the same location counts. -/
theorem Tree.insert_insert (tree : Tree) (loc : Location) (entry other : Entry) :
    (tree.insert loc entry).insert loc other = tree.insert loc other := by
  simp only [Tree.insert, putEntry_putEntry]

namespace Workspace

variable {ws' ws'' : Workspace}

theorem put_put (ws : Workspace) (loc : Location) (entry other : Entry) :
    (ws.put loc entry).put loc other = ws.put loc other := by
  simp only [put, Tree.insert_insert]

/-! ## Files that can be written -/

/-- Steps lead to the same place as long as the directories are still there. -/
theorem reach_mono (hhere : ws'.here = ws.here) (hkept : Tree.KeepsDirectories ws.tree ws'.tree) {shown : String}
    {anchor : Anchor} {steps : List String} (h : ws.reach shown anchor steps = .ok loc) :
    ws'.reach shown anchor steps = .ok loc := by
  have hstart : ws'.start anchor = ws.start anchor := by simp [start, hhere]
  unfold reach at h ⊢
  split at h
  · simp at h
  · rename_i hnull
    rw [if_neg hnull]
    split at h
    · simp at h
    · rename_i hshort
      rw [if_neg hshort]
      cases hfollow : ws.tree.follow (ws.start anchor) steps with
      | error obstacle => simp [hfollow] at h
      | ok reached =>
        rw [hfollow] at h
        rw [hstart, Tree.follow_mono hkept hfollow]
        exact h

/-- A name can be written if it does not end in a slash and leads to no directory. -/
theorem writableNamed_eq_ok_iff {isFull : Bool} :
    ws.writableNamed name = .ok (loc, isFull) ↔
      name.toList.getLast? ≠ some '/' ∧ ws.locateNamed name = .ok loc ∧
        ws.writableAt name loc = .ok isFull := by
  unfold writableNamed
  split
  · rename_i hslash
    rw [beq_iff_eq] at hslash
    simp [hslash, bind_eq_ok_iff]
  · rename_i hslash
    rw [beq_iff_eq] at hslash
    simp [hslash, bind_eq_ok_iff]

theorem get?_of_writableAt (h : ws.writableAt name loc = .ok false) :
    ws.tree.get? loc = none ∨ ∃ bytes, ws.tree.get? loc = some (.file bytes) := by
  unfold writableAt at h
  split at h
  · simp at h
  · simp at h
  · rename_i bytes hget
    exact .inr ⟨bytes, hget⟩
  · rename_i hget
    exact .inl hget

theorem ne_nil_of_writableAt (h : ws.writableAt name loc = .ok false) : loc ≠ [] := by
  rintro rfl
  rcases get?_of_writableAt h with hget | ⟨bytes, hget⟩ <;> simp at hget

theorem keepsDirectories_of_writableAt (h : ws.writableAt name loc = .ok false) (bytes : Bytes) :
    Tree.KeepsDirectories ws.tree (ws.put loc (.file bytes)).tree := by
  refine keepsDirectories_put (ne_nil_of_writableAt h) fun hplace => ?_
  rcases get?_of_writableAt h with hget | ⟨old, hget⟩ <;> simp [hget] at hplace

/-- A file that can be written can be written again. -/
theorem writableNamed_put (h : ws.writableNamed name = .ok (loc, false)) (bytes : Bytes) :
    (ws.put loc (.file bytes)).writableNamed name = .ok (loc, false) := by
  obtain ⟨hslash, hlocate, hwritable⟩ := writableNamed_eq_ok_iff.1 h
  refine writableNamed_eq_ok_iff.2 ⟨hslash, ?_, ?_⟩
  · unfold locateNamed at hlocate ⊢
    split at hlocate
    · simp at hlocate
    · rename_i hfull
      have hhere : (ws.put loc (.file bytes)).here = ws.here := rfl
      rw [if_neg hfull]
      exact reach_mono hhere (keepsDirectories_of_writableAt hwritable bytes) hlocate
  · rw [writableAt, get?_put ws (ne_nil_of_writableAt hwritable), if_pos rfl]

theorem truncate_of_writable (h : ws.writableNamed name = .ok (loc, false)) :
    ws.truncate name = .ok (ws.put loc (.file [])) := by
  simp [truncate, h]

/-- What a file that stands at a location holds. -/
def contentAt (ws : Workspace) (loc : Location) : Bytes :=
  match ws.tree.get? loc with
  | some (.file bytes) => bytes
  | _ => []

theorem append_of_writable (h : ws.writableNamed name = .ok (loc, false)) (bytes : Bytes) :
    ws.append name bytes = .ok (ws.put loc (.file (ws.contentAt loc ++ bytes))) := by
  have hwritable := (writableNamed_eq_ok_iff.1 h).2.2
  rcases get?_of_writableAt hwritable with hget | ⟨old, hget⟩
  · simp [append, h, contentAt, hget]
  · simp [append, h, contentAt, hget]

/-! ## Workspaces that differ in one file -/

/-- From one workspace to another at most the content of the file with a name changes. -/
def Rewrites (name : String) (ws ws' : Workspace) : Prop :=
  ws' = ws ∨ ∃ loc bytes, ws.writableNamed name = .ok (loc, false) ∧ ws' = ws.put loc (.file bytes)

theorem Rewrites.trans (h : Rewrites name ws ws') (h' : Rewrites name ws' ws'') : Rewrites name ws ws'' := by
  rcases h with rfl | ⟨loc, bytes, hwritable, rfl⟩
  · exact h'
  · rcases h' with rfl | ⟨place, more, hagain, rfl⟩
    · exact .inr ⟨loc, bytes, hwritable, rfl⟩
    · -- the name still leads to the same place
      rw [writableNamed_put hwritable] at hagain
      obtain ⟨rfl, -⟩ := Prod.mk.inj (Except.ok.inj hagain)
      exact .inr ⟨loc, more, hwritable, put_put ws loc _ _⟩

theorem rewrites_truncate (h : ws.truncate name = .ok ws') : Rewrites name ws ws' := by
  obtain ⟨⟨loc, isFull⟩, hwritable, h⟩ := bind_eq_ok_iff.1 h
  cases isFull with
  | true => simp_all [Rewrites]
  | false => exact .inr ⟨loc, [], hwritable, (Except.ok.inj h).symm⟩

theorem rewrites_append {bytes : Bytes} (h : ws.append name bytes = .ok ws') : Rewrites name ws ws' := by
  obtain ⟨⟨loc, isFull⟩, hwritable, hrest⟩ := bind_eq_ok_iff.1 h
  cases isFull with
  | true =>
    -- a full device takes nothing
    simp only [if_true] at hrest
    split at hrest
    · exact .inl (Except.ok.inj hrest).symm
    · simp at hrest
  | false =>
    rw [append_of_writable hwritable] at h
    exact .inr ⟨loc, _, hwritable, (Except.ok.inj h).symm⟩

/-- Emptying the file leads from both workspaces to the same one. -/
theorem Rewrites.truncate_eq (h : Rewrites name ws ws') : ws'.truncate name = ws.truncate name := by
  rcases h with rfl | ⟨loc, bytes, hwritable, rfl⟩
  · rfl
  · rw [truncate_of_writable hwritable, truncate_of_writable (writableNamed_put hwritable bytes), put_put]

end Workspace

/-! ## Conducting an inspection -/

namespace Script

variable {α : Type}

theorem conduct_note (keep : Note → Script Unit) (entry : Note) (next : Inspection α) :
    conduct keep (.note entry next) = keep entry >>= fun _ => conduct keep next := rfl

theorem conduct_look (keep : Note → Script Unit) (next : Workspace → Inspection α) :
    conduct keep (.look next) = get >>= fun session => conduct keep (next session.workspace) := rfl

theorem Closed.conduct {P : ∀ {α : Type}, Script α → Prop} (hP : Closed P) {keep : Note → Script Unit}
    (hkeep : ∀ note, P (keep note)) (inspection : Inspection α) : P (conduct keep inspection) := by
  induction inspection with
  | done value => exact hP.pure value
  | failed fault => exact hP.throw fault
  | note entry next ih => exact hP.bind (hkeep entry) fun _ => ih
  | look next ih => exact hP.get_bind (fun session => ih session.workspace) fun _ _ => rfl

/-- Conducting an inspection, while notes are kept without a fault, amounts to its report along the way. -/
theorem exec_conduct {keep : Note → Script Unit} {record : Workspace → Note → Workspace} {P : Workspace → Prop}
    (hkeep : ∀ session note, P session.workspace →
      (keep note).exec session =
        (.ok (), session.after (record session.workspace note) (session.written ++ note.printed)))
    (hrecord : ∀ ws note, P ws → P (record ws note)) (inspection : Inspection α) (session : Session)
    (h : P session.workspace) :
    (conduct keep inspection).exec session =
      ((inspection.reportAlong record session.workspace).2,
        session.after ((inspection.reportAlong record session.workspace).1.foldl record session.workspace)
          (session.written ++ (inspection.reportAlong record session.workspace).1.flatMap Note.printed)) := by
  induction inspection generalizing session with
  | done value => simp [conduct, Inspection.reportAlong]
  | failed fault => simp [conduct, Inspection.reportAlong]
  | note entry next ih =>
    rw [conduct_note, exec_bind_ok (hkeep session entry h), ih _ (hrecord _ entry h)]
    simp [Inspection.reportAlong]
  | look next ih =>
    rw [conduct_look, exec_bind_ok (exec_get session), ih _ session h]
    rfl

end Script

/-! ## Notes in the result file -/

def Note.recordBytes (note : Note) : Bytes := encodeString (note.fileText ++ "\n")

/-- The workspace after a note was added to the file at a location. -/
def recordAt (loc : Location) (ws : Workspace) (note : Note) : Workspace :=
  ws.put loc (.file (ws.contentAt loc ++ note.recordBytes))

/-- A note is added to a result file that can be written. -/
theorem exec_keepNote (h : session.workspace.writableNamed name = .ok (loc, false)) (note : Note) :
    (keepNote (some name) note).exec session =
      (.ok (), session.after (recordAt loc session.workspace note) (session.written ++ note.printed)) := by
  unfold keepNote
  rw [exec_bind_ok (exec_say session note)]
  simp only [exec_change, Session.workspace_tell, Workspace.append_of_writable h]
  rfl

/-- Conducting an inspection with a result file that can be written. -/
theorem exec_conduct_keepNote {α : Type} (h : session.workspace.writableNamed name = .ok (loc, false))
    (inspection : Inspection α) :
    (conduct (keepNote (some name)) inspection).exec session =
      ((inspection.reportAlong (recordAt loc) session.workspace).2,
        session.after ((inspection.reportAlong (recordAt loc) session.workspace).1.foldl (recordAt loc)
          session.workspace) (session.written ++
            (inspection.reportAlong (recordAt loc) session.workspace).1.flatMap Note.printed)) := by
  apply exec_conduct (P := fun ws => ws.writableNamed name = .ok (loc, false))
  · exact fun session note hwritable => exec_keepNote hwritable note
  · exact fun ws note hwritable => Workspace.writableNamed_put hwritable _
  · exact h

theorem writableNamed_foldl_recordAt (h : ws.writableNamed name = .ok (loc, false)) (notes : List Note) :
    (notes.foldl (recordAt loc) ws).writableNamed name = .ok (loc, false) := by
  induction notes generalizing ws with
  | nil => exact h
  | cons note notes ih => exact ih (Workspace.writableNamed_put h _)

/-- The result file holds its notes in their order, and nothing else has changed. -/
theorem get?_foldl_recordAt (hne : loc ≠ []) (notes : List Note) {old : Bytes}
    (h : ws.tree.get? loc = some (.file old)) (place : Location) :
    (notes.foldl (recordAt loc) ws).tree.get? place =
      if place = loc then some (.file (old ++ notes.flatMap Note.recordBytes))
      else ws.tree.get? place := by
  induction notes generalizing ws old with
  | nil =>
    split
    · rename_i heq
      simp [heq, h]
    · rfl
  | cons note notes ih =>
    have hget : (recordAt loc ws note).tree.get? loc = some (.file (old ++ note.recordBytes)) := by
      rw [recordAt, Workspace.get?_put ws hne, if_pos rfl, Workspace.contentAt, h]
    rw [List.foldl_cons, ih hget]
    split
    · simp
    · rename_i hother
      rw [recordAt, Workspace.get?_put ws hne, if_neg hother]

/-! ## The run around the checks -/

def AnalysisRequest.resultFile (req : AnalysisRequest) : String :=
  if req.output.getD "" = "" then ((Path.ofString req.project).child resultName).render
  else req.output.getD ""

/-- The note on a result file that cannot be opened. -/
def noResultNote (name : String) (fault : Fault) : Note :=
  ⟨s!"Failed to open result file '{name}' for writing: {fault.message}. " ++
    "Continuing without file output.", "WARNING", ""⟩

theorem openResult_eq (req : AnalysisRequest) :
    openResult req.project req.noFile req.output =
      if req.noFile then pure none
      else tryCatch
        (change (fun ws => ws.truncate req.resultFile) >>= fun _ => pure (some req.resultFile))
        (fun fault => say (noResultNote req.resultFile fault) >>= fun _ => pure none) := by
  unfold openResult AnalysisRequest.resultFile noResultNote
  cases req.output with
  | none => simp only [Option.getD_none, if_true]
  | some given =>
    by_cases hgiven : given = ""
    · simp only [Option.getD_some, hgiven, if_true, beq_self_eq_true]
    · simp only [Option.getD_some, hgiven, if_false, beq_iff_eq]

theorem exec_openResult_of_noFile (h : req.noFile) (session : Session) :
    (openResult req.project req.noFile req.output).exec session = (.ok none, session) := by
  rw [openResult_eq, if_pos h, exec_pure]

theorem exec_openResult_ok (hwanted : req.noFile = false) (h : session.workspace.truncate req.resultFile = .ok ws) :
    (openResult req.project req.noFile req.output).exec session =
      (.ok (some req.resultFile), session.after ws session.written) := by
  rw [openResult_eq, if_neg (by simp [hwanted]), exec_tryCatch, exec_bind, exec_change, h]
  rfl

theorem exec_openResult_error (hwanted : req.noFile = false) {fault : Fault}
    (h : session.workspace.truncate req.resultFile = .error fault) :
    (openResult req.project req.noFile req.output).exec session =
      (.ok none, session.tell [noResultNote req.resultFile fault]) := by
  rw [openResult_eq, if_neg (by simp [hwanted]), exec_tryCatch, exec_bind, exec_change, h]
  simp only []
  rw [exec_bind_ok (exec_say _ _), exec_pure]

/-- The notes that an analysis starts with once the project is found. -/
def openingNotes (req : AnalysisRequest) (file : String) : List Note :=
  [⟨s!"Project path validated: {req.project}", "", ""⟩, ⟨s!"Using project file: {file}", "", ""⟩]

/-- The checks and what follows them, with the result file opened or not. -/
def scanInto (req : AnalysisRequest) (file : String) (result : Option String) : Script Unit := do
  let scanTime := (← get).scanTime
  try
    conduct (keepNote result) (inspectProject req.project file req.verbose scanTime)
  catch fault => reportFault result fault
  match result with
  | some name => say ⟨s!"Results have been saved to {name}\n", "", ""⟩
  | none => pure ()

theorem exec_analyse {after : Session} {result : Option String}
    (h : (openResult req.project req.noFile req.output).exec (session.tell (openingNotes req file)) = (.ok result, after)) :
    (analyse req file).exec session = (scanInto req file result).exec after := by
  unfold analyse
  rw [exec_bind_ok (exec_say _ _), exec_bind_ok (exec_say _ _), Session.tell_tell]
  exact exec_bind_ok h _

def versionNote (ws : Workspace) (installation : Installation) : Note :=
  ⟨s!"Script version: {toolVersion ws installation}", "", ""⟩

/-- What a command line asks for does not depend on the session. -/
theorem exec_ofLine {line : List String} (h : ((AnalysisRequest.ofLine line).exec session).1 = .ok req)
    (other : Session) : (AnalysisRequest.ofLine line).exec other = (.ok req, other) := by
  unfold AnalysisRequest.ofLine at h ⊢
  obtain ⟨outcome, hrequire⟩ := analysisCommand.exists_runs_require
    (if line.isEmpty then [".", "-v", "--no-file"] else line)
  have hread : ∀ session : Session, (analysisCommand.require
      (if line.isEmpty then [".", "-v", "--no-file"] else line)).exec session = (outcome,
        ((analysisCommand.require (if line.isEmpty then [".", "-v", "--no-file"] else line)).exec session).2) :=
    fun session => Prod.ext (hrequire session.workspace session rfl).1 rfl
  cases outcome with
  | error fault =>
    rw [exec_bind_error (hread session)] at h
    simp at h
  | ok arguments =>
    rw [exec_bind_ok (hread session), exec_pure] at h
    rw [exec_bind_ok (hread other), Command.eq_of_require (hread other), exec_pure, ← h]

theorem exec_runAnalysis {caller : String} {line : List String}
    (hreq : ((AnalysisRequest.ofLine line).exec session).1 = .ok req)
    (hfile : ((requireProject caller req.project).exec session).1 = .ok file) :
    (runAnalysis caller line).exec session =
      (analyse req file).exec (session.tell [versionNote session.workspace session.installation]) := by
  obtain ⟨loc, hfolder, hfind⟩ := exists_of_requireProject hfile
  unfold runAnalysis
  rw [exec_bind_ok (exec_get session), exec_bind_ok (exec_say _ _), exec_bind_ok (exec_ofLine hreq _),
    exec_bind_ok (exec_requireProject_found hfolder hfind (Session.workspace_tell session _))]
  rfl

end StudioMigration
