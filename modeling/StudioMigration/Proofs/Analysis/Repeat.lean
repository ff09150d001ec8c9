import StudioMigration.Proofs.Analysis.Result

/-!
# Repeated analyses

An analysis that is run again says the same and leaves the same result file. The first run does change the
project: there is a result file afterwards, and checks that walk through the project may come across it. But
each run empties the file before the first check looks at anything, so that from there on both runs see the
same workspace.

* `Script.Steady` says that a script only changes the workspace and the output, and that nothing depends on
  earlier output.
* `requireProject_of_rewrites` and `toolVersion_of_rewrites` say that what comes before the result file is
  emptied does not depend on it.
* `runAnalysis_twice` is the statement about two runs.
-/

namespace StudioMigration

open Workspace Session AnalysisRequest
open Text.Utf8 (Bytes)

variable {loc : Location} {name caller : String} {path : Path} {session : Session} {req : AnalysisRequest}
  {line : List String}

/-! ## Scripts that do not depend on earlier output -/

open Script

theorem Command.steady_require (command : Command) (line : List String) : (command.require line).Steady := by
  unfold Command.require
  split
  · exact steady.bind (steady_write _ _) fun _ => steady.bind (steady_write _ _) fun _ => steady.throw _
  · split
    · exact steady.bind (steady_write _ _) fun _ => steady.throw _
    · exact steady.pure _

theorem steady_requireProject (caller folder : String) : (requireProject caller folder).Steady := by
  refine steady.bind (steady.look _) fun isThere => ?_
  split
  · refine steady.bind (steady.look _) fun found => ?_
    split
    · exact steady.pure _
    · exact steady.bind (steady.say _) fun _ => steady.throw _
  · exact steady.bind (steady.say _) fun _ => steady.throw _

theorem steady_openResult (project : String) (noFile : Bool) (output : Option String) :
    (openResult project noFile output).Steady := by
  unfold openResult
  split
  · exact steady.pure _
  · refine steady.tryCatch ?_ fun fault => ?_
    · exact steady.bind (steady_change _) fun _ => steady.pure _
    · exact steady.bind (steady.say _) fun _ => steady.pure _

/-- The checks and what follows them change nothing but the result file. -/
theorem Script.Closed.scanInto {P : ∀ {α : Type}, Script α → Prop} (hP : Closed P) {result : Option String}
    (happend : ∀ name bytes, result = some name → P (change (·.append name bytes))) (req : AnalysisRequest)
    (file : String) : P (scanInto req file result) := by
  refine hP.get_bind (fun session => ?_) fun _ _ => rfl
  refine hP.bind (hP.tryCatch (hP.conduct (fun note => hP.bind (hP.say note) fun _ => ?_) _) fun fault =>
    hP.bind (hP.say _) fun _ => ?_) fun _ => ?_
  · split
    · exact happend _ _ rfl
    · exact hP.pure _
  · split
    · exact hP.tryCatch (happend _ _ rfl) fun _ => hP.say _
    · exact hP.pure _
  · split
    · exact hP.say _
    · exact hP.pure _

theorem steady_analyse (req : AnalysisRequest) (file : String) : (analyse req file).Steady :=
  steady.bind (steady.say _) fun _ => steady.bind (steady.say _) fun _ =>
    steady.bind (steady_openResult _ _ _) fun _ => steady.scanInto (fun _ _ _ => steady_change _) req file

theorem steady_runAnalysis (caller : String) (line : List String) : (runAnalysis caller line).Steady := by
  refine steady.get_bind (fun session => ?_) fun _ _ => rfl
  refine steady.bind (steady.say _) fun _ => ?_
  refine steady.bind ?_ fun req => ?_
  · exact steady.bind (analysisCommand.steady_require _) fun _ => steady.pure _
  · exact steady.bind (steady_requireProject _ _) fun file => steady_analyse req file

/-! ## What does not depend on the result file -/

section ResultFile

variable {ws ws' : Workspace} {folder : Path}

theorem isFileName_resultName : IsFileName resultName := by decide

theorem exists_of_writableNamed_result (hplain : folder.IsPlain) {isFull : Bool}
    (h : ws.writableNamed (folder.child resultName).render = .ok (loc, isFull)) :
    ∃ above, ws.IsFolder folder above ∧ loc = above ++ [resultName] := by
  obtain ⟨-, hlocate, -⟩ := writableNamed_eq_ok_iff.1 h
  rw [ws.locateNamed_render (by simp [Path.child]) (hplain.child isFileName_resultName)] at hlocate
  obtain ⟨above, rfl, habove, hget⟩ := locate_of_locate_child isFileName_resultName hlocate
  exact ⟨above, ⟨habove, hget⟩, rfl⟩

/-- Another content of the result file leaves every other place as it is. -/
theorem get?_of_rewrites (hplain : folder.IsPlain)
    (h : Rewrites (folder.child resultName).render ws ws') {place : Location}
    (hplace : ∀ above, ws.IsFolder folder above → place ≠ above ++ [resultName]) :
    ws'.tree.get? place = ws.tree.get? place := by
  rcases h with rfl | ⟨loc, bytes, hwritable, rfl⟩
  · rfl
  · obtain ⟨above, habove, rfl⟩ := exists_of_writableNamed_result hplain hwritable
    rw [get?_put ws (by simp), if_neg (hplace above habove)]

/-- A file with another name stands in another place. -/
theorem get?_other_of_rewrites (hplain : folder.IsPlain)
    (h : Rewrites (folder.child resultName).render ws ws') (place : Location) (hname : name ≠ resultName) :
    ws'.tree.get? (place ++ [name]) = ws.tree.get? (place ++ [name]) := by
  apply get?_of_rewrites hplain h
  intro above _ heq
  obtain ⟨-, hlast⟩ := List.append_inj' heq rfl
  exact hname (List.singleton_inj.1 hlast)

/-- Another content makes no directory and takes none away. -/
theorem directories_of_rewrites (h : Rewrites name ws ws') :
    ws'.here = ws.here ∧ Tree.KeepsDirectories ws.tree ws'.tree ∧ Tree.KeepsDirectories ws'.tree ws.tree := by
  rcases h with rfl | ⟨loc, bytes, hwritable, rfl⟩
  · exact ⟨rfl, fun _ => id, fun _ => id⟩
  · have hat := (writableNamed_eq_ok_iff.1 hwritable).2.2
    refine ⟨rfl, keepsDirectories_of_writableAt hat bytes, fun place hplace => ?_⟩
    rw [get?_put ws (ne_nil_of_writableAt hat)] at hplace
    split at hplace
    · simp at hplace
    · exact hplace

theorem locate_of_rewrites (h : Rewrites name ws ws') : ws'.locate path = .ok loc ↔ ws.locate path = .ok loc := by
  obtain ⟨hhere, hkept, hback⟩ := directories_of_rewrites h
  exact ⟨locate_mono hhere.symm hback, locate_mono hhere hkept⟩

theorem versionFromFile_of_error {fault : Fault} (h : ws.locate (path.child "version.txt") = .error fault) :
    versionFromFile ws path = none := by
  have hfile : ws.isFile (path.child "version.txt") ≠ .ok true := by
    unfold isFile status
    split <;> simp_all
  rcases hanswer : ws.isFile (path.child "version.txt") with obstacle | (_ | _)
  · simp only [versionFromFile, hanswer]
  · simp only [versionFromFile, hanswer]
  · exact absurd hanswer hfile

theorem versionFromFile_of_rewrites (hplain : folder.IsPlain)
    (h : Rewrites (folder.child resultName).render ws ws') (path : Path) :
    versionFromFile ws' path = versionFromFile ws path := by
  cases hlocate : ws.locate (path.child "version.txt") with
  | ok loc =>
    have hlocate' := (locate_of_rewrites h).2 hlocate
    -- the version file has a name of its own
    obtain ⟨above, rfl, -, -⟩ := locate_of_locate_child (by decide) hlocate
    have hget := get?_other_of_rewrites hplain h above (by decide : "version.txt" ≠ resultName)
    simp only [versionFromFile, isFile, readText, readBytes, status_of_locate hlocate, status_of_locate hlocate',
      hlocate, hlocate', bytesAt, hget, ok_bind]
  | error fault =>
    rw [versionFromFile_of_error hlocate]
    cases hlocate' : ws'.locate (path.child "version.txt") with
    | ok loc =>
      rw [(locate_of_rewrites h).1 hlocate'] at hlocate
      simp at hlocate
    | error fault' => exact versionFromFile_of_error hlocate'

/-- The version of the tool is not kept in a result file. -/
theorem toolVersion_of_rewrites (hplain : folder.IsPlain)
    (h : Rewrites (folder.child resultName).render ws ws') (installation : Installation) :
    toolVersion ws' installation = toolVersion ws installation := by
  have hversion : versionFromFile ws' = versionFromFile ws := funext (versionFromFile_of_rewrites hplain h)
  simp only [toolVersion, toolVersion.fromFiles, hversion]

theorem requireProject_of_rewrites {project file : String}
    (h : Rewrites ((Path.ofString project).child resultName).render session.workspace ws')
    (hfile : ((requireProject caller project).exec session).1 = .ok file) (after : Session)
    (hafter : after.workspace = ws') : (requireProject caller project).exec after = (.ok file, after) := by
  obtain ⟨loc, hfolder, hfind⟩ := exists_of_requireProject hfile
  have hfind' : ((ws'.tree.children loc).map (·.1)).find? isProjectName = some file := by
    rw [← hfind]
    apply Tree.find?_children_congr
    intro name hname
    apply get?_other_of_rewrites (Path.isPlain_ofString project) h
    rintro rfl
    exact absurd hname (by decide)
  have hfolder' : IsFolder _ _ _ :=
    ⟨(locate_of_rewrites h).2 hfolder.located, (directories_of_rewrites h).2.1 _ hfolder.isDirectory⟩
  exact exec_requireProject_found hfolder' hfind' hafter

end ResultFile

/-! ## Two runs -/

/-- The checks and what follows them change the result file at most. -/
theorem within_scanInto (req : AnalysisRequest) (file name : String) :
    (scanInto req file (some name)).Within (Rewrites name) := by
  have hprogress : Progress (Rewrites name) := ⟨fun _ => .inl rfl, Rewrites.trans⟩
  refine hprogress.closed.scanInto (fun given _ hgiven => ?_) req file
  obtain rfl := Option.some.inj hgiven
  exact within_change hprogress fun _ _ => rewrites_append

/-- Without a result file nothing changes. -/
theorem workspace_scanInto_none (req : AnalysisRequest) (file : String) (session : Session) :
    ((scanInto req file none).exec session).2.workspace = session.workspace := by
  have hprogress : Progress fun ws ws' => ws' = ws := ⟨fun _ => rfl, fun h h' => h'.trans h⟩
  refine hprogress.closed.scanInto (fun _ _ hnone => ?_) req file session
  cases hnone

/-- An analysis of what an analysis left behind is the same analysis. -/
theorem analyse_again (req : AnalysisRequest) (file : String) (session : Session) :
    Rewrites req.resultFile session.workspace
        ((analyse req file).exec session).2.workspace ∧
      (analyse req file).exec (session.after ((analyse req file).exec session).2.workspace session.written) =
        (analyse req file).exec session := by
  -- without a result file the second analysis starts where the first one did
  have hunopened : ∀ after, (openResult req.project req.noFile req.output).exec
        (session.tell (openingNotes req file)) = (.ok none, after) →
      after.workspace = session.workspace → ((analyse req file).exec session).2.workspace = session.workspace := by
    intro after hopen hafter
    rw [exec_analyse hopen, workspace_scanInto_none, hafter]
  cases hwanted : req.noFile with
  | true =>
    have hsame := hunopened _ (exec_openResult_of_noFile hwanted _) rfl
    rw [hsame]
    exact ⟨.inl rfl, rfl⟩
  | false =>
    cases htruncate : session.workspace.truncate req.resultFile with
    | error fault =>
      have hsame := hunopened _ (exec_openResult_error hwanted htruncate) rfl
      rw [hsame]
      exact ⟨.inl rfl, rfl⟩
    | ok ws =>
      have hopen : (session.tell (openingNotes req file)).workspace.truncate req.resultFile = .ok ws :=
        htruncate
      have hfirst := exec_analyse (exec_openResult_ok hwanted hopen)
      have hchanged : Rewrites req.resultFile session.workspace
          ((analyse req file).exec session).2.workspace := by
        rw [hfirst]
        exact (rewrites_truncate htruncate).trans (within_scanInto req file _ _)
      refine ⟨hchanged, ?_⟩
      -- the file is emptied first, and then the workspaces are the same
      have hagain := hchanged.truncate_eq.trans htruncate
      generalize ((analyse req file).exec session).2.workspace = left at hagain
      have hreopen : ((session.after left session.written).tell (openingNotes req file)).workspace.truncate
          req.resultFile = .ok ws := hagain
      rw [hfirst, exec_analyse (exec_openResult_ok hwanted hreopen), tell_after, after_after, written_after]

/-- A run that finds no project changes nothing. -/
theorem workspace_runAnalysis_of_error (hreq : ((ofLine line).exec session).1 = .ok req)
    {fault : Fault} (hfault : ((requireProject caller req.project).exec session).1 = .error fault) :
    ((runAnalysis caller line).exec session).2.workspace = session.workspace := by
  unfold runAnalysis
  rw [exec_bind_ok (exec_get session), exec_bind_ok (exec_say _ _), exec_bind_ok (exec_ofLine hreq _)]
  rcases requireProject_cases session.workspace caller req.project with ⟨fault', hrun⟩ |
    ⟨loc, file, hfolder, hfind⟩
  · exact ((hrun.bind_error _) (session.tell _) rfl).2
  · rw [(runs_requireProject hfolder hfind caller session rfl).1] at hfault
    simp at hfault

/-- A run on what a run with the default result file left behind is the same run. -/
theorem runAnalysis_again (caller : String) (hreq : ((ofLine line).exec session).1 = .ok req)
    (hname : req.resultFile = ((Path.ofString req.project).child resultName).render) :
    Rewrites ((Path.ofString req.project).child resultName).render session.workspace
        ((runAnalysis caller line).exec session).2.workspace ∧
      (runAnalysis caller line).exec
          (session.after ((runAnalysis caller line).exec session).2.workspace session.written) =
        (runAnalysis caller line).exec session := by
  cases hfile : ((requireProject caller req.project).exec session).1 with
  | error fault =>
    rw [workspace_runAnalysis_of_error hreq hfile]
    exact ⟨.inl rfl, rfl⟩
  | ok file =>
    have hrun := exec_runAnalysis hreq hfile
    obtain ⟨hchanged, hagain⟩ := analyse_again req file
      (session.tell [versionNote session.workspace session.installation])
    rw [← hrun, hname, workspace_tell] at hchanged
    rw [← hrun] at hagain
    generalize ((runAnalysis caller line).exec session).2.workspace = ws at hchanged hagain
    refine ⟨hchanged, ?_⟩
    -- up to the point where the file is emptied the second run finds what the first one found
    have hrequest' : ((ofLine line).exec (session.after ws session.written)).1 = .ok req := by
      rw [exec_ofLine hreq]
    have hfile' : ((requireProject caller req.project).exec (session.after ws session.written)).1 = .ok file := by
      rw [requireProject_of_rewrites hchanged hfile (session.after ws session.written) rfl]
    have hversion : versionNote ws session.installation = versionNote session.workspace session.installation := by
      unfold versionNote
      rw [toolVersion_of_rewrites (Path.isPlain_ofString _) hchanged]
    rw [exec_runAnalysis hrequest' hfile', workspace_after, installation_after, hversion, tell_after, hagain]

/-- An analysis with the default result file is repeatable. Whatever becomes of the first run, a second one ends
in the same way, writes the same text and leaves the same workspace; and nothing but the result file in the
project folder differs from what was there before. -/
theorem runAnalysis_twice (caller : String) {line : List String} {session : Session} {request : AnalysisRequest}
    (hrequest : ((ofLine line).exec session).1 = .ok request)
    (hdefault : request.output.getD "" = "") :
    ∃ outcome ws text,
      (runAnalysis caller line).exec session = (outcome, session.after ws (session.written ++ text)) ∧
      (runAnalysis caller line).exec (session.after ws (session.written ++ text)) =
        (outcome, session.after ws (session.written ++ text ++ text)) ∧
      ∀ place, (∀ folder, session.workspace.IsFolder (Path.ofString request.project) folder →
          place ≠ folder ++ [resultName]) →
        ws.tree.get? place = session.workspace.tree.get? place := by
  obtain ⟨outcome, ws, text, hfirst⟩ := steady_runAnalysis caller line session
  obtain ⟨outcome', ws', text', hsecond⟩ := steady_runAnalysis caller line (session.after ws session.written)
  have hname : request.resultFile = ((Path.ofString request.project).child resultName).render := by
    rw [resultFile, if_pos hdefault]
  obtain ⟨hchanged, hagain⟩ := runAnalysis_again caller hrequest hname
  -- both runs are compared with the same output before them
  have hrun := hfirst session.written
  have hrerun := hsecond session.written
  rw [after_self] at hrun
  rw [after_after, after_after, workspace_after] at hrerun
  rw [hrun] at hchanged hagain
  rw [workspace_after, hrerun, Prod.mk.injEq] at hagain
  obtain ⟨rfl, hleft⟩ := hagain
  obtain rfl : ws' = ws := congrArg workspace hleft
  obtain rfl := List.append_cancel_left (congrArg Session.written hleft)
  refine ⟨outcome', ws', text', hrun, hsecond _, fun place hplace => ?_⟩
  exact get?_of_rewrites (Path.isPlain_ofString _) hchanged hplace

/-- A project with a widget library whose description is no UTF-8, which cuts the checks short. -/
def unreadableDescription : Session where
  workspace := {
    tree := ((((((Tree.empty.insert ["M"] .directory).insert ["M", "m.apj"] (.file [])).insert
      ["M", "Logical"] .directory).insert ["M", "Logical", "mappView"] .directory).insert
        ["M", "Logical", "mappView", "Widgets"] .directory).insert
          ["M", "Logical", "mappView", "Widgets", "lib"] .directory).insert
            ["M", "Logical", "mappView", "Widgets", "lib", "Description.widgetlibrary"] (.file [0xFF])
    here := [] }

/-- The analysis of that project can be repeated with details. -/
theorem runAnalysis_twice_unreadableDescription :
    ((ofLine ["M", "-v"]).exec unreadableDescription).1 = .ok ⟨"M", true, false, none⟩ ∧
      ∃ outcome ws text,
        (runAnalysis "tool" ["M", "-v"]).exec unreadableDescription =
          (outcome, unreadableDescription.after ws (unreadableDescription.written ++ text)) ∧
        (runAnalysis "tool" ["M", "-v"]).exec
            (unreadableDescription.after ws (unreadableDescription.written ++ text)) =
          (outcome, unreadableDescription.after ws (unreadableDescription.written ++ text ++ text)) ∧
        ws.tree.get? ["M", "m.apj"] = some (.file []) := by
  have hrequest : ((ofLine ["M", "-v"]).exec unreadableDescription).1 = .ok ⟨"M", true, false, none⟩ := by rfl
  obtain ⟨outcome, ws, text, hfirst, hsecond, hkept⟩ := runAnalysis_twice "tool" hrequest rfl
  refine ⟨hrequest, outcome, ws, text, hfirst, hsecond, ?_⟩
  rw [hkept ["M", "m.apj"]]
  · rfl
  · intro folder _ heq
    obtain ⟨-, hlast⟩ := List.append_inj' (show ["M"] ++ ["m.apj"] = folder ++ [resultName] from heq) rfl
    exact absurd (List.singleton_inj.1 hlast) (by decide)

end StudioMigration
