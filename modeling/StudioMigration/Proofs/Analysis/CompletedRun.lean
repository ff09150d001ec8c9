import StudioMigration.Proofs.Analysis.Completion

/-!
# Analyses that run to their end

* `AnalysisRequest.opened` and `AnalysisRequest.record` say how the result file changes the workspace.
* `exec_runAnalysis_checks` is a run of the analysis in terms of the report of the checks, with or without a result
  file.
* `runAnalysis_completes_iff` says when such a run completes.
-/

namespace StudioMigration

open AnalysisRequest Inspection Workspace
open Text.Utf8 (Bytes encodeString)

variable {file : String} {ending : Except Fault Unit} {req : AnalysisRequest} {loc : Location}
  {notes : List Note}

/-! ## The result file -/

namespace AnalysisRequest

/-- Where the result file stands, if one is wanted and can be written. -/
def resultPlace? (req : AnalysisRequest) (ws : Workspace) : Option Location :=
  if req.noFile then none
  else
    match ws.writableNamed req.resultFile with
    | .ok (place, false) => some place
    | _ => none

/-- The workspace that the checks start on. -/
def opened (req : AnalysisRequest) (ws : Workspace) : Workspace :=
  match req.resultPlace? ws with
  | some place => ws.put place (.file [])
  | none => ws

/-- What a note of the checks changes, if the analysis started on `ws`. -/
def record (req : AnalysisRequest) (ws : Workspace) : Workspace → Note → Workspace :=
  match req.resultPlace? ws with
  | some place => recordAt place
  | none => fun current _ => current

/-- The note on a result file that cannot be opened. -/
def warnings (req : AnalysisRequest) (ws : Workspace) : List Note :=
  if req.noFile then []
  else
    match ws.truncate req.resultFile with
    | .ok _ => []
    | .error fault => [noResultNote req.resultFile fault]

/-- The note on a result file that was written. -/
def closing (req : AnalysisRequest) (ws : Workspace) : List Note :=
  if (req.resultPlace? ws).isSome then [savedNote req.resultFile] else []

/-- The result file is no device that takes no data, and none of the files at some places. -/
structure KeepsClear (req : AnalysisRequest) (ws : Workspace) (places : Location → Prop) : Prop where
  noDevice : req.noFile = false → ∀ place, ws.writableNamed req.resultFile ≠ .ok (place, true)
  clear : ∀ place, req.resultPlace? ws = some place → ¬places place

section ResultPlace

variable {ws : Workspace} {place : Location}

theorem writableAt_of_resultPlace? (h : req.resultPlace? ws = some place) :
    ws.writableAt req.resultFile place = .ok false := by
  unfold resultPlace? at h
  split at h
  · simp at h
  · split at h
    · rename_i found hwritable
      obtain rfl := Option.some.inj h
      exact (writableNamed_eq_ok_iff.1 hwritable).2.2
    · simp at h

theorem get?_opened (req : AnalysisRequest) (ws : Workspace) (other : Location) :
    (req.opened ws).tree.get? other =
      if req.resultPlace? ws = some other then some (.file []) else ws.tree.get? other := by
  unfold opened
  cases hplace : req.resultPlace? ws with
  | none => simp
  | some place =>
    rw [get?_put ws (ne_nil_of_writableAt (writableAt_of_resultPlace? hplace))]
    simp [eq_comm]

/-- Opening the result file makes no directory and hides none. -/
theorem get?_opened_directory_iff (req : AnalysisRequest) (ws : Workspace) (other : Location) :
    (req.opened ws).tree.get? other = some .directory ↔ ws.tree.get? other = some .directory := by
  rw [get?_opened]
  split
  · rename_i hplace
    rcases get?_of_writableAt (writableAt_of_resultPlace? hplace) with hget | ⟨bytes, hget⟩ <;> simp [hget]
  · rfl

/-- Notes change nothing but the result file. -/
theorem resembles_record {fixed : Location → Prop} (hclear : req.KeepsClear ws fixed) {current : Workspace}
    (h : (req.opened ws).Resembles fixed current) (note : Note) :
    (req.opened ws).Resembles fixed (req.record ws current note) := by
  unfold record
  cases hplace : req.resultPlace? ws with
  | none => exact h
  | some place =>
    have hopened : (req.opened ws).tree.get? place = some (.file []) := by
      rw [get?_opened, if_pos hplace]
    exact h.put hopened (hclear.clear place hplace) _

end ResultPlace

end AnalysisRequest

/-! ## The run -/

theorem exec_conduct_keepNote_none {α : Type} (session : Session) (inspection : Inspection α) :
    (Script.conduct (keepNote none) inspection).exec session =
      ((inspection.reportAlong (fun ws _ => ws) session.workspace).2,
        session.after ((inspection.reportAlong (fun ws _ => ws) session.workspace).1.foldl (fun ws _ => ws)
          session.workspace) (session.written ++
            (inspection.reportAlong (fun ws _ => ws) session.workspace).1.flatMap Note.printed)) := by
  apply Script.exec_conduct (P := fun _ => True)
  · intro session note _
    unfold keepNote
    rw [Script.exec_bind_ok (Script.exec_say session note), Session.tell_eq_after]
    simp
  · exact fun _ _ => id
  · trivial

theorem exec_reportFault_none (session : Session) (fault : Fault) :
    (reportFault none fault).exec session = (.ok (), session.tell [faultNote fault]) := by
  change (Script.say (faultNote fault) >>= fun _ => pure ()).exec session = _
  rw [Script.exec_bind_ok (Script.exec_say session _), Script.exec_pure]

theorem exec_scanInto_none (req : AnalysisRequest) (session : Session) (file : String)
    (hreport : (inspectProject req.project file req.verbose session.scanTime).reportAlong (fun ws _ => ws) session.workspace = (notes, ending)) :
    (scanInto req file none).exec session =
      (.ok (), session.after session.workspace
        (session.written ++ (notes ++ endingNotes ending).flatMap Note.printed)) := by
  have hstays : ∀ notes : List Note, notes.foldl (fun ws _ => ws) session.workspace = session.workspace := by
    intro notes
    induction notes with
    | nil => rfl
    | cons note notes ih => exact ih
  have hconduct := exec_conduct_keepNote_none session
    (inspectProject req.project file req.verbose session.scanTime)
  rw [hreport, hstays] at hconduct
  unfold scanInto
  rw [Script.exec_bind_ok (Script.exec_get session)]
  cases ending with
  | ok value =>
    rw [Script.exec_bind_ok (Script.exec_tryCatch_ok hconduct (reportFault none))]
    simp [endingNotes]
  | error fault =>
    have hchecks := Script.exec_tryCatch_error hconduct (reportFault none)
    rw [exec_reportFault_none, Session.tell_eq_after] at hchecks
    rw [Script.exec_bind_ok hchecks]
    simp [endingNotes]

/-- A run of the analysis is the run of the checks between the notes that open and close it. -/
theorem exec_runAnalysis_checks {caller : String} {line : List String} {session : Session}
    (hreq : ((ofLine line).exec session).1 = .ok req)
    (hfile : ((requireProject caller req.project).exec session).1 = .ok file)
    (hdevice : req.noFile = false → ∀ place, session.workspace.writableNamed req.resultFile ≠ .ok (place, true))
    (hreport : (inspectProject req.project file req.verbose session.scanTime).reportAlong (req.record session.workspace) (req.opened session.workspace) = (notes, ending)) :
    ∃ ws, (runAnalysis caller line).exec session = (.ok (), session.after ws (session.written ++
      (versionNote session.workspace session.installation :: openingNotes req file ++
        req.warnings session.workspace ++ notes ++ endingNotes ending ++
        req.closing session.workspace).flatMap Note.printed)) := by
  let told := (session.tell [versionNote session.workspace session.installation]).tell (openingNotes req file)
  rw [exec_runAnalysis hreq hfile]
  cases hwanted : req.noFile with
  | true =>
    have hplace : req.resultPlace? session.workspace = none := by
      simp [resultPlace?, hwanted]
    simp only [record, opened, hplace] at hreport
    refine ⟨session.workspace, ?_⟩
    rw [exec_analyse (exec_openResult_of_noFile hwanted told), exec_scanInto_none req told file hreport]
    simp [told, warnings, closing, hwanted, hplace, Session.tell_eq_after]
  | false =>
    cases hwritable : session.workspace.writableNamed req.resultFile with
    | error fault =>
      -- a warning takes the place of the file
      have hplace : req.resultPlace? session.workspace = none := by
        simp [resultPlace?, hwritable]
      have htruncate : session.workspace.truncate req.resultFile = .error fault := by
        simp [Workspace.truncate, hwritable]
      have hopen : (openResult req.project req.noFile req.output).exec told =
          (.ok none, told.tell [noResultNote req.resultFile fault]) := exec_openResult_error hwanted htruncate
      simp only [record, opened, hplace] at hreport
      refine ⟨session.workspace, ?_⟩
      rw [exec_analyse hopen, exec_scanInto_none req (told.tell _) file hreport]
      simp [told, warnings, closing, hwanted, hplace, htruncate, Session.tell_eq_after]
    | ok found =>
      obtain ⟨place, isFull⟩ := found
      cases isFull with
      | true => exact absurd hwritable (hdevice hwanted place)
      | false =>
        have hplace : req.resultPlace? session.workspace = some place := by
          simp [resultPlace?, hwanted, hwritable]
        have htruncate := Workspace.truncate_of_writable hwritable
        have hne := Workspace.ne_nil_of_writableAt (Workspace.writableNamed_eq_ok_iff.1 hwritable).2.2
        have hopen : (openResult req.project req.noFile req.output).exec told =
            (.ok (some req.resultFile), told.after (session.workspace.put place (.file [])) told.written) :=
          exec_openResult_ok hwanted htruncate
        simp only [record, opened, hplace] at hreport
        obtain ⟨ws, hscan, -⟩ := exec_scanInto_some req
          (told.after (session.workspace.put place (.file [])) told.written)
          (Workspace.writableNamed_put hwritable []) (by
            rw [Session.workspace_after, Workspace.get?_put _ hne, if_pos rfl]) file hreport
        refine ⟨ws, ?_⟩
        rw [exec_analyse hopen, hscan]
        simp [told, warnings, closing, hwanted, hplace, htruncate, Session.tell_eq_after]

theorem canBeParsed_congr {ws ws' : Workspace} {project : Bytes}
    (hdirectories : ∀ place, ws'.tree.get? place = some .directory ↔ ws.tree.get? place = some .directory)
    (hcritical : ∀ place, IsCritical loc file place → ws'.tree.get? place = ws.tree.get? place) :
    CanBeParsed ws' loc project ↔ CanBeParsed ws loc project := by
  have htells : ∀ place, tellsKind ws' place = tellsKind ws place := by
    intro place
    unfold tellsKind
    rw [hcritical _ (.mapping place), hcritical _ (.description place)]
  constructor
  · rintro ⟨hversions, hlibraries⟩
    refine ⟨hversions, fun names name hget => ?_⟩
    rw [← htells]
    exact hlibraries names name ((hdirectories _).2 hget)
  · rintro ⟨hversions, hlibraries⟩
    refine ⟨hversions, fun names name hget => ?_⟩
    rw [htells]
    exact hlibraries names name ((hdirectories _).1 hget)

/-- Whether the checks of a run come to their end. -/
theorem reportAlong_inspectProject_ok_iff {ws : Workspace} {bytes : Bytes}
    (hscannable : (req.opened ws).IsScannable (Path.ofString req.project) loc)
    (hproject : ws.tree.get? (loc ++ [file]) = some (.file bytes))
    (hclear : req.KeepsClear ws (IsCritical loc file)) (scanTime : Nat) :
    ((inspectProject req.project file req.verbose scanTime).reportAlong (req.record ws)
      (req.opened ws)).2 = .ok () ↔ CanBeParsed ws loc bytes := by
  have hcritical : ∀ place, IsCritical loc file place →
      (req.opened ws).tree.get? place = ws.tree.get? place := by
    intro place hplace
    rw [req.get?_opened, if_neg]
    exact fun hresult => hclear.clear place hresult hplace
  have hchecks := completesIff_inspectProject hscannable ((hcritical _ .project).trans hproject) req.verbose scanTime
  have hend := Inspection.Ends.reportAlong hchecks (req.record ws)
    (fun current note hcurrent => resembles_record hclear hcurrent note) (req.opened ws)
    (resembles_refl _ _)
  rw [← canBeParsed_congr (req.get?_opened_directory_iff ws) hcritical]
  rcases hresult : ((inspectProject req.project file req.verbose scanTime).reportAlong (req.record ws)
    (req.opened ws)).2 with fault | value
  · rw [hresult] at hend
    exact iff_of_false (by simp) hend
  · rw [hresult] at hend
    exact iff_of_true rfl hend.1

/-- A project file that lists an old version of mapp Services. -/
def oldServices : Bytes := encodeString "<mapp Version=\"5.10.0\"/>"

/-- A project with a widget library whose mapping holds some text. -/
def projectWithMapping (mapping : String) : Session where
  workspace := {
    tree := ((((((Tree.empty.insert ["M"] .directory).insert ["M", "m.apj"]
      (.file oldServices)).insert ["M", "Logical"] .directory).insert
        ["M", "Logical", "mappView"] .directory).insert ["M", "Logical", "mappView", "Widgets"] .directory).insert
          ["M", "Logical", "mappView", "Widgets", "lib"] .directory).insert
            ["M", "Logical", "mappView", "Widgets", "lib", "WidgetLibrary.mapping"] (.file (encodeString mapping))
    here := [] }

/-- The library has a mapping that tells its kind. -/
def wellFormedMapping : Session := projectWithMapping "<Mappings><Mapping/></Mappings>"

/-- The mapping of the library is cut off. -/
def unclosedMapping : Session := projectWithMapping "<Mappings>"

/-- The analysis of these projects without options. -/
def plainRequest : AnalysisRequest := ⟨"M", false, false, none⟩

/-- The result file of that analysis is none of the files that the checks depend on. -/
theorem keepsClear_projectWithMapping (mapping : String) :
    plainRequest.KeepsClear (projectWithMapping mapping).workspace (IsCritical ["M"] "m.apj") := by
  have hwritable : (projectWithMapping mapping).workspace.writableNamed plainRequest.resultFile =
      .ok (["M", resultName], false) := rfl
  refine ⟨fun _ place => by simp [hwritable], fun place hplace hcritical => ?_⟩
  have hname : ∀ {above : Location} {name : String}, above ++ [name] = place → name = resultName :=
    fun heq => List.singleton_inj.1 (List.append_inj' (heq.trans (Option.some.inj hplace).symm) rfl).2
  cases hcritical with
  | project => exact absurd (hname rfl) (by decide)
  | mapping above => exact absurd (hname rfl) (by decide)
  | description above => exact absurd (hname rfl) (by decide)

/-- The widget libraries of a project are among the entries of the tree. -/
theorem tellsKind_of_entries {ws : Workspace} (h : ∀ x ∈ ws.tree.entries, x.2 = .directory →
      ["mappView", "Widgets"] <:+ x.1.dropLast → tellsKind ws x.1) (loc names : Location) (name : String)
    (hget : ws.tree.get? (loc ++ widgetsPlace names ++ [name]) = some .directory) :
    tellsKind ws (loc ++ widgetsPlace names ++ [name]) := by
  refine h _ ((ws.tree.get?_eq_some_iff (by simp)).1 hget) rfl ?_
  rw [List.dropLast_concat, widgetsPlace, ← List.append_assoc]
  exact List.suffix_append _ _

end StudioMigration
