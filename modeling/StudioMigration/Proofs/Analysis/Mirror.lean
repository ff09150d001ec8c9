import StudioMigration.Proofs.Analysis.Faults
import StudioMigration.Proofs.Analysis.Repeat
import StudioMigration.Proofs.Journal.Uncoloured

/-!
# The result file mirrors the terminal

While the checks run, every note goes to the terminal and to the result file. A fault that cuts the checks short is
added to the file through a way of its own.

* `exec_scanInto_some` says what a run of the checks prints and what it leaves in the result file.
* `Inspection.Closes` inspections end with a certain note, unless with a fault.
* `resultFile_mirrors_console` compares the two texts without their control sequences.
-/

namespace StudioMigration

open Script List Workspace AnalysisRequest
open Text.Utf8 (Bytes encode encodeString)

/-! ## The last note -/

namespace Inspection

variable {α : Type}

/-- Whatever the notes of an inspection change on the way, `last` is the last of them if it ends without a fault. -/
def Closes (last : Note) (inspection : Inspection Unit) : Prop :=
  ∀ record ws, (inspection.reportAlong record ws).2 = .ok () → (inspection.reportAlong record ws).1.getLast? = some last

theorem closes_say (note : Note) : (say note).Closes note := fun _ _ _ => rfl

theorem closes_bind {last : Note} (first : Inspection α) {rest : α → Inspection Unit}
    (h : ∀ value, (rest value).Closes last) : (first >>= rest).Closes last := by
  intro record ws hok
  change ((first.bind rest).reportAlong record ws).1.getLast? = some last
  induction first generalizing ws with
  | done value => exact h value record ws hok
  | failed fault => cases hok
  | note entry next ih =>
    have hnext := ih (record ws entry) hok
    simp only [bind, reportAlong]
    rw [getLast?_cons, hnext]
    rfl
  | look next ih => exact ih ws ws hok

end Inspection

def startNote : Note :=
  ⟨"Scanning started... Please wait while the script analyzes your project files.", "", ""⟩

def completionNote (scanTime : Nat) : Note :=
  .heading s!"Scanning completed successfully in {secondsText scanTime} seconds."

theorem closes_inspectProject (project file : String) (verbose : Bool) (scanTime : Nat) :
    (inspectProject project file verbose scanTime).Closes (completionNote scanTime) := by
  repeat refine Inspection.closes_bind _ fun _ => ?_
  exact Inspection.closes_say _

theorem head?_reportAlong_inspectProject (project file : String) (verbose : Bool) (scanTime : Nat)
    (record : Workspace → Note → Workspace) (ws : Workspace) :
    ((inspectProject project file verbose scanTime).reportAlong record ws).1.head? = some startNote := by
  rfl

/-! ## Faults -/

/-- The note on a fault that cut the checks short. -/
def faultNote (fault : Fault) : Note := ⟨"An unexpected error occurred: " ++ fault.message, "ERROR", ""⟩

/-- What such a fault adds to the result file. -/
def faultLine (fault : Fault) : List Char :=
  ("\n[ERROR] An unexpected error occurred: " ++ fault.message ++ "\n").toList

theorem withoutControls_faultLine {fault : Fault} (h : fault.IsPlain) :
    withoutControls (faultLine fault) = faultLine fault := by
  refine withoutControls_of_not_mem ?_
  unfold faultLine
  rw [String.toList_append, String.toList_append, mem_append, mem_append, not_or, not_or]
  exact ⟨⟨by decide, h⟩, by decide⟩

theorem toList_faultText {fault : Fault} {text : String}
    (h : text = "An unexpected error occurred: " ++ fault.message) :
    (s!"\n[ERROR] {text}\n").toList = faultLine fault := by
  subst h
  simp [faultLine, toString]

theorem exec_reportFault (session : Session) {name : String} {loc : Location}
    (h : session.workspace.writableNamed name = .ok (loc, false)) (fault : Fault) :
    (reportFault (some name) fault).exec session =
      (.ok (), session.after
        (session.workspace.put loc (.file (session.workspace.contentAt loc ++ encode (faultLine fault))))
        (session.written ++ (faultNote fault).printed)) := by
  unfold reportFault
  rw [exec_bind_ok (exec_say session _)]
  simp only [encodeString, toList_faultText rfl, exec_tryCatch, exec_change, Session.workspace_tell,
    append_of_writable h]
  exact congrArg (fun written => (Except.ok (), session.after _ (_ ++ written))) (append_nil _)

/-! ## The run -/

def savedNote (name : String) : Note := ⟨s!"Results have been saved to {name}\n", "", ""⟩

def endingNotes : Except Fault Unit → List Note
  | .ok _ => []
  | .error fault => [faultNote fault]

/-- What is added to the result file on how the checks ended. -/
def endingLine : Except Fault Unit → List Char
  | .ok _ => []
  | .error fault => faultLine fault

theorem flatMap_recordBytes (notes : List Note) :
    notes.flatMap Note.recordBytes = encode (notes.flatMap Note.fileLine) := by
  have hnote : Note.recordBytes = fun note => encode note.fileLine := by
    funext note
    simp [Note.recordBytes, Note.fileLine, encodeString]
  rw [hnote]
  simp only [encode, flatMap_assoc]

/-- The checks with a result file that was just emptied: the notes of the checks are in it, then what is said about a
fault. -/
theorem exec_scanInto_some (req : AnalysisRequest) (session : Session) {name : String} {loc : Location}
    (hwritable : session.workspace.writableNamed name = .ok (loc, false))
    (hempty : session.workspace.tree.get? loc = some (.file [])) (file : String) {notes : List Note}
    {ending : Except Fault Unit} (hreport : (inspectProject req.project file req.verbose session.scanTime).reportAlong
      (recordAt loc) session.workspace = (notes, ending)) :
    ∃ ws, (scanInto req file (some name)).exec session =
        (.ok (), session.after ws
          (session.written ++ (notes ++ endingNotes ending ++ [savedNote name]).flatMap Note.printed)) ∧
      ws.tree.get? loc = some (.file (encode (notes.flatMap Note.fileLine ++ endingLine ending))) := by
  have hne := ne_nil_of_writableAt (writableNamed_eq_ok_iff.1 hwritable).2.2
  have hconduct := exec_conduct_keepNote hwritable
    (inspectProject req.project file req.verbose session.scanTime)
  have hcontent := get?_foldl_recordAt hne notes hempty loc
  have hstill := writableNamed_foldl_recordAt hwritable notes
  rw [hreport] at hconduct
  rw [if_pos rfl, flatMap_recordBytes] at hcontent
  generalize notes.foldl (recordAt loc) session.workspace = ws at hconduct hcontent hstill
  unfold scanInto
  rw [exec_bind_ok (exec_get session)]
  cases ending with
  | ok value =>
    have hchecks := exec_tryCatch_ok hconduct (reportFault (some name))
    refine ⟨ws, ?_, by simpa [endingLine] using hcontent⟩
    rw [exec_bind_ok hchecks]
    change (say (savedNote name)).exec _ = _
    rw [exec_say, Session.tell_eq_after]
    simp [endingNotes]
  | error fault =>
    have hchecks := exec_tryCatch_error hconduct (reportFault (some name))
    rw [exec_reportFault (session.after ws (session.written ++ notes.flatMap Note.printed)) hstill] at hchecks
    refine ⟨ws.put loc (.file (ws.contentAt loc ++ encode (faultLine fault))), ?_, ?_⟩
    · rw [exec_bind_ok hchecks]
      change (say (savedNote name)).exec _ = _
      rw [exec_say, Session.tell_eq_after]
      simp [endingNotes]
    · rw [get?_put ws hne, contentAt, hcontent]
      simp [endingLine, encode]

/-- Whatever the checks end with, their notes reach the result file in the words of the terminal. -/
theorem withoutControls_fileLines {req : AnalysisRequest} {file : String} {scanTime : Nat}
    {record : Workspace → Note → Workspace} {ws : Workspace} {notes : List Note} {ending : Except Fault Unit}
    (h : (inspectProject req.project file req.verbose scanTime).reportAlong record ws = (notes, ending)) :
    withoutControls (notes.flatMap Note.fileLine ++ endingLine ending) =
      (notes.flatMap fun note => withoutControls note.message) ++ endingLine ending := by
  rw [withoutControls_flatMap_fileLine]
  congr 1
  cases ending with
  | ok value => rfl
  | error fault =>
    have hraises := Inspection.Ends.reportAlong
      (raises_inspectProject req.project file req.verbose scanTime) record (fun _ _ _ => trivial) ws trivial
    rw [h] at hraises
    exact withoutControls_faultLine (hraises fault rfl)

/-- The result file mirrors the terminal. A run that can write its result file ends without a fault. Between the notes
that open it and the note that the result was saved it shows the notes of the checks, from the start of the scan to
its completion or to the fault that cut it short. The result file holds just these notes, in the same order and, but
for control sequences, in the same words, and then the fault. -/
theorem resultFile_mirrors_console {caller : String} {line : List String} {session : Session}
    {request : AnalysisRequest} {file : String} {location : Location}
    (hrequest : ((ofLine line).exec session).1 = .ok request)
    (hfile : ((requireProject caller request.project).exec session).1 = .ok file)
    (hwanted : request.noFile = false)
    (hwritable : session.workspace.writableNamed request.resultFile = .ok (location, false)) :
    ∃ notes ending ws text,
      (inspectProject request.project file request.verbose session.scanTime).reportAlong (recordAt location)
        (session.workspace.put location (.file [])) = (notes, ending) ∧
      notes.head? = some startNote ∧
      (ending = .ok () → notes.getLast? = some (completionNote session.scanTime)) ∧
      (runAnalysis caller line).exec session = (.ok (), session.after ws (session.written ++
        (versionNote session.workspace session.installation :: openingNotes request file ++ notes ++
          endingNotes ending ++ [savedNote request.resultFile]).flatMap Note.printed)) ∧
      ws.tree.get? location = some (.file (encode text)) ∧
      withoutControls text = (notes.flatMap fun note => withoutControls note.message) ++ endingLine ending := by
  obtain ⟨notes, ending, hreport⟩ : ∃ notes ending,
      (inspectProject request.project file request.verbose session.scanTime).reportAlong (recordAt location)
        (session.workspace.put location (.file [])) = (notes, ending) := ⟨_, _, rfl⟩
  have hne := ne_nil_of_writableAt (writableNamed_eq_ok_iff.1 hwritable).2.2
  -- the run comes to the checks with the file emptied and the opening notes shown
  let told := (session.tell [versionNote session.workspace session.installation]).tell (openingNotes request file)
  have hopen : (openResult request.project request.noFile request.output).exec told =
      (.ok (some request.resultFile), told.after (session.workspace.put location (.file [])) told.written) :=
    exec_openResult_ok hwanted (truncate_of_writable hwritable)
  obtain ⟨ws, hscan, hcontent⟩ := exec_scanInto_some request
    (told.after (session.workspace.put location (.file [])) told.written)
    (writableNamed_put hwritable []) (by
      rw [Session.workspace_after, get?_put _ hne, if_pos rfl]) file hreport
  refine ⟨notes, ending, ws, notes.flatMap Note.fileLine ++ endingLine ending, hreport, ?_, ?_, ?_, hcontent,
    withoutControls_fileLines hreport⟩
  · have hhead := head?_reportAlong_inspectProject request.project file request.verbose session.scanTime
      (recordAt location) (session.workspace.put location (.file []))
    rwa [hreport] at hhead
  · have hclose := closes_inspectProject request.project file request.verbose session.scanTime
      (recordAt location) (session.workspace.put location (.file []))
    rwa [hreport] at hclose
  · rw [exec_runAnalysis hrequest hfile, exec_analyse hopen, hscan]
    simp only [told, Session.tell_eq_after, Session.after_after, Session.written_after, append_assoc,
      flatMap_append, flatMap_cons, flatMap_nil, cons_append, nil_append]

/-- A project with a library description that cannot be read has its analysis mirrored, as far as it goes. -/
theorem resultFile_mirrors_console_unreadableDescription :
    ((ofLine ["M", "-v"]).exec unreadableDescription).1 = .ok ⟨"M", true, false, none⟩ ∧
    ((requireProject "tool" "M").exec unreadableDescription).1 = .ok "m.apj" ∧
    unreadableDescription.workspace.writableNamed (resultFile ⟨"M", true, false, none⟩) =
      .ok (["M", resultName], false) ∧
    ∃ notes ending ws text,
      notes.head? = some startNote ∧
      (runAnalysis "tool" ["M", "-v"]).exec unreadableDescription = (.ok (), unreadableDescription.after ws
        ((versionNote unreadableDescription.workspace unreadableDescription.installation ::
          openingNotes ⟨"M", true, false, none⟩ "m.apj" ++ notes ++ endingNotes ending ++
            [savedNote (resultFile ⟨"M", true, false, none⟩)]).flatMap Note.printed)) ∧
      ws.tree.get? ["M", resultName] = some (.file (encode text)) ∧
      withoutControls text = (notes.flatMap fun note => withoutControls note.message) ++ endingLine ending := by
  have hrequest : ((ofLine ["M", "-v"]).exec unreadableDescription).1 = .ok ⟨"M", true, false, none⟩ := by rfl
  have hfile : ((requireProject "tool" "M").exec unreadableDescription).1 = .ok "m.apj" := by rfl
  have hwritable : unreadableDescription.workspace.writableNamed
      (resultFile ⟨"M", true, false, none⟩) = .ok (["M", resultName], false) := by rfl
  obtain ⟨notes, ending, ws, text, -, hhead, -, hrun, hget, htext⟩ :=
    resultFile_mirrors_console hrequest hfile rfl hwritable
  exact ⟨hrequest, hfile, hwritable, notes, ending, ws, text, hhead, hrun, hget, htext⟩

end StudioMigration
