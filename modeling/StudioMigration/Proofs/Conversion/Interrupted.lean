import StudioMigration.Conversion.Code
import StudioMigration.Conversion.Motion
import StudioMigration.Conversion.OpcUa
import StudioMigration.Proofs.Conversion.Source

/-!
# Conversions that end with a fault

What a conversion of a single file leaves of the file when it does not get to its end. Each conversion reads the file,
renames in its text, writes the text back if it has changed, and reports. Faults before the writing leave the file
alone. A text that cannot be encoded leaves an empty file, and a report that cannot be made comes too late.

* `LeftBy` lists what a file can be left as, fault by fault.
* `Accounted.store` follows the writing of a new text, and `FileConversion.accounted` a whole conversion.
-/

namespace StudioMigration

open Text Script
open Text.Utf8 (Bytes)

/-! ## Faults -/

/-- Whether a fault comes before a source is written. -/
def Fault.isEarly : Fault → Bool
  | .unencodable _ => false
  | .unknownRecorder => false
  | _ => true

/-- A computation has no faults that come later. -/
abbrev EarlyFaults {α : Type} (result : Except Fault α) : Prop := FaultsIn (·.isEarly) result

/-- How a file is left by a fault. -/
inductive LeftBy (file : Path) (ws ws' : Workspace) : Fault → Prop where
  /-- Nothing was written. -/
  | untouched {fault : Fault} (early : fault.isEarly) (same : ws' = ws) : LeftBy file ws ws' fault
  /-- The file was emptied for a text that could not be encoded. -/
  | emptied {run : Latin1.Unencodable} {before : Bytes} (read : ws.readBytes file = .ok before)
      (empty : ws'.readBytes file = .ok []) : LeftBy file ws ws' (.unencodable run)
  /-- The new text was written. -/
  | written (changed : ws'.readBytes file ≠ ws.readBytes file) : LeftBy file ws ws' .unknownRecorder

namespace Workspace

variable {ws : Workspace} {file : Path}

theorem earlyFaults_readBytes (ws : Workspace) (file : Path) : EarlyFaults (ws.readBytes file) := by
  apply faultsIn_readBytes
  · rfl
  · exact fun _ _ => rfl

/-- A file that can be read can be written and read again, unless it is a device that takes no more data. -/
theorem writeBytes_of_readBytes {before : Bytes} (hread : ws.readBytes file = .ok before) (bytes : Bytes) :
    (∃ ws', ws.writeBytes file bytes = .ok ws' ∧ ws'.readBytes file = .ok bytes) ∨
      bytes ≠ [] ∧ ws.writeBytes file bytes = .error .deviceFull := by
  unfold readBytes at hread
  cases hlocate : ws.locate file with
  | error fault =>
    rw [hlocate] at hread
    cases hread
  | ok loc =>
    rw [hlocate] at hread
    change ws.bytesAt file.render loc = .ok before at hread
    unfold bytesAt at hread
    split at hread
    · cases hread
    · cases hread
    · -- a regular file
      rename_i old hget
      have hne : loc ≠ [] := Tree.ne_nil_of_get? hget (by simp)
      refine .inl ⟨_, writeBytes_of_locate hlocate hget bytes, ?_⟩
      exact readBytes_of_locate (locate_put hne (by simp [hget]) hlocate) (by rw [get?_put _ hne, if_pos rfl])
    · -- a full device, where only writing nothing works
      rename_i hget
      by_cases hempty : bytes = []
      · subst hempty
        refine .inl ⟨ws, ?_, ?_⟩
        · simp [writeBytes, hlocate, writableAt, hget]
        · simp [readBytes, hlocate, bytesAt, hget]
      · simp [writeBytes, hlocate, writableAt, hget, hempty]

end Workspace

/-! ## Scripts -/

namespace Script

variable {before : Bytes}

variable {α β : Type} {file : Path} {ws : Workspace} {script : Script α}

/-- In every session with the workspace, the script ends in one way, and a fault leaves the file in a way that is
accounted for. -/
def Accounted (script : Script α) (file : Path) (ws : Workspace) : Prop :=
  ∃ outcome ws', script.Runs ws outcome ws' ∧ ∀ fault, outcome = .error fault → LeftBy file ws ws' fault

/-- The script leaves the workspace as it is and has no late faults. -/
def Early (script : Script α) (ws : Workspace) : Prop :=
  ∃ outcome, script.Runs ws outcome ws ∧ EarlyFaults outcome

theorem Early.of_runs {value : α} (h : script.Runs ws (.ok value) ws) : script.Early ws :=
  ⟨_, h, faultsIn_ok value⟩

theorem early_throw {fault : Fault} (h : fault.isEarly) : (throw fault : Script α).Early ws :=
  ⟨_, runs_throw fault ws, faultsIn_error h⟩

theorem Early.bind {next : α → Script β} (h : script.Early ws) (hnext : ∀ value, (next value).Early ws) :
    (script >>= next).Early ws := by
  obtain ⟨outcome, hruns, hearly⟩ := h
  cases outcome with
  | ok value =>
    obtain ⟨outcome', hruns', hearly'⟩ := hnext value
    exact ⟨outcome', hruns.bind hruns', hearly'⟩
  | error fault =>
    exact ⟨_, hruns.bind_error next, faultsIn_error (hearly fault rfl)⟩

theorem early_forM {items : List α} {script : α → Script Unit} (h : ∀ item, (script item).Early ws) :
    (items.forM script).Early ws := by
  induction items with
  | nil => exact .of_runs (runs_pure () ws)
  | cons item items ih => exact (h item).bind fun _ => ih

theorem Early.accounted (h : script.Early ws) : script.Accounted file ws := by
  obtain ⟨outcome, hruns, hearly⟩ := h
  exact ⟨outcome, ws, hruns, fun fault heq => .untouched (hearly fault heq) rfl⟩

theorem Early.bind_accounted {next : α → Script β} (h : script.Early ws)
    (hnext : ∀ value, (next value).Accounted file ws) : (script >>= next).Accounted file ws := by
  obtain ⟨outcome, hruns, hearly⟩ := h
  cases outcome with
  | ok value =>
    obtain ⟨outcome', ws', hruns', hleft⟩ := hnext value
    exact ⟨outcome', ws', hruns.bind hruns', hleft⟩
  | error fault =>
    refine ⟨.error fault, ws, hruns.bind_error next, ?_⟩
    rintro other ⟨⟩
    exact .untouched (hearly fault rfl) rfl

/-- A source that is read is there from then on. -/
theorem readSource_bind_accounted {next : Bytes → Script β}
    (hnext : ∀ before, ws.readBytes file = .ok before → (next before).Accounted file ws) :
    (readSource file >>= next).Accounted file ws := by
  cases hread : ws.readBytes file with
  | error fault =>
    refine ⟨.error fault, ws, runs_look_bind_error hread next, ?_⟩
    rintro other ⟨⟩
    exact .untouched (ws.earlyFaults_readBytes file fault hread) rfl
  | ok before =>
    obtain ⟨outcome, ws', hruns, hleft⟩ := hnext before hread
    exact ⟨outcome, ws', runs_look_bind hread hruns, hleft⟩

/-! ## Storing a text -/

/-- What storing a text comes to: the answer is yes only if the file has other bytes than before. -/
theorem runs_storeChanged (hread : ws.readBytes file = .ok before) (text : List Char) :
    ∃ outcome ws', (storeChanged file before text).Runs ws outcome ws' ∧
      (∀ fault, outcome = .error fault → LeftBy file ws ws' fault) ∧
      (outcome = .ok true → ws'.readBytes file ≠ ws.readBytes file) := by
  unfold storeChanged
  by_cases hsame : text == sourceText before
  · -- there is nothing to write
    simp only [hsame, if_true]
    exact ⟨_, ws, runs_pure false ws, by simp, by simp⟩
  · simp only [hsame, Bool.false_eq_true, if_false]
    unfold writeSource
    cases hencode : Latin1.encode text with
    | error run =>
      -- the file is emptied, which works for everything that can be read
      obtain ⟨ws', hwrite, hempty⟩ | ⟨hne, -⟩ := Workspace.writeBytes_of_readBytes hread []
      · refine ⟨.error (.unencodable run), ws', ?_, ?_, fun heq => nomatch heq⟩
        · exact Runs.bind_error (Runs.bind (runs_change hwrite) (runs_throw _ ws')) _
        · rintro fault ⟨⟩
          exact .emptied hread hempty
      · exact absurd rfl hne
    | ok bytes =>
      obtain ⟨ws', hwrite, hafter⟩ | ⟨-, hfull⟩ := Workspace.writeBytes_of_readBytes hread bytes
      · refine ⟨_, ws', Runs.bind (runs_change hwrite) (runs_look_bind hafter (runs_pure _ ws')),
          by simp, fun heq hbytes => ?_⟩
        -- bytes with another digest are other bytes
        have hdigest : (Digest.digest bytes != Digest.digest before) := Except.ok.inj heq
        rw [hafter, hread] at hbytes
        rw [Except.ok.inj hbytes] at hdigest
        simp at hdigest
      · refine ⟨_, ws, Runs.bind_error (runs_change_error hfull) _, ?_, fun heq => nomatch heq⟩
        rintro fault ⟨⟩
        exact .untouched rfl rfl

/-- A text is stored, and then a file that has changed is reported, which may be impossible. -/
theorem storeChanged_bind_accounted (hread : ws.readBytes file = .ok before) (text : List Char)
    {next : Bool → Script β} (hkept : ∀ ws, ∃ value, (next false).Runs ws (.ok value) ws)
    (hchanged : ∀ ws, ∃ outcome, (next true).Runs ws outcome ws ∧ ∀ fault, outcome = .error fault → fault = .unknownRecorder) :
    (storeChanged file before text >>= next).Accounted file ws := by
  obtain ⟨outcome, ws', hruns, hleft, hother⟩ := runs_storeChanged hread text
  rcases outcome with fault | changed
  · refine ⟨.error fault, ws', hruns.bind_error next, ?_⟩
    rintro other ⟨⟩
    exact hleft fault rfl
  · cases changed with
    | false =>
      obtain ⟨value, hlast⟩ := hkept ws'
      exact ⟨_, ws', hruns.bind hlast, fun _ heq => nomatch heq⟩
    | true =>
      obtain ⟨outcome, hlast, hfault⟩ := hchanged ws'
      refine ⟨outcome, ws', hruns.bind hlast, fun fault heq => ?_⟩
      rw [hfault fault heq]
      exact .written (hother rfl)

theorem storeChanged_say_accounted (hread : ws.readBytes file = .ok before) (text : List Char) (note : Note)
    (value : Bool → β) :
    (do
      let changed ← storeChanged file before text
      if changed then say note
      return value changed : Script β).Accounted file ws := by
  apply storeChanged_bind_accounted hread
  · exact fun ws => ⟨_, runs_pure _ ws⟩
  · exact fun ws => ⟨_, (runs_say note ws).bind (runs_pure _ ws), by simp⟩

end Script

/-! ## Renaming -/

theorem earlyFaults_rename (role : NameRole) (entry : String × String) (text : List Char) :
    EarlyFaults (rename role entry text) := by
  unfold rename
  split
  · exact faultsIn_ok _
  · exact faultsIn_error rfl

theorem earlyFaults_renameAll (role : NameRole) (table : Renaming) (text : List Char) :
    EarlyFaults (renameAll role table text) := by
  induction table generalizing text with
  | nil => exact faultsIn_ok _
  | cons entry rest ih =>
    apply (earlyFaults_rename role entry text).bind
    intro result
    exact (ih result.1).bind fun _ => faultsIn_ok _

/-- The notes about the entries of a renaming that are used. -/
def renameNotes (role : NameRole) (verbose : Bool) (tell : Nat → String × String → String) :
    Renaming → List Char → List Note
  | [], _ => []
  | entry :: rest, text =>
    match rename role entry text with
    | .error _ => []
    | .ok (renamed, count) =>
      (if verbose && 0 < count then [⟨tell count entry, "INFO", ""⟩] else []) ++
        renameNotes role verbose tell rest renamed

theorem severity_renameNotes {role : NameRole} {verbose : Bool} {tell : Nat → String × String → String}
    {table : Renaming} {text : List Char} : ∀ note ∈ renameNotes role verbose tell table text, note.severity = "INFO" := by
  fun_induction renameNotes role verbose tell table text with
  | case1 | case2 => simp
  | case3 entry rest text renamed count hrename ih =>
    intro note hnote
    rcases List.mem_append.1 hnote with hnote | hnote
    · split at hnote
      · rw [List.mem_singleton.1 hnote]
      · cases hnote
    · exact ih note hnote

/-- Renaming with notes renames as the one without. -/
theorem exec_renameTelling (role : NameRole) (verbose : Bool) (tell : Nat → String × String → String)
    (table : Renaming) (text : List Char) (session : Session) :
    (renameTelling role verbose tell table text).exec session =
      (renameAll role table text, session.tell (renameNotes role verbose tell table text)) := by
  induction table generalizing text session with
  | nil => simp [renameTelling, renameAll, renameNotes]
  | cons entry rest ih =>
    rw [renameTelling, renameAll, renameNotes]
    cases rename role entry text with
    | error fault => simp
    | ok result =>
      have hrest (session : Session) : (renameTelling role verbose tell rest result.1 >>= fun other =>
            pure (other.1, result.2 + other.2)).exec session =
          (renameAll role rest result.1 >>= fun other => pure (other.1, result.2 + other.2),
            session.tell (renameNotes role verbose tell rest result.1)) := by
        rw [exec_bind, ih]
        cases renameAll role rest result.1 <;> rfl
      dsimp only
      split
      · rw [exec_bind_ok (exec_say session _), ← Session.tell_tell]
        exact hrest _
      · exact hrest session

theorem early_renameTelling (role : NameRole) (verbose : Bool) (tell : Nat → String × String → String)
    (table : Renaming) (text : List Char) (ws : Workspace) :
    (renameTelling role verbose tell table text).Early ws := by
  refine ⟨renameAll role table text, fun session hws => ?_, earlyFaults_renameAll role table text⟩
  rw [exec_renameTelling]
  exact ⟨rfl, hws⟩

/-! ## Whole conversions -/

/-- The conversions of a single file. -/
inductive FileConversion (file : Path) : {α : Type} → Script α → Prop where
  | code (functions constants : Renaming) : FileConversion file (convertCode functions constants file)
  | opcUaSource (enumerators : Renaming) : FileConversion file (convertOpcUaSource enumerators file)
  | opcUaDeclarations (blocks types : Renaming) : FileConversion file (convertOpcUaDeclarations blocks types file)
  | motionEnumerators (enumerators : Renaming) (verbose : Bool) :
      FileConversion file (convertEnumerators enumerators verbose file)
  | motionMembers (members : Renaming) (verbose : Bool) : FileConversion file (convertMembers members verbose file)
  | motionDeclarations (blocks types removals : Renaming) (verbose : Bool) :
      FileConversion file (convertDeclarations blocks types removals verbose file)

namespace FileConversion

variable {file : Path} {α : Type} {script : Script α}

theorem accounted (h : FileConversion file script) (ws : Workspace) : script.Accounted file ws := by
  cases h with
  | code functions constants =>
    apply readSource_bind_accounted
    intro before hread
    have hrename : (convertCode.liftExcept (renameCode functions constants (sourceText before))).Early ws := by
      cases hresult : renameCode functions constants (sourceText before) with
      | error fault =>
        have hearly : EarlyFaults (renameCode functions constants (sourceText before)) :=
          (earlyFaults_renameAll _ _ _).bind fun _ => (earlyFaults_renameAll _ _ _).bind fun _ => faultsIn_ok _
        exact early_throw (hearly fault hresult)
      | ok result => exact .of_runs (runs_pure result ws)
    apply hrename.bind_accounted
    intro result
    exact storeChanged_say_accounted hread _ _ _
  | opcUaSource enumerators =>
    unfold convertOpcUaSource
    split
    · -- the libraries themselves are left alone
      exact (Early.of_runs (runs_pure _ ws)).accounted
    · apply readSource_bind_accounted
      intro before hread
      split
      · rename_i fault hrename
        exact (early_throw (earlyFaults_renameAll _ _ _ fault hrename)).accounted
      · exact storeChanged_say_accounted hread _ _ _
  | opcUaDeclarations blocks types =>
    unfold convertOpcUaDeclarations
    split
    · exact (Early.of_runs (runs_pure _ ws)).accounted
    · apply readSource_bind_accounted
      intro before hread
      split
      · rename_i fault hrename
        have hearly : EarlyFaults (renameDeclarations blocks types (sourceText before)) :=
          (earlyFaults_renameAll _ _ _).bind fun _ => (earlyFaults_renameAll _ _ _).bind fun _ => faultsIn_ok _
        exact (early_throw (hearly fault hrename)).accounted
      · -- a text that has changed is never written
        split
        · exact (early_throw rfl).accounted
        · exact (Early.of_runs (runs_pure _ ws)).accounted
  | motionEnumerators enumerators verbose =>
    apply readSource_bind_accounted
    intro before hread
    apply (early_renameTelling _ _ _ _ _ ws).bind_accounted
    intro result
    exact storeChanged_say_accounted hread _ _ _
  | motionMembers members verbose =>
    apply readSource_bind_accounted
    intro before hread
    apply (early_renameTelling _ _ _ _ _ ws).bind_accounted
    intro result
    apply storeChanged_bind_accounted hread
    · exact fun ws => ⟨_, runs_pure _ ws⟩
    · -- the report comes to nothing
      intro ws
      refine ⟨_, runs_throw _ ws, ?_⟩
      rintro fault ⟨⟩
      rfl
  | motionDeclarations blocks types removals verbose =>
    apply readSource_bind_accounted
    intro before hread
    apply (early_renameTelling _ _ _ _ _ ws).bind_accounted
    intro renamed
    refine (early_forM fun removal => ?_).bind_accounted fun _ => ?_
    · dsimp only
      split
      · exact .of_runs (runs_say _ ws)
      · exact .of_runs (runs_pure () ws)
    apply (early_renameTelling _ _ _ _ _ ws).bind_accounted
    intro result
    exact storeChanged_say_accounted hread _ _ _

/-- A conversion that ends with a fault leaves the bytes of its file as they were just if the fault is neither that a
change could not be reported nor, unless the file was empty, that the new text could not be encoded. In the latter case
the file is empty, and with any other fault no file has changed. -/
theorem readBytes_of_fault (h : FileConversion file script) {session after : Session} {fault : Fault}
    (hrun : script.exec session = (.error fault, after)) :
    (after.workspace.readBytes file = session.workspace.readBytes file ↔
      fault ≠ .unknownRecorder ∧ ((∃ run, fault = .unencodable run) → session.workspace.readBytes file = .ok [])) ∧
      ((∃ run, fault = .unencodable run) → after.workspace.readBytes file = .ok []) ∧
      (fault ≠ .unknownRecorder → (¬∃ run, fault = .unencodable run) → after.workspace = session.workspace) := by
  obtain ⟨outcome, ws', hruns, hleft⟩ := h.accounted session.workspace
  obtain ⟨hfault, hafter⟩ := hruns session rfl
  rw [hrun] at hfault hafter
  subst hafter
  cases hleft fault hfault.symm with
  | untouched early same =>
    have hrecorder : fault ≠ .unknownRecorder := by
      rintro rfl
      cases early
    have hencoded : ¬∃ run, fault = .unencodable run := by
      rintro ⟨run, rfl⟩
      cases early
    have hsame : after.workspace = session.workspace := same
    simp [hsame, hrecorder, hencoded]
  | emptied read empty => simp [empty, eq_comm]
  | written changed => simp [changed]

/-- A session with a single source. -/
def sampleSource : Session where
  workspace := ⟨Tree.empty.insert ["a.st"] (.file (latinBytes "x.StandBy := f(1);".toList)), []⟩

/-- A template that cannot be read leaves the source as it was. -/
theorem readBytes_of_fault_template :
    ∃ fault after, (convertCode [("f", "\\1")] [] (Path.ofString "a.st")).exec sampleSource = (.error fault, after) ∧
      after.workspace.readBytes (Path.ofString "a.st") = sampleSource.workspace.readBytes (Path.ofString "a.st") := by
  have hrun : (convertCode [("f", "\\1")] [] (Path.ofString "a.st")).exec sampleSource =
      (.error (.template (.written ⟨"invalid group reference 1", "\\1(".toList, 1⟩)), sampleSource) := by rfl
  exact ⟨_, _, hrun, (readBytes_of_fault (.code _ _) hrun).1.2 ⟨by simp, by simp⟩⟩

/-- A source in which a member is renamed is written, and yet the conversion ends with a fault. -/
theorem exec_convertMembers_written :
    ∃ after, (convertMembers [("StandBy", "Standby")] false (Path.ofString "a.st")).exec sampleSource =
        (.error .unknownRecorder, after) ∧
      after.workspace.readBytes (Path.ofString "a.st") = .ok (latinBytes "x.Standby := f(1);".toList) := by
  have hlocate : sampleSource.workspace.locate (Path.ofString "a.st") = .ok ["a.st"] := rfl
  have hget : sampleSource.workspace.tree.get? ["a.st"] = some (.file (latinBytes "x.StandBy := f(1);".toList)) := rfl
  have hstore := exec_storeChanged hlocate hget
    (by decide +kernel : ∀ c ∈ "x.Standby := f(1);".toList, Latin1.fits c = true) (by decide +kernel)
  have hdigest : (Digest.digest (latinBytes "x.Standby := f(1);".toList) !=
      Digest.digest (latinBytes "x.StandBy := f(1);".toList)) = true := by decide +kernel
  rw [hdigest] at hstore
  unfold convertMembers
  rw [Script.exec_bind_ok (by rfl : (readSource (Path.ofString "a.st")).exec sampleSource =
      (.ok (latinBytes "x.StandBy := f(1);".toList), sampleSource)),
    Script.exec_bind_ok (by rfl : (renameTelling .member false _ [("StandBy", "Standby")]
      (sourceText (latinBytes "x.StandBy := f(1);".toList))).exec sampleSource =
      (.ok ("x.Standby := f(1);".toList, 1), sampleSource)), Script.exec_bind_ok hstore]
  exact ⟨_, rfl, rfl⟩

end FileConversion

end StudioMigration
