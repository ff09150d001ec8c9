import StudioMigration.Analysis.Run
import StudioMigration.Proofs.Files.Workspace
import StudioMigration.Proofs.Inspection

/-!
# What cuts the checks short

The faults that the checks can end with are those of looking at files, of bytes that are no text, of numerals and of
documents. Their wording may quote a path or a piece of a file, but never with an escape character in it.

* `Fault.IsPlain` are the faults with such a wording.
* `Xml.isPlain_of_read` is the case of documents: of all that a document says only the name of its encoding gets into
  a wording.
* `raises_inspectProject` is the run over all checks, one lemma for each of their parts.
-/

namespace StudioMigration

open List Fault

variable {endings : List String} {stays : Workspace → Prop} {kind : Fault → Prop} (project : Path) (files : List Path)
  (line : List Char) (path : Path)

/-! ## Wordings -/

namespace Text

theorem escapeChar_not_mem_toDigits {base : Nat} (hpos : 0 < base) (hbase : base ≤ 16) (n : Nat) :
    escapeChar ∉ Nat.toDigits base n := by
  have hdigit : ∀ digit < 16, escapeChar ≠ Nat.digitChar digit := by decide
  suffices h : ∀ fuel n digits, escapeChar ∉ digits → escapeChar ∉ Nat.toDigitsCore base fuel n digits from
    h _ n [] (by simp)
  intro fuel
  induction fuel with
  | zero => exact fun n digits hdigits => hdigits
  | succ fuel ih =>
    intro n digits hdigits
    have hmore : escapeChar ∉ (n % base).digitChar :: digits := by
      rw [mem_cons, not_or]
      exact ⟨hdigit _ (Nat.lt_of_lt_of_le (Nat.mod_lt n hpos) hbase), hdigits⟩
    rw [Nat.toDigitsCore]
    split
    · exact hmore
    · exact ih _ _ hmore

@[simp] theorem escapeChar_not_mem_toString (n : Nat) : escapeChar ∉ (toString n).toList := by
  rw [show toString n = n.repr from rfl, Nat.repr_eq_ofList_toDigits, String.toList_ofList]
  exact escapeChar_not_mem_toDigits (by decide) (by decide) n

@[simp] theorem escapeChar_not_mem_hexPadded (width n : Nat) : escapeChar ∉ hexPadded width n := by
  have hzero : escapeChar ≠ '0' := by decide
  have hdigits : escapeChar ∉ Nat.toDigits 16 n := escapeChar_not_mem_toDigits (by decide) (by decide) n
  simp [hexPadded, hdigits, hzero]

theorem escapeChar_not_mem_escapeCode (c : Char) : escapeChar ∉ escapeCode c := by
  have hsigns : escapeChar ∉ ['\\', 'x', 'u', 'U'] := by decide
  simp only [mem_cons, not_or] at hsigns
  unfold escapeCode
  simp only []
  repeat' split
  all_goals simp [hsigns]

/-- A quoted text has escapes for whatever has no glyph. -/
theorem escapeChar_not_mem_quoted (text : List Char) : escapeChar ∉ quoted text := by
  have hsigns : escapeChar ∉ ['\\', 't', 'n', 'r'] := by decide
  simp only [mem_cons, not_or] at hsigns
  have hquote : escapeChar ≠ quoteFor text := by
    unfold quoteFor
    split <;> decide
  have hchar : ∀ c, escapeChar ∉ quoteChar (quoteFor text) c := by
    intro c
    unfold quoteChar
    split
    · rename_i hc
      rw [Bool.or_eq_true, beq_iff_eq, beq_iff_eq] at hc
      obtain rfl | rfl := hc <;> simp [hsigns, hquote]
    · repeat' split
      · simp [hsigns]
      · simp [hsigns]
      · simp [hsigns]
      · rename_i hprintable
        rw [mem_singleton]
        rintro rfl
        exact absurd hprintable (by decide)
      · exact escapeChar_not_mem_escapeCode c
  simp [quoted, hquote, hchar]

@[simp] theorem escapeChar_not_mem_quotedString (text : String) : escapeChar ∉ (quotedString text).toList := by
  rw [quotedString, String.toList_ofList]
  exact escapeChar_not_mem_quoted _

end Text

def Fault.IsPlain (fault : Fault) : Prop := escapeChar ∉ fault.message.toList

namespace Fault

theorem isPlain_nullByte : nullByte.IsPlain := by
  unfold IsPlain
  decide

theorem isPlain_file (obstacle : FileObstacle) (path : String) : (file obstacle path).IsPlain := by
  have hdescribe : escapeChar ∉ obstacle.describe.toList := by cases obstacle <;> decide
  unfold IsPlain message
  simp only [String.toList_append, mem_append, not_or, Text.escapeChar_not_mem_toString,
    Text.escapeChar_not_mem_quotedString, not_false_eq_true, and_true]
  exact ⟨⟨⟨by decide, by decide⟩, hdescribe⟩, by decide⟩

theorem isPlain_undecodable (place : Text.Utf8.Malformed) : (undecodable place.undecodable).IsPlain := by
  have hdescribe : escapeChar ∉ place.flaw.describe.toList := by cases place.flaw <;> decide
  unfold IsPlain message Text.Undecodable.describe Text.Utf8.Malformed.undecodable
  simp only []
  split
  · simp only [String.toList_append, String.toList_ofList, mem_append, not_or, Text.escapeChar_not_mem_toString,
      Text.escapeChar_not_mem_hexPadded, not_false_eq_true, and_true]
    exact ⟨⟨⟨by decide, by decide⟩, by decide⟩, by decide, hdescribe⟩
  · simp only [String.toList_append, mem_append, not_or, Text.escapeChar_not_mem_toString, not_false_eq_true, and_true]
    exact ⟨⟨⟨⟨by decide, by decide⟩, by decide⟩, by decide⟩, hdescribe⟩

theorem isPlain_numeral (flaw : Text.NumeralFlaw) : (numeral flaw).IsPlain := by
  unfold IsPlain message Text.NumeralFlaw.describe
  cases flaw with
  | malformed text =>
    simp only [String.toList_append, String.toList_ofList, mem_append, not_or]
    refine ⟨by decide, fun hmem => ?_⟩
    exact Text.escapeChar_not_mem_quoted text (mem_of_mem_take hmem)
  | tooLong digits =>
    simp only [String.toList_append, mem_append, not_or, Text.escapeChar_not_mem_toString, not_false_eq_true, and_true]
    exact ⟨⟨⟨by decide, by decide⟩, by decide⟩, by decide⟩

end Fault

/-! ## Documents -/

namespace Xml

variable {encoding : String} {bytes : Text.Utf8.Bytes} {name : List Char}

theorem toList_of_spelled (h : spelled name = .error (.unknownEncoding encoding)) : encoding.toList = name := by
  unfold spelled at h
  simp only [] at h
  repeat' split at h
  all_goals cases h
  exact String.toList_ofList

/-- Only the name of an encoding that was asked for is refused by name. -/
theorem name_of_charsetFor {found : Option Charset} {name : Option (List Char)}
    (h : charsetFor .inspecting found name = .error (.unknownEncoding encoding)) : name = some encoding.toList := by
  unfold charsetFor at h
  split at h
  · cases h
  · cases h
  · rename_i order name _
    repeat' split at h
    · cases h
    · cases h
    · cases hspelled : spelled name with
      | ok charset =>
        rw [hspelled] at h
        cases h
      | error refusal =>
        rw [hspelled] at h
        cases h
        rw [toList_of_spelled hspelled]
  · cases h
  · rename_i hreader _
    cases hreader
  · repeat' split at h
    · cases h
    · cases h
    · cases h
    · cases h
    · rw [toList_of_spelled h]

theorem isEncodingName_of_readDeclaration {reader : XmlReader} {text rest : List Char} {declaration : Declaration}
    (h : readDeclaration reader text = some (some declaration, rest)) : declaration.encoding.all isEncodingName := by
  unfold readDeclaration at h
  split at h
  · split at h
    · simp at h
    · simp only [Option.bind_eq_bind, Option.bind_eq_some_iff] at h
      obtain ⟨⟨version, text⟩, -, h⟩ := h
      split at h
      · simp at h
      · rename_i hvalid
        simp only [Bool.or_eq_true, Bool.not_eq_true', not_or, Bool.not_eq_false] at hvalid
        split at h
        · cases h
          exact hvalid.1.2
        · simp at h
  · simp at h

theorem escapeChar_not_mem_of_isEncodingName (h : isEncodingName name) : escapeChar ∉ name := by
  intro hmem
  rw [isEncodingName, Bool.and_eq_true, all_eq_true] at h
  exact absurd (h.2 _ hmem) (by decide)

theorem escapeChar_not_mem_of_documentText (h : documentText .inspecting bytes = .error (.unknownEncoding encoding)) :
    escapeChar ∉ encoding.toList := by
  unfold documentText at h
  simp only [] at h
  split at h
  · cases h
  · rename_i declaration rest hread
    cases hcharset : charsetFor .inspecting (detect .inspecting bytes).1 (declaration.bind (·.encoding)) with
    | error refusal =>
      rw [hcharset] at h
      cases h
      obtain ⟨declaration, rfl, hencoding⟩ := Option.bind_eq_some_iff.1 (name_of_charsetFor hcharset)
      have hname := isEncodingName_of_readDeclaration hread
      rw [hencoding] at hname
      exact escapeChar_not_mem_of_isEncodingName hname
    | ok charset =>
      rw [hcharset] at h
      simp only [ok_bind] at h
      repeat' split at h
      all_goals cases h

/-- A document that cannot be read is refused without an escape character. -/
theorem isPlain_of_read {refusal : XmlRefusal} (h : read .inspecting bytes = .error refusal) :
    (xml .inspecting refusal).IsPlain := by
  unfold Fault.IsPlain message
  cases refusal with
  | malformed => decide
  | wideEncoding => decide
  | unknownEncoding encoding =>
    have hencoding : escapeChar ∉ encoding.toList := by
      unfold read at h
      cases htext : documentText .inspecting bytes with
      | error refusal =>
        rw [htext] at h
        cases h
        exact escapeChar_not_mem_of_documentText htext
      | ok found =>
        rw [htext] at h
        simp only [ok_bind] at h
        repeat' split at h
        all_goals cases h
    unfold XmlRefusal.describe
    simp only [String.toList_append, mem_append, not_or]
    exact ⟨by decide, hencoding⟩

end Xml

/-! ## Answers of a workspace -/

/-- An answer, if it is a fault, is one with a plain wording. -/
abbrev PlainFaults {α : Type} (answer : Except Fault α) : Prop := FaultsIn Fault.IsPlain answer

namespace Workspace

variable (ws : Workspace)

theorem plainFaults_status (path : Path) : PlainFaults (ws.status path) := by
  unfold status
  split
  · exact faultsIn_ok _
  · exact faultsIn_error (isPlain_file _ _)
  · exact faultsIn_ok _

theorem plainFaults_readBytes (path : Path) : PlainFaults (ws.readBytes path) :=
  faultsIn_readBytes isPlain_nullByte isPlain_file ws path

theorem plainFaults_readText (path : Path) : PlainFaults (ws.readText path) := by
  refine (ws.plainFaults_readBytes path).bind fun bytes => ?_
  cases Text.Utf8.decode bytes with
  | ok text => exact faultsIn_ok _
  | error place => exact faultsIn_error (isPlain_undecodable place)

theorem plainFaults_list (path : Path) : PlainFaults (ws.list path) := by
  refine (faultsIn_locate isPlain_nullByte isPlain_file ws path).bind fun loc => ?_
  unfold listAt
  split
  · exact faultsIn_error (isPlain_file _ _)
  · exact faultsIn_ok _
  · exact faultsIn_error (isPlain_file _ _)

theorem plainFaults_find (start : Path) (accepts : String → Bool) : PlainFaults (ws.find start accepts) := by
  unfold find
  split
  · exact faultsIn_error (isPlain_file _ _)
  · exact faultsIn_ok _
  · split
    · exact faultsIn_ok _
    · exact faultsIn_ok _

end Workspace

/-! ## Scans -/

open Inspection

/-- An inspection raises no faults but those with a plain wording, whatever its looks meet. -/
abbrev Inspection.RaisesPlain {α : Type} (inspection : Inspection α) : Prop :=
  inspection.Raises (fun _ => True) Fault.IsPlain

theorem raises_find (start : Path) (accepts : String → Bool) : (ask fun ws => ws.find start accepts).RaisesPlain :=
  raises_ask fun ws _ => ws.plainFaults_find start accepts

theorem raises_holds : (ask fun ws => ws.holds path).RaisesPlain :=
  raises_ask fun ws _ => (ws.plainFaults_status path).map _

theorem raises_isDirectory : (ask fun ws => ws.isDirectory path).RaisesPlain :=
  raises_ask fun ws _ => (ws.plainFaults_status path).map _

theorem raises_list : (ask fun ws => ws.list path).RaisesPlain :=
  raises_ask fun ws _ => ws.plainFaults_list path

theorem raises_readLenient : (ask fun ws => ws.readLenient path).RaisesPlain :=
  raises_ask fun ws _ => (ws.plainFaults_readBytes path).bind fun _ => faultsIn_ok _

/-- The searches below a directory raise no faults but those of a kind. -/
structure Searches (stays : Workspace → Prop) (kind : Fault → Prop) (start : Path) : Prop where
  find : ∀ accepts, (ask fun ws => ws.find start accepts).Raises stays kind
  scan : ∀ {α : Type} {endings : List String}, (∀ ending ∈ endings, isPatternEnding ending = false) →
    ∀ scan : FileScan α, (scanFiles start endings scan).Raises stays kind

section Searches

variable {start : Path} (hfind : ∀ accepts, (ask fun ws => ws.find start accepts).Raises stays kind) {ending : String}

include hfind

theorem raises_entriesEnding (h : isPatternEnding ending = false) : (entriesEnding start ending).Raises stays kind := by
  unfold entriesEnding
  rw [h]
  exact hfind _

theorem raises_filesEnding (h : isPatternEnding ending = false) : (filesEnding start ending).Raises stays kind :=
  (raises_entriesEnding hfind h).bind fun _ => raises_pure _

theorem raises_filesEndingAny (h : ∀ ending ∈ endings, isPatternEnding ending = false) :
    (filesEndingAny start endings).Raises stays kind := by
  induction endings with
  | nil => exact raises_pure _
  | cons ending endings ih =>
    rw [forall_mem_cons] at h
    exact (raises_filesEnding hfind h.1).bind fun _ => (ih h.2).bind fun _ => raises_pure _

end Searches

/-- Wherever a search starts, its faults have a plain wording. -/
theorem searches_plain (start : Path) : Searches (fun _ => True) Fault.IsPlain start where
  find := raises_find start
  scan hendings scan := by
    refine (raises_filesEndingAny (raises_find start) hendings).bind fun files => ?_
    induction files with
    | nil => exact raises_pure _
    | cons file files ih =>
      refine Raises.bind ?_ fun _ => ih.bind fun _ => raises_pure _
      exact (raises_readLenient (Path.ofString file.render)).bind fun _ => raises_pure _

theorem raises_readDocument : (readDocument path).RaisesPlain := by
  refine (raises_ask fun ws _ => ws.plainFaults_readBytes path).bind fun bytes => ?_
  cases hread : Xml.read .inspecting bytes with
  | ok doc => exact raises_pure doc
  | error refusal => exact raises_throw (Xml.isPlain_of_read hread)

/-! ## Lines of the project file -/

theorem plainFaults_versionIn : PlainFaults (versionIn line) := by
  unfold versionIn
  repeat' split
  · exact faultsIn_error (isPlain_numeral _)
  · exact faultsIn_error (isPlain_numeral _)
  · exact faultsIn_ok _
  · exact faultsIn_ok _

theorem raises_versionOf : (versionOf line).RaisesPlain := by
  unfold versionOf
  split
  · exact raises_pure _
  · rename_i fault hversion
    exact raises_throw (plainFaults_versionIn line fault hversion)

theorem raises_versionNotes (notes : PackageVersion → List Note) :
    (versionOf line >>= fun version =>
      match version with
      | some version => sayAll (notes version)
      | none => pure ()).RaisesPlain := by
  refine (raises_versionOf line).bind fun version => ?_
  cases version with
  | none => exact raises_pure ()
  | some version => exact raises_sayAll _

theorem raises_projectLines : (projectLines project).RaisesPlain :=
  (raises_readLenient project).bind fun _ => raises_pure _

theorem raises_noteFolders (name : String) : (noteFolders project name).RaisesPlain :=
  (raises_find _ _).bind fun _ => raises_sayAll _

theorem raises_inspectVision (verbose : Bool) : (inspectVision project verbose).RaisesPlain := by
  refine (raises_say _).bind fun _ => (raises_projectLines project).bind fun lines => ?_
  refine (raises_forM fun line _ => ?_).bind fun _ => ?_
  · unfold inspectVisionLine
    split
    · exact raises_versionNotes line _
    · exact raises_pure ()
  · split
    · exact raises_noteFolders project _
    · exact raises_pure ()

theorem raises_inspectContents : (inspectContents files).Raises stays kind := by
  induction files with
  | nil => exact raises_pure ()
  | cons file files ih =>
    refine Raises.bind (Raises.tryCatch fun fault => (raises_say _).bind fun _ => raises_pure _) fun doc => ?_
    cases doc with
    | none => exact raises_pure ()
    | some doc => exact (raises_sayAll _).bind fun _ => ih

theorem raises_inspectView (verbose : Bool) : (inspectView project verbose).RaisesPlain := by
  refine (raises_say _).bind fun _ => (raises_projectLines project).bind fun lines => ?_
  refine (raises_forM fun line _ => ?_).bind fun _ => ?_
  · unfold inspectViewLine
    split
    · refine (raises_versionOf line).bind fun version => ?_
      have hcontents : (entriesEnding (project.parent.child "Logical") ".content" >>= fun contents =>
          inspectContents (contents.map (·.1))).RaisesPlain :=
        (raises_entriesEnding (raises_find _) (by decide)).bind fun _ => raises_inspectContents _
      cases version with
      | none => exact hcontents
      | some version => exact (raises_sayAll _).bind fun _ => hcontents
    · exact raises_pure ()
  · split
    · exact raises_noteFolders project _
    · exact raises_pure ()

theorem raises_inspectMappLine : (inspectMappLine line).RaisesPlain := by
  have hmotion : (if Text.hasInfix "<mappMotion ".toList line && Text.hasInfix "Version=\"5.".toList line then
      versionOf line >>= fun version =>
        match version with
        | some version => sayAll (motionNotes version)
        | none => pure ()
      else pure ()).RaisesPlain := by
    split
    · exact raises_versionNotes line motionNotes
    · exact raises_pure ()
  unfold inspectMappLine
  by_cases hservices : (declares "<mapp " line || declares "<mappServices" line)
  · rw [if_pos hservices]
    refine (raises_versionOf line).bind fun version => ?_
    cases version with
    | none => exact hmotion
    | some version => exact (raises_sayAll _).bind fun _ => hmotion
  · rw [if_neg hservices]
    exact hmotion

/-! ## Package directories -/

theorem raises_firstThere (paths : List Path) : (firstThere paths).RaisesPlain := by
  induction paths with
  | nil => exact raises_pure _
  | cons path paths ih =>
    refine (raises_holds path).bind fun there => ?_
    split
    · exact raises_pure _
    · exact ih

theorem raises_unreferenced (list : Path) (absent : List String) : (unreferenced list absent).Raises stays kind := by
  refine Raises.bind (Raises.tryCatch fun _ => (raises_say _).bind fun _ => raises_pure _) fun result => ?_
  cases result <;> exact raises_pure _

theorem raises_lackingPackages (config : Path) (needed : List String) :
    (lackingPackages config needed).RaisesPlain := by
  refine ((raises_find _ _).bind fun _ => raises_pure _).bind fun absent => ?_
  split
  · exact raises_pure _
  · refine ((raises_list _).bind fun _ => raises_firstThere _).bind fun list => ?_
    cases list with
    | none => exact raises_pure _
    | some list => exact raises_unreferenced list absent

theorem raises_lackingConfigurations (needed : List String) (configurations : List Path) :
    (lackingConfigurations needed configurations).RaisesPlain := by
  induction configurations with
  | nil => exact raises_pure _
  | cons config configurations ih =>
    exact (raises_lackingPackages config needed).bind fun _ => ih.bind fun _ => raises_pure _

theorem raises_inspectMappPackages : (inspectMappPackages project).RaisesPlain := by
  refine (raises_say _).bind fun _ => (raises_readLenient project).bind fun text => ?_
  refine (raises_forM fun line _ => raises_inspectMappLine line).bind fun _ => ?_
  refine (raises_isDirectory _).bind fun isDirectory => ?_
  split
  · refine (raises_list _).bind fun found => ?_
    exact (raises_lackingConfigurations _ _).bind fun _ => raises_sayIf _ _
  · exact raises_say _

/-! ## Widget libraries -/

theorem raises_keepWhere {question : Path → Workspace → Except Fault Bool}
    (h : ∀ path, (ask (question path)).RaisesPlain) (paths : List Path) : (keepWhere question paths).RaisesPlain := by
  induction paths with
  | nil => exact raises_pure _
  | cons path paths ih => exact (h path).bind fun _ => ih.bind fun _ => raises_pure _

theorem raises_widgetRoots (logical : Path) : (widgetRoots logical).RaisesPlain := by
  refine (raises_holds logical).bind fun there => ?_
  split
  · exact (raises_find _ _).bind fun views => raises_keepWhere raises_isDirectory _
  · exact raises_pure _

theorem raises_widgetKind? (folder : Path) : (widgetKind? folder).RaisesPlain := by
  refine (raises_isDirectory folder).bind fun isDirectory => ?_
  split
  · have hdescribed : (ask (fun ws => ws.holds (folder.child "Description.widgetlibrary")) >>= fun there =>
        if there then
          kindOfDescription <$> ask fun ws => ws.readText (folder.child "Description.widgetlibrary")
        else pure none).RaisesPlain := by
      refine (raises_holds _).bind fun there => ?_
      split
      · exact Raises.map (raises_ask fun ws _ => ws.plainFaults_readText _) _
      · exact raises_pure _
    refine (raises_holds _).bind fun hasMapping => ?_
    cases hasMapping with
    | false => exact hdescribed
    | true =>
      refine ((raises_readDocument _).map _).bind fun mapped => ?_
      cases mapped with
      | some kind => exact raises_pure _
      | none => exact hdescribed
  · exact raises_pure _

theorem raises_inspectWidgetFolders (logical : Path) (verbose : Bool) (folders : List Path) :
    (inspectWidgetFolders logical verbose folders).RaisesPlain := by
  induction folders with
  | nil => exact raises_pure _
  | cons folder folders ih =>
    refine (raises_widgetKind? folder).bind fun kind => (raises_sayAll _).bind fun _ => ?_
    exact ih.bind fun _ => raises_pure _

theorem raises_inspectWidgets (logical : Path) (verbose : Bool) : (inspectWidgets logical verbose).RaisesPlain := by
  have hroots : ∀ roots, (inspectWidgetRoots logical verbose roots).RaisesPlain := by
    intro roots
    induction roots with
    | nil => exact raises_pure _
    | cons root roots ih =>
      refine (raises_list root).bind fun found => (raises_inspectWidgetFolders _ _ _).bind fun current => ?_
      exact ih.bind fun _ => raises_pure _
  refine (raises_sayIf _ _).bind fun _ => (raises_widgetRoots logical).bind fun roots => ?_
  split
  · exact raises_sayIf _ _
  · exact (hroots roots).bind fun _ => raises_sayIf _ _

/-! ## The other checks -/

theorem raises_inspectNaming (path name : String) : (inspectNaming path name).Raises stays kind :=
  (raises_say _).bind fun _ => raises_sayIf _ _

theorem raises_savedVersionIssues : (savedVersionIssues files).Raises stays kind := by
  induction files with
  | nil => exact raises_pure _
  | cons file files ih =>
    refine Raises.bind (Raises.tryCatch fun fault => (raises_say _).bind fun _ => raises_pure _) fun issue => ?_
    exact ih.bind fun _ => raises_pure _

theorem raises_oldViewFiles : (oldViewFiles files).Raises stays kind := by
  induction files with
  | nil => exact raises_pure _
  | cons file files ih =>
    exact Raises.bind (Raises.tryCatch fun fault => raises_pure _) fun isOld => ih.bind fun _ => raises_pure _

theorem raises_filesWhere (test : List Char → Except PatternFlaw Bool) (files : List Path) :
    (filesWhere test files).Raises stays kind := by
  induction files with
  | nil => exact raises_pure _
  | cons file files ih =>
    exact Raises.bind (Raises.tryCatch fun fault => raises_pure _) fun counts => ih.bind fun _ => raises_pure _

/-- The names of functions with successors are well-formed patterns. -/
theorem exists_callPattern : ∃ pattern, callPattern Catalogue.deprecatedMathFunctions = .ok pattern := by
  have hok : (callPattern Catalogue.deprecatedMathFunctions).isOk := by decide +kernel
  cases hpattern : callPattern Catalogue.deprecatedMathFunctions with
  | ok pattern => exact ⟨pattern, rfl⟩
  | error flaw =>
    rw [hpattern] at hok
    simp [Except.isOk, Except.toBool] at hok

section Checks

variable {start : Path} (hstart : Searches stays kind start) (verbose : Bool)

include hstart

theorem raises_inspectSavedVersions (h : ∀ ending ∈ endings, isPatternEnding ending = false) (verbose : Bool) :
    (inspectSavedVersions start endings verbose).Raises stays kind := by
  refine (raises_say _).bind fun _ => Raises.bind ?_ fun issues => raises_sayAll _
  induction endings with
  | nil => exact raises_pure _
  | cons ending endings ih =>
    rw [forall_mem_cons] at h
    refine (raises_filesEnding hstart.find h.1).bind fun files => (raises_savedVersionIssues files).bind fun _ => ?_
    exact (ih h.2).bind fun _ => raises_pure _

theorem raises_inspectOpcUa : (inspectOpcUa start verbose).Raises stays kind := by
  refine (raises_say _).bind fun _ => (raises_entriesEnding hstart.find (by decide)).bind fun found => ?_
  exact (raises_oldViewFiles _).bind fun _ => raises_sayAll _

theorem raises_inspectHardware : (inspectHardware start verbose).Raises stays kind :=
  (raises_say _).bind fun _ => (hstart.scan (by decide) _).bind fun _ => raises_sayAll _

theorem raises_inspectFileDevices : (inspectFileDevices start verbose).Raises stays kind := by
  refine (raises_say _).bind fun _ => (hstart.scan (by decide) _).bind fun devices => ?_
  refine (hstart.scan (by decide) _).bind fun partitions => ?_
  exact (raises_sayAll _).bind fun _ => raises_sayAll _

theorem raises_inspectLibraries : (inspectLibraries start verbose).Raises stays kind := by
  refine (raises_say _).bind fun _ => (hstart.scan (by decide) _).bind fun manual => ?_
  refine (hstart.scan (by decide) _).bind fun obsolete => ?_
  refine (hstart.scan (by decide) _).bind fun dependencies => ?_
  exact (hstart.scan (by decide) _).bind fun includes => raises_sayAll _

theorem raises_inspectFunctions : (inspectFunctions start verbose).Raises stays kind := by
  refine (raises_say _).bind fun _ => (hstart.scan (by decide) _).bind fun blocks => ?_
  refine (hstart.scan (by decide) _).bind fun functions => (raises_sayAll _).bind fun _ => ?_
  refine Raises.bind ((raises_filesEndingAny hstart.find (by decide)).bind fun _ => raises_filesWhere _ _)
    fun stringFiles => Raises.bind ?_ fun mathFiles => (raises_sayAll _).bind fun _ => raises_sayAll _
  obtain ⟨pattern, hpattern⟩ := exists_callPattern
  unfold filesCalling
  rw [hpattern]
  exact (hstart.find _).bind fun _ => raises_filesWhere _ _

end Checks

theorem raises_findMappSafety : (findMappSafety project).Raises stays kind :=
  Raises.tryCatch fun _ => (raises_say _).bind fun _ => raises_pure _

theorem raises_findSafetyRelease : (findSafetyRelease files).Raises stays kind := by
  induction files with
  | nil => exact raises_pure _
  | cons file files ih =>
    refine Raises.bind (Raises.tryCatch fun fault => (raises_say _).bind fun _ => raises_pure _) fun found => ?_
    split
    · exact (raises_say _).bind fun _ => raises_pure _
    · exact ih

theorem raises_inspectSafety {project : Path} (hfolder : Searches stays kind project.parent)
    (hphysical : Searches stays kind (project.parent.child "Physical")) : (inspectSafety project).Raises stays kind := by
  refine (raises_say _).bind fun _ => Raises.bind ?_ fun found => raises_sayIf _ _
  refine (raises_findMappSafety project).bind fun isMapp => ?_
  split
  · exact raises_pure _
  · refine (raises_entriesEnding hphysical.find (by decide)).bind fun packages => ?_
    refine (raises_findSafetyRelease _).bind fun isOlder => ?_
    split
    · exact raises_pure _
    · refine (raises_entriesEnding hfolder.find (by decide)).bind fun programs => ?_
      exact (raises_sayAll _).bind fun _ => raises_pure _

/-- Whatever cuts the checks short is told without an escape character. -/
theorem raises_inspectProject (project file : String) (verbose : Bool) (scanTime : Nat) :
    (inspectProject project file verbose scanTime).RaisesPlain := by
  refine (raises_say _).bind fun _ => ?_
  refine (raises_inspectNaming project file).bind fun _ => ?_
  refine (raises_inspectSavedVersions (searches_plain _) (by decide) verbose).bind fun _ => ?_
  refine (raises_inspectOpcUa (searches_plain _) verbose).bind fun _ => ?_
  refine (raises_inspectHardware (searches_plain _) verbose).bind fun _ => ?_
  refine (raises_inspectFileDevices (searches_plain _) verbose).bind fun _ => ?_
  refine (raises_inspectLibraries (searches_plain _) verbose).bind fun _ => ?_
  refine (raises_inspectFunctions (searches_plain _) verbose).bind fun _ => ?_
  refine (raises_inspectSafety (searches_plain _) (searches_plain _)).bind fun _ => ?_
  refine (raises_inspectVision _ verbose).bind fun _ => ?_
  refine (raises_inspectView _ verbose).bind fun _ => ?_
  refine (raises_inspectWidgets _ verbose).bind fun _ => ?_
  refine (raises_inspectMappPackages _).bind fun _ => ?_
  exact raises_say _

end StudioMigration
