import StudioMigration.Proofs.Conversion.Remaining
import StudioMigration.Proofs.Inspection
import StudioMigration.Proofs.Pattern.Written

/-!
# Functions with successors and their conversion

The analysis looks for functions with successors, and a tool renames their calls. Here the two are compared.

* `report_filesUsing` and `report_filesCalling` say which files the analysis finds.
* `filesCalling_iff_convertCode` says that a plain file is found just if the conversion renames a call in it, and not
  any more after that.
* `filesUsing_after_stringConversion` says which files are found after the conversion of functions on strings.
-/

namespace StudioMigration

open Text List Catalogue Workspace
open Text.Utf8 (Bytes byteLength)

variable {names : Location} {bytes : Bytes}

/-! ## The files that are found -/

/-- Whether a file can be read and its text passes a test. -/
def Workspace.passes (ws : Workspace) (test : List Char → Except PatternFlaw Bool) (file : Path) : Bool :=
  match ws.readLenient file with
  | .error _ => false
  | .ok text =>
    match test text with
    | .ok result => result
    | .error _ => false

theorem report_filesWhere (ws : Workspace) (test : List Char → Except PatternFlaw Bool) (files : List Path) :
    (filesWhere test files).report ws = ([], .ok (files.filter (ws.passes test))) := by
  induction files with
  | nil => rfl
  | cons file files ih =>
    have hcounts : (Inspection.recover
        (Inspection.bind (Inspection.ask fun ws => ws.readLenient file) fun text =>
          pure (match test text with
            | .ok result => result
            | .error _ => false))
        fun _ => pure false).report ws = ([], .ok (ws.passes test file)) := by
      unfold Inspection.ask passes
      simp only [Inspection.bind, Inspection.recover, Inspection.report_look]
      cases ws.readLenient file with
      | error fault => rfl
      | ok text => rfl
    refine (Inspection.report_bind_ok hcounts _).trans ?_
    rw [Inspection.report_bind_ok ih, filter_cons]
    split <;> rfl

section Found

variable {ws : Workspace} (hsound : ws.tree.Sound) {logical : Path} {loc : Location}
  (hlocate : ws.locate logical = .ok loc)

include hsound hlocate

/-- A file below a directory passes a test just if its path is not too long and its text does. -/
theorem passes_descend_iff (hget : ws.tree.get? (loc ++ names) = some (.file bytes))
    (test : List Char → Except PatternFlaw Bool) :
    ws.passes test (logical.descend names) ↔
      byteLength (logical.descend names).render ≤ maxPathLength ∧ test (lenientText bytes) = .ok true := by
  by_cases hshort : byteLength (logical.descend names).render ≤ maxPathLength
  · have hread : ws.readLenient (logical.descend names) = .ok (lenientText bytes) := by
      rw [readLenient, readBytes_of_locate (locate_descend hsound hlocate hget hshort) hget]
      rfl
    rw [passes, hread, and_iff_right hshort]
    cases htest : test (lenientText bytes) with
    | error flaw => simp [htest]
    | ok result => simp [htest]
  · refine iff_of_false ?_ fun h => hshort h.1
    have hfault : ∀ place, ws.locate (logical.descend names) ≠ .ok place := fun place hplace =>
      hshort (locate_eq_ok_iff.1 hplace).2.1
    rw [passes, readLenient, readBytes]
    cases hlocated : ws.locate (logical.descend names) with
    | error fault => simp
    | ok place => exact absurd hlocated (hfault place)

/-- The files among those below a directory that pass a test. -/
theorem mem_filter_passes_iff {select : Location × Entry → Bool} (hfile : ∀ x, select x → x.2.isFile)
    (test : List Char → Except PatternFlaw Bool) {path : Path} :
    path ∈ (((ws.tree.below loc).filter select).map fun x => logical.descend x.1).filter (ws.passes test) ↔
      ∃ names bytes, path = logical.descend names ∧ names ≠ [] ∧
        SourceAt ws logical loc names (.file bytes) ∧ select (names, .file bytes) ∧
        test (lenientText bytes) = .ok true := by
  rw [mem_filter, mem_map]
  constructor
  · rintro ⟨⟨⟨names, entry⟩, hmem, rfl⟩, hpasses⟩
    obtain ⟨hbelow, hselect⟩ := mem_filter.1 hmem
    obtain ⟨hne, hget⟩ := (ws.tree.mem_below_iff loc).1 hbelow
    have hisFile := hfile _ hselect
    rcases entry with _ | bytes | _
    · cases hisFile
    · obtain ⟨hshort, htest⟩ := (passes_descend_iff hsound hlocate hget test).1 hpasses
      exact ⟨names, bytes, rfl, hne, ⟨hget, by simp, hshort⟩, hselect, htest⟩
    · cases hisFile
  · rintro ⟨names, bytes, rfl, hne, hsource, hselect, htest⟩
    refine ⟨⟨(names, .file bytes), ?_, rfl⟩, ?_⟩
    · exact mem_filter.2 ⟨(ws.tree.mem_below_iff loc).2 ⟨hne, hsource.get?⟩, hselect⟩
    · exact (passes_descend_iff hsound hlocate hsource.get? test).2 ⟨hsource.short, htest⟩

/-- The analysis finds a file by its ending, and a function on strings in it by its name alone. -/
theorem report_filesUsing :
    ∃ files, (filesUsing logical [".st"] deprecatedStringFunctions).report ws = ([], .ok files) ∧
      ∀ path, path ∈ files ↔ ∃ names bytes, path = logical.descend names ∧ names ≠ [] ∧
        SourceAt ws logical loc names (.file bytes) ∧ names.getLast?.any (hasEnding ".st") ∧
        ∃ name ∈ deprecatedStringFunctions, StandsIn name.toList (lenientText bytes) := by
  have hentries : (entriesEnding logical ".st").report ws =
      ([], .ok (((ws.tree.below loc).filter fun x => x.1.getLast?.any (hasEnding ".st")).map
        fun x => (logical.descend x.1, x.2))) := by
    rw [entriesEnding, Inspection.report_ask, if_neg (by decide), find_of_locate hsound hlocate]
  have hfiles : (filesEndingAny logical [".st"]).report ws =
      ([], .ok (((ws.tree.below loc).filter fun x =>
        x.2.isFile && x.1.getLast?.any (hasEnding ".st")).map fun x => logical.descend x.1)) := by
    unfold filesEndingAny filesEnding
    rw [Inspection.report_bind_ok (Inspection.report_bind_ok hentries _)]
    rw [filter_map, map_map, ← filter_filter]
    simp only [filesEndingAny, Inspection.report, bind, Inspection.bind, pure, append_nil]
    rfl
  refine ⟨_, (Inspection.report_bind_ok hfiles _).trans (report_filesWhere ws _ _), fun path => ?_⟩
  rw [mem_filter_passes_iff hsound hlocate (fun x hx => (Bool.and_eq_true_iff.1 hx).1)]
  refine exists_congr fun names => exists_congr fun bytes => ?_
  obtain ⟨found, hfound, hiff⟩ := usesAny_iff (lenientText bytes) (List.Subset.refl deprecatedStringFunctions)
  rw [hfound, ← hiff]
  simp [Entry.isFile]

/-- The analysis finds a file by its extension, and a mathematical function in it by its calls. -/
theorem report_filesCalling :
    ∃ files, (filesCalling logical [".st"] deprecatedMathFunctions).report ws = ([], .ok files) ∧
      ∀ path, path ∈ files ↔ ∃ names bytes, path = logical.descend names ∧ names ≠ [] ∧
        SourceAt ws logical loc names (.file bytes) ∧ (logical.descend names).extension = ".st" ∧
        ∃ name ∈ deprecatedMathFunctions, CalledIn name.toList (lenientText bytes) := by
  obtain ⟨pattern, hpattern, hiff⟩ := exists_callPattern_iff
  have hfind : (Inspection.ask fun ws => ws.find logical fun _ => true).report ws =
      ([], .ok ((ws.tree.below loc).map fun x => (logical.descend x.1, x.2))) := by
    rw [Inspection.report_ask, find_everything hsound hlocate]
  have hfiles : (((ws.tree.below loc).map fun x => (logical.descend x.1, x.2)).filter fun x =>
      [".st"].contains x.1.extension && x.2.isFile).map (·.1) =
      ((ws.tree.below loc).filter fun x =>
        [".st"].contains (logical.descend x.1).extension && x.2.isFile).map fun x => logical.descend x.1 := by
    rw [filter_map, map_map]
    rfl
  unfold filesCalling
  simp only [hpattern]
  refine ⟨_, (Inspection.report_bind_ok hfind _).trans (report_filesWhere ws _ _), fun path => ?_⟩
  rw [hfiles]
  refine (mem_filter_passes_iff hsound hlocate (fun x hx => (Bool.and_eq_true_iff.1 hx).2) _).trans ?_
  refine exists_congr fun names => exists_congr fun bytes => ?_
  rw [Except.ok.injEq, hiff]
  simp [Entry.isFile]

/-- Whether a given file is found is up to its text. -/
theorem report_filesCalling_at (hne : names ≠ []) (hsource : SourceAt ws logical loc names (.file bytes))
    (hextension : (logical.descend names).extension = ".st") :
    ∃ files, (filesCalling logical [".st"] deprecatedMathFunctions).report ws = ([], .ok files) ∧
      (logical.descend names ∈ files ↔ ∃ name ∈ deprecatedMathFunctions, CalledIn name.toList (lenientText bytes)) := by
  obtain ⟨files, hreport, hmem⟩ := report_filesCalling hsound hlocate
  refine ⟨files, hreport, (hmem _).trans ⟨?_, fun hcalled => ⟨names, bytes, rfl, hne, hsource, hextension, hcalled⟩⟩⟩
  rintro ⟨others, bytes', heq, -, hother, -, hcalled⟩
  obtain rfl : names = others := by simpa [Path.descend] using heq
  have hsame := hsource.get?.symm.trans hother.get?
  obtain rfl : bytes = bytes' := by simpa using hsame
  exact hcalled

end Found

/-! ## Mathematical functions -/

/-- The functions that the analysis looks for are those that the conversion renames. -/
theorem exists_calledIn_iff (text : List Char) :
    (∃ name ∈ deprecatedMathFunctions, CalledIn name.toList text) ↔
      1 ≤ (convertedCode mathFunctions mathConstants text).2.1 := by
  have hnames : deprecatedMathFunctions = mathFunctions.map (·.1) := rfl
  rw [(cleanTables_of_mem (by simp [codeTables])).calls_pos_iff, hnames]
  simp only [mem_map, exists_exists_and_eq_and]

/-- The analysis finds a plain file just if the conversion renames a call in it, and never after that. -/
theorem filesCalling_iff_convertCode {session : Session} (hsound : session.workspace.tree.Sound) {logical : Path}
    {location : Location} (hlocate : session.workspace.locate logical = .ok location) {names : Location}
    {bytes : Bytes} (hbelow : (names, Entry.file bytes) ∈ session.workspace.tree.below location)
    (hextension : (logical.descend names).extension = ".st")
    (hshort : byteLength (logical.descend names).render ≤ maxPathLength) (hascii : IsAscii bytes) :
    ∃ files outcome after files',
      (filesCalling logical [".st"] deprecatedMathFunctions).report session.workspace = ([], .ok files) ∧
      (convertCode mathFunctions mathConstants (logical.descend names)).exec session = (.ok outcome, after) ∧
      (filesCalling logical [".st"] deprecatedMathFunctions).report after.workspace = ([], .ok files') ∧
      (logical.descend names ∈ files ↔ 1 ≤ outcome.first) ∧ logical.descend names ∉ files' := by
  have htables : (mathFunctions, mathConstants) ∈ codeTables := by simp [codeTables]
  obtain ⟨hne, hget⟩ := (session.workspace.tree.mem_below_iff location).1 hbelow
  have hsource : SourceAt session.workspace logical location names (.file bytes) := ⟨hget, by simp, hshort⟩
  obtain ⟨files, hfiles, hmem⟩ := report_filesCalling_at hsound hlocate hne hsource hextension
  obtain ⟨changed, after, hrun, -, hhere, hget'⟩ :=
    exec_convertCode htables (Workspace.locate_descend hsound hlocate hget hshort) hget hsource.ne_directory
  have hreplaced : session.workspace.Replaced after.workspace (location ++ names) _ := ⟨hhere, hget'⟩
  have hlocate' := Workspace.locate_mono hhere (hreplaced.keepsDirectories hget hsource.ne_directory) hlocate
  have hsource' : SourceAt after.workspace logical location names
      (.file (convertedBytes mathFunctions mathConstants bytes)) := by
    refine ⟨?_, by simp, hshort⟩
    rw [hget', if_pos rfl]
    rfl
  obtain ⟨files', hfiles', hmem'⟩ := report_filesCalling_at
    (hreplaced.sound hget hsource.ne_directory hsound) hlocate' hne hsource' hextension
  refine ⟨files, _, after, files', hfiles, hrun, hfiles', ?_, ?_⟩
  · rw [hmem, lenientText_eq_sourceText hascii, exists_calledIn_iff]
    rfl
  · rw [hmem', lenientText_convertedBytes htables hascii, exists_calledIn_iff,
      convertedCode_convertedCode (cleanTables_of_mem htables)]
    exact Nat.not_succ_le_zero 0

/-- The call of the sample is found, counted, and then found no more. -/
theorem filesCalling_iff_convertCode_sample :
    IsAscii (latinBytes "y := pow (amPI);\r\n".toList) ∧
    ∃ files outcome after files',
      (filesCalling ⟨.here, ["M"]⟩ [".st"] deprecatedMathFunctions).report sampleProject.workspace = ([], .ok files) ∧
      (convertCode mathFunctions mathConstants ⟨.here, ["M", "Logical", "a.st"]⟩).exec sampleProject =
        (.ok outcome, after) ∧
      (filesCalling ⟨.here, ["M"]⟩ [".st"] deprecatedMathFunctions).report after.workspace = ([], .ok files') ∧
      outcome.first = 1 ∧ ⟨.here, ["M", "Logical", "a.st"]⟩ ∈ files ∧
      ⟨.here, ["M", "Logical", "a.st"]⟩ ∉ files' := by
  have hascii : IsAscii (latinBytes "y := pow (amPI);\r\n".toList) := by decide +kernel
  have hlocate : sampleProject.workspace.locate ⟨.here, ["M"]⟩ = .ok ["M"] := rfl
  have hbelow : ((["Logical", "a.st"] : Location), Entry.file (latinBytes "y := pow (amPI);\r\n".toList)) ∈
      sampleProject.workspace.tree.below ["M"] := by decide +kernel
  have hcount : ((convertCode mathFunctions mathConstants ⟨.here, ["M", "Logical", "a.st"]⟩).exec
      sampleProject).1.toOption.map (·.first) = some 1 := by decide +kernel
  obtain ⟨files, outcome, after, files', hfiles, hrun, hfiles', hmem, hgone⟩ :=
    filesCalling_iff_convertCode (by decide +kernel) hlocate hbelow (by decide) (by decide) hascii
  have hfirst : outcome.first = 1 := by
    have hsome := congrArg (fun run => run.1.toOption.map PairOutcome.first) hrun
    exact Option.some.inj (hsome.symm.trans hcount)
  exact ⟨hascii, files, outcome, after, files', hfiles, hrun, hfiles', hfirst, hmem.2 hfirst.ge, hgone⟩

/-! ## Functions on strings -/

/-- A session in which a conversion of calls and constants can be run on a project: its tree is sound, the folder is
that of a project, no directory looks like a source, the paths are not too long, and the answer is yes. -/
structure Approved (session : Session) (line : List String) (loc : Location) : Prop where
  sound : session.workspace.tree.Sound
  project : session.workspace.HasProject (Path.ofString (session.projectFolder line)) loc
  noDirectory : ∀ x ∈ session.workspace.tree.sources codeExtensions (loc ++ ["Logical"]), x.2 ≠ .directory
  shortList : byteLength (libraryList (Path.ofString (session.projectFolder line))).render ≤ maxPathLength
  shortSources : ∀ x ∈ session.workspace.tree.sources codeExtensions (loc ++ ["Logical"]),
    byteLength ((session.logicalFolder line).descend x.1).render ≤ maxPathLength
  yes : session.saysYes

/-- A file below the sources of a project whose name ends as that of structured text, and that can be read. -/
structure IsStructuredText (session : Session) (line : List String) (loc names : Location)
    (bytes : Bytes) : Prop where
  ne_nil : names ≠ []
  source : SourceAt session.workspace (session.logicalFolder line) (loc ++ ["Logical"]) names (.file bytes)
  ending : names.getLast?.any (hasEnding ".st")

/-- Whether the analysis finds a function on strings in a file once the conversion has been there. The conversion
takes a name that is nothing but an extension for one without any, and leaves such a file alone. -/
def StillUsed (names : Location) (bytes : Bytes) : Prop :=
  ∃ name ∈ deprecatedStringFunctions, StandsIn name.toList (lenientText
    (if names.getLast? = some ".st" then bytes else convertedBytes stringFunctions stringConstants bytes))

/-- In a plain file just the names stay that were not called. -/
theorem stillUsed_iff_bareIn (hname : names.getLast? ≠ some ".st") (hascii : IsAscii bytes) :
    StillUsed names bytes ↔ ∃ name ∈ deprecatedStringFunctions, BareIn name.toList (sourceText bytes) := by
  have htables : (stringFunctions, stringConstants) ∈ codeTables := by simp [codeTables]
  have hnames : deprecatedStringFunctions = stringFunctions.map (·.1) := rfl
  unfold StillUsed
  rw [if_neg hname, lenientText_convertedBytes htables hascii, hnames]
  simp only [mem_map, exists_exists_and_eq_and]
  apply exists_congr
  intro entry
  apply and_congr_right
  intro hentry
  exact (cleanTables_of_mem htables).standsIn_convertedCode_iff hentry (sourceText bytes)

/-- A name that ends as that of structured text has that extension unless it is nothing else. -/
theorem hasExtension_of_hasEnding (hending : names.getLast?.any (hasEnding ".st")) :
    hasExtension codeExtensions names = decide (names.getLast? ≠ some ".st") := by
  obtain ⟨last, hlast, hlastEnding⟩ := (Option.any_eq_true _ _).1 hending
  obtain ⟨stem, hstem⟩ := isSuffixOf_iff_suffix.1 hlastEnding
  have hname : (Path.relative names).name = last := by simp [Path.name, Path.relative, hlast]
  have hreversed : last.toList.reverse = 't' :: 's' :: '.' :: stem.reverse := by simp [← hstem]
  rw [hasExtension, Path.extension, hname, hreversed, hlast]
  cases stem using reverseRecOn with
  | nil =>
    obtain rfl : last = ".st" := String.toList_inj.1 hstem.symm
    decide
  | append_singleton stem c =>
    have hne : last ≠ ".st" := by
      rintro rfl
      have hlength := congrArg length hstem
      simp at hlength
    simp [codeExtensions, hne]

theorem Entry.converted_eq_file_iff {functions constants : Renaming} {entry : Entry} :
    entry.converted functions constants = .file bytes ↔
      ∃ old, entry = .file old ∧ bytes = convertedBytes functions constants old := by
  rcases entry with _ | old | _
  · simp [Entry.converted]
  · simp [Entry.converted, eq_comm]
  · simp [Entry.converted]

theorem isSourceAt_append (extensions : List String) (loc : Location) (hne : names ≠ []) :
    isSourceAt extensions loc (loc ++ names) = hasExtension extensions names := by
  have hprefix : loc.isPrefixOf (loc ++ names) := isPrefixOf_iff_prefix.2 (prefix_append _ _)
  have hlength : loc.length < (loc ++ names).length := by
    rw [length_append]
    exact Nat.lt_add_of_pos_right (length_pos_iff.2 hne)
  rw [isSourceAt, hprefix, decide_eq_true hlength, drop_left]
  rfl

/-- The conversion of functions on strings ends well and converts the sources, whatever their digests are. -/
theorem exec_runStringConversion (caller : String) {line : List String} {session : Session} {loc : Location}
    (h : Approved session line loc) :
    ∃ after, (runStringConversion caller line).exec session = (.ok (), after) ∧ after.workspace.tree.Sound ∧
      after.workspace.locate (session.logicalFolder line) = .ok (loc ++ ["Logical"]) ∧
      ∀ names ≠ [], after.workspace.tree.get? (loc ++ ["Logical"] ++ names) =
        (session.workspace.tree.get? (loc ++ ["Logical"] ++ names)).map fun entry =>
          if hasExtension codeExtensions names then entry.converted stringFunctions stringConstants else entry := by
  have hconversion : ⟨runStringConversion, stringFunctions, stringConstants⟩ ∈ codeConversions := by
    simp [codeConversions]
  have htables : (stringFunctions, stringConstants) ∈ codeTables := by simp [codeTables]
  have hlogical := h.project.locate_logical h.shortList
  have hsources : ∀ x ∈ session.workspace.tree.sources codeExtensions (loc ++ ["Logical"]),
      SourceAt session.workspace (session.logicalFolder line) (loc ++ ["Logical"]) x.1 x.2 := by
    intro x hx
    have hget := ((session.workspace.tree.mem_below_iff _).1 (mem_filter.1 hx).1).2
    exact ⟨hget, h.noDirectory x hx, h.shortSources x hx⟩
  have hsound := h.sound
  obtain ⟨before, hws, hrun⟩ := exec_run_eq hconversion caller h.project h.shortList
  rw [if_pos h.yes] at hrun
  rw [← hws] at hlogical hsources hsound ⊢
  obtain ⟨after, report, tally, hconvert, hhere, hget, -⟩ := exec_convertSources htables hsound hlogical hsources
  have hkept : Tree.KeepsDirectories before.workspace.tree after.workspace.tree := by
    intro place hplace
    rw [hget, hplace, Option.map_some]
    split <;> rfl
  refine ⟨after, hrun.trans hconvert, ?_, locate_mono hhere hkept hlogical, fun names hne => ?_⟩
  · apply hsound.of_keepsDirectories hkept
    intro place hplace hnone
    rw [hget, hnone] at hplace
    exact hplace rfl
  · rw [hget, isSourceAt_append codeExtensions _ hne]

/-- After the conversion of functions on strings, the analysis still finds those files in which one of their names
stands in the text that it reads. In a plain file these are the names that are not called. -/
theorem filesUsing_after_stringConversion (caller : String) {line : List String} {session : Session}
    {location : Location} (h : Approved session line location) :
    ∃ after files, (runStringConversion caller line).exec session = (.ok (), after) ∧
      (filesUsing (session.logicalFolder line) [".st"] deprecatedStringFunctions).report
        after.workspace = ([], .ok files) ∧
      (∀ path, path ∈ files ↔ ∃ names bytes, path = (session.logicalFolder line).descend names ∧
        IsStructuredText session line location names bytes ∧ StillUsed names bytes) ∧
      (files = [] ↔ ∀ names bytes, IsStructuredText session line location names bytes → ¬StillUsed names bytes) ∧
      ∀ names bytes, names.getLast? ≠ some ".st" → IsAscii bytes → (StillUsed names bytes ↔
        ∃ name ∈ deprecatedStringFunctions, BareIn name.toList (sourceText bytes)) := by
  obtain ⟨after, hrun, hsound, hlocate, hget⟩ := exec_runStringConversion caller h
  obtain ⟨files, hfiles, hmem⟩ := report_filesUsing hsound hlocate
  have hfound : ∀ path, path ∈ files ↔ ∃ names bytes, path = (session.logicalFolder line).descend names ∧
      IsStructuredText session line location names bytes ∧ StillUsed names bytes := by
    intro path
    rw [hmem]
    apply exists_congr
    intro names
    -- the file has the bytes that the conversion gave it, if it got there
    constructor
    · rintro ⟨bytes', rfl, hne, hsource, hending, hused⟩
      have hthere := hsource.get?
      rw [hget names hne, hasExtension_of_hasEnding hending] at hthere
      obtain ⟨entry, hentry, hbytes⟩ := Option.map_eq_some_iff.1 hthere
      by_cases hname : names.getLast? = some ".st"
      · rw [if_neg (by simpa using hname)] at hbytes
        subst hbytes
        refine ⟨bytes', rfl, ⟨hne, ⟨hentry, by simp, hsource.short⟩, hending⟩, ?_⟩
        rwa [StillUsed, if_pos hname]
      · rw [if_pos (by simpa using hname)] at hbytes
        obtain ⟨bytes, rfl, rfl⟩ := Entry.converted_eq_file_iff.1 hbytes
        refine ⟨bytes, rfl, ⟨hne, ⟨hentry, by simp, hsource.short⟩, hending⟩, ?_⟩
        rwa [StillUsed, if_neg hname]
    · rintro ⟨bytes, rfl, htext, hused⟩
      have hthere := hget names htext.ne_nil
      rw [htext.source.get?, hasExtension_of_hasEnding htext.ending, Option.map_some] at hthere
      rw [StillUsed] at hused
      by_cases hname : names.getLast? = some ".st"
      · rw [if_neg (by simpa using hname)] at hthere
        rw [if_pos hname] at hused
        exact ⟨_, rfl, htext.ne_nil, ⟨hthere, by simp, htext.source.short⟩, htext.ending, hused⟩
      · rw [if_pos (by simpa using hname)] at hthere
        rw [if_neg hname] at hused
        exact ⟨_, rfl, htext.ne_nil, ⟨hthere, by simp, htext.source.short⟩, htext.ending, hused⟩
  refine ⟨after, files, hrun, hfiles, hfound, ?_, fun names bytes => stillUsed_iff_bareIn⟩
  rw [eq_nil_iff_forall_not_mem]
  constructor
  · intro hempty names bytes htext hused
    exact hempty _ ((hfound _).2 ⟨names, bytes, rfl, htext, hused⟩)
  · intro hnone path hpath
    obtain ⟨names, bytes, -, htext, hused⟩ := (hfound path).1 hpath
    exact hnone names bytes htext hused

/-- A project with a function on strings that is called in one source and named in another, and with a call in a file
whose name is nothing but an extension. -/
def stringProject : Session where
  workspace := {
    tree := (((((Tree.empty.insert ["M"] .directory).insert ["M", "m.apj"] (.file [])).insert
      ["M", "Logical"] .directory).insert ["M", "Logical", "called.st"]
        (.file (latinBytes "n := strlen (x);".toList))).insert ["M", "Logical", "named.st"]
          (.file (latinBytes "f := strlen;".toList))).insert ["M", "Logical", ".st"]
            (.file (latinBytes "n := strlen(x);".toList))
    here := [] }

theorem approved_stringProject : Approved stringProject ["M"] ["M"] := by
  refine ⟨?_, ⟨?_, ?_, ?_⟩, ?_, ?_, ?_, ?_⟩
  · decide +kernel
  · rfl
  · rfl
  · decide +kernel
  · decide +kernel
  · decide +kernel
  · decide +kernel
  · rfl

/-- The file with the call is found no more, those with the bare name and with nothing but an extension are. -/
theorem filesUsing_after_stringConversion_sample :
    ∃ after files, (runStringConversion "tool" ["M"]).exec stringProject = (.ok (), after) ∧
      (filesUsing ⟨.here, ["M", "Logical"]⟩ [".st"] deprecatedStringFunctions).report
        after.workspace = ([], .ok files) ∧
      ⟨.here, ["M", "Logical", "called.st"]⟩ ∉ files ∧ ⟨.here, ["M", "Logical", "named.st"]⟩ ∈ files ∧
      ⟨.here, ["M", "Logical", ".st"]⟩ ∈ files := by
  obtain ⟨after, files, hrun, hfiles, hmem, -, hplain⟩ :=
    filesUsing_after_stringConversion "tool" approved_stringProject
  refine ⟨after, files, hrun, hfiles, ?_, ?_, ?_⟩
  · rw [hmem]
    rintro ⟨names, bytes, hpath, htext, name, hname, hstands⟩
    have hparts : ["M", "Logical"] ++ ["called.st"] = ["M", "Logical"] ++ names := congrArg Path.parts hpath
    obtain rfl : ["called.st"] = names := append_cancel_left hparts
    obtain rfl : latinBytes "n := strlen (x);".toList = bytes := Entry.file.inj (Option.some.inj htext.source.get?)
    obtain ⟨found, hfound, hiff⟩ := usesAny_iff
      (lenientText (convertedBytes stringFunctions stringConstants (latinBytes "n := strlen (x);".toList)))
      (List.Subset.refl deprecatedStringFunctions)
    have hnone : usesAny (lenientText (convertedBytes stringFunctions stringConstants
        (latinBytes "n := strlen (x);".toList))) deprecatedStringFunctions = .ok false := by decide +kernel
    rw [hiff.2 ⟨name, hname, hstands⟩, hnone] at hfound
    cases hfound
  · refine (hmem _).2 ⟨["named.st"], latinBytes "f := strlen;".toList, rfl, ⟨by simp, ⟨rfl, by simp, by decide⟩, rfl⟩,
      ?_⟩
    refine (hplain _ _ (by decide) (by decide +kernel)).2 ⟨"strlen", by decide, ?_⟩
    exact ⟨"f := ".toList, ";".toList, by decide, rfl, rfl, rfl⟩
  · refine (hmem _).2 ⟨[".st"], latinBytes "n := strlen(x);".toList, rfl, ⟨by simp, ⟨rfl, by simp, by decide⟩, rfl⟩, ?_⟩
    refine ⟨"strlen", by decide, ?_⟩
    exact ⟨"n := ".toList, "(x);".toList, by decide, rfl, rfl⟩

/-- A name that is not called stays, so that the analysis goes on to advise the conversion. -/
theorem filesUsing_after_stringConversion_bareName :
    ∃ after, (runStringConversion "tool" ["M"]).exec stringProject = (.ok (), after) ∧
      (filesUsing ⟨.here, ["M", "Logical"]⟩ [".st"] deprecatedStringFunctions).report after.workspace =
        ([], .ok [⟨.here, ["M", "Logical", ".st"]⟩, ⟨.here, ["M", "Logical", "named.st"]⟩]) := by
  obtain ⟨after, hrun, hsound, hlocate, -⟩ := exec_runStringConversion "tool" approved_stringProject
  obtain ⟨files, hfiles, -⟩ := report_filesUsing hsound hlocate
  have hafter : ((runStringConversion "tool" ["M"]).exec stringProject).2 = after := congrArg Prod.snd hrun
  have hlist : ((filesUsing ⟨.here, ["M", "Logical"]⟩ [".st"] deprecatedStringFunctions).report
      ((runStringConversion "tool" ["M"]).exec stringProject).2.workspace).2.toOption =
        some [⟨.here, ["M", "Logical", ".st"]⟩, ⟨.here, ["M", "Logical", "named.st"]⟩] := by decide +kernel
  rw [hafter] at hlist
  have hsame := congrArg (fun report => report.2.toOption) hfiles
  exact ⟨after, hrun, Option.some.inj (hsame.symm.trans hlist) ▸ hfiles⟩

end StudioMigration
