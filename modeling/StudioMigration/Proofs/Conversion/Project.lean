import Mathlib.Algebra.GroupWithZero.Nat
import Mathlib.Data.List.Basic
import StudioMigration.Proofs.Conversion.Renaming
import StudioMigration.Proofs.Conversion.Source

/-!
# Converting the sources of a project

What a conversion of calls and constants does to the files of a project and what it reports, for the whole
run of the tool.

* `convertedCode_eq_self_iff` says that the text of a file changes if and only if something is renamed in it.
* `exec_convertCode` is the step for one file, and `exec_convertFiles` the run over all of them.
* `codeConversion_files` puts the run of a tool together.
-/

namespace StudioMigration

open List CodeTally Workspace Session Text Script
open Text.Utf8 (Bytes byteLength)

variable {text : List Char} {c : Char} {session : Session} {logical project : Path} {loc : Location}
  {functions constants : Renaming} {conversion : CodeConversion} {line : List String} {ws : Workspace}

/-! ## What is in a converted text -/

/-- A character of a converted text was there before, belongs to a new name, or opens a call. -/
theorem mem_piecesText_codePieces {functions constants : NewNames}
    (h : c ∈ piecesText (codePieces functions constants text)) :
    c ∈ text ∨ c = '(' ∨ ∃ word new, (functions word = some new ∨ constants word = some new) ∧ c ∈ new := by
  induction text using wordsInduction with
  | nil => simp at h
  | other d rest hd ih =>
    rw [codePieces_other _ _ hd] at h
    simp only [piecesText_cons, CodePiece.text, cons_append, nil_append, mem_cons] at h
    rcases h with rfl | h
    · exact .inl mem_cons_self
    · exact (ih h).imp_left (mem_cons_of_mem d)
  | name word after hword hafter ih =>
    have hrest : ∀ rest, rest <:+ after → c ∈ piecesText (codePieces functions constants rest) →
        c ∈ word ++ after ∨ c = '(' ∨
          ∃ word new, (functions word = some new ∨ constants word = some new) ∧ c ∈ new := by
      intro rest hrest hmem
      refine (ih rest hrest.length_le hmem).imp_left fun hmem => ?_
      exact mem_append_right _ (hrest.subset hmem)
    by_cases hcall : functions word = none ∨ callBody? after = none
    · rw [codePieces_noncall _ _ hword hafter hcall, piecesText_cons, mem_append] at h
      rcases h with h | h
      · rcases hnew : constants word with _ | new
        · simp only [hnew, Option.map_none, Option.getD_none, CodePiece.text] at h
          exact .inl (mem_append_left _ h)
        · simp only [hnew, Option.map_some, Option.getD_some, CodePiece.text] at h
          exact .inr (.inr ⟨word, new, .inr hnew, h⟩)
      · exact hrest after suffix_rfl h
    · obtain ⟨new, body, hnew, hbody⟩ := exists_of_isCall hcall
      rw [codePieces_call _ _ hword hnew hbody, piecesText_cons, mem_append] at h
      rcases h with h | h
      · simp only [CodePiece.text, mem_append, mem_singleton] at h
        rcases h with h | rfl
        · exact .inr (.inr ⟨word, new, .inl hnew, h⟩)
        · exact .inr (.inl rfl)
      · apply hrest body _ h
        rw [callBody?_eq_some_iff] at hbody
        exact ⟨after.takeWhile isSpace ++ ['('], by simpa using hbody.symm⟩

theorem piecesText_of_countP_eq_zero {functions constants : NewNames}
    (hcalls : (codePieces functions constants text).countP CodePiece.isCall = 0)
    (hconstants : (codePieces functions constants text).countP CodePiece.isConstant = 0) :
    piecesText (codePieces functions constants text) = text := by
  induction text using wordsInduction with
  | nil => simp
  | other d rest hd ih =>
    rw [codePieces_other _ _ hd] at hcalls hconstants ⊢
    simp only [countP_cons, CodePiece.isCall, Bool.false_eq_true, if_false, Nat.add_zero] at hcalls
    simp [CodePiece.text, ih hcalls hconstants]
  | name word after hword hafter ih =>
    by_cases hcall : functions word = none ∨ callBody? after = none
    · rw [codePieces_noncall _ _ hword hafter hcall] at hcalls hconstants ⊢
      rcases hnew : constants word with _ | new
      · simp only [hnew, Option.map_none, Option.getD_none, countP_cons, CodePiece.isCall,
          CodePiece.isConstant, Bool.false_eq_true, if_false, Nat.add_zero] at hcalls hconstants
        simp [CodePiece.text, ih after le_rfl hcalls hconstants]
      · simp [hnew, CodePiece.isConstant] at hconstants
    · obtain ⟨new, body, hnew, hbody⟩ := exists_of_isCall hcall
      simp [codePieces_call _ _ hword hnew hbody, CodePiece.isCall] at hcalls

/-- The text of a file changes if and only if something is renamed in it. -/
theorem convertedCode_eq_self_iff (h : CleanTables functions constants) (text : List Char) :
    (convertedCode functions constants text).1 = text ↔ (convertedCode functions constants text).2 = (0, 0) := by
  constructor
  · intro hsame
    -- A second conversion finds nothing, and here it is the first one over again.
    have htwice := convertedCode_convertedCode h text
    rw [hsame] at htwice
    rw [htwice]
  · intro hcounts
    obtain ⟨hcalls, hconstants⟩ := Prod.mk.inj hcounts
    exact piecesText_of_countP_eq_zero hcalls hconstants

theorem mem_convertedCode (h : c ∈ (convertedCode functions constants text).1) :
    c ∈ text ∨ c = '(' ∨ ∃ entry ∈ functions ++ constants, c ∈ entry.2.toList := by
  refine (mem_piecesText_codePieces h).imp_right (Or.imp_right ?_)
  rintro ⟨word, new, hnew | hnew, hc⟩
  · obtain ⟨entry, hmem, -, rfl⟩ := Renaming.exists_of_newName? hnew
    exact ⟨entry, mem_append_left _ hmem, hc⟩
  · obtain ⟨entry, hmem, -, rfl⟩ := Renaming.exists_of_newName? hnew
    exact ⟨entry, mem_append_right _ hmem, hc⟩

/-- What is true of every character of a text and of the new names stays so. -/
theorem forall_mem_convertedCode {functions constants : Renaming} {text : List Char} {holds : Char → Prop}
    (hnames : ∀ entry ∈ functions ++ constants, ∀ c ∈ entry.2.toList, holds c) (hparen : holds '(')
    (h : ∀ c ∈ text, holds c) : ∀ c ∈ (convertedCode functions constants text).1, holds c := by
  intro c hc
  rcases mem_convertedCode hc with hc | rfl | ⟨entry, hentry, hc⟩
  · exact h c hc
  · exact hparen
  · exact hnames entry hentry c hc

/-! ## The bytes of a converted file -/

section Bytes

variable (htables : (functions, constants) ∈ codeTables)

/-- The bytes of a file after the conversion: those of the new text, if something is renamed in it. -/
def convertedBytes (functions constants : Renaming) (bytes : Bytes) : Bytes :=
  let result := convertedCode functions constants (sourceText bytes)
  if result.2 = (0, 0) then bytes else latinBytes result.1

include htables

/-- New names are made of letters and digits that every encoding has. -/
theorem newNames_fit {entry : String × String} (hentry : entry ∈ functions ++ constants) (hc : c ∈ entry.2.toList) :
    Latin1.fits c ∧ c ≠ '\r' := by
  have hall : ∀ tables ∈ codeTables, ∀ entry ∈ tables.1 ++ tables.2, ∀ c ∈ entry.2.toList,
      Latin1.fits c ∧ c ≠ '\r' := by decide +kernel
  exact hall (functions, constants) htables entry hentry c hc

theorem fits_convertedCode (h : ∀ c ∈ text, Latin1.fits c) :
    ∀ c ∈ (convertedCode functions constants text).1, Latin1.fits c :=
  forall_mem_convertedCode (fun _ hentry _ hc => (newNames_fit htables hentry hc).1) (by decide) h

theorem return_not_mem_convertedCode (h : '\r' ∉ text) : '\r' ∉ (convertedCode functions constants text).1 := fun hc =>
  forall_mem_convertedCode (fun _ hentry _ hc => (newNames_fit htables hentry hc).2) (by decide)
    (fun _ hc heq => h (heq ▸ hc)) _ hc rfl

theorem sourceText_convertedBytes (bytes : Bytes) :
    sourceText (convertedBytes functions constants bytes) =
      (convertedCode functions constants (sourceText bytes)).1 := by
  simp only [convertedBytes]
  split
  · rename_i hcounts
    exact ((convertedCode_eq_self_iff (cleanTables_of_mem htables) _).2 hcounts).symm
  · apply sourceText_latinBytes (fits_convertedCode htables fun c hc => fits_of_mem_sourceText hc)
    exact return_not_mem_convertedCode htables (not_mem_unifyNewlines _)

/-- The bytes of a file change if and only if something is renamed in it. -/
theorem convertedBytes_eq_self_iff (bytes : Bytes) :
    convertedBytes functions constants bytes = bytes ↔
      (convertedCode functions constants (sourceText bytes)).2 = (0, 0) := by
  constructor
  · intro hsame
    have htext := sourceText_convertedBytes htables bytes
    rw [hsame] at htext
    exact (convertedCode_eq_self_iff (cleanTables_of_mem htables) _).1 htext.symm
  · intro hcounts
    simp [convertedBytes, hcounts]

end Bytes

/-! ## One file -/

/-- An entry after the conversion of its bytes. -/
def Entry.converted (functions constants : Renaming) : Entry → Entry
  | .file bytes => .file (convertedBytes functions constants bytes)
  | entry => entry

/-- The digests of an entry before and after the conversion tell whether it has changed. -/
def Entry.Distinguished (functions constants : Renaming) (entry : Entry) : Prop :=
  Digest.digest (convertedBytes functions constants entry.bytes) = Digest.digest entry.bytes →
    convertedBytes functions constants entry.bytes = entry.bytes

instance (functions constants : Renaming) (entry : Entry) : Decidable (entry.Distinguished functions constants) :=
  inferInstanceAs (Decidable (_ → _))

def Entry.outcome (functions constants : Renaming) (entry : Entry) : PairOutcome :=
  let result := convertedCode functions constants (sourceText entry.bytes)
  ⟨result.2.1, result.2.2, entry.converted functions constants != entry⟩

theorem convertedCode_empty (functions constants : Renaming) :
    convertedCode functions constants (sourceText []) = (sourceText [], 0, 0) := by
  simp [convertedCode, sourceText, Latin1.decode, unifyNewlines, CodePiece.summary]

theorem Entry.converted_eq_self_iff (htables : (functions, constants) ∈ codeTables) (entry : Entry) :
    entry.converted functions constants = entry ↔
      (convertedCode functions constants (sourceText entry.bytes)).2 = (0, 0) := by
  rcases entry with _ | bytes | _
  · simp [Entry.converted, Entry.bytes, convertedCode_empty]
  · simp [Entry.converted, Entry.bytes, convertedBytes_eq_self_iff htables]
  · simp [Entry.converted, Entry.bytes, convertedCode_empty]

theorem Entry.converted_eq_stored (htables : (functions, constants) ∈ codeTables) (entry : Entry) :
    entry.converted functions constants =
      entry.stored (convertedCode functions constants (sourceText entry.bytes)).1 := by
  cases entry with
  | file bytes => simp only [Entry.converted, Entry.stored, convertedBytes, storedBytes, Entry.bytes,
      convertedCode_eq_self_iff (cleanTables_of_mem htables)]
  | _ => rfl

/-- Converting a file replaces its bytes and nothing else. Only whether it is taken as changed is up to the
digests. -/
theorem exec_convertCode (htables : (functions, constants) ∈ codeTables) {file : Path} {entry : Entry}
    (hlocate : session.workspace.locate file = .ok loc) (hget : session.workspace.tree.get? loc = some entry)
    (hentry : entry ≠ .directory) :
    ∃ changed after, (convertCode functions constants file).exec session =
        (.ok { entry.outcome functions constants with changed := changed }, after) ∧
      (entry.Distinguished functions constants → changed = (entry.outcome functions constants).changed) ∧
      session.workspace.Replaced after.workspace loc (entry.converted functions constants) := by
  have hread := readBytes_of_entry hlocate hget hentry
  have hrename := renameCode_eq_convertedCode (cleanTables_of_mem htables) (sourceText entry.bytes)
  have hstored := entry.converted_eq_stored htables
  have hfile : (convertedCode functions constants (sourceText entry.bytes)).1 = sourceText entry.bytes ∨
      ∃ bytes, entry = .file bytes := by
    cases entry with
    | directory => exact absurd rfl hentry
    | file bytes => exact .inr ⟨bytes, rfl⟩
    | fullDevice => exact .inl (by simp [Entry.bytes, convertedCode_empty])
  unfold convertCode
  rw [exec_bind_ok (by rw [readSource, exec_look, hread]), hrename, hstored]
  refine ⟨_, _, exec_storeChanged_telling hget hfile rfl hlocate
    (fits_convertedCode htables fun c hc => fits_of_mem_sourceText hc) rfl (writtenNote _ "changes" file)
    (PairOutcome.mk (entry.outcome functions constants).first (entry.outcome functions constants).second),
    fun hdigest => ?_, replaced_store hget hfile⟩
  rw [← hstored]
  cases entry with
  | file bytes =>
    rw [Bool.eq_iff_iff]
    simp only [Entry.outcome, Entry.converted, Entry.bytes, bne_iff_ne, ne_eq, Entry.file.injEq]
    exact not_congr ⟨hdigest, fun heq => by rw [heq]⟩
  | _ => simp [Entry.outcome, Entry.converted]

/-! ## All files -/

/-- Two tallies taken together. -/
def CodeTally.plus (tally more : CodeTally) : CodeTally :=
  ⟨tally.functions + more.functions, tally.constants + more.constants, tally.files + more.files⟩

def CodeTally.total (functions constants : Renaming) (entries : List Entry) : CodeTally :=
  let outcomes := entries.map (Entry.outcome functions constants)
  ⟨(outcomes.map (·.first)).sum, (outcomes.map (·.second)).sum, outcomes.countP (·.changed)⟩

theorem CodeTally.add_outcome (htables : (functions, constants) ∈ codeTables) (tally : CodeTally) (entry : Entry)
    (entries : List Entry) :
    (tally.add (entry.outcome functions constants)).plus (total functions constants entries) =
      tally.plus (total functions constants (entry :: entries)) := by
  have hadd : tally.add (entry.outcome functions constants) =
      ⟨tally.functions + (entry.outcome functions constants).first,
        tally.constants + (entry.outcome functions constants).second,
        tally.files + if (entry.outcome functions constants).changed then 1 else 0⟩ := by
    unfold CodeTally.add
    split
    · rfl
    · rename_i hchanged
      have hsame : entry.converted functions constants = entry := by
        simpa [Entry.outcome] using hchanged
      have hcounts := (entry.converted_eq_self_iff htables).1 hsame
      simp [Entry.outcome, hcounts]
  simp only [hadd, plus, total, map_cons, sum_cons, countP_cons, mk.injEq]
  omega

/-- A source below a directory: something other than a directory, at a path that is not too long. -/
structure SourceAt (ws : Workspace) (logical : Path) (loc names : Location) (entry : Entry) : Prop where
  get? : ws.tree.get? (loc ++ names) = some entry
  ne_directory : entry ≠ .directory
  short : byteLength (logical.descend names).render ≤ maxPathLength

/-- A source below a directory with digests that tell whether it has changed. -/
structure IsSource (functions constants : Renaming) (ws : Workspace) (logical : Path)
    (loc names : Location) (entry : Entry) : Prop where
  get? : ws.tree.get? (loc ++ names) = some entry
  ne_directory : entry ≠ .directory
  short : byteLength (logical.descend names).render ≤ maxPathLength
  distinguished : entry.Distinguished functions constants

/-- Converting the sources below a directory, one after the other, converts each of them once and leaves
everything else alone. -/
theorem exec_convertFiles (htables : (functions, constants) ∈ codeTables) (sources : List (Location × Entry))
    (hsound : session.workspace.tree.Sound) (hlocate : session.workspace.locate logical = .ok loc)
    (hsources : ∀ x ∈ sources, SourceAt session.workspace logical loc x.1 x.2)
    (hdistinct : sources.Pairwise fun x y => x.1 ≠ y.1) (tally : CodeTally) :
    ∃ result after, (convertFiles functions constants tally (sources.map fun x => logical.descend x.1)).exec
          session = (.ok result, after) ∧
      ((∀ x ∈ sources, x.2.Distinguished functions constants) →
        result = tally.plus (total functions constants (sources.map (·.2)))) ∧
      after.workspace.here = session.workspace.here ∧
      (∀ place, after.workspace.tree.get? place =
        (session.workspace.tree.get? place).map fun entry =>
          if place ∈ sources.map (fun x => loc ++ x.1) then entry.converted functions constants
          else entry) := by
  induction sources generalizing session tally with
  | nil =>
    refine ⟨tally, session, rfl, fun _ => ?_, rfl, ?_⟩
    · simp [plus, total]
    · simp
  | cons x sources ih =>
    obtain ⟨names, entry⟩ := x
    rw [pairwise_cons] at hdistinct
    have hsource := hsources _ mem_cons_self
    have hthere := locate_descend hsound hlocate hsource.get? hsource.short
    obtain ⟨changed, between, hfirst, hchanged, hreplaced⟩ :=
      exec_convertCode htables hthere hsource.get? hsource.ne_directory
    have hsound' := hreplaced.sound hsource.get? hsource.ne_directory hsound
    have hlocate' := locate_mono hreplaced.here
      (hreplaced.keepsDirectories hsource.get? hsource.ne_directory) hlocate
    have hsources' : ∀ x ∈ sources, SourceAt between.workspace logical loc x.1 x.2 := by
      intro x hx
      have hother := hsources x (mem_cons_of_mem _ hx)
      exact ⟨(hreplaced.get?_other (hdistinct.1 x hx)).trans hother.get?, hother.ne_directory, hother.short⟩
    obtain ⟨result, after, hrest, htally, hhere', hget'⟩ := ih hsound' hlocate' hsources' hdistinct.2
      (tally.add { entry.outcome functions constants with changed := changed })
    refine ⟨result, after, ?_, ?_, hhere'.trans hreplaced.here, ?_⟩
    · rw [map_cons, convertFiles, exec_bind_ok hfirst, hrest]
    · intro hall
      rw [forall_mem_cons] at hall
      rw [htally hall.2, hchanged hall.1, map_cons, ← add_outcome htables]
    · intro place
      rw [hget', hreplaced.get?]
      simp only [map_cons, mem_cons]
      by_cases hplace : place = loc ++ names
      · have hnot : place ∉ sources.map fun x => loc ++ x.1 := by
          rw [mem_map]
          rintro ⟨x, hx, hplace'⟩
          exact hdistinct.1 x hx (append_cancel_left (hplace.symm.trans hplace'.symm))
        simp only [hplace] at hnot
        simp [hplace, hnot, hsource.get?]
      · simp only [hplace, if_false, false_or]

/-! ## The sources of a project -/

def hasExtension (extensions : List String) (names : Location) : Bool :=
  extensions.contains (Path.relative names).extension

/-- Everything below a directory with one of the extensions, seen from there. -/
def Tree.sources (tree : Tree) (extensions : List String) (loc : Location) : List (Location × Entry) :=
  (tree.below loc).filter fun x => hasExtension extensions x.1

/-- Whether a location lies below a directory and has one of the extensions. -/
def isSourceAt (extensions : List String) (loc place : Location) : Bool :=
  loc.isPrefixOf place && loc.length < place.length &&
    hasExtension extensions (place.drop loc.length)

theorem Path.extension_descend (path : Path) {names : Location} (hne : names ≠ []) :
    (path.descend names).extension = (Path.relative names).extension := by
  have hname : (path.descend names).name = (Path.relative names).name := by
    simp [Path.name, Path.descend, Path.relative, getLast?_eq_some_getLast hne]
  simp [Path.extension, hname]

theorem mem_sources_iff (tree : Tree) (extensions : List String) (loc : Location) {place : Location}
    {entry : Entry} (hget : tree.get? place = some entry) :
    place ∈ (tree.sources extensions loc).map (fun x => loc ++ x.1) ↔
      isSourceAt extensions loc place := by
  simp only [Tree.sources, mem_map, mem_filter, isSourceAt, Bool.and_eq_true, isPrefixOf_iff_prefix, decide_eq_true_eq]
  constructor
  · rintro ⟨⟨names, found⟩, ⟨hmem, hextension⟩, rfl⟩
    have hne := ((tree.mem_below_iff loc).1 hmem).1
    exact ⟨⟨prefix_append _ _, by simp [length_pos_iff.2 hne]⟩, by simpa using hextension⟩
  · rintro ⟨⟨⟨names, rfl⟩, hlength⟩, hextension⟩
    have hne : names ≠ [] := by
      rintro rfl
      simp at hlength
    exact ⟨(names, entry), ⟨(tree.mem_below_iff loc).2 ⟨hne, hget⟩, by simpa using hextension⟩, rfl⟩

/-- The search for names finds what stands below a directory in walking order. -/
theorem Workspace.find_of_locate (hsound : ws.tree.Sound) (hlocate : ws.locate logical = .ok loc)
    (accepts : String → Bool) :
    ws.find logical accepts = .ok (((ws.tree.below loc).filter fun x => x.1.getLast?.any accepts).map
      fun x => (logical.descend x.1, x.2)) := by
  simp only [find, hlocate]
  split
  · rw [← filterMap_eq_map, filterMap_filter]
    rfl
  · rename_i hdir
    -- Nothing lies below what is no directory.
    have hempty : ws.tree.below loc = [] := by
      rw [eq_nil_iff_forall_not_mem]
      rintro ⟨names, entry⟩ hmem
      obtain ⟨hne, hget⟩ := (ws.tree.mem_below_iff loc).1 hmem
      exact hdir ((ws.tree.isDirectory_iff loc).2 (hsound.get?_above hne hget))
    rw [hempty]
    rfl

theorem Workspace.find_everything (hsound : ws.tree.Sound) (hlocate : ws.locate logical = .ok loc) :
    ws.find logical (fun _ => true) = .ok ((ws.tree.below loc).map fun x => (logical.descend x.1, x.2)) := by
  rw [find_of_locate hsound hlocate, filter_eq_self.2]
  intro x hx
  have hne := ((ws.tree.mem_below_iff loc).1 hx).1
  simp [getLast?_eq_some_getLast hne]

/-- The search for sources finds them in walking order. -/
theorem exec_sourcesWith (hsound : session.workspace.tree.Sound)
    (hlocate : session.workspace.locate logical = .ok loc) (extensions : List String) :
    (sourcesWith logical extensions).exec session =
      (.ok ((session.workspace.tree.sources extensions loc).map fun x => logical.descend x.1),
        session) := by
  have hpaths : (((session.workspace.tree.below loc).map fun x => (logical.descend x.1, x.2)).map
      (·.1)).filter (fun path => extensions.contains path.extension) =
      (session.workspace.tree.sources extensions loc).map fun x => logical.descend x.1 := by
    rw [map_map, filter_map]
    congr 1
    apply filter_congr
    intro x hx
    have hne := ((session.workspace.tree.mem_below_iff loc).1 hx).1
    simp [hasExtension, Path.extension_descend logical hne]
  unfold sourcesWith
  rw [exec_bind_ok (by rw [exec_look, find_everything hsound hlocate]), hpaths]
  rfl

/-! ## The run of a tool -/

/-- A conversion of calls and constants as a tool. -/
structure CodeConversion where
  run : String → List String → Script Unit
  functions : Renaming
  constants : Renaming

/-- The two conversions of calls and constants. -/
def codeConversions : List CodeConversion :=
  [⟨runMathConversion, mathFunctions, mathConstants⟩,
   ⟨runStringConversion, stringFunctions, stringConstants⟩]

/-- The extensions of structured text and of Automation Basic. -/
def codeExtensions : List String := [".st", ".ab"]

/-- A session in which a conversion can be run on a project: its tree is sound, the folder is that of a
project, no directory looks like a source, the paths are not too long, the digests of the sources tell
whether they have changed, and the answer is yes. -/
structure Convertible (conversion : CodeConversion) (session : Session) (line : List String)
    (loc : Location) : Prop where
  sound : session.workspace.tree.Sound
  project : session.workspace.HasProject (Path.ofString (session.projectFolder line)) loc
  noDirectory : ∀ x ∈ session.workspace.tree.sources codeExtensions (loc ++ ["Logical"]),
    x.2 ≠ .directory
  shortList : byteLength (libraryList (Path.ofString (session.projectFolder line))).render ≤ maxPathLength
  shortSources : ∀ x ∈ session.workspace.tree.sources codeExtensions (loc ++ ["Logical"]),
    byteLength (((Path.ofString (session.projectFolder line)).child "Logical").descend x.1).render ≤
      maxPathLength
  distinguished : ∀ x ∈ session.workspace.tree.sources codeExtensions (loc ++ ["Logical"]),
    x.2.Distinguished conversion.functions conversion.constants
  yes : session.saysYes

theorem exec_usesMathLibrary (session : Session) (h : session.workspace.HasProject project loc)
    (hshort : byteLength (libraryList project).render ≤ maxPathLength) :
    ∃ found, (usesMathLibrary project).exec session = (.ok found, session) := by
  obtain ⟨text, htext⟩ := exec_libraryListText? h hshort
  unfold usesMathLibrary
  rw [exec_bind_ok htext]
  exact ⟨_, rfl⟩

theorem exec_librariesIn (session : Session) (h : session.workspace.HasProject project loc)
    (hshort : byteLength (libraryList project).render ≤ maxPathLength) (names : List String) (complaint : String) :
    ∃ found notes, (librariesIn project names complaint).exec session = (.ok found, session.tell notes) := by
  obtain ⟨text, htext⟩ := exec_libraryListText? h hshort
  unfold librariesIn
  rw [exec_bind_ok htext]
  rcases text with _ | text
  · rw [exec_bind_ok (exec_say session _)]
    exact ⟨_, _, rfl⟩
  · exact ⟨_, [], by rw [tell_nil]; rfl⟩

/-- If the answer is yes, the run goes on with the conversion of the project. -/
theorem exec_run_eq (hconversion : conversion ∈ codeConversions) (caller : String)
    (hproject : session.workspace.HasProject (Path.ofString (session.projectFolder line)) loc)
    (hshort : byteLength (libraryList (Path.ofString (session.projectFolder line))).render ≤ maxPathLength) :
    ∃ before : Session, before.workspace = session.workspace ∧
      (conversion.run caller line).exec session =
        (if session.saysYes then convertProject conversion.functions conversion.constants
          (Path.ofString (session.projectFolder line)) else pure ()).exec before := by
  obtain ⟨file, hfile⟩ := exec_requireProject hproject caller
  simp only [codeConversions, mem_cons, not_mem_nil, or_false] at hconversion
  rcases hconversion with rfl | rfl
  · unfold runMathConversion
    rw [exec_bind_ok (exec_projectArgument session line), exec_bind_ok hfile,
      exec_bind_ok (exec_announceProject _ _ _), exec_bind_ok (exec_say _ _),
      tell_tell]
    obtain ⟨found, hfound⟩ := exec_usesMathLibrary (session.tell _) hproject hshort
    rw [exec_bind_ok hfound, exec_bind_ok (exec_say _ _), tell_tell, exec_bind_ok (exec_say _ _), tell_tell]
    exact exec_say_confirm_bind session _ _ _ _ _ _ _ _ _
  · unfold runStringConversion
    rw [exec_bind_ok (exec_projectArgument session line), exec_bind_ok hfile, exec_bind_ok (exec_announceProject _ _ _)]
    obtain ⟨found, notes, hfound⟩ := exec_librariesIn (session.tell _) hproject hshort
      ["AsString", "AsWStr"] "Could not find Package.pkg file in: "
    rw [exec_bind_ok hfound, tell_tell, exec_bind_ok (exec_say _ _), tell_tell, exec_bind_ok (exec_say _ _), tell_tell]
    exact exec_say_confirm_bind session _ _ _ _ _ _ _ _ _

/-- The files whose entries differ after the conversion of some sources are those that it has changed. -/
theorem countP_changed {tree after : Tree} {extensions : List String}
    (hget : ∀ place, after.get? place = (tree.get? place).map fun entry => if isSourceAt extensions loc place then entry.converted functions constants else entry) :
    (tree.below []).countP (fun x => after.get? x.1 != some x.2) =
      (total functions constants ((tree.sources extensions loc).map (·.2))).files := by
  have hcount : (total functions constants
      ((tree.sources extensions loc).map (·.2))).files =
        (tree.below loc).countP fun x =>
          x.2.converted functions constants != x.2 && hasExtension extensions x.1 := by
    simp only [total, Tree.sources, countP_map, countP_filter]
    rfl
  rw [hcount, tree.below_eq_filterMap loc, countP_filterMap]
  apply countP_congr
  intro x hx
  have hx := ((tree.mem_below_iff []).1 hx).2
  rw [nil_append] at hx
  rw [hget, hx]
  cases hbelow : loc.isPrefixOf x.1 && loc.length < x.1.length with
  | false => simp [isSourceAt, hbelow]
  | true =>
    cases hextension : hasExtension extensions (x.1.drop loc.length) with
    | false => simp [isSourceAt, hbelow, hextension]
    | true => simp [isSourceAt, hbelow, hextension]

/-- The conversion of a project converts its sources. What it reports is up to the digests. -/
theorem exec_convertSources (htables : (functions, constants) ∈ codeTables) (hsound : session.workspace.tree.Sound)
    (hlocate : session.workspace.locate (project.child "Logical") = .ok loc)
    (hsources : ∀ x ∈ session.workspace.tree.sources codeExtensions loc, SourceAt session.workspace (project.child "Logical") loc x.1 x.2) :
    ∃ after report tally, (convertProject functions constants project).exec session = (.ok (), after) ∧
      after.workspace.here = session.workspace.here ∧
      (∀ place, after.workspace.tree.get? place =
        (session.workspace.tree.get? place).map fun entry =>
          if isSourceAt codeExtensions loc place then entry.converted functions constants
          else entry) ∧
      after.written = report ++ tally.notes.flatMap Note.printed ∧
      ((∀ x ∈ session.workspace.tree.sources codeExtensions loc,
        x.2.Distinguished functions constants) → tally = total functions constants
          ((session.workspace.tree.sources codeExtensions loc).map (·.2))) := by
  have hdistinct : (session.workspace.tree.sources codeExtensions loc).Pairwise
      fun x y => x.1 ≠ y.1 := (session.workspace.tree.pairwise_below loc).filter _
  obtain ⟨tally, after, hrun, htally, hhere, hget⟩ := exec_convertFiles htables _ hsound hlocate hsources hdistinct {}
  simp only [plus, Nat.zero_add] at htally
  refine ⟨after.tell tally.notes, after.written, tally, ?_, hhere, ?_, ?_, htally⟩
  · have hproject : convertProject functions constants project = (do
        let files ← sourcesWith (project.child "Logical") codeExtensions
        let tally ← convertFiles functions constants {} files
        tally.notes.forM say) := rfl
    rw [hproject, exec_bind_ok (exec_sourcesWith hsound hlocate codeExtensions), exec_bind_ok hrun, exec_forM_say]
  · intro place
    rw [workspace_tell, hget]
    rcases hentry : session.workspace.tree.get? place with _ | entry
    · rfl
    · simp only [Option.map_some, mem_sources_iff _ _ _ hentry]
  · rw [Session.tell]

theorem exec_convertProject (htables : (functions, constants) ∈ codeTables) (hsound : session.workspace.tree.Sound)
    (hlocate : session.workspace.locate (project.child "Logical") = .ok loc)
    (hsources : ∀ x ∈ session.workspace.tree.sources codeExtensions loc, IsSource functions constants session.workspace (project.child "Logical") loc x.1 x.2) :
    ∃ after report, (convertProject functions constants project).exec session = (.ok (), after) ∧
      after.workspace.here = session.workspace.here ∧
      (∀ place, after.workspace.tree.get? place =
        (session.workspace.tree.get? place).map fun entry =>
          if isSourceAt codeExtensions loc place then entry.converted functions constants
          else entry) ∧
      after.written = report ++ (total functions constants
        ((session.workspace.tree.sources codeExtensions loc).map (·.2))).notes.flatMap Note.printed := by
  obtain ⟨after, report, tally, hrun, hhere, hget, hwritten, htally⟩ := exec_convertSources htables hsound hlocate
    fun x hx => ⟨(hsources x hx).get?, (hsources x hx).ne_directory, (hsources x hx).short⟩
  rw [htally fun x hx => (hsources x hx).distinguished] at hwritten
  exact ⟨after, report, hrun, hhere, hget, hwritten⟩

/-- A conversion of calls and constants that is answered with a yes ends well. A file below the sources
with one of the two extensions has its text converted if something in it is renamed, and every other entry
stays as it is; nothing comes or goes. The report ends with the number of calls and constants that were in
the sources, and with the number of entries that differ afterwards. -/
theorem codeConversion_files {conversion : CodeConversion} (hconversion : conversion ∈ codeConversions)
    (caller : String) {line : List String} {session : Session} {location : Location}
    (h : Convertible conversion session line location) :
    ∃ after report, (conversion.run caller line).exec session = (.ok (), after) ∧
      after.workspace.here = session.workspace.here ∧
      (∀ place, after.workspace.tree.get? place =
        (session.workspace.tree.get? place).map fun entry =>
          if isSourceAt codeExtensions (location ++ ["Logical"]) place then
            entry.converted conversion.functions conversion.constants
          else entry) ∧
      after.written = report ++ (mk
        ((session.workspace.tree.sources codeExtensions (location ++ ["Logical"])).map fun x =>
          (convertedCode conversion.functions conversion.constants (sourceText x.2.bytes)).2.1).sum
        ((session.workspace.tree.sources codeExtensions (location ++ ["Logical"])).map fun x =>
          (convertedCode conversion.functions conversion.constants (sourceText x.2.bytes)).2.2).sum
        ((session.workspace.tree.below []).countP fun x =>
          after.workspace.tree.get? x.1 != some x.2)).notes.flatMap Note.printed := by
  have htables : (conversion.functions, conversion.constants) ∈ codeTables := by
    simp only [codeConversions, mem_cons, not_mem_nil, or_false] at hconversion
    rcases hconversion with rfl | rfl <;> simp [codeTables]
  obtain ⟨before, hworkspace, hrun⟩ := exec_run_eq hconversion caller h.project h.shortList
  rw [if_pos h.yes] at hrun
  have hlogical : session.workspace.locate ((Path.ofString (session.projectFolder line)).child "Logical") =
      .ok (location ++ ["Logical"]) := by
    apply locate_child (by decide) h.project.located h.project.isDirectory
    have hlibraries := Path.byteLength_render_child
      ((Path.ofString (session.projectFolder line)).child "Logical") (by decide : "Libraries" ≠ "")
    have hlist := Path.byteLength_render_child
      (((Path.ofString (session.projectFolder line)).child "Logical").child "Libraries")
      (by decide : "Package.pkg" ≠ "")
    exact hlibraries.trans (hlist.trans h.shortList)
  have hsources : ∀ x ∈ session.workspace.tree.sources codeExtensions (location ++ ["Logical"]),
      IsSource conversion.functions conversion.constants session.workspace
        ((Path.ofString (session.projectFolder line)).child "Logical") (location ++ ["Logical"]) x.1 x.2 := by
    intro x hx
    have hget := ((session.workspace.tree.mem_below_iff _).1 (mem_filter.1 hx).1).2
    exact ⟨hget, h.noDirectory x hx, h.shortSources x hx, h.distinguished x hx⟩
  rw [← hworkspace] at hlogical hsources ⊢
  obtain ⟨after, report, hconvert, hhere, hget, hwritten⟩ :=
    exec_convertProject htables (hworkspace ▸ h.sound) hlogical hsources
  refine ⟨after, report, hrun.trans hconvert, hhere, hget, ?_⟩
  rw [hwritten, countP_changed hget]
  simp only [total, map_map]
  rfl

/-- A project with a source that has a call and a constant in it, and with a file beside it. -/
def sampleProject : Session where
  workspace := {
    tree := ((((Tree.empty.insert ["M"] .directory).insert ["M", "m.apj"] (.file [])).insert
      ["M", "Logical"] .directory).insert ["M", "Logical", "a.st"]
        (.file (latinBytes "y := pow (amPI);\r\n".toList))).insert ["M", "Logical", "a.txt"]
          (.file (latinBytes "pow(amPI)".toList))
    here := [] }

/-- The call and the constant in the source are renamed and counted, and the other file stays. -/
theorem codeConversion_files_sample :
    ∃ after report, (runMathConversion "tool" ["M"]).exec sampleProject = (.ok (), after) ∧
      after.workspace.tree.get? ["M", "Logical", "a.st"] = some (.file (latinBytes "y := brmpow(brmPI);\n".toList)) ∧
      after.workspace.tree.get? ["M", "Logical", "a.txt"] = some (.file (latinBytes "pow(amPI)".toList)) ∧
      after.written = report ++ (mk 1 1 1).notes.flatMap Note.printed := by
  have hready : Convertible ⟨runMathConversion, mathFunctions, mathConstants⟩ sampleProject ["M"] ["M"] := by
    refine ⟨?_, ⟨?_, ?_, ?_⟩, ?_, ?_, ?_, ?_, ?_⟩
    · decide +kernel
    · rfl
    · rfl
    · decide +kernel
    · decide +kernel
    · decide +kernel
    · decide +kernel
    · decide +kernel
    · rfl
  obtain ⟨after, report, hrun, -, hget, hwritten⟩ := codeConversion_files mem_cons_self "tool" hready
  simp only [hget] at hwritten
  refine ⟨after, report, hrun, ?_, ?_, ?_⟩
  · rw [hget]
    decide +kernel
  · rw [hget]
    decide +kernel
  · have hcounts : ∀ tally : CodeTally, tally = ⟨1, 1, 1⟩ →
        report ++ tally.notes.flatMap Note.printed = report ++ (mk 1 1 1).notes.flatMap Note.printed := by
      rintro tally rfl
      rfl
    rw [hwritten]
    exact hcounts _ (by decide +kernel)

end StudioMigration
