import StudioMigration.Conversion.OpcUa
import StudioMigration.Proofs.Conversion.Project

/-!
# Converting OPC UA names

What the conversion of OPC UA names does to the files of a project, also if it stops on the way. Sources have their
enumerators renamed. Declarations are only looked at: one that has an old name in it stops the run.

* `convertedCode_eq_self_iff_concerns` says that a text stays as it is if and only if no old name stands in it as a
  whole word, however many names are renamed one after the other.
* `exists_renameAll_piece` gives the text of a source after the renaming of its enumerators.
* `exec_convertOpcUaFiles_append` is the run over files of which none stops it, and `opcUaConversion_files` the run of
  the tool.
-/

namespace StudioMigration

open List Text Script
open Text.Utf8 (Bytes byteLength)

variable {table : Renaming} {text : List Char} {entry : Entry} {file logical : Path} {location : Location}
  {session : Session}

/-! ## Declarations -/

/-- Whether one of the old names of a table stands in a text. -/
def Renaming.Concerns (table : Renaming) (text : List Char) : Prop := ∃ entry ∈ table, StandsIn entry.1.toList text

/-- Something is renamed in a text just if an old name stands in it. -/
theorem countP_isConstant_ne_zero_iff (htable : ∀ entry ∈ table, IsNameEntry entry) (text : List Char) :
    (codePieces noNames table.newName? text).countP CodePiece.isConstant ≠ 0 ↔ table.Concerns text := by
  induction text using wordsInduction with
  | nil =>
    rw [codePieces_nil]
    simp only [countP_nil, ne_eq, not_true_eq_false, false_iff]
    rintro ⟨entry, hentry, hstands⟩
    exact not_standsIn_nil (htable entry hentry).old hstands
  | other c rest hc ih =>
    rw [codePieces_other _ _ hc, countP_cons_of_neg (by simp [CodePiece.isConstant]), ih]
    refine exists_congr fun entry => and_congr_right fun hentry => ?_
    exact (standsIn_cons_iff (htable entry hentry).old hc rest).symm
  | name word after hword hafter ih =>
    have hrest := ih after le_rfl
    have hconcerns : table.Concerns (word ++ after) ↔
        (∃ entry ∈ table, entry.1.toList = word) ∨ table.Concerns after := by
      rw [Renaming.Concerns, Renaming.Concerns, ← exists_or]
      refine exists_congr fun entry => ?_
      rw [← and_or_left]
      exact and_congr_right fun hentry => standsIn_append_iff (htable entry hentry).old hword hafter
    rw [codePieces_noncall _ _ hword hafter (.inl rfl), hconcerns]
    cases hnew : table.newName? word with
    | none =>
      have hnot : ¬∃ entry ∈ table, entry.1.toList = word := by
        rintro ⟨entry, hentry, hold⟩
        have hsome : table.newName? word ≠ none := by
          intro hnone
          simp only [Renaming.newName?, Option.map_eq_none_iff, find?_eq_none, decide_eq_true_eq] at hnone
          exact hnone entry hentry hold
        exact hsome hnew
      rw [Option.map_none, countP_cons_of_neg (by simp [CodePiece.isConstant]), hrest]
      exact (or_iff_right hnot).symm
    | some new =>
      obtain ⟨entry, hentry, hold, -⟩ := Renaming.exists_of_newName? hnew
      rw [Option.map_some, countP_cons_of_pos rfl]
      exact iff_of_true (Nat.succ_ne_zero _) (.inl ⟨entry, hentry, hold⟩)

/-- A text stays as it is if and only if no old name stands in it. -/
theorem convertedCode_eq_self_iff_concerns (h : CleanTables [] table) (text : List Char) :
    (convertedCode [] table text).1 = text ↔ ¬table.Concerns text := by
  have hentries : ∀ entry ∈ table, IsNameEntry entry := h.entries
  have hcount := countP_isConstant_ne_zero_iff hentries text
  have hcalls := countP_isCall_noNames table.newName? text
  rw [convertedCode_eq_self_iff h, ← hcount, not_not]
  constructor
  · exact fun hcounts => (Prod.mk.inj hcounts).2
  · exact fun hconstants => Prod.ext hcalls hconstants

theorem renameAll_append (role : NameRole) (table others : Renaming) (text : List Char) :
    renameAll role (table ++ others) text = (do
      let (renamed, count) ← renameAll role table text
      let (final, more) ← renameAll role others renamed
      return (final, count + more)) := by
  induction table generalizing text with
  | nil =>
    simp only [nil_append, renameAll, bind, Except.bind, Nat.zero_add]
    cases renameAll role others text <;> rfl
  | cons entry table ih =>
    simp only [cons_append, renameAll, bind, Except.bind, pure, Except.pure, ih]
    cases rename role entry text with
    | error fault => rfl
    | ok first =>
      simp only []
      cases renameAll role table first.1 with
      | error fault => rfl
      | ok second =>
        simp only []
        cases renameAll role others second.1 with
        | error fault => rfl
        | ok third => simp only [Nat.add_assoc]

/-- Renaming words entry by entry is the single pass. -/
theorem CleanTables.renameAll_word (h : CleanTables [] table) (text : List Char) :
    renameAll .word table text = .ok ((convertedCode [] table text).1, (convertedCode [] table text).2.2) := by
  rw [renameAll_eq (.inr rfl) h.constants_clean, rolePieces_word, countP_isCall_noNames, Nat.zero_add]
  rfl

theorem CleanTables.of_sublist {part : Renaming} (h : CleanTables [] table) (hpart : part.Sublist table) :
    CleanTables [] part :=
  ⟨fun entry he => h.entries entry (hpart.subset he),
    fun entry he other ho => h.fresh entry (hpart.subset he) other (hpart.subset ho),
    h.distinct.sublist (hpart.map _)⟩

/-- Renaming blocks and then types is the single pass with the names of both. -/
theorem CleanTables.renameAll_types {blocks types : Renaming} (h : CleanTables [] (blocks ++ types)) (text : List Char) :
    ∃ second, renameAll .word types (convertedCode [] blocks text).1 =
        .ok ((convertedCode [] (blocks ++ types) text).1, second) ∧
      (convertedCode [] blocks text).2.2 + second = (convertedCode [] (blocks ++ types) text).2.2 := by
  have hall := h.renameAll_word text
  have htypes := (h.of_sublist (sublist_append_right _ _)).renameAll_word (convertedCode [] blocks text).1
  rw [renameAll_append, (h.of_sublist (sublist_append_left _ _)).renameAll_word] at hall
  simp only [htypes, Except.ok.injEq, Prod.mk.injEq, ok_bind, pure_eq_ok] at hall
  exact ⟨_, by rw [htypes, hall.1], hall.2⟩

/-- The old names that stop a conversion. -/
def opcUaDeclarations : Renaming := opcUaBlocks ++ opcUaTypes

theorem cleanTables_opcUaDeclarations : CleanTables [] opcUaDeclarations := by decide +kernel

/-- Renaming blocks and then types, name by name, changes a text if and only if one of the names stands in it. -/
theorem exists_renameDeclarations (text : List Char) :
    ∃ final first second, renameDeclarations opcUaBlocks opcUaTypes text = .ok (final, first, second) ∧
      (final = text ↔ ¬opcUaDeclarations.Concerns text) := by
  have hclean : CleanTables [] (opcUaBlocks ++ opcUaTypes) := cleanTables_opcUaDeclarations
  obtain ⟨second, htypes, -⟩ := hclean.renameAll_types text
  unfold renameDeclarations
  rw [(hclean.of_sublist (sublist_append_left _ _)).renameAll_word]
  refine ⟨_, (convertedCode [] opcUaBlocks text).2.2, second, ?_, convertedCode_eq_self_iff_concerns hclean text⟩
  simp only [htypes, ok_bind]
  rfl

/-! ## Enumerators -/

/-- A piece of text is found wherever it stands. -/
theorem Pattern.matchAt_chars (piece before rest : List Char) (position : Nat) :
    (Pattern.chars piece).matchAt ⟨before, rest, position⟩ = if piece <+: rest then some ⟨piece, []⟩ else none := by
  rw [matchAt, run_chars]
  split
  · rename_i hprefix
    obtain ⟨tail, rfl⟩ := hprefix
    simp
  · rfl

/-- Replacing a piece of text wherever a pattern finds it is replacing all its occurrences. -/
theorem Pattern.flatMap_replaced_piecesFrom {old : List Char} (hold : old ≠ []) (new text before : List Char)
    (position : Nat) :
    ((Pattern.chars old).piecesFrom 0 before position text).flatMap (Piece.replaced new) = replaceAll old new text := by
  induction text using replaceInduction hold generalizing before position with
  | nil =>
    rw [piecesFrom, matchAt_chars, if_neg (by simpa using hold), replaceAll_nil hold]
    rfl
  | found text ih =>
    rw [piecesFrom_hit hold (by rw [matchAt_chars, if_pos (prefix_append old text)]), flatMap_cons, ih,
      replaceAll_append hold]
    rfl
  | kept c text hnot ih =>
    rw [piecesFrom, matchAt_chars, if_neg hnot, replaceAll_cons hold hnot]
    simp only [flatMap_cons, ih]
    rfl

def Renaming.replacePieces (table : Renaming) (text : List Char) : List Char :=
  table.foldl (fun text entry => replaceAll entry.1.toList entry.2.toList text) text

theorem mem_replacePieces (htable : ∀ entry ∈ table, entry.1.toList ≠ []) {c : Char} (h : c ∈ table.replacePieces text) :
    c ∈ text ∨ ∃ entry ∈ table, c ∈ entry.2.toList := by
  induction table generalizing text with
  | nil => exact .inl h
  | cons entry table ih =>
    rw [forall_mem_cons] at htable
    obtain hreplaced | ⟨other, hother, hc⟩ := ih htable.2 h
    · by_contra hnone
      rw [not_or] at hnone
      refine not_mem_replaceAll htable.1 hnone.1 ?_ hreplaced
      exact fun hc => hnone.2 ⟨entry, mem_cons_self, hc⟩
    · exact .inr ⟨other, mem_cons_of_mem _ hother, hc⟩

theorem exists_renameAll_piece (htable : ∀ entry ∈ table, entry.1.toList ≠ [] ∧ '\\' ∉ entry.2.toList)
    (text : List Char) : ∃ count, renameAll .piece table text = .ok (table.replacePieces text, count) := by
  induction table generalizing text with
  | nil => exact ⟨0, rfl⟩
  | cons entry table ih =>
    rw [forall_mem_cons] at htable
    have hpieces := Pattern.flatMap_replaced_piecesFrom htable.1.1 entry.2.toList text [] 0
    have hentry : rename .piece entry text = .ok (replaceAll entry.1.toList entry.2.toList text,
        ((Pattern.chars entry.1.toList).findAll text).length) := by
      rw [← hpieces, rename, NameRole.template, Pattern.substitute_of_not_mem _ htable.1.2]
      rfl
    obtain ⟨count, hrest⟩ := ih htable.2 (replaceAll entry.1.toList entry.2.toList text)
    refine ⟨((Pattern.chars entry.1.toList).findAll text).length + count, ?_⟩
    simp only [renameAll, hentry, hrest, ok_bind, pure_eq_ok]
    rfl

/-- Old enumerators are not empty; new ones have no backslashes or carriage returns and fit every encoding. -/
theorem opcUaEnumerators_proper : ∀ entry ∈ opcUaEnumerators, entry.1.toList ≠ [] ∧ '\\' ∉ entry.2.toList ∧
    ∀ c ∈ entry.2.toList, Latin1.fits c ∧ c ≠ '\r' := by decide +kernel

/-- The text of a source with its enumerators renamed. -/
def enumeratorText (text : List Char) : List Char := opcUaEnumerators.replacePieces text

theorem fits_enumeratorText (h : ∀ c ∈ text, Latin1.fits c) : ∀ c ∈ enumeratorText text, Latin1.fits c := by
  intro c hc
  obtain hc | ⟨entry, hentry, hc⟩ := mem_replacePieces (fun entry he => (opcUaEnumerators_proper entry he).1) hc
  · exact h c hc
  · exact ((opcUaEnumerators_proper entry hentry).2.2 c hc).1

theorem return_not_mem_enumeratorText (h : '\r' ∉ text) : '\r' ∉ enumeratorText text := by
  intro hc
  obtain hc | ⟨entry, hentry, hc⟩ := mem_replacePieces (fun entry he => (opcUaEnumerators_proper entry he).1) hc
  · exact h hc
  · exact ((opcUaEnumerators_proper entry hentry).2.2 _ hc).2 rfl

/-- The bytes of a source after its enumerators were renamed. A text that stays as it is, is not written. -/
def enumeratorBytes (bytes : Bytes) : Bytes :=
  if enumeratorText (sourceText bytes) = sourceText bytes then bytes else latinBytes (enumeratorText (sourceText bytes))

/-- A source holds the text with its enumerators renamed, whether or not it was written. -/
theorem sourceText_enumeratorBytes (bytes : Bytes) :
    sourceText (enumeratorBytes bytes) = enumeratorText (sourceText bytes) :=
  sourceText_storedBytes (fits_enumeratorText fun _ hc => fits_of_mem_sourceText hc)
    (return_not_mem_enumeratorText (not_mem_unifyNewlines _))

/-- An entry after the enumerators in it were renamed. -/
def Entry.enumerated : Entry → Entry
  | .file bytes => .file (enumeratorBytes bytes)
  | entry => entry

theorem Entry.enumerated_eq_stored (entry : Entry) :
    entry.enumerated = entry.stored (enumeratorText (sourceText entry.bytes)) := by
  cases entry <;> rfl

theorem Entry.exists_bytes_of_enumeratorText_ne (h : enumeratorText (sourceText entry.bytes) ≠ sourceText entry.bytes) :
    ∃ bytes, entry = .file bytes := by
  rcases entry with _ | bytes | _
  · exact absurd (by decide +kernel) h
  · exact ⟨bytes, rfl⟩
  · exact absurd (by decide +kernel) h

/-! ## One file -/

theorem exec_convertOpcUaSource_library (session : Session) (h : inOpcUaLibrary file) :
    (convertOpcUaSource opcUaEnumerators file).exec session = (.ok ⟨0, false⟩, session) := by
  unfold convertOpcUaSource
  simp only [h, if_true]
  rfl

def opcUaCodeExtensions : List String := [".st", ".c", ".cpp", ".ab"]

def opcUaDeclarationExtensions : List String := [".typ", ".var", ".fun"]

def isOpcUaCode (file : Path) : Bool := opcUaCodeExtensions.contains file.extension && !inOpcUaLibrary file

/-- Whether a file stops the conversion: it is a declaration outside of the libraries with an old name in it. -/
structure StopsOpcUa (file : Path) (entry : Entry) : Prop where
  declares : opcUaDeclarationExtensions.contains file.extension
  outside : inOpcUaLibrary file = false
  concerned : opcUaDeclarations.Concerns (sourceText entry.bytes)

def opcUaExtensions : List String := opcUaCodeExtensions ++ opcUaDeclarationExtensions

theorem exec_convertOpcUaDeclarations_library (session : Session) (h : inOpcUaLibrary file) :
    (convertOpcUaDeclarations opcUaBlocks opcUaTypes file).exec session = (.ok ⟨0, 0, false⟩, session) := by
  unfold convertOpcUaDeclarations
  simp only [h, if_true]
  rfl

section File

variable (hlocate : session.workspace.locate file = .ok location)
  (hget : session.workspace.tree.get? location = some entry) (hentry : entry ≠ .directory)

include hlocate hget hentry

/-- A source outside of the libraries has its enumerators renamed, and nothing else changes. -/
theorem exec_convertOpcUaSource (houtside : inOpcUaLibrary file = false) :
    ∃ outcome after, (convertOpcUaSource opcUaEnumerators file).exec session = (.ok outcome, after) ∧
      session.workspace.Replaced after.workspace location entry.enumerated := by
  have hread := Workspace.readBytes_of_entry hlocate hget hentry
  obtain ⟨count, hrename⟩ := exists_renameAll_piece
    (fun entry he => ⟨(opcUaEnumerators_proper entry he).1, (opcUaEnumerators_proper entry he).2.1⟩)
    (sourceText entry.bytes)
  have hfile : enumeratorText (sourceText entry.bytes) = sourceText entry.bytes ∨ ∃ bytes, entry = .file bytes :=
    or_iff_not_imp_left.2 entry.exists_bytes_of_enumeratorText_ne
  unfold convertOpcUaSource
  simp only [houtside, Bool.false_eq_true, if_false]
  rw [exec_bind_ok (by rw [readSource, exec_look, hread]), hrename, entry.enumerated_eq_stored]
  exact ⟨_, _, exec_storeChanged_telling hget hfile rfl hlocate
    (fits_enumeratorText fun c hc => fits_of_mem_sourceText hc) rfl (writtenNote count "changes" file)
    (SingleOutcome.mk count), Workspace.replaced_store hget hfile⟩

/-- A declaration outside of the libraries is left alone, or it stops the conversion. -/
theorem exec_convertOpcUaDeclarations (houtside : inOpcUaLibrary file = false) :
    (¬opcUaDeclarations.Concerns (sourceText entry.bytes) → ∃ first second,
      (convertOpcUaDeclarations opcUaBlocks opcUaTypes file).exec session = (.ok ⟨first, second, false⟩, session)) ∧
    (opcUaDeclarations.Concerns (sourceText entry.bytes) →
      (convertOpcUaDeclarations opcUaBlocks opcUaTypes file).exec session = (.error .missingData, session)) := by
  have hread := Workspace.readBytes_of_entry hlocate hget hentry
  obtain ⟨final, first, second, hrename, hsame⟩ := exists_renameDeclarations (sourceText entry.bytes)
  unfold convertOpcUaDeclarations
  simp only [houtside, Bool.false_eq_true, if_false]
  rw [exec_bind_ok (by rw [readSource, exec_look, hread]), hrename]
  simp only [bne_iff_ne]
  constructor
  · intro hnone
    rw [if_neg (not_not.2 (hsame.2 hnone))]
    exact ⟨first, second, rfl⟩
  · intro hsome
    rw [if_pos fun heq => hsame.1 heq hsome]
    rfl

/-- The next file, if it does not stop the conversion: a source has its enumerators renamed, and no function blocks
or types are counted. -/
theorem exec_convertOpcUaFiles_cons (hlooked : opcUaExtensions.contains file.extension)
    (hpass : ¬StopsOpcUa file entry) (tally : OpcUaTally) (rest : List Path) :
    ∃ next between, (convertOpcUaFiles tally (file :: rest)).exec session = (convertOpcUaFiles next rest).exec between ∧
      next.blocks = tally.blocks ∧ next.types = tally.types ∧
      session.workspace.Replaced between.workspace location
        (if isOpcUaCode file then entry.enumerated else entry) := by
  have hsame := Workspace.Replaced.refl hget
  rw [convertOpcUaFiles]
  by_cases hcode : opcUaCodeExtensions.contains file.extension
  · have hbranch : [".st", ".c", ".cpp", ".ab"].contains file.extension := hcode
    rw [if_pos hbranch]
    cases houtside : inOpcUaLibrary file with
    | true =>
      rw [exec_bind_ok (exec_convertOpcUaSource_library session houtside)]
      refine ⟨tally, session, rfl, rfl, rfl, ?_⟩
      simpa [isOpcUaCode, houtside] using hsame
    | false =>
      obtain ⟨outcome, between, hfirst, hreplaced⟩ := exec_convertOpcUaSource hlocate hget hentry houtside
      rw [exec_bind_ok hfirst]
      refine ⟨_, between, rfl, ?_, ?_, ?_⟩
      · split <;> rfl
      · split <;> rfl
      · rw [if_pos (by rw [isOpcUaCode, hcode, houtside]; rfl)]
        exact hreplaced
  · have hbranch : ¬[".st", ".c", ".cpp", ".ab"].contains file.extension := hcode
    have hplain : ¬isOpcUaCode file := fun hboth => hcode (Bool.and_eq_true_iff.1 hboth).1
    rw [if_neg hbranch, if_neg hplain]
    cases houtside : inOpcUaLibrary file with
    | true =>
      rw [exec_bind_ok (exec_convertOpcUaDeclarations_library session houtside)]
      exact ⟨tally, session, rfl, rfl, rfl, hsame⟩
    | false =>
      have hdeclares : opcUaDeclarationExtensions.contains file.extension := by
        rw [opcUaExtensions, contains_append, Bool.or_eq_true] at hlooked
        exact hlooked.resolve_left hcode
      obtain ⟨first, second, hfirst⟩ := (exec_convertOpcUaDeclarations hlocate hget hentry houtside).1
        fun hconcerned => hpass ⟨hdeclares, houtside, hconcerned⟩
      rw [exec_bind_ok hfirst]
      exact ⟨tally, session, rfl, rfl, rfl, hsame⟩

/-- A file that stops the conversion stops it at once. -/
theorem exec_convertOpcUaFiles_stop (hstop : StopsOpcUa file entry) (tally : OpcUaTally) (rest : List Path) :
    (convertOpcUaFiles tally (file :: rest)).exec session = (.error .missingData, session) := by
  have hcode : ¬[".st", ".c", ".cpp", ".ab"].contains file.extension := by
    intro hcode
    have hdisjoint : ∀ extension ∈ opcUaDeclarationExtensions, opcUaCodeExtensions.contains extension = false := by
      decide
    have hfalse := hdisjoint _ (contains_iff_mem.1 hstop.declares)
    rw [show opcUaCodeExtensions.contains file.extension from hcode] at hfalse
    cases hfalse
  rw [convertOpcUaFiles, if_neg hcode]
  exact exec_bind_error ((exec_convertOpcUaDeclarations hlocate hget hentry hstop.outside).2 hstop.concerned) _

end File

/-! ## All files -/

/-- A file below a directory that is looked at: no directory, at a path that is not too long. -/
structure IsOpcUaFile (ws : Workspace) (logical : Path) (location : Location) (x : Location × Entry) : Prop where
  get? : ws.tree.get? (location ++ x.1) = some x.2
  ne_directory : x.2 ≠ .directory
  short : byteLength (logical.descend x.1).render ≤ maxPathLength
  looked : opcUaExtensions.contains (logical.descend x.1).extension

/-- The places of the files among some whose enumerators are renamed. -/
def opcUaCodePlaces (logical : Path) (location : Location) (files : List (Location × Entry)) : List Location :=
  (files.filter fun x => isOpcUaCode (logical.descend x.1)).map fun x => location ++ x.1

theorem mem_opcUaCodePlaces_cons {place : Location} (x : Location × Entry) (files : List (Location × Entry)) :
    place ∈ opcUaCodePlaces logical location (x :: files) ↔
      (isOpcUaCode (logical.descend x.1) ∧ place = location ++ x.1) ∨
        place ∈ opcUaCodePlaces logical location files := by
  unfold opcUaCodePlaces
  cases hcode : isOpcUaCode (logical.descend x.1) <;> simp [hcode]

/-- The run over files none of which stops it: just the sources among them have their enumerators renamed, and the
files behind them are as they were. -/
theorem exec_convertOpcUaFiles_append (done rest : List (Location × Entry)) (hsound : session.workspace.tree.Sound)
    (hlocate : session.workspace.locate logical = .ok location)
    (hfiles : ∀ x ∈ done ++ rest, IsOpcUaFile session.workspace logical location x)
    (hdistinct : (done ++ rest).Pairwise fun x y => x.1 ≠ y.1)
    (hpass : ∀ x ∈ done, ¬StopsOpcUa (logical.descend x.1) x.2) (tally : OpcUaTally) :
    ∃ next between,
      (convertOpcUaFiles tally ((done ++ rest).map fun x => logical.descend x.1)).exec session =
        (convertOpcUaFiles next (rest.map fun x => logical.descend x.1)).exec between ∧
      next.blocks = tally.blocks ∧ next.types = tally.types ∧
      between.workspace.tree.Sound ∧ between.workspace.locate logical = .ok location ∧
      (∀ x ∈ rest, IsOpcUaFile between.workspace logical location x) ∧
      ∀ place, between.workspace.tree.get? place =
        (session.workspace.tree.get? place).map fun entry =>
          if place ∈ opcUaCodePlaces logical location done then entry.enumerated else entry := by
  induction done generalizing session tally with
  | nil => exact ⟨tally, session, rfl, rfl, rfl, hsound, hlocate, hfiles, by simp [opcUaCodePlaces]⟩
  | cons x done ih =>
    rw [cons_append, pairwise_cons] at hdistinct
    rw [cons_append, forall_mem_cons] at hfiles
    rw [forall_mem_cons] at hpass
    have hthere := Workspace.locate_descend hsound hlocate hfiles.1.get? hfiles.1.short
    obtain ⟨middle, first, hfirst, hblocks, htypes, hreplaced⟩ := exec_convertOpcUaFiles_cons hthere hfiles.1.get?
      hfiles.1.ne_directory hfiles.1.looked hpass.1 tally ((done ++ rest).map fun x => logical.descend x.1)
    have hfiles' : ∀ y ∈ done ++ rest, IsOpcUaFile first.workspace logical location y := by
      intro y hy
      have hother := hfiles.2 y hy
      exact ⟨(hreplaced.get?_other (hdistinct.1 y hy)).trans hother.get?, hother.ne_directory, hother.short,
        hother.looked⟩
    obtain ⟨next, between, hrest, hblocks', htypes', hsound', hlocate', hafter, hget⟩ :=
      ih (hreplaced.sound hfiles.1.get? hfiles.1.ne_directory hsound)
        (Workspace.locate_mono hreplaced.here (hreplaced.keepsDirectories hfiles.1.get? hfiles.1.ne_directory) hlocate)
        hfiles' hdistinct.2 hpass.2 middle
    refine ⟨next, between, ?_, hblocks'.trans hblocks, htypes'.trans htypes, hsound', hlocate', hafter, ?_⟩
    · rw [cons_append, map_cons, hfirst, hrest]
    · intro place
      rw [hget, hreplaced.get?]
      simp only [mem_opcUaCodePlaces_cons]
      by_cases hplace : place = location ++ x.1
      · have hnot : place ∉ opcUaCodePlaces logical location done := by
          intro hmem
          obtain ⟨y, hy, rfl⟩ := mem_map.1 hmem
          exact hdistinct.1 y (mem_append_left _ (mem_filter.1 hy).1) (append_cancel_left hplace).symm
        subst hplace
        simp [hnot, hfiles.1.get?]
      · simp [hplace]

/-! ## The run of the tool -/

/-- The files that are looked at, in walking order, seen from the sources of the project at a location. -/
def Session.opcUaFiles (session : Session) (location : Location) : List (Location × Entry) :=
  session.workspace.tree.sources opcUaExtensions (location ++ ["Logical"])

/-- A session in which the conversion can be run on a project: its tree is sound, the folder is that of a project, no
directory looks like one of the files, the paths are not too long, and the answer is yes. -/
structure OpcUaConvertible (session : Session) (line : List String) (location : Location) : Prop where
  sound : session.workspace.tree.Sound
  project : session.workspace.HasProject (Path.ofString (session.projectFolder line)) location
  noDirectory : ∀ x ∈ session.opcUaFiles location, x.2 ≠ .directory
  shortList : byteLength (libraryList (Path.ofString (session.projectFolder line))).render ≤ maxPathLength
  shortFiles : ∀ x ∈ session.opcUaFiles location,
    byteLength ((session.logicalFolder line).descend x.1).render ≤ maxPathLength
  yes : session.saysYes

/-- If the answer is yes, the run goes on with the files. -/
theorem exec_runOpcUaConversion_eq (caller : String) {line : List String}
    (hproject : session.workspace.HasProject (Path.ofString (session.projectFolder line)) location)
    (hshort : byteLength (libraryList (Path.ofString (session.projectFolder line))).render ≤ maxPathLength) :
    ∃ before : Session, before.workspace = session.workspace ∧
      (runOpcUaConversion caller line).exec session =
        (if session.saysYes then sourcesWith (session.logicalFolder line) opcUaExtensions >>= fun files =>
          convertOpcUaFiles {} files >>= fun tally => tally.notes.forM say else pure ()).exec before := by
  obtain ⟨file, hfile⟩ := exec_requireProject hproject caller
  unfold runOpcUaConversion
  rw [exec_bind_ok (exec_projectArgument session line), exec_bind_ok hfile, exec_bind_ok (exec_announceProject _ _ _)]
  obtain ⟨found, notes, hfound⟩ := exec_librariesIn (session.tell _) hproject hshort
    opcUaLibraries "Could not find Package.pkg file in: "
  rw [exec_bind_ok hfound, Session.tell_tell, exec_bind_ok (exec_say _ _),
    Session.tell_tell, exec_bind_ok (exec_say _ _), Session.tell_tell]
  exact exec_say_confirm_bind session _ _ _ _ _ _ _ _ _

section Files

variable {line : List String} (h : OpcUaConvertible session line location)

include h

theorem OpcUaConvertible.isOpcUaFile {x : Location × Entry} (hx : x ∈ session.opcUaFiles location) :
    IsOpcUaFile session.workspace (session.logicalFolder line) (location ++ ["Logical"]) x := by
  obtain ⟨hbelow, hextension⟩ := mem_filter.1 hx
  obtain ⟨hne, hget⟩ := (session.workspace.tree.mem_below_iff _).1 hbelow
  refine ⟨hget, h.noDirectory x hx, h.shortFiles x hx, ?_⟩
  rw [Path.extension_descend _ hne]
  exact hextension

/-- The run up to any place in the walk before which no file stops it. -/
theorem exec_runOpcUaConversion_upto (caller : String) {done rest : List (Location × Entry)}
    (hwalk : session.opcUaFiles location = done ++ rest)
    (hpass : ∀ x ∈ done, ¬StopsOpcUa ((session.logicalFolder line).descend x.1) x.2) :
    ∃ tally between, tally.blocks = 0 ∧ tally.types = 0 ∧
      (runOpcUaConversion caller line).exec session =
        (convertOpcUaFiles tally (rest.map fun x => (session.logicalFolder line).descend x.1) >>= fun tally =>
          tally.notes.forM say).exec between ∧
      between.workspace.tree.Sound ∧
      between.workspace.locate (session.logicalFolder line) = .ok (location ++ ["Logical"]) ∧
      (∀ x ∈ rest, IsOpcUaFile between.workspace (session.logicalFolder line) (location ++ ["Logical"]) x) ∧
      ∀ place, between.workspace.tree.get? place =
        (session.workspace.tree.get? place).map fun entry =>
          if place ∈ opcUaCodePlaces (session.logicalFolder line) (location ++ ["Logical"]) done then
            entry.enumerated
          else entry := by
  obtain ⟨before, hws, hrun⟩ := exec_runOpcUaConversion_eq caller h.project h.shortList
  rw [if_pos h.yes] at hrun
  have hdistinct : (session.opcUaFiles location).Pairwise fun x y => x.1 ≠ y.1 :=
    (session.workspace.tree.pairwise_below _).filter _
  have hfiles : ∀ x ∈ done ++ rest,
      IsOpcUaFile session.workspace (session.logicalFolder line) (location ++ ["Logical"]) x := by
    intro x hx
    exact h.isOpcUaFile (hwalk ▸ hx)
  -- the questions that were asked before have left the files alone
  rw [← hws] at hfiles
  have hsound : before.workspace.tree.Sound := hws ▸ h.sound
  have hlocate : before.workspace.locate (session.logicalFolder line) = .ok (location ++ ["Logical"]) :=
    hws ▸ h.project.locate_logical h.shortList
  have hsources : before.workspace.tree.sources opcUaExtensions (location ++ ["Logical"]) = done ++ rest := by
    rw [hws]
    exact hwalk
  have hsearch := exec_sourcesWith hsound hlocate opcUaExtensions
  rw [hsources] at hsearch
  rw [hwalk] at hdistinct
  obtain ⟨tally, between, hfirst, hblocks, htypes, hsound', hlocate', hafter, hget⟩ :=
    exec_convertOpcUaFiles_append done rest hsound hlocate hfiles hdistinct hpass {}
  refine ⟨tally, between, hblocks, htypes, ?_, hsound', hlocate', hafter, hws ▸ hget⟩
  rw [hrun, exec_bind_ok hsearch, exec_bind, exec_bind, hfirst]

/-- A conversion of OPC UA names that is answered with a yes. If no file stops it, it ends well: the sources outside of
the libraries have their enumerators renamed, everything else stays as it is, and the report counts no function blocks
and no types. Otherwise it ends with a fault at the first file that stops it: just the sources before that file have
their enumerators renamed. In both cases a source holds the text with its enumerators renamed. -/
theorem opcUaConversion_files (caller : String) :
    ((∀ x ∈ session.opcUaFiles location, ¬StopsOpcUa ((session.logicalFolder line).descend x.1) x.2) →
      ∃ after report enumerators files,
        (runOpcUaConversion caller line).exec session = (.ok (), after) ∧
        (∀ place, after.workspace.tree.get? place =
          (session.workspace.tree.get? place).map fun entry =>
            if place ∈ opcUaCodePlaces (session.logicalFolder line) (location ++ ["Logical"])
                (session.opcUaFiles location) then entry.enumerated
            else entry) ∧
        after.written = report ++ (OpcUaTally.mk 0 enumerators 0 files).notes.flatMap Note.printed) ∧
    (∀ done stop rest, session.opcUaFiles location = done ++ stop :: rest →
      (∀ x ∈ done, ¬StopsOpcUa ((session.logicalFolder line).descend x.1) x.2) →
      StopsOpcUa ((session.logicalFolder line).descend stop.1) stop.2 →
      ∃ after, (runOpcUaConversion caller line).exec session = (.error .missingData, after) ∧
        ∀ place, after.workspace.tree.get? place =
          (session.workspace.tree.get? place).map fun entry =>
            if place ∈ opcUaCodePlaces (session.logicalFolder line) (location ++ ["Logical"]) done then
              entry.enumerated
            else entry) ∧
    ∀ bytes, sourceText (enumeratorBytes bytes) = enumeratorText (sourceText bytes) := by
  refine ⟨fun hpass => ?_, fun done stop rest hwalk hpass hstop => ?_, sourceText_enumeratorBytes⟩
  · obtain ⟨tally, between, hblocks, htypes, hrun, -, -, -, hget⟩ :=
      exec_runOpcUaConversion_upto h caller (List.append_nil _).symm hpass
    rw [List.map_nil, convertOpcUaFiles, Script.exec_bind_ok (Script.exec_pure between tally),
      Script.exec_forM_say] at hrun
    obtain ⟨blocks, enumerators, types, files⟩ := tally
    obtain rfl : blocks = 0 := hblocks
    obtain rfl : types = 0 := htypes
    exact ⟨_, between.written, enumerators, files, hrun, hget, rfl⟩
  · obtain ⟨tally, between, -, -, hrun, hsound, hlocate, hfiles, hget⟩ :=
      exec_runOpcUaConversion_upto h caller hwalk hpass
    have hfile := hfiles stop List.mem_cons_self
    have hthere := Workspace.locate_descend hsound hlocate hfile.get? hfile.short
    have hends := exec_convertOpcUaFiles_stop hthere hfile.get? hfile.ne_directory hstop tally
      (rest.map fun x => (session.logicalFolder line).descend x.1)
    rw [List.map_cons, Script.exec_bind_error hends] at hrun
    exact ⟨between, hrun, hget⟩

end Files

/-- A project with two sources and, between them, a declaration with the text `declared`. -/
def opcUaProject (declared : String) : Session where
  workspace := {
    tree := (((((Tree.empty.insert ["M"] .directory).insert ["M", "m.apj"] (.file [])).insert
      ["M", "Logical"] .directory).insert ["M", "Logical", "a.st"]
        (.file (latinBytes "n := UAAttributeId;\r\n".toList))).insert ["M", "Logical", "b.var"]
          (.file (latinBytes declared.toList))).insert ["M", "Logical", "c.st"]
            (.file (latinBytes "UASecurityPolicy_None".toList))
    here := [] }

theorem opcUaConvertible_opcUaProject (declared : String) (h : declared ∈ ["x : UARanges;", "x : UARange;"]) :
    OpcUaConvertible (opcUaProject declared) ["M"] ["M"] := by
  simp only [mem_cons, not_mem_nil, or_false] at h
  obtain rfl | rfl := h
  all_goals
    refine ⟨?_, ⟨?_, ?_, ?_⟩, ?_, ?_, ?_, ?_⟩
    · decide +kernel
    · rfl
    · rfl
    · decide +kernel
    · decide +kernel
    · decide +kernel
    · decide +kernel
    · rfl

theorem not_stopsOpcUa_of_convertedCode
    (h : (convertedCode [] opcUaDeclarations (sourceText entry.bytes)).1 = sourceText entry.bytes) :
    ¬StopsOpcUa file entry :=
  fun hstop => (convertedCode_eq_self_iff_concerns cleanTables_opcUaDeclarations _).1 h hstop.concerned

/-- A declaration that has an old name only as part of a longer word lets the run go through; one that has it as a
whole word stops the run between the two sources. -/
theorem opcUaConversion_files_samples :
    (∃ after report enumerators files,
      (runOpcUaConversion "tool" ["M"]).exec (opcUaProject "x : UARanges;") = (.ok (), after) ∧
      after.workspace.tree.get? ["M", "Logical", "a.st"] = some (.file (latinBytes "n := UAAttributeID;\n".toList)) ∧
      after.workspace.tree.get? ["M", "Logical", "c.st"] = some (.file (latinBytes "UASP_None".toList)) ∧
      after.written = report ++ (OpcUaTally.mk 0 enumerators 0 files).notes.flatMap Note.printed) ∧
    ∃ after, (runOpcUaConversion "tool" ["M"]).exec (opcUaProject "x : UARange;") = (.error .missingData, after) ∧
      after.workspace.tree.get? ["M", "Logical", "a.st"] = some (.file (latinBytes "n := UAAttributeID;\n".toList)) ∧
      after.workspace.tree.get? ["M", "Logical", "b.var"] = some (.file (latinBytes "x : UARange;".toList)) ∧
      after.workspace.tree.get? ["M", "Logical", "c.st"] =
        some (.file (latinBytes "UASecurityPolicy_None".toList)) := by
  constructor
  · have hready := opcUaConvertible_opcUaProject "x : UARanges;" (by decide)
    obtain ⟨after, report, enumerators, files, hrun, hget, hwritten⟩ :=
      (opcUaConversion_files hready "tool").1 fun x hx => not_stopsOpcUa_of_convertedCode (by
        revert x
        decide +kernel)
    refine ⟨after, report, enumerators, files, hrun, ?_, ?_, hwritten⟩
    · rw [hget]
      decide +kernel
    · rw [hget]
      decide +kernel
  · have hready := opcUaConvertible_opcUaProject "x : UARange;" (by decide)
    have hwalk : (opcUaProject "x : UARange;").opcUaFiles ["M"] =
        [(["a.st"], .file (latinBytes "n := UAAttributeId;\r\n".toList))] ++
          (["b.var"], .file (latinBytes "x : UARange;".toList)) ::
            [(["c.st"], .file (latinBytes "UASecurityPolicy_None".toList))] := by decide +kernel
    obtain ⟨after, hrun, hget⟩ := (opcUaConversion_files hready "tool").2.1 _ _ _ hwalk
      (fun x hx => not_stopsOpcUa_of_convertedCode (by
        revert x
        decide +kernel))
      ⟨by decide +kernel, by decide +kernel, ⟨("UARange", "BrUaRange"), by decide, "x : ".toList, ";".toList, by
        decide +kernel, by decide, by decide⟩⟩
    refine ⟨after, hrun, ?_, ?_, ?_⟩
    · rw [hget]
      decide +kernel
    · rw [hget]
      decide +kernel
    · rw [hget]
      decide +kernel

end StudioMigration
