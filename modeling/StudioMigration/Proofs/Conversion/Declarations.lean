import StudioMigration.Proofs.Conversion.Interrupted
import StudioMigration.Proofs.Conversion.OpcUa
import StudioMigration.Proofs.Conversion.Remaining
import StudioMigration.Proofs.Pattern.Written

/-!
# Renaming the blocks and types of motion

Function blocks and types are renamed in declarations, and function blocks that are gone are reported. They are looked
for after the blocks have been renamed and before the types are. No name that is written is one of theirs, so that they
are found just where they stood in the first place.

* `CleanTables.standsIn_convertedCode_other` says that names that are neither old nor new stay where they are.
* `exec_convertDeclarations` is the conversion of a file.
-/

namespace StudioMigration

open Text List
open Text.Utf8 (Bytes)

/-- The blocks and types that are renamed. -/
def motionDeclarations : Renaming := motionBlocks ++ motionTypes

theorem cleanTables_motionDeclarations : CleanTables [] motionDeclarations := by decide +kernel

theorem motionDeclarations_fit : ∀ entry ∈ motionDeclarations, ∀ c ∈ entry.2.toList,
    Latin1.fits c ∧ c ≠ '\r' := by decide +kernel

theorem motionRemovals_apart : ∀ removal ∈ motionRemovals, IsName removal.1.toList ∧
    ∀ entry ∈ motionDeclarations, entry.1 ≠ removal.1 ∧ entry.2 ≠ removal.1 := by decide +kernel

/-- A name that is neither old nor new stands in a text just if it did so before. -/
theorem CleanTables.standsIn_convertedCode_other {table : Renaming} (h : CleanTables [] table) {name : String}
    (hname : IsName name.toList) (hother : ∀ entry ∈ table, entry.1 ≠ name ∧ entry.2 ≠ name) (text : List Char) :
    StandsIn name.toList (convertedCode [] table text).1 ↔ StandsIn name.toList text := by
  have hold : table.newName? name.toList = none :=
    Renaming.newName?_eq_none fun entry hentry heq => (hother entry hentry).1 (String.toList_inj.1 heq)
  have hnew : ∀ old, noNames old ≠ some name.toList ∧ table.newName? old ≠ some name.toList := by
    refine fun old => ⟨by simp [noNames], fun hnew => ?_⟩
    obtain ⟨entry, hentry, -, heq⟩ := Renaming.exists_of_newName? hnew
    exact (hother entry hentry).2 (String.toList_inj.1 heq)
  rw [standsIn_iff_standsWhere, standsIn_iff_standsWhere]
  exact standsWhere_codePieces_iff proper_noNames (Renaming.proper_newName? h.constants_clean.entries) hname hold hnew
    (fun _ => .rfl) (.inl rfl) text

theorem Script.exec_forM_sayIf {α : Type} (session : Session) (items : List α) (holds : α → Bool) (note : α → Note) :
    (items.forM fun item => if holds item then say (note item) else pure ()).exec session =
      (.ok (), session.tell ((items.filter holds).map note)) := by
  induction items generalizing session with
  | nil => simp [List.forM]
  | cons item items ih =>
    rw [List.forM]
    cases hholds : holds item with
    | false => rw [if_neg (by simp), exec_bind_ok (exec_pure session ()), ih, filter_cons_of_neg (by simp [hholds])]
    | true =>
      rw [if_pos rfl, exec_bind_ok (exec_say session (note item)), ih, Session.tell_tell, filter_cons_of_pos hholds]
      rfl

theorem removalNote_severity (old new : String) : (removalNote old new).severity = "MANDATORY" := by
  unfold removalNote
  split <;> rfl

/-- The notes about the function blocks of a table that are gone and stand in a text. -/
def removalNotes (removals : Renaming) (text : List Char) : List Note :=
  (removals.filter fun removal => (NameRole.word.pattern removal.1).occursIn text).map fun removal =>
    removalNote removal.1 removal.2

section Conversion

variable {blocks types removals : Renaming} (hblocks : blocks.Perm motionBlocks) (htypes : types.Perm motionTypes)
  (hremovals : removals.Perm motionRemovals)

include hblocks htypes

theorem cleanTables_declarations : CleanTables [] (blocks ++ types) ∧
    convertedCode [] (blocks ++ types) = convertedCode [] motionDeclarations := by
  have hperm : (blocks ++ types).Perm motionDeclarations := hblocks.append htypes
  exact ⟨cleanTables_motionDeclarations.perm (.refl _) hperm,
    cleanTables_motionDeclarations.convertedCode_perm (.refl _) hperm⟩

include hremovals

/-- Renaming the blocks neither hides nor makes a name of a function block that is gone. -/
theorem removalNotes_convertedCode (text : List Char) :
    removalNotes removals (convertedCode [] blocks text).1 = removalNotes removals text := by
  have hclean := (cleanTables_declarations hblocks htypes).1.of_sublist (sublist_append_left _ _)
  refine congrArg (map _) (filter_congr fun removal hremoval => Bool.eq_iff_iff.2 ?_)
  obtain ⟨hname, hother⟩ := motionRemovals_apart removal (hremovals.mem_iff.1 hremoval)
  have hblock : ∀ entry ∈ blocks, entry.1 ≠ removal.1 ∧ entry.2 ≠ removal.1 := fun entry hentry =>
    hother entry (mem_append_left _ (hblocks.mem_iff.1 hentry))
  rw [NameRole.pattern, Pattern.occursIn_word_iff hname, Pattern.occursIn_word_iff hname]
  exact hclean.standsIn_convertedCode_other hname hblock text

variable {session : Session} {file : Path} {location : Location} {bytes : Bytes}

/-- The conversion of a file renames in one pass, reports what stood in the text before, and stores the new text. -/
theorem exec_convertDeclarations_told (hlocate : session.workspace.locate file = .ok location)
    (hget : session.workspace.tree.get? location = some (.file bytes)) (verbose : Bool) :
    ∃ first second changed notes ws',
      (convertDeclarations blocks types removals verbose file).exec session =
        (.ok ⟨first, second, changed⟩, { session.tell notes with workspace := ws' }) ∧
      first + second = (convertedCode [] motionDeclarations (sourceText bytes)).2.2 ∧
      notes.filter (·.severity == "MANDATORY") = removalNotes removals (sourceText bytes) ∧
      session.workspace.Replaced ws' location
        (.file (storedBytes bytes (convertedCode [] motionDeclarations (sourceText bytes)).1)) ∧
      ((convertedCode [] motionDeclarations (sourceText bytes)).1 = sourceText bytes →
        changed = false ∧ ws' = session.workspace) := by
  obtain ⟨hclean, hpass⟩ := cleanTables_declarations hblocks htypes
  obtain ⟨second, hsecond, hcount⟩ := hclean.renameAll_types (sourceText bytes)
  have hfirst := (hclean.of_sublist (sublist_append_left _ _)).renameAll_word (sourceText bytes)
  rw [hpass] at hsecond hcount
  have hread : (readSource file).exec session = (.ok bytes, session) := by
    rw [readSource, Script.exec_look, Workspace.readBytes_of_entry hlocate hget (by simp)]
    rfl
  unfold convertDeclarations
  rw [Script.exec_bind_ok hread, Script.exec_bind_ok (by rw [exec_renameTelling, hfirst]),
    Script.exec_bind_ok (Script.exec_forM_sayIf _ removals
      (fun removal => (NameRole.word.pattern removal.1).occursIn (convertedCode [] blocks (sourceText bytes)).1)
      fun removal => removalNote removal.1 removal.2),
    Script.exec_bind_ok (by rw [exec_renameTelling, hsecond])]
  rw [Session.tell_tell, Session.tell_tell]
  have hfits : ∀ c ∈ (convertedCode [] motionDeclarations (sourceText bytes)).1, Latin1.fits c :=
    forall_mem_convertedCode (fun entry he c hc => (motionDeclarations_fit entry he c hc).1) (by decide)
      fun c hc => fits_of_mem_sourceText hc
  have hquiet {told : List Note} (h : ∀ note ∈ told, note.severity = "INFO") :
      told.filter (·.severity == "MANDATORY") = [] :=
    filter_eq_nil_iff.2 fun note hnote => by simp [h note hnote]
  have hloud : (removalNotes removals (sourceText bytes)).filter (·.severity == "MANDATORY") =
      removalNotes removals (sourceText bytes) := by
    refine filter_eq_self.2 fun note hnote => ?_
    obtain ⟨removal, -, rfl⟩ := mem_map.1 hnote
    exact beq_iff_eq.2 (removalNote_severity _ _)
  have hstore (told : List Note) (note : Note) := exec_storeChanged_telling hget (.inr ⟨bytes, rfl⟩)
    (rfl : (session.tell told).workspace = _) hlocate hfits rfl note
    (PairOutcome.mk (convertedCode [] blocks (sourceText bytes)).2.2 second)
  refine ⟨_, second, _, _, _, (hstore _ _).trans (by rw [Session.tell_tell]), hcount, ?_,
    Workspace.replaced_store hget (.inr ⟨bytes, rfl⟩), fun hsame => ?_⟩
  · rw [← removalNotes_convertedCode hblocks htypes hremovals] at hloud ⊢
    simp only [filter_append, hquiet severity_renameNotes, nil_append, append_nil]
    refine (congrArg₂ (· ++ ·) hloud (hquiet fun note hnote => ?_)).trans (append_nil _)
    split at hnote
    · rw [mem_singleton.1 hnote]
      rfl
    · cases hnote
  · exact ⟨by rw [Entry.stored_eq_self hsame, bne_self_eq_false], if_pos hsame⟩

/-- Function blocks and types are renamed in a single pass over the words of a file, whatever the order of their tables.
Function blocks that are gone are reported, each just if it stood in the text before, and stay where they stand. A second
conversion, in any order, finds nothing and leaves the file alone. -/
theorem exec_convertDeclarations (hlocate : session.workspace.locate file = .ok location)
    (hget : session.workspace.tree.get? location = some (.file bytes)) (verbose : Bool) :
    ∃ outcome after notes stored,
      (convertDeclarations blocks types removals verbose file).exec session = (.ok outcome, after) ∧
      after = { session.tell notes with workspace := after.workspace } ∧
      session.workspace.Replaced after.workspace location (.file stored) ∧
      sourceText stored = (convertedCode [] motionDeclarations (sourceText bytes)).1 ∧
      outcome.first + outcome.second = (convertedCode [] motionDeclarations (sourceText bytes)).2.2 ∧
      notes.filter (·.severity == "MANDATORY") = removalNotes removals (sourceText bytes) ∧
      (∀ removal ∈ motionRemovals,
        ((NameRole.word.pattern removal.1).occursIn (sourceText bytes) = true ↔
          StandsIn removal.1.toList (sourceText bytes)) ∧
        (StandsIn removal.1.toList (sourceText stored) ↔ StandsIn removal.1.toList (sourceText bytes))) ∧
      ∀ {blocks' types' removals' : Renaming}, blocks'.Perm motionBlocks → types'.Perm motionTypes →
        removals'.Perm motionRemovals → ∀ verbose' again, again.workspace = after.workspace →
          ∃ notes', (convertDeclarations blocks' types' removals' verbose' file).exec again =
            (.ok ⟨0, 0, false⟩, again.tell notes') := by
  obtain ⟨first, second, changed, notes, ws', hexec, hcount, hnotes, hreplaced, -⟩ :=
    exec_convertDeclarations_told hblocks htypes hremovals hlocate hget verbose
  have hclean := cleanTables_motionDeclarations
  have hchars : ∀ c ∈ (convertedCode [] motionDeclarations (sourceText bytes)).1, Latin1.fits c = true ∧ c ≠ '\r' :=
    forall_mem_convertedCode motionDeclarations_fit (by decide) fun c hc =>
      ⟨fits_of_mem_sourceText hc, fun heq => not_mem_unifyNewlines _ (heq ▸ hc)⟩
  have hstored := @sourceText_storedBytes _ bytes (fun c hc => (hchars c hc).1) fun hc => (hchars _ hc).2 rfl
  refine ⟨_, _, notes, _, hexec, rfl, hreplaced, hstored, hcount, hnotes, fun removal hremoval => ?_, ?_⟩
  · obtain ⟨hname, hother⟩ := motionRemovals_apart removal hremoval
    rw [hstored]
    exact ⟨Pattern.occursIn_word_iff hname _, hclean.standsIn_convertedCode_other hname hother _⟩
  · intro blocks' types' removals' hblocks' htypes' hremovals' verbose' again hagain
    -- the text that was stored is its own conversion
    have hlocate' := Workspace.locate_mono hreplaced.here (hreplaced.keepsDirectories hget (by simp)) hlocate
    have hget' := (hreplaced.get? location).trans (if_pos rfl)
    dsimp only at hagain
    rw [← hagain] at hlocate' hget'
    obtain ⟨first', second', changed', notes', ws'', hexec', hcount', -, -, hsame⟩ :=
      exec_convertDeclarations_told hblocks' htypes' hremovals' hlocate' hget' verbose'
    rw [hstored, convertedCode_convertedCode hclean] at hcount' hsame
    obtain ⟨rfl, rfl⟩ := hsame rfl
    obtain ⟨rfl, rfl⟩ := Nat.add_eq_zero_iff.1 hcount'
    exact ⟨notes', hexec'⟩

end Conversion

/-- A declaration with a type that is renamed, a function block that is gone, and a longer name. -/
def sampleDeclaration : Session where
  workspace := ⟨Tree.empty.insert ["a.var"] (.file (latinBytes
    "a : McAcpAxCamAutDefineType; b : MC_BR_AsmSegGrpPowerOn_AcpTrak; c : xMcAcpAxCamAutDefineType;".toList)), []⟩

theorem exec_convertDeclarations_sample :
    ∃ outcome after notes stored,
      (convertDeclarations motionBlocks.reverse motionTypes motionRemovals.reverse true (Path.ofString "a.var")).exec
        sampleDeclaration = (.ok outcome, after) ∧
      after = { sampleDeclaration.tell notes with workspace := after.workspace } ∧
      sourceText stored =
        "a : McCamAutDefineType; b : MC_BR_AsmSegGrpPowerOn_AcpTrak; c : xMcAcpAxCamAutDefineType;".toList ∧
      outcome.first + outcome.second = 1 ∧
      notes.filter (·.severity == "MANDATORY") =
        [removalNote "MC_BR_AsmSegGrpPowerOn_AcpTrak" "MC_BR_AsmPowerOn_AcpTrak.SegmentGroup"] ∧
      ∃ notes', (convertDeclarations motionBlocks motionTypes.reverse motionRemovals false (Path.ofString "a.var")).exec
        after = (.ok ⟨0, 0, false⟩, after.tell notes') := by
  obtain ⟨outcome, after, notes, stored, hexec, htold, -, hstored, hcount, hnotes, -, hagain⟩ := exec_convertDeclarations
    motionBlocks.reverse_perm (.refl _) motionRemovals.reverse_perm
    (by rfl : sampleDeclaration.workspace.locate (Path.ofString "a.var") = .ok ["a.var"]) rfl true
  exact ⟨outcome, after, notes, stored, hexec, htold, hstored.trans (by decide +kernel), hcount.trans (by decide +kernel),
    hnotes.trans (by decide +kernel), hagain (.refl _) motionTypes.reverse_perm (.refl _) false after rfl⟩

end StudioMigration
