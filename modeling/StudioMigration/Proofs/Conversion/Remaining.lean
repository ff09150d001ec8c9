import StudioMigration.Proofs.Conversion.Project
import StudioMigration.Proofs.Text.Utf8

/-!
# What a conversion leaves behind

Which of the old names of functions still stand in a text after the conversion of its calls and constants, and
how a converted file reads in another encoding.

* `CleanTables.calls_pos_iff` says that something is renamed as a call just if an old name is called.
* `CleanTables.standsIn_convertedCode_iff` says that an old name stays just where it was not called.
* `lenientText_convertedBytes` says that the converted bytes of a plain text read the same in both encodings.
-/

namespace StudioMigration

open Text List
open Text.Utf8 (Bytes)

variable {bytes : Bytes}

/-! ## Calls -/

/-- Whether a word with a new name stands in a text where `holds` is true of what follows it. -/
def NewNames.Occurs (names : NewNames) (holds : List Char → Prop) (text : List Char) : Prop :=
  ∃ word, names word ≠ none ∧ IsName word ∧ StandsWhere holds word text

namespace NewNames

variable {names : NewNames} {holds : List Char → Prop}

theorem not_occurs_nil : ¬names.Occurs holds [] := by
  rintro ⟨word, -, hword, hstands⟩
  exact not_standsWhere_nil hword hstands

theorem occurs_other_iff {c : Char} (hc : isWord c = false) (rest : List Char) :
    names.Occurs holds (c :: rest) ↔ names.Occurs holds rest := by
  apply exists_congr
  intro word
  exact and_congr_right fun _ => and_congr_right fun hword => standsWhere_cons_iff hword hc rest

theorem occurs_name_iff {found after : List Char} (hfound : IsName found) (hafter : startsWord after = false) :
    names.Occurs holds (found ++ after) ↔ (names found ≠ none ∧ holds after) ∨ names.Occurs holds after := by
  constructor
  · rintro ⟨word, hnew, hword, hstands⟩
    rcases (standsWhere_append_iff hword hfound hafter).1 hstands with ⟨rfl, hholds⟩ | hrest
    · exact .inl ⟨hnew, hholds⟩
    · exact .inr ⟨word, hnew, hword, hrest⟩
  · rintro (⟨hnew, hholds⟩ | ⟨word, hnew, hword, hstands⟩)
    · exact ⟨found, hnew, hfound, (standsWhere_append_iff hfound hfound hafter).2 (.inl ⟨rfl, hholds⟩)⟩
    · exact ⟨word, hnew, hword, (standsWhere_append_iff hword hfound hafter).2 (.inr hstands)⟩

theorem occurs_callBody_iff {text body : List Char} (hbody : callBody? text = some body) :
    names.Occurs holds text ↔ names.Occurs holds body := by
  apply exists_congr
  intro word
  exact and_congr_right fun _ => and_congr_right fun hword => standsWhere_callBody_iff hword hbody

end NewNames

/-- The pass renames a call just if a word with a new name is called. -/
theorem countP_isCall_ne_zero_iff (functions constants : NewNames) (text : List Char) :
    (codePieces functions constants text).countP CodePiece.isCall ≠ 0 ↔
      functions.Occurs (fun after => callBody? after ≠ none) text := by
  induction text using wordsInduction with
  | nil => exact iff_of_false (by simp) NewNames.not_occurs_nil
  | other c rest hc ih =>
    rw [codePieces_other _ _ hc, NewNames.occurs_other_iff hc]
    exact ih
  | name found after hfound hafter ih =>
    rw [NewNames.occurs_name_iff hfound hafter]
    by_cases hcall : functions found = none ∨ callBody? after = none
    · -- the word at the front is not renamed as a call, so that the calls are those behind it
      have hpiece : ¬(((constants found).map CodePiece.constant).getD (.kept found)).isCall := by
        cases constants found with
        | none => simp [CodePiece.isCall]
        | some new => simp [CodePiece.isCall]
      rw [codePieces_noncall _ _ hfound hafter hcall, countP_cons_of_neg hpiece,
        or_iff_right fun h => hcall.elim h.1 h.2]
      exact ih after le_rfl
    · obtain ⟨new, body, hnew, hbody⟩ := exists_of_isCall hcall
      rw [codePieces_call _ _ hfound hnew hbody]
      exact iff_of_true (by simp [CodePiece.isCall]) (.inl ⟨by simp [hnew], by simp [hbody]⟩)

/-! ## Names that stay -/

/-- A word that is never written and not renamed as a constant stands before something after the pass just if it did so
before, if calls of it are not renamed or do not count. -/
theorem standsWhere_codePieces_iff {functions constants : NewNames} (hfunctions : functions.Proper)
    (hconstants : constants.Proper) {word : List Char} (hword : IsName word) (hconstant : constants word = none)
    (hnew : ∀ old, functions old ≠ some word ∧ constants old ≠ some word) {holds : List Char → Prop}
    (hholds : ∀ text, holds (piecesText (codePieces functions constants text)) ↔ holds text)
    (hcalls : functions word = none ∨ ∀ text, holds text → callBody? text = none) (text : List Char) :
    StandsWhere holds word (piecesText (codePieces functions constants text)) ↔ StandsWhere holds word text := by
  induction text using wordsInduction with
  | nil => rw [codePieces_nil, piecesText_nil]
  | other c rest hc ih =>
    rw [codePieces_other _ _ hc]
    exact (standsWhere_cons_iff hword hc _).trans (ih.trans (standsWhere_cons_iff hword hc rest).symm)
  | name found after hfound hafter ih =>
    have hafter' : startsWord (piecesText (codePieces functions constants after)) = false := by
      rw [startsWord_codePieces hconstants hfunctions, hafter]
    by_cases hcall : functions found = none ∨ callBody? after = none
    · obtain ⟨written, hwritten, heq, htext⟩ := codePieces_noncall_text hconstants hfound hafter hcall
      -- the word that is written is the one that is looked for just if it was so before
      have hsame : word = written ↔ word = found := by
        rcases hrenamed : constants found with _ | new
        · rw [← heq, hrenamed, Option.getD_none]
        · rw [← heq, hrenamed]
          refine iff_of_false ?_ ?_
          · rintro rfl
            exact (hnew found).2 hrenamed
          · rintro rfl
            rw [hconstant] at hrenamed
            cases hrenamed
      rw [htext]
      calc StandsWhere holds word (written ++ piecesText (codePieces functions constants after))
          ↔ (word = written ∧ holds (piecesText (codePieces functions constants after))) ∨
              StandsWhere holds word (piecesText (codePieces functions constants after)) :=
            standsWhere_append_iff hword hwritten hafter'
        _ ↔ (word = found ∧ holds after) ∨ StandsWhere holds word after :=
            or_congr (and_congr hsame (hholds after)) (ih after le_rfl)
        _ ↔ StandsWhere holds word (found ++ after) := (standsWhere_append_iff hword hfound hafter).symm
    · obtain ⟨new, body, hrenamed, hbody⟩ := exists_of_isCall hcall
      have hparen : isWord '(' = false := by decide
      have hopens : startsWord ('(' :: piecesText (codePieces functions constants body)) = false := hparen
      have hwritten : ¬(word = new ∧ holds ('(' :: piecesText (codePieces functions constants body))) := by
        rintro ⟨rfl, -⟩
        exact (hnew found).1 hrenamed
      have hcalled : ¬(word = found ∧ holds after) := by
        rintro ⟨rfl, hafter⟩
        exact hcall (hcalls.imp_right fun h => h after hafter)
      have htext : piecesText (codePieces functions constants (found ++ after)) =
          new ++ '(' :: piecesText (codePieces functions constants body) := by
        simp [codePieces_call _ _ hfound hrenamed hbody, CodePiece.text]
      rw [htext]
      calc StandsWhere holds word (new ++ '(' :: piecesText (codePieces functions constants body))
          ↔ StandsWhere holds word ('(' :: piecesText (codePieces functions constants body)) :=
            (standsWhere_append_iff hword (hfunctions found new hrenamed) hopens).trans (or_iff_right hwritten)
        _ ↔ StandsWhere holds word (piecesText (codePieces functions constants body)) :=
            standsWhere_cons_iff hword hparen _
        _ ↔ StandsWhere holds word body := ih body (length_callBody?_lt hbody).le
        _ ↔ StandsWhere holds word after := (standsWhere_callBody_iff hword hbody).symm
        _ ↔ StandsWhere holds word (found ++ after) :=
            ((standsWhere_append_iff hword hfound hafter).trans (or_iff_right hcalled)).symm

/-! ## Tables -/

namespace CleanTables

variable {functions constants : Renaming} (h : CleanTables functions constants) {entry : String × String}

include h

/-- The words with a new name among the functions are the old names of the table. -/
theorem occurs_iff (holds : List Char → Prop) (text : List Char) :
    functions.newName?.Occurs holds text ↔ ∃ entry ∈ functions, StandsWhere holds entry.1.toList text := by
  constructor
  · rintro ⟨word, hnew, -, hstands⟩
    obtain ⟨new, hnew⟩ := Option.ne_none_iff_exists'.1 hnew
    obtain ⟨entry, hentry, rfl, -⟩ := Renaming.exists_of_newName? hnew
    exact ⟨entry, hentry, hstands⟩
  · rintro ⟨entry, hentry, hstands⟩
    refine ⟨_, fun hnone => ?_, (h.functions_clean.entries entry hentry).old, hstands⟩
    simp only [Renaming.newName?, Option.map_eq_none_iff, find?_eq_none, decide_eq_true_eq] at hnone
    exact hnone entry hentry rfl

/-- Calls are counted just if an old name is called. -/
theorem calls_pos_iff (text : List Char) :
    1 ≤ (convertedCode functions constants text).2.1 ↔ ∃ entry ∈ functions, CalledIn entry.1.toList text := by
  rw [Nat.one_le_iff_ne_zero]
  refine (countP_isCall_ne_zero_iff functions.newName? constants.newName? text).trans ?_
  exact h.occurs_iff _ text

/-- After the conversion no old name is called. -/
theorem not_calledIn_convertedCode (hentry : entry ∈ functions) (text : List Char) :
    ¬CalledIn entry.1.toList (convertedCode functions constants text).1 := by
  intro hcalled
  have hcalls := (h.calls_pos_iff _).2 ⟨entry, hentry, hcalled⟩
  rw [convertedCode_convertedCode h] at hcalls
  cases hcalls

/-- An old name of a function stands in a converted text just if it stood there without being called. -/
theorem standsIn_convertedCode_iff (hentry : entry ∈ functions) (text : List Char) :
    StandsIn entry.1.toList (convertedCode functions constants text).1 ↔ BareIn entry.1.toList text := by
  have hmem : entry ∈ functions ++ constants := mem_append_left _ hentry
  have hconstant : constants.newName? entry.1.toList = none := by
    by_contra hne
    have hnone := h.newName?_constant hne
    simp only [Renaming.newName?, Option.map_eq_none_iff, find?_eq_none, decide_eq_true_eq] at hnone
    exact hnone entry hentry rfl
  have hnew : ∀ old, functions.newName? old ≠ some entry.1.toList ∧ constants.newName? old ≠ some entry.1.toList := by
    refine fun old => ⟨fun hnew => ?_, fun hnew => ?_⟩
    · obtain ⟨other, hother, -, heq⟩ := Renaming.exists_of_newName? hnew
      exact h.fresh other (mem_append_left _ hother) entry hmem (String.toList_inj.1 heq).symm
    · obtain ⟨other, hother, -, heq⟩ := Renaming.exists_of_newName? hnew
      exact h.fresh other (mem_append_right _ hother) entry hmem (String.toList_inj.1 heq).symm
  rw [standsIn_iff_calledIn_or_bareIn, or_iff_right (h.not_calledIn_convertedCode hentry text)]
  have hfunctions := Renaming.proper_newName? h.functions_clean.entries
  have hconstants := Renaming.proper_newName? h.constants_clean.entries
  refine standsWhere_codePieces_iff hfunctions hconstants (h.entries entry hmem).old hconstant hnew (fun text => ?_)
    (.inr fun _ => id) text
  rw [callBody?_codePieces hconstants hfunctions, Option.map_eq_none_iff]

end CleanTables

/-! ## Plain texts -/

/-- The text of some bytes in UTF-8 without malformed runs, line ends unified. -/
def lenientText (bytes : Bytes) : List Char := unifyNewlines (Utf8.decodeLenient bytes)

/-- Whether all bytes are those of characters that every encoding has. -/
def IsAscii (bytes : Bytes) : Prop := ∀ b ∈ bytes, b < 0x80

instance (bytes : Bytes) : Decidable (IsAscii bytes) := inferInstanceAs (Decidable (∀ b ∈ bytes, b < 0x80))

theorem decodeLenient_eq_decode (h : IsAscii bytes) : Utf8.decodeLenient bytes = Latin1.decode bytes := by
  induction bytes with
  | nil => rfl
  | cons b bytes ih =>
    obtain ⟨hb, hbytes⟩ := forall_mem_cons.1 h
    have hfront : Utf8.front b bytes = .char (Char.ofNat b.toNat) 1 := by
      have hlt : b.toNat < 0x80 := hb
      have hone := Utf8.front_one (Nat.le_of_lt_succ hlt) bytes
      rwa [UInt8.ofNat_toNat] at hone
    rw [Utf8.decodeLenient, Utf8.decodeLenientFrom, hfront]
    exact congrArg (Char.ofNat b.toNat :: ·) (ih hbytes)

/-- Plain bytes read the same in both encodings. -/
theorem lenientText_eq_sourceText (h : IsAscii bytes) : lenientText bytes = sourceText bytes := by
  rw [lenientText, decodeLenient_eq_decode h, sourceText]

theorem toNat_lt_of_mem_sourceText (h : IsAscii bytes) {c : Char} (hc : c ∈ sourceText bytes) : c.toNat < 0x80 := by
  rcases mem_unifyNewlines hc with hc | rfl
  · obtain ⟨b, hb, rfl⟩ := mem_map.1 hc
    have hlt : b.toNat < 0x80 := h b hb
    have hvalid : b.toNat.isValidChar := Or.inl (by omega)
    rwa [Char.ofNat, dif_pos hvalid]
  · decide

section Converted

variable {functions constants : Renaming} (htables : (functions, constants) ∈ codeTables)

include htables

/-- A conversion writes no other characters than plain ones. -/
theorem isAscii_convertedBytes (h : IsAscii bytes) : IsAscii (convertedBytes functions constants bytes) := by
  have hnames : ∀ tables ∈ codeTables, ∀ entry ∈ tables.1 ++ tables.2, ∀ c ∈ entry.2.toList, c.toNat < 0x80 := by
    decide +kernel
  unfold convertedBytes
  dsimp only
  split
  · exact h
  · intro b hb
    obtain ⟨c, hc, rfl⟩ := mem_map.1 hb
    have hlt : c.toNat < 0x80 := by
      rcases mem_convertedCode hc with hc | rfl | ⟨entry, hentry, hc⟩
      · exact toNat_lt_of_mem_sourceText h hc
      · decide
      · exact hnames _ htables entry hentry c hc
    exact (UInt8.ofNat_lt_iff (Nat.lt_trans hlt (by decide))).2 hlt

theorem lenientText_convertedBytes (h : IsAscii bytes) :
    lenientText (convertedBytes functions constants bytes) =
      (convertedCode functions constants (sourceText bytes)).1 := by
  rw [lenientText_eq_sourceText (isAscii_convertedBytes htables h), sourceText_convertedBytes htables]

end Converted

end StudioMigration
