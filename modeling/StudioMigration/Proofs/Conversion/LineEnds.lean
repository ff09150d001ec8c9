import StudioMigration.Proofs.Conversion.Remaining

/-!
# Line ends in converted sources

What a conversion of calls and constants does to the ends of lines. A call takes the white space in front of its
parenthesis with it, line ends included. A source is read with its line ends unified, and a changed one is
written so.

* `count_feed_codePieces` says when the single pass takes line ends away.
* `unifiedPieces_codePieces` says that the single pass and the unifying of line ends can be exchanged.
* `convertedBytes_eq` gives the bytes of a converted file by those that are replaced in place.
-/

namespace StudioMigration

open List CodePiece Text
open Text.Utf8 (Bytes)

/-! ## Calls that open on a later line -/

/-- Whether a call opens, but not on the line of its name. -/
def OpensBelow (after : List Char) : Prop := callBody? after ≠ none ∧ '\n' ∈ after.takeWhile isSpace

instance (after : List Char) : Decidable (OpensBelow after) := inferInstanceAs (Decidable (_ ∧ _))

/-- Whether a word is called in a text such that the call opens on a later line. -/
def CalledBelow (word text : List Char) : Prop := StandsWhere OpensBelow word text

/-- A name has no line ends. -/
theorem Text.IsName.solid {word : List Char} (h : IsName word) : ∀ c ∈ word, c ≠ '\n' ∧ c ≠ '\r' := by
  intro c hc
  constructor
  · rintro rfl
    exact absurd (h.isWord _ hc) (by decide)
  · rintro rfl
    exact absurd (h.isWord _ hc) (by decide)

theorem Text.IsName.count_feed {word : List Char} (h : IsName word) : word.count '\n' = 0 :=
  count_eq_zero.2 fun hmem => (h.solid _ hmem).1 rfl

/-- The pass brings no line ends, and it takes some away just if a word with a new name is called such that the
call opens on a later line. -/
theorem count_feed_codePieces {functions constants : NewNames} (hfunctions : functions.Proper)
    (hconstants : constants.Proper) (text : List Char) :
    (piecesText (codePieces functions constants text)).count '\n' ≤ text.count '\n' ∧
      ((piecesText (codePieces functions constants text)).count '\n' < text.count '\n' ↔
        functions.Occurs OpensBelow text) := by
  induction text using wordsInduction with
  | nil =>
    rw [codePieces_nil]
    exact ⟨le_rfl, iff_of_false (lt_irrefl _) NewNames.not_occurs_nil⟩
  | other c rest hc ih =>
    rw [NewNames.occurs_other_iff hc, codePieces_other _ _ hc, piecesText_cons, text, singleton_append,
      count_cons, count_cons]
    exact ⟨Nat.add_le_add_right ih.1 _, Nat.add_lt_add_iff_right.trans ih.2⟩
  | name found after hfound hafter ih =>
    have hnone : found.count '\n' = 0 := hfound.count_feed
    rw [NewNames.occurs_name_iff hfound hafter]
    by_cases hcall : functions found = none ∨ callBody? after = none
    · -- what stands for the word has no line end either
      obtain ⟨written, hwritten, -, htext⟩ := codePieces_noncall_text hconstants hfound hafter hcall
      have hzero : written.count '\n' = 0 := hwritten.count_feed
      rw [or_iff_right fun h => hcall.elim h.1 h.2.1, htext, count_append, count_append, hnone, hzero,
        Nat.zero_add, Nat.zero_add]
      exact ih after le_rfl
    · -- a call takes the line ends before its parenthesis with it
      obtain ⟨new, body, hnew, hbody⟩ := exists_of_isCall hcall
      have hzero : new.count '\n' = 0 := (hfunctions found new hnew).count_feed
      have hconverted : (piecesText (codePieces functions constants (found ++ after))).count '\n' =
          (piecesText (codePieces functions constants body)).count '\n' := by
        simp [codePieces_call _ _ hfound hnew hbody, text, hzero]
      have hcount : (found ++ after).count '\n' = (after.takeWhile isSpace).count '\n' + body.count '\n' := by
        conv => lhs; rw [callBody?_eq_some_iff.1 hbody]
        simp [hnone]
      have hopens : functions found ≠ none ∧ OpensBelow after ↔ 0 < (after.takeWhile isSpace).count '\n' := by
        simp [OpensBelow, hnew, hbody, count_pos_iff]
      obtain ⟨hle, hlt⟩ := ih body (length_callBody?_lt hbody).le
      rw [hconverted, hopens, NewNames.occurs_callBody_iff hbody, ← hlt]
      omega

/-- With the tables of either conversion no line ends come, and some go just if an old name of a function is called
such that the call opens on a later line. -/
theorem count_feed_renameCode {functions constants : Renaming} (htables : (functions, constants) ∈ codeTables)
    (text : List Char) :
    ∃ final calls words, renameCode functions constants text = .ok (final, calls, words) ∧
      final.count '\n' ≤ text.count '\n' ∧
      (final.count '\n' = text.count '\n' ↔ ∀ entry ∈ functions, ¬CalledBelow entry.1.toList text) := by
  have hclean := cleanTables_of_mem htables
  obtain ⟨hle, hlt⟩ := count_feed_codePieces (Renaming.proper_newName? hclean.functions_clean.entries)
    (Renaming.proper_newName? hclean.constants_clean.entries) text
  refine ⟨_, _, _, renameCode_eq_convertedCode hclean text, hle, ?_⟩
  rw [← not_iff_not, ← ne_eq, ← hle.lt_iff_ne]
  refine (hlt.trans (hclean.occurs_iff OpensBelow text)).trans ?_
  simp only [CalledBelow, not_forall, not_not, exists_prop]

/-- A call that opens on its own line keeps the line ends, and so does a name that is not called. -/
theorem count_feed_renameCode_kept :
    renameCode stringFunctions stringConstants "y := strlen \t(b);\n// strlen,\n(c)".toList =
        .ok ("y := brsstrlen(b);\n// strlen,\n(c)".toList, 1, 0) ∧
      ∀ entry ∈ stringFunctions, ¬CalledBelow entry.1.toList "y := strlen \t(b);\n// strlen,\n(c)".toList := by
  have htables : (stringFunctions, stringConstants) ∈ codeTables := by simp [codeTables]
  have hresult : convertedCode stringFunctions stringConstants "y := strlen \t(b);\n// strlen,\n(c)".toList =
      ("y := brsstrlen(b);\n// strlen,\n(c)".toList, 1, 0) := by decide +kernel
  obtain ⟨final, calls, words, hrename, -, hkept⟩ :=
    count_feed_renameCode htables "y := strlen \t(b);\n// strlen,\n(c)".toList
  rw [renameCode_eq_convertedCode (cleanTables_of_mem htables), hresult] at hrename ⊢
  obtain ⟨rfl, -⟩ := Prod.mk.inj (Except.ok.inj hrename)
  exact ⟨rfl, hkept.1 (by decide +kernel)⟩

/-- A remark that ends in the name of a function takes up the rest of an expression on the next line. -/
theorem renameCode_joins_lines :
    renameCode stringFunctions stringConstants "y := 2 * // no strlen\n(a + b);\n".toList =
      .ok ("y := 2 * // no brsstrlen(a + b);\n".toList, 1, 0) := by
  rw [renameCode_eq_convertedCode (cleanTables_of_mem (by simp [codeTables]))]
  exact congrArg Except.ok (by decide +kernel)

/-! ## Unified line ends -/

namespace Text

theorem unifyNewlines_cons {c : Char} (h : c ≠ '\r') (rest : List Char) :
    unifyNewlines (c :: rest) = c :: unifyNewlines rest := by
  rw [unifyNewlines]
  · rintro rest' rfl
    exact absurd rfl h
  · exact h

/-- A carriage return is a line end of its own unless a line feed follows. -/
theorem unifyNewlines_return (rest : List Char) :
    unifyNewlines ('\r' :: rest) =
      if rest.head? = some '\n' then unifyNewlines rest else '\n' :: unifyNewlines rest := by
  split
  · rename_i hhead
    obtain ⟨more, rfl⟩ := head?_eq_some_iff.1 hhead
    rw [unifyNewlines, unifyNewlines_cons (by decide)]
  · rename_i hhead
    rw [unifyNewlines]
    rintro more rfl
    exact hhead rfl

theorem startsWord_unifyNewlines (text : List Char) : startsWord (unifyNewlines text) = startsWord text := by
  rw [startsWord, head?_unifyNewlines, Option.any_map]
  congr 1
  funext c
  by_cases hc : c = '\r'
  · subst hc
    decide
  · simp [hc]

theorem callBody?_unifyNewlines (text : List Char) :
    callBody? (unifyNewlines text) = (callBody? text).map unifyNewlines := by
  have hfeed : isSpace '\n' := by decide
  have hreturn : isSpace '\r' := by decide
  fun_induction unifyNewlines text with
  | case1 => rfl
  | case2 rest ih => simpa [callBody?_cons, hfeed, hreturn] using ih
  | case3 rest hrest ih => simpa [callBody?_cons, hfeed, hreturn] using ih
  | case4 c rest hrest hc ih =>
    rw [callBody?_cons, callBody?_cons, ih]
    split
    · rfl
    · split
      · rfl
      · rfl

end Text

/-- Some pieces have the text of others with its line ends unified, and rename as much. -/
structure UnifiedPieces (unified pieces : List CodePiece) : Prop where
  text : piecesText unified = unifyNewlines (piecesText pieces)
  calls : unified.countP isCall = pieces.countP isCall
  constants : unified.countP isConstant = pieces.countP isConstant

/-- A character that stays goes before. -/
theorem UnifiedPieces.kept {unified pieces : List CodePiece} (h : UnifiedPieces unified pieces) {c : Char}
    (front : List Char) (htext : front ++ unifyNewlines (piecesText pieces) = unifyNewlines (c :: piecesText pieces)) :
    UnifiedPieces (front.map (fun d => .kept [d]) ++ unified) (.kept [c] :: pieces) := by
  refine ⟨?_, ?_, ?_⟩
  · simp only [piecesText_append, piecesText_cons, h.text, CodePiece.text, singleton_append, ← htext]
    simp [piecesText, flatMap_map, CodePiece.text]
  · simp [CodePiece.isCall, Function.comp_def, h.calls]
  · simp [CodePiece.isConstant, Function.comp_def, h.constants]

/-- A piece without line ends goes before. -/
theorem UnifiedPieces.cons {unified pieces : List CodePiece} (h : UnifiedPieces unified pieces) {piece : CodePiece}
    (hne : piece.text ≠ []) (hsolid : ∀ c ∈ piece.text, c ≠ '\n' ∧ c ≠ '\r') :
    UnifiedPieces (piece :: unified) (piece :: pieces) := by
  refine ⟨?_, ?_, ?_⟩
  · rw [piecesText_cons, h.text]
    exact (unifyNewlines_append_solid [] _ hne hsolid).symm
  · rw [countP_cons, countP_cons, h.calls]
  · rw [countP_cons, countP_cons, h.constants]

section Unified

variable {functions constants : NewNames} (hfunctions : functions.Proper) (hconstants : constants.Proper)

include hfunctions hconstants

/-- A pass leaves a line feed at the front of a text there and brings none to it. -/
theorem head?_codePieces_eq_feed_iff (text : List Char) :
    (piecesText (codePieces functions constants text)).head? = some '\n' ↔ text.head? = some '\n' := by
  have hname : ∀ {word : List Char}, IsName word → ∀ rest, (word ++ rest).head? ≠ some '\n' := by
    intro word hword rest hhead
    have hstarts := hword.startsWord_append rest
    rw [startsWord, hhead] at hstarts
    revert hstarts
    decide
  cases text using wordsInduction with
  | nil => simp
  | other c rest hc _ => simp [codePieces_other _ _ hc, text]
  | name word after hword hafter _ =>
    refine iff_of_false ?_ (hname hword after)
    by_cases hcall : functions word = none ∨ callBody? after = none
    · obtain ⟨found, hfound, -, htext⟩ := codePieces_noncall_text hconstants hword hafter hcall
      rw [htext]
      exact hname hfound _
    · obtain ⟨new, body, hnew, hbody⟩ := exists_of_isCall hcall
      rw [codePieces_call _ _ hword hnew hbody, piecesText_cons, text, append_assoc]
      exact hname (hfunctions word new hnew) _

/-- A pass over a text with its line ends unified does what a pass over the text itself does. -/
theorem unifiedPieces_codePieces (text : List Char) :
    UnifiedPieces (codePieces functions constants (unifyNewlines text)) (codePieces functions constants text) := by
  induction text using wordsInduction with
  | nil =>
    rw [unifyNewlines, codePieces_nil]
    exact ⟨rfl, rfl, rfl⟩
  | other c rest hc ih =>
    have hfeed : isWord '\n' = false := by decide
    have hhead := head?_codePieces_eq_feed_iff hfunctions hconstants rest
    rw [codePieces_other _ _ hc]
    by_cases hreturn : c = '\r'
    · subst hreturn
      rw [unifyNewlines_return]
      split
      · -- the carriage return goes with the line feed behind it
        apply ih.kept []
        rw [unifyNewlines_return, if_pos (hhead.2 ‹_›), nil_append]
      · rw [codePieces_other _ _ hfeed]
        apply ih.kept ['\n']
        rw [unifyNewlines_return, if_neg (mt hhead.1 ‹_›), singleton_append]
    · rw [unifyNewlines_cons hreturn, codePieces_other _ _ hc]
      exact ih.kept [c] (unifyNewlines_cons hreturn _).symm
  | name word after hword hafter ih =>
    have hunified : unifyNewlines (word ++ after) = word ++ unifyNewlines after :=
      unifyNewlines_append_solid [] after hword.ne_nil hword.solid
    have hafter' : startsWord (unifyNewlines after) = false := by rw [startsWord_unifyNewlines, hafter]
    have hbody' := callBody?_unifyNewlines after
    rw [hunified]
    by_cases hcall : functions word = none ∨ callBody? after = none
    · -- a word is a call in the unified text just if it is one in the text
      have hcall' : functions word = none ∨ callBody? (unifyNewlines after) = none := by
        rwa [hbody', Option.map_eq_none_iff]
      rw [codePieces_noncall _ _ hword hafter hcall, codePieces_noncall _ _ hword hafter' hcall']
      have hwritten : IsName (((constants word).map constant).getD (.kept word)).text := by
        rcases hnew : constants word with _ | new
        · exact hword
        · exact hconstants word new hnew
      exact (ih after le_rfl).cons hwritten.ne_nil hwritten.solid
    · obtain ⟨new, body, hnew, hbody⟩ := exists_of_isCall hcall
      rw [hbody] at hbody'
      rw [codePieces_call _ _ hword hnew hbody, codePieces_call _ _ hword hnew hbody']
      apply (ih body (length_callBody?_lt hbody).le).cons
      · simp [text]
      · intro c hc
        rcases mem_append.1 hc with hc | hc
        · exact (hfunctions word new hnew).solid c hc
        · rw [mem_singleton.1 hc]
          decide

end Unified

theorem CleanTables.convertedCode_unifyNewlines {functions constants : Renaming} (h : CleanTables functions constants)
    (text : List Char) :
    convertedCode functions constants (unifyNewlines text) =
      (unifyNewlines (convertedCode functions constants text).1, (convertedCode functions constants text).2) := by
  have hunified := unifiedPieces_codePieces (Renaming.proper_newName? h.functions_clean.entries)
    (Renaming.proper_newName? h.constants_clean.entries) text
  simp only [convertedCode, summary, hunified.text, hunified.calls, hunified.constants]

/-! ## Bytes replaced in place -/

theorem Text.latinBytes_decode (bytes : Bytes) : latinBytes (Latin1.decode bytes) = bytes := by
  unfold latinBytes Latin1.decode
  rw [map_map]
  conv => rhs; rw [← map_id bytes]
  apply map_congr_left
  intro b _
  have hchar := Latin1.toNat_ofNat b
  simp [hchar]

/-- A text is written as it was read just if it has no carriage returns, which have the code 13. -/
theorem latinBytes_sourceText_eq_self_iff (bytes : Bytes) : latinBytes (sourceText bytes) = bytes ↔ 13 ∉ bytes := by
  constructor
  · -- the text that was read would be the one with the carriage return
    intro h hmem
    have hdecoded : sourceText bytes = Latin1.decode bytes := by
      rw [← Latin1.decode_latinBytes fun c hc => fits_of_mem_sourceText hc, h]
    have hreturn : '\r' ∈ Latin1.decode bytes := mem_map.2 ⟨13, hmem, rfl⟩
    rw [← hdecoded] at hreturn
    exact not_mem_unifyNewlines _ hreturn
  · intro h
    have hreturn : '\r' ∉ Latin1.decode bytes := by
      intro hmem
      obtain ⟨b, hb, hchar⟩ := mem_map.1 hmem
      have hcode : b.toNat = 13 := by rw [← Latin1.toNat_ofNat, hchar]; rfl
      obtain rfl : b = 13 := UInt8.toNat_inj.1 hcode
      exact h hb
    rw [sourceText, unifyNewlines_of_not_mem hreturn, latinBytes_decode]

/-- The bytes of a file with its calls and constants replaced and all other bytes as they are. -/
def replacedBytes (functions constants : Renaming) (bytes : Bytes) : Bytes :=
  latinBytes (convertedCode functions constants (Latin1.decode bytes)).1

section Bytes

variable {functions constants : Renaming} (htables : (functions, constants) ∈ codeTables) (bytes : Bytes)

include htables

theorem decode_replacedBytes :
    Latin1.decode (replacedBytes functions constants bytes) =
      (convertedCode functions constants (Latin1.decode bytes)).1 :=
  Latin1.decode_latinBytes (fits_convertedCode htables fun _ hc => Latin1.fits_of_mem_decode hc)

theorem replacedBytes_eq_self_iff :
    replacedBytes functions constants bytes = bytes ↔
      (convertedCode functions constants (Latin1.decode bytes)).2 = (0, 0) := by
  rw [← convertedCode_eq_self_iff (cleanTables_of_mem htables)]
  constructor
  · intro h
    rw [← decode_replacedBytes htables, h]
  · intro h
    rw [replacedBytes, h, latinBytes_decode]

/-- A file in which nothing is replaced keeps its bytes, and any other one gets the text of its replaced bytes with
unified line ends. -/
theorem convertedBytes_eq :
    convertedBytes functions constants bytes =
      if replacedBytes functions constants bytes = bytes then bytes
      else latinBytes (sourceText (replacedBytes functions constants bytes)) := by
  have hunified := (cleanTables_of_mem htables).convertedCode_unifyNewlines (Latin1.decode bytes)
  simp only [convertedBytes, replacedBytes_eq_self_iff htables, sourceText, decode_replacedBytes htables, hunified]

theorem convertedBytes_eq_replacedBytes_iff :
    convertedBytes functions constants bytes = replacedBytes functions constants bytes ↔
      replacedBytes functions constants bytes = bytes ∨ 13 ∉ replacedBytes functions constants bytes := by
  rw [convertedBytes_eq htables]
  split
  · rename_i hsame
    simp [hsame]
  · rename_i hne
    rw [or_iff_right hne, latinBytes_sourceText_eq_self_iff]

/-- Converting a file ends well and leaves all other files alone. The file keeps its bytes if nothing is replaced in
it, and is written with unified line ends otherwise; so it has its calls and constants replaced and all other bytes
as they were just if nothing is replaced or no carriage return is left. -/
theorem exec_convertCode_replaced {session : Session} {file : Path} {location : Location} {bytes : Bytes}
    (hlocate : session.workspace.locate file = .ok location)
    (hget : session.workspace.tree.get? location = some (.file bytes)) :
    ∃ outcome after stored, (convertCode functions constants file).exec session = (.ok outcome, after) ∧
      (∀ place, after.workspace.tree.get? place =
        if place = location then some (.file stored) else session.workspace.tree.get? place) ∧
      stored = (if replacedBytes functions constants bytes = bytes then bytes
        else latinBytes (sourceText (replacedBytes functions constants bytes))) ∧
      (stored = replacedBytes functions constants bytes ↔
        replacedBytes functions constants bytes = bytes ∨ 13 ∉ replacedBytes functions constants bytes) := by
  obtain ⟨changed, after, hrun, -, -, htree⟩ := exec_convertCode htables hlocate hget (by simp)
  exact ⟨_, after, _, hrun, htree, convertedBytes_eq htables bytes, convertedBytes_eq_replacedBytes_iff htables bytes⟩

end Bytes

/-- A file without carriage returns has its call and its constant replaced and nothing else. -/
theorem exec_convertCode_replaced_plain :
    ∃ outcome after stored,
      (convertCode mathFunctions mathConstants (Path.ofString "M/Logical/a.txt")).exec sampleProject =
        (.ok outcome, after) ∧
      after.workspace.tree.get? ["M", "Logical", "a.txt"] = some (.file stored) ∧
      stored = replacedBytes mathFunctions mathConstants (latinBytes "pow(amPI)".toList) := by
  obtain ⟨outcome, after, stored, hrun, htree, -, hstored⟩ :=
    exec_convertCode_replaced (List.mem_cons_self : (mathFunctions, mathConstants) ∈ codeTables)
      (by rfl : sampleProject.workspace.locate (Path.ofString "M/Logical/a.txt") =
        .ok ["M", "Logical", "a.txt"])
      (by rfl : sampleProject.workspace.tree.get? ["M", "Logical", "a.txt"] =
        some (.file (latinBytes "pow(amPI)".toList)))
  refine ⟨outcome, after, stored, hrun, by rw [htree, if_pos rfl], hstored.2 (.inr ?_)⟩
  decide +kernel

/-- A source loses the carriage return behind the call that is replaced. -/
theorem exec_convertCode_return_lost :
    ∃ outcome after,
      (convertCode mathFunctions mathConstants (Path.ofString "M/Logical/a.st")).exec sampleProject =
        (.ok outcome, after) ∧
      after.workspace.tree.get? ["M", "Logical", "a.st"] = some (.file (latinBytes "y := brmpow(brmPI);\n".toList)) ∧
      replacedBytes mathFunctions mathConstants (latinBytes "y := pow (amPI);\r\n".toList) =
        latinBytes "y := brmpow(brmPI);\r\n".toList := by
  obtain ⟨changed, after, hrun, -, -, htree⟩ :=
    exec_convertCode (List.mem_cons_self : (mathFunctions, mathConstants) ∈ codeTables)
      (by rfl : sampleProject.workspace.locate (Path.ofString "M/Logical/a.st") =
        .ok ["M", "Logical", "a.st"])
      (by rfl : sampleProject.workspace.tree.get? ["M", "Logical", "a.st"] =
        some (.file (latinBytes "y := pow (amPI);\r\n".toList))) (by simp)
  refine ⟨_, after, hrun, ?_, by decide +kernel⟩
  rw [htree, if_pos rfl]
  decide +kernel

end StudioMigration
