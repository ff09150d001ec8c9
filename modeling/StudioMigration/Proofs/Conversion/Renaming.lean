import StudioMigration.Proofs.Conversion.SinglePass

/-!
# Renaming entry by entry

A renaming substitutes the occurrences of one old name after the other. Here every such substitution is
shown to be a single pass over the words of its text, and the passes are put together.

* `renameCode_eq_convertedCode` says that renaming entry by entry is the single pass with the whole tables,
  whatever the order of their entries.
-/

namespace StudioMigration

open List Renaming NewNames Text CodePiece

variable {table functions constants : Renaming} {new old : List Char} {entry : String × String} {names : NewNames}
  {role : NameRole} {p : Pattern}

/-! ## Templates without escapes -/

namespace Template

/-- A template without a backslash stands for itself. -/
theorem read_of_not_mem {template : List Char} (h : '\\' ∉ template) :
    read template = .ok (template.map TemplatePart.char) := by
  have htokens : Escape.tokens template = template.map fun c => [c] := by
    fun_induction Escape.tokens template with
    | case1 => rfl
    | case2 => simp at h
    | case3 c rest hc ih =>
      rw [ih fun hmem => h (mem_cons_of_mem _ hmem)]
      rfl
  have hlone : ∀ (whole rest : List Char), '\\' ∉ rest →
      Escape.loneBackslash? whole (rest.map fun c => [c]) = none := by
    intro whole rest hrest
    unfold Escape.loneBackslash?
    split
    · rename_i heq
      cases rest with
      | nil => simp at heq
      | cons c rest => simp_all
    · rfl
  have hparts : ∀ (whole rest : List Char) (pos : Nat), '\\' ∉ rest →
      readFrom whole 0 .plain pos (rest.map fun c => [c]) = .ok (rest.map TemplatePart.char) := by
    intro whole rest pos hrest
    induction rest generalizing pos with
    | nil => rfl
    | cons c rest ih =>
      have htail : '\\' ∉ rest := fun hmem => hrest (mem_cons_of_mem _ hmem)
      have hhead := hlone whole (c :: rest) hrest
      rw [map_cons] at hhead
      simp only [map_cons, readFrom, Mode.refuses, hlone whole rest htail, hhead,
        Option.orElse_eq_orElse, Option.orElse_none]
      simp [ih _ htail]
  rw [read, htokens, hlone template template h, hparts template template 0 h]

/-- Expanding a template without escapes ignores the match. -/
theorem expand_map_char (text : List Char) (found : Pattern.Match) :
    expand (text.map TemplatePart.char) found = text := by
  induction text with
  | nil => rfl
  | cons c text ih => simpa [expand] using ih

end Template

/-! ## Pieces of a text -/

namespace Pattern

theorem piecesFrom_skip (p : Pattern) (passed rest before : List Char) (pos : Nat) :
    p.piecesFrom passed.length before pos (passed ++ rest) =
      p.piecesFrom 0 (passed.reverse ++ before) (pos + passed.length) rest := by
  induction passed generalizing before pos with
  | nil => simp
  | cons c passed ih =>
    rw [length_cons, cons_append, piecesFrom, ih]
    simp [Nat.add_assoc, Nat.add_comm 1]

/-- A pattern finds the names that have new names: at the start of a word it matches just if the word is
to be renamed, and nowhere else. -/
structure Finds (p : Pattern) (functions constants : NewNames) : Prop where
  elsewhere : ∀ {cursor : Cursor},
    startsWord cursor.before ∨ startsWord cursor.rest = false → p.matchAt cursor = none
  call : ∀ {found after body before : List Char} {pos : Nat}, IsName found →
    startsWord before = false → functions found ≠ none → callBody? after = some body →
    p.matchAt ⟨before, found ++ after, pos⟩ = some ⟨found ++ (after.takeWhile isSpace ++ ['(']), []⟩
  noncall : ∀ {found after before : List Char} {pos : Nat}, IsName found →
    startsWord before = false → startsWord after = false →
    functions found = none ∨ callBody? after = none →
    p.matchAt ⟨before, found ++ after, pos⟩ = (constants found).map fun _ => ⟨found, []⟩

theorem finds_call (hold : IsName old) (new : List Char) :
    (call old).Finds (fun word => if word = old then some new else none) (fun _ => none) where
  elsewhere h := matchAt_call_eq_none hold h
  call := by
    intro found after body before pos hfound hbefore hnew hbody
    have heq : found = old := by
      by_contra hne
      simp [hne] at hnew
    rw [matchAt_call_front hold hfound (startsWord_of_callBody? hbody) hbefore]
    simp [heq, hbody]
  noncall := by
    intro found after before pos hfound hbefore hafter hno
    rw [matchAt_call_front hold hfound hafter hbefore]
    rcases hno with hno | hno
    · have hne : old ≠ found := by
        rintro rfl
        simp at hno
      simp [hne]
    · simp [hno]

theorem finds_word (hold : IsName old) (new : List Char) :
    (word old).Finds (fun _ => none) (fun word => if word = old then some new else none) where
  elsewhere h := matchAt_word_eq_none hold h
  call := by
    intro found after body before pos hfound hbefore hnew
    exact absurd rfl hnew
  noncall := by
    intro found after before pos hfound hbefore hafter hno
    rw [matchAt_word_front hold hfound hafter hbefore]
    by_cases heq : found = old
    · simp [heq]
    · simp [heq, Ne.symm heq]

theorem piecesFrom_hit {found before rest : List Char} {pos : Nat} (hfound : found ≠ [])
    (hmatch : p.matchAt ⟨before, found ++ rest, pos⟩ = some ⟨found, []⟩) :
    p.piecesFrom 0 before pos (found ++ rest) =
      .hit ⟨found, []⟩ ::
        p.piecesFrom 0 (found.reverse ++ before) (pos + found.length) rest := by
  cases found with
  | nil => exact absurd rfl hfound
  | cons c found =>
    rw [cons_append, piecesFrom, ← cons_append, hmatch]
    simp only [isEmpty_cons, Bool.false_eq_true, if_false, length_cons, Nat.add_sub_cancel]
    rw [piecesFrom_skip]
    simp [Nat.add_assoc, Nat.add_comm 1]

theorem Finds.piecesFrom_inside {functions constants : NewNames} (hp : p.Finds functions constants)
    {inner before : List Char} (hinner : ∀ c ∈ inner, isWord c) (hbefore : startsWord before)
    (pos : Nat) (after : List Char) :
    p.piecesFrom 0 before pos (inner ++ after) =
      inner.map Piece.kept ++
        p.piecesFrom 0 (inner.reverse ++ before) (pos + inner.length) after := by
  induction inner generalizing before pos with
  | nil => simp
  | cons c inner ih =>
    have hc : isWord c := hinner c mem_cons_self
    rw [cons_append, piecesFrom, hp.elsewhere (.inl hbefore)]
    rw [ih (fun d hd => hinner d (mem_cons_of_mem _ hd)) (by simpa using hc)]
    simp [Nat.add_assoc, Nat.add_comm 1]

/-! ## One substitution -/

/-- The text of a piece when every match is replaced by `new`. -/
def Piece.replaced (new : List Char) : Piece → List Char
  | .kept c => [c]
  | .hit _ => new

def Piece.isHit : Piece → Bool
  | .kept _ => false
  | .hit _ => true

/-- Replacing the matches among some pieces by `new` comes to the same as some pieces of code. -/
structure Replaces (new : List Char) (pieces : List Piece) (code : List CodePiece) : Prop where
  text : pieces.flatMap (Piece.replaced new) = piecesText code
  hits : pieces.countP Piece.isHit = code.countP isCall + code.countP isConstant

theorem Replaces.append {pieces pieces' : List Piece} {code code' : List CodePiece} (h : Replaces new pieces code)
    (h' : Replaces new pieces' code') : Replaces new (pieces ++ pieces') (code ++ code') := by
  constructor
  · rw [flatMap_append, piecesText_append, h.text, h'.text]
  · have hsum := h.hits
    have hsum' := h'.hits
    simp only [countP_append]
    omega

theorem replaces_kept (new word : List Char) : Replaces new (word.map Piece.kept) [.kept word] := by
  constructor
  · induction word with
    | nil => rfl
    | cons c word ih => simpa [Piece.replaced, text] using ih
  · induction word with
    | nil => rfl
    | cons c word ih => simp [Piece.isHit, isCall, isConstant]

/-- Substituting the names that a pattern finds is a single pass, from any place that is not inside a
word. -/
theorem Finds.replaces_piecesFrom {p : Pattern} {functions constants : NewNames}
    (hp : p.Finds functions constants) {new : List Char}
    (hcalls : ∀ word name, functions word = some name → name ++ ['('] = new)
    (hwords : ∀ word name, constants word = some name → name = new) (text before : List Char)
    (pos : Nat) (hedge : startsWord before = false ∨ startsWord text = false) :
    Replaces new (p.piecesFrom 0 before pos text) (codePieces functions constants text) := by
  induction text using wordsInduction generalizing before pos with
  | nil =>
    rw [piecesFrom, hp.elsewhere (.inr rfl), codePieces_nil]
    exact ⟨rfl, rfl⟩
  | other c rest hc ih =>
    have hnone : p.matchAt ⟨before, c :: rest, pos⟩ = none := hp.elsewhere (.inr hc)
    rw [piecesFrom, hnone, codePieces_other _ _ hc]
    exact (replaces_kept new [c]).append (ih (c :: before) (pos + 1) (.inl hc))
  | name word after hword hafter ih =>
    have hbefore : startsWord before = false := hedge.resolve_right (by simp [hword.startsWord_append])
    by_cases hcall : functions word = none ∨ callBody? after = none
    · have hmatch : p.matchAt ⟨before, word ++ after, pos⟩ =
          (constants word).map fun _ => ⟨word, []⟩ := hp.noncall hword hbefore hafter hcall
      have hrest := ih after le_rfl (word.reverse ++ before) (pos + word.length) (.inr hafter)
      rw [codePieces_noncall _ _ hword hafter hcall]
      cases hnew : constants word with
      | some name =>
        rw [hnew] at hmatch
        rw [piecesFrom_hit hword.ne_nil hmatch]
        have hhit : Replaces new [.hit ⟨word, []⟩] [.constant name] :=
          ⟨by simp [Piece.replaced, text, hwords word name hnew], rfl⟩
        exact hhit.append hrest
      | none =>
        rw [hnew] at hmatch
        -- no match at the start of the word, and none inside it
        have hpieces : p.piecesFrom 0 before pos (word ++ after) =
            word.map Piece.kept ++
              p.piecesFrom 0 (word.reverse ++ before) (pos + word.length) after := by
          cases word with
          | nil => exact absurd rfl hword.ne_nil
          | cons c inner =>
            have hinner : ∀ d ∈ inner, isWord d := fun d hd =>
              hword.isWord d (mem_cons_of_mem _ hd)
            have hc : startsWord (c :: before) := hword.isWord c mem_cons_self
            rw [cons_append] at hmatch ⊢
            rw [piecesFrom, hmatch, hp.piecesFrom_inside hinner hc]
            simp [Nat.add_assoc, Nat.add_comm 1]
        rw [hpieces]
        exact (replaces_kept new word).append hrest
    · obtain ⟨name, body, hname, hbody⟩ := exists_of_isCall hcall
      have hlength := length_callBody?_lt hbody
      have hmatch : p.matchAt ⟨before, word ++ after, pos⟩ =
          some ⟨word ++ (after.takeWhile isSpace ++ ['(']), []⟩ :=
        hp.call hword hbefore (by simp [hname]) hbody
      have hform : word ++ after = (word ++ (after.takeWhile isSpace ++ ['('])) ++ body := by
        simpa using congrArg (word ++ ·) (callBody?_eq_some_iff.1 hbody)
      rw [codePieces_call _ _ hword hname hbody]
      rw [hform] at hmatch ⊢
      rw [piecesFrom_hit (by simp) hmatch]
      have hhit : Replaces new [.hit ⟨word ++ (after.takeWhile isSpace ++ ['(']), []⟩] [.call name] :=
        ⟨by simp [Piece.replaced, text, ← hcalls word name hname], rfl⟩
      have hparen : isWord '(' = false := by decide
      exact hhit.append (ih body hlength.le _ _ (.inl (by simpa using hparen)))

/-- A template without escapes replaces every match by itself. -/
theorem substitute_of_not_mem (p : Pattern) (hplain : '\\' ∉ new) (text : List Char) :
    p.substitute new text = .ok ((p.pieces text).flatMap (Piece.replaced new), (p.findAll text).length) := by
  have htext : p.replaceWith (Template.expand (new.map TemplatePart.char)) text =
      (p.pieces text).flatMap (Piece.replaced new) := by
    unfold replaceWith
    congr 1
    funext piece
    cases piece with
    | kept c => rfl
    | hit found => exact Template.expand_map_char new found
  rw [substitute, Template.read_of_not_mem hplain, ← htext]
  rfl

theorem length_findAll (p : Pattern) (text : List Char) :
    (p.findAll text).length = (p.pieces text).countP Piece.isHit := by
  unfold findAll
  induction p.pieces text with
  | nil => rfl
  | cons piece pieces ih =>
    cases piece with
    | kept c => simpa [Piece.isHit] using ih
    | hit found => simp [countP_cons, Piece.isHit, ih]

/-- A substitution with a template without escapes is a single pass. -/
theorem Finds.substitute_eq {p : Pattern} {functions constants : NewNames}
    (hp : p.Finds functions constants) {new : List Char} (hplain : '\\' ∉ new)
    (hcalls : ∀ word name, functions word = some name → name ++ ['('] = new)
    (hwords : ∀ word name, constants word = some name → name = new) (text : List Char) :
    p.substitute new text =
      .ok (piecesText (codePieces functions constants text),
        (codePieces functions constants text).countP isCall +
          (codePieces functions constants text).countP isConstant) := by
  have hpieces : Replaces new (p.pieces text) (codePieces functions constants text) :=
    hp.replaces_piecesFrom hcalls hwords text [] 0 (.inl rfl)
  rw [p.substitute_of_not_mem hplain, ← hpieces.text, ← hpieces.hits, ← length_findAll]

end Pattern

/-! ## One entry -/

def noNames : NewNames := fun _ => none

theorem countP_isConstant_noNames (functions : NewNames) (text : List Char) :
    (codePieces functions noNames text).countP isConstant = 0 := by
  induction text using wordsInduction with
  | nil => simp
  | other c rest hc ih => simpa [codePieces_other _ _ hc, isConstant] using ih
  | name word after hword hafter ih =>
    by_cases hcall : functions word = none ∨ callBody? after = none
    · rw [codePieces_noncall _ _ hword hafter hcall]
      simpa [noNames, isConstant] using ih after le_rfl
    · obtain ⟨new, body, hnew, hbody⟩ := exists_of_isCall hcall
      rw [codePieces_call _ _ hword hnew hbody]
      simpa [isConstant] using ih body (length_callBody?_lt hbody).le

theorem countP_isCall_noNames (constants : NewNames) (text : List Char) :
    (codePieces noNames constants text).countP isCall = 0 := by
  induction text using wordsInduction with
  | nil => simp
  | other c rest hc ih => simpa [codePieces_other _ _ hc, isCall] using ih
  | name word after hword hafter ih =>
    rw [codePieces_noncall _ _ hword hafter (.inl rfl)]
    cases constants word with
    | none => simpa [isCall] using ih after le_rfl
    | some new => simpa [isCall] using ih after le_rfl

theorem piecesText_noNames (text : List Char) : piecesText (codePieces noNames noNames text) = text := by
  induction text using wordsInduction with
  | nil => simp
  | other c rest hc ih => simp [codePieces_other _ _ hc, text, ih]
  | name word after hword hafter ih =>
    rw [codePieces_noncall _ _ hword hafter (.inl rfl)]
    simp [noNames, text, ih after le_rfl]

def NewNames.functionsAs (role : NameRole) (names : NewNames) : NewNames :=
  if role = .call then names else noNames

def NewNames.constantsAs (role : NameRole) (names : NewNames) : NewNames :=
  if role = .call then noNames else names

/-- The single pass for some names in a role. -/
def rolePieces (role : NameRole) (names : NewNames) : List Char → List CodePiece :=
  codePieces (names.functionsAs role) (names.constantsAs role)

theorem rolePieces_call (names : NewNames) : rolePieces .call names = codePieces names noNames := rfl

theorem rolePieces_word (names : NewNames) : rolePieces .word names = codePieces noNames names := rfl

def entryName (entry : String × String) : NewNames :=
  fun word => if word = entry.1.toList then some entry.2.toList else none

theorem eq_of_entryName_eq_some {word name : List Char} (h : entryName entry word = some name) :
    word = entry.1.toList ∧ name = entry.2.toList := by
  unfold entryName at h
  split at h
  · rename_i heq
    exact ⟨heq, (Option.some.inj h).symm⟩
  · cases h

/-- An entry whose old and new names are names. -/
structure IsNameEntry (entry : String × String) : Prop where
  old : IsName entry.1.toList
  new : IsName entry.2.toList

instance (entry : String × String) : Decidable (IsNameEntry entry) :=
  decidable_of_iff (IsName entry.1.toList ∧ IsName entry.2.toList)
    ⟨fun h => ⟨h.1, h.2⟩, fun h => ⟨h.old, h.new⟩⟩

theorem Text.IsName.backslash_not_mem {name : List Char} (h : IsName name) : '\\' ∉ name := by
  intro hmem
  have hword := h.isWord _ hmem
  exact absurd hword (by decide)

theorem rename_eq (hrole : role = .call ∨ role = .word) (hentry : IsNameEntry entry) (text : List Char) :
    rename role entry text =
      .ok (piecesText (rolePieces role (entryName entry) text),
        (rolePieces role (entryName entry) text).countP isCall +
          (rolePieces role (entryName entry) text).countP isConstant) := by
  have hnew := hentry.new.backslash_not_mem
  rcases hrole with rfl | rfl
  · have hfinds : (NameRole.call.pattern entry.1).Finds (entryName entry) noNames :=
      Pattern.finds_call hentry.old entry.2.toList
    have hplain : '\\' ∉ NameRole.call.template entry.2 := by simpa [NameRole.template] using hnew
    rw [rename, hfinds.substitute_eq hplain]
    · rfl
    · intro word name hname
      rw [(eq_of_entryName_eq_some hname).2]
      rfl
    · intro word name hname
      cases hname
  · have hfinds : (NameRole.word.pattern entry.1).Finds noNames (entryName entry) :=
      Pattern.finds_word hentry.old entry.2.toList
    have hplain : '\\' ∉ NameRole.word.template entry.2 := hnew
    rw [rename, hfinds.substitute_eq hplain]
    · rfl
    · intro word name hname
      cases hname
    · intro word name hname
      exact (eq_of_entryName_eq_some hname).2

/-! ## Whole tables -/

/-- A table of names none of which is both an old and a new one. -/
structure Renaming.Clean (table : Renaming) : Prop where
  entries : ∀ entry ∈ table, IsNameEntry entry
  fresh : ∀ entry ∈ table, ∀ other ∈ table, other.1 ≠ entry.2

theorem Renaming.newName?_cons (entry : String × String) (table : Renaming) :
    newName? (entry :: table) = (entryName entry).or table.newName? := by
  funext word
  unfold Renaming.newName? NewNames.or entryName
  by_cases heq : entry.1.toList = word
  · simp [heq]
  · simp [heq, Ne.symm heq]

theorem Renaming.exists_of_newName? {word : List Char} (h : table.newName? word = some new) :
    ∃ entry ∈ table, entry.1.toList = word ∧ entry.2.toList = new := by
  obtain ⟨entry, hfind, hnew⟩ := Option.map_eq_some_iff.1 h
  exact ⟨entry, mem_of_find?_eq_some hfind, by simpa using find?_some hfind, hnew⟩

theorem Renaming.newName?_eq_none {word : List Char} (h : ∀ entry ∈ table, entry.1.toList ≠ word) :
    table.newName? word = none := by
  simpa [newName?] using h

/-- If no name is old twice, every entry gives its word its new name. -/
theorem Renaming.newName?_eq_some_iff (hdistinct : (table.map (·.1)).Nodup) {word : List Char} :
    table.newName? word = some new ↔ ∃ entry ∈ table, entry.1.toList = word ∧ entry.2.toList = new := by
  constructor
  · exact exists_of_newName?
  · rintro ⟨entry, hmem, rfl, rfl⟩
    induction table with
    | nil => cases hmem
    | cons first table ih =>
      rw [map_cons, nodup_cons] at hdistinct
      rw [newName?_cons]
      unfold NewNames.or entryName
      rcases mem_cons.1 hmem with rfl | hmem
      · simp
      · have hne : entry.1.toList ≠ first.1.toList := by
          intro heq
          apply hdistinct.1
          rw [← String.toList_inj.1 heq]
          exact mem_map_of_mem hmem
        simpa [hne] using ih hdistinct.2 hmem

/-- The order of the entries does not matter for the new names. -/
theorem Renaming.newName?_perm {table' : Renaming} (hperm : table'.Perm table) (hdistinct : (table.map (·.1)).Nodup) :
    table'.newName? = table.newName? := by
  have hdistinct' : (table'.map (·.1)).Nodup := (hperm.map _).nodup_iff.2 hdistinct
  funext word
  apply Option.ext
  intro new
  rw [newName?_eq_some_iff hdistinct, newName?_eq_some_iff hdistinct']
  simp [hperm.mem_iff]

theorem Renaming.proper_newName? (h : ∀ entry ∈ table, IsNameEntry entry) : NewNames.Proper table.newName? := by
  intro word new hnew
  obtain ⟨entry, hmem, -, rfl⟩ := exists_of_newName? hnew
  exact (h entry hmem).new

theorem proper_noNames : noNames.Proper := by
  intro word new hnew
  cases hnew

theorem NewNames.Proper.functionsAs (h : names.Proper) (role : NameRole) : (names.functionsAs role).Proper := by
  unfold NewNames.functionsAs
  split
  · exact h
  · exact proper_noNames

theorem NewNames.Proper.constantsAs (h : names.Proper) (role : NameRole) : (names.constantsAs role).Proper := by
  unfold NewNames.constantsAs
  split
  · exact proper_noNames
  · exact h

/-- Two passes in one role are a pass with the names of both. -/
theorem rolePieces_twice (role : NameRole) {first second : NewNames} (hfirst : first.Proper)
    (hold : ∀ word new, first word = some new → second new = none) (text : List Char) :
    PassesAgree (rolePieces role first text)
      (rolePieces role second (piecesText (rolePieces role first text)))
      (rolePieces role (first.or second) text) := by
  have hfunctions : (first.or second).functionsAs role = (first.functionsAs role).or (second.functionsAs role) := by
    unfold NewNames.functionsAs
    split <;> rfl
  have hconstants : (first.or second).constantsAs role = (first.constantsAs role).or (second.constantsAs role) := by
    unfold NewNames.constantsAs
    split <;> rfl
  unfold rolePieces
  rw [hfunctions, hconstants]
  apply codePieces_twice (hfirst.functionsAs role) (hfirst.constantsAs role)
  · intro word new hnew
    by_cases hcall : role = .call
    · simp only [functionsAs, constantsAs, hcall, if_true] at hnew ⊢
      exact ⟨hold word new (hnew.resolve_right (by simp [noNames])), rfl⟩
    · simp only [functionsAs, constantsAs, hcall, if_false] at hnew ⊢
      exact ⟨rfl, hold word new (hnew.resolve_left (by simp [noNames]))⟩
  · by_cases hcall : role = .call
    · simp [constantsAs, hcall, noNames]
    · simp [functionsAs, hcall, noNames]

/-- Renaming entry by entry in one role is a single pass with the whole table. -/
theorem renameAll_eq (hrole : role = .call ∨ role = .word) (htable : table.Clean) (text : List Char) :
    renameAll role table text =
      .ok (piecesText (rolePieces role table.newName? text),
        (rolePieces role table.newName? text).countP isCall +
          (rolePieces role table.newName? text).countP isConstant) := by
  induction table generalizing text with
  | nil =>
    have hnone : rolePieces role (newName? []) = codePieces noNames noNames := by
      have hempty : newName? [] = noNames := rfl
      simp [rolePieces, functionsAs, constantsAs, hempty]
    rw [hnone, piecesText_noNames, countP_isCall_noNames, countP_isConstant_noNames]
    rfl
  | cons entry table ih =>
    have htail : Renaming.Clean table :=
      ⟨fun other hother => htable.entries other (mem_cons_of_mem _ hother),
        fun first hfirst second hsecond => htable.fresh first (mem_cons_of_mem _ hfirst) second
          (mem_cons_of_mem _ hsecond)⟩
    have hentry : IsNameEntry entry := htable.entries entry mem_cons_self
    have hproper : (entryName entry).Proper := by
      intro word new hnew
      rw [(eq_of_entryName_eq_some hnew).2]
      exact hentry.new
    have hold : ∀ word new, entryName entry word = some new → newName? table new = none := by
      intro word new hnew
      rw [(eq_of_entryName_eq_some hnew).2]
      apply newName?_eq_none
      intro other hother heq
      exact htable.fresh entry mem_cons_self other (mem_cons_of_mem _ hother)
        (String.toList_inj.1 heq)
    have hagree := rolePieces_twice role hproper hold text
    rw [← newName?_cons] at hagree
    have hcalls := hagree.calls
    have hconstants := hagree.constants
    rw [renameAll, rename_eq hrole hentry]
    simp only [bind, Except.bind, ih htail, pure, Except.pure, hagree.text, Except.ok.injEq, Prod.mk.injEq, true_and]
    omega

/-! ## Both tables -/

/-- Tables of functions and constants in which no name is old and new, and none is old twice. -/
structure CleanTables (functions constants : Renaming) : Prop where
  entries : ∀ entry ∈ functions ++ constants, IsNameEntry entry
  fresh : ∀ entry ∈ functions ++ constants, ∀ other ∈ functions ++ constants, other.1 ≠ entry.2
  distinct : ((functions ++ constants).map (·.1)).Nodup

instance (functions constants : Renaming) : Decidable (CleanTables functions constants) :=
  decidable_of_iff
    ((∀ entry ∈ functions ++ constants, IsNameEntry entry) ∧
      (∀ entry ∈ functions ++ constants, ∀ other ∈ functions ++ constants, other.1 ≠ entry.2) ∧
      ((functions ++ constants).map (·.1)).Nodup)
    ⟨fun h => ⟨h.1, h.2.1, h.2.2⟩, fun h => ⟨h.entries, h.fresh, h.distinct⟩⟩

namespace CleanTables

variable (h : CleanTables functions constants)

include h

theorem functions_clean : functions.Clean :=
  ⟨fun entry hentry => h.entries entry (mem_append_left _ hentry),
    fun entry hentry other hother =>
      h.fresh entry (mem_append_left _ hentry) other (mem_append_left _ hother)⟩

theorem constants_clean : constants.Clean :=
  ⟨fun entry hentry => h.entries entry (mem_append_right _ hentry),
    fun entry hentry other hother =>
      h.fresh entry (mem_append_right _ hentry) other (mem_append_right _ hother)⟩

theorem newName?_of_mem (hentry : entry ∈ functions ++ constants) :
    functions.newName? entry.2.toList = none ∧ constants.newName? entry.2.toList = none := by
  constructor
  · apply newName?_eq_none
    intro other hother heq
    exact h.fresh entry hentry other (mem_append_left _ hother) (String.toList_inj.1 heq)
  · apply newName?_eq_none
    intro other hother heq
    exact h.fresh entry hentry other (mem_append_right _ hother) (String.toList_inj.1 heq)

theorem newName?_new {word : List Char}
    (hnew : functions.newName? word = some new ∨ constants.newName? word = some new) :
    functions.newName? new = none ∧ constants.newName? new = none := by
  rcases hnew with hnew | hnew
  · obtain ⟨entry, hmem, -, rfl⟩ := exists_of_newName? hnew
    exact h.newName?_of_mem (mem_append_left _ hmem)
  · obtain ⟨entry, hmem, -, rfl⟩ := exists_of_newName? hnew
    exact h.newName?_of_mem (mem_append_right _ hmem)

theorem newName?_constant {word : List Char} (hword : constants.newName? word ≠ none) :
    functions.newName? word = none := by
  obtain ⟨new, hnew⟩ := Option.ne_none_iff_exists'.1 hword
  obtain ⟨entry, hmem, rfl, -⟩ := exists_of_newName? hnew
  apply newName?_eq_none
  intro other hother heq
  have hdistinct := h.distinct
  rw [map_append, nodup_append] at hdistinct
  exact hdistinct.2.2 other.1 (mem_map_of_mem hother) entry.1 (mem_map_of_mem hmem)
    (String.toList_inj.1 heq)

end CleanTables

/-- Renaming calls and constants entry by entry is the single pass. -/
theorem renameCode_eq_convertedCode (h : CleanTables functions constants) (text : List Char) :
    renameCode functions constants text = .ok (convertedCode functions constants text) := by
  have hagree : PassesAgree (codePieces functions.newName? noNames text)
      (codePieces noNames constants.newName? (piecesText (codePieces functions.newName? noNames text)))
      (codePieces (NewNames.or functions.newName? noNames) (noNames.or constants.newName?) text) := by
    apply codePieces_twice (proper_newName? h.functions_clean.entries) proper_noNames
    · intro word new hnew
      exact ⟨rfl, (h.newName?_new (.inl (hnew.resolve_right (by simp [noNames])))).2⟩
    · intro word hword
      rfl
  have hfunctions : NewNames.or functions.newName? noNames = functions.newName? := by
    funext word
    simp [NewNames.or, noNames]
  rw [hfunctions] at hagree
  have hcalls := hagree.calls
  have hwords := hagree.constants
  rw [countP_isCall_noNames] at hcalls
  rw [countP_isConstant_noNames] at hwords
  rw [renameCode, renameAll_eq (.inl rfl) h.functions_clean, rolePieces_call]
  simp only [bind, Except.bind, renameAll_eq (.inr rfl) h.constants_clean, rolePieces_word, pure,
    Except.pure, countP_isConstant_noNames, countP_isCall_noNames, Nat.add_zero, Nat.zero_add,
    hagree.text, hcalls, hwords]
  rfl

/-- A conversion of its own result finds nothing to rename. -/
theorem convertedCode_convertedCode (h : CleanTables functions constants) (text : List Char) :
    convertedCode functions constants (convertedCode functions constants text).1 =
      ((convertedCode functions constants text).1, 0, 0) := by
  have hself : ∀ names : NewNames, names.or names = names := by
    intro names
    funext word
    simp [NewNames.or]
  have hagree := codePieces_twice (proper_newName? h.functions_clean.entries)
    (proper_newName? h.constants_clean.entries)
    (fun word new hnew => h.newName?_new hnew) (fun word hword => h.newName?_constant hword) text
  rw [hself, hself] at hagree
  simp only [convertedCode, summary, Prod.mk.injEq]
  exact ⟨hagree.text, Nat.add_eq_left.1 hagree.calls, Nat.add_eq_left.1 hagree.constants⟩

/-! ## The tables of the library -/

/-- The tables of the two conversions of calls and constants. -/
def codeTables : List (Renaming × Renaming) :=
  [(mathFunctions, mathConstants), (stringFunctions, stringConstants)]

theorem cleanTables_of_mem (h : (functions, constants) ∈ codeTables) : CleanTables functions constants := by
  have hall : ∀ tables ∈ codeTables, CleanTables tables.1 tables.2 := by decide +kernel
  exact hall (functions, constants) h

/-- The order of the entries of clean tables does not matter. -/
theorem CleanTables.perm {functions' constants' : Renaming} (h : CleanTables functions constants)
    (hfunctions : functions'.Perm functions) (hconstants : constants'.Perm constants) :
    CleanTables functions' constants' := by
  have hmem : ∀ entry, entry ∈ functions' ++ constants' ↔ entry ∈ functions ++ constants :=
    fun entry => (hfunctions.append hconstants).mem_iff
  constructor
  · intro entry hentry
    exact h.entries entry ((hmem entry).1 hentry)
  · intro entry hentry other hother
    exact h.fresh entry ((hmem entry).1 hentry) other ((hmem other).1 hother)
  · exact ((hfunctions.append hconstants).map _).nodup_iff.2 h.distinct

theorem CleanTables.convertedCode_perm {functions' constants' : Renaming} (h : CleanTables functions constants)
    (hfunctions : functions'.Perm functions) (hconstants : constants'.Perm constants) :
    convertedCode functions' constants' = convertedCode functions constants := by
  have hdistinct := h.distinct
  rw [map_append, nodup_append] at hdistinct
  unfold convertedCode
  rw [newName?_perm hfunctions hdistinct.1, newName?_perm hconstants hdistinct.2.1]

/-- With the tables of either conversion in any order, renaming entry by entry gives the text of the
single pass and the numbers of calls and constants renamed in it; and doing so again, in any order, finds
nothing more to rename. -/
theorem renameCode_single_pass {functions constants : Renaming}
    (htables : (functions, constants) ∈ codeTables) {functions₁ constants₁ functions₂ constants₂ : Renaming}
    (hfunctions₁ : functions₁.Perm functions) (hconstants₁ : constants₁.Perm constants)
    (hfunctions₂ : functions₂.Perm functions) (hconstants₂ : constants₂.Perm constants)
    (text : List Char) :
    renameCode functions₁ constants₁ text = .ok (convertedCode functions constants text) ∧
      renameCode functions₂ constants₂ (convertedCode functions constants text).1 =
        .ok ((convertedCode functions constants text).1, 0, 0) := by
  have hclean := cleanTables_of_mem htables
  constructor
  · rw [renameCode_eq_convertedCode (hclean.perm hfunctions₁ hconstants₁),
      hclean.convertedCode_perm hfunctions₁ hconstants₁]
  · rw [renameCode_eq_convertedCode (hclean.perm hfunctions₂ hconstants₂),
      hclean.convertedCode_perm hfunctions₂ hconstants₂, convertedCode_convertedCode hclean]

/-- A name that is part of a longer word stays, and the white space of a call goes. -/
theorem renameCode_single_pass_math :
    renameCode mathFunctions.reverse mathConstants "épow(1) pow \t(amPI)amE".toList =
        .ok ("épow(1) brmpow(brmPI)brmE".toList, 1, 2) ∧
      renameCode mathFunctions mathConstants.reverse "épow(1) brmpow(brmPI)brmE".toList =
        .ok ("épow(1) brmpow(brmPI)brmE".toList, 0, 0) := by
  have hresult : convertedCode mathFunctions mathConstants "épow(1) pow \t(amPI)amE".toList =
      ("épow(1) brmpow(brmPI)brmE".toList, 1, 2) := by decide +kernel
  have hpass := renameCode_single_pass (List.mem_cons_self : (mathFunctions, mathConstants) ∈ codeTables)
    mathFunctions.reverse_perm (.refl mathConstants) (.refl mathFunctions) mathConstants.reverse_perm
    "épow(1) pow \t(amPI)amE".toList
  rw [hresult] at hpass
  exact hpass

end StudioMigration
