import StudioMigration.Conversion.Code
import StudioMigration.Proofs.Pattern.WordMatch

/-!
# Renaming in a single pass

Calls and constants are renamed entry by entry, each entry in the text that the one before has left. This
module describes the whole by a single pass over the words of the original text: every word is looked at
once, and either it stays or it gets its new name.

* `codePieces` is the single pass, and `convertedCode` its result: the new text and how many calls and
  constants were renamed.
* `codePieces_twice` says that two passes in a row make up one, as long as the first one leaves no names
  for the second.

That renaming entry by entry is this pass is shown in `StudioMigration.Proofs.Conversion.Renaming`.
-/

namespace StudioMigration

open List Text

variable {word after : List Char}

/-! ## The single pass -/

/-- A part of a converted text. -/
inductive CodePiece where
  /-- A word or another character that stays. -/
  | kept (text : List Char)
  /-- A call under its new name, up to the opening parenthesis. -/
  | call (new : List Char)
  /-- A constant under its new name. -/
  | constant (new : List Char)
  deriving DecidableEq, Repr

namespace CodePiece

def text : CodePiece → List Char
  | .kept text => text
  | .call new => new ++ ['(']
  | .constant new => new

def isCall : CodePiece → Bool
  | .call _ => true
  | _ => false

def isConstant : CodePiece → Bool
  | .constant _ => true
  | _ => false

end CodePiece

abbrev NewNames := List Char → Option (List Char)

/-- Converts a text word by word. A word with a new name among the functions is a call if white space and
an opening parenthesis follow, which belong to the call. -/
def codePieces (functions constants : NewNames) : List Char → List CodePiece
  | [] => []
  | c :: rest =>
    if isWord c then
      match functions (c :: rest.takeWhile isWord), _hbody : callBody? (rest.dropWhile isWord) with
      | some new, some body => .call new :: codePieces functions constants body
      | _, _ =>
        match constants (c :: rest.takeWhile isWord) with
        | some new => .constant new :: codePieces functions constants (rest.dropWhile isWord)
        | none =>
          .kept (c :: rest.takeWhile isWord) ::
            codePieces functions constants (rest.dropWhile isWord)
    else .kept [c] :: codePieces functions constants rest
termination_by text => text.length
decreasing_by
  · have hlt := length_callBody?_lt _hbody
    have hle := length_dropWhile_le isWord rest
    simp only [length_cons]
    omega
  all_goals
    have hle := length_dropWhile_le isWord rest
    simp only [length_cons]
    omega

def piecesText (pieces : List CodePiece) : List Char := pieces.flatMap CodePiece.text

@[simp] theorem piecesText_nil : piecesText [] = [] := rfl

@[simp] theorem piecesText_cons (piece : CodePiece) (pieces : List CodePiece) :
    piecesText (piece :: pieces) = piece.text ++ piecesText pieces := rfl

@[simp] theorem piecesText_append (pieces pieces' : List CodePiece) :
    piecesText (pieces ++ pieces') = piecesText pieces ++ piecesText pieces' :=
  flatMap_append

/-- The text of some pieces, and how many calls and constants among them were renamed. -/
def CodePiece.summary (pieces : List CodePiece) : List Char × Nat × Nat :=
  (piecesText pieces, pieces.countP CodePiece.isCall, pieces.countP CodePiece.isConstant)

def Renaming.newName? (table : Renaming) : NewNames :=
  fun word => (table.find? fun entry => entry.1.toList = word).map (·.2.toList)

/-- A text converted in a single pass, with the numbers of renamed calls and constants. -/
def convertedCode (functions constants : Renaming) (text : List Char) : List Char × Nat × Nat :=
  CodePiece.summary (codePieces functions.newName? constants.newName? text)

/-! ## Going through a text word by word -/

/-- Every text is empty, starts with a character of no word, or starts with a word. What is to be shown
for a text that starts with a word may be taken for granted for all texts up to the length of what
follows the word. -/
@[elab_as_elim]
theorem wordsInduction {motive : List Char → Prop} (nil : motive [])
    (other : ∀ c rest, isWord c = false → motive rest → motive (c :: rest))
    (name : ∀ word after, IsName word → startsWord after = false →
      (∀ text : List Char, text.length ≤ after.length → motive text) → motive (word ++ after))
    (text : List Char) : motive text := by
  induction hlength : text.length using Nat.strongRecOn generalizing text with
  | ind n ih =>
    subst hlength
    cases text with
    | nil => exact nil
    | cons c rest =>
      by_cases hc : isWord c
      · have hsplit : c :: rest = (c :: rest.takeWhile isWord) ++ rest.dropWhile isWord := by simp
        rw [hsplit]
        apply name _ _ (isName_takeWhile hc rest) (startsWord_dropWhile rest)
        intro text hle
        have hdrop := length_dropWhile_le isWord rest
        exact ih text.length (by simp only [length_cons]; omega) text rfl
      · exact other c rest (by simpa using hc) (ih rest.length (by simp) rest rfl)

/-- A word that is renamed as a call has a new name, and a call opens behind it. -/
theorem exists_of_isCall {functions : NewNames} (h : ¬(functions word = none ∨ callBody? after = none)) :
    ∃ new body, functions word = some new ∧ callBody? after = some body := by
  rw [not_or] at h
  obtain ⟨new, hnew⟩ := Option.ne_none_iff_exists'.1 h.1
  obtain ⟨body, hbody⟩ := Option.ne_none_iff_exists'.1 h.2
  exact ⟨new, body, hnew, hbody⟩

section Equations

variable (functions constants : NewNames)

@[simp] theorem codePieces_nil : codePieces functions constants [] = [] := by
  rw [codePieces]

theorem codePieces_other {c : Char} (hc : isWord c = false) (rest : List Char) :
    codePieces functions constants (c :: rest) = .kept [c] :: codePieces functions constants rest := by
  rw [codePieces]
  simp [hc]

theorem codePieces_call {new body : List Char} (hword : IsName word) (hnew : functions word = some new)
    (hbody : callBody? after = some body) :
    codePieces functions constants (word ++ after) = .call new :: codePieces functions constants body := by
  have hafter := startsWord_of_callBody? hbody
  have htake := takeWhile_append_of_isName hword hafter
  have hdrop := dropWhile_append_of_isName hword hafter
  cases word with
  | nil => exact absurd rfl hword.ne_nil
  | cons c word =>
    have hc : isWord c := hword.isWord c mem_cons_self
    simp only [cons_append, takeWhile_cons_of_pos hc, dropWhile_cons_of_pos hc,
      List.cons.injEq, true_and] at htake hdrop
    rw [cons_append, codePieces, if_pos hc, htake]
    split
    · rename_i found inner hfound hinner
      rw [hdrop, hbody] at hinner
      rw [hnew] at hfound
      cases hfound
      cases hinner
      rfl
    · rename_i hno
      rw [hdrop] at hno
      exact absurd hbody (hno new body hnew)

theorem codePieces_noncall (hword : IsName word) (hafter : startsWord after = false)
    (hno : functions word = none ∨ callBody? after = none) :
    codePieces functions constants (word ++ after) =
      ((constants word).map CodePiece.constant).getD (.kept word) ::
        codePieces functions constants after := by
  have htake := takeWhile_append_of_isName hword hafter
  have hdrop := dropWhile_append_of_isName hword hafter
  cases word with
  | nil => exact absurd rfl hword.ne_nil
  | cons c word =>
    have hc : isWord c := hword.isWord c mem_cons_self
    simp only [cons_append, takeWhile_cons_of_pos hc, dropWhile_cons_of_pos hc,
      List.cons.injEq, true_and] at htake hdrop
    rw [cons_append, codePieces, if_pos hc, htake]
    split
    · rename_i new body hnew hbody
      rw [hdrop] at hbody
      rcases hno with hno | hno
      · simp [hno] at hnew
      · simp [hno] at hbody
    · rw [hdrop]
      cases constants (c :: word) with
      | none => rfl
      | some new => rfl

theorem codePieces_opening {text body : List Char} (h : callBody? text = some body) :
    codePieces functions constants text =
      ((text.takeWhile isSpace).map (fun c => .kept [c]) ++ [.kept ['(']]) ++
        codePieces functions constants body := by
  rw [callBody?_eq_some_iff] at h
  have hspaces : ∀ (spaces rest : List Char), (∀ c ∈ spaces, isSpace c) →
      codePieces functions constants (spaces ++ rest) =
        spaces.map (fun c => .kept [c]) ++ codePieces functions constants rest := by
    intro spaces rest hall
    induction spaces with
    | nil => rfl
    | cons c spaces ih =>
      have hc := isWord_eq_false_of_isSpace (hall c mem_cons_self)
      rw [cons_append, codePieces_other _ _ hc, map_cons, cons_append, ih fun d hd => hall d (mem_cons_of_mem c hd)]
  have hparen : isWord '(' = false := by decide
  calc codePieces functions constants text
      = codePieces functions constants (text.takeWhile isSpace ++ '(' :: body) := congrArg _ h
    _ = ((text.takeWhile isSpace).map (fun c => .kept [c]) ++ [.kept ['(']]) ++
          codePieces functions constants body := by
        rw [hspaces _ _ fun c hc => mem_takeWhile_imp hc, codePieces_other _ _ hparen, append_assoc]
        rfl

end Equations

/-! ## Two passes in a row -/

def NewNames.Proper (names : NewNames) : Prop := ∀ word new, names word = some new → IsName new

section Texts

variable {functions constants : NewNames} (hconstants : constants.Proper)

include hconstants

/-- A word that is not renamed as a call leaves a word behind. -/
theorem codePieces_noncall_text (hword : IsName word) (hafter : startsWord after = false)
    (hno : functions word = none ∨ callBody? after = none) :
    ∃ found, IsName found ∧ (constants word).getD word = found ∧
      piecesText (codePieces functions constants (word ++ after)) =
        found ++ piecesText (codePieces functions constants after) := by
  rw [codePieces_noncall functions constants hword hafter hno]
  cases hnew : constants word with
  | none => exact ⟨word, hword, rfl, by simp [CodePiece.text]⟩
  | some new => exact ⟨new, hconstants word new hnew, rfl, by simp [CodePiece.text]⟩

variable (hfunctions : functions.Proper)

include hfunctions

/-- A conversion starts words where there were words, and nowhere else. -/
theorem startsWord_codePieces (text : List Char) :
    startsWord (piecesText (codePieces functions constants text)) = startsWord text := by
  cases text using wordsInduction with
  | nil => simp
  | other c rest hc _ => simp [codePieces_other _ _ hc, CodePiece.text]
  | name word after hword hafter _ =>
    rw [hword.startsWord_append]
    by_cases hcall : functions word = none ∨ callBody? after = none
    · obtain ⟨found, hfound, -, htext⟩ := codePieces_noncall_text hconstants hword hafter hcall
      rw [htext, hfound.startsWord_append]
    · obtain ⟨new, body, hnew, hbody⟩ := exists_of_isCall hcall
      rw [codePieces_call _ _ hword hnew hbody]
      simp only [piecesText_cons, CodePiece.text, append_assoc]
      rw [(hfunctions word new hnew).startsWord_append]

/-- A conversion opens calls where calls were opened, and nowhere else. -/
theorem callBody?_codePieces (text : List Char) :
    callBody? (piecesText (codePieces functions constants text)) =
      (callBody? text).map fun body => piecesText (codePieces functions constants body) := by
  have hword : ∀ {text : List Char}, startsWord text → callBody? text = none := by
    intro text htext
    cases hbody : callBody? text with
    | none => rfl
    | some body => simp [startsWord_of_callBody? hbody] at htext
  induction text using wordsInduction with
  | nil => simp [callBody?]
  | other c rest hc ih =>
    rw [codePieces_other _ _ hc]
    simp only [piecesText_cons, CodePiece.text, singleton_append, callBody?_cons, ih]
    split
    · rfl
    · split
      · rfl
      · rfl
  | name word after hname _ _ =>
    have hstarts : startsWord (word ++ after) := hname.startsWord_append after
    rw [hword hstarts, hword (by rw [startsWord_codePieces hconstants hfunctions, hstarts])]
    rfl

end Texts

/-- The new names of either of two lists, the first one going before. -/
def NewNames.or (first second : NewNames) : NewNames := fun word => (first word).or (second word)

/-- Two passes agree with a third one that does the work of both: `twice` has the text of `both`, and the
renamings of `once` and `twice` are those of `both`. -/
structure PassesAgree (once twice both : List CodePiece) : Prop where
  text : piecesText twice = piecesText both
  calls : once.countP CodePiece.isCall + twice.countP CodePiece.isCall = both.countP CodePiece.isCall
  constants : once.countP CodePiece.isConstant + twice.countP CodePiece.isConstant = both.countP CodePiece.isConstant

theorem PassesAgree.append {once once' twice twice' both both' : List CodePiece}
    (h : PassesAgree once twice both) (h' : PassesAgree once' twice' both') :
    PassesAgree (once ++ once') (twice ++ twice') (both ++ both') := by
  constructor
  · rw [piecesText_append, piecesText_append, h.text, h'.text]
  · have hsum := h.calls
    have hsum' := h'.calls
    simp only [countP_append]
    omega
  · have hsum := h.constants
    have hsum' := h'.constants
    simp only [countP_append]
    omega

/-- Two passes in a row are one pass with the names of both, if what the first pass writes has no new name
in the second, and if no word is a constant of the first pass and a function of the second. -/
theorem codePieces_twice {f₁ g₁ f₂ g₂ : NewNames} (hf : f₁.Proper) (hg : g₁.Proper)
    (hold : ∀ word new, f₁ word = some new ∨ g₁ word = some new → f₂ new = none ∧ g₂ new = none)
    (hrole : ∀ word, g₁ word ≠ none → f₂ word = none) (text : List Char) :
    PassesAgree (codePieces f₁ g₁ text) (codePieces f₂ g₂ (piecesText (codePieces f₁ g₁ text)))
      (codePieces (f₁.or f₂) (g₁.or g₂) text) := by
  induction text using wordsInduction with
  | nil => exact ⟨by simp, by simp, by simp⟩
  | other c rest hc ih =>
    have hstep : PassesAgree [.kept [c]] [.kept [c]] [.kept [c]] := ⟨rfl, rfl, rfl⟩
    simp only [codePieces_other _ _ hc, piecesText_cons, CodePiece.text, cons_append, nil_append]
    exact hstep.append ih
  | name word after hword hafter ih =>
    have hafter' : startsWord (piecesText (codePieces f₁ g₁ after)) = false := by
      rw [startsWord_codePieces hg hf, hafter]
    have hbody' := callBody?_codePieces hg hf after
    by_cases hcall : f₁ word = none ∨ callBody? after = none
    · cases hconstant : g₁ word with
      | some new =>
        -- a constant of the first pass, whose new name stays
        obtain ⟨hf₂, hg₂⟩ := hold word new (.inr hconstant)
        have hnone : f₂ word = none := hrole word (by simp [hconstant])
        have hno : (f₁.or f₂) word = none ∨ callBody? after = none := by
          simpa [NewNames.or, hnone] using hcall
        have hstep : PassesAgree [.constant new] [.kept new] [.constant new] := ⟨rfl, rfl, rfl⟩
        rw [codePieces_noncall f₁ g₁ hword hafter hcall, codePieces_noncall _ _ hword hafter hno]
        simp only [NewNames.or, hconstant, Option.map_some, Option.getD_some, Option.some_or,
          piecesText_cons, CodePiece.text]
        rw [codePieces_noncall f₂ g₂ (hg word new hconstant) hafter' (.inl hf₂), hg₂]
        exact hstep.append (ih after le_rfl)
      | none =>
        -- the first pass keeps the word, and the second one sees what a single one would see
        rw [codePieces_noncall f₁ g₁ hword hafter hcall, hconstant]
        simp only [Option.map_none, Option.getD_none, piecesText_cons, CodePiece.text]
        by_cases hcall₂ : f₂ word = none ∨ callBody? after = none
        · have hno : (f₁.or f₂) word = none ∨ callBody? after = none := by
            rcases hcall, hcall₂ with ⟨hnone | hbody, hnone₂ | hbody₂⟩
            · exact .inl (by simp [NewNames.or, hnone, hnone₂])
            all_goals exact .inr ‹_›
          have hno' : f₂ word = none ∨ callBody? (piecesText (codePieces f₁ g₁ after)) = none := by
            rw [hbody', Option.map_eq_none_iff]
            exact hcall₂
          rw [codePieces_noncall f₂ g₂ hword hafter' hno', codePieces_noncall _ _ hword hafter hno]
          simp only [NewNames.or, hconstant, Option.none_or]
          have hstep : ∀ piece : Option (List Char),
              PassesAgree [.kept word] [(piece.map CodePiece.constant).getD (.kept word)]
                [(piece.map CodePiece.constant).getD (.kept word)] := by
            intro piece
            cases piece with
            | none => exact ⟨rfl, rfl, rfl⟩
            | some new => exact ⟨rfl, rfl, rfl⟩
          exact (hstep (g₂ word)).append (ih after le_rfl)
        · obtain ⟨new, body, hnew, hbody⟩ := exists_of_isCall hcall₂
          have hnone : f₁ word = none := hcall.resolve_right (by simp [hbody])
          have hor : (f₁.or f₂) word = some new := by simp [NewNames.or, hnone, hnew]
          have hstep : PassesAgree
              (.kept word :: ((after.takeWhile isSpace).map (fun c => .kept [c]) ++ [.kept ['(']]))
              [.call new] [.call new] := by
            refine ⟨rfl, ?_, ?_⟩
            · simp [CodePiece.isCall, Function.comp_def]
            · simp [CodePiece.isConstant, Function.comp_def]
          rw [hbody] at hbody'
          rw [codePieces_call f₂ g₂ hword hnew hbody', codePieces_call _ _ hword hor hbody,
            codePieces_opening f₁ g₁ hbody]
          exact hstep.append (ih body (length_callBody?_lt hbody).le)
    · -- the first pass renames a call, whose new name stays
      obtain ⟨new, body, hnew, hbody⟩ := exists_of_isCall hcall
      obtain ⟨hf₂, hg₂⟩ := hold word new (.inl hnew)
      have hor : (f₁.or f₂) word = some new := by simp [NewNames.or, hnew]
      have hparen : isWord '(' = false := by decide
      have hstep : PassesAgree [.call new] [.kept new, .kept ['(']] [.call new] := ⟨by simp [CodePiece.text], rfl, rfl⟩
      rw [codePieces_call f₁ g₁ hword hnew hbody, codePieces_call _ _ hword hor hbody]
      simp only [piecesText_cons, CodePiece.text, append_assoc, cons_append, nil_append]
      rw [codePieces_noncall f₂ g₂ (hf word new hnew) (by simpa using hparen) (.inl hf₂),
        codePieces_other f₂ g₂ hparen, hg₂]
      exact hstep.append (ih body (length_callBody?_lt hbody).le)

end StudioMigration
