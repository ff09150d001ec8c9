import Mathlib.Logic.Function.Iterate
import StudioMigration.Proofs.Report.Agreement

/-!
# Addresses as runs of link colour

The addresses of a text are marked one after another, each wherever its characters occur. An address that is a part of
another one, or that reaches into another one, is marked there as well, and the other address is shown in pieces.

* `foldl_markPiece_append` says that two texts can be marked one by one if no address stands across their seam.
* `linkChars_self` says that an address which no other one is a part of is shown in link colour throughout.
* `isLinkRun_iff_of_not_bridges` puts both together: what becomes of an address in a text.
* `findAddresses_in_turn` says where the addresses of a text stand.
-/

namespace StudioMigration

open List Text LinkState

variable {marks : List Mark} {piece before rest : List Char} {pieces : List (List Char)} {pos : Nat}

/-! ## Marking two texts -/

/-- Without the escape character there are no styles among marks. -/
theorem marksText_eq_renderMarks (h : escapeChar ∉ renderMarks marks) : marksText marks = renderMarks marks := by
  induction marks with
  | nil => rfl
  | cons mark marks ih =>
    rw [renderMarks_cons, mem_append, not_or] at h
    rw [marksText_cons, ih h.2]
    cases mark with
    | char c => rfl
    | link => exact absurd (by decide) h.1
    | reset => exact absurd (by decide) h.1

/-- A text without the escape character in front of a marked text is in front of what is shown. -/
theorem prefix_marksText {text : List Char} (htext : escapeChar ∉ text) (h : text <+: renderMarks marks) :
    text <+: marksText marks := by
  induction marks generalizing text with
  | nil => exact h
  | cons mark marks ih =>
    cases text with
    | nil => exact nil_prefix
    | cons c text =>
      rw [mem_cons, not_or] at htext
      cases mark with
      | char d =>
        obtain ⟨rfl, hrest⟩ := cons_prefix_cons.1 h
        exact cons_prefix_cons.2 ⟨rfl, ih htext.2 hrest⟩
      -- a style would start with the escape character
      | link => exact absurd (cons_prefix_cons.1 h).1.symm htext.1
      | reset => exact absurd (cons_prefix_cons.1 h).1.symm htext.1

/-- A text of a link without styles starts with a character that can start a link. -/
theorem exists_head_of_isLinkText (h : IsLinkText (plainMarks piece)) : ∃ c tail, piece = c :: tail ∧ StartsLink c := by
  obtain ⟨c, marks, hhead, hstart⟩ := h.head
  cases piece with
  | nil => simp [plainMarks] at hhead
  | cons d tail =>
    obtain ⟨heq, -⟩ := cons.inj hhead
    exact ⟨d, tail, rfl, by rwa [Mark.char.inj heq]⟩

/-- What stands across the seam of two marked texts stands across the seam of what they show. -/
theorem bridges_marksText (hpiece : IsLinkText (plainMarks piece)) {first second : List Mark}
    (h : Bridges piece (renderMarks first) (renderMarks second)) :
    Bridges piece (marksText first) (marksText second) := by
  have hclean := areClean_plainMarks.1 hpiece.clean
  obtain ⟨c, tail, rfl, hstart⟩ := exists_head_of_isLinkText hpiece
  obtain ⟨n, hn, hpos, hfirst, hsecond⟩ := h
  refine ⟨n, hn, hpos, ?_, prefix_marksText (fun hmem => hclean (mem_of_mem_drop hmem)) hsecond⟩
  obtain ⟨m, rfl⟩ := Nat.exists_eq_add_of_lt hpos
  -- the piece starts at a character of the first text, and no style follows in it
  obtain ⟨begun, hbegun⟩ := hfirst
  rw [Nat.zero_add] at hbegun ⊢
  obtain ⟨front, back, rfl, hback⟩ := exists_split_of_renderMarks hstart.2.1 hstart.2.2 hbegun.symm
  have hplain : escapeChar ∉ renderMarks back := by
    rw [hback]
    exact fun hmem => hclean (mem_cons_of_mem _ (mem_of_mem_take hmem))
  refine ⟨marksText front, ?_⟩
  rw [marksText_append, marksText_cons, marksText_eq_renderMarks hplain, hback]
  rfl

section Pieces

variable (hpieces : ∀ piece ∈ pieces, IsLinkText (plainMarks piece))

include hpieces

theorem exists_marks_of_pieces : ∀ piece ∈ pieces, ∃ marks, piece = renderMarks marks ∧ IsLinkText marks :=
  fun piece hpiece => ⟨plainMarks piece, (renderMarks_plainMarks piece).symm, hpieces piece hpiece⟩

/-- Where no piece stands across the seam of what is shown, two marked texts are marked one by one. -/
theorem foldl_markPiece_append {first second : List Mark} (hfirst : AreClean first) (hsecond : AreClean second)
    (hseam : ∀ piece ∈ pieces, ¬Bridges piece (marksText first) (marksText second)) :
    pieces.foldl markPiece (renderMarks first ++ renderMarks second) =
      pieces.foldl markPiece (renderMarks first) ++ pieces.foldl markPiece (renderMarks second) := by
  induction pieces generalizing first second with
  | nil => rfl
  | cons piece pieces ih =>
    rw [forall_mem_cons] at hpieces hseam
    obtain ⟨first', hwritten, hmarked⟩ := exists_marked hpieces.1 hfirst
    obtain ⟨second', hwritten', hmarked'⟩ := exists_marked hpieces.1 hsecond
    rw [renderMarks_plainMarks] at hwritten hwritten'
    have hne : piece ≠ [] := by
      obtain ⟨c, tail, rfl, -⟩ := exists_head_of_isLinkText hpieces.1
      exact cons_ne_nil c tail
    -- marking changes nothing about what is shown, so that the seam stays free
    have hstep : markPiece (renderMarks first ++ renderMarks second) piece =
        renderMarks first' ++ renderMarks second' := by
      rw [← hwritten, ← hwritten']
      exact replaceAll_append_of_not_bridges hne fun hb => hseam.1 (bridges_marksText hpieces.1 hb)
    simp only [foldl_cons, hstep, hwritten, hwritten']
    refine ih hpieces.2 (hmarked.areClean hfirst) (hmarked'.areClean hsecond) ?_
    rw [hmarked.marksText_eq, hmarked'.marksText_eq]
    exact hseam.2

end Pieces

/-! ## What is shown of a marked text -/

/-- The colour of the text behind a mark. -/
def Mark.colour (before : LogColour) : Mark → LogColour
  | .char _ => before
  | .link => .blue
  | .reset => .normal

/-- The automaton for marks knows the colour. -/
theorem LinkState.colour_of_step {state next : LinkState} {mark : Mark} (h : state.step mark = some next) :
    next.colour = mark.colour state.colour := by
  cases state with
  | outside =>
    cases mark with
    | char c => cases h; rfl
    | link => cases h; rfl
    | reset => cases h; rfl
  | inside ending fresh =>
    cases mark with
    | char c =>
      rw [step] at h
      split at h
      · rw [Option.ite_none_left_eq_some] at h
        cases h.2
        rfl
      · cases h
        rfl
    | link => cases h; rfl
    | reset =>
      rw [step, Option.ite_none_left_eq_some] at h
      cases h.2
      rfl

theorem windowChars_render {mark : Mark} (hmark : mark ≠ .char escapeChar) (colour : LogColour) (rest : List Char) :
    windowChars colour (segments (mark.render ++ rest)) =
      mark.shown.map (·, colour) ++ windowChars (mark.colour colour) (segments rest) := by
  cases mark with
  | char c =>
    have hc : c ≠ escapeChar := fun heq => hmark (heq ▸ rfl)
    rw [Mark.render, singleton_append, segments_cons hc, windowChars_consChar]
    rfl
  | link =>
    rw [Mark.render, segments_link]
    rfl
  | reset =>
    rw [Mark.render]
    rfl

/-- A marked text that ends outside of links is shown without regard to what follows it. -/
theorem windowChars_renderMarks_append (hmarks : AreClean marks) (rest : List Char) {state : LinkState}
    (h : state.Accepts marks) :
    windowChars state.colour (segments (renderMarks marks ++ rest)) =
      windowChars state.colour (segments (renderMarks marks)) ++ windowChars .normal (segments rest) := by
  induction marks generalizing state with
  | nil =>
    obtain rfl : state = .outside := by simpa [Accepts, run] using h
    rfl
  | cons mark marks ih =>
    obtain ⟨hmark, hclean⟩ := hmarks.of_cons
    obtain ⟨next, hstep, hnext⟩ := accepts_cons.1 h
    have hrest := ih hclean hnext
    rw [colour_of_step hstep] at hrest
    rw [renderMarks_cons, append_assoc, windowChars_render hmark, windowChars_render hmark, hrest, append_assoc]

theorem map_fst_windowChars (hmarks : AreClean marks) (colour : LogColour) :
    (windowChars colour (segments (renderMarks marks))).map Prod.fst = marksText marks := by
  induction marks generalizing colour with
  | nil => rfl
  | cons mark marks ih =>
    obtain ⟨hmark, hclean⟩ := hmarks.of_cons
    rw [renderMarks_cons, windowChars_render hmark, map_append, ih hclean, map_map]
    exact congrArg (· ++ marksText marks) (map_id _)

/-- What a window shows of a text in which pieces are marked. -/
def linkChars (pieces : List (List Char)) (text : List Char) : List (Char × LogColour) :=
  windowChars .normal (segments (pieces.foldl markPiece text))

section Pieces

variable (hpieces : ∀ piece ∈ pieces, IsLinkText (plainMarks piece))

include hpieces

theorem map_fst_linkChars {text : List Char} (htext : escapeChar ∉ text) :
    (linkChars pieces text).map Prod.fst = text := by
  obtain ⟨marks, hwritten, hclean, hshown, -⟩ :=
    exists_marks_foldl_markPiece (exists_marks_of_pieces hpieces) (plainMarks text) (areClean_plainMarks.2 htext)
  rw [renderMarks_plainMarks] at hwritten
  rw [linkChars, hwritten, map_fst_windowChars hclean, hshown, marksText_plainMarks]

/-- Where no piece stands across the seam, two texts are shown one by one. -/
theorem linkChars_append {first second : List Char} (hfirst : escapeChar ∉ first) (hsecond : escapeChar ∉ second)
    (hseam : ∀ piece ∈ pieces, ¬Bridges piece first second) :
    linkChars pieces (first ++ second) = linkChars pieces first ++ linkChars pieces second := by
  obtain ⟨marks, hwritten, hclean, -, haccepts, -⟩ :=
    exists_marks_foldl_markPiece (exists_marks_of_pieces hpieces) (plainMarks first) (areClean_plainMarks.2 hfirst)
  have hsplit := foldl_markPiece_append hpieces (areClean_plainMarks.2 hfirst) (areClean_plainMarks.2 hsecond)
    (by simpa using hseam)
  rw [renderMarks_plainMarks] at hwritten
  rw [renderMarks_plainMarks, renderMarks_plainMarks] at hsplit
  rw [linkChars, hsplit, linkChars, hwritten]
  exact windowChars_renderMarks_append hclean _ (haccepts _ (accepts_plainMarks first))

end Pieces

/-! ## An address by itself -/

theorem linkMark_eq (text : List Char) : linkMark text = Mark.link.render ++ (text ++ Mark.reset.render) := by
  simp only [linkMark, Mark.render, append_assoc]

theorem markPiece_linkMark (hpiece : IsLinkText (plainMarks piece)) (text : List Char) :
    markPiece (linkMark text) piece = linkMark (markPiece text piece) := by
  have hclean := areClean_plainMarks.1 hpiece.clean
  obtain ⟨c, tail, hhead, hstart⟩ := exists_head_of_isLinkText hpiece
  have hne : piece ≠ [] := hhead ▸ cons_ne_nil c tail
  -- a piece across the seam would go on with the escape character of the reset
  have hseam : ¬Bridges piece text Mark.reset.render := by
    exact not_bridges_cons hclean _ _
  have hreset : replaceAll piece (linkMark piece) Mark.reset.render = Mark.reset.render := by
    simpa [hne] using replaceAll_append_of_head hhead hstart.2.2 []
  unfold markPiece
  rw [linkMark_eq text, replaceAll_append_of_head hhead hstart.2.1, replaceAll_append_of_not_bridges hne hseam, hreset,
    linkMark_eq (replaceAll _ _ text)]

/-- A text that none of the pieces is a part of, except for itself, is marked as often as it is among them. -/
theorem foldl_markPiece_iterate (hpieces : ∀ piece ∈ pieces, IsLinkText (plainMarks piece)) {text : List Char}
    (hself : ∀ piece ∈ pieces, piece <:+: text → piece = text) (n : Nat) :
    pieces.foldl markPiece (linkMark^[n] text) = linkMark^[n + pieces.count text] text := by
  -- what is marked already stays on the outside, so that the induction is over the number of marks as well
  induction pieces generalizing n with
  | nil => rfl
  | cons piece pieces ih =>
    rw [forall_mem_cons] at hpieces hself
    obtain ⟨c, tail, hhead, -⟩ := exists_head_of_isLinkText hpieces.1
    have hne : piece ≠ [] := hhead ▸ cons_ne_nil c tail
    have hinside : markPiece (linkMark^[n] text) piece = linkMark^[n] (markPiece text piece) := by
      induction n with
      | zero => rfl
      | succ n ihn =>
        rw [Function.iterate_succ_apply', Function.iterate_succ_apply', markPiece_linkMark hpieces.1, ihn]
    rw [foldl_cons, hinside]
    by_cases heq : piece = text
    · subst heq
      have hmarked : markPiece piece piece = linkMark piece := by
        have hfront : replaceAll piece (linkMark piece) (piece ++ []) = linkMark piece ++ replaceAll piece _ [] :=
          replaceAll_append hne []
        simpa [markPiece, hne] using hfront
      rw [hmarked, ← Function.iterate_succ_apply, ih hpieces.2 hself.2, count_cons_self, Nat.succ_add_eq_add_succ]
    · rw [markPiece, replaceAll_eq_self hne fun hpart => heq (hself.1 hpart), ih hpieces.2 hself.2,
        count_cons_of_ne heq]

/-- A link is shown in link colour, however often it is marked. -/
theorem windowChars_iterate_linkMark {text : List Char} (htext : escapeChar ∉ text) (n : Nat) (colour : LogColour)
    (rest : List Char) :
    windowChars colour (segments (linkMark^[n + 1] text ++ rest)) =
      text.map (·, .blue) ++ windowChars .normal (segments rest) := by
  have hlink : ∀ colour inner rest, windowChars colour (segments (linkMark inner ++ rest)) =
      windowChars .blue (segments (inner ++ (Mark.reset.render ++ rest))) := by
    intro colour inner rest
    rw [linkMark_eq, append_assoc, append_assoc]
    rfl
  have hreset : ∀ colour rest, windowChars colour (segments (Mark.reset.render ++ rest)) =
      windowChars .normal (segments rest) := fun colour rest => windowChars_render (by simp) colour rest
  -- behind the innermost reset only resets follow, and each of them is a change to the normal colour
  induction n generalizing colour rest with
  | zero =>
    rw [Function.iterate_one, hlink, ShownAlike.windowChars_append htext, hreset]
  | succ n ih => rw [Function.iterate_succ_apply', hlink, ih, hreset]

/-- An address that no other one is a part of is shown in link colour. -/
theorem linkChars_self (hpieces : ∀ piece ∈ pieces, IsLinkText (plainMarks piece)) {text : List Char}
    (hmem : text ∈ pieces) (hself : ∀ piece ∈ pieces, piece <:+: text → piece = text) :
    linkChars pieces text = text.map (·, .blue) := by
  have hclean := areClean_plainMarks.1 (hpieces text hmem).clean
  obtain ⟨n, hn⟩ := Nat.exists_eq_add_of_lt (count_pos_iff.2 hmem)
  have hmarked := foldl_markPiece_iterate hpieces hself 0
  rw [Function.iterate_zero, id_eq, hn] at hmarked
  have hshown := windowChars_iterate_linkMark hclean n .normal []
  have hnil : windowChars .normal (segments []) = [] := rfl
  rw [hnil, append_nil, append_nil] at hshown
  rw [linkChars, hmarked, Nat.zero_add, Nat.zero_add, hshown]

/-! ## Where an address stands -/

namespace Pattern

def Piece.text : Piece → List Char
  | .kept c => [c]
  | .hit found => found.text

def uncut (pieces : List Piece) : List Char := pieces.flatMap Piece.text

@[simp] theorem uncut_nil : uncut [] = [] := rfl

theorem uncut_cons (piece : Piece) (pieces : List Piece) : uncut (piece :: pieces) = piece.text ++ uncut pieces :=
  flatMap_cons

theorem uncut_append (pieces more : List Piece) : uncut (pieces ++ more) = uncut pieces ++ uncut more :=
  flatMap_append

/-- The matches among pieces, with their places in the text. -/
def placesFrom : Nat → List Piece → List (Nat × List Char)
  | _, [] => []
  | start, .kept _ :: pieces => placesFrom (start + 1) pieces
  | start, .hit found :: pieces => (start, found.text) :: placesFrom (start + found.text.length) pieces

theorem map_snd_placesFrom (p : Pattern) (text : List Char) :
    (placesFrom 0 (p.pieces text)).map (·.2) = (p.findAll text).map (·.text) := by
  unfold findAll
  generalize 0 = start
  induction p.pieces text generalizing start with
  | nil => rfl
  | cons piece pieces ih => cases piece <;> simp [placesFrom, ih]

/-- A place is told by the pieces before it. -/
theorem exists_of_mem_placesFrom {start : Nat} {pieces : List Piece} {x : Nat × List Char}
    (h : x ∈ placesFrom start pieces) : ∃ front found back, pieces = front ++ .hit found :: back ∧
      x = (start + (uncut front).length, found.text) := by
  induction pieces generalizing start with
  | nil => exact absurd h not_mem_nil
  | cons piece pieces ih =>
    cases piece with
    | kept c =>
      obtain ⟨front, found, back, rfl, hx⟩ := ih h
      exact ⟨.kept c :: front, found, back, rfl, by simp [hx, uncut_cons, Piece.text, Nat.add_assoc, Nat.add_comm 1]⟩
    | hit hit =>
      rcases mem_cons.1 h with rfl | h
      · exact ⟨[], hit, pieces, rfl, rfl⟩
      · obtain ⟨front, found, back, rfl, hx⟩ := ih h
        exact ⟨.hit hit :: front, found, back, rfl, by simp [hx, uncut_cons, Piece.text, Nat.add_assoc]⟩

theorem pairwise_placesFrom (start : Nat) (pieces : List Piece) :
    (placesFrom start pieces).Pairwise fun x y => x.1 + x.2.length ≤ y.1 := by
  induction pieces generalizing start with
  | nil => exact .nil
  | cons piece pieces ih =>
    cases piece with
    | kept c => exact ih _
    | hit hit =>
      refine pairwise_cons.2 ⟨fun y hy => ?_, ih _⟩
      obtain ⟨front, found, back, -, rfl⟩ := exists_of_mem_placesFrom hy
      exact Nat.le_add_right _ _

section Pieces

variable {p : Pattern}
  (hmatch : ∀ cursor found, p.matchAt cursor = some found → found.text ≠ [] ∧ found.text <+: cursor.rest)

theorem piecesFrom_append (front rest before : List Char) (pos : Nat) :
    p.piecesFrom front.length before pos (front ++ rest) =
      p.piecesFrom 0 (front.reverse ++ before) (pos + front.length) rest := by
  induction front generalizing before pos with
  | nil => rfl
  | cons c front ih =>
    rw [length_cons, cons_append, piecesFrom, ih]
    simp [Nat.add_assoc, Nat.add_comm 1]

include hmatch

/-- How a text is cut if no match is empty: a match is taken as a whole, and a character that starts none is kept. -/
theorem piecesInduction {motive : List Char → Nat → List Char → List Piece → Prop}
    (nil : ∀ before pos, p.matchAt ⟨before, [], pos⟩ = none → motive before pos [] [])
    (hit : ∀ before pos found rest pieces, p.matchAt ⟨before, found.text ++ rest, pos⟩ = some found →
      motive (found.text.reverse ++ before) (pos + found.text.length) rest pieces →
        motive before pos (found.text ++ rest) (.hit found :: pieces))
    (kept : ∀ before pos c rest pieces, p.matchAt ⟨before, c :: rest, pos⟩ = none →
      motive (c :: before) (pos + 1) rest pieces → motive before pos (c :: rest) (.kept c :: pieces))
    (before : List Char) (pos : Nat) (rest : List Char) :
    motive before pos rest (p.piecesFrom 0 before pos rest) := by
  induction hlength : rest.length using Nat.strongRecOn generalizing before pos rest with
  | _ n ih =>
    subst hlength
    cases hfound : p.matchAt ⟨before, rest, pos⟩ with
    | none =>
      cases rest with
      | nil => simpa [piecesFrom, hfound] using nil before pos hfound
      | cons c rest => simpa [piecesFrom, hfound] using kept _ _ c _ _ hfound (ih _ (by simp) _ _ rest rfl)
    | some found =>
      obtain ⟨hne, more, rfl⟩ := hmatch _ _ hfound
      obtain ⟨c, tail, htext⟩ := exists_cons_of_ne_nil hne
      have hcut : p.piecesFrom 0 before pos (found.text ++ more) = .hit found ::
          p.piecesFrom 0 (found.text.reverse ++ before) (pos + found.text.length) more := by
        have hskip := piecesFrom_append (p := p) tail more (c :: before) (pos + 1)
        rw [htext, cons_append] at hfound
        simpa [piecesFrom, htext, hfound, Nat.add_assoc, Nat.add_comm 1] using hskip
      rw [hcut]
      exact hit _ _ _ _ _ hfound (ih _ (by rw [htext]; grind) _ _ more rfl)

/-- Nothing gets lost when a text is cut into pieces. -/
theorem uncut_piecesFrom (before : List Char) (pos : Nat) (rest : List Char) :
    uncut (p.piecesFrom 0 before pos rest) = rest := by
  induction before, pos, rest using piecesInduction hmatch with
  | nil => rfl
  | hit before pos found rest pieces _ ih => rw [uncut_cons, ih, Piece.text]
  | kept before pos c rest pieces _ ih =>
    rw [uncut_cons, ih]
    rfl

/-- Where a match stands: behind the characters of the pieces before it. -/
theorem exists_cursor_of_piecesFrom {front back : List Piece} {found : Match}
    (h : p.piecesFrom 0 before pos rest = front ++ .hit found :: back) :
    ∃ cursor : Cursor, p.matchAt cursor = some found ∧ cursor.before.reverse ++ cursor.rest = before.reverse ++ rest ∧
      cursor.before.reverse = before.reverse ++ uncut front := by
  induction before, pos, rest using piecesInduction hmatch generalizing front with
  | nil => simp at h
  | hit before pos hit rest pieces hhit ih =>
    cases front with
    | nil =>
      obtain rfl := Piece.hit.inj (cons.inj h).1
      exact ⟨_, hhit, rfl, by simp⟩
    | cons piece front =>
      obtain ⟨rfl, hfront⟩ := cons.inj h
      obtain ⟨cursor, hfound, htext, hbefore⟩ := ih hfront
      exact ⟨cursor, hfound, by simpa using htext, by simp [hbefore, uncut_cons, Piece.text]⟩
  | kept before pos c rest pieces hnone ih =>
    cases front with
    | nil => simp at h
    | cons piece front =>
      obtain ⟨rfl, hfront⟩ := cons.inj h
      obtain ⟨cursor, hfound, htext, hbefore⟩ := ih hfront
      exact ⟨cursor, hfound, by simpa using htext, by simp [hbefore, uncut_cons, Piece.text]⟩

/-- Wherever the pattern matches, a match was taken that starts there or reaches beyond. -/
theorem exists_place_of_matchAt {front back : List Char} (hrest : rest = front ++ back)
    (h : (p.matchAt ⟨front.reverse ++ before, back, pos + front.length⟩).isSome) :
    ∃ x ∈ placesFrom pos (p.piecesFrom 0 before pos rest),
      x.1 ≤ pos + front.length ∧ pos + front.length < x.1 + x.2.length := by
  induction before, pos, rest using piecesInduction hmatch generalizing front with
  | nil before pos hnone =>
    obtain ⟨rfl, rfl⟩ := nil_eq_append_iff.1 hrest
    simp [hnone] at h
  | hit before pos hit rest pieces hhit ih =>
    by_cases hinside : front.length < hit.text.length
    · exact ⟨(pos, hit.text), mem_cons_self, Nat.le_add_right _ _, Nat.add_lt_add_left hinside _⟩
    · -- the place is behind the match
      obtain ⟨more, rfl⟩ := prefix_of_prefix_length_le ⟨rest, hrest⟩ (prefix_append front back)
        (Nat.le_of_not_lt hinside)
      obtain rfl : rest = more ++ back := append_cancel_left (by rw [hrest, append_assoc])
      obtain ⟨x, hx, hplace⟩ := ih rfl (by simpa [Nat.add_assoc] using h)
      exact ⟨x, mem_cons_of_mem _ hx, by simpa [Nat.add_assoc] using hplace⟩
  | kept before pos c rest pieces hnone ih =>
    cases front with
    | nil =>
      rw [nil_append] at hrest
      subst hrest
      simp [hnone] at h
    | cons d front =>
      obtain ⟨rfl, rfl⟩ := cons.inj hrest
      obtain ⟨x, hx, hplace⟩ := ih rfl (by simpa [Nat.add_assoc, Nat.add_comm 1] using h)
      exact ⟨x, hx, by simpa only [length_cons, Nat.add_assoc, Nat.add_comm 1] using hplace⟩

end Pieces

end Pattern

open Pattern (uncut)

theorem nonempty_of_matchAt_address (cursor : Cursor) (found : Pattern.Match)
    (h : addressPattern.matchAt cursor = some found) : found.text ≠ [] ∧ found.text <+: cursor.rest := by
  obtain ⟨rest, hrest, ⟨tail, htail⟩, -⟩ := matchAt_address_spec h
  exact ⟨by simp [← htail], rest, hrest.symm⟩

/-- Where an address stands in a text: from the start of a word to the end of one. -/
theorem address_in_pieces {text : List Char} {before after : List Pattern.Piece} {found : Pattern.Match}
    (h : addressPattern.pieces text = before ++ .hit found :: after) :
    text = uncut before ++ (found.text ++ uncut after) ∧ startsWord (uncut before).reverse = false ∧
      startsWord (uncut after) = false := by
  have htext : uncut (before ++ .hit found :: after) = text := by
    rw [← h]
    exact Pattern.uncut_piecesFrom nonempty_of_matchAt_address [] 0 text
  rw [Pattern.uncut_append] at htext
  obtain ⟨cursor, hfound, hcursor, hbefore⟩ := Pattern.exists_cursor_of_piecesFrom nonempty_of_matchAt_address h
  rw [reverse_nil, nil_append] at hbefore
  obtain ⟨rest, hrest, -, -, -, hstart, -, hend, -⟩ := matchAt_address_spec hfound
  -- what follows the match is what the pieces behind it show
  have hafter : rest = uncut after := by
    rw [← htext, hbefore, hrest] at hcursor
    exact append_cancel_left (append_cancel_left hcursor)
  refine ⟨htext.symm, ?_, hafter ▸ hend⟩
  rw [← hbefore, reverse_reverse]
  exact hstart

/-- The addresses in a text are parts of it that follow one another without an overlap. Each starts with a scheme where a
word starts, has no white space in it, and ends where a word ends. No other place of the text starts an address, unless it
is inside of one of these. -/
theorem findAddresses_in_turn (text : List Char) :
    ∃ places : List (Nat × List Char), places.map (·.2) = findAddresses text ∧
      (places.Pairwise fun x y => x.1 + x.2.length ≤ y.1) ∧
      (∀ x ∈ places, ∃ before after, text = before ++ (x.2 ++ after) ∧ before.length = x.1 ∧
        startsWord before.reverse = false ∧ HasScheme x.2 ∧ (∀ c ∈ x.2, isSpace c = false) ∧
        startsWord x.2.reverse ∧ startsWord after = false) ∧
      ∀ before after, text = before ++ after → (addressPattern.matchAt ⟨before.reverse, after, before.length⟩).isSome →
        ∃ x ∈ places, x.1 ≤ before.length ∧ before.length < x.1 + x.2.length := by
  refine ⟨Pattern.placesFrom 0 (addressPattern.pieces text), Pattern.map_snd_placesFrom _ text,
    Pattern.pairwise_placesFrom _ _, fun x hx => ?_, fun before after htext hmatch => ?_⟩
  · obtain ⟨front, found, back, hpieces, rfl⟩ := Pattern.exists_of_mem_placesFrom hx
    obtain ⟨htext, hbefore, hafter⟩ := address_in_pieces hpieces
    obtain ⟨cursor, hfound, -, -⟩ := Pattern.exists_cursor_of_piecesFrom nonempty_of_matchAt_address hpieces
    obtain ⟨-, -, -, hsolid, -, -, hend, -, hscheme⟩ := matchAt_address_spec hfound
    exact ⟨uncut front, uncut back, htext, by simp, hbefore, hscheme, hsolid, hend, hafter⟩
  · have hplace := @Pattern.exists_place_of_matchAt [] text 0 addressPattern nonempty_of_matchAt_address before after htext
      (by simpa using hmatch)
    simpa [Pattern.pieces] using hplace

/-- Addresses can be texts of links, and they end with a word. -/
theorem isLinkText_address {text address : List Char} (htext : escapeChar ∉ text) (h : address ∈ findAddresses text) :
    IsLinkText (plainMarks address) ∧ "http".toList <+: address ∧ startsWord address.reverse := by
  obtain ⟨-, hpart⟩ := infix_of_mem_findAddresses h
  obtain ⟨cursor, found, -, hfound, rfl⟩ := exists_matchAt_of_mem_findAddresses h
  obtain ⟨-, -, hscheme, hsolid, -, -, hend, -⟩ := matchAt_address_spec hfound
  refine ⟨⟨areClean_plainMarks.2 fun hmem => htext (hpart.subset hmem), ?_, ?_⟩, hscheme, hend⟩
  · obtain ⟨tail, htail⟩ := hscheme
    exact ⟨'h', plainMarks ("ttp".toList ++ tail), by rw [← htail]; rfl, by decide⟩
  · refine accepts_reset_of_solid (fun c hc => hsolid c ?_) (by simp)
    obtain ⟨d, hd, heq⟩ := mem_map.1 hc
    rwa [← Mark.char.inj heq]

/-! ## Runs of links -/

/-- Whether a text stands at a place of what is shown as a run of characters in link colour that is as long as can
be. -/
def IsLinkRun (shown : List (Char × LogColour)) (start : Nat) (text : List Char) : Prop :=
  (shown.drop start).take text.length = text.map (·, .blue) ∧ (∀ last ∈ (shown.take start).getLast?, last.2 ≠ .blue) ∧
    ∀ next ∈ (shown.drop (start + text.length)).head?, next.2 ≠ .blue

instance (shown : List (Char × LogColour)) (start : Nat) (text : List Char) : Decidable (IsLinkRun shown start text) :=
  inferInstanceAs (Decidable (_ ∧ _ ∧ _))

/-- A part between parts that do not have link colour next to it is a run if it has link colour throughout. -/
theorem isLinkRun_append_iff {front middle back : List (Char × LogColour)} {text : List Char}
    (htext : middle.map Prod.fst = text) (hfront : ∀ last ∈ front.getLast?, last.2 ≠ .blue)
    (hback : ∀ next ∈ back.head?, next.2 ≠ .blue) :
    IsLinkRun (front ++ (middle ++ back)) front.length text ↔ ∀ shown ∈ middle, shown.2 = .blue := by
  have hlength : text.length = middle.length := by rw [← htext, length_map]
  rw [IsLinkRun, drop_left, take_left' hlength.symm, take_left, ← drop_drop, drop_left,
    drop_left' hlength.symm, ← htext, map_map]
  constructor
  · rintro ⟨hblue, -⟩ shown hshown
    rw [hblue] at hshown
    obtain ⟨other, -, rfl⟩ := mem_map.1 hshown
    rfl
  · intro hblue
    refine ⟨?_, hfront, hback⟩
    refine (map_id middle).symm.trans (map_congr_left fun shown hshown => ?_)
    exact Prod.ext rfl (hblue shown hshown)

theorem shownChars_markLinks {text : List Char} (h : ∀ topic ∈ helpTopics, ¬topic.1.toList <:+: text) :
    Log.shownChars ⟨[String.ofList (markLinks text)]⟩ = linkChars (findAddresses text) text := by
  simp only [Log.shownChars, Log.runs, flatMap_cons, flatMap_nil, append_nil, String.toList_ofList,
    markLinks, foldl_topics_eq_self h]
  rfl

section Address

variable {text : List Char} (htext : escapeChar ∉ text)

include htext

theorem isLinkText_of_mem_findAddresses : ∀ address ∈ findAddresses text, IsLinkText (plainMarks address) :=
  fun _ haddress => (isLinkText_address htext haddress).1

theorem linkChars_singleton {c : Char} (hc : escapeChar ∉ [c]) :
    linkChars (findAddresses text) [c] = [(c, .normal)] := by
  have hkept : (findAddresses text).foldl markPiece [c] = [c] := by
    refine foldl_markPiece_eq_self fun address haddress => ?_
    obtain ⟨-, ⟨tail, rfl⟩, -⟩ := isLinkText_address htext haddress
    refine ⟨by simp, fun hpart => ?_⟩
    have hlength := hpart.length_le
    simp at hlength
  have hshown := ShownAlike.windowChars_append hc .normal []
  rw [linkChars, hkept]
  exact hshown

/-- Text that ends outside of words does not end in link colour. -/
theorem ne_blue_of_getLast?_linkChars {front : List Char} (hfront : escapeChar ∉ front)
    (hword : startsWord front.reverse = false) :
    ∀ last ∈ (linkChars (findAddresses text) front).getLast?, last.2 ≠ .blue := by
  have haddresses := isLinkText_of_mem_findAddresses htext
  intro last hlast
  rcases eq_nil_or_concat front with rfl | ⟨init, c, rfl⟩
  · have hnil := map_eq_nil_iff.1 (map_fst_linkChars haddresses hfront)
    rw [hnil] at hlast
    exact absurd hlast (by simp)
  · rw [concat_eq_append] at *
    rw [mem_append, not_or] at hfront
    -- an address that reaches the last character ends there, outside of words
    have hseam : ∀ address ∈ findAddresses text, ¬Bridges address init [c] := by
      rintro address haddress ⟨n, hn, -, -, hend⟩
      obtain ⟨-, -, hends⟩ := isLinkText_address htext haddress
      have hdrop : address.drop n = [c] := by
        apply hend.eq_of_length_le
        rw [length_singleton, length_drop]
        omega
      rw [← take_append_drop n address, hdrop, reverse_append] at hends
      rw [reverse_append] at hword
      exact Bool.noConfusion (hends.symm.trans hword)
    rw [linkChars_append haddresses hfront.1 hfront.2 hseam, linkChars_singleton htext hfront.2] at hlast
    obtain rfl : (c, LogColour.normal) = last := by simpa using hlast
    simp

/-- Text that starts outside of words does not start in link colour. -/
theorem ne_blue_of_head?_linkChars {back : List Char} (hback : escapeChar ∉ back) (hword : startsWord back = false) :
    ∀ next ∈ (linkChars (findAddresses text) back).head?, next.2 ≠ .blue := by
  have haddresses := isLinkText_of_mem_findAddresses htext
  intro next hnext
  cases back with
  | nil =>
    have hnil := map_eq_nil_iff.1 (map_fst_linkChars haddresses hback)
    rw [hnil] at hnext
    exact absurd hnext (by simp)
  | cons c rest =>
    rw [← singleton_append, mem_append, not_or] at hback
    -- an address that starts at the first character starts a word
    have hseam : ∀ address ∈ findAddresses text, ¬Bridges address [c] rest := by
      rintro address haddress ⟨n, hn, hpos, hstart, -⟩
      obtain ⟨-, ⟨tail, rfl⟩, -⟩ := isLinkText_address htext haddress
      have htake : take n ("http".toList ++ tail) = [c] := by
        apply hstart.eq_of_length_le
        rw [length_singleton, length_take]
        omega
      obtain ⟨m, rfl⟩ := Nat.exists_eq_add_of_lt hpos
      obtain rfl : 'h' = c := (cons.inj htake).1
      have hletter : isWord 'h' := by decide
      exact Bool.noConfusion (hletter.symm.trans hword)
    rw [← singleton_append, linkChars_append haddresses hback.1 hback.2 hseam,
      linkChars_singleton htext hback.1] at hnext
    obtain rfl : (c, LogColour.normal) = next := by simpa using hnext
    simp

/-- An address in a text that mentions no help topic, where no address stands across its start or its end. It is
shown as one run if it has link colour throughout when it is shown by itself; and it has, if no other address is a
part of it. -/
theorem isLinkRun_iff_of_not_bridges (htopics : ∀ topic ∈ helpTopics, ¬topic.1.toList <:+: text)
    {before after : List Pattern.Piece} {found : Pattern.Match}
    (hpieces : addressPattern.pieces text = before ++ .hit found :: after)
    (hstart : ∀ address ∈ findAddresses text, ¬Bridges address (uncut before) (found.text ++ uncut after))
    (hend : ∀ address ∈ findAddresses text, ¬Bridges address (uncut before ++ found.text) (uncut after)) :
    (IsLinkRun (Log.shownChars ⟨[String.ofList (markLinks text)]⟩) (uncut before).length found.text ↔
      ∀ shown ∈ linkChars (findAddresses text) found.text, shown.2 = .blue) ∧
    ((∀ address ∈ findAddresses text, address <:+: found.text → address = found.text) →
      IsLinkRun (Log.shownChars ⟨[String.ofList (markLinks text)]⟩) (uncut before).length found.text) := by
  have haddresses := isLinkText_of_mem_findAddresses htext
  obtain ⟨hsplit, hbefore, hafter⟩ := address_in_pieces hpieces
  have hmem : found.text ∈ findAddresses text := by
    refine mem_map_of_mem (mem_filterMap.2 ⟨.hit found, ?_, rfl⟩)
    simp [hpieces]
  -- the text is shown in three parts
  have hclean := htext
  rw [hsplit, mem_append, mem_append, not_or, not_or] at hclean
  obtain ⟨hcleanBefore, hcleanFound, hcleanAfter⟩ := hclean
  have hparts : linkChars (findAddresses text) text = linkChars (findAddresses text) (uncut before) ++
      (linkChars (findAddresses text) found.text ++ linkChars (findAddresses text) (uncut after)) := by
    rw [← linkChars_append haddresses hcleanFound hcleanAfter fun address haddress hb =>
        hend address haddress (hb.append_left _),
      ← linkChars_append haddresses hcleanBefore (by simp [hcleanFound, hcleanAfter]) hstart, ← hsplit]
  have hlength : (linkChars (findAddresses text) (uncut before)).length = (uncut before).length := by
    rw [← length_map Prod.fst, map_fst_linkChars haddresses hcleanBefore]
  have hrun := isLinkRun_append_iff (map_fst_linkChars haddresses hcleanFound)
    (ne_blue_of_getLast?_linkChars htext hcleanBefore hbefore) (ne_blue_of_head?_linkChars htext hcleanAfter hafter)
  rw [← hparts, hlength] at hrun
  rw [shownChars_markLinks htopics]
  refine ⟨hrun, fun hself => hrun.2 fun shown hshown => ?_⟩
  rw [linkChars_self haddresses hmem hself] at hshown
  obtain ⟨c, -, rfl⟩ := mem_map.1 hshown
  rfl

end Address

/-- An address that is mentioned twice is marked twice, and still shown as a run in both places. -/
theorem isLinkRun_address_mentioned_twice :
    IsLinkRun (Log.shownChars ⟨[String.ofList (markLinks "http://a.bc or http://a.bc, https://d.ef/g".toList)]⟩) 15
      "http://a.bc".toList := by
  have hpieces : addressPattern.pieces "http://a.bc or http://a.bc, https://d.ef/g".toList =
      [.hit ⟨"http://a.bc".toList, []⟩, .kept ' ', .kept 'o', .kept 'r', .kept ' '] ++
        .hit ⟨"http://a.bc".toList, []⟩ :: [.kept ',', .kept ' ', .hit ⟨"https://d.ef/g".toList, []⟩] := by
    decide +kernel
  exact (isLinkRun_iff_of_not_bridges (by decide) (by decide +kernel) hpieces (by decide +kernel)
    (by decide +kernel)).2 (by decide +kernel)

/-- Not every address is shown as a run: one that starts with another address is shown in two parts. -/
theorem exists_address_not_isLinkRun :
    ¬∀ text : List Char, escapeChar ∉ text → (∀ topic ∈ helpTopics, ¬topic.1.toList <:+: text) →
      ∀ before found after, addressPattern.pieces text = before ++ .hit found :: after →
        IsLinkRun (Log.shownChars ⟨[String.ofList (markLinks text)]⟩) (uncut before).length found.text := by
  intro hall
  have hpieces : addressPattern.pieces "http://a.bc http://a.bc/d".toList =
      [.hit ⟨"http://a.bc".toList, []⟩, .kept ' '] ++ .hit ⟨"http://a.bc/d".toList, []⟩ :: [] := by
    decide +kernel
  have hrun := hall _ (by decide) (by decide +kernel) _ _ _ hpieces
  exact absurd hrun (by decide +kernel)

end StudioMigration
