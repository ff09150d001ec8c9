import StudioMigration.Journal.Link
import StudioMigration.Proofs.Text.Basic

/-!
# Marked texts

A message with marked links is a sequence of marks: characters, starts of the link style and resets. Links
are marked one after another, each wherever its text occurs, so that marks can end up inside of each other and
need not be balanced. What stays true is told by an automaton: it reads the marks the way a reader with one
link style does, and it refuses white space where a reader that trims links would lose it.

* `prefix_of_render_prefix` says that the written form of marks can be taken apart in one way only.
* `LinkState.Accepts.mark` says that marking one occurrence keeps a sequence accepted.
* `Marked` is the marking of all occurrences of a piece, and `exists_marked` says that it is what happens to the written form.
* `Marked.clear` says that a word that does not overlap what is marked has no mark in it and stands in no link.
-/

namespace StudioMigration

open List

/-! ## Marks -/

/-- A part of a message with marked links. -/
inductive Mark where
  | char (c : Char)
  /-- The link style starts. -/
  | link
  /-- Every style ends. -/
  | reset
  deriving DecidableEq, Repr

def Mark.render : Mark → List Char
  | .char c => [c]
  | .link => Style.link.toList
  | .reset => Style.reset.toList

def renderMarks (marks : List Mark) : List Char := marks.flatMap Mark.render

def Mark.shown : Mark → List Char
  | .char c => [c]
  | _ => []

def marksText (marks : List Mark) : List Char := marks.flatMap Mark.shown

/-- The marks of a text without styles. -/
def plainMarks (text : List Char) : List Mark := text.map .char

/-- Whether the characters among marks cannot be taken for styles. -/
def AreClean (marks : List Mark) : Prop := .char escapeChar ∉ marks

@[simp] theorem renderMarks_nil : renderMarks [] = [] := rfl

@[simp] theorem renderMarks_cons (mark : Mark) (marks : List Mark) :
    renderMarks (mark :: marks) = mark.render ++ renderMarks marks :=
  flatMap_cons

@[simp] theorem renderMarks_append (marks more : List Mark) :
    renderMarks (marks ++ more) = renderMarks marks ++ renderMarks more :=
  flatMap_append

@[simp] theorem renderMarks_plainMarks (text : List Char) : renderMarks (plainMarks text) = text := by
  induction text with
  | nil => rfl
  | cons c text ih => simpa [plainMarks, Mark.render] using ih

@[simp] theorem marksText_cons (mark : Mark) (marks : List Mark) :
    marksText (mark :: marks) = mark.shown ++ marksText marks :=
  flatMap_cons

@[simp] theorem marksText_append (marks more : List Mark) :
    marksText (marks ++ more) = marksText marks ++ marksText more :=
  flatMap_append

@[simp] theorem marksText_plainMarks (text : List Char) : marksText (plainMarks text) = text := by
  induction text with
  | nil => rfl
  | cons c text ih => simpa [plainMarks, Mark.shown] using ih

theorem linkMark_renderMarks (marks : List Mark) :
    linkMark (renderMarks marks) = renderMarks (.link :: (marks ++ [.reset])) := by
  simp [linkMark, Mark.render]

theorem render_link_mark : Mark.link.render = escapeChar :: '[' :: '4' :: ";94m".toList := by decide

theorem render_reset_mark : Mark.reset.render = escapeChar :: '[' :: '0' :: "m".toList := by decide

variable {marks more : List Mark} {state : LinkState}

theorem AreClean.of_cons {mark : Mark} (h : AreClean (mark :: marks)) : mark ≠ .char escapeChar ∧ AreClean marks :=
  ⟨fun heq => h (heq ▸ mem_cons_self), fun hmem => h (mem_cons_of_mem _ hmem)⟩

theorem areClean_append : AreClean (marks ++ more) ↔ AreClean marks ∧ AreClean more := by
  simp [AreClean, not_or]

theorem areClean_plainMarks {text : List Char} : AreClean (plainMarks text) ↔ escapeChar ∉ text := by
  simp [AreClean, plainMarks]

/-- The first mark is read off its written form: styles differ from each other, and clean characters differ
from styles. -/
theorem Mark.eq_of_render_prefix {mark other : Mark} (hmark : mark ≠ .char escapeChar)
    (hother : other ≠ .char escapeChar) {rest more : List Char}
    (h : mark.render ++ rest <+: other.render ++ more) : mark = other := by
  cases mark with
  | char c =>
    have hc : c ≠ escapeChar := fun heq => hmark (heq ▸ rfl)
    cases other with
    | char d => simpa [render] using (cons_prefix_cons.1 h).1
    | link => exact absurd (cons_prefix_cons.1 h).1 hc
    | reset => exact absurd (cons_prefix_cons.1 h).1 hc
  | link =>
    cases other with
    | char d =>
      have hd : escapeChar ≠ d := fun heq => hother (heq ▸ rfl)
      exact absurd (cons_prefix_cons.1 h).1 hd
    | link => rfl
    | reset => simp [render_link_mark, render_reset_mark, cons_prefix_cons] at h
  | reset =>
    cases other with
    | char d =>
      have hd : escapeChar ≠ d := fun heq => hother (heq ▸ rfl)
      exact absurd (cons_prefix_cons.1 h).1 hd
    | link => simp [render_link_mark, render_reset_mark, cons_prefix_cons] at h
    | reset => rfl

/-- Marks are read off their written form in one way only. -/
theorem prefix_of_render_prefix (hmarks : AreClean marks) (hmore : AreClean more)
    (h : renderMarks marks <+: renderMarks more) : marks <+: more := by
  induction marks generalizing more with
  | nil => simp
  | cons mark marks ih =>
    obtain ⟨hmark, hmarks⟩ := hmarks.of_cons
    cases more with
    | nil =>
      have hempty : mark.render ++ renderMarks marks = [] := by simpa using h
      cases mark with
      | char c => simp [Mark.render] at hempty
      | link => simp [render_link_mark] at hempty
      | reset => simp [render_reset_mark] at hempty
    | cons other more =>
      obtain ⟨hother, hrest⟩ := hmore.of_cons
      rw [renderMarks_cons, renderMarks_cons] at h
      obtain rfl := Mark.eq_of_render_prefix hmark hother h
      rw [prefix_append_right_inj] at h
      exact cons_prefix_cons.2 ⟨rfl, ih hmarks hrest h⟩

/-! ## Reading marks -/

/-- How the text of an open link ends so far. -/
inductive LinkEnd where
  /-- The link has no text yet. -/
  | empty
  /-- The last character is no white space. -/
  | solid
  /-- The last character is white space. -/
  | blank
  deriving DecidableEq, Repr

/-- Where a reader of marks stands. -/
inductive LinkState where
  | outside
  /-- In a link; `fresh` tells that a start was read just before. -/
  | inside (ending : LinkEnd) (fresh : Bool)
  deriving DecidableEq, Repr

namespace LinkState

/-- Reads a mark. A link may not begin or end with white space, nor may a start stand before any; and no line
ends in a link. -/
def step : LinkState → Mark → Option LinkState
  | .outside, .char _ => some .outside
  | .outside, .reset => some .outside
  | .outside, .link => some (.inside .empty true)
  | .inside ending fresh, .char c =>
    if Text.isSpace c then
      if fresh || ending == .empty || c == '\n' || c == '\r' then none else some (.inside .blank false)
    else some (.inside .solid false)
  | .inside ending _, .link => some (.inside ending true)
  | .inside ending _, .reset => if ending = .blank then none else some .outside

/-- Reads marks in order. -/
def run (state : LinkState) : List Mark → Option LinkState
  | [] => some state
  | mark :: marks => (state.step mark).bind fun next => next.run marks

/-- Whether marks can be read to an end outside of links. -/
def Accepts (state : LinkState) (marks : List Mark) : Prop := state.run marks = some .outside

instance (state : LinkState) (marks : List Mark) : Decidable (state.Accepts marks) :=
  inferInstanceAs (Decidable (_ = _))

theorem run_append (state : LinkState) (marks more : List Mark) :
    state.run (marks ++ more) = (state.run marks).bind fun next => next.run more := by
  induction marks generalizing state with
  | nil => rfl
  | cons mark marks ih =>
    simp only [cons_append, run, Option.bind_assoc]
    congr
    funext next
    exact ih next

theorem accepts_cons {mark : Mark} :
    state.Accepts (mark :: marks) ↔ ∃ next, state.step mark = some next ∧ next.Accepts marks := by
  simp [Accepts, run, Option.bind_eq_some_iff]

theorem accepts_append : state.Accepts (marks ++ more) ↔ ∃ next, state.run marks = some next ∧ next.Accepts more := by
  simp [Accepts, run_append, Option.bind_eq_some_iff]

/-- A start forgets what the link had before it. -/
theorem Accepts.fresh {ending : LinkEnd} (h : (inside ending true).Accepts marks) :
    (inside .empty true).Accepts marks := by
  induction marks with
  | nil => simp [Accepts, run] at h
  | cons mark marks ih =>
    obtain ⟨next, hstep, hnext⟩ := accepts_cons.1 h
    refine accepts_cons.2 ?_
    cases mark with
    | char c =>
      refine ⟨next, ?_, hnext⟩
      simpa [step] using hstep
    | link =>
      simp only [step, Option.some.injEq] at hstep
      subst hstep
      exact ⟨_, rfl, ih hnext⟩
    | reset =>
      simp only [step, Option.ite_none_left_eq_some, Option.some.injEq] at hstep
      obtain ⟨-, rfl⟩ := hstep
      exact ⟨_, rfl, hnext⟩

/-- Marks that can be read in a link can be read outside of links. -/
theorem Accepts.outside (h : state.Accepts marks) : LinkState.outside.Accepts marks := by
  induction marks generalizing state with
  | nil => rfl
  | cons mark marks ih =>
    obtain ⟨next, hstep, hnext⟩ := accepts_cons.1 h
    refine accepts_cons.2 ?_
    cases mark with
    | char c => exact ⟨_, rfl, ih hnext⟩
    | reset => exact ⟨_, rfl, ih hnext⟩
    | link =>
      refine ⟨_, rfl, ?_⟩
      cases state with
      | outside =>
        simp only [step, Option.some.injEq] at hstep
        rwa [← hstep] at hnext
      | inside ending fresh =>
        simp only [step, Option.some.injEq] at hstep
        exact Accepts.fresh (hstep ▸ hnext)

/-- Whether a link can start with a character: it is no white space, and no part of a style. -/
def StartsLink (c : Char) : Prop :=
  Text.isSpace c = false ∧ c ∉ Mark.link.render ∧ c ∉ Mark.reset.render

instance (c : Char) : Decidable (StartsLink c) := inferInstanceAs (Decidable (_ ∧ _))

/-- Whether marks can be the text of a link: they can be read between a start and a reset. -/
structure IsLinkText (marks : List Mark) : Prop where
  clean : AreClean marks
  head : ∃ c rest, marks = .char c :: rest ∧ StartsLink c
  accepts : (inside .empty true).Accepts (marks ++ [.reset])

/-- Marking one occurrence of a link keeps the sequence accepted: what follows is read outside of links, which
refuses nothing that is read inside of them. -/
theorem Accepts.mark {rest : List Mark} (hmarks : IsLinkText marks) (h : state.Accepts (marks ++ rest)) :
    state.Accepts (.link :: (marks ++ .reset :: rest)) := by
  obtain ⟨c, tail, rfl, hc, -⟩ := hmarks.head
  obtain ⟨ending, hlink⟩ : ∃ ending, state.step .link = some (.inside ending true) := by
    cases state with
    | outside => exact ⟨_, rfl⟩
    | inside ending fresh => exact ⟨_, rfl⟩
  obtain ⟨next, -, hrest⟩ := accepts_append.1 h
  have hsplit : Mark.char c :: tail ++ .reset :: rest = (.char c :: tail ++ [.reset]) ++ rest := by simp
  refine accepts_cons.2 ⟨_, hlink, ?_⟩
  rw [hsplit, accepts_append]
  refine ⟨.outside, ?_, hrest.outside⟩
  -- after its first character a link does not depend on what was before
  have htext := hmarks.accepts
  simpa [Accepts, run, step] using htext

end LinkState

/-! ## Marking a piece -/

open LinkState
open Text (Bridges)

variable {piece marked after : List Mark} {word read : List Char}

/-- Marking every occurrence of a piece, from left to right. -/
inductive Marked (piece : List Mark) : List Mark → List Mark → Prop
  | nil : Marked piece [] []
  | found {rest marked : List Mark} : Marked piece rest marked →
    Marked piece (piece ++ rest) (.link :: (piece ++ .reset :: marked))
  | kept (mark : Mark) {rest marked : List Mark} : Marked piece rest marked → Marked piece (mark :: rest) (mark :: marked)

theorem Marked.marksText_eq (h : Marked piece marks marked) : marksText marked = marksText marks := by
  induction h with
  | nil => rfl
  | found _ ih => simp [Mark.shown, ih]
  | kept mark _ ih => simp [ih]

theorem Marked.areClean (h : Marked piece marks marked) (hclean : AreClean marks) : AreClean marked := by
  induction h with
  | nil => exact hclean
  | found _ ih =>
    rw [areClean_append] at hclean
    simpa [AreClean] using ⟨hclean.1, ih hclean.2⟩
  | kept mark _ ih =>
    obtain ⟨hmark, hrest⟩ := hclean.of_cons
    exact fun hmem => (mem_cons.1 hmem).elim (fun heq => hmark heq.symm) (ih hrest)

theorem Marked.accepts (h : Marked piece marks marked) (hpiece : IsLinkText piece) {state : LinkState}
    (haccepts : state.Accepts marks) : state.Accepts marked := by
  induction h generalizing state with
  | nil => exact haccepts
  | found _ ih =>
    obtain ⟨next, hnext, hrest⟩ := accepts_append.1 haccepts
    exact Accepts.mark hpiece (accepts_append.2 ⟨next, hnext, ih hrest⟩)
  | kept mark _ ih =>
    obtain ⟨next, hstep, hnext⟩ := accepts_cons.1 haccepts
    exact accepts_cons.2 ⟨next, hstep, ih hnext⟩

/-- What is found in the written form is found among the marks. -/
theorem exists_marked (hpiece : IsLinkText piece) (hmarks : AreClean marks) :
    ∃ marked, markPiece (renderMarks marks) (renderMarks piece) = renderMarks marked ∧ Marked piece marks marked := by
  obtain ⟨first, tail, hhead, hstart⟩ := hpiece.head
  have hwritten : renderMarks piece = first :: renderMarks tail := by simp [hhead, Mark.render]
  have hne : renderMarks piece ≠ [] := by simp [hwritten]
  have hlength : 0 < piece.length := by simp [hhead]
  unfold markPiece
  rw [linkMark_renderMarks]
  induction hn : marks.length using Nat.strongRecOn generalizing marks with
  | _ n ih =>
    subst hn
    by_cases hfound : piece <+: marks
    · obtain ⟨rest, rfl⟩ := hfound
      obtain ⟨marked, hmarked, hrest⟩ := ih rest.length (by simp; omega) (areClean_append.1 hmarks).2 rfl
      refine ⟨_, ?_, hrest.found⟩
      rw [renderMarks_append, Text.replaceAll_append hne, hmarked]
      simp
    · cases marks with
      | nil => exact ⟨[], by simp [hne], .nil⟩
      | cons mark rest =>
        obtain ⟨marked, hmarked, hrest⟩ := ih rest.length (by simp) hmarks.of_cons.2 rfl
        refine ⟨mark :: marked, ?_, hrest.kept mark⟩
        rw [renderMarks_cons mark, renderMarks_cons mark, ← hmarked]
        cases mark with
        | char c =>
          refine Text.replaceAll_cons hne fun hfront => hfound ?_
          exact prefix_of_render_prefix hpiece.clean hmarks (by simpa [Mark.render] using hfront)
        | link => exact Text.replaceAll_append_of_head hwritten hstart.2.1 _
        | reset => exact Text.replaceAll_append_of_head hwritten hstart.2.2 _

/-! ## Words between marks -/

/-- The text up to the next reset. -/
def linkedText : List Mark → List Char
  | [] => []
  | .reset :: _ => []
  | mark :: marks => mark.shown ++ linkedText marks

/-- Whether a word keeps clear of the marks behind a text: it stands across none of them, and in no link. -/
def Clear (word : List Char) : List Char → List Mark → Prop
  | _, [] => True
  | read, .char c :: marks => Clear word (read ++ [c]) marks
  | read, .link :: marks =>
    ¬Bridges word read (marksText marks) ∧ ¬word <:+: linkedText marks ∧ Clear word read marks
  | read, .reset :: marks => ¬Bridges word read (marksText marks) ∧ Clear word read marks

theorem clear_plainMarks (word read text : List Char) : Clear word read (plainMarks text) := by
  induction text generalizing read with
  | nil => trivial
  | cons c text ih => exact ih (read ++ [c])

/-- Only the end of the text that was read matters. -/
theorem Clear.of_suffix {last : List Char} (h : Clear word read marks) (hlast : last <:+ read) : Clear word last marks := by
  obtain ⟨front, rfl⟩ := hlast
  have hseam : ∀ {read back : List Char}, ¬Bridges word (front ++ read) back → ¬Bridges word read back :=
    mt (·.append_left front)
  induction marks generalizing last with
  | nil => trivial
  | cons mark marks ih =>
    cases mark with
    | char c => exact ih (by rwa [← append_assoc])
    | link => exact ⟨hseam h.1, h.2.1, ih h.2.2⟩
    | reset => exact ⟨hseam h.1, ih h.2⟩

theorem isPrefix_linkedText_append (h : linkedText more <+: linkedText after) (marks : List Mark) :
    linkedText (marks ++ more) <+: linkedText (marks ++ after) := by
  induction marks with
  | nil => exact h
  | cons mark marks ih =>
    cases mark with
    | char c => exact cons_prefix_cons.2 ⟨rfl, ih⟩
    | link => exact ih
    | reset => exact prefix_refl _

/-- A reset ends a link early. -/
theorem isPrefix_linkedText_reset (marks more after : List Mark) :
    linkedText (marks ++ .reset :: more) <+: linkedText (marks ++ after) :=
  isPrefix_linkedText_append (by simp [linkedText]) marks

theorem isPrefix_linkedText (marks : List Mark) : linkedText marks <+: marksText marks := by
  induction marks with
  | nil => exact prefix_refl _
  | cons mark marks ih =>
    cases mark with
    | char c => exact cons_prefix_cons.2 ⟨rfl, ih⟩
    | link => exact ih
    | reset => exact nil_prefix

theorem Marked.isPrefix_linkedText (h : Marked piece marks marked) : linkedText marked <+: linkedText marks := by
  induction h with
  | nil => exact prefix_refl _
  | found _ _ => exact isPrefix_linkedText_reset _ _ _
  | kept mark _ ih => exact isPrefix_linkedText_append ih [mark]

/-- Marks may be replaced behind others if the text stays and no link gets longer. -/
theorem Clear.append (h : Clear word read (marks ++ more)) (htext : marksText after = marksText more)
    (hlinked : linkedText after <+: linkedText more)
    (hafter : Clear word (read ++ marksText marks) more → Clear word (read ++ marksText marks) after) :
    Clear word read (marks ++ after) := by
  induction marks generalizing read with
  | nil => simpa [marksText] using hafter (by simpa [marksText] using h)
  | cons mark marks ih =>
    cases mark with
    | char c => exact ih h (by simpa [Mark.shown] using hafter)
    | link =>
      refine ⟨by simpa [htext] using h.1, fun hfound => h.2.1 ?_, ih h.2.2 hafter⟩
      exact hfound.trans (isPrefix_linkedText_append hlinked marks).isInfix
    | reset => exact ⟨by simpa [htext] using h.1, ih h.2 hafter⟩

/-- Whether an occurrence of a piece and one of a word in a text have a character in common: the word stands across
the start of the piece, across its end, or within it. -/
def Overlaps (text piece word : List Char) : Prop :=
  ∃ n ≤ text.length, piece <+: text.drop n ∧ (Bridges word (text.take n) (text.drop n) ∨
    Bridges word (text.take (n + piece.length)) (text.drop (n + piece.length)) ∨ word <:+: piece)

instance (text piece word : List Char) : Decidable (Overlaps text piece word) :=
  inferInstanceAs (Decidable (∃ n ≤ _, _))

theorem not_bridges_of_not_overlaps {front piece back : List Char} (h : ¬Overlaps (front ++ (piece ++ back)) piece word) :
    ¬Bridges word front (piece ++ back) ∧ ¬Bridges word (front ++ piece) back ∧ ¬word <:+: piece := by
  have hall := not_exists.1 h front.length
  have hsplit : front ++ (piece ++ back) = (front ++ piece) ++ back := (append_assoc _ _ _).symm
  rw [drop_left, take_left, ← length_append, hsplit, drop_left, take_left] at hall
  simpa using hall

/-- Marking a piece keeps a word clear that does not overlap it. -/
theorem Marked.clear (h : Marked piece marks marked) (hclear : Clear word read marks)
    (hapart : ¬Overlaps (read ++ marksText marks) (marksText piece) word) : Clear word read marked := by
  induction h generalizing read with
  | nil => trivial
  | @found rest marked hrest ih =>
    rw [marksText_append] at hapart
    obtain ⟨hstart, hend, hinside⟩ := not_bridges_of_not_overlaps hapart
    refine ⟨by simpa [Mark.shown, hrest.marksText_eq] using hstart, fun hfound => hinside ?_,
      hclear.append ?_ nil_prefix ?_⟩
    · have hlink := isPrefix_linkedText_reset piece marked []
      rw [append_nil] at hlink
      exact hfound.trans (hlink.trans (StudioMigration.isPrefix_linkedText piece)).isInfix
    · simpa [Mark.shown] using hrest.marksText_eq
    · exact fun h => ⟨by rwa [hrest.marksText_eq], ih h (by simpa using hapart)⟩
  | kept mark hrest ih =>
    have hmore : Clear word read ([mark] ++ _) := hclear
    exact hmore.append hrest.marksText_eq hrest.isPrefix_linkedText fun h =>
      ih h (by simpa [marksText] using hapart)

/-- Marking every occurrence of some links keeps the text, keeps a sequence accepted, in whatever state it is read, and keeps
every word clear that overlaps none of them. -/
theorem exists_marks_foldl_markPiece {pieces : List (List Char)}
    (hpieces : ∀ piece ∈ pieces, ∃ marks, piece = renderMarks marks ∧ IsLinkText marks) (marks : List Mark)
    (hmarks : AreClean marks) :
    ∃ marked, pieces.foldl markPiece (renderMarks marks) = renderMarks marked ∧ AreClean marked ∧
      marksText marked = marksText marks ∧ (∀ state : LinkState, state.Accepts marks → state.Accepts marked) ∧
      ∀ word, (∀ piece, renderMarks piece ∈ pieces → IsLinkText piece →
        ¬Overlaps (marksText marks) (marksText piece) word) → Clear word [] marks → Clear word [] marked := by
  induction pieces generalizing marks with
  | nil => exact ⟨marks, rfl, hmarks, rfl, fun _ => id, fun _ _ => id⟩
  | cons piece pieces ih =>
    rw [forall_mem_cons] at hpieces
    obtain ⟨text, rfl, htext⟩ := hpieces.1
    obtain ⟨next, hnext, hstep⟩ := exists_marked htext hmarks
    obtain ⟨marked, hmarked, hclean, hshown, haccepts, hclear⟩ := ih hpieces.2 next (hstep.areClean hmarks)
    rw [hstep.marksText_eq] at hshown hclear
    refine ⟨marked, by rw [foldl_cons, hnext, hmarked], hclean, hshown,
      fun state hstate => haccepts state (hstep.accepts htext hstate), fun word hapart hbefore => ?_⟩
    exact hclear word (fun other hother => hapart other (mem_cons_of_mem _ hother))
      (hstep.clear hbefore (hapart text mem_cons_self htext))

/-! ## Texts of links -/

/-- Reading marks without white space never ends behind white space. -/
theorem LinkState.accepts_reset_of_solid (h : ∀ c, .char c ∈ marks → Text.isSpace c = false)
    (hstate : ∀ fresh, state ≠ .inside .blank fresh) : state.Accepts (marks ++ [.reset]) := by
  induction marks generalizing state with
  | nil =>
    cases state with
    | outside => rfl
    | inside ending fresh =>
      have hending : ending ≠ .blank := fun heq => hstate fresh (heq ▸ rfl)
      simp [Accepts, run, step, hending]
  | cons mark marks ih =>
    have hrest : ∀ c, .char c ∈ marks → Text.isSpace c = false := fun c hc => h c (mem_cons_of_mem _ hc)
    rw [cons_append, accepts_cons]
    cases state with
    | outside =>
      cases mark with
      | char c => exact ⟨_, rfl, ih hrest (by simp)⟩
      | link => exact ⟨_, rfl, ih hrest (by simp)⟩
      | reset => exact ⟨_, rfl, ih hrest (by simp)⟩
    | inside ending fresh =>
      have hending : ending ≠ .blank := fun heq => hstate fresh (heq ▸ rfl)
      cases mark with
      | char c => exact ⟨.inside .solid false, by simp [step, h c mem_cons_self], ih hrest (by simp)⟩
      | link => exact ⟨_, rfl, ih hrest (by simpa using hending)⟩
      | reset => exact ⟨.outside, by simp [step, hending], ih hrest (by simp)⟩

theorem isLinkText_topic {topic : String × Json} (h : topic ∈ helpTopics) :
    IsLinkText (plainMarks topic.1.toList) := by
  have hall : ∀ name ∈ helpTopics.map Prod.fst, escapeChar ∉ name.toList ∧
      name.toList.head?.any (fun c => decide (StartsLink c)) ∧
      (inside .empty true).Accepts (plainMarks name.toList ++ [.reset]) := by
    decide +kernel
  obtain ⟨hclean, hhead, haccepts⟩ := hall _ (mem_map_of_mem h)
  refine ⟨areClean_plainMarks.2 hclean, ?_, haccepts⟩
  obtain ⟨c, hc, hstart⟩ := (Option.any_eq_true _ _).1 hhead
  obtain ⟨rest, hrest⟩ := head?_eq_some_iff.1 hc
  exact ⟨c, plainMarks rest, by rw [hrest]; rfl, of_decide_eq_true hstart⟩

end StudioMigration
