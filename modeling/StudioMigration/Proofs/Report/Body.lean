import Mathlib.Data.List.TakeWhile
import StudioMigration.Report.Body

/-!
# The text of a report

What becomes of the text of a log in a report, which is read the way a browser shows it: tags are not shown, and an
entity is shown as its character. Text outside of links is kept as it is. A link is read piece by piece and written
at its end, line by line and trimmed, so that only white space can get lost.

* `decodeEntities` reads entities and `withoutTags` drops tags; `decodeEntities_withoutTags` says that the
  pieces of a report body are read back with nothing added and nothing lost.
* `bodyChars` also tells the colour of every character; `bodyChars_flatMap_render` is the same for it.
* `ReportReading.control_cases` says once what a control sequence can do to the link that is being read.
* `Kept` relates the plain texts of a log to the text that a report shows of them.
* `kept_shownText` is the run over a whole log, by induction over its segments.
-/

namespace StudioMigration

open List

section Markup

open ReportPiece

variable {c : Char} {text inner : List Char}

/-! ## Entities -/

/-- The entities of markup, each without its ampersand and with the character that it stands for. -/
def entities : List (List Char × Char) :=
  [("amp;".toList, '&'), ("lt;".toList, '<'), ("gt;".toList, '>'), ("quot;".toList, '"'),
   ("#x27;".toList, Text.apostrophe)]

/-- The entity that follows an ampersand. -/
def entity? (rest : List Char) : Option (List Char × Char) :=
  entities.find? fun entity => entity.1.isPrefixOf rest

/-- Reading entities with `skip` characters of an entity still to be passed over. -/
def decodeEntitiesFrom : Nat → List Char → List Char
  | _, [] => []
  | skip + 1, _ :: rest => decodeEntitiesFrom skip rest
  | 0, c :: rest =>
    match if c == '&' then entity? rest else none with
    | some (name, shown) => shown :: decodeEntitiesFrom name.length rest
    | none => c :: decodeEntitiesFrom 0 rest

/-- A text of a document with its entities read. An ampersand that starts no entity stands for itself. -/
def decodeEntities (text : List Char) : List Char := decodeEntitiesFrom 0 text

/-- A character is written as itself, and then it has no meaning in markup, or as an entity. -/
theorem markupChar_cases (c : Char) :
    (markupChar c = [c] ∧ c ≠ '&' ∧ c ≠ '<' ∧ c ≠ '>' ∧ c ≠ '"') ∨
      ∃ name, markupChar c = '&' :: name ∧ (name, c) ∈ entities := by
  unfold markupChar
  simp only [beq_iff_eq]
  split
  · rename_i h
    exact .inr ⟨"amp;".toList, by decide, by rw [h]; decide⟩
  rename_i hamp
  split
  · rename_i h
    exact .inr ⟨"lt;".toList, by decide, by rw [h]; decide⟩
  rename_i hlt
  split
  · rename_i h
    exact .inr ⟨"gt;".toList, by decide, by rw [h]; decide⟩
  rename_i hgt
  split
  · rename_i h
    exact .inr ⟨"quot;".toList, by decide, by rw [h]; decide⟩
  rename_i hquot
  split
  · rename_i h
    exact .inr ⟨"#x27;".toList, by decide, by rw [h]; decide⟩
  · exact .inl ⟨rfl, hamp, hlt, hgt, hquot⟩

theorem entity?_append {name : List Char} (h : (name, c) ∈ entities) (rest : List Char) :
    entity? (name ++ rest) = some (name, c) := by
  simp only [entities, mem_cons, Prod.mk.injEq, not_mem_nil, or_false] at h
  rcases h with ⟨rfl, rfl⟩ | ⟨rfl, rfl⟩ | ⟨rfl, rfl⟩ | ⟨rfl, rfl⟩ | ⟨rfl, rfl⟩ <;>
    simp [entity?, entities]

theorem decodeEntitiesFrom_eq (skip : Nat) (text : List Char) :
    decodeEntitiesFrom skip text = decodeEntities (text.drop skip) := by
  induction skip generalizing text with
  | zero => simp [decodeEntities]
  | succ skip ih =>
    cases text with
    | nil => simp [decodeEntitiesFrom, decodeEntities]
    | cons c text => simpa [decodeEntitiesFrom] using ih text

theorem decodeEntities_markupChar (c : Char) (rest : List Char) :
    decodeEntities (markupChar c ++ rest) = c :: decodeEntities rest := by
  rcases markupChar_cases c with ⟨hc, hamp, -⟩ | ⟨name, hc, hentity⟩
  · rw [hc, singleton_append, decodeEntities, decodeEntitiesFrom, if_neg (by simpa using hamp)]
    rfl
  · rw [hc, cons_append, decodeEntities, decodeEntitiesFrom, if_pos (by simp), entity?_append hentity]
    simp [decodeEntitiesFrom_eq]

/-- A text is read back from its written form. -/
theorem decodeEntities_escapeMarkup (text rest : List Char) :
    decodeEntities (escapeMarkup text ++ rest) = text ++ decodeEntities rest := by
  induction text with
  | nil => rfl
  | cons c text ih =>
    rw [escapeMarkup, flatMap_cons, append_assoc, decodeEntities_markupChar]
    simpa [escapeMarkup] using ih

theorem escapeMarkup_append (text more : List Char) :
    escapeMarkup (text ++ more) = escapeMarkup text ++ escapeMarkup more :=
  flatMap_append

theorem escapeMarkup_cons (c : Char) (text : List Char) :
    escapeMarkup (c :: text) = markupChar c ++ escapeMarkup text :=
  flatMap_cons

/-- A text cannot open or close anything in its written form, nor end a value in quotes. -/
theorem not_mem_escapeMarkup (hc : c = '<' ∨ c = '>' ∨ c = '"') : c ∉ escapeMarkup text := by
  intro hmem
  obtain ⟨d, -, hd⟩ := mem_flatMap.1 hmem
  rcases markupChar_cases d with ⟨hplain, -, hlt, hgt, hquot⟩ | ⟨name, hname, hentity⟩
  · rw [hplain, mem_singleton] at hd
    subst hd
    rcases hc with rfl | rfl | rfl <;> contradiction
  · have hnone : ∀ entity ∈ entities, '<' ∉ '&' :: entity.1 ∧ '>' ∉ '&' :: entity.1 ∧ '"' ∉ '&' :: entity.1 := by
      decide
    have h := hnone _ hentity
    rw [hname] at hd
    rcases hc with rfl | rfl | rfl
    · exact h.1 hd
    · exact h.2.1 hd
    · exact h.2.2 hd

/-! ## Tags -/

theorem withoutTagsFrom_eq (skip : Nat) (text : List Char) :
    withoutTagsFrom skip text = withoutTags (text.drop skip) := by
  induction skip generalizing text with
  | zero => simp [withoutTags]
  | succ skip ih =>
    cases text with
    | nil => simp [withoutTagsFrom, withoutTags]
    | cons c text => simpa [withoutTagsFrom] using ih text

theorem withoutTags_append (h : '<' ∉ text) (rest : List Char) :
    withoutTags (text ++ rest) = text ++ withoutTags rest := by
  induction text with
  | nil => rfl
  | cons c text ih =>
    rw [mem_cons, not_or] at h
    have hc : (c == '<') = false := beq_eq_false_iff_ne.2 (Ne.symm h.1)
    simp only [cons_append, withoutTags, withoutTagsFrom, hc, Bool.false_and, Bool.false_eq_true, if_false]
    congr 1
    exact ih h.2

theorem takeWhile_ne_append (h : c ∉ text) (rest : List Char) : (text ++ c :: rest).takeWhile (· != c) = text := by
  rw [takeWhile_append_of_pos fun d hd => by simpa using ne_of_mem_of_not_mem hd h]
  simp

theorem withoutTags_tag (hne : inner ≠ []) (hend : '>' ∉ inner) (rest : List Char) :
    withoutTags ('<' :: (inner ++ '>' :: rest)) = withoutTags rest := by
  have hlength : inner.length ≠ 0 := by simpa using hne
  simp only [withoutTags, withoutTagsFrom, takeWhile_ne_append hend]
  rw [if_pos (by simp [hlength]), withoutTagsFrom_eq]
  simp [withoutTags]

/-! ## Colours -/

/-- The colour that a tag of a report body changes to. -/
def tagColour (tag : List Char) : LogColour :=
  if tag = "span class=\"red\"".toList then .red
  else if tag = "span class=\"orange\"".toList then .orange
  else if tag = "span class=\"green\"".toList then .green
  else if "a href=".toList.isPrefixOf tag then .blue
  else .normal

/-- Reading a body in a colour with `skip` characters of a tag or an entity still to be passed over. -/
def bodyCharsFrom : Nat → LogColour → List Char → List (Char × LogColour)
  | _, _, [] => []
  | skip + 1, colour, _ :: rest => bodyCharsFrom skip colour rest
  | 0, colour, c :: rest =>
    if c == '<' then
      let tag := rest.takeWhile (· != '>')
      bodyCharsFrom (tag.length + 1) (tagColour tag) rest
    else
      match if c == '&' then entity? rest else none with
      | some (name, shown) => (shown, colour) :: bodyCharsFrom name.length colour rest
      | none => (c, colour) :: bodyCharsFrom 0 colour rest

def bodyChars (body : List Char) : List (Char × LogColour) := bodyCharsFrom 0 .normal body

theorem bodyCharsFrom_eq (skip : Nat) (colour : LogColour) (text : List Char) :
    bodyCharsFrom skip colour text = bodyCharsFrom 0 colour (text.drop skip) := by
  induction skip generalizing text with
  | zero => simp
  | succ skip ih =>
    cases text with
    | nil => simp [bodyCharsFrom]
    | cons c text => simpa [bodyCharsFrom] using ih text

theorem bodyCharsFrom_escapeMarkup (colour : LogColour) (text rest : List Char) :
    bodyCharsFrom 0 colour (escapeMarkup text ++ rest) = text.map (·, colour) ++ bodyCharsFrom 0 colour rest := by
  induction text with
  | nil => rfl
  | cons c text ih =>
    have hrest : escapeMarkup (c :: text) ++ rest = markupChar c ++ (escapeMarkup text ++ rest) := by
      simp [escapeMarkup]
    rw [hrest, map_cons, cons_append, ← ih]
    rcases markupChar_cases c with ⟨hc, hamp, hlt, -⟩ | ⟨name, hc, hentity⟩
    · rw [hc, singleton_append, bodyCharsFrom, if_neg (by simpa using hlt), if_neg (by simpa using hamp)]
    · rw [hc, cons_append, bodyCharsFrom, if_neg (by decide), if_pos (by simp), entity?_append hentity]
      simp [bodyCharsFrom_eq name.length]

theorem bodyCharsFrom_tag (colour : LogColour) (hend : '>' ∉ inner) (rest : List Char) :
    bodyCharsFrom 0 colour ('<' :: (inner ++ '>' :: rest)) = bodyCharsFrom 0 (tagColour inner) rest := by
  rw [bodyCharsFrom, if_pos (by simp), takeWhile_ne_append hend]
  simp [bodyCharsFrom_eq (inner.length + 1)]

/-! ## Pieces -/

namespace ReportPiece

variable {piece : ReportPiece}

def chars : ReportPiece → List Char
  | .text chars => chars
  | .coloured _ chars => chars
  | .link _ chars => chars

def colour : ReportPiece → LogColour
  | .text _ => .normal
  | .coloured colour _ => colour
  | .link _ _ => .blue

def shown (piece : ReportPiece) : List (Char × LogColour) := piece.chars.map (·, piece.colour)

/-- The tags around a piece, without their brackets. -/
def tags? : ReportPiece → Option (List Char × List Char)
  | .text _ => none
  | .coloured colour _ => some ("span class=\"".toList ++ colour.name.toList ++ ['"'], "/span".toList)
  | .link address _ =>
    some ("a href=\"".toList ++ escapeMarkup address.toList ++ ['"'], "/a".toList)

/-- Whether coloured text has the colour of a severity. -/
def IsProper : ReportPiece → Prop
  | .coloured colour _ => colour ≠ .normal ∧ colour ≠ .blue
  | _ => True

theorem spanElement_eq (name content : List Char) :
    "<span class=\"".toList ++ name ++ "\">".toList ++ content ++ "</span>".toList =
      '<' :: ("span class=\"".toList ++ name ++ ['"'] ++ '>' :: (content ++ '<' :: ("/span".toList ++ ['>']))) := by
  have hopening : "<span class=\"".toList = '<' :: "span class=\"".toList := rfl
  have hquote : "\">".toList = ['"', '>'] := rfl
  have hclosing : "</span>".toList = '<' :: ("/span".toList ++ ['>']) := rfl
  rw [hopening, hquote, hclosing]
  simp only [cons_append, append_assoc, nil_append]

theorem linkElement_eq (value content : List Char) :
    "<a href=\"".toList ++ value ++ "\">".toList ++ content ++ "</a>".toList =
      '<' :: ("a href=\"".toList ++ value ++ ['"'] ++ '>' :: (content ++ '<' :: ("/a".toList ++ ['>']))) := by
  have hopening : "<a href=\"".toList = '<' :: "a href=\"".toList := rfl
  have hquote : "\">".toList = ['"', '>'] := rfl
  have hclosing : "</a>".toList = '<' :: ("/a".toList ++ ['>']) := rfl
  rw [hopening, hquote, hclosing]
  simp only [cons_append, append_assoc, nil_append]

theorem render_eq (piece : ReportPiece) : piece.render =
    match piece.tags? with
    | none => escapeMarkup piece.chars
    | some (opening, closing) =>
      '<' :: (opening ++ '>' :: (escapeMarkup piece.chars ++ '<' :: (closing ++ ['>']))) := by
  cases piece with
  | text content => rfl
  | coloured colour content => exact spanElement_eq _ _
  | link address content => exact linkElement_eq _ _

/-- The tags of a piece are not empty, and their brackets are not in them. -/
theorem of_tags?_eq_some {opening closing : List Char} (h : piece.tags? = some (opening, closing)) :
    opening ≠ [] ∧ '>' ∉ opening ∧ closing ≠ [] ∧ '>' ∉ closing := by
  cases piece with
  | text content => simp [tags?] at h
  | coloured colour content =>
    obtain ⟨rfl, rfl⟩ := h
    cases colour <;> decide
  | link address content =>
    obtain ⟨rfl, rfl⟩ := h
    have hescaped : '>' ∉ escapeMarkup address.toList := not_mem_escapeMarkup (by simp)
    simp [hescaped]

theorem withoutTags_render (piece : ReportPiece) (rest : List Char) :
    withoutTags (piece.render ++ rest) = escapeMarkup piece.chars ++ withoutTags rest := by
  have htext : '<' ∉ escapeMarkup piece.chars := not_mem_escapeMarkup (by simp)
  rw [render_eq]
  split
  · exact withoutTags_append htext rest
  · rename_i opening closing htags
    obtain ⟨hne, hend, hne', hend'⟩ := of_tags?_eq_some htags
    simp only [cons_append, append_assoc, nil_append]
    rw [withoutTags_tag hne hend, withoutTags_append htext, withoutTags_tag hne' hend']

theorem tagColour_link (value : List Char) : tagColour ("a href=\"".toList ++ value) = .blue := by
  have hspan : ∀ tag : List Char, tag.head? = some 's' → "a href=\"".toList ++ value ≠ tag := by
    rintro tag htag rfl
    simp at htag
  rw [tagColour, if_neg (hspan _ (by decide)), if_neg (hspan _ (by decide)), if_neg (hspan _ (by decide)),
    if_pos (by simp)]

theorem tagColour_tags (h : piece.IsProper) {opening closing : List Char}
    (htags : piece.tags? = some (opening, closing)) :
    tagColour opening = piece.colour ∧ tagColour closing = .normal := by
  cases piece with
  | text content => simp [tags?] at htags
  | coloured colour content =>
    simp only [tags?, Option.some.injEq, Prod.mk.injEq] at htags
    obtain ⟨rfl, rfl⟩ := htags
    cases colour with
    | normal => exact absurd rfl h.1
    | blue => exact absurd rfl h.2
    | red => exact ⟨(by decide : _ = LogColour.red), by decide⟩
    | orange => exact ⟨(by decide : _ = LogColour.orange), by decide⟩
    | green => exact ⟨(by decide : _ = LogColour.green), by decide⟩
  | link address content =>
    simp only [tags?, Option.some.injEq, Prod.mk.injEq] at htags
    obtain ⟨rfl, rfl⟩ := htags
    refine ⟨?_, by decide⟩
    rw [append_assoc]
    exact tagColour_link _

theorem bodyCharsFrom_render (h : piece.IsProper) (rest : List Char) :
    bodyCharsFrom 0 .normal (piece.render ++ rest) = piece.shown ++ bodyCharsFrom 0 .normal rest := by
  rw [render_eq, shown]
  split
  · rename_i htags
    have hcolour : piece.colour = .normal := by
      cases piece with
      | text content => rfl
      | coloured colour content => simp [tags?] at htags
      | link address content => simp [tags?] at htags
    rw [bodyCharsFrom_escapeMarkup, hcolour]
  · rename_i opening closing htags
    obtain ⟨-, hend, -, hend'⟩ := of_tags?_eq_some htags
    obtain ⟨hopening, hclosing⟩ := tagColour_tags h htags
    simp only [cons_append, append_assoc, nil_append]
    rw [bodyCharsFrom_tag _ hend, bodyCharsFrom_escapeMarkup, bodyCharsFrom_tag _ hend', hopening, hclosing]

end ReportPiece

/-- The text of pieces is read back from the document that they are part of. -/
theorem decodeEntities_withoutTags (pieces : List ReportPiece) :
    decodeEntities (withoutTags (pieces.flatMap render)) = pieces.flatMap chars := by
  have htext : withoutTags (pieces.flatMap render) = escapeMarkup (pieces.flatMap chars) := by
    induction pieces with
    | nil => rfl
    | cons piece pieces ih =>
      rw [flatMap_cons, withoutTags_render, ih]
      simp [escapeMarkup]
  have hread := decodeEntities_escapeMarkup (pieces.flatMap chars) []
  rw [htext]
  simpa [decodeEntities, decodeEntitiesFrom] using hread

/-- The characters and colours of pieces are read back from the document that they are part of. -/
theorem bodyChars_flatMap_render {pieces : List ReportPiece} (h : ∀ piece ∈ pieces, piece.IsProper) :
    bodyChars (pieces.flatMap render) = pieces.flatMap shown := by
  unfold bodyChars
  induction pieces with
  | nil => rfl
  | cons piece pieces ih =>
    rw [forall_mem_cons] at h
    rw [flatMap_cons, bodyCharsFrom_render h.1, ih h.2, flatMap_cons]

end Markup

open ReportReading Segment

/-! ## Text without white space -/

namespace Text

variable (text : List Char)

def solid : List Char := text.filter fun c => !isSpace c

@[simp] theorem solid_append (text more : List Char) : solid (text ++ more) = solid text ++ solid more := by
  simp [solid]

theorem solid_dropWhile : solid (text.dropWhile isSpace) = solid text := by
  have hfront : solid (text.takeWhile isSpace) = [] := by
    simpa [solid] using fun c hc => mem_takeWhile_imp hc
  have hsplit := congrArg solid (takeWhile_append_dropWhile (p := isSpace) (l := text))
  rwa [solid_append, hfront, nil_append] at hsplit

theorem solid_reverse : solid text.reverse = (solid text).reverse := by
  simp [solid]

/-- Trimming only drops white space. -/
@[simp] theorem solid_trim : solid (trim text) = solid text := by
  rw [trim, trimWhere, solid_reverse, solid_dropWhile, solid_reverse, solid_dropWhile, reverse_reverse]

@[simp] theorem solid_joinReturnFeed : solid (joinReturnFeed text) = solid text := by
  have hreturn : isSpace '\r' := by decide
  have hfeed : isSpace '\n' := by decide
  fun_induction joinReturnFeed text with
  | case1 => rfl
  | case2 rest ih => simpa [solid, hreturn, hfeed] using ih
  | case3 c rest _ ih =>
    simp only [solid, filter_cons] at ih ⊢
    rw [ih]

/-- Only white space gets lost between lines. -/
theorem solid_flatten_splitWhere {isBreak : Char → Bool} (h : ∀ c, isBreak c → isSpace c)
    (text : List Char) : solid (splitWhere isBreak text).flatten = solid text := by
  fun_induction splitWhere isBreak text with
  | case1 => rfl
  | case2 c rest hc ih => simpa [solid, h c hc] using ih
  | case3 c rest hc hnil ih => exact absurd hnil (splitWhere_ne_nil isBreak rest)
  | case4 c rest hc piece pieces hpieces ih =>
    rw [hpieces] at ih
    simp only [flatten_cons, cons_append, solid, filter_cons] at ih ⊢
    rw [ih]

end Text

open Text (solid solid_append)

/-! ## What a step does to a link -/

variable {reading : ReportReading} {shown : List Char}

namespace ReportReading

variable {topics : TopicTable} {piece : ReportPiece}

theorem severityColour?_ne {parameters : List Char} {colour : LogColour}
    (h : severityColour? parameters = some colour) : colour ≠ .blue ∧ colour ≠ .normal := by
  unfold severityColour? at h
  split at h
  · cases h
    decide
  split at h
  · cases h
    decide
  split at h
  · cases h
    decide
  · simp at h

/-- What a control sequence can do: a link goes on, a link ends and is written, or there was no link. -/
theorem control_cases (topics : TopicTable) (reading : ReportReading) (parameters : List Char) :
    (reading.colour = .blue ∧ (reading.control topics parameters).1.colour = .blue ∧
      (reading.control topics parameters).1.pending = reading.pending ∧
      (reading.control topics parameters).2 = []) ∨
    (reading.colour = .blue ∧ (reading.control topics parameters).1.colour ≠ .blue ∧
      (reading.control topics parameters).1.pending = [] ∧
      (reading.control topics parameters).2 = linkPieces topics reading.pending) ∨
    (reading.colour ≠ .blue ∧ (reading.pending = [] → (reading.control topics parameters).1.pending = []) ∧
      (reading.control topics parameters).2 = []) := by
  unfold control
  simp only []
  split
  · -- a zero ends every style
    by_cases hlink : reading.colour = .blue
    · exact .inr (.inl ⟨hlink, by simp, rfl, by simp [finish, hlink]⟩)
    · exact .inr (.inr ⟨hlink, fun _ => rfl, by simp [finish, hlink]⟩)
  · generalize hflagged : reading.withFlags (numbers parameters) = flagged
    have hcolour : flagged.colour = reading.colour := by rw [← hflagged]; rfl
    have hpending : flagged.pending = reading.pending := by rw [← hflagged]; rfl
    split
    · rename_i hstart
      have hlink : reading.colour ≠ .blue := by
        rw [← hcolour]
        rw [Bool.and_eq_true, decide_eq_true_eq] at hstart
        exact hstart.2
      exact .inr (.inr ⟨hlink, fun hempty => hpending.trans hempty, rfl⟩)
    · split
      · rename_i colour hseverity
        obtain ⟨hblue, -⟩ := severityColour?_ne hseverity
        by_cases hlink : reading.colour = .blue
        · exact .inr (.inl ⟨hlink, hblue, by simp [finish, hcolour, hlink], by
            simp [finish, hcolour, hlink, hpending]⟩)
        · exact .inr (.inr ⟨hlink, by simp [finish, hcolour, hlink, hpending], by simp [finish, hcolour, hlink]⟩)
      · by_cases hlink : reading.colour = .blue
        · split
          · exact .inl ⟨hlink, hcolour.trans hlink, hpending, rfl⟩
          · exact .inr (.inl ⟨hlink, by simp [finish, hcolour, hlink], by simp [finish, hcolour, hlink], by
              simp [finish, hcolour, hlink, hpending]⟩)
        · split
          · exact .inr (.inr ⟨hlink, fun hempty => hpending.trans hempty, rfl⟩)
          · exact .inr (.inr ⟨hlink, by simp [finish, hcolour, hlink, hpending], by
              simp [finish, hcolour, hlink]⟩)

/-- A link is written with all of its text but the white space at its ends. -/
theorem solid_linkPieces (topics : TopicTable) (pending : List Char) :
    solid ((linkPieces topics pending).flatMap ReportPiece.chars) = solid pending := by
  unfold linkPieces
  simp only []
  split
  · rename_i hblank
    rw [← Text.solid_trim pending, isEmpty_iff.1 hblank]
    rfl
  · simp [ReportPiece.chars]

theorem solid_linkLines (topics : TopicTable) (lines : List (List Char)) :
    solid ((linkLines topics lines).flatMap ReportPiece.chars) = solid lines.flatten := by
  have hfeed : solid ['\n'] = [] := by decide
  induction lines with
  | nil => rfl
  | cons line lines ih =>
    have hfront : linkLines topics (line :: lines) =
        linkPieces topics line ++ .text ['\n'] :: linkLines topics lines := by
      simp [linkLines]
    rw [hfront, flatMap_append, flatMap_cons, solid_append, solid_linkPieces, solid_append, ih]
    simp [ReportPiece.chars, hfeed]

/-- Reading text of a link stays in the link, and the text is written or held back. -/
theorem linkText_spec (topics : TopicTable) (reading : ReportReading) (text : List Char) :
    (reading.linkText topics text).1.colour = reading.colour ∧
      solid ((reading.linkText topics text).2.flatMap ReportPiece.chars) ++
          solid (reading.linkText topics text).1.pending =
        solid reading.pending ++ solid text := by
  have hfeed : ∀ c : Char, (c == '\n') → Text.isSpace c := by
    intro c hc
    rw [beq_iff_eq.1 hc]
    decide
  have hlines := Text.solid_flatten_splitWhere hfeed (Text.joinReturnFeed text)
  unfold linkText
  split
  · rename_i hnone
    exact absurd hnone (Text.splitWhere_ne_nil _ _)
  · rename_i first rest hsplit
    refine ⟨rfl, ?_⟩
    obtain ⟨finished, last, hlast⟩ : ∃ finished last, (reading.pending ++ first) :: rest = finished ++ [last] :=
      ⟨_, _, (dropLast_concat_getLast (cons_ne_nil _ _)).symm⟩
    rw [hsplit, Text.solid_joinReturnFeed] at hlines
    calc solid ((linkLines topics ((reading.pending ++ first) :: rest).dropLast).flatMap ReportPiece.chars) ++
          solid (((reading.pending ++ first) :: rest).getLast?.getD [])
        = solid finished.flatten ++ solid last := by simp [hlast, solid_linkLines]
      _ = solid ((reading.pending ++ first) :: rest).flatten := by simp [hlast]
      _ = solid reading.pending ++ solid text := by simp [← hlines]

/-! ## Colours of pieces -/

theorem isProper_of_mem_linkPieces {pending : List Char} (h : piece ∈ linkPieces topics pending) : piece.IsProper := by
  unfold linkPieces at h
  simp only [] at h
  split at h
  · simp at h
  · rw [mem_singleton.1 h]
    trivial

/-- A step writes coloured text in the colours of severities only. -/
theorem isProper_of_mem_step {segment : Segment} (h : piece ∈ (reading.step topics segment).2) : piece.IsProper := by
  cases segment with
  | control parameters =>
    simp only [step] at h
    rcases control_cases topics reading parameters with ⟨-, -, -, hpieces⟩ | ⟨-, -, -, hpieces⟩ | ⟨-, -, hpieces⟩
    · simp [hpieces] at h
    · exact isProper_of_mem_linkPieces (hpieces ▸ h)
    · simp [hpieces] at h
  | plain text =>
    simp only [step, plain] at h
    split at h
    · unfold linkText at h
      split at h
      · simp at h
      · obtain ⟨line, -, hline⟩ := mem_flatMap.1 h
        rcases mem_append.1 hline with hlink | hfeed
        · exact isProper_of_mem_linkPieces hlink
        · rw [mem_singleton.1 hfeed]
          trivial
    · rw [mem_singleton.1 h]
      trivial
    · rename_i hblue hnormal
      rw [mem_singleton.1 h]
      exact ⟨hnormal, hblue⟩

theorem isProper_of_mem_pieces {parts : List Segment} (h : piece ∈ reading.pieces topics parts) : piece.IsProper := by
  induction parts generalizing reading with
  | nil =>
    simp only [pieces, finish] at h
    split at h
    · exact isProper_of_mem_linkPieces h
    · simp at h
  | cons segment rest ih =>
    simp only [pieces] at h
    rcases mem_append.1 h with hstep | hrest
    · exact isProper_of_mem_step hstep
    · exact ih hrest

end ReportReading

/-! ## Chunks of a log -/

/-- A plain text of a log, and whether the report meets it inside of a link. -/
structure LogChunk where
  linked : Bool
  text : List Char
  deriving DecidableEq, Repr

/-- The plain texts among segments as a reader meets them. -/
def ReportReading.chunks (topics : TopicTable) : ReportReading → List Segment → List LogChunk
  | _, [] => []
  | reading, .control parameters :: rest => chunks topics (reading.control topics parameters).1 rest
  | reading, .plain text :: rest =>
    ⟨reading.colour = .blue, text⟩ :: chunks topics (reading.plain topics text).1 rest

/-- The plain texts of a log as its report meets them. -/
def Log.chunks (topics : TopicTable) (log : Log) : List LogChunk :=
  ReportReading.chunks topics {} (log.entries.flatMap fun entry => segments entry.toList)

/-- What a report may make of the texts of a log: a text outside of links is shown as it stands, and texts
of links are shown up to white space. -/
inductive Kept : List LogChunk → List Char → Prop
  | nil : Kept [] []
  | outside {chunks : List LogChunk} {shown : List Char} (text : List Char) :
    Kept chunks shown → Kept (⟨false, text⟩ :: chunks) (text ++ shown)
  | inside {chunks : List LogChunk} {shown : List Char} (texts : List (List Char)) (written : List Char) :
    texts ≠ [] → solid written = solid texts.flatten → Kept chunks shown →
      Kept (texts.map (⟨true, ·⟩) ++ chunks) (written ++ shown)

def ReportReading.shownText (topics : TopicTable) (reading : ReportReading) (parts : List Segment) : List Char :=
  (reading.pieces topics parts).flatMap ReportPiece.chars

namespace ReportReading

theorem shownText_cons (topics : TopicTable) (segment : Segment) (rest : List Segment) :
    reading.shownText topics (segment :: rest) =
      (reading.step topics segment).2.flatMap ReportPiece.chars ++
        (reading.step topics segment).1.shownText topics rest := by
  simp [shownText, pieces]

/-- Text outside of links is shown at once. -/
theorem plain_of_ne_blue (topics : TopicTable) (h : reading.colour ≠ .blue) (text : List Char) :
    (reading.plain topics text).1 = reading ∧ (reading.plain topics text).2.flatMap ReportPiece.chars = text := by
  unfold plain
  split
  · contradiction
  · simp [ReportPiece.chars]
  · simp [ReportPiece.chars]

theorem plain_of_blue (topics : TopicTable) (h : reading.colour = .blue) (text : List Char) :
    reading.plain topics text = reading.linkText topics text := by
  simp [plain, h]

end ReportReading

/-- What a reader owes: the texts of the open link that were met so far are `earlier`, and of them `written`
is in the report already while the rest is held back. Outside of links nothing is owed. -/
structure Owed (reading : ReportReading) (earlier : List (List Char)) (written : List Char) : Prop where
  solid_eq : solid written ++ solid reading.pending = solid earlier.flatten
  of_nil : earlier = [] → written = [] ∧ reading.pending = []
  of_ne_blue : reading.colour ≠ .blue → earlier = []

namespace Owed

variable {earlier : List (List Char)} {written : List Char}

/-- A reader that holds nothing back owes nothing. -/
theorem nothing (h : reading.pending = []) : Owed reading [] [] where
  solid_eq := by rw [h]; rfl
  of_nil _ := ⟨rfl, h⟩
  of_ne_blue _ := rfl

theorem linkText (topics : TopicTable) (h : Owed reading earlier written) (hlink : reading.colour = .blue)
    (text : List Char) :
    Owed (reading.linkText topics text).1 (earlier ++ [text])
      (written ++ (reading.linkText topics text).2.flatMap ReportPiece.chars) := by
  obtain ⟨hcolour, hsolid⟩ := linkText_spec topics reading text
  refine ⟨?_, by simp, fun hout => absurd (hcolour.trans hlink) hout⟩
  rw [solid_append, append_assoc, hsolid, ← append_assoc, h.solid_eq]
  simp

theorem kept_linkPieces (topics : TopicTable) (h : Owed reading earlier written) {chunks : List LogChunk}
    (hrest : Kept chunks shown) :
    Kept (earlier.map (⟨true, ·⟩) ++ chunks)
      (written ++ (linkPieces topics reading.pending).flatMap ReportPiece.chars ++ shown) := by
  by_cases hearlier : earlier = []
  · obtain ⟨hwritten, hpending⟩ := h.of_nil hearlier
    have hblank : linkPieces topics [] = [] := rfl
    simpa [hearlier, hwritten, hpending, hblank] using hrest
  · refine .inside earlier _ hearlier ?_ hrest
    rw [solid_append, solid_linkPieces, h.solid_eq]

end Owed

/-- Reading to the end keeps all texts. The induction is over the segments; inside of a link it carries what
is owed, since the text of a link is written at its end only. -/
theorem kept_shownText (topics : TopicTable) (parts : List Segment) {earlier : List (List Char)} {written : List Char}
    (howed : Owed reading earlier written) :
    Kept (earlier.map (⟨true, ·⟩) ++ reading.chunks topics parts)
      (written ++ reading.shownText topics parts) := by
  induction parts generalizing reading earlier written with
  | nil =>
    by_cases hlink : reading.colour = .blue
    · -- the end of the log ends a link that is left open
      simpa [chunks, shownText, pieces, finish, hlink] using howed.kept_linkPieces topics .nil
    · have hearlier := howed.of_ne_blue hlink
      simpa [chunks, shownText, pieces, finish, hlink, hearlier, howed.of_nil hearlier]
        using Kept.nil
  | cons segment rest ih =>
    rw [shownText_cons]
    cases segment with
    | control parameters =>
      simp only [chunks, step]
      rcases control_cases topics reading parameters with
        ⟨-, hcolour, hpending, hpieces⟩ | ⟨-, -, hpending, hpieces⟩ | ⟨hout, hpending, hpieces⟩
      · -- the link goes on
        rw [hpieces]
        refine ih ⟨hpending ▸ howed.solid_eq, hpending ▸ howed.of_nil, fun hout => absurd hcolour hout⟩
      · -- the link ends
        rw [hpieces, ← append_assoc]
        exact howed.kept_linkPieces topics (ih (.nothing hpending))
      · -- there is no link, though one may start here
        have hearlier := howed.of_ne_blue hout
        obtain ⟨hwritten, hempty⟩ := howed.of_nil hearlier
        simpa [hpieces, hearlier, hwritten] using ih (.nothing (hpending hempty))
    | plain text =>
      simp only [chunks, step]
      by_cases hlink : reading.colour = .blue
      · have hkept := ih (howed.linkText topics hlink text)
        simpa [plain_of_blue topics hlink, hlink] using hkept
      · have hearlier := howed.of_ne_blue hlink
        obtain ⟨hwritten, hempty⟩ := howed.of_nil hearlier
        obtain ⟨hnext, hshown⟩ := plain_of_ne_blue topics hlink text
        have hkept := Kept.outside text (ih (.nothing hempty))
        simpa [hnext, hshown, hlink, hearlier, hwritten] using hkept

/-- What is kept is the same text up to white space. -/
theorem Kept.solid_eq {chunks : List LogChunk} (h : Kept chunks shown) :
    solid shown = solid (chunks.flatMap LogChunk.text) := by
  induction h with
  | nil => rfl
  | outside text _ ih => simp [ih]
  | inside texts written _ hsolid _ ih =>
    rw [solid_append, hsolid, ih, flatMap_append, flatMap_map]
    simp [flatMap_id']

/-! ## Control sequences -/

/-- Taking control sequences out with `skip` characters of one still to be passed over. -/
def withoutControlsFrom : Nat → List Char → List Char
  | _, [] => []
  | skip + 1, _ :: rest => withoutControlsFrom skip rest
  | 0, c :: rest =>
    match controlAt? (c :: rest) with
    | some parameters => withoutControlsFrom (parameters.length + 2) rest
    | none => c :: withoutControlsFrom 0 rest

def withoutControls (text : List Char) : List Char := withoutControlsFrom 0 text

def Segment.plainText : Segment → List Char
  | .control _ => []
  | .plain text => text

theorem flatMap_plainText_segmentsFrom (skip : Nat) (text : List Char) :
    (segmentsFrom skip text).flatMap plainText = withoutControlsFrom skip text := by
  have hconsChar : ∀ c parts, (consChar c parts).flatMap plainText = c :: parts.flatMap plainText := by
    intro c parts
    unfold Segment.consChar
    split <;> simp [plainText]
  fun_induction segmentsFrom skip text with
  | case1 => simp [withoutControlsFrom]
  | case2 skip c rest ih => simpa [withoutControlsFrom] using ih
  | case3 c rest parameters h ih => simpa [withoutControlsFrom, h, plainText] using ih
  | case4 c rest h ih => simpa [withoutControlsFrom, h, hconsChar] using ih

theorem flatMap_text_chunks (topics : TopicTable) (parts : List Segment) (reading : ReportReading) :
    (reading.chunks topics parts).flatMap LogChunk.text = parts.flatMap plainText := by
  induction parts generalizing reading with
  | nil => rfl
  | cons segment rest ih =>
    cases segment <;> simp [chunks, plainText, ih]

/-- The texts that the report of a log meets are the log without its control sequences. -/
theorem Log.flatMap_text_chunks (topics : TopicTable) (log : Log) :
    (log.chunks topics).flatMap LogChunk.text = log.entries.flatMap fun entry => withoutControls entry.toList := by
  rw [chunks, StudioMigration.flatMap_text_chunks, flatMap_assoc]
  simp only [segments, flatMap_plainText_segmentsFrom, withoutControls]

/-- A report loses no text and invents none. Read without tags and entities, its body is the log without its
control sequences, up to white space; and text outside of links is there as it stands, in its place. -/
theorem report_keeps_text (topics : TopicTable) (log : Log) :
    Text.solid (decodeEntities (withoutTags (plainReportBody topics log))) =
        Text.solid (log.entries.flatMap fun entry => withoutControls entry.toList) ∧
      Kept (log.chunks topics) (decodeEntities (withoutTags (plainReportBody topics log))) := by
  have hkept : Kept (log.chunks topics) (decodeEntities (withoutTags (plainReportBody topics log))) := by
    rw [plainReportBody, decodeEntities_withoutTags]
    exact kept_shownText topics _ (.nothing rfl)
  refine ⟨?_, hkept⟩
  rw [hkept.solid_eq, Log.flatMap_text_chunks]

end StudioMigration
