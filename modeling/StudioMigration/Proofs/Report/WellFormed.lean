import StudioMigration.Proofs.Report.Body
import StudioMigration.Proofs.Text.Basic
import StudioMigration.Report.Document

/-!
# Well-formed report bodies

A report body is made of escaped text, of span elements and of links. `ReportMarkup` is the grammar of such
bodies. Icons are put in front of severity words when the body is finished, by replacing the words wherever
they stand, so that a word in the address of a link is replaced as well.

* `ReportMarkup.replaceAll` says that an icon keeps a body well formed if its word is in no attribute value.
* `broken_addSeverityIcons` says that a word inside of a tag breaks the body.
-/

namespace StudioMigration

open List ReportPiece

variable {icons : List (String × String)} {word icon value text tag : List Char} (topics : TopicTable)

/-! ## The grammar of report bodies -/

/-- The tags of the spans of a report, without their brackets: the severity colours, the icons and their
spoken labels. -/
def spanTags : List String :=
  ["span class=\"red\"", "span class=\"orange\"", "span class=\"green\"",
   "span class=\"sev sev-error\" role=\"img\" aria-label=\"Error\"",
   "span class=\"sev sev-error\" role=\"img\" aria-label=\"Mandatory\"",
   "span class=\"sev sev-warning\" role=\"img\" aria-label=\"Warning\"",
   "span class=\"sev sev-info\" role=\"img\" aria-label=\"Info\"",
   "span class=\"sr-only\""]

def element (opening closing content : List Char) : List Char :=
  '<' :: (opening ++ '>' :: (content ++ '<' :: (closing ++ ['>'])))

def linkTag (value : List Char) : List Char := "a href=\"".toList ++ value ++ ['"']

/-- Report bodies: escaped text, spans of the report and links, each complete, where the attribute values of
links are allowed. -/
inductive ReportMarkup (allowed : List Char → Prop) : List Char → Prop
  | nil : ReportMarkup allowed []
  | text {rest : List Char} (content : List Char) :
    ReportMarkup allowed rest → ReportMarkup allowed (escapeMarkup content ++ rest)
  | span {content rest : List Char} (tag : String) : tag ∈ spanTags → ReportMarkup allowed content →
    ReportMarkup allowed rest → ReportMarkup allowed (element tag.toList "/span".toList content ++ rest)
  | link {content rest : List Char} (value : List Char) : allowed value → ReportMarkup allowed content →
    ReportMarkup allowed rest → ReportMarkup allowed (element (linkTag value) "/a".toList content ++ rest)

/-- Whether a text can stand in quotes as the value of an attribute. -/
def IsQuotable (value : List Char) : Prop := '<' ∉ value ∧ '>' ∉ value ∧ '"' ∉ value

/-- Whether a body is well formed. -/
def IsReportMarkup (body : List Char) : Prop := ReportMarkup IsQuotable body

namespace ReportMarkup

variable {allowed : List Char → Prop} {body more : List Char}

theorem append (h : ReportMarkup allowed body) (hmore : ReportMarkup allowed more) :
    ReportMarkup allowed (body ++ more) := by
  induction h with
  | nil => exact hmore
  | text content _ ih => simpa only [append_assoc] using ih.text content
  | span tag htag hcontent _ _ ih => simpa only [append_assoc] using hcontent.span tag htag ih
  | link value hvalue hcontent _ _ ih => simpa only [append_assoc] using hcontent.link value hvalue ih

theorem mono {allowed' : List Char → Prop} (h : ReportMarkup allowed body)
    (hallowed : ∀ value, allowed value → allowed' value) : ReportMarkup allowed' body := by
  induction h with
  | nil => exact .nil
  | text content _ ih => exact ih.text content
  | span tag htag _ _ ihcontent ih => exact ihcontent.span tag htag ih
  | link value hvalue _ _ ihcontent ih => exact ihcontent.link value (hallowed value hvalue) ih

theorem ofText (content : List Char) : ReportMarkup allowed (escapeMarkup content) := by
  simpa using ReportMarkup.nil.text content

theorem ofSpan {tag : String} (htag : tag ∈ spanTags) (content : List Char) :
    ReportMarkup allowed (element tag.toList "/span".toList (escapeMarkup content)) := by
  simpa using (ofText content).span tag htag .nil

end ReportMarkup

/-! ## Severity words and their icons -/

/-- What the words that get an icon have in common: markup writes them as they are, and they start with a
bracket. The icon is two spans in front of the word. -/
structure IsIcon (word icon : List Char) : Prop where
  plain : ∀ c ∈ word, markupChar c = [c]
  bracket : ∃ letters, word = '[' :: letters
  spans : ∃ tag ∈ spanTags, ∃ sign label : String,
    icon = element tag.toList "/span".toList (escapeMarkup sign.toList) ++
      (element "span class=\"sr-only\"".toList "/span".toList (escapeMarkup label.toList) ++ escapeMarkup word)

theorem isIcon_of_mem {entry : String × String} (h : entry ∈ severityIcons) :
    IsIcon entry.1.toList entry.2.toList := by
  simp only [severityIcons, mem_cons, not_mem_nil, or_false] at h
  rcases h with rfl | rfl | rfl | rfl
  · exact ⟨by decide, ⟨_, rfl⟩, "span class=\"sev sev-error\" role=\"img\" aria-label=\"Error\"", by decide, "❗",
      "Error: ", by decide +kernel⟩
  · exact ⟨by decide, ⟨_, rfl⟩, "span class=\"sev sev-error\" role=\"img\" aria-label=\"Mandatory\"", by decide,
      "❗", "Mandatory: ", by decide +kernel⟩
  · exact ⟨by decide, ⟨_, rfl⟩, "span class=\"sev sev-warning\" role=\"img\" aria-label=\"Warning\"", by decide,
      "⚠️", "Warning: ", by decide +kernel⟩
  · exact ⟨by decide, ⟨_, rfl⟩, "span class=\"sev sev-info\" role=\"img\" aria-label=\"Info\"", by decide,
      "ℹ️", "Info: ", by decide +kernel⟩

namespace IsIcon

theorem word_ne_nil (h : IsIcon word icon) : word ≠ [] := by
  obtain ⟨letters, rfl⟩ := h.bracket
  simp

theorem not_mem_word (h : IsIcon word icon) {c : Char} (hc : markupChar c ≠ [c]) : c ∉ word :=
  fun hmem => hc (h.plain c hmem)

theorem markup (h : IsIcon word icon) (allowed : List Char → Prop) : ReportMarkup allowed icon := by
  obtain ⟨tag, htag, sign, label, rfl⟩ := h.spans
  exact (ReportMarkup.ofSpan htag _).append ((ReportMarkup.ofSpan (by decide) _).append (.ofText word))

theorem escapeMarkup_word (h : IsIcon word icon) : escapeMarkup word = word := by
  have hplain := h.plain
  clear h
  induction word with
  | nil => rfl
  | cons c word ih =>
    rw [forall_mem_cons] at hplain
    rw [escapeMarkup_cons, hplain.1, ih hplain.2, singleton_append]

end IsIcon

/-- A text of characters that markup writes as they are starts an escaped text only if it starts the text
itself: an entity starts with an ampersand, which is no such character. -/
theorem prefix_of_prefix_escapeMarkup (hplain : ∀ c ∈ word, markupChar c = [c]) (h : word <+: escapeMarkup text) :
    word <+: text := by
  induction text generalizing word with
  | nil => exact h
  | cons d text ih =>
    cases word with
    | nil => simp
    | cons c word =>
      rw [forall_mem_cons] at hplain
      rw [escapeMarkup_cons] at h
      rcases markupChar_eq d with hd | ⟨name, hd⟩
      · rw [hd, singleton_append, cons_prefix_cons] at h
        rw [cons_prefix_cons]
        exact ⟨h.1, ih hplain.2 h.2⟩
      · rw [hd, cons_append, cons_prefix_cons] at h
        obtain ⟨rfl, -⟩ := h
        exact absurd hplain.1 (by decide)

theorem bracket_not_mem_entity {c : Char} {name : List Char} (hc : markupChar c = '&' :: name)
    (h : (name, c) ∈ entities) : '[' ∉ markupChar c := by
  have hnone : ∀ entity ∈ entities, '[' ∉ '&' :: entity.1 := by decide
  rw [hc]
  exact hnone _ h

namespace IsIcon

variable {allowed : List Char → Prop}

/-- Icons keep escaped text well formed. The induction is along the occurrences of the word in the text as it
was before it was escaped. -/
theorem markup_replaceAll_text (h : IsIcon word icon) (content : List Char) :
    ReportMarkup allowed (Text.replaceAll word icon (escapeMarkup content)) := by
  induction content using Text.replaceInduction h.word_ne_nil with
  | nil => simpa [escapeMarkup, h.word_ne_nil] using ReportMarkup.nil
  | found content ih =>
    rw [escapeMarkup_append, h.escapeMarkup_word, Text.replaceAll_append h.word_ne_nil]
    exact (h.markup allowed).append ih
  | kept c content hnot ih =>
    have hkept : Text.replaceAll word icon (escapeMarkup (c :: content)) =
        markupChar c ++ Text.replaceAll word icon (escapeMarkup content) := by
      rcases markupChar_cases c with ⟨hc, -⟩ | ⟨name, hc, hentity⟩
      · rw [escapeMarkup_cons, hc]
        refine Text.replaceAll_cons h.word_ne_nil fun hfront => hnot ?_
        refine prefix_of_prefix_escapeMarkup h.plain ?_
        rwa [escapeMarkup_cons, hc]
      · -- no word starts within an entity
        obtain ⟨letters, hword⟩ := h.bracket
        rw [escapeMarkup_cons, Text.replaceAll_append_of_head hword (bracket_not_mem_entity hc hentity)]
    rw [hkept, ← append_nil (markupChar c)]
    exact ih.text [c]

/-- A tag without the word is kept, whatever is replaced around it. -/
theorem replaceAll_element (h : IsIcon word icon) {opening closing : List Char} (hopening : ¬word <:+: opening)
    (hclosing : ¬word <:+: closing) (front content rest : List Char) :
    Text.replaceAll word icon (front ++ (element opening closing content ++ rest)) =
      Text.replaceAll word icon front ++
        (element opening closing (Text.replaceAll word icon content) ++ Text.replaceAll word icon rest) := by
  have hne := h.word_ne_nil
  have hlt : '<' ∉ word := h.not_mem_word (by decide)
  have hgt : '>' ∉ word := h.not_mem_word (by decide)
  simp only [element, cons_append, append_assoc, nil_append]
  rw [Text.replaceAll_append_cons hne hlt, Text.replaceAll_append_cons hne hgt,
    Text.replaceAll_append_cons hne hlt, Text.replaceAll_append_cons hne hgt,
    Text.replaceAll_eq_self hne hopening, Text.replaceAll_eq_self hne hclosing]

theorem not_infix_of_bracket (h : IsIcon word icon) {text : List Char} (hbracket : '[' ∉ text) : ¬word <:+: text := by
  obtain ⟨letters, rfl⟩ := h.bracket
  exact fun hfound => hbracket (hfound.subset mem_cons_self)

end IsIcon

theorem bracket_not_mem_spanTag {tag : String} (h : tag ∈ spanTags) : '[' ∉ tag.toList := by
  revert tag
  decide

theorem linkTag_eq (value : List Char) : linkTag value = "a href=".toList ++ '"' :: (value ++ ['"']) := by
  have hquoted : ∀ name : List Char, name ++ ['"'] ++ value ++ ['"'] = name ++ '"' :: (value ++ ['"']) := by simp
  exact hquoted "a href=".toList

theorem infix_of_infix_linkTag (h : IsIcon word icon) (hfound : word <:+: linkTag value) : word <:+: value := by
  have hquote : '"' ∉ word := h.not_mem_word (by decide)
  rw [linkTag_eq] at hfound
  rcases Text.infix_of_infix_append_cons hquote hfound with hname | hrest
  · exact absurd hname (h.not_infix_of_bracket (by decide))
  · rcases Text.infix_of_infix_append_cons hquote hrest with hvalue | hnil
    · exact hvalue
    · exact absurd (infix_nil.1 hnil) h.word_ne_nil

/-- An icon keeps a body well formed if its word is in no attribute value. -/
theorem ReportMarkup.replaceAll {body : List Char} {allowed : List Char → Prop} (hicon : IsIcon word icon)
    (h : ReportMarkup allowed body) (hvalue : ∀ value, allowed value → ¬word <:+: value) :
    ReportMarkup allowed (Text.replaceAll word icon body) := by
  -- text that is still to be read goes in front, so that a word may begin in one text and end in the next
  suffices hfront : ∀ front, ReportMarkup allowed (Text.replaceAll word icon (escapeMarkup front ++ body)) by
    simpa [escapeMarkup] using hfront []
  induction h with
  | nil =>
    intro front
    simpa using hicon.markup_replaceAll_text front
  | text content _ ih =>
    intro front
    simpa [escapeMarkup] using ih (front ++ content)
  | span tag htag _ _ ihcontent ih =>
    intro front
    rw [hicon.replaceAll_element (hicon.not_infix_of_bracket (bracket_not_mem_spanTag htag))
      (hicon.not_infix_of_bracket (by decide))]
    exact (hicon.markup_replaceAll_text front).append
      (.span tag htag (by simpa [escapeMarkup] using ihcontent []) (by simpa [escapeMarkup] using ih []))
  | link value hallowed _ _ ihcontent ih =>
    intro front
    rw [hicon.replaceAll_element (fun hfound => hvalue value hallowed (infix_of_infix_linkTag hicon hfound))
      (hicon.not_infix_of_bracket (by decide))]
    exact (hicon.markup_replaceAll_text front).append
      (.link value hallowed (by simpa [escapeMarkup] using ihcontent []) (by simpa [escapeMarkup] using ih []))

/-! ## Words inside of tags -/

/-- Whether a tag is open behind a text; none if a tag opens inside of another one. -/
def tagOpen? : Bool → List Char → Option Bool
  | isOpen, [] => some isOpen
  | isOpen, c :: rest =>
    if c = '<' then if isOpen then none else tagOpen? true rest
    else if c = '>' then tagOpen? false rest
    else tagOpen? isOpen rest

theorem tagOpen?_append (isOpen : Bool) (text rest : List Char) :
    tagOpen? isOpen (text ++ rest) = (tagOpen? isOpen text).bind (tagOpen? · rest) := by
  induction text generalizing isOpen with
  | nil => rfl
  | cons c text ih =>
    simp only [cons_append, tagOpen?]
    split
    · split
      · rfl
      · exact ih true
    · split
      · exact ih false
      · exact ih isOpen

theorem tagOpen?_of_not_mem (hlt : '<' ∉ text) (hgt : '>' ∉ text) (isOpen : Bool) :
    tagOpen? isOpen text = some isOpen := by
  induction text with
  | nil => rfl
  | cons c text ih =>
    rw [mem_cons, not_or] at hlt hgt
    rw [tagOpen?, if_neg (Ne.symm hlt.1), if_neg (Ne.symm hgt.1), ih hlt.2 hgt.2]

theorem tagOpen?_element {opening closing content : List Char} (hopening : '<' ∉ opening ∧ '>' ∉ opening)
    (hclosing : '<' ∉ closing ∧ '>' ∉ closing) (hcontent : tagOpen? false content = some false) :
    tagOpen? false (element opening closing content) = some false := by
  simp [element, tagOpen?, tagOpen?_append, tagOpen?_of_not_mem hopening.1 hopening.2,
    tagOpen?_of_not_mem hclosing.1 hclosing.2, hcontent]

theorem brackets_not_mem_linkTag (h : IsQuotable value) : '<' ∉ linkTag value ∧ '>' ∉ linkTag value := by
  simp only [linkTag_eq, mem_append, mem_cons, not_or]
  exact ⟨⟨by decide, by decide, h.1, by decide⟩, ⟨by decide, by decide, h.2.1, by decide⟩⟩

/-- In a well-formed body no tag opens inside of another one. -/
theorem tagOpen?_of_isReportMarkup {body : List Char} (h : IsReportMarkup body) :
    tagOpen? false body = some false := by
  induction h with
  | nil => rfl
  | text content _ ih =>
    rw [tagOpen?_append, tagOpen?_of_not_mem (not_mem_escapeMarkup (by simp)) (not_mem_escapeMarkup (by simp))]
    exact ih
  | span tag htag _ _ ihcontent ih =>
    have hbrackets : ∀ tag ∈ spanTags, '<' ∉ tag.toList ∧ '>' ∉ tag.toList := by decide
    rw [tagOpen?_append, tagOpen?_element (hbrackets tag htag) (by decide) ihcontent]
    exact ih
  | link value hvalue _ _ ihcontent ih =>
    rw [tagOpen?_append, tagOpen?_element (brackets_not_mem_linkTag hvalue) (by decide) ihcontent]
    exact ih

/-- Whether a tag opens inside of another one. -/
def IsBroken (body : List Char) : Prop :=
  ∃ front tag rest, body = front ++ '<' :: (tag ++ '<' :: rest) ∧ '>' ∉ tag

/-- Whether a word stands inside of a tag. -/
def IsExposed (word body : List Char) : Prop :=
  ∃ front tag rest, body = front ++ '<' :: (tag ++ '>' :: rest) ∧ '>' ∉ tag ∧ word <:+: tag

theorem tagOpen?_true_append (h : '>' ∉ tag) (rest : List Char) : tagOpen? true (tag ++ '<' :: rest) = none := by
  induction tag with
  | nil => simp [tagOpen?]
  | cons c tag ih =>
    rw [mem_cons, not_or] at h
    rw [cons_append, tagOpen?, ih h.2, if_neg (Ne.symm h.1)]
    simp

theorem IsBroken.not_isReportMarkup {body : List Char} (h : IsBroken body) : ¬IsReportMarkup body := by
  intro hmarkup
  obtain ⟨front, tag, rest, rfl, htag⟩ := h
  have hopen := tagOpen?_of_isReportMarkup hmarkup
  rw [tagOpen?_append] at hopen
  obtain ⟨isOpen, -, hrest⟩ := Option.bind_eq_some_iff.1 hopen
  rw [tagOpen?, tagOpen?_true_append htag] at hrest
  simp at hrest

/-- Where a word stands inside of a tag, its icon opens a tag before that tag is closed. -/
theorem IsIcon.replaceAll_opens_tag (h : IsIcon word icon) (htag : '>' ∉ tag) (hfound : word <:+: tag) :
    ∃ front rest, Text.replaceAll word icon tag = front ++ '<' :: rest ∧ '>' ∉ front := by
  induction tag using Text.replaceInduction h.word_ne_nil with
  | nil => exact absurd (infix_nil.1 hfound) h.word_ne_nil
  | found tag _ =>
    obtain ⟨spanTag, -, sign, label, rfl⟩ := h.spans
    rw [Text.replaceAll_append h.word_ne_nil]
    exact ⟨[], _, rfl, by simp⟩
  | kept c tag hnot ih =>
    rw [mem_cons, not_or] at htag
    obtain ⟨front, rest, hrest, hfront⟩ := ih htag.2 ((infix_cons_iff.1 hfound).resolve_left hnot)
    refine ⟨c :: front, rest, ?_, by simpa using ⟨htag.1, hfront⟩⟩
    rw [Text.replaceAll_cons h.word_ne_nil hnot, hrest, cons_append]

/-- An icon mends nothing. -/
theorem IsBroken.replaceAll {body : List Char} (hicon : IsIcon word icon) (h : IsBroken body) :
    IsBroken (Text.replaceAll word icon body) := by
  obtain ⟨front, tag, rest, rfl, htag⟩ := h
  have hlt : '<' ∉ word := hicon.not_mem_word (by decide)
  rw [Text.replaceAll_append_cons hicon.word_ne_nil hlt, Text.replaceAll_append_cons hicon.word_ne_nil hlt]
  by_cases hfound : word <:+: tag
  · obtain ⟨before, after, hsplit, hbefore⟩ := hicon.replaceAll_opens_tag htag hfound
    rw [hsplit]
    exact ⟨Text.replaceAll word icon front, before, after ++ '<' :: Text.replaceAll word icon rest, by simp, hbefore⟩
  · rw [Text.replaceAll_eq_self hicon.word_ne_nil hfound]
    exact ⟨_, tag, _, rfl, htag⟩

/-- An icon breaks a body whose tags have its word, and otherwise leaves the tags alone. -/
theorem IsExposed.replaceAll {exposed body : List Char} (hicon : IsIcon word icon) (h : IsExposed exposed body) :
    IsBroken (Text.replaceAll word icon body) ∨
      word ≠ exposed ∧ IsExposed exposed (Text.replaceAll word icon body) := by
  obtain ⟨front, tag, rest, rfl, htag, hexposed⟩ := h
  have hlt : '<' ∉ word := hicon.not_mem_word (by decide)
  have hgt : '>' ∉ word := hicon.not_mem_word (by decide)
  rw [Text.replaceAll_append_cons hicon.word_ne_nil hlt, Text.replaceAll_append_cons hicon.word_ne_nil hgt]
  by_cases hfound : word <:+: tag
  · obtain ⟨before, after, hsplit, hbefore⟩ := hicon.replaceAll_opens_tag htag hfound
    rw [hsplit]
    exact .inl ⟨Text.replaceAll word icon front, before, after ++ '>' :: Text.replaceAll word icon rest, by simp, hbefore⟩
  · rw [Text.replaceAll_eq_self hicon.word_ne_nil hfound]
    exact .inr ⟨fun heq => hfound (heq ▸ hexposed), _, tag, _, rfl, htag, hexposed⟩

/-- The icons of a list, one after another, mend nothing. -/
theorem IsBroken.foldl (hicons : ∀ entry ∈ icons, IsIcon entry.1.toList entry.2.toList) {body : List Char}
    (h : IsBroken body) :
    IsBroken (icons.foldl (fun text entry => Text.replaceAll entry.1.toList entry.2.toList text) body) := by
  induction icons generalizing body with
  | nil => exact h
  | cons entry icons ih =>
    rw [forall_mem_cons] at hicons
    exact ih hicons.2 (h.replaceAll hicons.1)

/-- A word inside of a tag breaks the body when its icon comes, if not before. -/
theorem IsExposed.foldl (hicons : ∀ entry ∈ icons, IsIcon entry.1.toList entry.2.toList) {word : String}
    (hword : word ∈ icons.map Prod.fst) {body : List Char} (h : IsExposed word.toList body) :
    IsBroken (icons.foldl (fun text entry => Text.replaceAll entry.1.toList entry.2.toList text) body) := by
  induction icons generalizing body with
  | nil => simp at hword
  | cons entry icons ih =>
    rw [forall_mem_cons] at hicons
    rcases h.replaceAll hicons.1 with hbroken | ⟨hne, hexposed⟩
    · exact hbroken.foldl hicons.2
    · refine ih hicons.2 ?_ hexposed
      rw [map_cons, mem_cons] at hword
      exact hword.resolve_left fun heq => hne (congrArg String.toList heq.symm)

/-- The icons of a list keep a body well formed if their words are in no attribute value. -/
theorem ReportMarkup.foldl (hicons : ∀ entry ∈ icons, IsIcon entry.1.toList entry.2.toList)
    {allowed : List Char → Prop} (hvalue : ∀ value, allowed value → ∀ entry ∈ icons, ¬entry.1.toList <:+: value)
    {body : List Char} (h : ReportMarkup allowed body) :
    ReportMarkup allowed
      (icons.foldl (fun text entry => Text.replaceAll entry.1.toList entry.2.toList text) body) := by
  induction icons generalizing body with
  | nil => exact h
  | cons entry icons ih =>
    rw [forall_mem_cons] at hicons
    refine ih hicons.2 (fun value hallowed other hother => ?_) ?_
    · exact hvalue value hallowed other (mem_cons_of_mem _ hother)
    · exact h.replaceAll hicons.1 fun value hallowed => hvalue value hallowed entry mem_cons_self

/-! ## Report bodies -/

def ReportPiece.address? : ReportPiece → Option String
  | .link address _ => some address
  | _ => none

def Log.linkAddresses (log : Log) : List String :=
  (reportPieces topics log).filterMap address?

theorem render_link (address : String) (content : List Char) : (link address content).render =
    element (linkTag (escapeMarkup address.toList)) "/a".toList (escapeMarkup content) :=
  linkElement_eq _ _

/-- Before icons are added, a piece is well formed, with its address as the only attribute value. -/
theorem reportMarkup_render {piece : ReportPiece} (h : piece.IsProper) :
    ReportMarkup (fun value => ∃ address, piece.address? = some address ∧ value = escapeMarkup address.toList)
      piece.render := by
  cases piece with
  | text content => exact .ofText content
  | coloured colour content =>
    obtain ⟨tag, htag, heq⟩ :
        ∃ tag ∈ spanTags, "span class=\"".toList ++ colour.name.toList ++ ['"'] = tag.toList := by
      cases colour with
      | normal => exact absurd rfl h.1
      | blue => exact absurd rfl h.2
      | red => exact ⟨"span class=\"red\"", by decide, by decide⟩
      | orange => exact ⟨"span class=\"orange\"", by decide, by decide⟩
      | green => exact ⟨"span class=\"green\"", by decide, by decide⟩
    have hrender : (coloured colour content).render = element tag.toList "/span".toList (escapeMarkup content) := by
      rw [← heq]
      exact spanElement_eq _ _
    rw [hrender]
    exact .ofSpan htag content
  | link address content =>
    rw [render_link, ← append_nil (element _ _ _)]
    exact .link _ ⟨address, rfl, rfl⟩ (.ofText content) .nil

/-- Before icons are added, the body of a report is well formed, and the values of its attributes are the
addresses of its links. -/
theorem reportMarkup_plainReportBody (log : Log) :
    ReportMarkup (fun value => ∃ address ∈ log.linkAddresses topics, value = escapeMarkup address.toList)
      (plainReportBody topics log) := by
  have hproper : ∀ piece ∈ reportPieces topics log, piece.IsProper := fun piece =>
    ReportReading.isProper_of_mem_pieces
  unfold plainReportBody Log.linkAddresses
  generalize reportPieces topics log = pieces at hproper
  induction pieces with
  | nil => exact .nil
  | cons piece pieces ih =>
    rw [forall_mem_cons] at hproper
    refine ((reportMarkup_render hproper.1).mono ?_).append ((ih hproper.2).mono ?_)
    · rintro value ⟨address, haddress, rfl⟩
      exact ⟨address, mem_filterMap.2 ⟨piece, mem_cons_self, haddress⟩, rfl⟩
    · rintro value ⟨address, hmem, rfl⟩
      obtain ⟨other, hother, haddress⟩ := mem_filterMap.1 hmem
      exact ⟨address, mem_filterMap.2 ⟨other, mem_cons_of_mem _ hother, haddress⟩, rfl⟩

theorem isQuotable_escapeMarkup (text : List Char) : IsQuotable (escapeMarkup text) :=
  ⟨not_mem_escapeMarkup (by simp), not_mem_escapeMarkup (by simp), not_mem_escapeMarkup (by simp)⟩

theorem IsIcon.infix_escapeMarkup_iff (h : IsIcon word icon) (text : List Char) :
    word <:+: escapeMarkup text ↔ word <:+: text := by
  constructor
  · intro hfound
    induction text with
    | nil => exact hfound
    | cons c text ih =>
      rw [escapeMarkup_cons] at hfound
      rcases markupChar_cases c with ⟨hc, -⟩ | ⟨name, hc, hentity⟩
      · rw [hc, singleton_append, infix_cons_iff] at hfound
        rcases hfound with hfront | hrest
        · refine (prefix_of_prefix_escapeMarkup h.plain ?_).isInfix
          rwa [escapeMarkup_cons, hc]
        · exact infix_cons (ih hrest)
      · obtain ⟨letters, hword⟩ := h.bracket
        exact infix_cons (ih (Text.infix_of_infix_append_of_head hword (bracket_not_mem_entity hc hentity) hfound))
  · rintro ⟨front, rest, rfl⟩
    refine ⟨escapeMarkup front, escapeMarkup rest, ?_⟩
    rw [escapeMarkup_append, escapeMarkup_append, h.escapeMarkup_word]

/-- A word in the address of a link stands inside of a tag. -/
theorem isExposed_plainReportBody {topics : TopicTable} {log : Log} {address : String} (hicon : IsIcon word icon)
    (hmem : address ∈ log.linkAddresses topics) (hword : word <:+: address.toList) :
    IsExposed word (plainReportBody topics log) := by
  obtain ⟨piece, hpiece, haddress⟩ := mem_filterMap.1 hmem
  obtain ⟨before, after, hpieces⟩ := mem_iff_append.1 hpiece
  cases piece with
  | text content => simp [address?] at haddress
  | coloured colour content => simp [address?] at haddress
  | link target content =>
    obtain rfl : target = address := by simpa [address?] using haddress
    have hvalue := isQuotable_escapeMarkup target.toList
    have htag : word <:+: linkTag (escapeMarkup target.toList) :=
      ((hicon.infix_escapeMarkup_iff _).2 hword).trans ⟨_, _, rfl⟩
    have hbody : plainReportBody topics log = before.flatMap render ++
        '<' :: (linkTag (escapeMarkup target.toList) ++ '>' :: (escapeMarkup content ++
          '<' :: ("/a".toList ++ '>' :: after.flatMap render))) := by
      rw [plainReportBody, hpieces, flatMap_append, flatMap_cons, render_link, element]
      simp only [cons_append, append_assoc, nil_append]
    exact ⟨_, _, _, hbody, (brackets_not_mem_linkTag hvalue).2, htag⟩

theorem reportBody_eq (log : Log) :
    reportBody topics log = severityIcons.foldl
      (fun text entry => Text.replaceAll entry.1.toList entry.2.toList text) (plainReportBody topics log) := rfl

/-- The log body of a report document is well formed exactly if no link leads to an address with a severity
word in it: only there an icon gets into the value of an attribute. Before icons are added, it always is. -/
theorem report_markup_iff (topics : TopicTable) (log : Log) (moment : Moment) (project version : String) :
    (∃ head, report topics log moment project version =
      reportDocument (head ++ logFrame (String.ofList (reportBody topics log)))) ∧
    IsReportMarkup (plainReportBody topics log) ∧
    (IsReportMarkup (reportBody topics log) ↔
      ∀ address ∈ log.linkAddresses topics, ∀ entry ∈ severityIcons, ¬entry.1.toList <:+: address.toList) := by
  have hplain := reportMarkup_plainReportBody topics log
  refine ⟨?_, hplain.mono ?_, ?_, ?_⟩
  · by_cases hempty : log.entries = []
    · have hbody : reportBody topics log = [] := by
        obtain ⟨entries⟩ := log
        subst hempty
        exact (by decide +kernel : addSeverityIcons [] = [])
      exact ⟨"", by simp [report, hempty, hbody]⟩
    · exact ⟨reportHeader log.counts moment project version, by simp [report, hempty]⟩
  · rintro value ⟨address, -, rfl⟩
    exact isQuotable_escapeMarkup _
  · intro hmarkup address haddress entry hentry hfound
    have hicon := isIcon_of_mem hentry
    have hexposed := isExposed_plainReportBody hicon haddress hfound
    have hword : entry.1 ∈ severityIcons.map Prod.fst := List.mem_map_of_mem hentry
    rw [reportBody_eq] at hmarkup
    exact (hexposed.foldl (fun other => isIcon_of_mem) hword).not_isReportMarkup hmarkup
  · intro hclean
    rw [reportBody_eq]
    refine (hplain.foldl (fun other => isIcon_of_mem) ?_).mono ?_
    · rintro value ⟨address, haddress, rfl⟩ entry hentry hfound
      exact hclean address haddress entry hentry (((isIcon_of_mem hentry).infix_escapeMarkup_iff _).1 hfound)
    · rintro value ⟨address, -, rfl⟩
      exact isQuotable_escapeMarkup _

/-- A link that leads to an address with a severity word in it breaks the body. -/
theorem not_isReportMarkup_of_error_address :
    ¬IsReportMarkup (reportBody helpTopics ⟨["\x1b[4;94mhttp://x.yz/[ERROR]\x1b[0m"]⟩) := by
  intro h
  have hopen := tagOpen?_of_isReportMarkup h
  revert hopen
  decide +kernel

end StudioMigration
