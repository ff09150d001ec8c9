import StudioMigration.Launcher.Window
import StudioMigration.Proofs.Journal.Address
import StudioMigration.Proofs.Report.Body
import StudioMigration.Proofs.Session

/-!
# The window and the report agree

A log is shown in two places. The window starts every text of the log anew and knows five styles. The report
goes on from one text to the next, keeps flags, holds the text of links back and trims it. On what notes can
write, both show the same characters in the same colours.

* `reportChars_segments_renderMarks` ties the two readers together along the marks of a message: the report
  stands where the automaton stands, and what it holds back is what the window has shown already.
* `ShownAlike` texts can be put one behind the other; `reportChars_entries` is the run over a whole log.
-/

namespace StudioMigration

open List ReportReading ReportPiece
open Text (isSpace)

variable {c : Char} {parameters pending : List Char} {state next : LinkState} {reading : ReportReading}
  {topics : TopicTable} {ending : LinkEnd}

/-! ## Taking apart what was put together -/

theorem segmentsFrom_eq (skip : Nat) (text : List Char) : segmentsFrom skip text = segments (text.drop skip) := by
  induction skip generalizing text with
  | zero => rfl
  | succ skip ih =>
    cases text with
    | nil => simp [segmentsFrom, segments]
    | cons c text => simpa [segmentsFrom] using ih text

theorem controlAt?_cons_of_ne (hc : c ≠ escapeChar) (rest : List Char) : controlAt? (c :: rest) = none := by
  unfold controlAt?
  split
  · rename_i first second tail heq
    cases heq
    simp [hc]
  · rfl

theorem controlAt?_controlSequence (h : ∀ c ∈ parameters, isParameterChar c) (rest : List Char) :
    controlAt? (controlSequence parameters ++ rest) = some parameters := by
  have htake : (parameters ++ 'm' :: rest).takeWhile isParameterChar = parameters := by
    rw [takeWhile_append_of_pos h, takeWhile_cons, if_neg (by decide), append_nil]
  simp [controlAt?, controlSequence, htake]

theorem segments_cons (hc : c ≠ escapeChar) (rest : List Char) :
    segments (c :: rest) = Segment.consChar c (segments rest) := by
  simp [segments, segmentsFrom, controlAt?_cons_of_ne hc]

theorem segments_controlSequence (h : ∀ c ∈ parameters, isParameterChar c) (rest : List Char) :
    segments (controlSequence parameters ++ rest) = .control parameters :: segments rest := by
  have hcontrol := controlAt?_controlSequence h rest
  have hsplit : controlSequence parameters ++ rest = escapeChar :: ('[' :: parameters ++ ['m'] ++ rest) := by
    simp [controlSequence]
  have hdrop : ('[' :: parameters ++ ['m'] ++ rest).drop (parameters.length + 2) = rest := drop_left' (by simp)
  rw [hsplit] at hcontrol ⊢
  rw [segments, segmentsFrom, hcontrol]
  simp only [segmentsFrom_eq, hdrop]

theorem segments_append_controlSequence {text : List Char} (hclean : escapeChar ∉ text) (hne : text ≠ [])
    (h : ∀ c ∈ parameters, isParameterChar c) (rest : List Char) :
    segments (text ++ (controlSequence parameters ++ rest)) = .plain text :: .control parameters :: segments rest := by
  induction text with
  | nil => exact absurd rfl hne
  | cons c text ih =>
    rw [mem_cons, not_or] at hclean
    rw [cons_append, segments_cons (Ne.symm hclean.1)]
    cases text with
    | nil =>
      rw [nil_append, segments_controlSequence h]
      rfl
    | cons d text =>
      rw [ih hclean.2 (cons_ne_nil d text)]
      rfl

theorem segments_link (rest : List Char) :
    segments (Style.link.toList ++ rest) = .control "4;94".toList :: segments rest := by
  have hstyle : Style.link.toList = controlSequence "4;94".toList := by decide
  rw [hstyle]
  exact segments_controlSequence (by decide) rest

theorem segments_reset (rest : List Char) :
    segments (Style.reset.toList ++ rest) = .control "0".toList :: segments rest := by
  have hstyle : Style.reset.toList = controlSequence "0".toList := by decide
  rw [hstyle]
  exact segments_controlSequence (by decide) rest

/-! ## What the window shows -/

def ColourRun.shown (run : ColourRun) : List (Char × LogColour) := run.text.map (·, run.colour)

def Log.shownChars (log : Log) : List (Char × LogColour) := log.runs.flatMap ColourRun.shown

/-- The characters that a window shows of segments that follow a change to `colour`. -/
def windowChars (colour : LogColour) (parts : List Segment) : List (Char × LogColour) :=
  (colourRuns colour parts).flatMap ColourRun.shown

@[simp] theorem windowChars_nil (colour : LogColour) : windowChars colour [] = [] := rfl

theorem windowChars_consChar (colour : LogColour) (c : Char) (parts : List Segment) :
    windowChars colour (Segment.consChar c parts) = (c, colour) :: windowChars colour parts := by
  unfold Segment.consChar
  split <;> simp [windowChars, colourRuns, ColourRun.shown]

theorem windowChars_control {next : LogColour} (h : shownColour? parameters = some next) (colour : LogColour)
    (parts : List Segment) : windowChars colour (.control parameters :: parts) = windowChars next parts := by
  simp [windowChars, colourRuns, h]

/-! ## What the report shows -/

def reportChars (topics : TopicTable) (reading : ReportReading) (parts : List Segment) : List (Char × LogColour) :=
  (reading.pieces topics parts).flatMap shown

section Report

variable (topics : TopicTable)

theorem reportChars_cons (segment : Segment) (parts : List Segment) :
    reportChars topics reading (segment :: parts) =
      (reading.step topics segment).2.flatMap shown ++
        reportChars topics (reading.step topics segment).1 parts := by
  simp [reportChars, pieces]

/-- Outside of links a report makes something of every character by itself, whatever it makes of coloured text and of
links. -/
theorem flatMap_pieces_consChar {α : Type} {form : ReportPiece → List α} {write : Char → List α}
    (hform : ∀ text, form (.text text) = text.flatMap write) (c : Char) (parts later : List Segment) :
    (pieces topics {} (Segment.consChar c parts ++ later)).flatMap form =
      write c ++ (pieces topics {} (parts ++ later)).flatMap form := by
  unfold Segment.consChar
  split <;> simp [pieces, step, plain, hform]

theorem flatMap_pieces_append {α : Type} {form : ReportPiece → List α} {write : Char → List α}
    (hform : ∀ text, form (.text text) = text.flatMap write) {text : List Char} (hclean : escapeChar ∉ text)
    (rest : List Char) (later : List Segment) :
    (pieces topics {} (segments (text ++ rest) ++ later)).flatMap form =
      text.flatMap write ++ (pieces topics {} (segments rest ++ later)).flatMap form := by
  induction text with
  | nil => rfl
  | cons c text ih =>
    rw [mem_cons, not_or] at hclean
    rw [cons_append, segments_cons (Ne.symm hclean.1), flatMap_pieces_consChar topics hform, ih hclean.2, flatMap_cons,
      append_assoc]

theorem shown_text (text : List Char) : (ReportPiece.text text).shown = text.flatMap fun c => [(c, .normal)] :=
  map_eq_flatMap

@[simp] theorem linkText_nil : reading.linkText topics [] = (reading, []) := by
  simp [linkText, Text.joinReturnFeed, Text.splitWhere, linkLines]

theorem linkText_cons (hfeed : c ≠ '\n') (hreturn : c ≠ '\r') (text : List Char) :
    reading.linkText topics (c :: text) =
      ({ reading with pending := reading.pending ++ [c] } : ReportReading).linkText topics text := by
  have hjoin : Text.joinReturnFeed (c :: text) = c :: Text.joinReturnFeed text := by
    rw [Text.joinReturnFeed]
    exact fun rest heq => absurd heq hreturn
  obtain ⟨first, rest, hlines⟩ := exists_cons_of_ne_nil
    (Text.splitWhere_ne_nil (· == '\n') (Text.joinReturnFeed text))
  simp [linkText, hjoin, Text.splitWhere, hfeed, hlines]

theorem pieces_consChar_link (h : reading.colour = .blue) (hfeed : c ≠ '\n') (hreturn : c ≠ '\r')
    (parts later : List Segment) :
    reading.pieces topics (Segment.consChar c parts ++ later) =
      ({ reading with pending := reading.pending ++ [c] } : ReportReading).pieces topics (parts ++ later) := by
  obtain ⟨colour, underlined, blue, pending⟩ := reading
  subst h
  have hplain : ∀ text rest, ReportReading.pieces topics ⟨.blue, underlined, blue, pending⟩ (.plain (c :: text) :: rest) =
      ReportReading.pieces topics ⟨.blue, underlined, blue, pending ++ [c]⟩ (.plain text :: rest) := by
    intro text rest
    simp only [pieces, step, plain]
    rw [linkText_cons topics hfeed hreturn]
  unfold Segment.consChar
  split
  · exact hplain _ _
  · rw [cons_append, hplain]
    simp [pieces, step, plain]

end Report

/-! ## Messages -/

/-- The colour in which a reader of marks shows text. -/
def LinkState.colour : LinkState → LogColour
  | .outside => .normal
  | .inside _ _ => .blue

/-- Whether the text that a report holds back ends as the automaton says. -/
def LinkEnd.Describes : LinkEnd → List Char → Prop
  | .empty, pending => pending = []
  | .solid, pending => pending.head?.any (!isSpace ·) ∧ pending.getLast?.any (!isSpace ·)
  | .blank, pending => pending.head?.any (!isSpace ·)

/-- Where the reader of a report stands when the automaton is in a state. -/
inductive LinkState.Describes : LinkState → ReportReading → Prop
  | outside : Describes .outside {}
  | inside {ending : LinkEnd} {pending : List Char} (fresh : Bool) :
    ending.Describes pending → Describes (.inside ending fresh) ⟨.blue, true, true, pending⟩

theorem linkPieces_shown (topics : TopicTable) (hending : ending ≠ .blank) (h : ending.Describes pending) :
    (ReportReading.linkPieces topics pending).flatMap ReportPiece.shown = pending.map (·, .blue) := by
  cases ending with
  | empty =>
    rw [h]
    rfl
  | blank => exact absurd rfl hending
  | solid =>
    have hne : pending ≠ [] := by
      rintro rfl
      exact absurd h.1 (by simp)
    simp [ReportReading.linkPieces, Text.trim_eq_self h.1 h.2, hne, ReportPiece.shown, ReportPiece.chars,
      ReportPiece.colour]

/-- A character in a link: what is held back goes on to be described by the automaton. -/
theorem LinkEnd.Describes.step (h : ending.Describes pending) {fresh : Bool}
    (hstep : LinkState.step (.inside ending fresh) (.char c) = some next) :
    c ≠ '\n' ∧ c ≠ '\r' ∧ ∃ ending', next = .inside ending' false ∧ ending'.Describes (pending ++ [c]) := by
  have hhead : pending.head?.any (!isSpace ·) → (pending ++ [c]).head?.any (!isSpace ·) := by
    cases pending with
    | nil => simp
    | cons d rest => simp
  simp only [LinkState.step] at hstep
  split at hstep
  · -- white space is allowed inside of a link only
    split at hstep
    · simp at hstep
    · rename_i hallowed
      simp only [Bool.or_eq_true, beq_iff_eq, not_or] at hallowed
      refine ⟨hallowed.1.2, hallowed.2, .blank, by simpa using hstep.symm, ?_⟩
      cases ending with
      | empty => exact absurd rfl hallowed.1.1.2
      | solid => exact hhead h.1
      | blank => exact hhead h
  · rename_i hc
    have hblank : isSpace '\n' ∧ isSpace '\r' := by decide
    refine ⟨fun heq => hc (heq ▸ hblank.1), fun heq => hc (heq ▸ hblank.2), .solid, by simpa using hstep.symm,
      ?_, by simpa using hc⟩
    cases ending with
    | empty =>
      obtain rfl : pending = [] := h
      simpa using hc
    | solid => exact hhead h.1
    | blank => exact hhead h

theorem segments_renderMarks_cons (mark : Mark) (hmark : mark ≠ .char escapeChar) (marks : List Mark) :
    segments (renderMarks (mark :: marks)) =
      match mark with
      | .char c => Segment.consChar c (segments (renderMarks marks))
      | .link => .control "4;94".toList :: segments (renderMarks marks)
      | .reset => .control "0".toList :: segments (renderMarks marks) := by
  rw [renderMarks_cons]
  cases mark with
  | char c => exact segments_cons (fun heq => hmark (heq ▸ rfl)) _
  | link => exact segments_link _
  | reset => exact segments_reset _

/-- The start of a link for both readers: a link that is open goes on. -/
theorem control_link (topics : TopicTable) (h : state.Describes reading) :
    ∃ ending, state.step .link = some (.inside ending true) ∧ ending.Describes reading.pending ∧
      reading.control topics "4;94".toList = (⟨.blue, true, true, reading.pending⟩, []) := by
  cases h with
  | outside => exact ⟨.empty, rfl, rfl, rfl⟩
  | inside fresh hpending => exact ⟨_, rfl, hpending, rfl⟩

theorem control_reset (topics : TopicTable) (h : state.Describes reading) (hstep : state.step .reset = some next) :
    next = .outside ∧ (reading.control topics "0".toList).1 = {} ∧
      (reading.control topics "0".toList).2.flatMap shown = reading.pending.map (·, .blue) := by
  cases h with
  | outside =>
    simp only [LinkState.step, Option.some.injEq] at hstep
    exact ⟨hstep.symm, rfl, rfl⟩
  | @inside ending pending fresh hpending =>
    simp only [LinkState.step, Option.ite_none_left_eq_some, Option.some.injEq] at hstep
    exact ⟨hstep.2.symm, rfl, linkPieces_shown topics hstep.1 hpending⟩

/-- Both readers along the marks of a message. Outside of links they are in step. In a link the window is ahead:
it has shown what the report holds back, so that the report shows that first. -/
theorem reportChars_segments_renderMarks (topics : TopicTable) (later : List Segment) {marks : List Mark}
    (hclean : AreClean marks) (haccepts : state.Accepts marks) (hreading : state.Describes reading) :
    reportChars topics reading (segments (renderMarks marks) ++ later) =
      reading.pending.map (·, .blue) ++ windowChars state.colour (segments (renderMarks marks)) ++
        reportChars topics {} later := by
  induction marks generalizing state reading with
  | nil =>
    obtain rfl : state = .outside := by simpa [LinkState.Accepts, LinkState.run] using haccepts
    cases hreading
    simp [segments, segmentsFrom]
  | cons mark marks ih =>
    obtain ⟨hmark, hrest⟩ := hclean.of_cons
    obtain ⟨next, hstep, hnext⟩ := LinkState.accepts_cons.1 haccepts
    rw [segments_renderMarks_cons mark hmark]
    cases mark with
    | char c =>
      simp only [windowChars_consChar]
      cases hreading with
      | outside =>
        obtain rfl : LinkState.outside = next := by simpa [LinkState.step] using hstep
        rw [reportChars, flatMap_pieces_consChar topics shown_text, ← reportChars, ih hrest hnext .outside]
        rfl
      | inside fresh hpending =>
        obtain ⟨hfeed, hreturn, ending', rfl, hpending'⟩ := hpending.step hstep
        rw [reportChars, pieces_consChar_link topics rfl hfeed hreturn, ← reportChars,
          ih hrest hnext (.inside false hpending')]
        simp [LinkState.colour]
    | link =>
      obtain ⟨ending, hlink, hpending, hcontrol⟩ := control_link topics hreading
      obtain rfl : LinkState.inside ending true = next := by simpa [hlink] using hstep
      simp only [cons_append]
      rw [reportChars_cons, step, hcontrol, ih hrest hnext (.inside true hpending)]
      rfl
    | reset =>
      obtain ⟨rfl, hfirst, hshown⟩ := control_reset topics hreading hstep
      simp only [cons_append]
      rw [reportChars_cons, step, hfirst, hshown, ih hrest hnext .outside,
        windowChars_control (by decide : shownColour? "0".toList = some .normal)]
      simp [LinkState.colour]

/-! ## Labels -/

/-- The styles of severities, as both readers know them. -/
theorem exists_of_style? {level : Level} {style : String} (h : level.style? = some style) :
    ∃ parameters colour, style.toList = controlSequence parameters ∧ (∀ c ∈ parameters, isParameterChar c) ∧
      shownColour? parameters = some colour ∧ (colour ≠ .blue ∧ colour ≠ .normal) ∧
      ∀ topics, control topics {} parameters = ({ colour := colour }, []) := by
  have hstyles : style = Style.alert ∨ style = Style.caution ∨ style = Style.info := by
    cases level <;> simp_all [Level.style?]
  rcases hstyles with rfl | rfl | rfl
  · exact ⟨"1;31".toList, .red, by decide, by decide, by decide, by decide, fun _ => rfl⟩
  · exact ⟨"1;33".toList, .orange, by decide, by decide, by decide, by decide, fun _ => rfl⟩
  · exact ⟨"92".toList, .green, by decide, by decide, by decide, by decide, fun _ => rfl⟩

/-- A text between a style and a reset is a piece of its own. -/
theorem pieces_badge {text : List Char} {colour : LogColour} (hclean : escapeChar ∉ text) (hne : text ≠ [])
    (hparameters : ∀ c ∈ parameters, isParameterChar c) (hcolour : colour ≠ .blue ∧ colour ≠ .normal)
    (hcontrol : control topics {} parameters = ({ colour := colour }, [])) (rest : List Char) (later : List Segment) :
    pieces topics {} (segments (controlSequence parameters ++ (text ++ (Style.reset.toList ++ rest))) ++ later) =
      .coloured colour text :: pieces topics {} (segments rest ++ later) := by
  have hplain : ({ colour := colour } : ReportReading).plain topics text =
      ({ colour := colour }, [.coloured colour text]) := by
    cases colour <;> simp_all [plain]
  have hend : control topics { colour := colour } "0".toList = ({}, []) := by
    have hfinish : ({ colour := colour } : ReportReading).finish topics = ({ colour := colour }, []) := by
      simp [finish, hcolour]
    rw [ReportReading.control, hfinish]
    rfl
  have hreset : Style.reset.toList = controlSequence "0".toList := by decide
  rw [segments_controlSequence hparameters, hreset, segments_append_controlSequence hclean hne (by decide)]
  simp only [cons_append, pieces, step, hcontrol, hplain, hend, nil_append]

/-! ## Texts of a log -/

/-- Whether both readers show a text of a log alike: the report shows it as the window does, and goes on as if
nothing had been before. -/
def ShownAlike (topics : TopicTable) (text : List Char) : Prop :=
  ∀ later, reportChars topics {} (segments text ++ later) =
    windowChars .normal (segments text) ++ reportChars topics {} later

namespace ShownAlike

variable {text rest : List Char}

theorem nil : ShownAlike topics [] := fun _ => rfl

theorem windowChars_append (hclean : escapeChar ∉ text) (colour : LogColour) (rest : List Char) :
    windowChars colour (segments (text ++ rest)) = text.map (·, colour) ++ windowChars colour (segments rest) := by
  induction text with
  | nil => rfl
  | cons c text ih =>
    rw [mem_cons, not_or] at hclean
    rw [cons_append, segments_cons (Ne.symm hclean.1), windowChars_consChar, ih hclean.2]
    rfl

/-- Text without styles can stand before a text that is shown alike. -/
theorem append (hclean : escapeChar ∉ text) (h : ShownAlike topics rest) : ShownAlike topics (text ++ rest) := by
  intro later
  rw [reportChars, flatMap_pieces_append topics shown_text hclean, ← reportChars, windowChars_append hclean, h later,
    append_assoc, ← map_eq_flatMap]

theorem ofText (hclean : escapeChar ∉ text) : ShownAlike topics text := by
  simpa using append hclean nil

theorem badge {level : Level} {style : String} (hlevel : level.style? = some style) (hclean : escapeChar ∉ text)
    (hne : text ≠ []) (h : ShownAlike topics rest) :
    ShownAlike topics (style.toList ++ (text ++ (Style.reset.toList ++ rest))) := by
  obtain ⟨parameters, colour, hstyle, hparameters, hshown, hcolour, hcontrol⟩ := exists_of_style? hlevel
  intro later
  rw [hstyle, reportChars, pieces_badge hclean hne hparameters hcolour (hcontrol topics), flatMap_cons, ← reportChars,
    h later, segments_controlSequence hparameters, windowChars_control hshown, windowChars_append hclean, segments_reset,
    windowChars_control (by decide : shownColour? "0".toList = some .normal), append_assoc]
  rfl

theorem markLinks (hclean : escapeChar ∉ text) : ShownAlike topics (StudioMigration.markLinks text) := by
  obtain ⟨marks, hmarks, hmarksClean, -, haccepts, -⟩ := exists_marks_markLinks hclean
  intro later
  rw [hmarks, reportChars_segments_renderMarks topics later hmarksClean haccepts .outside]
  rfl

end ShownAlike

/-- Whether a note has no character that the streams or the log would take for something else. -/
def Note.IsPlain (note : Note) : Prop :=
  ∀ text ∈ [note.text, note.severity, note.release], escapeChar ∉ text.toList ∧ '\r' ∉ text.toList

instance (note : Note) : Decidable note.IsPlain := inferInstanceAs (Decidable (∀ text ∈ _, _))

def bracketed (word : String) : List Char := '[' :: (word.toList ++ [']'])

theorem not_mem_bracketed (hopen : c ≠ '[') (hclose : c ≠ ']') {word : String} (h : c ∉ word.toList) :
    c ∉ bracketed word := by
  simp [bracketed, hopen, hclose, h]

namespace Note

variable {note : Note}

theorem toList_body (note : Note) : note.body.toList =
    (if note.release = "" then [] else bracketed note.release ++ [' ']) ++ markLinks note.text.toList := by
  unfold body
  by_cases hrelease : note.release = ""
  · simp [hrelease, markLinksString]
  · simp [hrelease, markLinksString, bracketed, toString]

theorem toList_consoleText (note : Note) : note.consoleText.toList =
    if note.severity = "" then note.body.toList
    else
      match note.level.style? with
      | some style => style.toList ++ (bracketed note.severity ++ (Style.reset.toList ++ ' ' :: note.body.toList))
      | none => bracketed note.severity ++ ' ' :: note.body.toList := by
  unfold consoleText badge
  by_cases hseverity : note.severity = ""
  · simp [hseverity]
  · cases hstyle : note.level.style? <;> simp [hseverity, bracketed, toString]

theorem shownAlike_body (h : note.IsPlain) (topics : TopicTable) : ShownAlike topics note.body.toList := by
  have htext := (h note.text (by simp)).1
  have hrelease := (h note.release (by simp)).1
  rw [toList_body]
  refine .append ?_ (.markLinks htext)
  split
  · simp
  · have hlabel := not_mem_bracketed (by decide) (by decide) hrelease
    simpa [hlabel] using (by decide : escapeChar ≠ ' ')

theorem shownAlike_consoleText (h : note.IsPlain) (topics : TopicTable) : ShownAlike topics note.consoleText.toList := by
  have hlabel := not_mem_bracketed (by decide) (by decide) (h note.severity (by simp)).1
  have hbody : ShownAlike topics (' ' :: note.body.toList) :=
    ShownAlike.append (by decide : escapeChar ∉ [' ']) (shownAlike_body h topics)
  rw [toList_consoleText]
  split
  · exact shownAlike_body h topics
  · split
    · rename_i style hstyle
      exact .badge hstyle hlabel (cons_ne_nil _ _) hbody
    · exact .append hlabel hbody

/-- A plain note is written without a carriage return. -/
theorem return_not_mem_consoleText (h : note.IsPlain) : '\r' ∉ note.consoleText.toList := by
  have hbody : '\r' ∉ note.body.toList := by
    have hmarked := return_not_mem_markLinks (h note.text (by simp)).2
    have hlabel := not_mem_bracketed (by decide) (by decide) (h note.release (by simp)).2
    rw [toList_body]
    split
    · simpa using hmarked
    · simpa [hlabel] using hmarked
  have hlabel := not_mem_bracketed (by decide) (by decide) (h note.severity (by simp)).2
  have hreset : '\r' ∉ Style.reset.toList := by decide
  rw [toList_consoleText]
  split
  · exact hbody
  · split
    · rename_i style hstyle
      have hstyle : '\r' ∉ style.toList := by
        have hstyles : ∀ level : Level, ∀ style ∈ level.style?, '\r' ∉ style.toList := by
          intro level
          cases level <;> decide
        exact hstyles _ _ hstyle
      simp [hstyle, hlabel, hreset, hbody]
    · simp [hlabel, hbody]

end Note

/-- Texts of a log that are shown alike, one behind the other. -/
theorem reportChars_entries {entries : List String} (h : ∀ entry ∈ entries, ShownAlike topics entry.toList) :
    reportChars topics {} (entries.flatMap fun entry => segments entry.toList) =
      entries.flatMap fun entry => windowChars .normal (segments entry.toList) := by
  induction entries with
  | nil => rfl
  | cons entry entries ih =>
    rw [forall_mem_cons] at h
    rw [flatMap_cons, flatMap_cons, h.1, ih h.2]

theorem bodyChars_plainReportBody {log : Log} (h : ∀ entry ∈ log.entries, ShownAlike topics entry.toList) :
    bodyChars (plainReportBody topics log) = log.shownChars := by
  have hproper : ∀ piece ∈ reportPieces topics log, piece.IsProper := fun piece =>
    isProper_of_mem_pieces
  calc bodyChars (plainReportBody topics log)
      = (reportPieces topics log).flatMap shown := bodyChars_flatMap_render hproper
    _ = reportChars topics {} (log.entries.flatMap fun entry => segments entry.toList) := rfl
    _ = log.entries.flatMap fun entry => windowChars .normal (segments entry.toList) := reportChars_entries h
    _ = log.shownChars := by
      rw [Log.shownChars, Log.runs, flatMap_assoc]
      rfl

/-- What notes add to the log of a window. -/
def noteEntries (notes : List Note) : List String := notes.flatMap fun note => ["\n" ++ note.consoleText, "\n"]

/-- Pieces without a carriage return go to the log. -/
theorem Window.receiveAll_of_plain {pieces : List String} (h : ∀ piece ∈ pieces, '\r' ∉ piece.toList)
    (window : Window) : window.receiveAll pieces = { window with log := ⟨window.log.entries ++ pieces⟩ } := by
  induction pieces generalizing window with
  | nil => simp [Window.receiveAll]
  | cons piece pieces ih =>
    rw [forall_mem_cons] at h
    have hreceive : window.receive piece = { window with log := window.log.add piece } := by
      simp [Window.receive, h.1]
    have hrest := ih h.2 (window.receive piece)
    rw [Window.receiveAll] at hrest ⊢
    rw [foldl_cons, hrest, hreceive]
    simp [Log.add]

/-- While the streams lead to the window, it receives what a script writes. -/
theorem window_capture {α : Type} (script : Script α) (launcher : Launcher) :
    ((Launch.capture script).exec launcher).2.window =
      launcher.window.receiveAll
        ((script.exec { launcher.session with written := [] }).2.written.map Prod.snd) := rfl

theorem window_capture_say {notes : List Note} (h : ∀ note ∈ notes, note.IsPlain) (launcher : Launcher) :
    ((Launch.capture (notes.forM Script.say)).exec launcher).2.window =
      { launcher.window with log := ⟨launcher.window.log.entries ++ noteEntries notes⟩ } := by
  have hwritten : ((notes.forM Script.say).exec { launcher.session with written := [] }).2.written.map Prod.snd =
      noteEntries notes := by
    rw [Script.exec_forM_say]
    simp [Session.tell, Note.printed, noteEntries, map_flatMap]
  rw [window_capture, hwritten]
  apply Window.receiveAll_of_plain
  intro piece hpiece
  obtain ⟨note, hnote, hmem⟩ := mem_flatMap.1 hpiece
  have hreturn := note.return_not_mem_consoleText (h note hnote)
  simp only [mem_cons, not_mem_nil, or_false] at hmem
  rcases hmem with rfl | rfl
  · simpa using hreturn
  · decide

/-- The window and the report agree on what notes write, starting from an empty log: the report shows the same
characters in the same colours, whatever the topics of the window are. -/
theorem window_report_agree (launcher : Launcher) (notes : List Note) (hempty : launcher.window.log = {})
    (hplain : ∀ note ∈ notes, note.IsPlain) :
    let shown := ((Launch.capture (notes.forM Script.say)).exec launcher).2.window
    shown.log.entries = notes.flatMap (fun note => ["\n" ++ note.consoleText, "\n"]) ∧
      bodyChars (plainReportBody shown.topics shown.log) = shown.log.shownChars := by
  intro shown
  have hshown : shown = { launcher.window with log := ⟨noteEntries notes⟩ } := by
    have hcapture := window_capture_say hplain launcher
    rwa [hempty] at hcapture
  have hentries : shown.log.entries = noteEntries notes := by rw [hshown]
  refine ⟨hentries, bodyChars_plainReportBody ?_⟩
  rw [hentries]
  intro entry hentry
  obtain ⟨note, hnote, hmem⟩ := List.mem_flatMap.1 hentry
  simp only [List.mem_cons, List.not_mem_nil, or_false] at hmem
  rcases hmem with rfl | rfl
  · rw [String.toList_append]
    exact .append (by decide) (note.shownAlike_consoleText (hplain note hnote) _)
  · exact .ofText (by decide)

/-- A note with an address whose path runs into a help topic, so that the marks of the two overlap. -/
theorem window_report_agree_overlapping :
    let notes : List Note := [⟨"see http://a.bc/Configuration View/mappView/Config.mappviewcfg", "warning", "AS4"⟩]
    let launcher : Launcher := ⟨{}, { workspace := ⟨.empty, []⟩ }, ⟨2025, 1, 2, 3, 4, 5⟩, ⟨.top, []⟩⟩
    let shown := ((Launch.capture (notes.forM Script.say)).exec launcher).2.window
    launcher.window.log = {} ∧ (∀ note ∈ notes, note.IsPlain) ∧
      shown.log.entries = notes.flatMap (fun note => ["\n" ++ note.consoleText, "\n"]) ∧
      bodyChars (plainReportBody shown.topics shown.log) = shown.log.shownChars := by
  intro notes launcher shown
  have hplain : ∀ note ∈ notes, note.IsPlain := by decide
  exact ⟨rfl, hplain, window_report_agree launcher notes rfl hplain⟩

end StudioMigration
