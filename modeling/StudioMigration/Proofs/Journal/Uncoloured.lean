import StudioMigration.Proofs.Report.Agreement

/-!
# Notes without their colours

The terminal shows the severity of a note in colour and a file does not; links are marked in both. Without control
sequences the two forms of a note are the same text.

* `controlAt?_eq_some_iff` says which texts start with a control sequence.
* `withoutControls_append` takes control sequences out of two texts one by one. The first text must not end within a
  control sequence that the second one could complete.
* `withoutControls_renderMarks` reads a text off its marks, so that marking links can be undone.
* `Note.withoutControls_message` compares the two forms of a note, and `withoutControls_flatMap_fileLine` is the run
  over the notes of a file.
* `Note.escape_mem_fileLine_iff` says which notes a file does not keep without control sequences.
-/

namespace StudioMigration

open List

variable {text parameters first : List Char}

/-! ## Texts that start with a control sequence -/

theorem isParameterChar_of_controlAt? (h : controlAt? text = some parameters) :
    ∀ c ∈ parameters, isParameterChar c := by
  unfold controlAt? at h
  split at h
  · simp only [Option.ite_none_right_eq_some, Option.some.injEq] at h
    obtain ⟨-, rfl⟩ := h
    exact fun c hc => mem_takeWhile_imp hc
  · simp at h

theorem controlAt?_eq_some_iff :
    controlAt? text = some parameters ↔
      (∀ c ∈ parameters, isParameterChar c) ∧ controlSequence parameters <+: text := by
  constructor
  · intro h
    exact ⟨isParameterChar_of_controlAt? h, _, (eq_append_of_controlAt? h).symm⟩
  · rintro ⟨hparameters, rest, rfl⟩
    exact controlAt?_controlSequence hparameters rest

/-! ## Taking control sequences out -/

theorem withoutControls_cons {c : Char} (h : controlAt? (c :: text) = none) :
    withoutControls (c :: text) = c :: withoutControls text := by
  simp [withoutControls, withoutControlsFrom, h]

theorem withoutControls_controlSequence (h : ∀ c ∈ parameters, isParameterChar c) (rest : List Char) :
    withoutControls (controlSequence parameters ++ rest) = withoutControls rest := by
  unfold withoutControls
  rw [← flatMap_plainText_segmentsFrom, ← flatMap_plainText_segmentsFrom]
  change (segments _).flatMap _ = (segments _).flatMap _
  rw [segments_controlSequence h, flatMap_cons]
  rfl

theorem withoutControls_of_not_mem (h : escapeChar ∉ text) : withoutControls text = text := by
  induction text with
  | nil => rfl
  | cons c text ih =>
    rw [mem_cons, not_or] at h
    rw [withoutControls_cons (controlAt?_cons_of_ne (Ne.symm h.1) text), ih h.2]

theorem withoutControls_renderMarks {marks : List Mark} (h : AreClean marks) :
    withoutControls (renderMarks marks) = marksText marks := by
  induction marks with
  | nil => rfl
  | cons mark marks ih =>
    obtain ⟨hmark, hrest⟩ := h.of_cons
    rw [renderMarks_cons, marksText_cons]
    cases mark with
    | char c =>
      have hc : c ≠ escapeChar := fun heq => hmark (heq ▸ rfl)
      exact (withoutControls_cons (controlAt?_cons_of_ne hc _)).trans (congrArg _ (ih hrest))
    | link =>
      have hstyle : Mark.link.render = controlSequence "4;94".toList := by decide
      rw [hstyle, withoutControls_controlSequence (by decide), ih hrest]
      rfl
    | reset =>
      have hstyle : Mark.reset.render = controlSequence "0".toList := by decide
      rw [hstyle, withoutControls_controlSequence (by decide), ih hrest]
      rfl

/-- Taking control sequences out undoes the marking of links. The marking is no idle one: it brings in control
sequences if the text mentions a help topic or an address. -/
theorem withoutControls_markLinks {text : List Char} (h : escapeChar ∉ text) :
    withoutControls (markLinks text) = text ∧
      (escapeChar ∈ markLinks text ↔ (∃ topic ∈ helpTopics, topic.1.toList <:+: text) ∨ findAddresses text ≠ []) := by
  refine ⟨?_, escape_mem_markLinks_iff h⟩
  obtain ⟨marks, hmarks, hclean, htext, -⟩ := exists_marks_markLinks h
  rw [hmarks, withoutControls_renderMarks hclean, htext]

/-- An address that is found twice and runs into a help topic, so that marks are nested. -/
theorem withoutControls_markLinks_nested :
    let text := "http://a.bc/AS4/Migration http://a.bc/AS4/Migration".toList
    escapeChar ∉ text ∧ withoutControls (markLinks text) = text ∧ escapeChar ∈ markLinks text := by
  intro text
  have hclean : escapeChar ∉ text := by decide
  have hmarked : ∃ topic ∈ helpTopics, topic.1.toList <:+: text :=
    ⟨("AS4/Migration", helpTopic "as4_migration" "notwendige_anpassungen_im_automation_studio_4_projekt.html"),
      by simp [helpTopics], "http://a.bc/".toList, " http://a.bc/AS4/Migration".toList, by decide⟩
  obtain ⟨hundone, hescape⟩ := withoutControls_markLinks hclean
  exact ⟨hclean, hundone, hescape.2 (.inl hmarked)⟩

/-- Characters that a control sequence can have before its last one. -/
def isControlPart (c : Char) : Bool := c == escapeChar || c == '[' || isParameterChar c

theorem isControlPart_of_mem {parameters : List Char} (h : ∀ c ∈ parameters, isParameterChar c) {c : Char}
    (hc : c ∈ escapeChar :: '[' :: parameters) : isControlPart c := by
  rw [mem_cons, mem_cons] at hc
  obtain rfl | rfl | hc := hc
  · rfl
  · rfl
  · simp [isControlPart, h c hc]

/-- A text that ends outside of control sequences starts with one only by itself. -/
theorem controlAt?_append (hne : first ≠ []) (h : ∀ c ∈ first.getLast?, isControlPart c = false) (second : List Char) :
    controlAt? (first ++ second) = controlAt? first := by
  cases hfirst : controlAt? first with
  | some parameters =>
    rw [controlAt?_eq_some_iff] at hfirst ⊢
    exact ⟨hfirst.1, hfirst.2.trans (prefix_append first second)⟩
  | none =>
    rw [Option.eq_none_iff_forall_ne_some]
    intro parameters hsome
    obtain ⟨hparameters, hprefix⟩ := controlAt?_eq_some_iff.1 hsome
    obtain hwithin | hbeyond := prefix_or_prefix_of_prefix hprefix (prefix_append first second)
    · rw [controlAt?_eq_some_iff.2 ⟨hparameters, hwithin⟩] at hfirst
      simp at hfirst
    · -- the sequence would go on behind the text, whose last character is then one of its own
      obtain ⟨c, hc⟩ := Option.isSome_iff_exists.1 (getLast?_isSome.2 hne)
      have hlast := h c hc
      rw [controlSequence, prefix_concat_iff] at hbeyond
      obtain hwhole | hpart := hbeyond
      · have hself : controlAt? first = some parameters := by
          rw [controlAt?_eq_some_iff, hwhole]
          exact ⟨hparameters, prefix_refl _⟩
        rw [hself] at hfirst
        simp at hfirst
      · rw [isControlPart_of_mem hparameters (hpart.subset (mem_of_getLast? hc))] at hlast
        simp at hlast

/-- Control sequences are taken out of two texts one by one. -/
theorem withoutControls_append (h : ∀ c ∈ first.getLast?, isControlPart c = false) (second : List Char) :
    withoutControls (first ++ second) = withoutControls first ++ withoutControls second := by
  -- by induction on the length, since a control sequence in front is passed over as a whole
  induction hlength : first.length using Nat.strong_induction_on generalizing first with
  | _ length ih =>
  subst hlength
  cases first with
  | nil => rfl
  | cons c rest =>
    have hfront := controlAt?_append (cons_ne_nil c rest) h second
    cases hcontrol : controlAt? (c :: rest) with
    | some parameters =>
      obtain ⟨hparameters, tail, htail⟩ := controlAt?_eq_some_iff.1 hcontrol
      have htailLast : ∀ d ∈ tail.getLast?, isControlPart d = false := by
        intro d hd
        refine h d ?_
        rw [← htail, getLast?_append, hd]
        rfl
      have hshorter : tail.length < (c :: rest).length := by
        rw [← htail, length_append]
        simp [controlSequence]
      rw [← htail, append_assoc, withoutControls_controlSequence hparameters,
        withoutControls_controlSequence hparameters, ih tail.length hshorter htailLast rfl]
    | none =>
      rw [hcontrol] at hfront
      have hrestLast : ∀ d ∈ rest.getLast?, isControlPart d = false := by
        intro d hd
        refine h d ?_
        rw [getLast?_cons, hd]
        rfl
      rw [cons_append] at hfront ⊢
      rw [withoutControls_cons hfront, withoutControls_cons hcontrol, cons_append,
        ih rest.length (Nat.lt_succ_self _) hrestLast rfl]

/-- Texts that end with a line end are taken one by one, up to a text that follows them. -/
theorem withoutControls_flatMap_append {α : Type} (items : List α) (line : α → List Char) (rest : List Char) :
    withoutControls ((items.flatMap fun item => line item ++ ['\n']) ++ rest) =
      (items.flatMap fun item => withoutControls (line item ++ ['\n'])) ++ withoutControls rest := by
  induction items with
  | nil => rfl
  | cons item items ih =>
    rw [flatMap_cons, flatMap_cons, append_assoc, withoutControls_append ?_, ih, append_assoc]
    intro c hc
    rw [getLast?_concat, Option.mem_def, Option.some.injEq] at hc
    subst hc
    rfl

/-! ## Notes -/

namespace Note

variable (note : Note)

/-- What the streams get of a note, without the line end in front. -/
def message : List Char := (note.printed.flatMap fun piece => piece.2.toList).drop 1

theorem message_eq : note.message = note.consoleText.toList ++ ['\n'] := by
  simp [message, printed]

/-- A note as a file keeps it, with the line end behind it. -/
def fileLine : List Char := note.fileText.toList ++ ['\n']

theorem toList_fileText : note.fileText.toList =
    if note.severity = "" then note.body.toList else bracketed note.severity ++ ' ' :: note.body.toList := by
  unfold fileText
  by_cases hseverity : note.severity = ""
  · simp [hseverity]
  · simp [hseverity, bracketed, toString]

/-- Without control sequences the terminal shows a note as a file keeps it. -/
theorem withoutControls_message : withoutControls note.message = withoutControls note.fileLine := by
  have hbracketed : ∀ rest : List Char, withoutControls (bracketed note.severity ++ rest) =
      withoutControls (bracketed note.severity) ++ withoutControls rest := by
    refine withoutControls_append fun c hc => ?_
    rw [bracketed, ← cons_append, getLast?_concat, Option.mem_def, Option.some.injEq] at hc
    subst hc
    rfl
  rw [message_eq, fileLine, toList_consoleText, toList_fileText]
  split
  · rfl
  · cases hstyle : note.level.style? with
    | none => rfl
    | some style =>
      -- the style and its end are taken out, whatever the severity word is
      obtain ⟨parameters, _, hsequence, hparameters, -⟩ := exists_of_style? hstyle
      have hreset : Style.reset.toList = controlSequence "0".toList := by decide
      simp only [append_assoc]
      rw [hsequence, withoutControls_controlSequence hparameters, hbracketed, hbracketed, hreset,
        withoutControls_controlSequence (by decide)]

/-- What stands before the text of a note in a file. -/
def fileLabel : List Char :=
  (if note.severity = "" then [] else bracketed note.severity ++ [' ']) ++
    (if note.release = "" then [] else bracketed note.release ++ [' '])

theorem fileLine_eq : note.fileLine = note.fileLabel ++ markLinks note.text.toList ++ ['\n'] := by
  rw [fileLine, toList_fileText, toList_body, fileLabel]
  split <;> simp

/-- A file keeps a note without the colour of its severity, but with the marks of links: a note without control
sequences of its own gets some if its text mentions a help topic or an address. Without them the line is the text
behind its labels. -/
theorem escape_mem_fileLine_iff {note : Note}
    (h : ∀ text ∈ [note.text, note.severity, note.release], escapeChar ∉ text.toList) :
    (escapeChar ∈ note.fileLine ↔
        (∃ topic ∈ helpTopics, topic.1.toList <:+: note.text.toList) ∨ findAddresses note.text.toList ≠ []) ∧
      withoutControls note.fileLine = note.fileLabel ++ note.text.toList ++ ['\n'] := by
  have htext := h note.text (by simp)
  have hlabel : escapeChar ∉ note.fileLabel := by
    have hspace : escapeChar ≠ ' ' := by decide
    have hseverity := not_mem_bracketed (by decide) (by decide) (h note.severity (by simp))
    have hrelease := not_mem_bracketed (by decide) (by decide) (h note.release (by simp))
    unfold fileLabel
    split <;> split <;> simp [hspace, hseverity, hrelease]
  have hend : escapeChar ∉ ['\n'] := by decide
  constructor
  · rw [← escape_mem_markLinks_iff htext, fileLine_eq, List.mem_append, List.mem_append]
    simp only [hlabel, hend, false_or, or_false]
  · -- the whole line is a sequence of marks
    obtain ⟨marks, hmarks, hclean, hshown, -⟩ := exists_marks_markLinks htext
    have hline : note.fileLine = renderMarks (plainMarks note.fileLabel ++ marks ++ plainMarks ['\n']) := by
      rw [fileLine_eq, hmarks]
      simp
    rw [hline, withoutControls_renderMarks]
    · simp [hshown]
    · simp only [areClean_append, areClean_plainMarks]
      exact ⟨⟨hlabel, hclean⟩, hend⟩

/-- A note on a help topic. -/
theorem escape_mem_fileLine_iff_topic :
    let note : Note := ⟨"see AS4/Migration", "INFO", "AS6"⟩
    (∀ text ∈ [note.text, note.severity, note.release], escapeChar ∉ text.toList) ∧ escapeChar ∈ note.fileLine ∧
      withoutControls note.fileLine = "[INFO] [AS6] see AS4/Migration\n".toList := by
  intro note
  have hclean : ∀ text ∈ [note.text, note.severity, note.release], escapeChar ∉ text.toList := by decide
  have hmentioned : ∃ topic ∈ helpTopics, topic.1.toList <:+: note.text.toList :=
    ⟨("AS4/Migration", helpTopic "as4_migration" "notwendige_anpassungen_im_automation_studio_4_projekt.html"),
      by simp [helpTopics], "see ".toList, [], by decide⟩
  obtain ⟨hescape, hplain⟩ := escape_mem_fileLine_iff hclean
  exact ⟨hclean, hescape.2 (.inl hmentioned), hplain.trans (by decide)⟩

/-- A note on an address, none of whose parts has a control sequence; the line that a file keeps has two. -/
theorem fileLine_address :
    let note : Note := ⟨"http://a.bc", "", ""⟩
    (∀ text ∈ [note.text, note.severity, note.release], escapeChar ∉ text.toList) ∧
      note.fileLine = "\x1b[4;94mhttp://a.bc\x1b[0m\n".toList ∧ escapeChar ∈ note.fileLine := by
  decide +kernel

end Note

/-- Without control sequences a file with some notes is what the terminal shows of them. -/
theorem withoutControls_flatMap_fileLine (notes : List Note) (rest : List Char) :
    withoutControls (notes.flatMap Note.fileLine ++ rest) =
      (notes.flatMap fun note => withoutControls note.message) ++ withoutControls rest := by
  simp only [Note.withoutControls_message]
  exact withoutControls_flatMap_append notes (fun note => note.fileText.toList) rest

end StudioMigration
