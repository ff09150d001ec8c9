import StudioMigration.Text.Numeral

/-!
# Segments of styled text

A text with styles is plain text with control sequences in it. This module takes it apart: `segments`
gives the plain runs and the sequences in order, and nothing gets lost on the way
(`render_segments`).
-/

/-! ## Styles -/

namespace StudioMigration.Style

def reset : String := "\x1b[0m"

/-- Bold red, for errors and mandatory steps. -/
def alert : String := "\x1b[1;31m"

/-- Bold yellow, for warnings. -/
def caution : String := "\x1b[1;33m"

def info : String := "\x1b[92m"

/-- Underlined light blue, for links. -/
def link : String := "\x1b[4;94m"

end StudioMigration.Style

namespace StudioMigration

/-- A part of a styled text. -/
inductive Segment where
  | control (parameters : List Char)
  | plain (text : List Char)
  deriving DecidableEq, Repr

def escapeChar : Char := Char.ofNat 0x1B

def isParameterChar (c : Char) : Bool := Text.isAsciiDigit c || c == ';'

def controlSequence (parameters : List Char) : List Char :=
  escapeChar :: '[' :: parameters ++ ['m']

/-- The parameters of the control sequence that a text starts with. -/
def controlAt? (text : List Char) : Option (List Char) :=
  match text with
  | first :: second :: rest =>
    let parameters := rest.takeWhile isParameterChar
    if first == escapeChar && second == '[' && (rest.drop parameters.length).head? == some 'm' then
      some parameters
    else none
  | _ => none

namespace Segment

def chars : Segment → List Char
  | .control parameters => controlSequence parameters
  | .plain text => text

/-- Puts a character in front of segments. A plain run takes it in. -/
def consChar (c : Char) : List Segment → List Segment
  | .plain text :: rest => .plain (c :: text) :: rest
  | rest => .plain [c] :: rest

/-- The numbers among the parameters of a control sequence, which semicolons divide. Numerals that are
too long to be read are left out. -/
def numbers (parameters : List Char) : List Nat :=
  (Text.splitWhere (· == ';') parameters).filterMap fun piece =>
    match Text.readNat piece with
    | .ok number => some number
    | .error _ => none

end Segment

/-- Taking apart with `skip` characters of a control sequence still to be passed over. -/
def segmentsFrom : Nat → List Char → List Segment
  | _, [] => []
  | skip + 1, _ :: rest => segmentsFrom skip rest
  | 0, c :: rest =>
    match controlAt? (c :: rest) with
    | some parameters => .control parameters :: segmentsFrom (parameters.length + 2) rest
    | none => Segment.consChar c (segmentsFrom 0 rest)

def segments (text : List Char) : List Segment := segmentsFrom 0 text

/-! ## Small laws -/

theorem flatMap_chars_consChar (c : Char) (parts : List Segment) :
    (Segment.consChar c parts).flatMap Segment.chars = c :: parts.flatMap Segment.chars := by
  cases parts with
  | nil => rfl
  | cons part rest => cases part <;> simp [Segment.consChar, Segment.chars]

/-- A text that starts with a control sequence is that sequence and what follows it. -/
theorem eq_append_of_controlAt? {text parameters : List Char} (h : controlAt? text = some parameters) :
    text = controlSequence parameters ++ text.drop (parameters.length + 3) := by
  unfold controlAt? at h
  split at h
  · rename_i first second rest
    simp only [Option.ite_none_right_eq_some, Bool.and_eq_true, beq_iff_eq, Option.some.injEq] at h
    obtain ⟨⟨⟨hfirst, hsecond⟩, hm⟩, rfl⟩ := h
    obtain ⟨tail, htail⟩ : ∃ tail, rest.drop (rest.takeWhile isParameterChar).length = 'm' :: tail := by
      cases hd : rest.drop (rest.takeWhile isParameterChar).length with
      | nil => simp [hd] at hm
      | cons m tail => exact ⟨tail, by simpa [hd] using hm⟩
    have hrest : rest = rest.takeWhile isParameterChar ++ 'm' :: tail := by
      have htake := List.prefix_iff_eq_take.1 (List.takeWhile_prefix (l := rest) isParameterChar)
      calc rest = rest.take (rest.takeWhile isParameterChar).length ++
            rest.drop (rest.takeWhile isParameterChar).length := (List.take_append_drop _ _).symm
        _ = rest.takeWhile isParameterChar ++ 'm' :: tail := by rw [← htake, htail]
    have hdrop : rest.drop ((rest.takeWhile isParameterChar).length + 1) = tail := by
      rw [← List.drop_drop, htail]
      rfl
    subst hfirst hsecond
    simp only [controlSequence, List.cons_append, List.append_assoc, List.nil_append, List.drop_succ_cons, hdrop]
    rw [← hrest]
  · simp at h

/-- Taking a text apart loses nothing. -/
theorem flatMap_chars_segmentsFrom (skip : Nat) (text : List Char) :
    (segmentsFrom skip text).flatMap Segment.chars = text.drop skip := by
  fun_induction segmentsFrom skip text with
  | case1 => simp
  | case2 skip c rest ih => simp [ih]
  | case3 c rest parameters h ih =>
    have := eq_append_of_controlAt? h
    simp only [List.flatMap_cons, ih, Segment.chars, List.drop_zero]
    rw [this]
    simp [controlSequence]
  | case4 c rest h ih => simp [flatMap_chars_consChar, ih]

theorem render_segments (text : List Char) : (segments text).flatMap Segment.chars = text := by
  simp [segments, flatMap_chars_segmentsFrom]

end StudioMigration
