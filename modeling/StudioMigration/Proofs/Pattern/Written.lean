import Mathlib.Data.List.Forall2
import StudioMigration.Analysis.Function
import StudioMigration.Proofs.Pattern.Reading
import StudioMigration.Proofs.Pattern.WordMatch

/-!
# Written patterns for names

Names of functions are looked for with patterns that are written out and read. Here it is shown which patterns that
gives, and where they match.

* `usesAny_iff` says that names are looked for as whole words.
* `exists_callPattern_iff` says that a pattern for several names finds the calls of each of them.
-/

namespace StudioMigration

open Pattern Text Catalogue

/-! ## Reading -/

theorem Settings.isCode_plain (c : Char) : Settings.plain.isCode c.toNat = (· == c) := by
  funext d
  simp only [isCode, plain, Bool.false_and, Bool.false_eq_true, if_false]
  rw [Bool.eq_iff_iff, beq_iff_eq, beq_iff_eq, Char.toNat_inj]

namespace Expression

variable {parts : List Expression} {patterns : List Pattern} (name : List Char)

/-- The characters of a name, each standing for itself. -/
def spelling : List Expression := name.map fun c => .code c.toNat

def Yields (parts : List Expression) (patterns : List Pattern) : Prop :=
  List.Forall₂ (fun part p => part.pattern .plain = .ok p) parts patterns

theorem pattern_seq {first second : Expression} {p q : Pattern} (hfirst : first.pattern .plain = .ok p)
    (hsecond : second.pattern .plain = .ok q) : (seq first second).pattern .plain = .ok (.seq p q) := by
  show (do return Pattern.seq (← first.pattern .plain) (← second.pattern .plain)) = Except.ok (.seq p q)
  rw [hfirst, hsecond]
  rfl

theorem pattern_either {first second : Expression} {p q : Pattern} (hfirst : first.pattern .plain = .ok p)
    (hsecond : second.pattern .plain = .ok q) : (either first second).pattern .plain = .ok (.either p q) := by
  show (do return Pattern.either (← first.pattern .plain) (← second.pattern .plain)) = Except.ok (.either p q)
  rw [hfirst, hsecond]
  rfl

theorem pattern_all (h : Yields parts patterns) : (all parts).pattern .plain = .ok (Pattern.all patterns) := by
  induction h with
  | nil => rfl
  | cons hpart _ ih => exact pattern_seq hpart ih

theorem pattern_oneOf (h : Yields parts patterns) (hne : parts ≠ []) :
    (oneOf parts).pattern .plain = .ok (Pattern.oneOf patterns) := by
  induction h with
  | nil => exact absurd rfl hne
  | cons hpart hrest ih =>
    cases hrest with
    | nil => exact hpart
    | cons hnext hothers => exact pattern_either hpart (ih (by simp))

theorem pattern_code (c : Char) : (code c.toNat).pattern .plain = .ok (.char (· == c)) :=
  congrArg (Except.ok ∘ char) (Settings.isCode_plain c)

theorem yields_spelling : Yields (spelling name) (name.map fun c => .char (· == c)) := by
  induction name with
  | nil => exact .nil
  | cons c name ih => exact .cons (pattern_code c) ih

theorem Yields.append {parts' : List Expression} {patterns' : List Pattern} (h : Yields parts patterns)
    (h' : Yields parts' patterns') : Yields (parts ++ parts') (patterns ++ patterns') :=
  List.rel_append h h'

theorem pattern_boundary : (place .boundary).pattern .plain = .ok boundary := rfl

/-- What is written for a name as a whole word. -/
def ofWord : Expression := all (place .boundary :: (spelling name ++ [place .boundary]))

/-- What is written for the call of one of several names. -/
def ofCall (names : List (List Char)) : Expression :=
  all [place .boundary, group 1 (oneOf (names.map fun name => all (spelling name))),
    times 0 none .greedy (set false [.kind .space false]), .code '('.toNat]

theorem pattern_ofWord :
    (ofWord name).pattern .plain =
      .ok (Pattern.all (.boundary :: ((name.map fun c => .char (· == c)) ++ [.boundary]))) :=
  pattern_all (.cons pattern_boundary ((yields_spelling name).append (.cons pattern_boundary .nil)))

theorem pattern_ofCall {names : List (List Char)} (hne : names ≠ []) :
    (ofCall names).pattern .plain =
      .ok (Pattern.all [.boundary, .group 1 (.oneOf (names.map .chars)), .many isSpace, .char (· == '(')]) := by
  have hnames : (oneOf (names.map fun name => all (spelling name))).pattern .plain =
      .ok (Pattern.oneOf (names.map .chars)) := by
    refine pattern_oneOf ?_ (by simpa using hne)
    rw [Yields, List.forall₂_map_left_iff, List.forall₂_map_right_iff, List.forall₂_same]
    exact fun name _ => pattern_all (yields_spelling name)
  have hgroup : (group 1 (oneOf (names.map fun name => all (spelling name)))).pattern .plain =
      .ok (.group 1 (.oneOf (names.map .chars))) := by
    show (do return Pattern.group 1 (← (oneOf (names.map fun name => all (spelling name))).pattern .plain)) = _
    rw [hnames]
    rfl
  have hspace : (fun c => [SetMember.kind .space false].any (Settings.plain.inMember c) != false) = isSpace := by
    funext c
    show (((isSpace c != false) || false) != false) = isSpace c
    simp
  have hspaces : (times 0 none .greedy (set false [.kind .space false])).pattern .plain = .ok (.many isSpace) :=
    congrArg (Except.ok ∘ Pattern.many) hspace
  exact pattern_all (.cons pattern_boundary (.cons hgroup (.cons hspaces (.cons (pattern_code '(') .nil))))

end Expression

namespace Pattern

/-- What a text says is known once its tokens are read. -/
theorem read_eq {text : List Char} {expression : Expression} {p : Pattern}
    (hlone : Escape.loneBackslash? text (Escape.tokens text) = none)
    (hread : Written.readFrom text 0 .start 0 (Escape.tokens text) = .ok (.plain, expression))
    (hpattern : expression.pattern .plain = .ok p) : read text = .ok p := by
  simp only [read, hlone, hread, bind, Except.bind, hpattern]
  rfl

/-! ## Matching -/

/-- A name between two boundaries is a whole word. -/
theorem matchAt_ofWord (name : List Char) (cursor : Cursor) :
    (all (boundary :: ((name.map fun c => char (· == c)) ++ [boundary]))).matchAt cursor =
      (word name).matchAt cursor := by
  have hshape : all (boundary :: ((name.map fun c => char (· == c)) ++ [boundary])) =
      seq boundary (all ((name.map fun c => char (· == c)) ++ [boundary])) := rfl
  rw [hshape, matchAt]
  simp only [run, run_all_append]
  rfl

/-- One of several names is read wherever one of them is. -/
theorem isSome_run_oneOf {β : Type} (patterns : List Pattern) (cursor : Cursor) (captures : Captures)
    (next : Cursor → Captures → Option β) :
    ((oneOf patterns).run cursor captures next).isSome = patterns.any fun p => (p.run cursor captures next).isSome := by
  fun_induction oneOf patterns with
  | case1 =>
    simp only [run]
    split <;> rfl
  | case2 p => simp
  | case3 p rest hrest ih =>
    rw [run, List.any_cons, ← ih]
    cases p.run cursor captures next <;> rfl

/-- White space and an opening parenthesis are read where a call opens. -/
theorem isSome_run_opening {β : Type} (cursor : Cursor) (captures : Captures)
    {next : Cursor → Captures → Option β} (hnext : ∀ stop captures', (next stop captures').isSome) :
    ((seq (many isSpace) (seq (char (· == '(')) empty)).run cursor captures next).isSome =
      (callBody? cursor.rest).isSome := by
  have hrun : (seq (many isSpace) (seq (char (· == '(')) empty)).run cursor captures next =
      runMany isSpace (fun stop => (char (· == '(')).run stop captures next) cursor.before cursor.position
        cursor.rest := rfl
  rw [hrun, runMany_opening]
  cases callBody? cursor.rest with
  | none => rfl
  | some body => exact hnext _ _

theorem isSome_matchAt_ofCall (names : List (List Char)) (cursor : Cursor) :
    ((all [boundary, group 1 (oneOf (names.map chars)), many isSpace, char (· == '(')]).matchAt cursor).isSome =
      names.any fun name => ((call name).matchAt cursor).isSome := by
  have hshape : all [boundary, group 1 (oneOf (names.map chars)), many isSpace, char (· == '(')] =
      seq boundary (seq (group 1 (oneOf (names.map chars))) (seq (many isSpace) (seq (char (· == '(')) empty))) := rfl
  simp only [matchAt_call]
  rw [hshape, matchAt, run, run_boundary, run, run]
  by_cases hedge : startsWord cursor.before = startsWord cursor.rest
  · simp [hedge]
  · rw [if_neg hedge, isSome_run_oneOf, List.any_map]
    refine List.any_congr rfl fun name => ?_
    rw [Function.comp_apply, run_chars, if_neg hedge]
    split
    · rw [isSome_run_opening _ _ fun _ _ => rfl, Option.isSome_map]
    · rfl

/-! ## Searching -/

/-- A pattern occurs in a text just if it matches somewhere. -/
theorem occursIn_iff (p : Pattern) (text : List Char) :
    p.occursIn text ↔
      ∃ before rest, text = before ++ rest ∧ (p.matchAt ⟨before.reverse, rest, before.length⟩).isSome := by
  constructor
  · have hfrom : ∀ passed pos rest, (p.searchFrom passed pos rest).isSome →
        ∃ before after, rest = before ++ after ∧
          (p.matchAt ⟨before.reverse ++ passed, after, pos + before.length⟩).isSome := by
      intro passed pos rest hfound
      induction rest generalizing passed pos with
      | nil => exact ⟨[], [], rfl, hfound⟩
      | cons c rest ih =>
        rw [searchFrom] at hfound
        split at hfound
        · rename_i found hhere
          exact ⟨[], c :: rest, rfl, by simp [hhere]⟩
        · obtain ⟨before, after, rfl, hafter⟩ := ih _ _ hfound
          exact ⟨c :: before, after, rfl, by simpa [Nat.add_assoc, Nat.add_comm 1] using hafter⟩
    intro hfound
    obtain ⟨before, rest, htext, hmatch⟩ := hfrom [] 0 text hfound
    exact ⟨before, rest, htext, by simpa using hmatch⟩
  · rintro ⟨before, rest, rfl, hmatch⟩
    exact isSome_searchFrom (by simpa using hmatch)

/-- A whole word is found just if it stands in the text. -/
theorem occursIn_word_iff {name : List Char} (hname : IsName name) (text : List Char) :
    (word name).occursIn text ↔ StandsIn name text := by
  rw [occursIn_iff]
  constructor
  · rintro ⟨before, rest, rfl, hmatch⟩
    rw [matchAt_word] at hmatch
    split at hmatch
    · cases hmatch
    · rename_i hedge
      split at hmatch
      · rename_i hfront
        obtain ⟨after, rfl⟩ := hfront
        rw [hname.startsWord_reverse] at hmatch
        rw [hname.startsWord_append] at hedge
        refine ⟨before, after, by simp, by simpa using hedge, ?_⟩
        by_contra hafter
        simp [hafter] at hmatch
      · cases hmatch
  · rintro ⟨before, after, rfl, hbefore, hafter⟩
    refine ⟨before, name ++ after, by simp, ?_⟩
    rw [matchAt_word_front hname hname hafter hbefore]
    simp

/-- A call is found just if its name stands in the text as that of a call. -/
theorem occursIn_call_iff {name : List Char} (hname : IsName name) (text : List Char) :
    (call name).occursIn text ↔ CalledIn name text := by
  rw [occursIn_iff]
  constructor
  · rintro ⟨before, rest, rfl, hmatch⟩
    rw [matchAt_call] at hmatch
    split at hmatch
    · cases hmatch
    · rename_i hedge
      split at hmatch
      · rename_i hfront
        obtain ⟨after, rfl⟩ := hfront
        rw [List.drop_left, Option.isSome_map] at hmatch
        obtain ⟨body, hbody⟩ := Option.isSome_iff_exists.1 hmatch
        rw [hname.startsWord_append] at hedge
        exact ⟨before, after, by simp, by simpa using hedge, startsWord_of_callBody? hbody, by simp [hbody]⟩
      · cases hmatch
  · rintro ⟨before, after, rfl, hbefore, hafter, hbody⟩
    refine ⟨before, name ++ after, by simp, ?_⟩
    rw [matchAt_call_front hname hname hafter hbefore, if_pos rfl, Option.isSome_map]
    exact Option.isSome_iff_ne_none.2 hbody

end Pattern

/-! ## The names of the library -/

theorem isName_deprecatedStringFunctions {name : String} (h : name ∈ deprecatedStringFunctions) :
    IsName name.toList := by
  have hall : ∀ name ∈ deprecatedStringFunctions, IsName name.toList := by decide +kernel
  exact hall name h

def writtenWord (name : String) : List Char := "\\b".toList ++ name.toList ++ "\\b".toList

/-- The names of functions on strings have no signs in them, so that they are read as themselves. -/
theorem read_writtenWord {name : String} (h : name ∈ deprecatedStringFunctions) :
    read (writtenWord name) = .ok (.all (.boundary :: ((name.toList.map fun c => .char (· == c)) ++ [.boundary]))) := by
  have hall : ∀ name ∈ deprecatedStringFunctions,
      Escape.loneBackslash? (writtenWord name) (Escape.tokens (writtenWord name)) = none ∧
        Written.readFrom (writtenWord name) 0 .start 0 (Escape.tokens (writtenWord name)) =
          .ok (.plain, .ofWord name.toList) := by decide +kernel
  obtain ⟨hlone, hread⟩ := hall name h
  exact read_eq hlone hread (Expression.pattern_ofWord name.toList)

/-- Functions on strings are looked for as whole words. -/
theorem usesAny_iff (text : List Char) {names : List String} (hnames : names ⊆ deprecatedStringFunctions) :
    ∃ found, usesAny text names = .ok found ∧ (found ↔ ∃ name ∈ names, StandsIn name.toList text) := by
  induction names with
  | nil => exact ⟨false, rfl, by simp⟩
  | cons name names ih =>
    obtain ⟨hname, hnames⟩ := List.cons_subset.1 hnames
    obtain ⟨found, hfound, hiff⟩ := ih hnames
    have hword : (all (.boundary :: ((name.toList.map fun c => .char (· == c)) ++ [.boundary]))).occursIn text =
        (word name.toList).occursIn text := by
      rw [Bool.eq_iff_iff, occursIn_iff, occursIn_iff]
      simp only [matchAt_ofWord]
    have hstands := occursIn_word_iff (isName_deprecatedStringFunctions hname) text
    have hread := read_writtenWord hname
    unfold writtenWord at hread
    rw [usesAny, hread]
    simp only [bind, Except.bind, hword, hfound, List.exists_mem_cons_iff]
    split
    · rename_i hoccurs
      exact ⟨true, rfl, iff_of_true rfl (.inl (hstands.1 hoccurs))⟩
    · rename_i hoccurs
      refine ⟨found, rfl, hiff.trans (or_iff_right ?_).symm⟩
      exact mt hstands.2 hoccurs

def writtenCall (names : List String) : List Char := ("\\b(" ++ Text.joinStrings "|" names ++ ")\\s*\\(").toList

/-- The pattern for the calls of mathematical functions finds those of each of them. -/
theorem exists_callPattern_iff :
    ∃ p, callPattern deprecatedMathFunctions = .ok p ∧ ∀ text,
      (p.occursIn text ↔ ∃ name ∈ deprecatedMathFunctions, CalledIn name.toList text) := by
  have hread : Escape.loneBackslash? (writtenCall deprecatedMathFunctions)
        (Escape.tokens (writtenCall deprecatedMathFunctions)) = none ∧
      Written.readFrom (writtenCall deprecatedMathFunctions) 0 .start 0
        (Escape.tokens (writtenCall deprecatedMathFunctions)) =
          .ok (.plain, .ofCall (deprecatedMathFunctions.map String.toList)) := by decide +kernel
  have hnames : ∀ name ∈ deprecatedMathFunctions, IsName name.toList := by decide +kernel
  refine ⟨_, read_eq hread.1 hread.2 (Expression.pattern_ofCall (by simp [deprecatedMathFunctions])),
    fun text => ?_⟩
  rw [occursIn_iff]
  constructor
  · rintro ⟨before, rest, htext, hmatch⟩
    rw [isSome_matchAt_ofCall, List.any_map, List.any_eq_true] at hmatch
    obtain ⟨name, hname, hmatch⟩ := hmatch
    refine ⟨name, hname, (occursIn_call_iff (hnames name hname) text).1 ?_⟩
    exact (occursIn_iff _ _).2 ⟨before, rest, htext, hmatch⟩
  · rintro ⟨name, hname, hcalled⟩
    have hoccurs := (occursIn_call_iff (hnames name hname) text).2 hcalled
    obtain ⟨before, rest, htext, hmatch⟩ := (occursIn_iff _ _).1 hoccurs
    refine ⟨before, rest, htext, ?_⟩
    rw [isSome_matchAt_ofCall, List.any_map, List.any_eq_true]
    exact ⟨name, hname, hmatch⟩

end StudioMigration
