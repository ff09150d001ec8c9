import StudioMigration.Pattern.Basic
import StudioMigration.Proofs.Text.Basic

/-!
# Matching names in a text

Where the two patterns for names in a source match: `Pattern.word` matches a name that is a whole word,
and `Pattern.call` one that is followed by an opening parenthesis, with white space in between or not. A
word is a longest run of word characters. Neither pattern matches inside a word, so that a text can be
searched word by word.

* `Pattern.matchAt_word_front` and `Pattern.matchAt_call_front` say what the patterns match at the start
  of a word.
* `Pattern.matchAt_word_eq_none` and `Pattern.matchAt_call_eq_none` say that they match nowhere else.
* `standsIn_iff_calledIn_or_bareIn` says that a word either is the name of a call or stands alone.
-/

namespace StudioMigration

open List

/-! ## White space and words -/

namespace Text

variable {c : Char} {name after text body : List Char}

/-- The code points of white space. -/
def spaceCodes : List Nat :=
  [9, 10, 11, 12, 13, 0x1C, 0x1D, 0x1E, 0x1F, 0x20, 0x85, 0xA0, 0x1680, 0x2000, 0x2001, 0x2002, 0x2003,
   0x2004, 0x2005, 0x2006, 0x2007, 0x2008, 0x2009, 0x200A, 0x2028, 0x2029, 0x202F, 0x205F, 0x3000]

theorem toNat_mem_spaceCodes (h : isSpace c) : c.toNat ∈ spaceCodes := by
  simp only [isSpace, Bool.or_eq_true, Bool.and_eq_true, decide_eq_true_eq, beq_iff_eq] at h
  simp only [spaceCodes, mem_cons, not_mem_nil, or_false]
  omega

theorem isWord_eq_false_of_isSpace (h : isSpace c) : isWord c = false := by
  -- the class of a character is read off a table, so that each code is looked up
  have hall : ∀ n ∈ spaceCodes, isWord (Char.ofNat n) = false := by decide +kernel
  rw [← Char.ofNat_toNat c]
  exact hall _ (toNat_mem_spaceCodes h)

def startsWord (text : List Char) : Bool := text.head?.any isWord

@[simp] theorem startsWord_nil : startsWord [] = false := rfl

@[simp] theorem startsWord_cons (c : Char) (rest : List Char) :
    startsWord (c :: rest) = isWord c := rfl

/-- A name: a text of word characters only that is not empty. -/
structure IsName (text : List Char) : Prop where
  ne_nil : text ≠ []
  isWord : ∀ c ∈ text, isWord c

instance (text : List Char) : Decidable (IsName text) :=
  decidable_of_iff (text ≠ [] ∧ ∀ c ∈ text, Text.isWord c)
    ⟨fun h => ⟨h.1, h.2⟩, fun h => ⟨h.1, h.2⟩⟩

theorem IsName.startsWord_append (h : IsName name) (rest : List Char) : startsWord (name ++ rest) := by
  cases name with
  | nil => exact absurd rfl h.ne_nil
  | cons c name => simpa using h.isWord c mem_cons_self

theorem IsName.startsWord_reverse (h : IsName name) (before : List Char) : startsWord (name.reverse ++ before) := by
  apply IsName.startsWord_append
  constructor
  · simpa using h.ne_nil
  · intro c hc
    exact h.isWord c (mem_reverse.1 hc)

/-- The word that starts a text, when its first character is a word character. -/
theorem isName_takeWhile (h : isWord c) (rest : List Char) : IsName (c :: rest.takeWhile isWord) := by
  constructor
  · simp
  · intro d hd
    rcases mem_cons.1 hd with rfl | hd
    · exact h
    · exact mem_takeWhile_imp hd

theorem startsWord_dropWhile (text : List Char) : startsWord (text.dropWhile isWord) = false := by
  induction text with
  | nil => rfl
  | cons c rest ih =>
    rw [dropWhile_cons]
    split
    · exact ih
    · rename_i hc
      simpa using hc

/-- The longest word at the front of a text is a given name if no word character follows the name. -/
theorem takeWhile_append_of_isName (h : IsName name) (hafter : startsWord after = false) :
    (name ++ after).takeWhile isWord = name := by
  rw [takeWhile_append_of_pos h.isWord]
  cases after with
  | nil => simp
  | cons c rest =>
    rw [startsWord_cons] at hafter
    simp [hafter]

theorem dropWhile_append_of_isName (h : IsName name) (hafter : startsWord after = false) :
    (name ++ after).dropWhile isWord = after := by
  rw [dropWhile_append_of_pos h.isWord]
  cases after with
  | nil => rfl
  | cons c rest =>
    rw [startsWord_cons] at hafter
    simp [hafter]

/-- A name in front of a text is the longest word there just if no word character follows it. -/
theorem isPrefix_append_iff_eq {word : List Char} (hname : IsName name) (hword : IsName word)
    (hafter : startsWord after = false) :
    (name <+: word ++ after ∧ startsWord ((word ++ after).drop name.length) = false) ↔ name = word := by
  constructor
  · rintro ⟨⟨rest, hrest⟩, hend⟩
    rw [← hrest, drop_left] at hend
    rw [← takeWhile_append_of_isName hname hend, hrest, takeWhile_append_of_isName hword hafter]
  · rintro rfl
    exact ⟨prefix_append _ _, by rwa [drop_left]⟩

/-- Inside a word there is no boundary, and where no word is there is no name. -/
theorem IsName.inside_or_absent {before rest : List Char} (hname : IsName name)
    (h : startsWord before ∨ startsWord rest = false) : startsWord before = startsWord rest ∨ ¬name <+: rest := by
  by_cases hrest : startsWord rest
  · exact .inl ((h.resolve_right (by simp [hrest])).trans hrest.symm)
  · right
    rintro ⟨after, rfl⟩
    exact hrest (hname.startsWord_append after)

/-! ## The opening of a call -/

/-- What follows the opening parenthesis of a call, if white space and an opening parenthesis are next. -/
def callBody? (text : List Char) : Option (List Char) :=
  match text.dropWhile isSpace with
  | '(' :: body => some body
  | _ => none

theorem callBody?_cons (c : Char) (rest : List Char) :
    callBody? (c :: rest) = if isSpace c then callBody? rest else if c = '(' then some rest else none := by
  by_cases hc : isSpace c
  · simp [callBody?, hc]
  · simp only [callBody?, dropWhile_cons_of_neg hc, if_neg hc]
    split
    · rename_i heq
      obtain ⟨rfl, rfl⟩ := List.cons.inj heq
      rfl
    · rename_i hno
      rw [if_neg]
      rintro rfl
      exact hno rest rfl

/-- A call opens with white space and a parenthesis. -/
theorem callBody?_eq_some_iff : callBody? text = some body ↔ text = text.takeWhile isSpace ++ '(' :: body := by
  induction text with
  | nil => simp [callBody?]
  | cons c rest ih =>
    rw [callBody?_cons]
    by_cases hc : isSpace c
    · simp [hc, ih]
    · by_cases hparen : c = '('
      · simp [hc]
      · simp [hc, hparen]

theorem startsWord_of_callBody? (h : callBody? text = some body) : startsWord text = false := by
  cases text with
  | nil => rfl
  | cons c rest =>
    rw [callBody?_cons] at h
    by_cases hc : isSpace c
    · exact isWord_eq_false_of_isSpace hc
    · by_cases hparen : c = '('
      · subst hparen
        rw [startsWord_cons]
        decide
      · simp [hc, hparen] at h

theorem length_callBody?_lt (h : callBody? text = some body) : body.length < text.length := by
  have hform := congrArg List.length (callBody?_eq_some_iff.1 h)
  simp only [length_append, length_cons] at hform
  omega

end Text

open Text

namespace Pattern

variable {β : Type} {name : List Char}

/-! ## Running the parts of a pattern -/

/-- Exact characters are passed over where they stand, and match nowhere else. -/
theorem run_chars (text : List Char) (cursor : Cursor) (captures : Captures) (next : Cursor → Captures → Option β) :
    (chars text).run cursor captures next =
      if text <+: cursor.rest then
        next ⟨text.reverse ++ cursor.before, cursor.rest.drop text.length, cursor.position + text.length⟩ captures
      else none := by
  induction text generalizing cursor with
  | nil => simp [chars, all, run]
  | cons c text ih =>
    obtain ⟨before, rest, pos⟩ := cursor
    cases rest with
    | nil => simp [chars, all, run]
    | cons d rest =>
      have hstep : (chars (c :: text)).run ⟨before, d :: rest, pos⟩ captures next =
          if (d == c) then (chars text).run ⟨d :: before, rest, pos + 1⟩ captures next
          else none := rfl
      rw [hstep, ih]
      by_cases hd : d = c
      · subst hd
        simp [Nat.add_assoc, Nat.add_comm 1]
      · simp [hd, Ne.symm hd, cons_prefix_cons]

/-- White space and an opening parenthesis: since the parenthesis is no white space, giving characters
back is of no use. -/
theorem runMany_opening (captures : Captures) (next : Cursor → Captures → Option β) (before : List Char)
    (pos : Nat) (rest : List Char) :
    runMany isSpace (fun stop => (char (· == '(')).run stop captures next) before pos rest =
      (callBody? rest).bind fun body =>
        next ⟨'(' :: ((rest.takeWhile isSpace).reverse ++ before), body,
          pos + (rest.takeWhile isSpace).length + 1⟩ captures := by
  induction rest generalizing before pos with
  | nil => simp [runMany, run, callBody?]
  | cons c rest ih =>
    by_cases hc : isSpace c
    · have hparen : (c == '(') = false := by
        apply beq_false_of_ne
        rintro rfl
        exact absurd hc (by decide)
      rw [runMany, ih, callBody?_cons]
      simp only [run, hparen, takeWhile_cons, hc, if_true, reverse_cons, append_assoc,
        cons_append, nil_append, length_cons]
      cases callBody? rest with
      | none => simp
      | some body =>
        rw [show pos + 1 + (rest.takeWhile isSpace).length + 1 =
          pos + ((rest.takeWhile isSpace).length + 1) + 1 by omega]
        split <;> simp_all
    · rw [runMany]
      by_cases hparen : c = '('
      · subst hparen
        simp [run, callBody?_cons, hc]
      · simp [run, callBody?_cons, hc, hparen]

theorem run_boundary (cursor : Cursor) (captures : Captures) (next : Cursor → Captures → Option β) :
    boundary.run cursor captures next =
      if startsWord cursor.before = startsWord cursor.rest then none else next cursor captures := by
  simp only [boundary, run, Cursor.atBoundary, Cursor.parts, startsWord]
  by_cases hsame : cursor.before.head?.any isWord = cursor.rest.head?.any isWord
  · simp [hsame]
  · simp [hsame]

/-! ## Whole words -/

/-- A name matches where it stands between two boundaries. -/
theorem matchAt_word (name : List Char) (cursor : Cursor) :
    (word name).matchAt cursor =
      if startsWord cursor.before = startsWord cursor.rest then none
      else if name <+: cursor.rest then
        if startsWord (name.reverse ++ cursor.before) = startsWord (cursor.rest.drop name.length) then none
        else some ⟨name, []⟩
      else none := by
  simp only [matchAt, word, run, run_boundary, run_chars]
  split
  · rfl
  · split
    · rename_i hfront
      split
      · rfl
      · rw [Nat.add_sub_cancel_left, ← prefix_iff_eq_take.1 hfront]
    · rfl

/-- At the start of a word, the pattern for a name matches just if the name is that word. -/
theorem matchAt_word_front {found after before : List Char} (hname : IsName name) (hfound : IsName found)
    (hafter : startsWord after = false) (hbefore : startsWord before = false) (pos : Nat) :
    (word name).matchAt ⟨before, found ++ after, pos⟩ =
      if name = found then some ⟨found, []⟩ else none := by
  rw [matchAt_word]
  simp only [hbefore, hfound.startsWord_append, hname.startsWord_reverse]
  have hiff := isPrefix_append_iff_eq hname hfound hafter
  by_cases heq : name = found
  · obtain ⟨hfront, hend⟩ := hiff.2 heq
    subst heq
    simp [hfront, hafter]
  · simp only [heq, if_false, Bool.false_eq_true]
    by_cases hfront : name <+: found ++ after
    · have hend : startsWord ((found ++ after).drop name.length) := by
        by_contra hne
        exact heq (hiff.1 ⟨hfront, by simpa using hne⟩)
      simp [hfront, hend]
    · simp [hfront]

theorem matchAt_word_eq_none (hname : IsName name) {cursor : Cursor}
    (h : startsWord cursor.before ∨ startsWord cursor.rest = false) : (word name).matchAt cursor = none := by
  rw [matchAt_word]
  rcases hname.inside_or_absent h with hsame | hfront
  · rw [if_pos hsame]
  · simp [hfront]

/-! ## Calls -/

/-- The name of a call matches from a boundary up to the opening parenthesis. -/
theorem matchAt_call (name : List Char) (cursor : Cursor) :
    (call name).matchAt cursor =
      if startsWord cursor.before = startsWord cursor.rest then none
      else if name <+: cursor.rest then
        (callBody? (cursor.rest.drop name.length)).map fun _ =>
          ⟨name ++ ((cursor.rest.drop name.length).takeWhile isSpace ++ ['(']), []⟩
      else none := by
  have hshape : call name = seq boundary (seq (chars name) (seq (many isSpace) (seq (char (· == '(')) empty))) := rfl
  rw [hshape]
  simp only [matchAt, run, run_boundary, run_chars]
  split
  · rfl
  · split
    · rename_i hfront
      obtain ⟨rest, hrest⟩ := hfront
      have hmany := runMany_opening [] (fun stop captures =>
          some (⟨cursor.rest.take (stop.position - cursor.position), captures⟩ : Match))
          (name.reverse ++ cursor.before) (cursor.position + name.length)
          (cursor.rest.drop name.length)
      simp only [run] at hmany
      rw [hmany, ← hrest, drop_left]
      cases hbody : callBody? rest with
      | none => rfl
      | some body =>
        have hform : name ++ rest = (name ++ (rest.takeWhile isSpace ++ ['('])) ++ body := by
          simpa using congrArg (name ++ ·) (callBody?_eq_some_iff.1 hbody)
        have hsize : cursor.position + name.length + (rest.takeWhile isSpace).length + 1 -
            cursor.position = (name ++ (rest.takeWhile isSpace ++ ['('])).length := by
          simp only [length_append, length_cons, length_nil]
          omega
        simp only [Option.bind_some, Option.map_some, hsize]
        rw [hform, take_left]
    · rfl

/-- At the start of a word, the pattern for a call matches just if its name is that word and the call
opens behind it. -/
theorem matchAt_call_front {found after before : List Char} (hname : IsName name) (hfound : IsName found)
    (hafter : startsWord after = false) (hbefore : startsWord before = false) (pos : Nat) :
    (call name).matchAt ⟨before, found ++ after, pos⟩ =
      if name = found then
        (callBody? after).map fun _ => ⟨found ++ (after.takeWhile isSpace ++ ['(']), []⟩
      else none := by
  rw [matchAt_call]
  simp only [hbefore, hfound.startsWord_append, Bool.false_eq_true, if_false]
  have hiff := isPrefix_append_iff_eq hname hfound hafter
  by_cases heq : name = found
  · subst heq
    simp only [prefix_append, if_true, drop_left]
  · split
    · rename_i hfront
      -- the name is only part of the word, so that a word character follows it
      cases hbody : callBody? ((found ++ after).drop name.length) with
      | none => rfl
      | some body => exact absurd (hiff.1 ⟨hfront, startsWord_of_callBody? hbody⟩) heq
    · rfl

theorem matchAt_call_eq_none (hname : IsName name) {cursor : Cursor}
    (h : startsWord cursor.before ∨ startsWord cursor.rest = false) : (call name).matchAt cursor = none := by
  rw [matchAt_call]
  rcases hname.inside_or_absent h with hsame | hfront
  · rw [if_pos hsame]
  · simp [hfront]

end Pattern

/-! ## Whole words in a text -/

/-- Whether a word stands in a text, is not part of a longer one, and is followed by something with a property. -/
def StandsWhere (holds : List Char → Prop) (word text : List Char) : Prop :=
  ∃ before after, text = before ++ word ++ after ∧ startsWord before.reverse = false ∧ startsWord after = false ∧
    holds after

/-- Whether a word stands in a text and is not part of a longer one. -/
def StandsIn (word text : List Char) : Prop :=
  ∃ before after, text = before ++ word ++ after ∧ startsWord before.reverse = false ∧ startsWord after = false

def CalledIn (word text : List Char) : Prop := StandsWhere (fun after => callBody? after ≠ none) word text

/-- Whether a word stands in a text where it is not the name of a call. -/
def BareIn (word text : List Char) : Prop := StandsWhere (fun after => callBody? after = none) word text

theorem standsIn_iff_standsWhere {word text : List Char} :
    StandsIn word text ↔ StandsWhere (fun _ => True) word text := by
  simp only [StandsIn, StandsWhere, and_true]

theorem standsIn_iff_calledIn_or_bareIn {word text : List Char} :
    StandsIn word text ↔ CalledIn word text ∨ BareIn word text := by
  constructor
  · rintro ⟨before, after, htext, hbefore, hafter⟩
    by_cases hbody : callBody? after = none
    · exact .inr ⟨before, after, htext, hbefore, hafter, hbody⟩
    · exact .inl ⟨before, after, htext, hbefore, hafter, hbody⟩
  · rintro (⟨before, after, htext, hbefore, hafter, -⟩ | ⟨before, after, htext, hbefore, hafter, -⟩)
    · exact ⟨before, after, htext, hbefore, hafter⟩
    · exact ⟨before, after, htext, hbefore, hafter⟩

theorem startsWord_reverse_append (front : List Char) {before : List Char} (hne : before ≠ []) :
    startsWord (front ++ before).reverse = startsWord before.reverse := by
  obtain ⟨c, rest, hrest⟩ := exists_cons_of_ne_nil (mt reverse_eq_nil_iff.1 hne)
  rw [reverse_append, hrest, cons_append, startsWord_cons, startsWord_cons]

section Words

variable {holds : List Char → Prop} {word : List Char} (hword : IsName word)

include hword

theorem not_standsWhere_nil : ¬StandsWhere holds word [] := by
  rintro ⟨before, after, htext, -⟩
  obtain ⟨hbefore, -⟩ := append_eq_nil_iff.1 htext.symm
  exact hword.ne_nil (append_eq_nil_iff.1 hbefore).2

/-- A word stands behind a character that is part of no word just if it stands in the rest. -/
theorem standsWhere_cons_iff {c : Char} (hc : isWord c = false) (rest : List Char) :
    StandsWhere holds word (c :: rest) ↔ StandsWhere holds word rest := by
  constructor
  · rintro ⟨before, after, htext, hbefore, hafter, hholds⟩
    cases before with
    | nil =>
      have hstart := hword.startsWord_append after
      rw [nil_append] at htext
      rw [← htext, startsWord_cons, hc] at hstart
      cases hstart
    | cons d before =>
      rw [cons_append, cons_append, List.cons.injEq] at htext
      refine ⟨before, after, htext.2, ?_, hafter, hholds⟩
      by_cases hempty : before = []
      · rw [hempty]
        rfl
      · rwa [← singleton_append, startsWord_reverse_append [d] hempty] at hbefore
  · rintro ⟨before, after, rfl, hbefore, hafter, hholds⟩
    refine ⟨c :: before, after, rfl, ?_, hafter, hholds⟩
    by_cases hempty : before = []
    · rw [hempty]
      exact hc
    · rwa [← singleton_append, startsWord_reverse_append [c] hempty]

/-- A word stands in a text that starts with a word just if it is that word or stands behind it. -/
theorem standsWhere_append_iff {first after : List Char} (hfirst : IsName first) (hafter : startsWord after = false) :
    StandsWhere holds word (first ++ after) ↔ (word = first ∧ holds after) ∨ StandsWhere holds word after := by
  constructor
  · rintro ⟨before, tail, htext, hbefore, htail, hholds⟩
    by_cases hempty : before = []
    · left
      rw [hempty, nil_append] at htext
      have heq : word = first := by
        rw [← takeWhile_append_of_isName hword htail, ← htext, takeWhile_append_of_isName hfirst hafter]
      subst heq
      exact ⟨rfl, append_cancel_left htext ▸ hholds⟩
    · right
      rw [append_assoc] at htext
      obtain hpast | hwithin := prefix_or_prefix_of_prefix (prefix_append first after)
        (htext ▸ prefix_append before (word ++ tail))
      · obtain ⟨between, rfl⟩ := hpast
        rw [append_assoc, append_cancel_left_eq, ← append_assoc] at htext
        refine ⟨between, tail, htext, ?_, htail, hholds⟩
        by_cases hnothing : between = []
        · rw [hnothing]
          rfl
        · rwa [startsWord_reverse_append first hnothing] at hbefore
      · -- what stands before the word would end within the first word
        have hname : IsName before := ⟨hempty, fun c hc => hfirst.isWord c (hwithin.subset hc)⟩
        have hends := hname.startsWord_reverse []
        rw [append_nil, hbefore] at hends
        cases hends
  · rintro (⟨rfl, hholds⟩ | ⟨before, tail, rfl, hbefore, htail, hholds⟩)
    · exact ⟨[], after, rfl, rfl, hafter, hholds⟩
    · have hne : before ≠ [] := by
        rintro rfl
        rw [nil_append, hword.startsWord_append] at hafter
        cases hafter
      refine ⟨first ++ before, tail, by simp, ?_, htail, hholds⟩
      rwa [startsWord_reverse_append first hne]

/-- A word stands behind the opening of a call just if it stands in what follows the parenthesis. -/
theorem standsWhere_callBody_iff {text body : List Char} (hbody : callBody? text = some body) :
    StandsWhere holds word text ↔ StandsWhere holds word body := by
  have hspaces : ∀ spaces : List Char, (∀ c ∈ spaces, isSpace c) → ∀ rest,
      (StandsWhere holds word (spaces ++ rest) ↔ StandsWhere holds word rest) := by
    intro spaces hall rest
    induction spaces with
    | nil => rfl
    | cons c spaces ih =>
      rw [forall_mem_cons] at hall
      rw [cons_append, standsWhere_cons_iff hword (isWord_eq_false_of_isSpace hall.1), ih hall.2]
  rw [callBody?_eq_some_iff.1 hbody, hspaces _ fun c hc => mem_takeWhile_imp hc,
    standsWhere_cons_iff hword (by decide)]

theorem not_standsIn_nil : ¬StandsIn word [] := by
  rw [standsIn_iff_standsWhere]
  exact not_standsWhere_nil hword

theorem standsIn_cons_iff {c : Char} (hc : isWord c = false) (rest : List Char) :
    StandsIn word (c :: rest) ↔ StandsIn word rest := by
  simp only [standsIn_iff_standsWhere, standsWhere_cons_iff hword hc]

theorem standsIn_append_iff {first after : List Char} (hfirst : IsName first) (hafter : startsWord after = false) :
    StandsIn word (first ++ after) ↔ word = first ∨ StandsIn word after := by
  simp only [standsIn_iff_standsWhere, standsWhere_append_iff hword hfirst hafter, and_true]

end Words

end StudioMigration
