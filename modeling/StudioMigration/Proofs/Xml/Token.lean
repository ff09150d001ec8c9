import Mathlib.Data.List.Chain
import StudioMigration.Proofs.Text.Basic
import StudioMigration.Xml.Token
import StudioMigration.Xml.Writer

/-!
# Tokens and their written form

Names, attribute values, tags, comments and instructions are read back as what they were written from, and
whatever token was read can be written so that this holds. A name is regular if cutting its written form gives
it back; this is so for all names that were read, but not for every pair of a qualifier and a base.

* `name?_append` and `regular_of_name?` say that the names that are read are exactly the regular ones.
* `readValue_escape` says that every value is read back.
* `readAttributes_append` says that attributes with regular names are read back in order.
* `readToken_start`, `readToken_finish`, `readToken_comment` and `readToken_instruction` read markup back.
* `regular_of_readToken` says that the parts of a token that was read are regular.
-/

namespace StudioMigration.Xml

open List Option Text

variable {c : Char} {word rest text body : List Char} {name : XmlName} {attributes : List (XmlName × List Char)}

/-! ## Names -/

/-- A word that can stand as a name in a document. -/
def IsWritten : List Char → Prop
  | [] => False
  | c :: rest => (isNameStart .editing c || c == ':') ∧ ∀ d ∈ rest, isWrittenChar .editing d

theorem isWrittenChar_of_start (h : (isNameStart .editing c || c == ':')) : isWrittenChar .editing c := by
  simp only [isWrittenChar, isNameChar, isNameStart, isOpenChar, Bool.or_eq_true] at h ⊢
  rcases h with h | h
  · exact .inl (by simp [h])
  · exact .inr h

theorem written?_append (hword : IsWritten word) (hrest : rest.head?.any (isWrittenChar .editing) = false) :
    written? .editing (word ++ rest) = some (word, rest) := by
  cases word with
  | nil => exact absurd hword id
  | cons c word =>
    simp only [cons_append, written?, hword.1, if_true, takeWhile_append_of_stop hword.2 hrest,
      dropWhile_append_of_stop hword.2 hrest]

theorem isWritten_of_written? (h : written? .editing text = some (word, rest)) :
    IsWritten word ∧ text = word ++ rest := by
  cases text with
  | nil => simp [written?] at h
  | cons c text =>
    simp only [written?] at h
    split at h
    · rename_i hc
      simp only [Option.some.injEq, Prod.mk.injEq] at h
      obtain ⟨rfl, rfl⟩ := h
      refine ⟨⟨hc, ?_⟩, ?_⟩
      · intro d hd
        exact mem_takeWhile_imp hd
      · simp
    · simp at h

/-- A name starts with nothing that has a meaning in markup. -/
theorem IsWritten.exists_cons (h : IsWritten word) :
    ∃ c rest, word = c :: rest ∧ isBlank c = false ∧ c ∉ ['>', '/', '!', '?'] := by
  cases word with
  | nil => exact absurd h id
  | cons c rest =>
    have hclosed : ∀ d ∈ [' ', '\t', '\n', '\r', '>', '/', '!', '?'],
        (isNameStart .editing d || d == ':') = false := by decide
    have hnot : ∀ d ∈ [' ', '\t', '\n', '\r', '>', '/', '!', '?'], c ≠ d := by
      rintro d hd rfl
      exact absurd h.1 (by simp [hclosed c hd])
    exact ⟨c, rest, rfl, by simp [isBlank, hnot], by simp [hnot]⟩

/-- A name that is read back from its written form. -/
structure RegularName (name : XmlName) : Prop where
  written : IsWritten name.render.toList
  cut : cut? .editing name.render.toList = some name

theorem takeWhile_colon_append (hc : (word.drop ((word.takeWhile (· != ':')).length + 1)).head? = some c) :
    word = word.takeWhile (· != ':') ++
      ':' :: word.drop ((word.takeWhile (· != ':')).length + 1) := by
  rw [← drop_drop, drop_length_takeWhile] at hc ⊢
  cases hrest : word.dropWhile (· != ':') with
  | nil => simp [hrest] at hc
  | cons d rest =>
    have hd : d = ':' := by
      have hstop := head?_dropWhile_not (· != ':') word
      simpa [hrest] using hstop
    subst hd
    calc word = word.takeWhile (· != ':') ++ word.dropWhile (· != ':') :=
        (takeWhile_append_dropWhile).symm
      _ = word.takeWhile (· != ':') ++ ':' :: List.drop 1 (':' :: rest) := by rw [hrest]; rfl

/-- Cutting a name takes nothing away from it. -/
theorem render_of_cut? {reader : XmlReader} (h : cut? reader word = some name) : name.render.toList = word := by
  unfold cut? at h
  simp only [] at h
  split at h
  · cases h
    simp [XmlName.render]
  · rename_i hcut
    simp only [Bool.or_eq_true, Bool.not_eq_true', not_or, Bool.not_eq_true, Bool.not_eq_false,
      Option.any_eq_true, List.isEmpty_eq_false_iff] at hcut
    obtain ⟨hfirst, c, hc, -⟩ := hcut
    have hparts : (XmlName.mk (String.ofList (word.takeWhile (· != ':')))
        (String.ofList (word.drop ((word.takeWhile (· != ':')).length + 1)))).render.toList = word := by
      have hqualifier : String.ofList (word.takeWhile (· != ':')) ≠ "" := by
        simpa using hfirst
      have hcolon : ":".toList = [':'] := rfl
      simp only [XmlName.render, beq_iff_eq, hqualifier, if_false, String.toList_append,
        String.toList_ofList, hcolon, List.append_assoc, List.singleton_append]
      exact (takeWhile_colon_append hc).symm
    split at h
    · split at h
      · cases h
        exact hparts
      · simp at h
    · cases h
      exact hparts

theorem name?_append (hname : RegularName name) (hrest : rest.head?.any (isWrittenChar .editing) = false) :
    name? .editing (name.render.toList ++ rest) = some (name, rest) := by
  simp [name?, written?_append hname.written hrest, hname.cut]

theorem regular_of_name? (h : name? .editing text = some (name, rest)) :
    RegularName name ∧ text = name.render.toList ++ rest := by
  simp only [name?, bind_eq_bind, bind_eq_some_iff] at h
  obtain ⟨⟨word, rest'⟩, hwritten, name', hcut, hname⟩ := h
  simp at hname
  obtain ⟨rfl, rfl⟩ := hname
  have hrender := render_of_cut? hcut
  obtain ⟨hword, htext⟩ := isWritten_of_written? hwritten
  exact ⟨⟨by rw [hrender]; exact hword, by rw [hrender]; exact hcut⟩, by rw [hrender]; exact htext⟩

/-! ## References -/

theorem reference?_append (hbody : ';' ∉ body) (rest : List Char) :
    reference? (body ++ ';' :: rest) = reference? (body ++ [';']) := by
  have htake : ∀ rest : List Char, (body ++ ';' :: rest).takeWhile (· != ';') = body := by
    intro rest
    apply takeWhile_append_of_stop
    · intro c hc
      simp only [bne_iff_ne, ne_eq]
      rintro rfl
      exact hbody hc
    · rfl
  have hlength : ∀ rest : List Char, (body.length == (body ++ ';' :: rest).length) = false := by
    intro rest
    simp
  simp only [reference?, htake, hlength]

/-- The references that the writer uses: the characters they stand for, and their bodies. -/
def writtenReferences : List (Char × List Char) :=
  [('&', "amp".toList), ('<', "lt".toList), ('>', "gt".toList), ('"', "quot".toList),
   ('\t', "#9".toList), ('\n', "#10".toList), ('\r', "#13".toList)]

theorem reference?_written (h : (c, body) ∈ writtenReferences) (rest : List Char) :
    reference? (body ++ ';' :: rest) = some (c, body.length + 1) := by
  have hclosed : ∀ x ∈ writtenReferences,
      ';' ∉ x.2 ∧ reference? (x.2 ++ [';']) = some (x.1, x.2.length + 1) := by decide
  obtain ⟨hbody, hvalue⟩ := hclosed _ h
  rw [reference?_append hbody, hvalue]

/-- A character of a value is written as a reference, or it stands for itself. -/
theorem escapeValueChar_cases (c : Char) :
    (∃ body, (c, body) ∈ writtenReferences ∧ escapeValueChar c = '&' :: (body ++ [';'])) ∨
      (escapeValueChar c = [c] ∧ c ∉ ['&', '<', '"', '\t', '\n', '\r']) := by
  unfold escapeValueChar
  split
  · exact .inl ⟨"amp".toList, by decide, rfl⟩
  · exact .inl ⟨"lt".toList, by decide, rfl⟩
  · exact .inl ⟨"gt".toList, by decide, rfl⟩
  · exact .inl ⟨"quot".toList, by decide, rfl⟩
  · exact .inl ⟨"#9".toList, by decide, rfl⟩
  · exact .inl ⟨"#10".toList, by decide, rfl⟩
  · exact .inl ⟨"#13".toList, by decide, rfl⟩
  · simp_all

/-! ## Values -/

theorem readValue_skip (quote : Char) (skipped rest : List Char) :
    readValue quote skipped.length (skipped ++ rest) = readValue quote 0 rest := by
  induction skipped with
  | nil => rfl
  | cons c skipped ih => simp only [length_cons, cons_append, readValue, ih]

theorem readValue_escapeChar (c : Char) (rest : List Char) :
    readValue '"' 0 (escapeValueChar c ++ rest) =
      (readValue '"' 0 rest).map fun (value, after) => (c :: value, after) := by
  rcases escapeValueChar_cases c with ⟨body, hbody, hescape⟩ | ⟨hescape, hplain⟩
  · have hskip := readValue_skip '"' (body ++ [';']) rest
    simp only [length_append, length_singleton, append_assoc, singleton_append] at hskip
    rw [hescape]
    simp [readValue, reference?_written hbody, hskip, map_eq_bind, Function.comp_def]
  · simp only [mem_cons, not_mem_nil, or_false, not_or] at hplain
    obtain ⟨hamp, hless, hquote, htab, hfeed, hreturn⟩ := hplain
    have hblank : (if isBlank c then ' ' else c) = c := by
      by_cases hspace : c = ' '
      · simp [hspace, isBlank]
      · simp [isBlank, hspace, htab, hfeed, hreturn]
    rw [hescape]
    simp [readValue, hquote, hless, hamp, hreturn, hblank, map_eq_bind, Function.comp_def]

/-- Every value is read back from its written form. -/
theorem readValue_escape (value rest : List Char) :
    readValue '"' 0 (value.flatMap escapeValueChar ++ '"' :: rest) = some (value, rest) := by
  induction value with
  | nil => simp [readValue]
  | cons c value ih =>
    rw [flatMap_cons, append_assoc, readValue_escapeChar, ih]
    rfl

/-! ## Attributes -/

/-- One attribute is read back, and reading goes on behind it. -/
theorem readAttributes_writeAttribute (hname : RegularName name) (value : List Char) (fuel : Nat) (rest : List Char) :
    readAttributes .editing (fuel + 1) (writeAttribute name.render value ++ rest) =
      (readAttributes .editing fuel rest).map fun (attributes, isEmpty, after) =>
        ((name, value) :: attributes, isEmpty, after) := by
  obtain ⟨c, word, hword, hblank, hmark⟩ := hname.written.exists_cons
  simp only [mem_cons, not_mem_nil, or_false, not_or] at hmark
  have htext : writeAttribute name.render value ++ rest =
      ' ' :: (name.render.toList ++ '=' :: '"' :: (value.flatMap escapeValueChar ++ '"' :: rest)) := by
    simp [writeAttribute]
  have hvalue := readValue_escape value rest
  rw [htext]
  generalize value.flatMap escapeValueChar ++ '"' :: rest = written at hvalue
  have hbody : (' ' :: (name.render.toList ++ '=' :: '"' :: written)).dropWhile isBlank =
      name.render.toList ++ '=' :: '"' :: written := by
    rw [dropWhile_cons_of_pos (by decide), hword, cons_append, dropWhile_cons_of_neg (by simp [hblank])]
  have hread : name? .editing (name.render.toList ++ '=' :: '"' :: written) = some (name, '=' :: '"' :: written) :=
    name?_append hname rfl
  rw [readAttributes, hbody]
  split
  · rename_i heq
    rw [hword] at heq
    exact absurd (List.cons.inj heq).1 hmark.1
  · rename_i heq
    rw [hword] at heq
    exact absurd (List.cons.inj heq).1 hmark.2.1
  · have hequals : ('=' :: '"' :: written).dropWhile isBlank = '=' :: '"' :: written := rfl
    have hquote : ('"' :: written).dropWhile isBlank = '"' :: written := rfl
    have hspace : isBlank ' ' := rfl
    simp [hread, hequals, hquote, hspace, hvalue, map_eq_bind, Function.comp_def]

/-- Attributes with regular names are read back in order, up to the end of the tag. -/
theorem readAttributes_append (hnames : ∀ a ∈ attributes, RegularName a.1) {ending : List Char} {isEmpty : Bool}
    (hending : (ending, isEmpty) ∈ [(['>'], false), (['/', '>'], true)]) {fuel : Nat}
    (hfuel : attributes.length < fuel) (rest : List Char) :
    readAttributes .editing fuel
        (attributes.flatMap (fun a => writeAttribute a.1.render a.2) ++ (ending ++ rest)) =
      some (attributes, isEmpty, rest) := by
  induction attributes generalizing fuel with
  | nil =>
    obtain ⟨fuel, rfl⟩ := Nat.exists_eq_add_of_lt hfuel
    simp only [mem_cons, Prod.mk.injEq, not_mem_nil, or_false] at hending
    rcases hending with ⟨rfl, rfl⟩ | ⟨rfl, rfl⟩ <;> rfl
  | cons a attributes ih =>
    obtain ⟨fuel, rfl⟩ : ∃ n, fuel = n + 1 := ⟨fuel - 1, by omega⟩
    rw [flatMap_cons, append_assoc, readAttributes_writeAttribute (hnames a mem_cons_self) a.2,
      ih (fun b hb => hnames b (mem_cons_of_mem _ hb)) (by simpa using hfuel)]
    rfl

/-! ## What was read -/

def IsDocumentText (text : List Char) : Prop := ∀ c ∈ text, isDocumentChar c

instance (text : List Char) : Decidable (IsDocumentText text) :=
  inferInstanceAs (Decidable (∀ c ∈ text, isDocumentChar c))

theorem isDocumentText_cons : IsDocumentText (c :: text) ↔ isDocumentChar c ∧ IsDocumentText text :=
  forall_mem_cons

theorem isDocumentText_append {more : List Char} :
    IsDocumentText (text ++ more) ↔ IsDocumentText text ∧ IsDocumentText more :=
  forall_mem_append

theorem IsDocumentText.of_suffix (h : IsDocumentText text) (hrest : rest <:+ text) : IsDocumentText rest :=
  fun c hc => h c (hrest.subset hc)

theorem isDocumentChar_of_isWrittenChar (h : isWrittenChar .editing c) : isDocumentChar c := by
  have hle : ∀ a b : Char, a ≤ b ↔ a.toNat ≤ b.toNat := fun a b => Iff.rfl
  have heq : ∀ a b : Char, a = b ↔ a.toNat = b.toNat := fun a b => Char.toNat_inj.symm
  have hascii : 'a'.toNat = 97 ∧ 'z'.toNat = 122 ∧ 'A'.toNat = 65 ∧ 'Z'.toNat = 90 ∧ '0'.toNat = 48 ∧
      '9'.toNat = 57 ∧ '_'.toNat = 95 ∧ '-'.toNat = 45 ∧ '.'.toNat = 46 ∧ ':'.toNat = 58 := by decide
  simp only [isWrittenChar, isNameChar, isOpenChar, isOpenStart, isAsciiLetter, isAsciiDigit,
    Bool.or_eq_true, Bool.and_eq_true, decide_eq_true_eq, beq_iff_eq, bne_iff_ne, ne_eq, hle, heq] at h
  simp only [isDocumentChar, Bool.or_eq_true, Bool.and_eq_true, decide_eq_true_eq, beq_iff_eq]
  omega

theorem isDocumentChar_of_charOfDigits? {base : Nat} {digits : List Char} (h : charOfDigits? base digits = some c) :
    isDocumentChar c := by
  simp only [charOfDigits?, bind_eq_bind] at h
  split at h
  · simp at h
  · simp only [bind_eq_some_iff] at h
    obtain ⟨values, -, h⟩ := h
    split at h
    · rename_i hcode
      simp only [Bool.and_eq_true] at hcode
      cases h
      exact hcode.2
    · simp at h

theorem isDocumentChar_of_reference? {size : Nat} (h : reference? text = some (c, size)) : isDocumentChar c := by
  simp only [reference?, bind_eq_bind] at h
  split at h
  · simp at h
  · split at h
    · simp only [map_eq_some_iff, Prod.mk.injEq] at h
      obtain ⟨d, hd, rfl, -⟩ := h
      exact isDocumentChar_of_charOfDigits? hd
    · simp only [map_eq_some_iff, Prod.mk.injEq] at h
      obtain ⟨d, hd, rfl, -⟩ := h
      exact isDocumentChar_of_charOfDigits? hd
    · cases h
      decide
    · cases h
      decide
    · cases h
      decide
    · cases h
      decide
    · cases h
      decide
    · simp at h

theorem readValue_fits {quote : Char} {skip : Nat} {value after : List Char}
    (h : readValue quote skip text = some (value, after)) (htext : IsDocumentText text) :
    IsDocumentText value ∧ after <:+ text := by
  induction text generalizing skip value with
  | nil => simp [readValue] at h
  | cons c text ih =>
    have hrest : IsDocumentText text := htext.of_suffix (suffix_cons c text)
    cases skip with
    | succ skip =>
      simp only [readValue] at h
      obtain ⟨hvalue, hafter⟩ := ih h hrest
      exact ⟨hvalue, hafter.trans (suffix_cons c text)⟩
    | zero =>
      simp only [readValue] at h
      split at h
      · cases h
        exact ⟨fun _ hc => absurd hc not_mem_nil, suffix_cons _ _⟩
      · split at h
        · simp at h
        · split at h
          · simp only [bind_eq_bind, bind_eq_some_iff] at h
            obtain ⟨⟨d, size⟩, hreference, ⟨value', after'⟩, hread, h⟩ := h
            cases h
            obtain ⟨hvalue, hafter⟩ := ih hread hrest
            exact ⟨isDocumentText_cons.2 ⟨isDocumentChar_of_reference? hreference, hvalue⟩,
              hafter.trans (suffix_cons c text)⟩
          · simp only [bind_eq_bind, bind_eq_some_iff] at h
            obtain ⟨⟨value', after'⟩, hread, h⟩ := h
            cases h
            obtain ⟨hvalue, hafter⟩ := ih hread hrest
            refine ⟨isDocumentText_cons.2 ⟨?_, hvalue⟩, hafter.trans (suffix_cons c text)⟩
            split
            · decide
            · exact htext c mem_cons_self

theorem readAttributes_fits {fuel : Nat} {isEmpty : Bool}
    (h : readAttributes .editing fuel text = some (attributes, isEmpty, rest)) (htext : IsDocumentText text) :
    (∀ a ∈ attributes, RegularName a.1 ∧ IsDocumentText a.2) ∧ rest <:+ text := by
  induction fuel generalizing text attributes with
  | zero => simp [readAttributes] at h
  | succ fuel ih =>
    have hbody := dropWhile_suffix (p := isBlank) (l := text)
    simp only [readAttributes] at h
    split at h
    · rename_i heq
      cases h
      rw [heq] at hbody
      exact ⟨by simp, (suffix_cons _ _).trans hbody⟩
    · rename_i heq
      cases h
      rw [heq] at hbody
      exact ⟨by simp, ((suffix_cons _ _).trans (suffix_cons _ _)).trans hbody⟩
    · split at h
      · simp at h
      · simp only [bind_eq_bind, bind_eq_some_iff] at h
        obtain ⟨⟨name, rest₁⟩, hname, h⟩ := h
        obtain ⟨hregular, hsplit⟩ := regular_of_name? hname
        have hrest₁ : rest₁ <:+ text := (hsplit ▸ suffix_append _ rest₁).trans hbody
        split at h
        · rename_i rest₂ hequals
          have hrest₂ : rest₂ <:+ text := ((suffix_cons _ _).trans (hequals ▸ dropWhile_suffix _)).trans hrest₁
          split at h
          · rename_i quote rest₃ hquote
            have hrest₃ : rest₃ <:+ text := ((suffix_cons _ _).trans (hquote ▸ dropWhile_suffix _)).trans hrest₂
            split at h
            · simp at h
            · simp only [bind_eq_some_iff] at h
              obtain ⟨⟨value, rest₄⟩, hvalue, ⟨attributes', isEmpty', rest₅⟩, hattributes, h⟩ := h
              cases h
              obtain ⟨hfits, hrest₄⟩ := readValue_fits hvalue (htext.of_suffix hrest₃)
              have hrest₄ := hrest₄.trans hrest₃
              obtain ⟨hall, hrest⟩ := ih hattributes (htext.of_suffix hrest₄)
              refine ⟨?_, hrest.trans hrest₄⟩
              rw [forall_mem_cons]
              exact ⟨⟨hregular, hfits⟩, hall⟩
          · simp at h
        · simp at h

variable {a b : Char} {taken after content target : List Char} (qualifier : String)

/-! ## Text up to two characters -/

def Apart (a b : Char) (text : List Char) : Prop := text.IsChain fun c d => ¬(c = a ∧ d = b)

/-- A text in which `a` and `b` first meet behind `taken`. -/
theorem before?_append (h : Apart a b (taken ++ [a])) (rest : List Char) :
    before? [a, b] (taken ++ a :: b :: rest) = some (taken, a :: b :: rest) := by
  induction taken with
  | nil => simp [before?]
  | cons c taken ih =>
    obtain ⟨hfirst, htail⟩ := isChain_cons.1 h
    have hno : ∀ d more, ¬(c = a ∧ d = b) → [a, b].isPrefixOf (c :: d :: more) = false := by
      intro d more hapart
      simp only [List.isPrefixOf, Bool.and_true, Bool.and_eq_false_imp, beq_iff_eq, beq_eq_false_iff_ne]
      exact fun ha hb => hapart ⟨ha.symm, hb.symm⟩
    have hfront : [a, b].isPrefixOf (c :: (taken ++ a :: b :: rest)) = false := by
      cases taken with
      | nil => exact hno a _ (hfirst a rfl)
      | cons d taken => exact hno d _ (hfirst d rfl)
    simp [before?, hfront, ih htail]

theorem append_of_before? {piece : List Char} (h : before? piece text = some (taken, after)) :
    text = taken ++ after := by
  induction text generalizing taken with
  | nil =>
    simp only [before?] at h
    split at h
    · cases h
      rfl
    · simp at h
  | cons c text ih =>
    simp only [before?] at h
    split at h
    · cases h
      rfl
    · simp only [map_eq_some_iff, Prod.mk.injEq] at h
      obtain ⟨⟨taken', after'⟩, hbefore, rfl, rfl⟩ := h
      rw [ih hbefore, cons_append]

theorem apart_of_before? (h : before? [a, b] text = some (taken, after)) :
    Apart a b (taken ++ [a]) ∧ ∃ rest, after = a :: b :: rest := by
  induction text generalizing taken with
  | nil => simp [before?] at h
  | cons c text ih =>
    simp only [before?] at h
    split at h
    · rename_i hfront
      cases h
      obtain ⟨rest, hrest⟩ := isPrefixOf_iff_prefix.1 hfront
      exact ⟨.singleton a, rest, hrest.symm⟩
    · rename_i hfront
      simp only [map_eq_some_iff, Prod.mk.injEq] at h
      obtain ⟨⟨taken', after'⟩, hbefore, rfl, rfl⟩ := h
      obtain ⟨hapart, rest, hafter⟩ := ih hbefore
      simp only at hafter
      refine ⟨isChain_cons.2 ⟨?_, hapart⟩, rest, hafter⟩
      rintro d hd ⟨rfl, rfl⟩
      apply hfront
      rw [ isPrefixOf_iff_prefix, append_of_before? hbefore, hafter]
      cases taken' with
      | nil =>
        cases hd
        exact ⟨_, rfl⟩
      | cons e taken' =>
        cases hd
        exact ⟨taken' ++ c :: d :: rest, rfl⟩

/-- Unified line ends keep two other characters apart. -/
theorem Apart.unifyNewlines (ha : a ≠ '\n') (hb : b ≠ '\n') (h : Apart a b text) : Apart a b (unifyNewlines text) := by
  fun_induction Text.unifyNewlines text with
  | case1 => exact .nil
  | case2 rest ih =>
    refine isChain_cons.2 ⟨?_, ih (isChain_cons.1 (isChain_cons.1 h).2).2⟩
    rintro d - ⟨hfeed, -⟩
    exact ha hfeed.symm
  | case3 rest _ ih =>
    refine isChain_cons.2 ⟨?_, ih (isChain_cons.1 h).2⟩
    rintro d - ⟨hfeed, -⟩
    exact ha hfeed.symm
  | case4 c rest _ _ ih =>
    refine isChain_cons.2 ⟨?_, ih (isChain_cons.1 h).2⟩
    intro d hd
    rw [head?_unifyNewlines, mem_def, map_eq_some_iff] at hd
    obtain ⟨e, he, rfl⟩ := hd
    split
    · exact fun hmeet => hb hmeet.2.symm
    · exact (isChain_cons.1 h).1 e he

/-! ## Tags -/

/-- The name under which a declaration stands among the attributes. -/
def declaringName : XmlName :=
  if qualifier = "" then ⟨"", "xmlns"⟩ else ⟨"xmlns", qualifier⟩

theorem render_declaringName : (declaringName qualifier).render = declarationName qualifier := by
  unfold declaringName declarationName
  by_cases h : qualifier = ""
  · simp [h, XmlName.render]
  · simp only [h, if_false, beq_iff_eq, XmlName.render]
    rfl

theorem declared?_declaringName : declared? (declaringName qualifier) = some qualifier := by
  unfold declaringName
  by_cases h : qualifier = ""
  · simp [h, declared?]
  · simp [h, declared?]

def writtenAttributes (tag : XmlTag) : List (XmlName × List Char) :=
  tag.declarations.map (fun d => (declaringName d.1, d.2.toList)) ++ tag.attributes

theorem writeTag_eq (tag : XmlTag) :
    writeTag tag = tag.name.render.toList ++
      (writtenAttributes tag).flatMap fun a => writeAttribute a.1.render a.2 := by
  simp [writeTag, writtenAttributes, flatMap_map, render_declaringName]

/-- A tag that is read back from its written form. -/
structure RegularTag (tag : XmlTag) : Prop where
  name : RegularName tag.name
  names : ∀ a ∈ writtenAttributes tag, RegularName a.1
  plain : ∀ a ∈ tag.attributes, declared? a.1 = none
  values : ∀ a ∈ writtenAttributes tag, IsDocumentText a.2

theorem tagOf_writtenAttributes {tag : XmlTag} (h : RegularTag tag) :
    tagOf tag.name (writtenAttributes tag) = tag := by
  have hdeclarations : ∀ declarations : List (String × String),
      (declarations.map fun d => (declaringName d.1, d.2.toList)).filterMap (fun a =>
        (declared? a.1).map fun qualifier => (qualifier, String.ofList a.2)) = declarations := by
    intro declarations
    rw [filterMap_map]
    conv => rhs; rw [← filterMap_some (l := declarations)]
    congr 1
    funext d
    simp [declared?_declaringName]
  have hnone : tag.attributes.filterMap (fun a =>
      (declared? a.1).map fun qualifier => (qualifier, String.ofList a.2)) = [] := by
    rw [filterMap_eq_nil_iff]
    intro a ha
    simp [h.plain a ha]
  have hkept : tag.attributes.filter (fun a => (declared? a.1).isNone) = tag.attributes := by
    rw [filter_eq_self]
    intro a ha
    simp [h.plain a ha]
  have hdropped : (tag.declarations.map fun d => (declaringName d.1, d.2.toList)).filter
      (fun a => (declared? a.1).isNone) = [] := by
    rw [filter_eq_nil_iff]
    intro a ha
    obtain ⟨d, -, rfl⟩ := mem_map.1 ha
    simp [declared?_declaringName]
  unfold tagOf writtenAttributes
  rw [filterMap_append, filter_append, hdeclarations, hnone, hdropped, hkept]
  simp

/-- What follows a left angle bracket is a tag if it starts with no other mark. -/
theorem readMarkup_tag {c : Char} (hc : c ∉ ['>', '/', '!', '?']) (rest : List Char) :
    readMarkup .editing (c :: rest) = (do
      let (name, rest) ← name? .editing (c :: rest)
      let (attributes, isEmpty, rest) ← readAttributes .editing (rest.length + 1) rest
      return (.start (tagOf name attributes) isEmpty, rest)) := by
  simp only [mem_cons, not_mem_nil, or_false, not_or] at hc
  unfold readMarkup
  split
  · rename_i heq
    exact absurd (List.cons.inj heq).1 hc.2.2.1
  · rename_i heq
    exact absurd (List.cons.inj heq).1 hc.2.2.1
  · rename_i heq
    exact absurd (List.cons.inj heq).1 hc.2.2.2
  · rename_i heq
    exact absurd (List.cons.inj heq).1 hc.2.1
  · rfl

theorem readToken_start {tag : XmlTag} (h : RegularTag tag) {ending : List Char} {isEmpty : Bool}
    (hending : (ending, isEmpty) ∈ [(['>'], false), (['/', '>'], true)]) (rest : List Char) :
    readToken .editing ('<' :: writeTag tag ++ (ending ++ rest)) = some (.start tag isEmpty, rest) := by
  obtain ⟨c, word, hword, -, hmark⟩ := h.name.written.exists_cons
  have hstop : ((writtenAttributes tag).flatMap (fun a => writeAttribute a.1.render a.2) ++
      (ending ++ rest)).head?.any (isWrittenChar .editing) = false := by
    cases writtenAttributes tag with
    | nil =>
      simp only [mem_cons, Prod.mk.injEq, not_mem_nil, or_false] at hending
      rcases hending with ⟨rfl, -⟩ | ⟨rfl, -⟩ <;> rfl
    | cons a attributes => rfl
  have hfuel : (writtenAttributes tag).length <
      ((writtenAttributes tag).flatMap (fun a => writeAttribute a.1.render a.2) ++
        (ending ++ rest)).length + 1 := by
    have hle : ∀ attributes : List (XmlName × List Char),
        attributes.length ≤ (attributes.flatMap fun a => writeAttribute a.1.render a.2).length := by
      intro attributes
      induction attributes with
      | nil => exact Nat.le_refl 0
      | cons a attributes ih =>
        have hone : 1 ≤ (writeAttribute a.1.render a.2).length := by simp [writeAttribute]
        simp only [flatMap_cons, length_append, length_cons]
        omega
    have := hle (writtenAttributes tag)
    simp only [length_append]
    omega
  have hname := name?_append h.name hstop
  have hattributes := readAttributes_append h.names hending hfuel rest
  rw [writeTag_eq, cons_append, append_assoc]
  simp only [readToken]
  rw [hword, cons_append] at hname ⊢
  rw [readMarkup_tag hmark, hname]
  simp only [bind_eq_bind, bind_some, hattributes, tagOf_writtenAttributes h]
  rfl

theorem readToken_finish {word : List Char} (h : IsWritten word) (rest : List Char) :
    readToken .editing ('<' :: '/' :: word ++ '>' :: rest) = some (.finish word, rest) := by
  have hread := written?_append h (by rfl : ('>' :: rest).head?.any (isWrittenChar .editing) = false)
  have hclose : ('>' :: rest).dropWhile isBlank = '>' :: rest := rfl
  simp only [readToken, cons_append, readMarkup, hread, bind_eq_bind, bind_some, hclose]

/-! ## Comments and instructions -/

/-- The content of a comment that is read back from its written form. -/
structure RegularComment (content : List Char) : Prop where
  apart : Apart '-' '-' (content ++ ['-'])
  unified : '\r' ∉ content
  fits : IsDocumentText content

theorem readToken_comment (h : RegularComment content) (rest : List Char) :
    readToken .editing ("<!--".toList ++ content ++ "-->".toList ++ rest) =
      some (.comment content, rest) := by
  have htext : "<!--".toList ++ content ++ "-->".toList ++ rest =
      '<' :: '!' :: '-' :: '-' :: (content ++ '-' :: '-' :: '>' :: rest) := by simp
  rw [htext]
  simp only [readToken, readMarkup, before?_append h.apart, bind_eq_bind, bind_some, unifyNewlines_of_not_mem h.unified]

/-- An instruction that is read back from its written form. -/
structure RegularInstruction (target : List Char) (content : Option (List Char)) : Prop where
  written : IsWritten target
  notDeclaration : target.map Char.toLower ≠ ['x', 'm', 'l']
  apart : ∀ text ∈ content, Apart '?' '>' (text ++ ['?'])
  trimmed : ∀ text ∈ content, text.head?.any isBlank = false
  unified : ∀ text ∈ content, '\r' ∉ text
  fits : ∀ text ∈ content, IsDocumentText text

theorem readToken_instruction {target : String} {content : Option (List Char)}
    (h : RegularInstruction target.toList content) (rest : List Char) :
    readToken .editing ("<?".toList ++ target.toList ++ (content.map (' ' :: ·)).getD [] ++ "?>".toList ++
        rest) = some (.instruction target content, rest) := by
  have htext : "<?".toList ++ target.toList ++ (content.map (' ' :: ·)).getD [] ++ "?>".toList ++ rest =
      '<' :: '?' :: (target.toList ++ ((content.map (' ' :: ·)).getD [] ++ '?' :: '>' :: rest)) := by simp
  have htarget : target? .editing
      (target.toList ++ ((content.map (' ' :: ·)).getD [] ++ '?' :: '>' :: rest)) =
        some (target.toList, (content.map (' ' :: ·)).getD [] ++ '?' :: '>' :: rest) := by
    have hstop : ((content.map (' ' :: ·)).getD [] ++ '?' :: '>' :: rest).head?.any
        (isWrittenChar .editing) = false := by
      cases content <;> rfl
    simp [target?, written?_append h.written hstop, h.notDeclaration]
  have hapart : Apart '?' '>' ((content.map (' ' :: ·)).getD [] ++ ['?']) := by
    cases content with
    | none => exact .singleton '?'
    | some text =>
      refine isChain_cons.2 ⟨?_, h.apart text rfl⟩
      rintro d - ⟨hblank, -⟩
      exact absurd hblank (by decide)
  have hcontent : instructionContent? ((content.map (' ' :: ·)).getD []) = some content := by
    cases content with
    | none => rfl
    | some text =>
      have hdrop : text.dropWhile isBlank = text := by
        cases text with
        | nil => rfl
        | cons c text =>
          have hc : isBlank c = false := by simpa using h.trimmed _ rfl
          simp [hc]
      have hblank : isBlank ' ' := rfl
      simp [instructionContent?, hblank, hdrop, unifyNewlines_of_not_mem (h.unified text rfl)]
  rw [htext]
  simp only [readToken, readMarkup, htarget, before?_append hapart, hcontent, bind_eq_bind, bind_some]
  simp

/-! ## What was read -/

theorem declaringName_of_declared? (hname : RegularName name) {qualifier : String}
    (h : declared? name = some qualifier) : declaringName qualifier = name := by
  obtain ⟨outer, base⟩ := name
  simp only [declared?, beq_iff_eq, Bool.and_eq_true] at h
  split at h
  · rename_i houter
    cases h
    subst houter
    have hbase : qualifier ≠ "" := by
      rintro rfl
      -- A qualifier with nothing behind its colon is not cut off.
      have hcut := hname.cut
      exact absurd hcut (by decide)
    simp [declaringName, hbase]
  · split at h
    · rename_i hdefault
      cases h
      obtain ⟨rfl, rfl⟩ := hdefault
      rfl
    · simp at h

theorem regularTag_tagOf (hname : RegularName name) {attributes : List (XmlName × List Char)}
    (hattributes : ∀ a ∈ attributes, RegularName a.1 ∧ IsDocumentText a.2) : RegularTag (tagOf name attributes) := by
  have hwritten : ∀ a ∈ writtenAttributes (tagOf name attributes), a ∈ attributes := by
    intro a ha
    simp only [writtenAttributes, tagOf, mem_append, List.mem_map, mem_filterMap, mem_filter, map_eq_some_iff] at ha
    rcases ha with ⟨d, ⟨b, hb, qualifier, hqualifier, rfl⟩, rfl⟩ | ⟨ha, -⟩
    · rw [declaringName_of_declared? (hattributes b hb).1 hqualifier, String.toList_ofList]
      exact hb
    · exact ha
  refine ⟨hname, fun a ha => (hattributes a (hwritten a ha)).1, ?_,
    fun a ha => (hattributes a (hwritten a ha)).2⟩
  intro a ha
  exact isNone_iff_eq_none.1 (mem_filter.1 ha).2

/-- A token whose parts are read back from their written form. -/
def RegularToken : Token → Prop
  | .start tag _ => RegularTag tag
  | .finish _ => True
  | .text content _ => IsDocumentText content
  | .reference c => isDocumentChar c
  | .verbatim content => IsDocumentText content
  | .comment content => RegularComment content
  | .instruction target content => RegularInstruction target.toList content

theorem IsDocumentText.unifyNewlines (h : IsDocumentText text) : IsDocumentText (unifyNewlines text) := by
  intro c hc
  rcases mem_unifyNewlines hc with hc | rfl
  · exact h c hc
  · decide

theorem regularComment_of_before? (h : before? ['-', '-'] text = some (content, after)) (htext : IsDocumentText text) :
    RegularComment (unifyNewlines content) ∧ after <:+ text := by
  obtain ⟨hapart, rest, rfl⟩ := apart_of_before? h
  have hsplit := append_of_before? h
  subst hsplit
  refine ⟨⟨?_, not_mem_unifyNewlines content, ?_⟩, suffix_append _ _⟩
  · rw [← unifyNewlines_concat content (by decide) (by decide)]
    exact hapart.unifyNewlines (by decide) (by decide)
  · exact IsDocumentText.unifyNewlines fun c hc => htext c (mem_append_left _ hc)

theorem regularInstruction_of_before? (htarget : IsWritten target) (hname : target.map Char.toLower ≠ ['x', 'm', 'l'])
    (h : before? ['?', '>'] text = some (content, after)) (htext : IsDocumentText text) {kept : Option (List Char)}
    (hkept : instructionContent? content = some kept) : RegularInstruction target kept ∧ after <:+ text := by
  obtain ⟨hapart, rest, rfl⟩ := apart_of_before? h
  have hsplit := append_of_before? h
  subst hsplit
  refine ⟨?_, suffix_append _ _⟩
  cases content with
  | nil =>
    cases hkept
    exact ⟨htarget, hname, by simp, by simp, by simp, by simp⟩
  | cons c content =>
    simp only [instructionContent?] at hkept
    split at hkept
    · cases hkept
      have hsuffix := dropWhile_suffix (p := isBlank) (l := content)
      refine ⟨htarget, hname, ?_, ?_, ?_, ?_⟩
      · rintro _ ⟨⟩
        rw [← unifyNewlines_concat _ (by decide) (by decide)]
        refine Apart.unifyNewlines (by decide) (by decide) ?_
        obtain ⟨front, hfront⟩ := hsuffix
        rw [← hfront, ← cons_append, append_assoc] at hapart
        exact (isChain_append.1 hapart).2.1
      · rintro _ ⟨⟩
        have hfirst := head?_dropWhile_not isBlank content
        rw [head?_unifyNewlines]
        rcases hhead : (content.dropWhile isBlank).head? with _ | d
        · rfl
        · have hd : isBlank d = false := by simpa [hhead] using hfirst
          have hreturn : d ≠ '\r' := by
            rintro rfl
            exact absurd hd (by decide)
          simp [hreturn, hd]
      · rintro _ ⟨⟩
        exact not_mem_unifyNewlines _
      · rintro _ ⟨⟩
        apply IsDocumentText.unifyNewlines
        intro d hd
        exact htext d (mem_append_left _ (mem_cons_of_mem _ (hsuffix.subset hd)))
    · simp at hkept

theorem written?_of_target? (h : target? .editing text = some (target, rest)) :
    written? .editing text = some (target, rest) ∧ target.map Char.toLower ≠ ['x', 'm', 'l'] := by
  simp only [target?, bind_eq_bind, bind_eq_some_iff] at h
  obtain ⟨⟨word, rest'⟩, hwritten, h⟩ := h
  split at h
  · simp at h
  · rename_i hname
    simp at h
    obtain ⟨rfl, rfl⟩ := h
    exact ⟨hwritten, by simpa using hname⟩

theorem regular_of_readMarkup {token : Token} (h : readMarkup .editing text = some (token, rest))
    (htext : IsDocumentText text) : RegularToken token ∧ rest <:+ text := by
  unfold readMarkup at h
  split at h
  · rename_i inner
    have hinner : inner <:+ '!' :: '-' :: '-' :: inner := ⟨['!', '-', '-'], rfl⟩
    simp only [bind_eq_bind, bind_eq_some_iff] at h
    obtain ⟨⟨content, after⟩, hbefore, h⟩ := h
    obtain ⟨hcomment, hafter⟩ := regularComment_of_before? hbefore (htext.of_suffix hinner)
    split at h
    · rename_i rest' hend
      cases h
      have hrest : rest <:+ after := ⟨['-', '-', '>'], hend.symm⟩
      exact ⟨hcomment, (hrest.trans hafter).trans hinner⟩
    · simp at h
  · rename_i inner
    have hinner : inner <:+ '!' :: '[' :: 'C' :: 'D' :: 'A' :: 'T' :: 'A' :: '[' :: inner :=
      ⟨['!', '[', 'C', 'D', 'A', 'T', 'A', '['], rfl⟩
    simp only [bind_eq_bind, bind_eq_some_iff] at h
    obtain ⟨⟨content, after⟩, hbefore, h⟩ := h
    have hsplit := append_of_before? hbefore
    cases h
    refine ⟨IsDocumentText.unifyNewlines fun c hc => ?_, ?_⟩
    · exact htext c (hinner.subset (hsplit ▸ mem_append_left _ hc))
    · exact ((drop_suffix 3 after).trans (hsplit ▸ suffix_append content after)).trans hinner
  · rename_i inner
    simp only [bind_eq_bind, bind_eq_some_iff] at h
    obtain ⟨⟨target, rest₁⟩, htarget, ⟨content, after⟩, hbefore, kept, hkept, h⟩ := h
    cases h
    obtain ⟨hwritten, hname⟩ := written?_of_target? htarget
    obtain ⟨htarget, hsplit⟩ := isWritten_of_written? hwritten
    have hrest₁ : rest₁ <:+ '?' :: inner := (hsplit ▸ suffix_append target rest₁).trans (suffix_cons _ _)
    obtain ⟨hinstruction, hafter⟩ := regularInstruction_of_before? htarget hname hbefore (htext.of_suffix hrest₁) hkept
    refine ⟨?_, ((drop_suffix 2 after).trans hafter).trans hrest₁⟩
    simpa [RegularToken] using hinstruction
  · rename_i inner
    simp only [bind_eq_bind, bind_eq_some_iff] at h
    obtain ⟨⟨name, rest₁⟩, hname, h⟩ := h
    split at h
    · rename_i rest₂ hclose
      cases h
      refine ⟨trivial, ?_⟩
      have hrest₁ : rest₁ <:+ inner := (isWritten_of_written? hname).2 ▸ suffix_append name rest₁
      have hrest₂ : rest <:+ rest₁ := (suffix_cons _ _).trans (hclose ▸ dropWhile_suffix _)
      exact (hrest₂.trans hrest₁).trans (suffix_cons _ _)
    · simp at h
  · simp only [bind_eq_bind, bind_eq_some_iff] at h
    obtain ⟨⟨name, rest₁⟩, hname, ⟨attributes, isEmpty, rest₂⟩, hattributes, h⟩ := h
    cases h
    obtain ⟨hregular, hsplit⟩ := regular_of_name? hname
    have hrest₁ : rest₁ <:+ text := hsplit ▸ suffix_append _ rest₁
    obtain ⟨hall, hrest⟩ := readAttributes_fits hattributes (htext.of_suffix hrest₁)
    exact ⟨regularTag_tagOf hregular hall, hrest.trans hrest₁⟩

theorem regular_of_readToken {token : Token} (h : readToken .editing text = some (token, rest))
    (htext : IsDocumentText text) : RegularToken token ∧ rest <:+ text := by
  unfold readToken at h
  split at h
  · rename_i inner
    obtain ⟨hregular, hrest⟩ := regular_of_readMarkup h (htext.of_suffix (suffix_cons _ _))
    exact ⟨hregular, hrest.trans (suffix_cons _ _)⟩
  · simp only [bind_eq_bind, bind_eq_some_iff] at h
    obtain ⟨⟨c, size⟩, hreference, h⟩ := h
    cases h
    exact ⟨isDocumentChar_of_reference? hreference, (drop_suffix _ _).trans (suffix_cons _ _)⟩
  · simp only [] at h
    split at h
    · simp at h
    · cases h
      refine ⟨IsDocumentText.unifyNewlines fun c hc => htext c (mem_of_mem_take hc), ?_⟩
      exact drop_suffix _ _

end StudioMigration.Xml
