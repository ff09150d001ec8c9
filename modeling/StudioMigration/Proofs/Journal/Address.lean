import StudioMigration.Proofs.Journal.Mark
import StudioMigration.Proofs.Pattern.Reading
import StudioMigration.Proofs.Pattern.WordMatch

/-!
# Web addresses in marked texts

Addresses are looked for when the help topics of a message are marked already, so that the path of an address
can run into the styles of a topic. It never ends inside of a style: a path is as long as can be, a style ends
with a letter, and behind that letter or the word that follows it the path could have ended as well.

* `matchAt_address_spec` says what the pattern for addresses matches.
* `exists_marks_of_mem_findAddresses` says that an address in a marked text consists of marks.
-/

namespace StudioMigration

open List Pattern Text

variable {c : Char} {rest text address before after : List Char} {marks : List Mark} {pieces : List (List Char)}
  {found : Pattern.Match}

namespace Pattern

variable {start stop : Cursor}

theorem rest_eq_of_reads_chars {text : List Char} (h : (chars text).Reads start stop) :
    start.rest = text ++ stop.rest := by
  induction text generalizing start with
  | nil =>
    cases h
    rfl
  | cons c text ih =>
    cases h with
    | seq hfirst hrest =>
      cases hfirst with
      | char hc =>
        have hnext := ih hrest
        simp_all

theorem exists_reads_of_reads_all_append {parts more : List Pattern} (h : (all (parts ++ more)).Reads start stop) :
    ∃ middle, (all parts).Reads start middle ∧ (all more).Reads middle stop := by
  induction parts generalizing start with
  | nil => exact ⟨start, .empty start, h⟩
  | cons part parts ih =>
    cases h with
    | seq hpart hrest =>
      obtain ⟨middle, hparts, hmore⟩ := ih hrest
      exact ⟨middle, .seq hpart hparts, hmore⟩

theorem exists_last_of_reads_many1 {accepts : Char → Bool} (h : (many1 accepts).Reads start stop) :
    ∃ c before, stop.before = c :: before ∧ accepts c := by
  cases h with
  | seq hfirst hmore =>
    cases hfirst with
    | char hc =>
      cases hmore with
      | @many _ _ taken _ _ htaken =>
        cases hlast : taken.reverse with
        | nil => exact ⟨_, _, rfl, hc⟩
        | cons d before =>
          refine ⟨d, _, rfl, htaken d ?_⟩
          rw [← mem_reverse, hlast]
          exact mem_cons_self

end Pattern

/-! ## What the pattern matches -/

/-- The parts of the pattern for addresses behind the scheme and before the path. -/
def addressHost : List Pattern :=
  [.optional (.literal "s"), .literal "://", .optional (.literal "www."), .many1 isHostChar,
    .literal ".", .char Text.isAsciiLetter, .many1 Text.isAsciiLetter]

def addressPath : List Pattern :=
  [.optional (.seq (.literal "/") (.many fun c => !Text.isSpace c)), .boundary]

theorem addressPattern_eq :
    addressPattern = .all ([.boundary, .literal "http"] ++ addressHost ++ addressPath) := rfl

/-- Neither white space nor the escape character is read before the path of an address. -/
theorem not_canRead_front (h : isSpace c ∨ c = escapeChar) :
    (Pattern.all ([.boundary, .literal "http"] ++ addressHost)).canRead c = false := by
  have hall : ∀ n ∈ 0x1B :: spaceCodes,
      (Pattern.all ([.boundary, .literal "http"] ++ addressHost)).canRead (Char.ofNat n) = false := by
    decide +kernel
  have hcode : c.toNat ∈ 0x1B :: spaceCodes := by
    rcases h with hspace | rfl
    · exact mem_cons_of_mem _ (toNat_mem_spaceCodes hspace)
    · decide
  rw [← Char.ofNat_toNat c]
  exact hall _ hcode

/-- A text starts with one of the two schemes. -/
def HasScheme (text : List Char) : Prop := "http://".toList <+: text ∨ "https://".toList <+: text

theorem HasScheme.http (h : HasScheme text) : "http".toList <+: text :=
  h.elim (IsPrefix.trans (by decide)) (IsPrefix.trans (by decide))

theorem HasScheme.append (h : HasScheme text) (more : List Char) : HasScheme (text ++ more) :=
  h.imp (·.trans (prefix_append text more)) (·.trans (prefix_append text more))

/-- The scheme of an address is read first. -/
theorem hasScheme_of_reads {start stop : Cursor} (h : (all (.literal "http" :: addressHost)).Reads start stop)
    (hrest : start.rest = text ++ stop.rest) : HasScheme text := by
  cases h with
  | seq hhttp hmore =>
    cases hmore with
    | seq hsecure hmore =>
      cases hmore with
      | seq hcolon hhost =>
        obtain ⟨host, hhostRest, -, -⟩ := hhost.exists_taken
        have hfront := rest_eq_of_reads_chars hhttp
        rw [hrest] at hfront
        have hcolon := rest_eq_of_reads_chars hcolon
        rw [hhostRest] at hcolon
        cases hsecure with
        | either_first hs =>
          rw [rest_eq_of_reads_chars hs, hcolon] at hfront
          exact .inr ⟨host, (append_cancel_right hfront).symm⟩
        | either_second hnone =>
          cases hnone
          rw [hcolon] at hfront
          exact .inl ⟨host, (append_cancel_right hfront).symm⟩

/-- What is read before the path of an address: a text that starts with the scheme, without white space and
without the escape character, from the start of a word to a letter. -/
theorem exists_front_of_reads {start stop : Cursor}
    (h : (Pattern.all ([.boundary, .literal "http"] ++ addressHost)).Reads start stop) :
    ∃ front, start.rest = front ++ stop.rest ∧ HasScheme front ∧ (∀ c ∈ front, isSpace c = false ∧ c ≠ escapeChar) ∧
      stop = ⟨front.reverse ++ start.before, stop.rest, start.position + front.length⟩ ∧
      startsWord start.before = false ∧ startsWord stop.before := by
  obtain ⟨front, hrest, hcan, hstop⟩ := h.exists_taken
  have hfirst : HasScheme front ∧ start.atBoundary := by
    cases h with
    | seq hboundary hscheme =>
      cases hboundary with
      | place hat => exact ⟨hasScheme_of_reads hscheme hrest, hat⟩
  refine ⟨front, hrest, hfirst.1, fun c hc => ⟨?_, ?_⟩, hstop, ?_, ?_⟩
  · rw [← Bool.not_eq_true]
    intro hspace
    exact Bool.eq_false_iff.1 (not_canRead_front (.inl hspace)) (hcan c hc)
  · intro hescape
    exact Bool.eq_false_iff.1 (not_canRead_front (.inr hescape)) (hcan c hc)
  · obtain ⟨hscheme, hat⟩ := hfirst
    obtain ⟨tail, rfl⟩ := hscheme.http
    have hword : isWord 'h' := by decide
    simpa [Cursor.atBoundary, Cursor.parts, hrest, hword, startsWord] using hat
  · -- the host is read last, and its last part are letters
    have hparts : [.boundary, .literal "http"] ++ addressHost =
        [.boundary, .literal "http"] ++ addressHost.dropLast ++ [.many1 isAsciiLetter] := rfl
    rw [hparts] at h
    obtain ⟨middle, -, hlast⟩ := Pattern.exists_reads_of_reads_all_append h
    cases hlast with
    | seq hletters hempty =>
      cases hempty
      obtain ⟨c, before, hbefore, hc⟩ := Pattern.exists_last_of_reads_many1 hletters
      rw [hbefore]
      exact isWord_of_isAsciiWord (by simp [isAsciiWord, hc])

theorem Pattern.run_either {β : Type} (first second : Pattern) (cursor : Cursor) (captures : Captures)
    (next : Cursor → Captures → Option β) :
    (either first second).run cursor captures next =
      (first.run cursor captures next).or (second.run cursor captures next) := by
  rw [run]
  cases first.run cursor captures next <;> rfl

/-- What the path of an address is: nothing, or a text without white space that is as long as can be. A word ends
or starts behind it. -/
theorem exists_path_of_run {β : Type} {cursor : Cursor} {captures : Captures}
    {next : Cursor → Captures → Option β} (hnext : ∀ stop captures', next stop captures' ≠ none) {result : β}
    (h : (Pattern.all addressPath).run cursor captures next = some result) :
    ∃ path after, cursor.rest = path ++ after ∧ (∀ c ∈ path, isSpace c = false) ∧
      next ⟨path.reverse ++ cursor.before, after, cursor.position + path.length⟩ captures = some result ∧
      startsWord (path.reverse ++ cursor.before) ≠ startsWord after ∧
      (path = [] ∨ ∀ more after', after = more ++ after' → more ≠ [] → (∀ c ∈ more, isSpace c = false) →
        startsWord more.reverse = startsWord after') := by
  obtain ⟨before, rest, pos⟩ := cursor
  -- a boundary has to follow, with or without a path
  have hend : ∀ stop captures', (all [.boundary]).run stop captures' next =
      if stop.atBoundary then next stop captures' else none := fun stop captures' => rfl
  have hrun : (Pattern.all addressPath).run ⟨before, rest, pos⟩ captures next =
      ((chars ['/']).run ⟨before, rest, pos⟩ captures fun stop captures' =>
        (many fun c => !isSpace c).run stop captures' fun stop captures' =>
          (all [.boundary]).run stop captures' next).or
        ((all [.boundary]).run ⟨before, rest, pos⟩ captures next) :=
    run_either _ _ _ _ _
  rw [hrun, Option.or_eq_some_iff] at h
  rcases h with hpath | ⟨-, h⟩
  · rw [run_chars, Option.ite_none_right_eq_some] at hpath
    obtain ⟨⟨pathRest, rfl⟩, hpath⟩ := hpath
    obtain ⟨path, after, hsplit, hpathChars, hstop, hlonger⟩ := exists_longest_of_runMany hpath
    obtain rfl : pathRest = path ++ after := hsplit
    have hstop := (hend _ _).symm.trans hstop
    rw [Option.ite_none_right_eq_some] at hstop
    refine ⟨'/' :: path, after, rfl, ?_, ?_, ?_, .inr fun more after' hsplit hne hmore => ?_⟩
    · rw [forall_mem_cons]
      exact ⟨by decide, fun c hc => by simpa using hpathChars c hc⟩
    · simpa [Nat.add_assoc, Nat.add_comm 1] using hstop.2
    · simpa [Cursor.atBoundary, Cursor.parts, startsWord] using hstop.1
    · -- a boundary behind a longer path would have been taken
      have hnone := (hend _ _).symm.trans (hlonger more after' hsplit hne (by simpa using hmore))
      rw [ite_eq_right_iff] at hnone
      have hnot := fun hat => hnext _ _ (hnone hat)
      obtain ⟨last, front, hlast⟩ := exists_cons_of_ne_nil (reverse_ne_nil_iff.2 hne)
      simpa [Cursor.atBoundary, Cursor.parts, hlast, startsWord] using hnot
  · rw [hend, Option.ite_none_right_eq_some] at h
    exact ⟨[], rest, rfl, by simp, h.2, by simpa [Cursor.atBoundary, Cursor.parts, startsWord] using h.1, .inl rfl⟩

theorem isSpace_eq_false_of_isWord (h : isWord c) : isSpace c = false := by
  rw [← Bool.not_eq_true]
  intro hspace
  rw [isWord_eq_false_of_isSpace hspace] at h
  exact Bool.noConfusion h

/-- A path that is as long as can be does not end within a word: it would have gone on to the end of the word. -/
theorem startsWord_eq_false_of_longest
    (h : ∀ more after', after = more ++ after' → more ≠ [] → (∀ c ∈ more, isSpace c = false) → startsWord more.reverse = startsWord after') :
    startsWord after = false := by
  by_cases hne : after.takeWhile isWord = []
  · have hdrop := startsWord_dropWhile after
    rwa [← takeWhile_append_dropWhile (p := isWord) (l := after), hne]
  · have hwords : ∀ c ∈ after.takeWhile isWord, isWord c := fun c hc => mem_takeWhile_imp hc
    have hend := h _ _ takeWhile_append_dropWhile.symm hne fun c hc => isSpace_eq_false_of_isWord (hwords c hc)
    have hlast := IsName.startsWord_reverse ⟨hne, hwords⟩ []
    rw [append_nil] at hlast
    rw [hlast, startsWord_dropWhile] at hend
    exact Bool.noConfusion hend

/-- What the pattern for addresses matches: a text without white space that starts with the scheme, from the start of
a word to the end of one. If it has the escape character in it, it has a path, and there is no boundary farther on
before the next white space. -/
theorem matchAt_address_spec {cursor : Cursor} (h : addressPattern.matchAt cursor = some found) :
    ∃ after, cursor.rest = found.text ++ after ∧ "http".toList <+: found.text ∧ (∀ c ∈ found.text, isSpace c = false) ∧
      (escapeChar ∈ found.text → ∀ more after', after = more ++ after' → more ≠ [] →
        (∀ c ∈ more, isSpace c = false) → startsWord more.reverse = startsWord after') ∧
      startsWord cursor.before = false ∧ startsWord found.text.reverse ∧ startsWord after = false ∧
      HasScheme found.text := by
  rw [addressPattern_eq, Pattern.matchAt, Pattern.run_all_append] at h
  obtain ⟨host, hfront, htail⟩ := Pattern.exists_reads_of_run (by decide) h
  obtain ⟨front, hrest, hscheme, hplain, hstop, hbefore, hletter⟩ := exists_front_of_reads hfront
  obtain ⟨path, after, hpath, hpathChars, hfound, hboundary, hlonger⟩ := exists_path_of_run (by simp) htail
  have htext : found.text = front ++ path := by
    have hpos : host.position = cursor.position + front.length := by rw [hstop]
    simp only [Option.some.injEq] at hfound
    have hlength : host.position + path.length - cursor.position = (front ++ path).length := by
      rw [length_append]
      omega
    rw [← hfound, hrest, hpath, hlength, ← append_assoc, take_left]
  have hafter : startsWord after = false := by
    rcases hlonger with rfl | hlonger
    · simpa [hletter] using hboundary.symm
    · exact startsWord_eq_false_of_longest hlonger
  have hfoundScheme : HasScheme found.text := htext ▸ hscheme.append path
  refine ⟨after, ?_, hfoundScheme.http, ?_, fun hescape => ?_, hbefore, ?_, hafter, hfoundScheme⟩
  · rw [hrest, hpath, htext, append_assoc]
  · intro c hc
    rw [htext, mem_append] at hc
    exact hc.elim (fun hc => (hplain c hc).1) (hpathChars c)
  · refine hlonger.resolve_left fun hnil => ?_
    rw [htext, hnil, append_nil] at hescape
    exact (hplain _ hescape).2 rfl
  · -- the text ends where the path ends, and something was read before that
    have hend : startsWord (path.reverse ++ host.before) := by simpa [hafter] using hboundary
    have hne : found.text.reverse ≠ [] := by
      obtain ⟨tail, rfl⟩ := hscheme.http
      simp [htext]
    obtain ⟨c, rest, hlast⟩ := exists_cons_of_ne_nil hne
    rw [hstop, ← append_assoc, ← reverse_append, ← htext, hlast] at hend
    rw [hlast]
    exact hend

/-! ## Addresses among marks -/

theorem Pattern.exists_matchAt_of_mem_piecesFrom {p : Pattern} {skip : Nat} {pos : Nat}
    (h : .hit found ∈ p.piecesFrom skip before pos rest) :
    ∃ cursor : Cursor, cursor.before.reverse ++ cursor.rest = before.reverse ++ rest ∧
      p.matchAt cursor = some found := by
  fun_induction piecesFrom p skip before pos rest with
  | case1 skip before pos hit hhit =>
    obtain rfl : found = hit := by simpa using h
    exact ⟨_, rfl, hhit⟩
  | case2 => simp at h
  | case3 skip before pos c rest ih => simpa using ih h
  | case4 before pos c rest hit hhit hempty ih =>
    simp only [mem_cons, Piece.hit.injEq, reduceCtorEq, false_or] at h
    rcases h with rfl | h
    · exact ⟨_, rfl, hhit⟩
    · simpa using ih h
  | case5 before pos c rest hit hhit hempty ih =>
    simp only [mem_cons, Piece.hit.injEq] at h
    rcases h with rfl | h
    · exact ⟨_, rfl, hhit⟩
    · simpa using ih h
  | case6 before pos c rest hnone ih =>
    simp only [mem_cons, reduceCtorEq, false_or] at h
    simpa using ih h

/-- Where a character is no part of a style, marks can be split. -/
theorem exists_split_of_renderMarks {first : Char} (hlink : first ∉ Mark.link.render)
    (hreset : first ∉ Mark.reset.render) (h : renderMarks marks = before ++ first :: rest) :
    ∃ front back, marks = front ++ .char first :: back ∧ renderMarks back = rest := by
  induction marks generalizing before with
  | nil => simp at h
  | cons mark marks ih =>
    rw [renderMarks_cons, append_eq_append_iff] at h
    -- the character stands behind the first mark, or in it
    have hlater : ∀ before, renderMarks marks = before ++ first :: rest →
        ∃ front back, mark :: marks = front ++ .char first :: back ∧ renderMarks back = rest := by
      intro before hbefore
      obtain ⟨front, back, rfl, hback⟩ := ih hbefore
      exact ⟨mark :: front, back, rfl, hback⟩
    rcases h with ⟨between, -, hrest⟩ | ⟨begun, hmark, hrest⟩
    · exact hlater _ hrest
    · cases begun with
      | nil => exact hlater [] hrest.symm
      | cons c begun =>
        rw [cons_append] at hrest
        obtain ⟨rfl, rfl⟩ := hrest
        have hmem : first ∈ mark.render := by simp [hmark]
        cases mark with
        | char c =>
          cases before with
          | nil =>
            obtain ⟨rfl, rfl⟩ : c = first ∧ begun = [] := by simpa [Mark.render] using hmark
            exact ⟨[], marks, rfl, rfl⟩
          | cons d before => simp [Mark.render] at hmark
        | link => exact absurd hmem hlink
        | reset => exact absurd hmem hreset

/-- A text in front of a marked text consists of marks, or it ends inside of a style. -/
theorem exists_marks_of_prefix (h : renderMarks marks = text ++ after) :
    (∃ front back, marks = front ++ back ∧ text = renderMarks front) ∨
      ∃ front style back begun rest, marks = front ++ style :: back ∧ (∀ c, style ≠ .char c) ∧
        style.render = begun ++ rest ∧ begun ≠ [] ∧ rest ≠ [] ∧ text = renderMarks front ++ begun ∧
        after = rest ++ renderMarks back := by
  induction marks generalizing text with
  | nil =>
    have htext : text = [] := (append_eq_nil_iff.1 h.symm).1
    exact .inl ⟨[], [], rfl, htext⟩
  | cons mark marks ih =>
    rw [renderMarks_cons, append_eq_append_iff] at h
    rcases h with ⟨between, rfl, hrest⟩ | ⟨rest, hmark, hafter⟩
    · -- the text goes on behind the first mark
      rcases ih hrest with ⟨front, back, rfl, rfl⟩ |
        ⟨front, style, back, begun, rest, rfl, hstyle, hrender, hbegun, hne, rfl, rfl⟩
      · exact .inl ⟨mark :: front, back, rfl, by simp⟩
      · exact .inr ⟨mark :: front, style, back, begun, rest, rfl, hstyle, hrender, hbegun, hne, by simp, rfl⟩
    · by_cases htext : text = []
      · exact .inl ⟨[], mark :: marks, rfl, htext⟩
      by_cases hrest : rest = []
      · exact .inl ⟨[mark], marks, rfl, by simp [hmark, hrest]⟩
      refine .inr ⟨[], mark, marks, text, rest, rfl, ?_, hmark, htext, hrest, by simp, hafter⟩
      rintro c rfl
      -- a character cannot be cut in two
      rcases singleton_eq_append_iff.1 hmark with ⟨hnil, -⟩ | ⟨-, hnil⟩
      · exact htext hnil
      · exact hrest hnil

/-- What is left of a style and the word behind it could be the end of a path: it has no white space, and a
word ends there. -/
theorem startsWord_reverse_style {style : Mark} (hstyle : ∀ c, style ≠ .char c) {begun words : List Char}
    (hrender : style.render = begun ++ rest) (hne : rest ≠ []) (hwords : ∀ c ∈ words, isWord c) :
    startsWord (rest ++ words).reverse ∧ ∀ c ∈ rest ++ words, isSpace c = false := by
  have hlast : style.render.getLast? = some 'm' ∧ ∀ c ∈ style.render, isSpace c = false := by
    cases style with
    | char c => exact absurd rfl (hstyle c)
    | link => decide
    | reset => decide
  constructor
  · rw [reverse_append, startsWord, head?_append, head?_reverse, head?_reverse]
    have hrest : rest.getLast? = some 'm' := by
      have hend := hlast.1
      rw [hrender, getLast?_append, getLast?_eq_some_getLast hne, Option.some_or] at hend
      rw [getLast?_eq_some_getLast hne, hend]
    cases hword : words.getLast? with
    | none =>
      rw [hrest]
      decide
    | some c => simpa using hwords c (mem_of_getLast? hword)
  · intro c hc
    rcases mem_append.1 hc with hc | hc
    · exact hlast.2 c (by simp [hrender, hc])
    · exact isSpace_eq_false_of_isWord (hwords c hc)

theorem exists_matchAt_of_mem_findAddresses (h : address ∈ findAddresses text) :
    ∃ (cursor : Cursor) (found : Pattern.Match), cursor.before.reverse ++ cursor.rest = text ∧
      addressPattern.matchAt cursor = some found ∧ found.text = address := by
  obtain ⟨found, hfound, rfl⟩ := mem_map.1 h
  obtain ⟨piece, hpiece, hhit⟩ := mem_filterMap.1 hfound
  cases piece with
  | kept c => simp at hhit
  | hit other =>
    obtain rfl : other = found := by simpa using hhit
    obtain ⟨cursor, hcursor, hmatch⟩ := exists_matchAt_of_mem_piecesFrom hpiece
    exact ⟨cursor, other, by simpa using hcursor, hmatch, rfl⟩

/-- Every address in a marked text can be the text of a link. -/
theorem exists_marks_of_mem_findAddresses (hclean : AreClean marks) (h : address ∈ findAddresses (renderMarks marks)) :
    ∃ text, address = renderMarks text ∧ LinkState.IsLinkText text := by
  obtain ⟨cursor, found, hcursor, hmatch, rfl⟩ := exists_matchAt_of_mem_findAddresses h
  obtain ⟨after, hrest, ⟨tail, htail⟩, hsolid, hlongest, -⟩ := matchAt_address_spec hmatch
  -- an address starts at a character of the marked text
  have htext : found.text = 'h' :: ("ttp".toList ++ tail) := htail.symm
  have hplace : renderMarks marks = cursor.before.reverse ++ 'h' :: ("ttp".toList ++ tail ++ after) := by
    rw [← hcursor, hrest, htext, cons_append]
  obtain ⟨front, back, rfl, hback⟩ := exists_split_of_renderMarks (by decide) (by decide) hplace
  have hmarks : renderMarks (.char 'h' :: back) = found.text ++ after := by
    rw [renderMarks_cons, hback, htext]
    rfl
  rcases exists_marks_of_prefix hmarks with ⟨text, others, hsplit, haddress⟩ |
    ⟨inner, style, others, begun, rest, -, hstyle, hrender, hbegun, hne, haddress, hafter⟩
  · -- the address ends between marks
    rw [areClean_append, hsplit, areClean_append] at hclean
    refine ⟨text, haddress, hclean.2.1, ?_, ?_⟩
    · cases text with
      | nil => simp [haddress] at htext
      | cons mark text =>
        rw [cons_append, cons.injEq] at hsplit
        exact ⟨'h', text, by rw [hsplit.1], by decide⟩
    · refine LinkState.accepts_reset_of_solid (fun c hc => hsolid c ?_) (by simp)
      rw [haddress]
      exact mem_flatMap.2 ⟨_, hc, by simp [Mark.render]⟩
  · -- the address ends inside of a style, but then it could have gone on to the end of a word
    have hescape : escapeChar ∈ found.text := by
      obtain ⟨c, begun, rfl⟩ := exists_cons_of_ne_nil hbegun
      have hfirst : style.render.head? = some escapeChar := by
        cases style with
        | char c => exact absurd rfl (hstyle c)
        | link => decide
        | reset => decide
      rw [hrender, cons_append, head?_cons, Option.some.injEq] at hfirst
      simp [haddress, hfirst]
    have hwords : ∀ c ∈ (renderMarks others).takeWhile isWord, isWord c := fun c hc =>
      mem_takeWhile_imp hc
    obtain ⟨hword, hsolid'⟩ := startsWord_reverse_style hstyle hrender hne hwords
    have hrest : after = rest ++ (renderMarks others).takeWhile isWord ++ (renderMarks others).dropWhile isWord := by
      rw [append_assoc, takeWhile_append_dropWhile, hafter]
    have hboundary := hlongest hescape _ _ hrest (by simp [hne]) hsolid'
    rw [hword, startsWord_dropWhile] at hboundary
    exact Bool.noConfusion hboundary

/-! ## Marked messages -/

theorem accepts_plainMarks (text : List Char) : LinkState.outside.Accepts (plainMarks text) := by
  induction text with
  | nil => rfl
  | cons c text ih => exact LinkState.accepts_cons.2 ⟨_, rfl, ih⟩

/-- The texts that are put in link style in a message: the names of help topics, and the addresses that are found once
these are marked. -/
def linkTexts (text : List Char) : List (List Char) :=
  helpTopics.map (fun topic => topic.1.toList) ++
    findAddresses (helpTopics.foldl (fun t topic => markPiece t topic.1.toList) text)

theorem markLinks_eq (text : List Char) : markLinks text = (linkTexts text).foldl markPiece text := by
  rw [linkTexts, foldl_append, foldl_map]
  rfl

/-- A message with marked links is a sequence of marks that shows the message and can be read. A word is clear of the marks
if it overlaps no link. -/
theorem exists_marks_markLinks (h : escapeChar ∉ text) :
    ∃ marks, markLinks text = renderMarks marks ∧ AreClean marks ∧ marksText marks = text ∧
      LinkState.outside.Accepts marks ∧ ∀ word, (∀ piece, renderMarks piece ∈ linkTexts text →
        LinkState.IsLinkText piece → ¬Overlaps text (marksText piece) word) → Clear word [] marks := by
  have htopics : ∀ piece ∈ helpTopics.map fun topic => topic.1.toList,
      ∃ marks, piece = renderMarks marks ∧ LinkState.IsLinkText marks := by
    intro piece hpiece
    obtain ⟨topic, htopic, rfl⟩ := mem_map.1 hpiece
    exact ⟨plainMarks topic.1.toList, by simp, isLinkText_topic htopic⟩
  have hpieces : ∀ piece ∈ linkTexts text, ∃ marks, piece = renderMarks marks ∧ LinkState.IsLinkText marks := by
    obtain ⟨withTopics, hwritten, hclean, -⟩ :=
      exists_marks_foldl_markPiece htopics (plainMarks text) (areClean_plainMarks.2 h)
    rw [renderMarks_plainMarks, foldl_map] at hwritten
    rw [linkTexts, hwritten]
    exact forall_mem_append.2 ⟨htopics, fun address => exists_marks_of_mem_findAddresses hclean⟩
  obtain ⟨marked, hmarked, hclean, hshown, haccepts, hclear⟩ :=
    exists_marks_foldl_markPiece hpieces (plainMarks text) (areClean_plainMarks.2 h)
  rw [renderMarks_plainMarks] at hmarked
  rw [marksText_plainMarks] at hshown hclear
  exact ⟨marked, by rw [markLinks_eq, hmarked], hclean, hshown, haccepts _ (accepts_plainMarks text),
    fun word hapart => hclear word hapart (clear_plainMarks word [] text)⟩

theorem infix_of_mem_findAddresses (h : address ∈ findAddresses text) : address ≠ [] ∧ address <:+: text := by
  obtain ⟨cursor, found, hcursor, hmatch, rfl⟩ := exists_matchAt_of_mem_findAddresses h
  obtain ⟨after, hrest, ⟨tail, htail⟩, -⟩ := matchAt_address_spec hmatch
  refine ⟨by simp [← htail], cursor.before.reverse, after, ?_⟩
  rw [← hcursor, hrest, append_assoc]

/-- Marking a piece changes a text if the piece occurs in it, and then it brings in a style. -/
theorem escape_mem_markPiece {piece : List Char} (hne : piece ≠ []) (text : List Char) :
    escapeChar ∈ markPiece text piece ↔ escapeChar ∈ text ∨ piece <:+: text := by
  by_cases hoccurs : piece <:+: text
  · refine iff_of_true ?_ (.inr hoccurs)
    unfold markPiece
    -- the induction is along the occurrences, up to the first one
    induction text using replaceInduction hne with
    | nil => exact absurd (eq_nil_of_infix_nil hoccurs) hne
    | found text ih =>
      rw [replaceAll_append hne]
      exact mem_append_left _ (by simp [linkMark, Style.link, escapeChar])
    | kept c text hnot ih =>
      rw [replaceAll_cons hne hnot]
      exact mem_cons_of_mem _ (ih ((infix_cons_iff.1 hoccurs).resolve_left hnot))
  · rw [markPiece, replaceAll_eq_self hne hoccurs]
    simp [hoccurs]

/-- Marking pieces of which none occurs changes nothing. -/
theorem foldl_markPiece_eq_self (h : ∀ piece ∈ pieces, piece ≠ [] ∧ ¬piece <:+: text) :
    pieces.foldl markPiece text = text := by
  induction pieces with
  | nil => rfl
  | cons piece pieces ih =>
    rw [forall_mem_cons] at h
    rw [foldl_cons, markPiece, replaceAll_eq_self h.1.1 h.1.2, ih h.2]

theorem topicNames_ne_nil : ∀ name ∈ helpTopics.map fun topic => topic.1.toList, name ≠ [] := by
  decide +kernel

/-- A text that mentions no help topic is kept when topics are marked. -/
theorem foldl_topics_eq_self (h : ∀ topic ∈ helpTopics, ¬topic.1.toList <:+: text) :
    helpTopics.foldl (fun t topic => markPiece t topic.1.toList) text = text := by
  rw [← foldl_map (f := fun topic : String × Json => topic.1.toList)]
  refine foldl_markPiece_eq_self fun name hname => ⟨topicNames_ne_nil name hname, ?_⟩
  obtain ⟨topic, htopic, rfl⟩ := mem_map.1 hname
  exact h topic htopic

/-- Marking pieces one after another brings in a style if one of them occurs. -/
theorem escape_mem_foldl_markPiece (hne : ∀ piece ∈ pieces, piece ≠ []) (text : List Char) :
    escapeChar ∈ pieces.foldl markPiece text ↔ escapeChar ∈ text ∨ ∃ piece ∈ pieces, piece <:+: text := by
  induction pieces generalizing text with
  | nil => simp
  | cons piece pieces ih =>
    rw [forall_mem_cons] at hne
    rw [foldl_cons, ih hne.2, escape_mem_markPiece hne.1]
    by_cases hoccurs : piece <:+: text
    · simp [hoccurs]
    · rw [markPiece, replaceAll_eq_self hne.1 hoccurs]
      simp [hoccurs]

/-- A message is changed if it mentions a help topic or an address. -/
theorem escape_mem_markLinks_iff (h : escapeChar ∉ text) :
    escapeChar ∈ markLinks text ↔ (∃ topic ∈ helpTopics, topic.1.toList <:+: text) ∨ findAddresses text ≠ [] := by
  have haddresses : ∀ {text : List Char}, ∀ address ∈ findAddresses text, address ≠ [] ∧ address <:+: text :=
    fun address haddress => infix_of_mem_findAddresses haddress
  rw [markLinks, ← foldl_map (f := fun topic : String × Json => topic.1.toList),
    escape_mem_foldl_markPiece fun address haddress => (haddresses address haddress).1,
    escape_mem_foldl_markPiece topicNames_ne_nil]
  by_cases htopic : ∃ topic ∈ helpTopics, topic.1.toList <:+: text
  · obtain ⟨topic, hmem, hoccurs⟩ := htopic
    refine iff_of_true (.inl (.inr ⟨_, mem_map_of_mem hmem, hoccurs⟩)) (.inl ⟨topic, hmem, hoccurs⟩)
  · -- without topics, addresses are looked for in the text itself
    have hnone : ∀ topic ∈ helpTopics, ¬topic.1.toList <:+: text := fun topic hmem hoccurs =>
      htopic ⟨topic, hmem, hoccurs⟩
    rw [foldl_map, foldl_topics_eq_self hnone]
    constructor
    · rintro ((hescape | ⟨name, hname, hoccurs⟩) | ⟨address, haddress, -⟩)
      · exact absurd hescape h
      · obtain ⟨topic, hmem, rfl⟩ := mem_map.1 hname
        exact absurd hoccurs (hnone topic hmem)
      · exact .inr (ne_nil_of_mem haddress)
    · rintro (hoccurs | hfound)
      · exact absurd hoccurs htopic
      · obtain ⟨address, haddress⟩ := exists_mem_of_ne_nil _ hfound
        exact .inr ⟨address, haddress, (haddresses address haddress).2⟩

/-- Marking pieces brings in no character that is neither in the pieces nor in the styles. -/
theorem not_mem_foldl_markPiece (hlink : c ∉ Style.link.toList) (hreset : c ∉ Style.reset.toList)
    (hpieces : ∀ piece ∈ pieces, piece ≠ [] ∧ c ∉ piece) (htext : c ∉ text) : c ∉ pieces.foldl markPiece text := by
  induction pieces generalizing text with
  | nil => exact htext
  | cons piece pieces ih =>
    rw [forall_mem_cons] at hpieces
    refine ih hpieces.2 (not_mem_replaceAll hpieces.1.1 htext ?_)
    simp only [linkMark, mem_append, not_or]
    exact ⟨⟨hlink, hpieces.1.2⟩, hreset⟩

theorem return_not_mem_markLinks (h : '\r' ∉ text) : '\r' ∉ markLinks text := by
  have htopics : ∀ piece ∈ helpTopics.map fun topic => topic.1.toList, piece ≠ [] ∧ '\r' ∉ piece := by
    decide +kernel
  have hwith := not_mem_foldl_markPiece (by decide) (by decide) htopics h
  refine not_mem_foldl_markPiece (by decide) (by decide) (fun address haddress => ?_) hwith
  obtain ⟨hne, hinside⟩ := infix_of_mem_findAddresses haddress
  rw [foldl_map] at hwith
  exact ⟨hne, fun hmem => hwith (hinside.subset hmem)⟩

end StudioMigration
