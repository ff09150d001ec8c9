import StudioMigration.Pattern.Basic
import StudioMigration.Proofs.Text.Basic

/-!
# What a pattern reads

The run of a pattern tries one way after another. `Pattern.Reads` says what the ways are, for patterns that
remember nothing and look at nothing but the place where they stand.

* `exists_infix_of_lower` says where a word comes from that occurs in the lower-case form of a text, and
  `sameLetter_of_foldChar` that letters with one lower-case form are read alike.
* `exists_reads_of_run` says that a run that succeeds has read the pattern in one of these ways.
* `isSome_run_of_reads` says that a run succeeds if one of the ways lets its continuation succeed.
* `Spells.occursIn` says that a search succeeds if the pattern can read a part of the text.
* `exists_longest_of_runMany` says that a repetition gives back no more characters than it must.
-/

namespace StudioMigration

open List

variable {text : List Char}

namespace Text

variable {c : Char}

/-! ## Letters up to case -/

theorem toNat_ofNat_of_lt {n : Nat} (h : n < 0x80) : (Char.ofNat n).toNat = n := by
  have hvalid : n.isValidChar := Or.inl (by omega)
  rw [Char.ofNat, dif_pos hvalid]
  rfl

/-- A code that is no character stands for the null character. -/
theorem toNat_ofNat_eq_or (n : Nat) : (Char.ofNat n).toNat = n ∨ (Char.ofNat n).toNat = 0 := by
  by_cases hvalid : n.isValidChar
  · rw [Char.ofNat, dif_pos hvalid]
    exact .inl rfl
  · rw [Char.ofNat, dif_neg hvalid]
    exact .inr rfl

/-- The lower-case form of a letter above ASCII comes behind all characters that are no lower-case letters. -/
theorem lowerRuns_high {r : CaseRun} (h : r ∈ lowerRuns) : 0x60 < (r.first + r.shift : Int) := by
  have hall : ∀ r ∈ lowerRuns, 0x60 < (r.first + r.shift : Int) := by decide +kernel
  exact hall r h

/-- A character before the lower-case letters is the lower-case form of itself alone. -/
theorem eq_of_lowerChar_eq {d : Char} (hlow : 0 < d.toNat) (hhigh : d.toNat ≤ 0x60) (h : lowerChar c = d) : c = d := by
  unfold lowerChar at h
  split at h
  · rename_i hcapital
    simp only [Bool.and_eq_true, decide_eq_true_eq] at hcapital
    have hfrom : 0x41 ≤ c.toNat := hcapital.1
    have hto : c.toNat ≤ 0x5A := hcapital.2
    have hcode := toNat_ofNat_of_lt (n := c.toNat + 32) (by omega)
    rw [h] at hcode
    omega
  · split at h
    · exact h
    · split at h
      · rename_i r hr
        split at h
        · have hfound := find?_some hr
          simp only [Bool.and_eq_true, decide_eq_true_eq] at hfound
          have hrun := lowerRuns_high (mem_of_find?_eq_some hr)
          -- a shifted code is beyond `d`, and `d` is not the null character
          have hcode := toNat_ofNat_eq_or (Int.toNat (c.toNat + r.shift))
          rw [h] at hcode
          omega
        · exact h
      · exact h

theorem foldChar_of_ascii (h : c.toNat < 0x80) : foldChar c = lowerChar c := by
  rw [foldChar, if_neg (by simp; omega)]

theorem mem_kin (n : Nat) : n ∈ kin n := by
  unfold kin
  cases hfind : kindredLetters.find? (·.contains n) with
  | none => simp
  | some kindred => simpa using find?_some hfind

/-- Letters with one lower-case form are the same up to case. -/
theorem sameLetter_of_foldChar {letter : Char} (h : foldChar c = foldChar letter) : sameLetter letter c := by
  simpa [sameLetter, h] using mem_kin (foldChar letter).toNat

/-! ## Texts in lower case -/

/-- The first character of a text in lower case. Behind it there is more only if the text starts with a dotted
capital, and none of that is ASCII. -/
theorem exists_lowerFrom_cons (before rest : List Char) (c : Char) :
    ∃ first more, lowerFrom before (c :: rest) = first :: (more ++ lowerFrom (c :: before) rest) ∧
      (first = foldChar c ∨ 0x80 ≤ first.toNat) ∧ (∀ e ∈ more, 0x80 ≤ e.toNat) ∧ (more ≠ [] → first = 'i') := by
  have hfinal : 0x80 ≤ (Char.ofNat 0x3C2).toNat ∧ 0x80 ≤ (Char.ofNat 0x3C3).toNat := by decide
  rw [lowerFrom]
  by_cases hsigma : c.toNat = 0x3A3
  · rw [if_pos (by simp [hsigma])]
    split
    · exact ⟨_, [], rfl, .inr hfinal.1, by simp, by simp⟩
    · exact ⟨_, [], rfl, .inr hfinal.2, by simp, by simp⟩
  · rw [if_neg (by simp [hsigma])]
    by_cases hdotted : c.toNat = 0x130
    · rw [if_pos (by simp [hdotted])]
      exact ⟨'i', [Char.ofNat 0x307], rfl, .inl (by simp [foldChar, hdotted]), by simp, fun _ => rfl⟩
    · rw [if_neg (by simp [hdotted])]
      exact ⟨lowerChar c, [], rfl, .inl (by simp [foldChar, hdotted]), by simp, by simp⟩

theorem lower_of_ascii (h : ∀ c ∈ text, c.toNat < 0x80) : lower text = text.map foldChar := by
  have hfrom : ∀ before, lowerFrom before text = text.map foldChar := by
    induction text with
    | nil => exact fun _ => rfl
    | cons c text ih =>
      rw [forall_mem_cons] at h
      intro before
      have hsigma : c.toNat ≠ 0x3A3 := by omega
      have hdotted : c.toNat ≠ 0x130 := by omega
      simp [lowerFrom, hsigma, hdotted, foldChar, ih h.2]
  exact hfrom []

section Word

variable {word : List Char} (hascii : ∀ c ∈ word, c.toNat < 0x80) (hlast : word.getLast? ≠ some 'i')

include hascii hlast

/-- An ASCII word at the front of a lower-case form comes from the front of the text. Only an `i` at the end of
the word could be half of a dotted capital. -/
theorem exists_front_of_lowerFrom {before : List Char} (h : word <+: lowerFrom before text) :
    ∃ part after, text = part ++ after ∧ part.map foldChar = word ∧
      lowerFrom before text = word ++ lowerFrom (part.reverse ++ before) after := by
  induction text generalizing word before with
  | nil =>
    obtain rfl := prefix_nil.1 h
    exact ⟨[], [], rfl, rfl, rfl⟩
  | cons c rest ih =>
    cases word with
    | nil => exact ⟨[], c :: rest, rfl, rfl, rfl⟩
    | cons d word =>
      rw [forall_mem_cons] at hascii
      obtain ⟨first, more, heq, hfirst, hmore, hdotted⟩ := exists_lowerFrom_cons before rest c
      rw [heq, cons_prefix_cons] at h
      obtain ⟨rfl, h⟩ := h
      have hfold : d = foldChar c := hfirst.resolve_right (by omega)
      cases more with
      | nil =>
        have hlast' : word.getLast? ≠ some 'i' := by
          cases word with
          | nil => simp
          | cons e word => simpa using hlast
        obtain ⟨part, after, rfl, hpart, hafter⟩ := ih hascii.2 hlast' h
        refine ⟨c :: part, after, rfl, by rw [map_cons, hpart, hfold], ?_⟩
        rw [heq, hafter]
        simp
      | cons e more =>
        exfalso
        cases word with
        | nil => exact hlast (by rw [hdotted (by simp)]; rfl)
        | cons x word =>
          -- the next character of the word would be the dot
          have hx := hascii.2 x mem_cons_self
          have he := hmore e mem_cons_self
          rw [(cons_prefix_cons.1 h).1] at hx
          omega

/-- A text whose lower-case form is an ASCII word is that word up to case. -/
theorem map_foldChar_of_lower (h : lower text = word) : text.map foldChar = word := by
  have hfront : word <+: lowerFrom [] text := h ▸ prefix_refl _
  obtain ⟨part, after, rfl, hpart, hafter⟩ := exists_front_of_lowerFrom hascii hlast hfront
  rw [← lower, h] at hafter
  cases after with
  | nil => rw [append_nil, hpart]
  | cons c after =>
    obtain ⟨first, more, heq, -⟩ := exists_lowerFrom_cons (part.reverse ++ []) after c
    rw [heq] at hafter
    exact absurd hafter (by simp)

/-- An ASCII word in the lower-case form of a text comes from a part of the text. -/
theorem exists_infix_of_lower (hne : word ≠ []) (h : word <:+: lower text) :
    ∃ part, part <:+: text ∧ part.map foldChar = word := by
  have hfrom : ∀ before, word <:+: lowerFrom before text → ∃ part, part <:+: text ∧ part.map foldChar = word := by
    clear h
    induction text with
    | nil => exact fun _ h => absurd (infix_nil.1 h) hne
    | cons c rest ih =>
      intro before h
      obtain ⟨first, more, heq, -, hmore, -⟩ := exists_lowerFrom_cons before rest c
      rw [heq, infix_cons_iff, ← heq] at h
      rcases h with hstart | hinner
      · obtain ⟨part, after, heq, hpart, -⟩ := exists_front_of_lowerFrom hascii hlast hstart
        exact ⟨part, heq ▸ (prefix_append part after).isInfix, hpart⟩
      · -- what follows the first character of a lower-case form is no start of the word
        obtain ⟨d, tail, hword⟩ := exists_cons_of_ne_nil hne
        have hd : d ∉ more := by
          intro hmem
          have hlow := hascii d (hword ▸ mem_cons_self)
          have hhigh := hmore d hmem
          omega
        obtain ⟨part, hpart, heq⟩ := ih (c :: before) (infix_of_infix_append_of_head hword hd hinner)
        exact ⟨part, hpart.trans (suffix_cons c rest).isInfix, heq⟩
  exact hfrom [] h

end Word

end Text

namespace Pattern

variable {p : Pattern} {taken after before rest : List Char} {pos : Nat} {captures : Captures} {β : Type}

/-! ## Ways to read a pattern -/

/-- The ways to read a pattern from one place to another. -/
inductive Reads : Pattern → Cursor → Cursor → Prop
  | empty (cursor : Cursor) : Reads .empty cursor cursor
  | char {accepts : Char → Bool} {before : List Char} {c : Char} {rest : List Char} {pos : Nat} :
    accepts c → Reads (.char accepts) ⟨before, c :: rest, pos⟩ ⟨c :: before, rest, pos + 1⟩
  | many {accepts : Char → Bool} {before taken rest : List Char} {pos : Nat} :
    (∀ c ∈ taken, accepts c) → Reads (.many accepts) ⟨before, taken ++ rest, pos⟩
      ⟨taken.reverse ++ before, rest, pos + taken.length⟩
  | fewest {accepts : Char → Bool} {before taken rest : List Char} {pos : Nat} :
    (∀ c ∈ taken, accepts c) → Reads (.fewest accepts) ⟨before, taken ++ rest, pos⟩
      ⟨taken.reverse ++ before, rest, pos + taken.length⟩
  | place {holds : Cursor → Bool} {cursor : Cursor} : holds cursor → Reads (.place holds) cursor cursor
  | seq {first second : Pattern} {start middle stop : Cursor} :
    Reads first start middle → Reads second middle stop → Reads (.seq first second) start stop
  | either_first {first second : Pattern} {start stop : Cursor} :
    Reads first start stop → Reads (.either first second) start stop
  | either_second {first second : Pattern} {start stop : Cursor} :
    Reads second start stop → Reads (.either first second) start stop

/-- Whether a pattern remembers nothing and looks at nothing but the place where it stands. -/
def isPlain : Pattern → Bool
  | .empty | .char _ | .many _ | .fewest _ | .place _ => true
  | .seq first second | .either first second => first.isPlain && second.isPlain
  | _ => false

def canRead : Pattern → Char → Bool
  | .char accepts, c | .many accepts, c | .fewest accepts, c => accepts c
  | .seq first second, c | .either first second, c => first.canRead c || second.canRead c
  | _, _ => false

/-- Reading a pattern passes over characters that it can read, and over no others. -/
theorem Reads.exists_taken {start stop : Cursor} (h : p.Reads start stop) :
    ∃ taken, start.rest = taken ++ stop.rest ∧ (∀ c ∈ taken, p.canRead c) ∧
      stop = ⟨taken.reverse ++ start.before, stop.rest, start.position + taken.length⟩ := by
  induction h with
  | empty cursor => exact ⟨[], by simp⟩
  | @char accepts before c rest pos hc => exact ⟨[c], by simpa [canRead] using hc⟩
  | many htaken => exact ⟨_, rfl, htaken, rfl⟩
  | fewest htaken => exact ⟨_, rfl, htaken, rfl⟩
  | place _ => exact ⟨[], by simp⟩
  | seq _ _ ihfirst ihsecond =>
    obtain ⟨taken, hrest, hcan, hstop⟩ := ihfirst
    obtain ⟨more, hrest', hcan', hstop'⟩ := ihsecond
    refine ⟨taken ++ more, by rw [hrest, hrest', append_assoc], ?_, ?_⟩
    · intro c hc
      rcases mem_append.1 hc with hc | hc
      · simp [canRead, hcan c hc]
      · simp [canRead, hcan' c hc]
    · rw [hstop', hstop]
      simp [Nat.add_assoc]
  | either_first _ ih =>
    obtain ⟨taken, hrest, hcan, hstop⟩ := ih
    exact ⟨taken, hrest, fun c hc => by simp [canRead, hcan c hc], hstop⟩
  | either_second _ ih =>
    obtain ⟨taken, hrest, hcan, hstop⟩ := ih
    exact ⟨taken, hrest, fun c hc => by simp [canRead, hcan c hc], hstop⟩

/-! ## Repetitions -/

section Repetition

variable {accepts : Char → Bool} {next : Cursor → Option β}

theorem isSome_runMany (htaken : ∀ c ∈ taken, accepts c)
    (hnext : (next ⟨taken.reverse ++ before, after, pos + taken.length⟩).isSome) :
    (runMany accepts next before pos (taken ++ after)).isSome := by
  induction taken generalizing before pos with
  | nil =>
    cases after with
    | nil => simpa [runMany] using hnext
    | cons c rest =>
      simp only [nil_append, runMany]
      split
      · split
        · rfl
        · exact hnext
      · exact hnext
  | cons c taken ih =>
    rw [forall_mem_cons] at htaken
    have hrest : (runMany accepts next (c :: before) (pos + 1) (taken ++ after)).isSome := by
      refine ih htaken.2 ?_
      simpa [Nat.add_assoc, Nat.add_comm 1] using hnext
    simp only [cons_append, runMany, if_pos htaken.1]
    split
    · rfl
    · rename_i hnone
      simp [hnone] at hrest

theorem next_eq_none_of_runMany (htaken : ∀ c ∈ taken, accepts c)
    (h : runMany accepts next before pos (taken ++ after) = none) :
    next ⟨taken.reverse ++ before, after, pos + taken.length⟩ = none := by
  rw [← Option.not_isSome_iff_eq_none]
  intro hnext
  have hfound := isSome_runMany htaken hnext
  simp [h] at hfound

/-- A repetition that takes as much as it can goes on behind the longest run of characters that lets the rest
succeed: behind every longer run the rest fails. -/
theorem exists_longest_of_runMany {result : β} (h : runMany accepts next before pos rest = some result) :
    ∃ taken after, rest = taken ++ after ∧ (∀ c ∈ taken, accepts c) ∧
      next ⟨taken.reverse ++ before, after, pos + taken.length⟩ = some result ∧
      ∀ more after', after = more ++ after' → more ≠ [] → (∀ c ∈ more, accepts c) →
        next ⟨more.reverse ++ (taken.reverse ++ before), after', pos + taken.length + more.length⟩ = none := by
  induction rest generalizing before pos with
  | nil =>
    refine ⟨[], [], rfl, by simp, by simpa [runMany] using h, ?_⟩
    simp_all
  | cons c rest ih =>
    simp only [runMany] at h
    by_cases hc : accepts c
    · rw [if_pos hc] at h
      cases hrun : runMany accepts next (c :: before) (pos + 1) rest with
      | some found =>
        -- the run goes on behind `c`
        simp only [hrun] at h
        obtain ⟨taken, after, rfl, htaken, hnext, hlonger⟩ := ih (hrun.trans h)
        refine ⟨c :: taken, after, rfl, by simpa using ⟨hc, htaken⟩, ?_, ?_⟩
        · simpa [Nat.add_assoc, Nat.add_comm 1] using hnext
        · intro more after' hsplit hne hmore
          simpa [Nat.add_assoc, Nat.add_comm 1] using hlonger more after' hsplit hne hmore
      | none =>
        -- nothing behind `c` lets the rest succeed
        simp only [hrun] at h
        refine ⟨[], c :: rest, rfl, by simp, by simpa using h, ?_⟩
        intro more after' hsplit hne hmore
        obtain ⟨d, more, rfl⟩ := exists_cons_of_ne_nil hne
        rw [cons_append] at hsplit
        obtain ⟨rfl, rfl⟩ := hsplit
        rw [forall_mem_cons] at hmore
        simpa [Nat.add_assoc, Nat.add_comm 1] using next_eq_none_of_runMany hmore.2 hrun
    · rw [if_neg hc] at h
      refine ⟨[], c :: rest, rfl, by simp, by simpa using h, ?_⟩
      intro more after' hsplit hne hmore
      obtain ⟨d, more, rfl⟩ := exists_cons_of_ne_nil hne
      rw [cons_append, List.cons.injEq] at hsplit
      exact absurd (hsplit.1 ▸ hmore d mem_cons_self) hc

theorem isSome_runFewest (htaken : ∀ c ∈ taken, accepts c)
    (hnext : (next ⟨taken.reverse ++ before, after, pos + taken.length⟩).isSome) :
    (runFewest accepts next before pos (taken ++ after)).isSome := by
  induction taken generalizing before pos with
  | nil =>
    cases after with
    | nil => simpa [runFewest] using hnext
    | cons c rest =>
      simp only [nil_append, runFewest]
      split
      · rfl
      · rename_i hnone
        simp [hnone] at hnext
  | cons c taken ih =>
    rw [forall_mem_cons] at htaken
    simp only [cons_append, runFewest]
    split
    · rfl
    · rw [if_pos htaken.1]
      refine ih htaken.2 ?_
      simpa [Nat.add_assoc, Nat.add_comm 1] using hnext

theorem exists_taken_of_runFewest {result : β} (h : runFewest accepts next before pos rest = some result) :
    ∃ taken after, rest = taken ++ after ∧ (∀ c ∈ taken, accepts c) ∧
      next ⟨taken.reverse ++ before, after, pos + taken.length⟩ = some result := by
  induction rest generalizing before pos with
  | nil => exact ⟨[], [], rfl, by simp, by simpa [runFewest] using h⟩
  | cons c rest ih =>
    simp only [runFewest] at h
    split at h
    · rename_i found hfound
      exact ⟨[], c :: rest, rfl, by simp, by simpa [hfound] using h⟩
    · split at h
      · rename_i hc
        obtain ⟨taken, after, rfl, htaken, hnext⟩ := ih h
        refine ⟨c :: taken, after, rfl, by simpa using ⟨hc, htaken⟩, ?_⟩
        simpa [Nat.add_assoc, Nat.add_comm 1] using hnext
      · simp at h

end Repetition

/-! ## Runs -/

theorem exists_reads_of_run (hp : p.isPlain) {cursor : Cursor} {next : Cursor → Captures → Option β}
    {result : β} (h : p.run cursor captures next = some result) :
    ∃ stop, p.Reads cursor stop ∧ next stop captures = some result := by
  induction p generalizing cursor next with
  | empty => exact ⟨cursor, .empty cursor, by simpa [run] using h⟩
  | char accepts =>
    obtain ⟨before, rest, pos⟩ := cursor
    cases rest with
    | nil => simp [run] at h
    | cons c rest =>
      simp only [run, Option.ite_none_right_eq_some] at h
      exact ⟨_, .char h.1, h.2⟩
  | many accepts =>
    obtain ⟨before, rest, pos⟩ := cursor
    obtain ⟨taken, after, rfl, htaken, hnext, -⟩ := exists_longest_of_runMany h
    exact ⟨_, .many htaken, hnext⟩
  | fewest accepts =>
    obtain ⟨before, rest, pos⟩ := cursor
    obtain ⟨taken, after, rfl, htaken, hnext⟩ := exists_taken_of_runFewest h
    exact ⟨_, .fewest htaken, hnext⟩
  | place holds =>
    simp only [run, Option.ite_none_right_eq_some] at h
    exact ⟨cursor, .place h.1, h.2⟩
  | seq first second ihfirst ihsecond =>
    simp only [isPlain, Bool.and_eq_true] at hp
    obtain ⟨middle, hfirst, hmiddle⟩ := ihfirst hp.1 h
    obtain ⟨stop, hsecond, hstop⟩ := ihsecond hp.2 hmiddle
    exact ⟨stop, hfirst.seq hsecond, hstop⟩
  | either first second ihfirst ihsecond =>
    simp only [isPlain, Bool.and_eq_true] at hp
    simp only [run] at h
    split at h
    · rename_i found hfound
      obtain ⟨stop, hfirst, hstop⟩ := ihfirst hp.1 (hfound.trans h)
      exact ⟨stop, hfirst.either_first, hstop⟩
    · obtain ⟨stop, hsecond, hstop⟩ := ihsecond hp.2 h
      exact ⟨stop, hsecond.either_second, hstop⟩
  | group | times | firstWay | again | look | avoid | ifGroup => simp [isPlain] at hp

/-- A run succeeds if the pattern can be read in a way that lets the rest succeed. -/
theorem isSome_run_of_reads {start stop : Cursor} (h : p.Reads start stop) {next : Cursor → Captures → Option β}
    (hnext : (next stop captures).isSome) : (p.run start captures next).isSome := by
  induction h generalizing next with
  | empty cursor => simpa [run] using hnext
  | char hc => simpa [run, hc] using hnext
  | many htaken => exact isSome_runMany htaken hnext
  | fewest htaken => exact isSome_runFewest htaken hnext
  | place hholds => simpa [run, hholds] using hnext
  | seq _ _ ihfirst ihsecond => exact ihfirst (ihsecond hnext)
  | either_first _ ih =>
    obtain ⟨found, hfound⟩ := Option.isSome_iff_exists.1 (ih hnext)
    simp [run, hfound]
  | either_second _ ih =>
    simp only [run]
    split
    · rfl
    · exact ih hnext

/-! ## Searches -/

theorem isSome_searchFrom {skipped : List Char}
    (h : (p.matchAt ⟨skipped.reverse ++ before, rest, pos + skipped.length⟩).isSome) :
    (p.searchFrom before pos (skipped ++ rest)).isSome := by
  induction skipped generalizing before pos with
  | nil =>
    cases rest with
    | nil => simpa [searchFrom] using h
    | cons c rest =>
      obtain ⟨found, hfound⟩ := Option.isSome_iff_exists.1 h
      have hmatch : p.matchAt ⟨before, c :: rest, pos⟩ = some found := hfound
      simp [searchFrom, hmatch]
  | cons c skipped ih =>
    rw [cons_append, searchFrom]
    split
    · rfl
    · refine ih ?_
      simpa [Nat.add_assoc, Nat.add_comm 1] using h

/-- A pattern can read a text, whatever stands before and behind it. -/
def Spells (p : Pattern) (text : List Char) : Prop :=
  ∀ before rest pos, p.Reads ⟨before, text ++ rest, pos⟩
    ⟨text.reverse ++ before, rest, pos + text.length⟩

theorem Spells.occursIn {part : List Char} (h : p.Spells part) (hpart : part <:+: text) : p.occursIn text := by
  obtain ⟨skipped, rest, rfl⟩ := hpart
  rw [append_assoc]
  exact isSome_searchFrom (isSome_run_of_reads (h _ rest _) rfl)

theorem spells_empty : empty.Spells [] := fun _ _ _ => .empty _

theorem Spells.seq {q : Pattern} {more : List Char} (hp : p.Spells text) (hq : q.Spells more) :
    (seq p q).Spells (text ++ more) := by
  intro before rest pos
  have hfirst := hp before (more ++ rest) pos
  have hsecond := hq (text.reverse ++ before) rest (pos + text.length)
  rw [append_assoc, reverse_append, append_assoc, length_append, ← Nat.add_assoc]
  exact .seq hfirst hsecond

theorem spells_char {accepts : Char → Bool} {c : Char} (h : accepts c) : (char accepts).Spells [c] :=
  fun _ _ _ => .char h

theorem spells_many {accepts : Char → Bool} (h : ∀ c ∈ text, accepts c) :
    (many accepts).Spells text := fun _ _ _ => .many h

theorem spells_fewest {accepts : Char → Bool} (h : ∀ c ∈ text, accepts c) :
    (fewest accepts).Spells text := fun _ _ _ => .fewest h

theorem spells_anyCase {s : String} (h : text.map Text.foldChar = s.toList.map Text.foldChar) :
    (anyCase s).Spells text := by
  unfold anyCase all
  generalize s.toList = letters at h
  induction letters generalizing text with
  | nil =>
    obtain rfl := map_eq_nil_iff.1 h
    exact spells_empty
  | cons letter letters ih =>
    obtain ⟨c, text, rfl, hc, htext⟩ := map_eq_cons_iff.1 h
    exact (spells_char (Text.sameLetter_of_foldChar hc)).seq (ih htext)

/-! ## Parts in a row -/

theorem run_all_append (parts more : List Pattern) (cursor : Cursor) (captures : Captures)
    (next : Cursor → Captures → Option β) :
    (all (parts ++ more)).run cursor captures next =
      (all parts).run cursor captures fun stop captures' => (all more).run stop captures' next := by
  induction parts generalizing cursor captures with
  | nil => simp [all, run]
  | cons part parts ih =>
    simp only [all, cons_append, foldr_cons, run] at ih ⊢
    congr
    funext stop captures'
    exact ih stop captures'

end Pattern

end StudioMigration
