import StudioMigration.Analysis.ProjectFile
import StudioMigration.Proofs.Pattern.Reading
import StudioMigration.Proofs.Pattern.WordMatch

/-!
# Versions in project files

A version in a line is two runs of decimal digits, and only their length can keep it from being read.

* `Pattern.exists_of_run_group` says what a group around a run of characters captures.
* `Text.readNat_of_isDecimal` says what runs of digits are read as.
* `isOk_versionIn_iff` says when the version in a line can be read.
-/

namespace StudioMigration

open List Pattern Captures

/-! ## Runs of characters in a group -/

namespace Pattern

variable {β : Type} {accepts : Char → Bool} {number : Nat} {cursor : Cursor} {captures : Captures}
  {next : Cursor → Captures → Option β} {result : β}

/-- A group around a run of characters captures the run, and other groups keep what they captured. -/
theorem exists_of_run_group (h : (group number (many1 accepts)).run cursor captures next = some result) :
    ∃ taken stop captures', taken ≠ [] ∧ (∀ c ∈ taken, accepts c) ∧ next stop captures' = some result ∧
      captures'.text? number = some taken ∧
      ∀ other, other ≠ number → captures'.text? other = captures.text? other := by
  obtain ⟨before, rest, pos⟩ := cursor
  simp only [run, many1] at h
  cases rest with
  | nil => simp at h
  | cons c rest =>
    by_cases hc : accepts c
    · simp only [hc, if_true] at h
      obtain ⟨taken, after, rfl, htaken, hnext, -⟩ := exists_longest_of_runMany h
      refine ⟨c :: taken, _, _, by simp, ?_, hnext, ?_, fun other hother => ?_⟩
      · rw [forall_mem_cons]
        exact ⟨hc, htaken⟩
      · simp [leave, Captures.enter, latest?, text?, Capture.text?, Nat.add_assoc, Nat.add_comm 1]
      · simp [leave, Captures.enter, latest?, text?, Ne.symm hother]
    · simp [hc] at h

theorem run_seq (first second : Pattern) (cursor : Cursor) (captures : Captures)
    (next : Cursor → Captures → Option β) : (seq first second).run cursor captures next =
      first.run cursor captures fun stop captures' => second.run stop captures' next := rfl

theorem exists_matchAt_of_search {p : Pattern} {text : List Char} {found : Match} (h : p.search text = some found) :
    ∃ cursor, p.matchAt cursor = some found := by
  unfold search at h
  generalize ([] : List Char) = before at h
  generalize 0 = pos at h
  induction text generalizing before pos with
  | nil => exact ⟨_, h⟩
  | cons c rest ih =>
    simp only [searchFrom] at h
    split at h
    · rename_i first hfirst
      exact ⟨_, hfirst.trans h⟩
    · exact ih _ _ h

end Pattern

/-! ## Numbers -/

namespace Text

theorem isSpace_eq_false_of_isDecimal {c : Char} (h : isDecimal c) : isSpace c = false := by
  -- no white space is in the table of digits
  have hall : ∀ n ∈ spaceCodes, isDecimal (Char.ofNat n) = false := by decide +kernel
  rw [Bool.eq_false_iff]
  intro hspace
  have hdecimal := hall _ (toNat_mem_spaceCodes hspace)
  rw [Char.ofNat_toNat, h] at hdecimal
  exact absurd hdecimal (by decide)

theorem takeDigits_of_isDecimal (afterDigit : Bool) {text : List Char} (h : ∀ c ∈ text, isDecimal c) :
    takeDigits afterDigit text = (text.filterMap decimalValue?, []) ∧
      (text.filterMap decimalValue?).length = text.length := by
  induction text generalizing afterDigit with
  | nil => exact ⟨rfl, rfl⟩
  | cons c rest ih =>
    rw [forall_mem_cons] at h
    obtain ⟨digit, hdigit⟩ := Option.isSome_iff_exists.1 h.1
    obtain ⟨hdigits, hlength⟩ := ih true h.2
    simp [takeDigits, hdigit, hdigits, hlength]

/-- Digits are read as a number unless there are too many of them. -/
theorem readNat_of_isDecimal {text : List Char} (hne : text ≠ []) (h : ∀ c ∈ text, isDecimal c) :
    readNat text = if maxDigits < text.length then .error (.tooLong text.length)
      else .ok (ofDigits (text.filterMap decimalValue?)) := by
  have hsolid : ∀ c ∈ text, (!isSpace c) := fun c hc => by simp [isSpace_eq_false_of_isDecimal (h c hc)]
  have htrim : trim text = text := by
    apply trim_eq_self
    · rw [head?_eq_some_head hne]
      exact hsolid _ (head_mem hne)
    · rw [getLast?_eq_some_getLast hne]
      exact hsolid _ (getLast_mem hne)
  obtain ⟨hdigits, hlength⟩ := takeDigits_of_isDecimal false h
  have hfull : text.filterMap decimalValue? ≠ [] := by
    rwa [ne_eq, ← length_eq_zero_iff, hlength, length_eq_zero_iff]
  have hread : readInt text = if maxDigits < text.length then .error (.tooLong text.length)
      else .ok (ofDigits (text.filterMap decimalValue?) : Int) := by
    rw [← hlength]
    obtain ⟨c, rest, rfl⟩ := exists_cons_of_ne_nil hne
    -- a digit is no sign
    have hminus : c ≠ '-' := by
      rintro rfl
      exact absurd (h '-' mem_cons_self) (by decide)
    have hplus : c ≠ '+' := by
      rintro rfl
      exact absurd (h '+' mem_cons_self) (by decide)
    simp only [readInt, htrim]
    simp [hminus, hplus, hfull, hdigits]
  rw [readNat, hread]
  split <;> rfl

theorem isOk_readNat_iff {text : List Char} (hne : text ≠ []) (h : ∀ c ∈ text, isDecimal c) :
    (readNat text).isOk ↔ text.length ≤ maxDigits := by
  rw [readNat_of_isDecimal hne h]
  split
  · rename_i hlong
    simp [Except.isOk, Except.toBool, Nat.not_le.2 hlong]
  · rename_i hshort
    simp [Except.isOk, Except.toBool, Nat.not_lt.1 hshort]

end Text

/-! ## Versions -/

/-- The numbers of a version are runs of digits. -/
theorem isDecimal_of_matchAt_packageVersion {cursor : Cursor} {found : Pattern.Match}
    (h : packageVersionPattern.matchAt cursor = some found) :
    (found.group 1 ≠ [] ∧ ∀ c ∈ found.group 1, Text.isDecimal c) ∧
      found.group 2 ≠ [] ∧ ∀ c ∈ found.group 2, Text.isDecimal c := by
  have hrun : (seq (.chars "Version=\"".toList) (.seq (.group 1 (.many1 Text.isDecimal))
      (.seq (.chars ".".toList) (.seq (.group 2 (.many1 Text.isDecimal)) .empty)))).run cursor []
        (fun stop captures => some (⟨cursor.rest.take (stop.position - cursor.position), captures⟩ : Pattern.Match)) =
      some found := h
  rw [run_seq, run_chars] at hrun
  split at hrun
  · rw [run_seq] at hrun
    obtain ⟨major, stop, captures, hmajor, hdigits, hrun, hcaptured, -⟩ := exists_of_run_group hrun
    rw [run_seq, run_chars] at hrun
    split at hrun
    · rw [run_seq] at hrun
      obtain ⟨minor, stop', captures', hminor, hdigits', hrun, hcaptured', hkept⟩ := exists_of_run_group hrun
      obtain rfl : ⟨_, captures'⟩ = found := Option.some.inj hrun
      simp only [Pattern.Match.group, hkept 1 (by decide), hcaptured, hcaptured', Option.getD_some]
      exact ⟨⟨hmajor, hdigits⟩, hminor, hdigits'⟩
    · simp at hrun
  · simp at hrun

/-- Whether the numbers of the version in a line, if there is one, have no more digits than can be read. -/
def versionFits (line : List Char) : Bool :=
  (packageVersionPattern.search line).all fun found =>
    (found.group 1).length ≤ Text.maxDigits && (found.group 2).length ≤ Text.maxDigits

/-- Only numbers with too many digits keep the version in a line from being read. -/
theorem isOk_versionIn_iff (line : List Char) : (versionIn line).isOk ↔ versionFits line := by
  cases hsearch : packageVersionPattern.search line with
  | none => simp [versionIn, versionFits, hsearch, Except.isOk, Except.toBool]
  | some found =>
    obtain ⟨cursor, hmatch⟩ := exists_matchAt_of_search hsearch
    obtain ⟨⟨hmajor, hdigits⟩, hminor, hdigits'⟩ := isDecimal_of_matchAt_packageVersion hmatch
    have hfirst := Text.isOk_readNat_iff hmajor hdigits
    have hsecond := Text.isOk_readNat_iff hminor hdigits'
    simp only [versionIn, versionFits, hsearch, Option.all_some, Bool.and_eq_true, decide_eq_true_eq, ← hfirst,
      ← hsecond]
    cases Text.readNat (found.group 1) with
    | error flaw => simp [Except.isOk, Except.toBool]
    | ok major =>
      cases Text.readNat (found.group 2) with
      | error flaw => simp [Except.isOk, Except.toBool]
      | ok minor => simp [Except.isOk, Except.toBool]

end StudioMigration
